import OmecUpf.Pfcpiface.Panics

/-!
# The session QER, as the handlers mark it

The session QER of a session is the QER of its AMBR: named by every PDR, without a guaranteed
bit rate, and of the largest uplink MBR among those (`SessionQosMarked`). `MarkSessionQer`
looks for it, and the handlers call it twice: on `session.Qers`, and on the `addQERs` they
sent or will send to the datapath.

* `markSearched`: what `MarkSessionQer` returns once past its early returns;
  `MarkSessionQer_eq_markSearched` says when that is.
* `MarkSessionQer_marks_candidate`: with a candidate in the search list, a candidate of largest
  uplink MBR is marked. `MarkSessionQer_marks_first`: without one, the first QER is marked
  whatever its GBR.
* `Qer.parseQER_qosLevel`: a parsed QER is an application QER.
* **`gbr_qer_marked_session_qos`**: an establishment whose two QERs both have a GBR stores the
  first one as the session QER.
* `SentQersMarked`: every QER sent to the datapath has the QoS level of the stored QER of its
  ID. **`modification_sends_unmarked_qer`**: a modification sends its created QERs before it
  marks them.
-/

namespace Pfcpiface

open Go

/-- A QER that may be the session QER: every PDR of the session names it, and it has no GBR. -/
def IsSessionQerCandidate (s : PFCPSession) (q : Qer) : Prop :=
  (∀ p ∈ s.pdrs, q.qerID ∈ p.qerIDList) ∧ q.ulGbr = 0 ∧ q.dlGbr = 0

instance (s : PFCPSession) (q : Qer) : Decidable (IsSessionQerCandidate s q) :=
  inferInstanceAs (Decidable (_ ∧ _ ∧ _))

/-- The session QER as the design means it: at most one QER is marked, and a marked QER is a
candidate of the largest uplink MBR. -/
def SessionQosMarked (s : PFCPSession) : Prop :=
  s.qers.countP (·.qosLevel == .sessionQos) ≤ 1 ∧
  ∀ q ∈ s.qers, q.qosLevel = .sessionQos →
    IsSessionQerCandidate s q ∧ ∀ q' ∈ s.qers, IsSessionQerCandidate s q' → q'.ulMbr ≤ q.ulMbr

instance : DecidablePred SessionQosMarked := fun s =>
  inferInstanceAs (Decidable (_ ∧ ∀ q ∈ s.qers, _))

/-- A marked QER with an uplink GBR is not the session QER. -/
theorem not_sessionQosMarked_of_ulGbr {s : PFCPSession} {q : Qer} (hq : q ∈ s.qers)
    (hlevel : q.qosLevel = .sessionQos) (hgbr : q.ulGbr ≠ 0) : ¬ SessionQosMarked s :=
  fun h => hgbr (h.2 q hq hlevel).1.2.1

/-! ## What the search marks -/

/-- The session and the QERs `MarkSessionQer` returns after the search over the list `L`. -/
def markSearched (s : PFCPSession) (qers : List Qer) (L : List UInt32) : PFCPSession × List Qer :=
  let (sessionIdx, _, sessQerID) := sessionQerSearch L qers 0 (0, 0, 0)
  ({ s with pdrs := s.pdrs.map fun p => { p with qerIDList := moveToEnd sessQerID p.qerIDList } },
   qers.modify sessionIdx fun q => { q with qosLevel := .sessionQos })

/-- `MarkSessionQer` searches when the last PDR names a QER, two QERs are passed, and no
intersection is empty. -/
theorem MarkSessionQer_eq_markSearched {s : PFCPSession} {p : Pdr} {qers : List Qer}
    {L : List UInt32} (hlast : s.pdrs.getLast? = some p) (hne : p.qerIDList ≠ [])
    (h2 : 2 ≤ qers.length) (hL : intersectPdrs s.pdrs p.qerIDList = some L) :
    s.MarkSessionQer qers = .ok (markSearched s qers L) := by
  have hsmall : ¬ (p.qerIDList.length < 1 ∨ qers.length < 2) := by
    have := List.length_pos_iff.mpr hne
    omega
  unfold PFCPSession.MarkSessionQer
  rw [index_getLast hlast]
  simp only [bind, Except.bind, if_neg hsmall, hL]
  rfl

theorem markSearched_candidate (s : PFCPSession) (qers : List Qer) (L : List UInt32)
    (hc : ∃ q ∈ qers, IsSessionCandidate L q) :
    ∃ i, ∃ hi : i < qers.length,
      (markSearched s qers L).2 = qers.modify i (fun q => { q with qosLevel := .sessionQos }) ∧
      IsSessionCandidate L qers[i] ∧
      ∀ q ∈ qers, IsSessionCandidate L q → q.ulMbr ≤ qers[i].ulMbr := by
  rcases sessionQerSearch_spec L qers with ⟨i, hi, hr, hcand, hmax⟩ | ⟨hnone, -⟩
  · exact ⟨i, hi, by simp only [markSearched, hr], hcand, hmax⟩
  · obtain ⟨q, hq, hcq⟩ := hc
    exact absurd hcq (hnone q hq)

theorem markSearched_fallback (s : PFCPSession) (qers : List Qer) (L : List UInt32)
    (hnone : ∀ q ∈ qers, ¬ IsSessionCandidate L q) :
    (markSearched s qers L).2 = qers.modify 0 (fun q => { q with qosLevel := .sessionQos }) := by
  rcases sessionQerSearch_spec L qers with ⟨i, hi, -, hcand, -⟩ | ⟨-, hr⟩
  · exact absurd hcand (hnone _ (List.getElem_mem hi))
  · simp only [markSearched, hr]

section Search

variable {s : PFCPSession} {p : Pdr} {qers : List Qer} {L : List UInt32}
  (hlast : s.pdrs.getLast? = some p) (hne : p.qerIDList ≠ []) (h2 : 2 ≤ qers.length)
  (hL : intersectPdrs s.pdrs p.qerIDList = some L)
include hlast hne h2 hL

/-- **A candidate is found when there is one**: the QER marked is a candidate of the search
list with the largest uplink MBR. -/
theorem MarkSessionQer_marks_candidate (hc : ∃ q ∈ qers, IsSessionCandidate L q) :
    ∃ s' i, ∃ hi : i < qers.length,
      s.MarkSessionQer qers = .ok (s', qers.modify i fun q => { q with qosLevel := .sessionQos }) ∧
      IsSessionCandidate L qers[i] ∧
      ∀ q ∈ qers, IsSessionCandidate L q → q.ulMbr ≤ qers[i].ulMbr := by
  obtain ⟨i, hi, hmark, hcand, hmax⟩ := markSearched_candidate s qers L hc
  refine ⟨(markSearched s qers L).1, i, hi, ?_, hcand, hmax⟩
  rw [MarkSessionQer_eq_markSearched hlast hne h2 hL, ← hmark]

/-- **Without a candidate, the first QER is marked**, whatever its GBR: the search keeps its
initial index `0`. -/
theorem MarkSessionQer_marks_first (hnone : ∀ q ∈ qers, ¬ IsSessionCandidate L q) :
    ∃ s', s.MarkSessionQer qers =
      .ok (s', qers.modify 0 fun q => { q with qosLevel := .sessionQos }) := by
  refine ⟨(markSearched s qers L).1, ?_⟩
  rw [MarkSessionQer_eq_markSearched hlast hne h2 hL, ← markSearched_fallback s qers L hnone]

end Search

/-- `parseQER` builds an application QER; only `MarkSessionQer` marks one. -/
theorem Qer.parseQER_qosLevel {ie : QerIE} {seid : UInt64} {q : Qer}
    (h : Qer.parseQER ie seid = .ok q) : q.qosLevel = .applicationQos := by
  unfold Qer.parseQER at h
  cases hid : ie.qerID with
  | none => simp only [hid, fromIE] at h; cases h
  | some id =>
    simp only [hid, fromIE] at h
    cases h
    rfl

/-! ## A session QER with a GBR -/

/-- An uplink PDR `1` that names the QERs `1` and `2`. -/
def twoQerPdr : PdrIE :=
  { pdrWithPdi [.sourceInterface (some srcInterfaceAccess)] with qerIDs := some [some 1, some 2] }

/-- An establishment of `twoQerPdr` with the QERs `1` and `2`, both with an uplink GBR. -/
def gbrQersEstablishment : SessionEstablishmentRequest :=
  { smfEstablishment 7 [twoQerPdr] with
    createQER := [{ qerID := some 1, gbrUL := 1000 }, { qerID := some 2, gbrUL := 1000 }] }

/-- **A QER with a GBR is marked the session QER.** Neither QER is a candidate, so the search
falls back to index `0` and the stored session has QER 1, with its GBR, as session QER. -/
theorem gbr_qer_marked_session_qos : ∃ c, Reachable c ∧ ∃ e ∈ c.store.entries,
    ¬ SessionQosMarked e.2 ∧ ∃ q ∈ e.2.qers, q.qosLevel = .sessionQos ∧ q.ulGbr ≠ 0 := by
  have hrun : ((sampleConn fun _ => causeRequestAccepted).run
      [smfAssociation, .message (.sessionEstablishmentRequest gbrQersEstablishment)]).map
      (fun c => decide (∃ e ∈ c.store.entries,
        ∃ q ∈ e.2.qers, q.qosLevel = .sessionQos ∧ q.ulGbr ≠ 0)) = .ok true := by
    decide +kernel
  obtain ⟨c, hc, e, he, q, hq, hlevel, hgbr⟩ := exists_reachable_of_run _ _ hrun
  exact ⟨c, hc, e, he,
    not_sessionQosMarked_of_ulGbr hq hlevel hgbr, q, hq, hlevel, hgbr⟩

/-! ## What the datapath is told -/

/-- Every QER of the rules of a call has the QoS level of the QER of its ID in the session that
the connection stores under the call's local SEID. -/
def SentQersMarked (c : PFCPConn) (call : DatapathCall) : Prop :=
  ∀ q ∈ call.rules.qers, ∀ s ∈ c.store.lookup call.session.localSEID, ∀ q' ∈ s.qers,
    q'.qerID = q.qerID → q'.qosLevel = q.qosLevel

instance (c : PFCPConn) (call : DatapathCall) : Decidable (SentQersMarked c call) :=
  inferInstanceAs (Decidable (∀ q ∈ call.rules.qers, _))

/-- A modification of session `1` that creates the QERs `1` and `2`, of uplink MBR 10 and 20. -/
def qerModification : SessionModificationRequest :=
  { seid := 1, createQER := [{ qerID := some 1, mbrUL := 10 }, { qerID := some 2, mbrUL := 20 }] }

/-- **A modification sends its QERs unmarked.** The created QERs go to the datapath in the Add
before `MarkSessionQer` runs: the modification is accepted and stores QER 2 as the session
QER, while the datapath was given QER 2 as an application QER. -/
theorem modification_sends_unmarked_qer : ∃ c, Reachable c ∧ ∃ r c',
    c.handlePFCPMsg (.sessionModificationRequest qerModification) = .ok (r, c') ∧
    r.1 = some (.session { cause := causeRequestAccepted, seid := 7 }) ∧
    ∃ call ∈ c'.upf.datapath.calls.drop c.upf.datapath.calls.length, ¬ SentQersMarked c' call := by
  have hrun : ((sampleConn fun _ => causeRequestAccepted).run
      [smfAssociation, .message (.sessionEstablishmentRequest (smfEstablishment 7 [twoQerPdr]))]).map
      (fun c => decide ((c.handlePFCPMsg (.sessionModificationRequest qerModification)).map
        (fun rc => decide (rc.1.1 = some (.session { cause := causeRequestAccepted, seid := 7 }) ∧
          ∃ call ∈ rc.2.upf.datapath.calls.drop c.upf.datapath.calls.length,
            ¬ SentQersMarked rc.2 call)) = .ok true)) = .ok true := by
    decide +kernel
  exact exists_reachable_handle_of_run _ _ _ hrun

end Pfcpiface
