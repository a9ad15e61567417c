import OmecUpf.Pfcpiface.Rules

/-!
# Marking the session QER

`PFCPSession.MarkSessionQer` (`session_qer.go`) looks for the QER that every PDR of the session
names, the session AMBR, and marks it `SessionQos`. It starts from the QER list of the last PDR
(`s.Pdrs[len(s.Pdrs)-1]`, which panics for a session without PDRs), intersects it with the list
of every PDR, then picks among the QERs passed in the one with zero GBR and the largest uplink
MBR, and moves its ID to the end of every PDR's list. The QER slice is written in place: the
handlers pass `session.Qers` and their own `addQERs`, so the model returns both the session and
the QER list.

* `contains`, `Intersect`, `findItemIndex`; `intersectPdrs`: the intersection loop, whose
  `copy` keeps stale IDs past the length of the intersection.
* `searchStep`, `sessionQerSearch`: the loop over the QERs; `moveToEnd`.
* `PFCPSession.MarkSessionQer`.
* `sessionQerSearch_spec`: the loop picks a candidate with the largest uplink MBR, and falls back
  to index `0` when there is none.
* **`MarkSessionQer_pdrs`**: marking changes no PDR but for the order of its QER list, which it
  permutes, and changes the QER list only in the QoS level of one QER.
* `MarkSessionQer_nil`: a session without PDRs panics.
-/

namespace Pfcpiface

open Go

def contains (a : List UInt32) (val : UInt32) : Bool := a.any fun x => val == x

/-- `Intersect(a, b)`: the elements of `a` that are in `b`, in the order of `a`. -/
def Intersect (a b : List UInt32) : List UInt32 := a.filter fun x => contains b x

/-- The index of the first `val`, or `len(slice)`. -/
def findItemIndex (slice : List UInt32) (val : UInt32) : Nat := slice.idxOf val

/-- The loop `for i := range s.Pdrs` of `MarkSessionQer`: `none` where an intersection is
empty (the `return`), and otherwise the search list after every PDR. `copy` writes the
intersection over the front of the search list and leaves the rest. -/
def intersectPdrs : List Pdr → List UInt32 → Option (List UInt32)
  | [], sessQerIDList => some sessQerIDList
  | p :: pdrs, sessQerIDList =>
    let sList := Intersect sessQerIDList p.qerIDList
    if sList.length = 0 then none else intersectPdrs pdrs (copy sessQerIDList sList)

/-- What the loop over the QERs keeps: `sessionIdx`, `sessionMbr`, `sessQerID`. -/
abbrev SearchAcc := Nat × UInt64 × UInt32

/-- One iteration of the loop over the QERs, at `qers[idx]`. -/
def searchStep (sessQerIDList : List UInt32) (idx : Nat) (qer : Qer) (acc : SearchAcc) :
    SearchAcc :=
  if contains sessQerIDList qer.qerID then
    -- a QER with a guaranteed bit rate is skipped (`continue`)
    if qer.ulGbr > 0 || qer.dlGbr > 0 then acc
    else if qer.ulMbr ≥ acc.2.1 then (idx, qer.ulMbr, qer.qerID) else acc
  else acc

/-- `for idx, qer := range qers`, from index `idx` with the accumulator `acc`. -/
def sessionQerSearch (sessQerIDList : List UInt32) : List Qer → Nat → SearchAcc → SearchAcc
  | [], _, acc => acc
  | qer :: qers, idx, acc =>
    sessionQerSearch sessQerIDList qers (idx + 1) (searchStep sessQerIDList idx qer acc)

/-- Remove the first `id` of a PDR's QER list (`append(l[:idx], l[idx+1:]...)`) and append it. -/
def moveToEnd (id : UInt32) (l : List UInt32) : List UInt32 :=
  let idx := findItemIndex l id
  if idx ≠ l.length then l.eraseIdx idx ++ [id] else l

/-- `s.MarkSessionQer(qers)`: the session and the QER slice as the call leaves them. -/
def PFCPSession.MarkSessionQer (s : PFCPSession) (qers : List Qer) :
    Except Abort (PFCPSession × List Qer) := do
  let lastPdr ← Go.index s.pdrs ((s.pdrs.length : Int) - 1)
  let sessQerIDList := lastPdr.qerIDList
  if sessQerIDList.length < 1 ∨ qers.length < 2 then return (s, qers)
  match intersectPdrs s.pdrs sessQerIDList with
  | none => return (s, qers)
  | some sessQerIDList =>
    let (sessionIdx, _, sessQerID) := sessionQerSearch sessQerIDList qers 0 (0, 0, 0)
    let qers := qers.modify sessionIdx fun q => { q with qosLevel := .sessionQos }
    let pdrs := s.pdrs.map fun p => { p with qerIDList := moveToEnd sessQerID p.qerIDList }
    return ({ s with pdrs }, qers)

/-! ## The search for the session QER -/

@[simp] theorem contains_iff (a : List UInt32) (val : UInt32) : contains a val = true ↔ val ∈ a := by
  unfold contains
  rw [List.any_eq_true]
  simp only [beq_iff_eq]
  exact ⟨fun ⟨x, hx, he⟩ => he ▸ hx, fun h => ⟨val, h, rfl⟩⟩

/-- A QER that `MarkSessionQer` may pick: named in the search list, with zero GBR. -/
def IsSessionCandidate (sessQerIDList : List UInt32) (q : Qer) : Prop :=
  q.qerID ∈ sessQerIDList ∧ q.ulGbr = 0 ∧ q.dlGbr = 0

instance (sessQerIDList : List UInt32) (q : Qer) : Decidable (IsSessionCandidate sessQerIDList q) :=
  inferInstanceAs (Decidable (_ ∧ _ ∧ _))

theorem searchStep_eq (L : List UInt32) (idx : Nat) (qer : Qer) (acc : SearchAcc) :
    searchStep L idx qer acc =
      if IsSessionCandidate L qer ∧ acc.2.1 ≤ qer.ulMbr then (idx, qer.ulMbr, qer.qerID)
      else acc := by
  have hgbr : (qer.ulGbr > 0 || qer.dlGbr > 0) = true ↔ ¬ (qer.ulGbr = 0 ∧ qer.dlGbr = 0) := by
    simp only [Bool.or_eq_true, decide_eq_true_eq, gt_iff_lt]
    constructor
    · rintro (h | h) ⟨h1, h2⟩
      · exact absurd h (by rw [h1]; exact UInt64.lt_irrefl 0)
      · exact absurd h (by rw [h2]; exact UInt64.lt_irrefl 0)
    · intro h
      by_cases h1 : qer.ulGbr = 0
      · exact .inr (UInt64.pos_iff_ne_zero.mpr fun h2 => h ⟨h1, h2⟩)
      · exact .inl (UInt64.pos_iff_ne_zero.mpr h1)
  unfold searchStep IsSessionCandidate
  by_cases hc : qer.qerID ∈ L <;> by_cases hz : qer.ulGbr = 0 ∧ qer.dlGbr = 0 <;>
    simp_all

/-- **The search loop.** From `idx` and an accumulator that names a QER `q₀` whose uplink MBR it
holds, the loop ends naming the last candidate of largest uplink MBR, if that MBR is at least
`q₀`'s, and otherwise keeps the accumulator. Stated over the QERs still to visit. -/
theorem sessionQerSearch_cases (L : List UInt32) (qers : List Qer) (idx : Nat) (acc : SearchAcc) :
    sessionQerSearch L qers idx acc = acc ∧ (∀ q ∈ qers, IsSessionCandidate L q → q.ulMbr < acc.2.1)
    ∨ ∃ i, ∃ h : i < qers.length, sessionQerSearch L qers idx acc =
        (idx + i, qers[i].ulMbr, qers[i].qerID) ∧ IsSessionCandidate L qers[i] ∧
        acc.2.1 ≤ qers[i].ulMbr ∧ ∀ q ∈ qers, IsSessionCandidate L q → q.ulMbr ≤ qers[i].ulMbr := by
  induction qers generalizing idx acc with
  | nil => exact .inl ⟨rfl, by simp⟩
  | cons qer qers ih =>
    rw [sessionQerSearch, searchStep_eq]
    by_cases hq : IsSessionCandidate L qer ∧ acc.2.1 ≤ qer.ulMbr
    · -- the head is taken; the rest either keeps it or moves to a later, larger one
      rw [if_pos hq]
      rcases ih (idx + 1) (idx, qer.ulMbr, qer.qerID) with ⟨hr, hlt⟩ | ⟨i, hi, hr, hc, hge, hmax⟩
      · refine .inr ⟨0, by simp, by simpa using hr, hq.1, hq.2, ?_⟩
        intro q hmem hcq
        rcases List.mem_cons.mp hmem with rfl | hmem
        · exact UInt64.le_refl _
        · exact UInt64.le_of_lt (hlt q hmem hcq)
      · refine .inr ⟨i + 1, by simp [hi], by simpa [Nat.add_assoc, Nat.add_comm 1 i] using hr,
          by simpa using hc, UInt64.le_trans hq.2 (by simpa using hge), ?_⟩
        intro q hmem hcq
        rcases List.mem_cons.mp hmem with rfl | hmem
        · simpa using hge
        · simpa using hmax q hmem hcq
    · -- the head is skipped: a candidate with a smaller MBR than the accumulator
      rw [if_neg hq]
      have hhead : IsSessionCandidate L qer → qer.ulMbr < acc.2.1 := fun hc =>
        UInt64.not_le.mp fun hle => hq ⟨hc, hle⟩
      rcases ih (idx + 1) acc with ⟨hr, hlt⟩ | ⟨i, hi, hr, hc, hge, hmax⟩
      · refine .inl ⟨hr, ?_⟩
        intro q hmem hcq
        rcases List.mem_cons.mp hmem with rfl | hmem
        · exact hhead hcq
        · exact hlt q hmem hcq
      · refine .inr ⟨i + 1, by simp [hi], by simpa [Nat.add_assoc, Nat.add_comm 1 i] using hr,
          by simpa using hc, hge, ?_⟩
        intro q hmem hcq
        rcases List.mem_cons.mp hmem with rfl | hmem
        · exact UInt64.le_of_lt (UInt64.lt_of_lt_of_le (hhead hcq) hge)
        · simpa using hmax q hmem hcq

/-- What the loop of `MarkSessionQer` finds: a candidate of largest uplink MBR when there is
one, and otherwise index `0` and QER ID `0`. -/
theorem sessionQerSearch_spec (L : List UInt32) (qers : List Qer) :
    (∃ i, ∃ h : i < qers.length, sessionQerSearch L qers 0 (0, 0, 0) =
        (i, qers[i].ulMbr, qers[i].qerID) ∧ IsSessionCandidate L qers[i] ∧
        ∀ q ∈ qers, IsSessionCandidate L q → q.ulMbr ≤ qers[i].ulMbr) ∨
      ((∀ q ∈ qers, ¬ IsSessionCandidate L q) ∧ sessionQerSearch L qers 0 (0, 0, 0) = (0, 0, 0)) := by
  rcases sessionQerSearch_cases L qers 0 (0, 0, 0) with ⟨hr, hlt⟩ | ⟨i, hi, hr, hc, -, hmax⟩
  · -- no MBR is below zero, so no candidate was passed over
    exact .inr ⟨fun q hq hc => UInt64.not_lt_zero (hlt q hq hc), hr⟩
  · exact .inl ⟨i, hi, by simpa using hr, hc, hmax⟩

/-! ## What marking changes -/

/-- Moving an ID to the end permutes the list. -/
theorem moveToEnd_perm (id : UInt32) (l : List UInt32) : (moveToEnd id l).Perm l := by
  unfold moveToEnd findItemIndex
  dsimp only
  split_ifs with h
  · have hlt : l.idxOf id < l.length := Nat.lt_of_le_of_ne List.idxOf_le_length h
    have hget : l[l.idxOf id] = id := List.getElem_idxOf hlt
    refine (List.perm_append_singleton _ _).trans ?_
    nth_rewrite 1 [← hget]
    exact List.getElem_cons_eraseIdx_perm hlt
  · exact List.Perm.refl l

/-- **What `MarkSessionQer` changes.** It panics only for a session without PDRs. Otherwise
every PDR keeps everything but the order of its QER list, and the QER list changes at most in
the QoS level of the QER at one index. -/
theorem MarkSessionQer_pdrs {s s' : PFCPSession} {qers qers' : List Qer}
    (h : s.MarkSessionQer qers = .ok (s', qers')) :
    s' = { s with pdrs := s'.pdrs } ∧
    List.Forall₂ (fun p' p => p' = { p with qerIDList := p'.qerIDList } ∧
      p'.qerIDList.Perm p.qerIDList) s'.pdrs s.pdrs ∧
    ∃ idx, qers' = (qers.modify idx fun q => { q with qosLevel := .sessionQos }) ∨
      qers' = qers := by
  -- a call that returns early leaves both as they were
  have hsame : List.Forall₂ (fun p' p => p' = { p with qerIDList := p'.qerIDList } ∧
      p'.qerIDList.Perm p.qerIDList) s.pdrs s.pdrs :=
    List.forall₂_same.mpr fun _ _ => ⟨rfl, List.Perm.refl _⟩
  unfold PFCPSession.MarkSessionQer at h
  cases hidx : Go.index s.pdrs ((s.pdrs.length : Int) - 1) with
  | error a => rw [hidx] at h; cases h
  | ok lastPdr =>
    rw [hidx] at h
    dsimp only [bind, Except.bind] at h
    split_ifs at h with hsmall
    · cases h
      exact ⟨rfl, hsame, 0, .inr rfl⟩
    · split at h
      · cases h
        exact ⟨rfl, hsame, 0, .inr rfl⟩
      · cases h
        refine ⟨rfl, ?_, _, .inl rfl⟩
        exact List.forall₂_map_left_iff.mpr
          (List.forall₂_same.mpr fun p _ => ⟨rfl, moveToEnd_perm _ _⟩)

/-- A session without PDRs makes `MarkSessionQer` read `s.Pdrs[-1]`. -/
theorem MarkSessionQer_nil {s : PFCPSession} (hs : s.pdrs = []) (qers : List Qer) :
    s.MarkSessionQer qers = .error (.panic (.indexOutOfRange (-1) 0)) := by
  unfold PFCPSession.MarkSessionQer
  rw [hs, index_nil]
  rfl

end Pfcpiface
