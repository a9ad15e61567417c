import OmecUpf.Pfcpiface.Messages

/-!
# Who holds a TEID

The UPF allocates a TEID when a PDR's F-TEID asks it to choose one (`parseFTEID`), and a PDR of
the same session with the same CHOOSE ID reuses it. TEIDs are freed in two places: the removal
of a PDR in a modification, and `releaseAllocatedTEIDs` in a deletion. Neither looks at whether
the UPF allocated the TEID or whether another PDR still holds it, and a session that leaves the
store on another path (a datapath rejection, a report answered with "context not found", a
shutdown) frees nothing.

* `HeldTeidsMarked`: every TEID a PDR of a stored session was given by the UPF is marked used.
  `MarkedTeidsHeld`: every TEID marked used is held by such a PDR.
* `marksUsed_releaseAllocatedTEIDs`: a deletion frees exactly the TEIDs of the session's PDRs.
* `shutdown_releases_nothing`, `handleSessionReportResponse_contextNotFound`: the other ways
  out of the store free no TEID and no UE address.
* **`removePDR_frees_shared_teid`**: the two PDRs of one CHOOSE ID share a TEID, and removing one
  frees it while the other still holds it.
* **`rejected_establishment_keeps_teid`**: an establishment the datapath rejects keeps the TEID
  it allocated.
* **`shutdown_leaks_teid`**: after a shutdown the store is empty and the TEID still marked.
-/

namespace Pfcpiface

open Go

/-- Every TEID that a PDR of a stored session got from the UPF is marked used. -/
def HeldTeidsMarked (c : PFCPConn) : Prop :=
  ∀ e ∈ c.store.entries, ∀ p ∈ e.2.pdrs, p.allocTEIDFlag = true →
    c.upf.teidAllocator.MarksUsed p.tunnelTEID

instance : DecidablePred HeldTeidsMarked := fun c =>
  inferInstanceAs (Decidable (∀ e ∈ c.store.entries, ∀ p ∈ e.2.pdrs, _))

/-- Every TEID marked used is held by a PDR of a stored session that got it from the UPF. -/
def MarkedTeidsHeld (c : PFCPConn) : Prop :=
  ∀ teid, c.upf.teidAllocator.MarksUsed teid →
    ∃ e ∈ c.store.entries, ∃ p ∈ e.2.pdrs, p.allocTEIDFlag = true ∧ p.tunnelTEID = teid

/-! ## What each way out of the store releases -/

theorem marksUsed_foldl_free (g : IDAllocator) (pdrs : List Pdr) (id : UInt32) :
    (pdrs.foldl (fun g pdr => g.free pdr.tunnelTEID) g).MarksUsed id ↔
      g.MarksUsed id ∧ ∀ p ∈ pdrs, id ≠ p.tunnelTEID := by
  induction pdrs generalizing g with
  | nil => simp
  | cons p pdrs ih =>
    rw [List.foldl_cons, ih, IDAllocator.marksUsed_free]
    simp only [List.mem_cons, forall_eq_or_imp]
    constructor
    · rintro ⟨⟨hu, hne⟩, hrest⟩
      exact ⟨hu, hne, hrest⟩
    · rintro ⟨hu, hne, hrest⟩
      exact ⟨⟨hu, hne⟩, hrest⟩

/-- **A deletion frees the TEIDs of its session**, exactly those, whoever else holds them. -/
theorem marksUsed_releaseAllocatedTEIDs (g : IDAllocator) (session : PFCPSession) (id : UInt32) :
    (releaseAllocatedTEIDs g session).MarksUsed id ↔
      g.MarksUsed id ∧ ∀ p ∈ session.pdrs, id ≠ p.tunnelTEID :=
  marksUsed_foldl_free g session.pdrs id

/-- The loop of `Shutdown` over any list of sessions changes neither the TEID allocator nor the
UE pool. -/
theorem foldl_shutdown_upf (c : PFCPConn) (l : List (Sigma fun _ : UInt64 => PFCPSession)) :
    (l.foldl (fun c e =>
        let (_, upf) := c.upf.sendMsgToUPF .del e.2 {}
        ({ c with upf } : PFCPConn).removeSession e.2) c).upf.teidAllocator =
      c.upf.teidAllocator ∧
    (l.foldl (fun c e =>
        let (_, upf) := c.upf.sendMsgToUPF .del e.2 {}
        ({ c with upf } : PFCPConn).removeSession e.2) c).upf.ippool = c.upf.ippool := by
  induction l generalizing c with
  | nil => exact ⟨rfl, rfl⟩
  | cons e l ih =>
    rw [List.foldl_cons]
    obtain ⟨h1, h2⟩ := ih (({ c with upf := (c.upf.sendMsgToUPF .del e.2 {}).2 } : PFCPConn).removeSession e.2)
    exact ⟨h1.trans (Upf.sendMsgToUPF_teidAllocator _ _ _ _), h2.trans (Upf.sendMsgToUPF_ippool _ _ _ _)⟩

/-- **`Shutdown` releases nothing**: every TEID and UE address stays allocated. -/
theorem shutdown_releases_nothing (c : PFCPConn) :
    c.shutdown.upf.teidAllocator = c.upf.teidAllocator ∧ c.shutdown.upf.ippool = c.upf.ippool :=
  foldl_shutdown_upf c c.store.entries

/-- **A report answered with "session context not found"** removes the session and deletes it
from the datapath, and releases neither its TEIDs nor its UE address. -/
theorem handleSessionReportResponse_contextNotFound (c : PFCPConn) (srres : SessionReportResponse)
    (rest : List UInt8) (hcause : srres.cause = some (causeSessionContextNotFound :: rest))
    (s : PFCPSession) (hs : c.store.lookup srres.seid = some s) :
    ∃ r c', (PFCPConn.handleSessionReportResponse srres).exec c = .ok (r, c') ∧
      c'.upf.teidAllocator = c.upf.teidAllocator ∧ c'.upf.ippool = c.upf.ippool ∧
      c'.store = c.store.erase s.localSEID := by
  unfold PFCPConn.handleSessionReportResponse
  simp only [Mut.exec_bind, hcause, deref, Mut.exec_ofAbort, Except.map, index_zero_cons,
    if_neg (show causeSessionContextNotFound ≠ causeRequestAccepted by decide), if_true,
    Mut.exec_get, hs, Mut.exec_modify, exec_sendMsgToUPF]
  -- whatever the datapath answers, the session is gone and nothing was released
  split
  · exact ⟨_, _, rfl, rfl, rfl, rfl⟩
  · exact ⟨_, _, rfl, rfl, rfl, rfl⟩

/-! ## Runs that lose track of a TEID -/

/-- A UPF as `NewUPF` starts it, with access address `10.0.0.1`, core address `10.0.0.2` and
no UE pool, over a datapath that answers `answer`. -/
def sampleUpf (answer : Nat → UInt8) : Upf :=
  { accessIP := [10, 0, 0, 1], coreIP := [10, 0, 0, 2], ippool := none,
    teidAllocator := NewIDAllocator 1 0xFFFFFFFF, datapath := { answer } }

/-- A new connection over `sampleUpf answer`, whose random source draws `1, 2, 3, …`. -/
def sampleConn (answer : Nat → UInt8) : PFCPConn :=
  PFCPConn.init (sampleUpf answer) fun n => (n + 1).toUInt64

theorem reachable_sampleConn (answer : Nat → UInt8) : Reachable (sampleConn answer) :=
  Reachable.init _ _ rfl

/-- A property that a run from `sampleConn answer` is evaluated to have holds of a reachable
connection. -/
theorem exists_reachable_of_run (answer : Nat → UInt8) (es : List Event) {P : PFCPConn → Prop}
    [DecidablePred P] (h : ((sampleConn answer).run es).map (fun c => decide (P c)) = .ok true) :
    ∃ c, Reachable c ∧ P c := by
  obtain ⟨c, hc, hP⟩ := exists_ok_of_map_decide h
  exact ⟨c, (reachable_sampleConn answer).run hc, hP⟩

/-- A message whose handling after a run from `sampleConn` was evaluated to succeed with `Q`
succeeds with `Q` from a reachable connection. -/
theorem exists_reachable_handle_of_run (answer : Nat → UInt8) (es : List Event) (m : Msg)
    {Q : PFCPConn → (Option Reply × Option Error) × PFCPConn → Prop}
    [∀ c, DecidablePred (Q c)]
    (h : ((sampleConn answer).run es).map (fun c =>
      decide ((c.handlePFCPMsg m).map (fun rc => decide (Q c rc)) = .ok true)) = .ok true) :
    ∃ c, Reachable c ∧ ∃ r c', c.handlePFCPMsg m = .ok (r, c') ∧ Q c (r, c') := by
  obtain ⟨c, hc, hmsg⟩ := exists_reachable_of_run answer es h
  obtain ⟨⟨r, c'⟩, hrc, hQ⟩ := exists_ok_of_map_decide hmsg
  exact ⟨c, hc, r, c', hrc, hQ⟩

/-- The association of the SMF `smf`. -/
def smfAssociation : Event := .message (.associationSetupRequest { nodeID := some "smf" })

/-- An uplink Create PDR whose F-TEID asks the UPF to choose the TEID, under CHOOSE ID 1. -/
def chooseIDPdr (pdrID : UInt16) : PdrIE :=
  { pdrID := some pdrID, precedence := some 0,
    pdi := some [.sourceInterface (some srcInterfaceAccess),
                 .fteid (some { flags := 0x0C, chooseID := 1 })],
    farID := some 1 }

/-- An establishment of two PDRs under CHOOSE ID 1, from the SMF with F-SEID `7`. -/
def chooseIDEstablishment : SessionEstablishmentRequest :=
  { nodeID := some "smf", cpFSEID := some { seid := 7, ipv4Address := [10, 0, 0, 9] },
    createPDR := [chooseIDPdr 1, chooseIDPdr 2] }

/-- The run: association, the establishment (whose session gets the local SEID `1`), and a
modification that removes PDR 2. -/
def removeSharingPdrRun : List Event :=
  [smfAssociation, .message (.sessionEstablishmentRequest chooseIDEstablishment),
   .message (.sessionModificationRequest { seid := 1, removePDR := [some 2] })]

/-- **Removing a PDR frees a TEID another PDR holds.** Both PDRs of CHOOSE ID 1 hold TEID 1;
removing PDR 2 frees it, and the stored PDR 1 keeps a TEID that the allocator counts as free. -/
theorem removePDR_frees_shared_teid : ∃ c, Reachable c ∧ ¬ HeldTeidsMarked c :=
  exists_reachable_of_run (fun _ => causeRequestAccepted) removeSharingPdrRun (by decide +kernel)

/-- **A rejected establishment keeps its TEID.** The datapath rejects the rules of an
establishment: the handler answers with a rejection and the session is not stored, but the TEID
parsing allocated stays marked. -/
theorem rejected_establishment_keeps_teid :
    ∃ c, Reachable c ∧ ∃ r c', c.handlePFCPMsg (.sessionEstablishmentRequest chooseIDEstablishment)
      = .ok (r, c') ∧ r.1 = some (.session { cause := causeRequestRejected, seid := 7 }) ∧
      c'.store.entries = c.store.entries ∧
      ¬ c.upf.teidAllocator.MarksUsed 1 ∧ c'.upf.teidAllocator.MarksUsed 1 := by
  -- the establishment is evaluated on the connection after the association
  have hrun : ((sampleConn fun _ => causeRequestRejected).run [smfAssociation]).map (fun c =>
      decide ((c.handlePFCPMsg (.sessionEstablishmentRequest chooseIDEstablishment)).map
        (fun rc => decide (rc.1.1 = some (.session { cause := causeRequestRejected, seid := 7 }) ∧
          rc.2.store.entries = c.store.entries ∧
          ¬ c.upf.teidAllocator.MarksUsed 1 ∧ rc.2.upf.teidAllocator.MarksUsed 1)) = .ok true)) =
      .ok true := by
    decide +kernel
  exact exists_reachable_handle_of_run _ _ _ hrun

/-- **A shutdown leaks the TEIDs of its sessions.** After an accepted establishment and a
shutdown, the store is empty while TEID 1 is still marked used. -/
theorem shutdown_leaks_teid : ∃ c, Reachable c ∧ ¬ MarkedTeidsHeld c := by
  have hrun : ((sampleConn fun _ => causeRequestAccepted).run
      [smfAssociation, .message (.sessionEstablishmentRequest chooseIDEstablishment), .shutdown]).map
      (fun c => decide (c.store.entries = [] ∧ c.upf.teidAllocator.MarksUsed 1)) = .ok true := by
    decide +kernel
  obtain ⟨c, hc, hstore, hused⟩ := exists_reachable_of_run _ _ hrun
  refine ⟨c, hc, fun h => ?_⟩
  -- TEID 1 is marked, yet no stored session is left to hold it
  obtain ⟨e, he, -⟩ := h 1 hused
  rw [hstore] at he
  cases he

end Pfcpiface
