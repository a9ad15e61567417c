import OmecUpf.Pfcpiface.Teid

/-!
# Messages that panic the agent

Nothing on the message path of the agent recovers a panic, so one message that makes a handler
index out of range or follow a nil pointer ends the process. Each panic below rests on an
assumption about the message that the handler never checks.

* `newPFCPSession_pdrs`: a new session has no PDRs.
* `handleSessionEstablishmentRequest_without_rules`: an establishment without Create IEs makes
  `MarkSessionQer` read `s.Pdrs[-1]`.
* `handleSessionModificationRequest_without_pdrs`: so does any modification, without Create
  PDR IEs, of a session whose PDRs were all removed.
* `parseUEAddressIE_nil_pool`: a UE IP Address IE that asks for allocation, without a UE pool.
* `handleSessionReportResponse_nil_cause`: a report response without a Cause IE.
* **`handlePFCPMsg_panics`**: from one reachable connection over a UPF without UE pool
  (`enable_ue_ip_alloc` off), each of these, and an establishment whose SDF filter ends after its
  source, ends `HandlePFCPMsg` in a Go runtime panic.
-/

namespace Pfcpiface

open Go

theorem newSessionLoop_pdrs (rseid : UInt64) (n : Nat) (c : PFCPConn) {s : PFCPSession}
    (h : (PFCPConn.newSessionLoop rseid n c).1 = some s) : s.pdrs = [] := by
  induction n generalizing c with
  | zero => cases h
  | succ n ih =>
    simp only [PFCPConn.newSessionLoop] at h
    split_ifs at h
    · exact ih _ h
    · cases h
      rfl

/-- A session from `NewPFCPSession` has no PDRs yet. -/
theorem newPFCPSession_pdrs (c : PFCPConn) (rseid : UInt64) {s : PFCPSession}
    (h : (c.newPFCPSession rseid).1 = some s) : s.pdrs = [] :=
  newSessionLoop_pdrs rseid c.maxRetries c h

/-- **An establishment without rules panics.** The node ID matches and the session is
allocated, so the handler reaches `MarkSessionQer` with a session without PDRs. -/
theorem handleSessionEstablishmentRequest_without_rules (c : PFCPConn)
    (req : SessionEstablishmentRequest) (hnode : req.nodeID = some c.nodeIDRemote)
    (f : FSEIDFields) (hf : req.cpFSEID = some f) (hip : f.ipv4Address.length = 4)
    (hpdr : req.createPDR = []) (hfar : req.createFAR = []) (hqer : req.createQER = [])
    (hurr : req.createURR = []) (s : PFCPSession) (c' : PFCPConn)
    (hnew : c.newPFCPSession f.seid = (some s, c')) :
    (PFCPConn.handleSessionEstablishmentRequest req).exec c =
      .error (.panic (.indexOutOfRange (-1) 0)) := by
  have hs : s.pdrs = [] := newPFCPSession_pdrs c f.seid (by rw [hnew])
  unfold PFCPConn.handleSessionEstablishmentRequest
  simp only [Mut.exec_bind, hnode, hf, orReturn, Mut.exec_pure, Mut.exec_ofAbort,
    ip2int_of_length_four hip, Except.map, Mut.exec_get, ne_eq, not_true_eq_false, if_false, hnew,
    Mut.exec_set, hpdr, hfar, hqer, hurr, createRules]
  rw [MarkSessionQer_nil hs]

/-- **A modification of a session without PDRs panics**, unless it creates PDRs or the datapath
rejects its Add. -/
theorem handleSessionModificationRequest_without_pdrs (c : PFCPConn)
    (req : SessionModificationRequest) (s : PFCPSession) (hs : c.store.lookup req.seid = some s)
    (hpdrs : s.pdrs = []) (hcp : req.cpFSEID = none) (hpdr : req.createPDR = [])
    (hfar : req.createFAR = []) (hqer : req.createQER = []) (hurr : req.createURR = [])
    (hupdpdr : req.updatePDR = []) (hupdfar : req.updateFAR = []) (hupdqer : req.updateQER = [])
    (hupdurr : req.updateURR = [])
    (hans : c.upf.datapath.answer c.upf.datapath.calls.length ≠ causeRequestRejected) :
    (PFCPConn.handleSessionModificationRequest req).exec c =
      .error (.panic (.indexOutOfRange (-1) 0)) := by
  unfold PFCPConn.handleSessionModificationRequest
  simp only [Mut.exec_bind, Mut.exec_get, hs, hcp, Mut.exec_pure, hpdr, hfar, hqer, hurr,
    createRules, exec_sendMsgToUPF, Upf.sendMsgToUPF, Datapath.sendMsgToUPF, if_neg hans,
    hupdpdr, hupdfar, hupdqer, hupdurr, updateRules, Mut.exec_ofAbort]
  simp only [MarkSessionQer_nil hpdrs, Except.map]

/-- **A UE address to allocate without a pool panics**: `LookupOrAllocIP` on a nil `*IPPool`. -/
theorem parseUEAddressIE_nil_pool (f : UEIPAddressFields) (hf : needAllocIP f = true)
    (st : Pdr × Upf) (hpool : st.2.ippool = none) :
    (Pdr.parseUEAddressIE (some f)).exec st = .error (.panic .nilPointerDereference) := by
  unfold Pdr.parseUEAddressIE
  simp only [Mut.exec_bind, fromIE, Mut.exec_pure, hf, if_true, getUpf, Mut.exec_get, hpool,
    deref, Mut.exec_ofAbort, Except.map]

/-- **A report response without a Cause IE panics**: `srres.Cause.Payload` follows nil. -/
theorem handleSessionReportResponse_nil_cause (c : PFCPConn) (srres : SessionReportResponse)
    (h : srres.cause = none) :
    (PFCPConn.handleSessionReportResponse srres).exec c =
      .error (.panic .nilPointerDereference) := by
  unfold PFCPConn.handleSessionReportResponse
  simp only [Mut.exec_bind, h, deref, Mut.exec_ofAbort, Except.map]

/-! ## The panics, as `HandlePFCPMsg` meets them -/

theorem runHandler_eq_error {x : HandlerM (Response × Option Error)} {c : PFCPConn} {e : Abort}
    (h : x.exec c = .error e) : runHandler x c = .error e := by
  simp only [runHandler, h, Except.map]

theorem handlePFCPMsg_establishment_without_rules (c : PFCPConn)
    (req : SessionEstablishmentRequest) (hnode : req.nodeID = some c.nodeIDRemote)
    (f : FSEIDFields) (hf : req.cpFSEID = some f) (hip : f.ipv4Address.length = 4)
    (hpdr : req.createPDR = []) (hfar : req.createFAR = []) (hqer : req.createQER = [])
    (hurr : req.createURR = []) (s : PFCPSession) (c' : PFCPConn)
    (hnew : c.newPFCPSession f.seid = (some s, c')) :
    c.handlePFCPMsg (.sessionEstablishmentRequest req) =
      .error (.panic (.indexOutOfRange (-1) 0)) := by
  simp only [PFCPConn.handlePFCPMsg, runHandler_eq_error (handleSessionEstablishmentRequest_without_rules
    c req hnode f hf hip hpdr hfar hqer hurr s c' hnew), Except.map]

theorem handlePFCPMsg_modification_without_pdrs (c : PFCPConn)
    (req : SessionModificationRequest) (s : PFCPSession) (hs : c.store.lookup req.seid = some s)
    (hpdrs : s.pdrs = []) (hcp : req.cpFSEID = none) (hpdr : req.createPDR = [])
    (hfar : req.createFAR = []) (hqer : req.createQER = []) (hurr : req.createURR = [])
    (hupdpdr : req.updatePDR = []) (hupdfar : req.updateFAR = []) (hupdqer : req.updateQER = [])
    (hupdurr : req.updateURR = [])
    (hans : c.upf.datapath.answer c.upf.datapath.calls.length ≠ causeRequestRejected) :
    c.handlePFCPMsg (.sessionModificationRequest req) =
      .error (.panic (.indexOutOfRange (-1) 0)) := by
  simp only [PFCPConn.handlePFCPMsg, runHandler_eq_error (handleSessionModificationRequest_without_pdrs
    c req s hs hpdrs hcp hpdr hfar hqer hurr hupdpdr hupdfar hupdqer hupdurr hans), Except.map]

theorem handlePFCPMsg_report_without_cause (c : PFCPConn) (srres : SessionReportResponse)
    (h : srres.cause = none) :
    c.handlePFCPMsg (.sessionReportResponse srres) = .error (.panic .nilPointerDereference) := by
  simp only [PFCPConn.handlePFCPMsg, handleSessionReportResponse_nil_cause c srres h, Except.map]

/-! ## One connection that five messages panic -/

/-- An establishment from the SMF `smf` with F-SEID `seid` and the given Create PDR IEs. -/
def smfEstablishment (seid : UInt64) (createPDR : List PdrIE) : SessionEstablishmentRequest :=
  { nodeID := some "smf", cpFSEID := some { seid, ipv4Address := [10, 0, 0, 9] }, createPDR }

/-- A Create PDR `1` with the given PDI and FAR `1`. -/
def pdrWithPdi (pdi : List PdiIE) : PdrIE :=
  { pdrID := some 1, precedence := some 0, pdi := some pdi, farID := some 1 }

/-- An uplink PDR whose SDF filter is the flow description `"permit out ip from any"`. -/
def openEndedSdfPdr : PdrIE :=
  pdrWithPdi [.sourceInterface (some srcInterfaceAccess),
              .sdfFilter (some { flags := 0x01, flowDescription := "permit out ip from any" })]

/-- A downlink PDR whose UE IP Address IE asks the UPF to choose an IPv4 address (CHV4). -/
def ueAllocPdr : PdrIE :=
  pdrWithPdi [.sourceInterface (some srcInterfaceCore), .ueIPAddress (some { flags := 0x10 })]

/-- Association, an establishment of one PDR (local SEID `1`), and a modification that removes
that PDR: session `1` is left without PDRs. -/
def emptiedSessionRun : List Event :=
  [smfAssociation,
   .message (.sessionEstablishmentRequest
     (smfEstablishment 7 [pdrWithPdi [.sourceInterface (some srcInterfaceAccess)]])),
   .message (.sessionModificationRequest { seid := 1, removePDR := [some 1] })]

/-- **Five messages panic the agent.** -/
theorem handlePFCPMsg_panics : ∃ c, Reachable c ∧
    c.handlePFCPMsg (.sessionEstablishmentRequest (smfEstablishment 8 [])) =
      .error (.panic (.indexOutOfRange (-1) 0)) ∧
    c.handlePFCPMsg (.sessionModificationRequest { seid := 1 }) =
      .error (.panic (.indexOutOfRange (-1) 0)) ∧
    c.handlePFCPMsg (.sessionEstablishmentRequest (smfEstablishment 8 [openEndedSdfPdr])) =
      .error (.panic (.indexOutOfRange 5 5)) ∧
    c.handlePFCPMsg (.sessionEstablishmentRequest (smfEstablishment 8 [ueAllocPdr])) =
      .error (.panic .nilPointerDereference) ∧
    c.handlePFCPMsg (.sessionReportResponse { seid := 1, cause := none }) =
      .error (.panic .nilPointerDereference) := by
  -- the PDR parses are evaluated on the run; the establishment without rules, the emptied session
  -- and the report go through the general lemmas, from facts of the run
  have hrun : ((sampleConn fun _ => causeRequestAccepted).run emptiedSessionRun).map (fun c =>
      decide ((c.store.lookup 1).map (·.pdrs) = some [] ∧
        c.upf.datapath.answer c.upf.datapath.calls.length ≠ causeRequestRejected ∧
        c.nodeIDRemote = "smf" ∧ (c.newPFCPSession 8).1.isSome ∧
        (c.handlePFCPMsg (.sessionEstablishmentRequest (smfEstablishment 8 [openEndedSdfPdr]))).map
          (fun _ => ()) = .error (.panic (.indexOutOfRange 5 5)) ∧
        (c.handlePFCPMsg (.sessionEstablishmentRequest (smfEstablishment 8 [ueAllocPdr]))).map
          (fun _ => ()) = .error (.panic .nilPointerDereference))) = .ok true := by
    decide +kernel
  obtain ⟨c, hc, hpdrs, hans, hnode, hnew, hsdf, hue⟩ := exists_reachable_of_run _ _ hrun
  obtain ⟨s, hs, hnil⟩ := Option.map_eq_some_iff.mp hpdrs
  obtain ⟨s₈, hs₈⟩ := Option.isSome_iff_exists.mp hnew
  have hnoRules := handlePFCPMsg_establishment_without_rules c (smfEstablishment 8 [])
    (by rw [hnode]; rfl) _ rfl rfl rfl rfl rfl rfl s₈ _ (by rw [← hs₈])
  have hmod := handlePFCPMsg_modification_without_pdrs c { seid := 1 } s hs hnil rfl rfl rfl rfl rfl
    rfl rfl rfl rfl hans
  exact ⟨c, hc, hnoRules, hmod, eq_error_of_map_eq_error _ hsdf, eq_error_of_map_eq_error _ hue,
    handlePFCPMsg_report_without_cause c _ rfl⟩

end Pfcpiface
