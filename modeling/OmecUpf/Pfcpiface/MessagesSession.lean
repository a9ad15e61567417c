import OmecUpf.Pfcpiface.Conn

/-!
# The session handlers

The handlers of `messages_session.go`, and the session cleanup of `PFCPConn.Shutdown`
(`conn.go`). Each works on a copy of the session taken from the store and writes it back with
`PutSession` only at its end; what it allocates or frees in the UPF on the way stays when it
returns early with a rejection.

* `PFCPConn.handleSessionEstablishmentRequest`: parse the Create IEs into a new session, mark
  the session QER twice (`session.Qers`, then `addQERs`), send the rules to the datapath and
  store the session. A datapath rejection removes the session, which was never stored.
* `PFCPConn.handleSessionModificationRequest`: creates, an Add to the datapath, updates, a Mod
  with the session as it was before the updates, end markers, removals (a removed PDR frees its
  TEID), a Del, and the store.
* `PFCPConn.handleSessionDeletionRequest`: a Del of all rules, the UE address, the TEIDs, and
  the store.
* `PFCPConn.handleSessionReportResponse`: a report the SMF answered with "context not found"
  removes the session, without releasing anything.
* `PFCPConn.shutdown`: every session is deleted from the datapath and the store, again without
  releasing anything.
-/

namespace Pfcpiface

open Go

namespace PFCPConn

/-- `handleSessionEstablishmentRequest(msg)`. -/
def handleSessionEstablishmentRequest (sereq : SessionEstablishmentRequest) :
    HandlerM (Response × Option Error) := do
  let errUnmarshalReply := fun (err : Error) =>
    (({ cause := causeRequestRejected } : Response), some (Error.unmarshal err))
  let nodeID ← orReturn sereq.nodeID (errUnmarshalReply .ie)
  let fseid ← orReturn sereq.cpFSEID (errUnmarshalReply .ie)
  let remoteSEID := fseid.seid
  let fseidIP ← Mut.ofAbort (ip2int fseid.ipv4Address)
  let errProcessReply := fun (err : Error) (cause : UInt8) =>
    (({ cause, seid := remoteSEID } : Response), some (Error.process err))
  let c ← get
  if nodeID ≠ c.nodeIDRemote then
    throw (errProcessReply errAssocNotFound causeNoEstablishedPFCPAssociation)
  let (session?, c) := c.newPFCPSession remoteSEID
  set c
  let some session := session?
    | throw (errProcessReply errAllocateSession causeNoResourcesAvailable)
  let reject := fun err => errProcessReply err causeRequestRejected
  let (session, addPDRs) ← createRules (fun session cPDR => parseNewPDR cPDR c.appPFDs session)
    (fun p => { p with fseidIP }) PFCPSession.createPDR reject sereq.createPDR session []
  let (session, addFARs) ← createRules
    (fun session cFAR => do Mut.ofFallible (Far.parseFAR cFAR session.localSEID (← get) .create))
    (fun f => { f with fseidIP }) PFCPSession.createFAR reject sereq.createFAR session []
  let (session, addQERs) ← createRules
    (fun session cQER => Mut.ofExcept (Qer.parseQER cQER session.localSEID))
    (fun q => { q with fseidIP }) PFCPSession.createQER reject sereq.createQER session []
  let (session, addURRs) ← createRules
    (fun session cURR => Mut.ofExcept (Urr.parseURR cURR session.localSEID))
    (fun u => { u with fseidIP }) PFCPSession.createURR reject sereq.createURR session []
  let (session, qers) ← Mut.ofAbort (session.MarkSessionQer session.qers)
  let session := { session with qers }
  let (session, addQERs) ← Mut.ofAbort (session.MarkSessionQer addQERs)
  let updated : PacketForwardingRules :=
    { pdrs := addPDRs, fars := addFARs, qers := addQERs, urrs := addURRs }
  let cause ← sendMsgToUPF .add session updated
  if cause = causeRequestRejected then
    modify (·.removeSession session)
    throw (errProcessReply errWriteToDatapath causeRequestRejected)
  modify fun c => (c.putSession session).1
  return ({ cause := causeRequestAccepted, seid := session.remoteSEID,
            createdPDRs := addPdrInfo session }, none)

/-- `handleSessionModificationRequest(msg)`. The rejection carries the remote SEID known when it
is sent: `0` before the session is found. The session is a value here: what `GetSession` returns,
and `oldSession`, share no slice with the stored session, as Go's copies share their arrays. -/
def handleSessionModificationRequest (smreq : SessionModificationRequest) :
    HandlerM (Response × Option Error) := do
  let sendError := fun (remoteSEID : UInt64) (err : Error) =>
    (({ cause := causeRequestRejected, seid := remoteSEID } : Response), some err)
  let localSEID := smreq.seid
  let c ← get
  let some session := c.store.lookup localSEID
    | throw (sendError 0 (.notFoundWithParam "PFCP session" "localSEID" (toString localSEID)))
  -- a CP F-SEID that cannot be read is ignored
  let (session, fseidIP) ← match smreq.cpFSEID with
    | some (some fseid) => do
      let fseidIP ← Mut.ofAbort (ip2int fseid.ipv4Address)
      pure ({ session with remoteSEID := fseid.seid }, fseidIP)
    | _ => pure (session, 0)
  let remoteSEID := session.remoteSEID
  let reject := sendError remoteSEID
  let (session, addPDRs) ← createRules (fun session cPDR => parseNewPDR cPDR c.appPFDs session)
    (fun p => { p with fseidIP }) PFCPSession.createPDR reject smreq.createPDR session []
  let (session, addFARs) ← createRules
    (fun _ cFAR => do Mut.ofFallible (Far.parseFAR cFAR localSEID (← get) .create))
    (fun f => { f with fseidIP }) PFCPSession.createFAR reject smreq.createFAR session []
  let (session, addQERs) ← createRules
    (fun _ cQER => Mut.ofExcept (Qer.parseQER cQER localSEID))
    (fun q => { q with fseidIP }) PFCPSession.createQER reject smreq.createQER session []
  let (session, addURRs) ← createRules
    (fun _ cURR => Mut.ofExcept (Urr.parseURR cURR localSEID))
    (fun u => { u with fseidIP }) PFCPSession.createURR reject smreq.createURR session []
  let updated : PacketForwardingRules :=
    { pdrs := addPDRs, fars := addFARs, qers := addQERs, urrs := addURRs }
  let cause ← sendMsgToUPF .add session updated
  if cause = causeRequestRejected then
    throw (reject errWriteToDatapath)
  let oldSession := session
  let (session, updatePDRs) ← updateRules
    (fun session uPDR => parseNewPDR uPDR c.appPFDs session)
    (fun p => { p with fseidIP }) PFCPSession.updatePDR reject smreq.updatePDR session []
  let ((session, endMarkerList), updateFARs) ← updateRules
    (fun _ uFAR => do Mut.ofFallible (Far.parseFAR uFAR localSEID (← get) .update))
    (fun f => { f with fseidIP })
    (fun st f =>
      let (session, endMarkerList, err) := st.1.updateFAR f st.2
      ((session, endMarkerList), err))
    reject smreq.updateFAR (session, []) []
  let (session, updateQERs) ← updateRules
    (fun _ uQER => Mut.ofExcept (Qer.parseQER uQER localSEID))
    (fun q => { q with fseidIP }) PFCPSession.updateQER reject smreq.updateQER session []
  let (session, updateURRs) ← updateRules
    (fun _ uURR => Mut.ofExcept (Urr.parseURR uURR localSEID))
    (fun u => { u with fseidIP }) PFCPSession.updateURR reject smreq.updateURR session []
  let (session, qers) ← Mut.ofAbort (session.MarkSessionQer session.qers)
  let session := { session with qers }
  let (session, _) ← Mut.ofAbort (session.MarkSessionQer addQERs)
  let updated : PacketForwardingRules :=
    { pdrs := updatePDRs, fars := updateFARs, qers := updateQERs, urrs := updateURRs }
  let cause ← sendMsgToUPF .mod oldSession updated
  if cause = causeRequestRejected then
    throw (reject errWriteToDatapath)
  modify fun c =>
    if c.upf.enableEndMarker then { c with upf := c.upf.sendEndMarkers endMarkerList } else c
  let (session, delPDRs) ← removeRules (fun s id => s.removePDR id.toUInt32)
    (fun p => modify fun c =>
      { c with upf := { c.upf with teidAllocator := c.upf.teidAllocator.free p.tunnelTEID } })
    reject smreq.removePDR session []
  let (session, delFARs) ← removeRules PFCPSession.removeFAR (fun _ => pure ()) reject
    smreq.removeFAR session []
  let (session, delQERs) ← removeRules PFCPSession.removeQER (fun _ => pure ()) reject
    smreq.removeQER session []
  let (session, delURRs) ← removeRules PFCPSession.removeURR (fun _ => pure ()) reject
    smreq.removeURR session []
  let deleted : PacketForwardingRules :=
    { pdrs := delPDRs, fars := delFARs, qers := delQERs, urrs := delURRs }
  let cause ← sendMsgToUPF .del session deleted
  if cause = causeRequestRejected then
    throw (reject errWriteToDatapath)
  modify fun c => (c.putSession session).1
  return ({ cause := causeRequestAccepted, seid := remoteSEID }, none)

/-- `handleSessionDeletionRequest(msg)`. -/
def handleSessionDeletionRequest (sdreq : SessionDeletionRequest) :
    HandlerM (Response × Option Error) := do
  let sendError := fun (err : Error) =>
    (({ cause := causeRequestRejected } : Response), some err)
  let localSEID := sdreq.seid
  let some session := (← get).store.lookup localSEID
    | throw (sendError (.notFoundWithParam "PFCP session" "localSEID" (toString localSEID)))
  let cause ← sendMsgToUPF .del session session.toPacketForwardingRules
  if cause = causeRequestRejected then
    throw (sendError errWriteToDatapath)
  let c ← get
  let (err, ippool) ← Mut.ofAbort (releaseAllocatedIPs c.upf.ippool session)
  set { c with upf := { c.upf with ippool } }
  if let some err := err then
    throw (sendError (.operationFailedWithReason "session IP dealloc" err.text))
  modify fun c =>
    { c with upf := { c.upf with
      teidAllocator := releaseAllocatedTEIDs c.upf.teidAllocator session } }
  modify (·.removeSession session)
  return ({ cause := causeRequestAccepted, seid := session.remoteSEID }, none)

/-- `handleSessionReportResponse(msg)`, which sends no response. `srres.Cause.Payload[0]` reads
through the Cause IE, which may be missing, and into its payload, which may be empty. -/
def handleSessionReportResponse (srres : SessionReportResponse) : Mut PFCPConn Error Unit := do
  let payload ← Mut.ofAbort (deref srres.cause)
  let cause ← Mut.ofAbort (Go.index payload 0)
  if cause = causeRequestAccepted then return
  let seid := srres.seid
  if cause = causeSessionContextNotFound then
    let some sessItem := (← get).store.lookup seid
      | throw (.process (.notFoundWithParam "PFCP session context" "SEID" (toString seid)))
    modify (·.removeSession sessItem)
    let cause ← sendMsgToUPF .del sessItem {}
    if cause = causeRequestRejected then
      throw (.process (.operationFailedWithParam "delete session from datapath" "seid"
        (toString seid)))

/-- The session cleanup of `Shutdown`: for every session of the store, a Del to the datapath and
`RemoveSession`. The store is visited in the order of its entries. -/
def shutdown (c : PFCPConn) : PFCPConn :=
  c.store.entries.foldl (fun c e =>
    let (_, upf) := c.upf.sendMsgToUPF .del e.2 {}
    ({ c with upf } : PFCPConn).removeSession e.2) c

end PFCPConn

end Pfcpiface
