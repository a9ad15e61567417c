import OmecUpf.Pfcpiface.MessagesSession

/-!
# Dispatching PFCP messages, and the runs of a connection

`PFCPConn.HandlePFCPMsg` (`messages.go`) hands every decoded message to its handler: the node
related ones of `messages_conn.go` and the session handlers. The connection then lives through
a sequence of such messages, shutdowns and heartbeats it originates, with the datapath
answering each call as it does.

* `PFDManagementRequest`, `AssociationSetupRequest`, `Msg`: the messages the agent handles,
  as go-pfcp decodes them.
* `handlePFDMgmtRequest`: the PFD table is rebuilt from the request, and restored when an IE
  cannot be read. `handleAssociationSetupRequest` records the remote node ID.
* `Reply`, `handlePFCPMsg`: the response sent, with the handler's error.
* `Event`, `PFCPConn.step`, `PFCPConn.init`, `Reachable`: the runs of a connection from a new
  one over a freshly started UPF.
* `reachable_trans`, `step_run`: runs compose.
-/

namespace Pfcpiface

open Go

/-- An Application ID's PFDs IE: `ApplicationID()`, and `PFDContext()` with the Flow
Description of each `PFDContents()`. -/
structure ApplicationIDPFDsIE where
  applicationID : Option String
  pfdContext : Option (List (Option String))
  deriving DecidableEq, Repr

structure PFDManagementRequest where
  sequenceNumber : UInt32 := 0
  applicationIDsPFDs : List ApplicationIDPFDsIE := []
  deriving DecidableEq, Repr

/-- An Association Setup Request: `NodeID()` and whether `RecoveryTimeStamp()` could be read. -/
structure AssociationSetupRequest where
  sequenceNumber : UInt32 := 0
  nodeID : Option String
  recoveryTimeStamp : Bool := true
  deriving DecidableEq, Repr

def errFlowDescAbsent : Error := .sentinel "flow description not present"
def errDatapathDown : Error := .sentinel "datapath down"

/-- The messages `HandlePFCPMsg` dispatches; a response is given by its sequence number. -/
inductive Msg where
  | heartbeatRequest (sequenceNumber : UInt32)
  | pfdManagementRequest (m : PFDManagementRequest)
  | associationSetupRequest (m : AssociationSetupRequest)
  | associationReleaseRequest (sequenceNumber : UInt32)
  | sessionEstablishmentRequest (m : SessionEstablishmentRequest)
  | sessionModificationRequest (m : SessionModificationRequest)
  | sessionDeletionRequest (m : SessionDeletionRequest)
  | sessionReportResponse (m : SessionReportResponse)
  | associationSetupResponse (sequenceNumber : UInt32)
  | heartbeatResponse (sequenceNumber : UInt32)
  deriving DecidableEq, Repr

/-- The response a handler sends back. -/
inductive Reply where
  | heartbeatResponse
  | pfdManagementResponse (cause : UInt8)
  | associationSetupResponse (cause : UInt8)
  | associationReleaseResponse
  | session (r : Response)
  deriving DecidableEq, Repr

namespace PFCPConn

/-- The loop of `handlePFDMgmtRequest` over the flow descriptions of one application, into its
PFD; a missing description rejects the request. -/
def addFlowDescs (appPFD : AppPFD) : List (Option String) → Except Error AppPFD
  | [] => .ok appPFD
  | none :: _ => .error .ie
  | some fd :: rest =>
    if fd = "" then .error errFlowDescAbsent
    else addFlowDescs { appPFD with flowDescs := appPFD.flowDescs ++ [fd] } rest

/-- The loop of `handlePFDMgmtRequest` over the Application ID's PFDs IEs: every application is
stored under its ID with the flow descriptions of its PFD contexts. -/
def addAppPFDs (appPFDs : AList (fun _ : String => AppPFD)) :
    List ApplicationIDPFDsIE → Except Error (AList (fun _ : String => AppPFD))
  | [] => .ok appPFDs
  | appIDPFD :: rest => do
    let id ← fromIE appIDPFD.applicationID
    let pfdCtx ← fromIE appIDPFD.pfdContext
    let appPFD ← addFlowDescs ⟨id, []⟩ pfdCtx
    addAppPFDs (appPFDs.insert id appPFD) rest

/-- `handlePFDMgmtRequest(msg)`: on every request the PFD table is reset and rebuilt; when an IE
cannot be read it is restored. -/
def handlePFDMgmtRequest (c : PFCPConn) (req : PFDManagementRequest) :
    (Reply × Option Error) × PFCPConn :=
  match addAppPFDs ∅ req.applicationIDsPFDs with
  | .ok appPFDs => ((.pfdManagementResponse causeRequestAccepted, none), { c with appPFDs })
  | .error err => ((.pfdManagementResponse causeRequestRejected, some (.unmarshal err)), c)

/-- `handleAssociationSetupRequest(msg)`; the recovery time stamps are not modelled. An IE that
cannot be read gets no response. -/
def handleAssociationSetupRequest (c : PFCPConn) (asreq : AssociationSetupRequest) :
    (Option Reply × Option Error) × PFCPConn :=
  match asreq.nodeID with
  | none => ((none, some (.unmarshal .ie)), c)
  | some nodeID =>
    if !asreq.recoveryTimeStamp then ((none, some (.unmarshal .ie)), c)
    else if !c.upf.datapath.connected then
      ((some (.associationSetupResponse causeRequestRejected), some (.process errDatapathDown)), c)
    else ((some (.associationSetupResponse causeRequestAccepted), none),
      { c with nodeIDRemote := nodeID })

/-- `handleIncomingResponse(msg)`: the request waiting under the sequence number stops waiting. -/
def handleIncomingResponse (c : PFCPConn) (seq : UInt32) : PFCPConn :=
  { c with requests := (Pfcpiface.handleIncomingResponse c.requests seq).2 }

/-- `HandlePFCPMsg(buf)` for a message that `message.Parse` decoded: the response sent, the
handler's error, and the connection after it. An Association Release shuts the connection down
after its response. -/
def handlePFCPMsg (c : PFCPConn) : Msg → Except Abort ((Option Reply × Option Error) × PFCPConn)
  | .heartbeatRequest _ => .ok ((some .heartbeatResponse, none), c)
  | .pfdManagementRequest m =>
    let ((r, err), c) := c.handlePFDMgmtRequest m
    .ok ((some r, err), c)
  | .associationSetupRequest m => .ok (c.handleAssociationSetupRequest m)
  | .associationReleaseRequest _ => .ok ((some .associationReleaseResponse, none), c.shutdown)
  | .sessionEstablishmentRequest m =>
    (runHandler (handleSessionEstablishmentRequest m) c).map fun r =>
      ((some (.session r.1.1), r.1.2), r.2)
  | .sessionModificationRequest m =>
    (runHandler (handleSessionModificationRequest m) c).map fun r =>
      ((some (.session r.1.1), r.1.2), r.2)
  | .sessionDeletionRequest m =>
    (runHandler (handleSessionDeletionRequest m) c).map fun r =>
      ((some (.session r.1.1), r.1.2), r.2)
  | .sessionReportResponse m =>
    ((handleSessionReportResponse m).exec c).map fun r =>
      ((none, match r.1 with | .ok () => none | .error e => some e), r.2)
  | .associationSetupResponse seq => .ok ((none, none), c.handleIncomingResponse seq)
  | .heartbeatResponse seq => .ok ((none, none), c.handleIncomingResponse seq)

end PFCPConn

/-- What can happen to a connection: a message from the SMF; `Shutdown`, after an Association
Release, a heartbeat timeout or the end of the node; a heartbeat request it sends. -/
inductive Event where
  | message (msg : Msg)
  | shutdown
  | heartbeat
  deriving DecidableEq, Repr

namespace PFCPConn

/-- One event; a panic ends the process. -/
def step (c : PFCPConn) : Event → Except Abort PFCPConn
  | .message msg => (c.handlePFCPMsg msg).map (·.2)
  | .shutdown => .ok c.shutdown
  | .heartbeat => .ok { c with requests := (originate .heartbeat c.requests).2 }

/-- A run of events. -/
def run (c : PFCPConn) : List Event → Except Abort PFCPConn
  | [] => .ok c
  | e :: es => do run (← c.step e) es

/-- A new connection (`NewPFCPConn`) over the UPF, with the random source it seeds. -/
def init (upf : Upf) (rng : Nat → UInt64) : PFCPConn :=
  { upf, nodeIDRemote := "", rng }

end PFCPConn

/-- `NewUPF` starts the TEID allocator with every TEID of `[1, MaxUint32]` free. -/
def Upf.Fresh (upf : Upf) : Prop := upf.teidAllocator = NewIDAllocator 1 0xFFFFFFFF

/-- The connections reachable from a new connection over a fresh UPF. -/
inductive Reachable : PFCPConn → Prop
  | init (upf : Upf) (rng : Nat → UInt64) (h : upf.Fresh) : Reachable (PFCPConn.init upf rng)
  | step {c c' : PFCPConn} (e : Event) : Reachable c → c.step e = .ok c' → Reachable c'

theorem PFCPConn.run_append (c : PFCPConn) (es es' : List Event) :
    c.run (es ++ es') = (c.run es).bind fun c' => c'.run es' := by
  induction es generalizing c with
  | nil => rfl
  | cons e es ih =>
    simp only [List.cons_append, PFCPConn.run, bind, Except.bind]
    cases c.step e with
    | error a => rfl
    | ok c₁ => exact ih c₁

/-- **Runs reach.** Every run that does not panic ends in a reachable connection. -/
theorem Reachable.run {c c' : PFCPConn} (hc : Reachable c) {es : List Event}
    (h : c.run es = .ok c') : Reachable c' := by
  induction es generalizing c with
  | nil => cases h; exact hc
  | cons e es ih =>
    simp only [PFCPConn.run, bind, Except.bind] at h
    cases hs : c.step e with
    | error a => rw [hs] at h; cases h
    | ok c₁ =>
      rw [hs] at h
      exact ih (hc.step e hs) h

end Pfcpiface
