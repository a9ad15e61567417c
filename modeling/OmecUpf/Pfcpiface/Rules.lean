import OmecUpf.Lib.Go

/-!
# Forwarding rules and sessions

The data model of the PFCP agent (`parse_pdr.go`, `parse_far.go`, `parse_qer.go`,
`parse_urr.go`, `sessions.go`) and the per-session rule operations of `session_pdr.go`,
`session_far.go`, `session_qer.go` and `session_urr.go`.

* `Error`: the `error` values of `errors.go`, with the sentinel errors of the package.
* `PortRange`, `ApplicationFilter`, `Pdr`, `Far`, `Qer`, `Urr`: the rules, with the zero value
  of every Go field as the default; `PacketForwardingRules` and `PFCPSession`.
* `Metrics.Session`, `Metrics.Service`: the session metrics, and `SaveSessions`.
* The `Create*`/`Update*`/`Remove*` family: `updateRule` and `removeRule` say once what an
  update or a removal by rule ID does; each member is that applied to its own list, ID and
  name. `createPDR` and `updatePDR` also record the UE address of a downlink PDR, and
  `updateFAR` queues an end marker.
-/

namespace Pfcpiface

/-- The `error` values the package produces (`errors.go`), and the wrappers of `messages.go`.
Values printed with `%v` are kept as the text Go prints. -/
inductive Error where
  /-- An accessor of go-pfcp found the IE missing or malformed. -/
  | ie
  /-- An error of the standard library (`strconv`, `net`), with its text. -/
  | std (text : String)
  /-- A sentinel made by `errors.New(text)`. -/
  | sentinel (text : String)
  | unsupported (what value : String)
  | notFound (what : String)
  | notFoundWithParam (what paramName value : String)
  | invalidOperation (operation : String)
  | invalidArgument (name value : String)
  | invalidArgumentWithReason (name value reason : String)
  | operationFailedWithReason (operation reason : String)
  | operationFailedWithParam (operation paramName value : String)
  /-- `errUnmarshal(err)`: a `HandlePFCPMsgError` with `Op: "Unmarshal"`. -/
  | unmarshal (err : Error)
  /-- `errProcess(err)`: a `HandlePFCPMsgError` with `Op: "Process"`. -/
  | process (err : Error)
  deriving DecidableEq, Repr

/-- `err.Error()`, as `errors.go` formats it. The text of an accessor error of go-pfcp, which
the repository does not hold, is not modelled. -/
def Error.text : Error → String
  | .ie => "IE"
  | .std text => text
  | .sentinel text => text
  | .unsupported what value => what ++ "=" ++ value ++ " unsupported"
  | .notFound what => what ++ " not found"
  | .notFoundWithParam what paramName value => what ++ " not found with " ++ paramName ++ "=" ++ value
  | .invalidOperation operation => "invalid operation: " ++ operation
  | .invalidArgument name value => "invalid argument \x27" ++ name ++ "\x27: " ++ value
  | .invalidArgumentWithReason name value reason =>
    "invalid argument \x27" ++ name ++ "\x27=" ++ value ++ " (" ++ reason ++ ")"
  | .operationFailedWithReason operation reason => operation ++ " failed due to: : " ++ reason
  | .operationFailedWithParam operation paramName value =>
    "\x27" ++ operation ++ "\x27 failed for " ++ paramName ++ "=" ++ value
  | .unmarshal err => "Error during Unmarshal: " ++ err.text
  | .process err => "Error during Process: " ++ err.text

/-- `errBadFilterDesc`, which `parsePDR` tolerates. -/
def errBadFilterDesc : Error := .sentinel "unsupported Filter Description format"

def errMsgUnexpectedType : Error := .sentinel "unable to parse message as type specified"
def errWriteToDatapath : Error := .sentinel "write to datapath failed"
def errAssocNotFound : Error := .sentinel "no association found for NodeID"
def errAllocateSession : Error := .sentinel "unable to allocate new PFCP session"

/-! ## Rules -/

/-- A L4 port range; the zero value `{0, 0}` is a wildcard. -/
structure PortRange where
  low : UInt16 := 0
  high : UInt16 := 0
  deriving DecidableEq, Repr, Inhabited

/-- `newWildcardPortRange`: every port. -/
def newWildcardPortRange : PortRange := { low := 0, high := 65535 }

/-- `NewRangeMatchPortRange`: `[low, high]`, or the zero value when `low > high`. -/
def newRangeMatchPortRange (low high : UInt16) : PortRange :=
  if low > high then {} else { low, high }

def PortRange.isWildcardMatch (pr : PortRange) : Bool :=
  pr.low == 0 && pr.high == 65535 || pr.low == 0 && pr.high == 0

def PortRange.isExactMatch (pr : PortRange) : Bool :=
  pr.low == pr.high && pr.high != 0

def PortRange.isRangeMatch (pr : PortRange) : Bool :=
  !pr.isExactMatch && !pr.isWildcardMatch

structure ApplicationFilter where
  filterID : UInt32 := 0
  srcIP : UInt32 := 0
  dstIP : UInt32 := 0
  srcPortRange : PortRange := {}
  dstPortRange : PortRange := {}
  proto : UInt8 := 0
  srcIPMask : UInt32 := 0
  dstIPMask : UInt32 := 0
  protoMask : UInt8 := 0
  deriving DecidableEq, Repr, Inhabited

/-- The source interface values of `Pdr.srcIface` (`upf.go`). -/
def access : UInt8 := 0x1
def core : UInt8 := 0x2

structure Pdr where
  srcIface : UInt8 := 0
  tunnelIP4Dst : UInt32 := 0
  tunnelTEID : UInt32 := 0
  ueAddress : UInt32 := 0
  srcIfaceMask : UInt8 := 0
  tunnelIP4DstMask : UInt32 := 0
  tunnelTEIDMask : UInt32 := 0
  appFilter : ApplicationFilter := {}
  precedence : UInt32 := 0
  pdrID : UInt32 := 0
  fseID : UInt64 := 0
  fseidIP : UInt32 := 0
  ctrID : UInt32 := 0
  farID : UInt32 := 0
  qerIDList : List UInt32 := []
  needDecap : UInt8 := 0
  allocIPFlag : Bool := false
  allocTEIDFlag : Bool := false
  chooseID : UInt8 := 0
  chooseIDFlag : Bool := false
  deriving DecidableEq, Repr, Inhabited

def Pdr.isUplink (p : Pdr) : Bool := p.srcIface == access

def Pdr.isDownlink (p : Pdr) : Bool := p.srcIface == core

structure Far where
  farID : UInt32 := 0
  fseID : UInt64 := 0
  fseidIP : UInt32 := 0
  dstIntf : UInt8 := 0
  sendEndMarker : Bool := false
  applyAction : UInt8 := 0
  tunnelType : UInt8 := 0
  tunnelIP4Src : UInt32 := 0
  tunnelIP4Dst : UInt32 := 0
  tunnelTEID : UInt32 := 0
  tunnelPort : UInt16 := 0
  deriving DecidableEq, Repr, Inhabited

/-- `QosLevel`: a QER is an application QER until `MarkSessionQer` marks it. -/
inductive QosLevel where
  | applicationQos
  | sessionQos
  deriving DecidableEq, Repr, Inhabited

structure Qer where
  qerID : UInt32 := 0
  qosLevel : QosLevel := .applicationQos
  qfi : UInt8 := 0
  ulStatus : UInt8 := 0
  dlStatus : UInt8 := 0
  ulMbr : UInt64 := 0
  dlMbr : UInt64 := 0
  ulGbr : UInt64 := 0
  dlGbr : UInt64 := 0
  fseID : UInt64 := 0
  fseidIP : UInt32 := 0
  deriving DecidableEq, Repr, Inhabited

structure VolumeData where
  flags : UInt8 := 0
  totalVol : UInt64 := 0
  uplinkVol : UInt64 := 0
  downlinkVol : UInt64 := 0
  deriving DecidableEq, Repr, Inhabited

structure Urr where
  urrID : UInt32 := 0
  ctrID : UInt32 := 0
  pdrID : UInt32 := 0
  fseidIP : UInt32 := 0
  measureMethod : UInt8 := 0
  reportOpen : Bool := false
  trigger : UInt16 := 0
  localThreshold : UInt64 := 0
  volThreshold : VolumeData := {}
  volQuota : VolumeData := {}
  fseID : UInt64 := 0
  deriving DecidableEq, Repr, Inhabited

/-- An end marker queued by `UpdateFAR` (`session_far.go`); the peer IP is kept as the integer
`int2ip` turns into bytes. -/
structure EndMarker where
  teid : UInt32
  peerIP : UInt32
  peerPort : UInt16
  deriving DecidableEq, Repr

structure PacketForwardingRules where
  pdrs : List Pdr := []
  fars : List Far := []
  qers : List Qer := []
  urrs : List Urr := []
  deriving DecidableEq, Repr, Inhabited

/-! ## The session metrics (`metrics/interface.go`, `metrics/prometheus.go`) -/

namespace Metrics

/-- `Session`: the node ID of the SMF, when the session was created, and the lifetime `Delete`
measured. Times are ticks of the monotonic clock; `time.Since(t).Seconds()` is `0` exactly when
no tick passed since `t`. -/
structure Session where
  nodeID : String := ""
  createdAt : Nat := 0
  duration : Nat := 0
  deriving DecidableEq, Repr, Inhabited

/-- `NewSession(nodeID)`, when the clock reads `now`. -/
def newSession (nodeID : String) (now : Nat) : Session := { nodeID, createdAt := now }

/-- `s.Delete()`, when the clock reads `now`. -/
def Session.delete (s : Session) (now : Nat) : Session := { s with duration := now - s.createdAt }

/-- The session metrics of `Service`: the gauge `pfcp_sessions` and the observations of the
histogram `pfcp_session_duration_seconds`, by `node_id`. The message metrics are not modelled. -/
structure Service where
  sessions : String → Int := fun _ => 0
  sessionDuration : List (String × Nat) := []

/-- `SaveSessions(sess)`: a session whose duration is `0` is counted as created, any other as
deleted. -/
def Service.saveSessions (svc : Service) (sess : Session) : Service :=
  if sess.duration = 0 then
    { svc with sessions := fun n => if n = sess.nodeID then svc.sessions n + 1 else svc.sessions n }
  else
    { sessions := fun n => if n = sess.nodeID then svc.sessions n - 1 else svc.sessions n,
      sessionDuration := svc.sessionDuration ++ [(sess.nodeID, sess.duration)] }

end Metrics

/-- One PFCP session. Its metrics handle is kept as a value: `Delete` only sets the duration
that `SaveSessions` reads right after it. -/
structure PFCPSession extends PacketForwardingRules where
  localSEID : UInt64 := 0
  remoteSEID : UInt64 := 0
  metrics : Metrics.Session := {}
  ueAddress : UInt32 := 0
  deriving DecidableEq, Repr, Inhabited

/-- The methods of the datapath's `SendMsgToUPF` (`datapath.go`). -/
inductive UpfMsgType where
  | add
  | mod
  | del
  | clear
  deriving DecidableEq, Repr

/-! ## Updating and removing a rule by its ID -/

section Family

variable {α : Type}

/-- `Update*`: overwrite the first rule with the ID of `x`, or `ErrNotFound(what)`. -/
def updateRule (id : α → UInt32) (what : String) (l : List α) (x : α) :
    List α × Option Error :=
  match Go.setFirst? (fun v => id v == id x) x l with
  | some l' => (l', none)
  | none => (l, some (.notFound what))

/-- `Remove*`: cut out the first rule with ID `i` and return it, or `ErrNotFound(what)`. -/
def removeRule (id : α → UInt32) (what : String) (l : List α) (i : UInt32) :
    List α × Except Error α :=
  match Go.eraseFirst? (fun v => id v == i) l with
  | some (v, l') => (l', .ok v)
  | none => (l, .error (.notFound what))

variable {id : α → UInt32} {what : String} {l : List α}

theorem updateRule_length (x : α) : (updateRule id what l x).1.length = l.length := by
  unfold updateRule
  split
  · exact Go.length_of_setFirst? (by assumption)
  · rfl

/-- A failed update or removal leaves the list as it was. -/
theorem updateRule_of_error {x : α} {e : Error} (h : (updateRule id what l x).2 = some e) :
    (updateRule id what l x).1 = l := by
  unfold updateRule at h ⊢
  split
  · simp_all
  · rfl

theorem removeRule_of_error {i : UInt32} {e : Error}
    (h : (removeRule id what l i).2 = .error e) : (removeRule id what l i).1 = l := by
  unfold removeRule at h ⊢
  split
  · simp_all
  · rfl

/-- A successful removal returns a rule with ID `i`; it and the rest are a permutation of the
list. -/
theorem removeRule_of_ok {i : UInt32} {v : α} (h : (removeRule id what l i).2 = .ok v) :
    id v = i ∧ (v :: (removeRule id what l i).1).Perm l := by
  unfold removeRule at h ⊢
  cases he : Go.eraseFirst? (fun v => id v == i) l with
  | none => simp [he] at h
  | some r =>
    obtain ⟨v', l'⟩ := r
    simp only [he, Except.ok.injEq] at h ⊢
    subst h
    obtain ⟨hp, hperm⟩ := Go.perm_of_eraseFirst? he
    exact ⟨beq_iff_eq.mp hp, hperm⟩

end Family

/-! ## The members -/

/-- `CreatePDR`: append, recording the UE address of a downlink PDR. -/
def PFCPSession.createPDR (s : PFCPSession) (p : Pdr) : PFCPSession :=
  let s := if p.isDownlink && p.ueAddress != 0 then { s with ueAddress := p.ueAddress } else s
  { s with pdrs := s.pdrs ++ [p] }

/-- `UpdatePDR`: record the UE address of a downlink PDR (also when the update then fails), and
overwrite the PDR with the same ID. -/
def PFCPSession.updatePDR (s : PFCPSession) (p : Pdr) : PFCPSession × Option Error :=
  let s := if p.isDownlink && p.ueAddress != 0 then { s with ueAddress := p.ueAddress } else s
  let r := updateRule Pdr.pdrID "PDR" s.pdrs p
  ({ s with pdrs := r.1 }, r.2)

def PFCPSession.removePDR (s : PFCPSession) (id : UInt32) : PFCPSession × Except Error Pdr :=
  let r := removeRule Pdr.pdrID "PDR" s.pdrs id
  ({ s with pdrs := r.1 }, r.2)

def PFCPSession.createFAR (s : PFCPSession) (f : Far) : PFCPSession :=
  { s with fars := s.fars ++ [f] }

/-- `addEndMarkerForGtp`: the end marker for the tunnel of the FAR being replaced. -/
def addEndMarkerForGtp (farItem : Far) (endMarkerList : List EndMarker) : List EndMarker :=
  endMarkerList ++ [⟨farItem.tunnelTEID, farItem.tunnelIP4Dst, farItem.tunnelPort⟩]

/-- `UpdateFAR`: overwrite the FAR with the same ID; when the new FAR asks for an end marker,
queue one for the tunnel of the FAR it replaces. -/
def PFCPSession.updateFAR (s : PFCPSession) (f : Far) (endMarkerList : List EndMarker) :
    PFCPSession × List EndMarker × Option Error :=
  match s.fars.find? (fun v => v.farID == f.farID) with
  | some v =>
    let endMarkerList := if f.sendEndMarker then addEndMarkerForGtp v endMarkerList
      else endMarkerList
    ({ s with fars := (updateRule Far.farID "FAR" s.fars f).1 }, endMarkerList, none)
  | none => (s, endMarkerList, some (.notFound "FAR"))

def PFCPSession.removeFAR (s : PFCPSession) (id : UInt32) : PFCPSession × Except Error Far :=
  let r := removeRule Far.farID "FAR" s.fars id
  ({ s with fars := r.1 }, r.2)

def PFCPSession.createQER (s : PFCPSession) (q : Qer) : PFCPSession :=
  { s with qers := s.qers ++ [q] }

def PFCPSession.updateQER (s : PFCPSession) (q : Qer) : PFCPSession × Option Error :=
  let r := updateRule Qer.qerID "QER" s.qers q
  ({ s with qers := r.1 }, r.2)

def PFCPSession.removeQER (s : PFCPSession) (id : UInt32) : PFCPSession × Except Error Qer :=
  let r := removeRule Qer.qerID "QER" s.qers id
  ({ s with qers := r.1 }, r.2)

def PFCPSession.createURR (s : PFCPSession) (u : Urr) : PFCPSession :=
  { s with urrs := s.urrs ++ [u] }

def PFCPSession.updateURR (s : PFCPSession) (u : Urr) : PFCPSession × Option Error :=
  let r := updateRule Urr.urrID "URR" s.urrs u
  ({ s with urrs := r.1 }, r.2)

def PFCPSession.removeURR (s : PFCPSession) (id : UInt32) : PFCPSession × Except Error Urr :=
  let r := removeRule Urr.urrID "URR" s.urrs id
  ({ s with urrs := r.1 }, r.2)

end Pfcpiface
