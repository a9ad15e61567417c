import OmecUpf.Pfcpiface.ParsePdr
import OmecUpf.Pfcpiface.ParseRules
import OmecUpf.Pfcpiface.SeqNum
import OmecUpf.Pfcpiface.SessionQer

/-!
# A PFCP connection and what its handlers share

`PFCPConn` (`conn.go`) is the state of the association with one SMF: its session store (an
`InMemoryStore`, `local_store.go`), the application PFDs, the remote node ID, the random source
of local SEIDs, the requests it originated, and the `Upf` it shares with the other connections.
The handlers of `messages_session.go` run in `HandlerM`: they change the connection and end with
the response and error they return, an early `return` being a `throw` of it.

* `CreatedPDR`, `Response`, `addPdrInfo`: the response of a handler.
* `PFCPConn`; the store operations `putSession` and `removeSession` (`sessions.go`) and
  `newPFCPSession`, whose retry loop draws local SEIDs until one is free; the last two also
  update the session metrics.
* `releaseAllocatedIPs`, `releaseAllocatedTEIDs` (`session_pdr.go`).
* `onUpf`, `orReturn`, `sendMsgToUPF`: the handlers' access to the UPF and to IE accessors.
* `createRules`, `updateRules`, `removeRules`: the three families of loops over the rule IEs
  of a request, each one definition for the four rule kinds.
-/

namespace Pfcpiface

open Go

/-- A Created PDR IE of an establishment response: the UE address and the F-TEID (TEID, IPv4
address, CHOOSE ID) that the UPF chose. -/
structure CreatedPDR where
  pdrID : UInt16
  ueIP : Option UInt32
  fteid : Option (UInt32 × UInt32 × UInt8)
  deriving DecidableEq, Repr

/-- A response: its Cause, the SEID of its header, and the Created PDR IEs. -/
structure Response where
  cause : UInt8
  seid : UInt64 := 0
  createdPDRs : List CreatedPDR := []
  deriving DecidableEq, Repr

/-- `addPdrInfo(msg, session)`: a Created PDR for every PDR whose UE address or TEID the UPF
allocated. -/
def addPdrInfo (session : PFCPSession) : List CreatedPDR :=
  session.pdrs.filterMap fun pdr =>
    let ueIP := if pdr.allocIPFlag && pdr.srcIface == core then some pdr.ueAddress else none
    let fteid := if pdr.allocTEIDFlag then some (pdr.tunnelTEID, pdr.tunnelIP4Dst, pdr.chooseID)
      else none
    if ueIP.isSome || fteid.isSome then some ⟨pdr.pdrID.toUInt16, ueIP, fteid⟩ else none

structure PFCPConn where
  /-- The session store, by local SEID. -/
  store : AList (fun _ : UInt64 => PFCPSession) := ∅
  upf : Upf
  appPFDs : AList (fun _ : String => AppPFD) := ∅
  /-- `nodeID.remote`, the node ID of the SMF. -/
  nodeIDRemote : String
  /-- The values `rng.Uint64()` returns, in order, and how many were drawn. -/
  rng : Nat → UInt64
  draws : Nat := 0
  maxRetries : Nat := 100
  requests : RequestState := RequestState.init
  /-- The node's metrics service, `InstrumentPFCP`. -/
  metrics : Metrics.Service := {}
  /-- The readings of the monotonic clock that `time.Now()` gives the session metrics, in
  order, and how many were taken. -/
  clock : Nat → Nat := id
  clockReads : Nat := 0

namespace PFCPConn

/-- `store.PutSession(session)`, which refuses the local SEID `0`. -/
def putSession (c : PFCPConn) (session : PFCPSession) : PFCPConn × Option Error :=
  if session.localSEID = 0 then
    (c, some (.invalidArgument "session.localSEID" (toString session.localSEID)))
  else ({ c with store := c.store.insert session.localSEID session }, none)

/-- `time.Now()`. -/
def timeNow (c : PFCPConn) : Nat × PFCPConn :=
  (c.clock c.clockReads, { c with clockReads := c.clockReads + 1 })

/-- `RemoveSession(session)`: `session.metrics.Delete()`, `SaveSessions`, and
`store.DeleteSession`, which never fails. -/
def removeSession (c : PFCPConn) (session : PFCPSession) : PFCPConn :=
  let (now, c) := c.timeNow
  let m := session.metrics.delete now
  { c with metrics := c.metrics.saveSessions m, store := c.store.erase session.localSEID }

/-- The retry loop of `NewPFCPSession`, with `n` tries left. -/
def newSessionLoop (rseid : UInt64) : Nat → PFCPConn → Option PFCPSession × PFCPConn
  | 0, c => (none, c)
  | n + 1, c =>
    let lseid := c.rng c.draws
    let c := { c with draws := c.draws + 1 }
    if lseid ∈ c.store then newSessionLoop rseid n c
    else
      let (now, c) := c.timeNow
      let metrics := Metrics.newSession c.nodeIDRemote now
      (some { localSEID := lseid, remoteSEID := rseid, metrics },
        { c with metrics := c.metrics.saveSessions metrics })

/-- `NewPFCPSession(rseid)`: an empty session under a local SEID not in the store, drawn in at
most `maxRetries` tries, and counted in the metrics. -/
def newPFCPSession (c : PFCPConn) (rseid : UInt64) : Option PFCPSession × PFCPConn :=
  newSessionLoop rseid c.maxRetries c

end PFCPConn

/-- `releaseAllocatedIPs(ippool, session)`: the UE address of the session goes back to the pool
if its first PDR that allocated one is a downlink PDR. -/
def releaseAllocatedIPs (ippool : Option IPPool) (session : PFCPSession) :
    Except Abort (Option Error × Option IPPool) :=
  match session.pdrs.find? fun pdr => pdr.allocIPFlag && pdr.srcIface == core with
  | none => .ok (none, ippool)
  | some _ => do
    let pool ← deref ippool
    let (err, pool) := pool.deallocIP session.localSEID
    pure (err, some pool)

/-- `releaseAllocatedTEIDs(generator, session)`: free the TEID of every PDR. -/
def releaseAllocatedTEIDs (generator : IDAllocator) (session : PFCPSession) : IDAllocator :=
  session.pdrs.foldl (fun g pdr => g.free pdr.tunnelTEID) generator

/-- A handler: it changes the connection and ends with the response and error it returns. -/
abbrev HandlerM := Mut PFCPConn (Response × Option Error)

/-- Run a handler; a `throw` is an early `return`. -/
def runHandler (x : HandlerM (Response × Option Error)) (c : PFCPConn) :
    Except Abort ((Response × Option Error) × PFCPConn) :=
  (x.exec c).map fun r => (match r.1 with | .ok v => v | .error v => v, r.2)

/-- Code over the UPF of the connection; its error `err` makes the handler return `reply err`. -/
def onUpf {ε α : Type} (x : Mut Upf Error α) (reply : Error → ε) : Mut PFCPConn ε α :=
  Mut.focus PFCPConn.upf (fun c upf => { c with upf }) reply x

/-- An IE accessor in a handler: its value, or the handler returns `reply`. -/
def orReturn {ε α : Type} (o : Option α) (reply : ε) : Mut PFCPConn ε α :=
  match o with
  | some a => pure a
  | none => throw reply

/-- `upf.SendMsgToUPF(method, session, rules)`. -/
def sendMsgToUPF {ε : Type} (method : UpfMsgType) (session : PFCPSession)
    (rules : PacketForwardingRules) : Mut PFCPConn ε UInt8 := do
  let c ← get
  let (cause, upf) := c.upf.sendMsgToUPF method session rules
  set { c with upf }
  pure cause

@[simp] theorem exec_sendMsgToUPF {ε : Type} (method : UpfMsgType) (session : PFCPSession)
    (rules : PacketForwardingRules) (c : PFCPConn) :
    (sendMsgToUPF method session rules : Mut PFCPConn ε UInt8).exec c =
      .ok (.ok (c.upf.sendMsgToUPF method session rules).1,
        { c with upf := (c.upf.sendMsgToUPF method session rules).2 }) := rfl

/-! ## The loops over the rule IEs of a request -/

section Loops

variable {ι ρ κ σ : Type}

/-- `for _, cX := range req.CreateX { var x X; if err := x.parseX(...); err != nil { return
reply(err) }; x.FseidIP = fseidIP; session.CreateX(x); addXs = append(addXs, x) }`. -/
def createRules (parse : PFCPSession → ι → Mut Upf Error ρ) (withFseidIP : ρ → ρ)
    (create : PFCPSession → ρ → PFCPSession) (reply : Error → Response × Option Error) :
    List ι → PFCPSession → List ρ → HandlerM (PFCPSession × List ρ)
  | [], session, added => pure (session, added)
  | ie :: ies, session, added => do
    let x ← onUpf (parse session ie) reply
    let x := withFseidIP x
    createRules parse withFseidIP create reply ies (create session x) (added ++ [x])

/-- `for _, uX := range req.UpdateX { ...; err = session.UpdateX(x); if err != nil { continue };
updateXs = append(updateXs, x) }`. The update may change more than the session (`σ`): an
Update FAR also queues end markers. -/
def updateRules (parse : σ → ι → Mut Upf Error ρ) (withFseidIP : ρ → ρ)
    (update : σ → ρ → σ × Option Error) (reply : Error → Response × Option Error) :
    List ι → σ → List ρ → HandlerM (σ × List ρ)
  | [], st, updated => pure (st, updated)
  | ie :: ies, st, updated => do
    let x ← onUpf (parse st ie) reply
    let x := withFseidIP x
    let (st, err) := update st x
    match err with
    | some _ => updateRules parse withFseidIP update reply ies st updated
    | none => updateRules parse withFseidIP update reply ies st (updated ++ [x])

/-- `for _, rX := range req.RemoveX { id, err := rX.XID(); ...; x, err := session.RemoveX(id);
if err != nil { return reply(err) }; release(x); delXs = append(delXs, *x) }`. Only PDRs
release something: their TEID. -/
def removeRules (remove : PFCPSession → κ → PFCPSession × Except Error ρ)
    (release : ρ → HandlerM Unit) (reply : Error → Response × Option Error) :
    List (Option κ) → PFCPSession → List ρ → HandlerM (PFCPSession × List ρ)
  | [], session, deleted => pure (session, deleted)
  | id? :: ids, session, deleted => do
    let id ← orReturn id? (reply .ie)
    let (session, r) := remove session id
    match r with
    | .error e => throw (reply e)
    | .ok x =>
      release x
      removeRules remove release reply ids session (deleted ++ [x])

end Loops

end Pfcpiface
