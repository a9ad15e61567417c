import Mathlib
import OmecUpf.Lib.GoChan
import OmecUpf.Pfcpiface.Messages

/-!
# The PFCP node: its connections, their shutdown, and its own

`PFCPNode` (`node.go`) listens for PFCP peers. `handleNewPeers` makes a `PFCPConn` for the first
packet from an address that `pConns` does not hold (`NewPFCPConn`, `conn.go`), hands it that
packet, and stores it in `pConns`; a packet from an address `pConns` holds is dropped. Each
connection runs `Serve`: a reader goroutine handles the messages of its socket, and a select loop
calls `Shutdown` on a read timeout or when the node's context is done. A connection to a peer
the node dialed runs `sendAssociationRequest`, and one whose association was set up with
`enable_hbTimer` a heartbeat monitor; each calls `Shutdown` when a request of its own times out. `Shutdown` closes the
connection's `shutdown` channel, deletes its sessions, sends its peer's address on the node's
`pConnDone`, and closes its socket; the node's `Serve` deletes every address it takes from
`pConnDone` from `pConns`. When the node is stopped, its `Serve` closes the listener, takes what
`pConnDone` holds, and closes it.

Each goroutine step is a `NodeEvent`, and a run is any interleaving of them. A step blocks
(`none`) when its goroutine cannot make it; a panic of a channel operation or of a message handler
ends the process (`panicked`), and no step follows it.

* `Phase`, `NodeConn`, `PFCPNode`, `NodeEvent`, `PFCPNode.step`, `PFCPNode.run`, `NodeReachable`;
* how runs compose (`run_append_of_eq`, `run_cons_eq_some`) and that nothing follows a panic
  (`run_of_panicked`, `panicked_of_run`);
* one lemma for each step of the node's `Serve` and of a connection's select loop and reader
  (`step_stop`, `step_connCtxDone`, `step_message`, ...), and for each step of `Shutdown`
  (`step_shutdownStep_cleaning_cons`, ..., `step_shutdownStep_closing_newPeers`);
* `run_drain`: at a `select` on `pConnDone`, `Serve` can take everything it holds.
-/

namespace Pfcpiface

open Go

/-- Where `PFCPNode.Serve` is: its select loop, then, once the node's context is done, the
completions left in `pConnDone`, and its close. -/
inductive ServePc where
  /-- `for !shutdown { select { ... } }` -/
  | loop
  /-- `clearLoop`: a `select` on `pConnDone` with a `default` case. -/
  | clearLoop
  /-- `if len(node.pConnDone) > 0` -/
  | checkLen
  /-- `for rAddr := range node.pConnDone` -/
  | rangeLoop
  /-- `close(node.pConnDone)`, `node.upf.Exit()`, `close(node.done)` -/
  | closing
  /-- `Serve` has returned, and `Done` returns. -/
  | exited
  deriving DecidableEq, Repr

/-- The goroutine that called `PFCPConn.Shutdown`. -/
inductive Caller where
  /-- The select loop of `PFCPConn.Serve`, on a read timeout or when the node's context is done. -/
  | serve
  /-- The reader goroutine of `PFCPConn.Serve`, after an Association Release Request. -/
  | reader
  /-- `handleNewPeers`, inside `NewPFCPConn`, when the first message is an Association Release
  Request. -/
  | newPeers
  /-- A goroutine of the connection that sends requests: `sendAssociationRequest`, after its
  request timed out or the Association Setup Response failed, or the heartbeat monitor
  `startHeartBeatMonitor`, after a heartbeat request timed out. -/
  | requester
  deriving DecidableEq, Repr

/-- How far a connection's `Shutdown` has got. Every phase but `open` comes after
`close(pConn.shutdown)`, and `closing` and `closed` after `pConn.done <- rAddr`. -/
inductive Phase where
  | open
  /-- Deleting the sessions that `GetAllSessions` returned; those left. -/
  | cleaning (caller : Caller) (pending : List PFCPSession)
  /-- `pConn.done <- rAddr` next. -/
  | notifying (caller : Caller)
  /-- `pConn.Close()` next. -/
  | closing (caller : Caller)
  /-- `Shutdown` has returned. -/
  | closed

namespace Phase

/-- The goroutine running `Shutdown`, while it runs. -/
def caller? : Phase → Option Caller
  | .cleaning c _ | .notifying c | .closing c => some c
  | .open | .closed => none

/-- `pConn.shutdown` is still open. -/
def isOpen : Phase → Bool
  | .open => true
  | _ => false

/-- The socket is closed. -/
def isClosed : Phase → Bool
  | .closed => true
  | _ => false

/-- `pConn.done <- rAddr` has run. -/
def notified : Phase → Bool
  | .closing _ | .closed => true
  | _ => false

end Phase

/-- A connection of the node: its peer's address, the state of its `PFCPConn` (sessions, PFDs,
requests), how far its shutdown has got, and its goroutines. -/
structure NodeConn where
  rAddr : String
  conn : PFCPConn
  phase : Phase := .open
  /-- `go p.Serve()` has run. -/
  started : Bool := true
  /-- The reader goroutine timed out, filled `connTimeout`, and returned. -/
  timedOut : Bool := false
  /-- The select loop of `PFCPConn.Serve` has returned. -/
  serveReturned : Bool := false
  /-- A goroutine of the connection that sends requests runs and may call `Shutdown`: the
  `sendAssociationRequest` that `tryConnectToN4Peers` starts, or a heartbeat monitor. It is
  cleared once that goroutine has run `Shutdown`; that a monitor returns on its context is not
  followed. -/
  requesting : Bool := false

namespace NodeConn

/-- The select loop of `PFCPConn.Serve` waits on `connTimeout`, the node's context and
`pConn.shutdown`. -/
def selecting (nc : NodeConn) : Bool :=
  nc.started && !nc.serveReturned && nc.phase.caller? != some .serve

/-- The reader goroutine waits on the socket: it has not timed out, the socket is open, and it is
not itself in `Shutdown`. -/
def reading (nc : NodeConn) : Bool :=
  nc.started && !nc.timedOut && !nc.phase.isClosed && nc.phase.caller? != some .reader

end NodeConn

/-- What ends the process: a channel panic, or an abort of a message handler. -/
inductive NodePanic where
  | chan (e : ChanPanic)
  | abort (a : Abort)

/-- `PFCPNode`: the `Upf` and the metrics service that its connections share, its context, its
listener, where its `Serve` is, the channel `pConnDone`, the map `pConns` from a peer's address to
its connection, and every connection it has made, in order. -/
structure PFCPNode where
  upf : Upf
  metrics : Metrics.Service
  /-- The values `rng.Uint64()` gives in the `n`-th connection made. -/
  rngOf : Nat → Nat → UInt64
  /-- `node.cancel()` has run. -/
  cancelled : Bool := false
  /-- `node.Close()` has run: `ReadFrom` fails, and `handleNewPeers` returns. -/
  listenerClosed : Bool := false
  serve : ServePc := .loop
  pConnDone : Chan String
  pConns : AList (fun _ : String => Nat) := ∅
  conns : List NodeConn
  panicked : Option NodePanic := none

/-- The steps of the node's goroutines. -/
inductive NodeEvent where
  /-- `PFCPNode.Stop`: `node.cancel()`. -/
  | stop
  /-- `handleNewPeers` reads the first packet from `rAddr`. -/
  | newPeer (rAddr : String) (msg : Option Msg)
  /-- `Serve`'s select takes an address from `pConnDone`. -/
  | serveDone
  /-- `Serve`'s select takes `ctx.Done()`, and closes the listener. -/
  | serveCtxDone
  | serveClear
  | serveCheckLen
  | serveRange
  | serveClose
  /-- The reader goroutine of connection `i` reads a message. -/
  | message (i : Nat) (msg : Msg)
  /-- The read of connection `i` times out. -/
  | readTimeout (i : Nat)
  /-- The select loop of connection `i` takes `connTimeout`. -/
  | connTimeout (i : Nat)
  /-- The select loop of connection `i` takes `ctx.Done()`. -/
  | connCtxDone (i : Nat)
  /-- The select loop of connection `i` takes `pConn.shutdown`, closed, and returns. -/
  | connShutdown (i : Nat)
  /-- The `Shutdown` running on connection `i` takes its next step. -/
  | shutdownStep (i : Nat)
  /-- A goroutine of connection `i` that sends requests gives up on one and calls `Shutdown`. -/
  | requestTimeout (i : Nat)

/-- One turn of the cleanup loop of `Shutdown`: `SendMsgToUPF(UpfMsgTypeDel, sess, ...)`, whose
cause it ignores, and `RemoveSession(sess)`. -/
def PFCPConn.cleanupOne (c : PFCPConn) (session : PFCPSession) : PFCPConn :=
  let (_, upf) := c.upf.sendMsgToUPF .del session {}
  ({ c with upf } : PFCPConn).removeSession session

/-- `PFCPConn.shutdown` is the cleanup loop over the sessions the store lists. -/
theorem PFCPConn.shutdown_eq_foldl (c : PFCPConn) :
    c.shutdown = (c.store.entries.map (·.2)).foldl PFCPConn.cleanupOne c := by
  rw [List.foldl_map]
  rfl

namespace PFCPNode

/-- `NewPFCPNode`, then `tryConnectToN4Peers`: a connection to each peer that `net.Dial` reached,
each stored in `pConns` under its address, in order. -/
def init (upf : Upf) (metrics : Metrics.Service) (rngOf : Nat → Nat → UInt64)
    (peers : List String) : PFCPNode where
  upf := upf
  metrics := metrics
  rngOf := rngOf
  pConnDone := Chan.make 100
  conns := peers.mapIdx fun i p =>
    { rAddr := p, conn := PFCPConn.init upf (rngOf i), requesting := true }
  pConns := peers.zipIdx.foldl (fun m p => m.insert p.1 p.2) ∅

/-- Connection `nc` as its goroutines see it: the `Upf` and the metrics service are the node's,
shared by every connection. -/
def view (s : PFCPNode) (nc : NodeConn) : PFCPConn :=
  { nc.conn with upf := s.upf, metrics := s.metrics }

/-- Connection `i` is now `nc`. -/
@[simp] def setConn (s : PFCPNode) (i : Nat) (nc : NodeConn) : PFCPNode :=
  { s with conns := s.conns.set i nc }

/-- Connection `i` after code that left its `PFCPConn` at `c`; the shared parts go to the node. -/
@[simp] def update (s : PFCPNode) (i : Nat) (nc : NodeConn) (c : PFCPConn) : PFCPNode :=
  { s.setConn i { nc with conn := c } with upf := c.upf, metrics := c.metrics }

@[simp] def crash (s : PFCPNode) (p : NodePanic) : PFCPNode := { s with panicked := some p }

/-- The end of `NewPFCPConn`: `node.pConns.Store(rAddr, p)` and `go p.Serve()`. -/
@[simp] def register (s : PFCPNode) (i : Nat) (nc : NodeConn) : PFCPNode :=
  { s.setConn i { nc with started := true } with pConns := s.pConns.insert nc.rAddr i }

/-- `pConn.Shutdown()`, called by `caller`: `close(pConn.shutdown)`, which panics when another
call has closed it, then `GetAllSessions`. -/
def shutdown (s : PFCPNode) (i : Nat) (nc : NodeConn) (caller : Caller) : PFCPNode :=
  if nc.phase.isOpen then
    s.setConn i { nc with phase := .cleaning caller (nc.conn.store.entries.map (·.2)) }
  else s.crash (.chan .closeOfClosed)

/-- `go pConn.startHeartBeatMonitor()` in `HandlePFCPMsg`: after an Association Setup Request
answered without error, when `enable_hbTimer` is set. -/
def startsMonitor (upf : Upf) : Msg → Option Reply × Option Error → Bool
  | .associationSetupRequest _, (some _, none) => upf.enableHBTimer
  | _, _ => false

/-- The reader goroutine of connection `i` hands a message to `HandlePFCPMsg`. After an
Association Release Request it runs `Shutdown` itself, deferred to the end of `HandlePFCPMsg`. -/
def message (s : PFCPNode) (i : Nat) (nc : NodeConn) : Msg → PFCPNode
  | .associationReleaseRequest _ => s.shutdown i nc .reader
  | m =>
    match (s.view nc).handlePFCPMsg m with
    | .ok (r, c) =>
      s.update i { nc with requesting := nc.requesting || startsMonitor s.upf m r } c
    | .error a => s.crash (.abort a)

/-- The connection `NewPFCPConn` makes for `rAddr`, before `go p.Serve()`. -/
def newConn (s : PFCPNode) (rAddr : String) : NodeConn :=
  { rAddr, conn := PFCPConn.init s.upf (s.rngOf s.conns.length), started := false }

/-- The first packet from `rAddr`, read by `handleNewPeers`: dropped when `pConns` holds `rAddr`;
otherwise `NewPFCPConn`, which hands it to `HandlePFCPMsg` (`none`: a packet `message.Parse`
rejects) before it stores the connection. -/
def handleNewPeer (s : PFCPNode) (rAddr : String) (msg : Option Msg) : PFCPNode :=
  if rAddr ∈ s.pConns then s
  else
    let i := s.conns.length
    let nc := s.newConn rAddr
    let s := { s with conns := s.conns ++ [nc] }
    match msg with
    | none => s.register i nc
    | some (.associationReleaseRequest _) => s.shutdown i nc .newPeers
    | some m =>
      match (s.view nc).handlePFCPMsg m with
      | .ok (r, c) =>
        let nc := { nc with requesting := startsMonitor s.upf m r }
        (s.update i nc c).register i { nc with conn := c }
      | .error a => s.crash (.abort a)

/-- `handleNewPeers` is inside `NewPFCPConn`, in the `Shutdown` of the connection it makes. -/
def busy (s : PFCPNode) : Bool :=
  s.conns.any fun nc => nc.phase.caller? == some .newPeers

/-- `Serve` took `rAddr` from `pConnDone`: `node.pConns.Delete(rAddr)`. -/
@[simp] def received (s : PFCPNode) (rAddr : String) (ch : Chan String) : PFCPNode :=
  { s with pConnDone := ch, pConns := s.pConns.erase rAddr }

/-- The next step of the `Shutdown` running on connection `i`: `SendMsgToUPF(UpfMsgTypeDel, ...)`
and `RemoveSession` for the next session listed, `pConn.done <- rAddr`, or `pConn.Close()`, after
which its caller goes on. -/
def shutdownStep (s : PFCPNode) (i : Nat) (nc : NodeConn) : Option PFCPNode :=
  match nc.phase with
  | .cleaning caller (session :: pending) =>
    some (s.update i { nc with phase := .cleaning caller pending } ((s.view nc).cleanupOne session))
  | .cleaning caller [] => some (s.update i { nc with phase := .notifying caller } (s.view nc))
  | .notifying caller =>
    (s.pConnDone.send nc.rAddr).map fun
      | .ok ch => { s.setConn i { nc with phase := .closing caller } with pConnDone := ch }
      | .error e => s.crash (.chan e)
  | .closing .serve => some (s.setConn i { nc with phase := .closed, serveReturned := true })
  | .closing .reader => some (s.setConn i { nc with phase := .closed })
  | .closing .requester => some (s.setConn i { nc with phase := .closed, requesting := false })
  | .closing .newPeers => some (s.register i { nc with phase := .closed })
  | .open | .closed => none

/-- One step of a goroutine of a node that has not panicked. -/
def act (s : PFCPNode) : NodeEvent → Option PFCPNode
  | .stop => some { s with cancelled := true }
  | .newPeer rAddr msg =>
    if s.listenerClosed || s.busy then none else some (s.handleNewPeer rAddr msg)
  | .serveDone =>
    if s.serve = .loop then
      match s.pConnDone.recv with
      | some (some rAddr, ch) => some (s.received rAddr ch)
      | _ => none
    else none
  | .serveCtxDone =>
    if s.serve = .loop ∧ s.cancelled then
      some { s with listenerClosed := true, serve := .clearLoop }
    else none
  | .serveClear =>
    if s.serve = .clearLoop then
      match s.pConnDone.recv with
      | some (some rAddr, ch) => some (s.received rAddr ch)
      | _ => some { s with serve := .checkLen }
    else none
  | .serveCheckLen =>
    if s.serve = .checkLen then
      some { s with serve := if 0 < s.pConnDone.buf.length then .rangeLoop else .closing }
    else none
  | .serveRange =>
    if s.serve = .rangeLoop then
      match s.pConnDone.recv with
      | some (some rAddr, ch) => some (s.received rAddr ch)
      | some (none, _) => some { s with serve := .closing }
      | none => none
    else none
  | .serveClose =>
    if s.serve = .closing then
      match s.pConnDone.close with
      | .ok ch => some { s with pConnDone := ch, serve := .exited }
      | .error e => some (s.crash (.chan e))
    else none
  | .message i m =>
    s.conns[i]?.bind fun nc => if nc.reading then some (s.message i nc m) else none
  | .readTimeout i =>
    s.conns[i]?.bind fun nc =>
      if nc.reading then some (s.setConn i { nc with timedOut := true }) else none
  | .connTimeout i =>
    s.conns[i]?.bind fun nc =>
      if nc.selecting && nc.timedOut then some (s.shutdown i nc .serve) else none
  | .connCtxDone i =>
    s.conns[i]?.bind fun nc =>
      if nc.selecting && s.cancelled then some (s.shutdown i nc .serve) else none
  | .connShutdown i =>
    s.conns[i]?.bind fun nc =>
      if nc.selecting && !nc.phase.isOpen then some (s.setConn i { nc with serveReturned := true })
      else none
  | .shutdownStep i => s.conns[i]?.bind fun nc => s.shutdownStep i nc
  | .requestTimeout i =>
    s.conns[i]?.bind fun nc =>
      if nc.requesting && nc.phase.caller? != some .requester then
        some (s.shutdown i nc .requester)
      else none

/-- One step; after a panic there is none. -/
def step (s : PFCPNode) (e : NodeEvent) : Option PFCPNode :=
  if s.panicked.isSome then none else s.act e

/-- A run: the events in order, each step taken by its goroutine. -/
def run (s : PFCPNode) : List NodeEvent → Option PFCPNode
  | [] => some s
  | e :: es => (s.step e).bind fun s' => s'.run es

variable {s s' : PFCPNode}

theorem step_eq_act (h : s.panicked = none) (e : NodeEvent) : s.step e = s.act e := by
  simp [step, h]

theorem step_of_panicked (h : s.panicked.isSome) (e : NodeEvent) : s.step e = none := by
  simp [step, h]

theorem panicked_of_step {e : NodeEvent} (h : s.step e = some s') : s.panicked = none := by
  cases hq : s.panicked with
  | none => rfl
  | some q => simp [step, hq] at h

@[simp] theorem run_nil : s.run [] = some s := rfl

theorem run_cons (e : NodeEvent) (es : List NodeEvent) :
    s.run (e :: es) = (s.step e).bind fun s' => s'.run es := rfl

theorem run_cons_of_step {e : NodeEvent} (h : s.step e = some s') (es : List NodeEvent) :
    s.run (e :: es) = s'.run es := by
  rw [run_cons, h]
  rfl

theorem run_append (es es' : List NodeEvent) :
    s.run (es ++ es') = (s.run es).bind fun s' => s'.run es' := by
  induction es generalizing s with
  | nil => rfl
  | cons e es ih =>
    simp only [List.cons_append, run_cons]
    cases s.step e with
    | none => rfl
    | some s₁ => exact ih

/-- Runs compose: a run, then a run from where it ended. -/
theorem run_append_of_eq {s₁ s₂ : PFCPNode} {es es' : List NodeEvent} (h₁ : s.run es = some s₁)
    (h₂ : s₁.run es' = some s₂) : s.run (es ++ es') = some s₂ := by
  rw [run_append, h₁]
  exact h₂

/-- After a panic nothing happens. -/
theorem run_of_panicked (h : s.panicked.isSome) {es : List NodeEvent} (hrun : s.run es = some s') :
    s' = s := by
  cases es with
  | nil => cases hrun; rfl
  | cons e es => simp [run_cons, step_of_panicked h] at hrun

/-- A run that ends without a panic starts from a state without one. -/
theorem panicked_of_run {es : List NodeEvent} (hrun : s.run es = some s') (hp : s'.panicked = none) :
    s.panicked = none := by
  cases hq : s.panicked with
  | none => rfl
  | some q =>
    rw [run_of_panicked (by simp [hq]) hrun, hq] at hp
    cases hp

/-- A run that does not block takes its first step. -/
theorem run_cons_eq_some {e : NodeEvent} {es : List NodeEvent} (h : s.run (e :: es) = some s') :
    ∃ s₁, s.step e = some s₁ ∧ s₁.run es = some s' := by
  rw [run_cons] at h
  cases h₁ : s.step e with
  | none => rw [h₁] at h; cases h
  | some s₁ => rw [h₁] at h; exact ⟨s₁, rfl, h⟩

/-! ### The steps of `Serve` and of the connections' select loops -/

section ServeSteps

theorem step_stop (hp : s.panicked = none) : s.step .stop = some { s with cancelled := true } := by
  rw [step_eq_act hp]
  rfl

theorem step_serveCtxDone (hp : s.panicked = none) (hserve : s.serve = .loop)
    (hc : s.cancelled = true) :
    s.step .serveCtxDone = some { s with listenerClosed := true, serve := .clearLoop } := by
  simp [step_eq_act hp, act, hserve, hc]

/-- The `default` case of `clearLoop`. -/
theorem step_serveClear_of_nil (hp : s.panicked = none) (hserve : s.serve = .clearLoop)
    (hbuf : s.pConnDone.buf = []) (hopen : s.pConnDone.closed = false) :
    s.step .serveClear = some { s with serve := .checkLen } := by
  simp [step_eq_act hp, act, hserve, Chan.recv_of_nil_open hbuf hopen]

theorem step_serveCheckLen (hp : s.panicked = none) (hserve : s.serve = .checkLen) :
    s.step .serveCheckLen =
      some { s with serve := if 0 < s.pConnDone.buf.length then .rangeLoop else .closing } := by
  simp [step_eq_act hp, act, hserve]

theorem step_serveClose (hp : s.panicked = none) (hserve : s.serve = .closing)
    {ch : Chan String} (hclose : s.pConnDone.close = .ok ch) :
    s.step .serveClose = some { s with pConnDone := ch, serve := .exited } := by
  simp [step_eq_act hp, act, hserve, hclose]

variable {i : Nat} {nc : NodeConn}

theorem step_connCtxDone (hi : s.conns[i]? = some nc) (hp : s.panicked = none)
    (hsel : nc.selecting = true) (hc : s.cancelled = true) :
    s.step (.connCtxDone i) = some (s.shutdown i nc .serve) := by
  simp [step_eq_act hp, act, hi, hsel, hc]

theorem step_message (hi : s.conns[i]? = some nc) (hp : s.panicked = none)
    (hread : nc.reading = true) (m : Msg) :
    s.step (.message i m) = some (s.message i nc m) := by
  simp [step_eq_act hp, act, hi, hread]

/-- A goroutine of the connection that sends requests, not itself in `Shutdown`, gives up on a
request. -/
theorem step_requestTimeout (hi : s.conns[i]? = some nc) (hp : s.panicked = none)
    (hreq : nc.requesting = true) (hcaller : nc.phase.caller? ≠ some .requester) :
    s.step (.requestTimeout i) = some (s.shutdown i nc .requester) := by
  simp [step_eq_act hp, act, hi, hreq, hcaller]

theorem shutdown_of_isOpen (hopen : nc.phase.isOpen = true) (caller : Caller) :
    s.shutdown i nc caller =
      s.setConn i { nc with phase := .cleaning caller (nc.conn.store.entries.map (·.2)) } := by
  simp only [shutdown, hopen, if_true]

theorem shutdown_of_not_isOpen (hopen : nc.phase.isOpen = false) (caller : Caller) :
    s.shutdown i nc caller = s.crash (.chan .closeOfClosed) := by
  simp [shutdown, hopen]

end ServeSteps

/-! ### The steps of a `Shutdown` -/

section ShutdownSteps

variable {i : Nat} {nc : NodeConn} {caller : Caller}

theorem step_shutdownStep (hi : s.conns[i]? = some nc) (hp : s.panicked = none) :
    s.step (.shutdownStep i) = s.shutdownStep i nc := by
  simp [step_eq_act hp, act, hi]

theorem step_shutdownStep_cleaning_cons (hi : s.conns[i]? = some nc) (hp : s.panicked = none)
    {session : PFCPSession} {pending : List PFCPSession}
    (hph : nc.phase = .cleaning caller (session :: pending)) :
    s.step (.shutdownStep i) =
      some (s.update i { nc with phase := .cleaning caller pending } ((s.view nc).cleanupOne session)) := by
  rw [step_shutdownStep hi hp, shutdownStep, hph]

theorem step_shutdownStep_cleaning_nil (hi : s.conns[i]? = some nc) (hp : s.panicked = none)
    (hph : nc.phase = .cleaning caller []) :
    s.step (.shutdownStep i) = some (s.update i { nc with phase := .notifying caller } (s.view nc)) := by
  rw [step_shutdownStep hi hp, shutdownStep, hph]

/-- `pConn.done <- rAddr` with room in `pConnDone`. -/
theorem step_shutdownStep_notifying (hi : s.conns[i]? = some nc) (hp : s.panicked = none)
    (hph : nc.phase = .notifying caller) {ch : Chan String}
    (hsend : s.pConnDone.send nc.rAddr = some (.ok ch)) :
    s.step (.shutdownStep i) =
      some { s.setConn i { nc with phase := .closing caller } with pConnDone := ch } := by
  rw [step_shutdownStep hi hp, shutdownStep, hph, hsend]
  rfl

/-- `pConn.done <- rAddr` once the node's `Serve` has closed `pConnDone`. -/
theorem step_shutdownStep_notifying_closed (hi : s.conns[i]? = some nc) (hp : s.panicked = none)
    (hph : nc.phase = .notifying caller) (hclosed : s.pConnDone.closed = true) :
    s.step (.shutdownStep i) = some (s.crash (.chan .sendOnClosed)) := by
  rw [step_shutdownStep hi hp, shutdownStep, hph, Chan.send_of_closed _ _ hclosed]
  rfl

theorem step_shutdownStep_closing_newPeers (hi : s.conns[i]? = some nc) (hp : s.panicked = none)
    (hph : nc.phase = .closing .newPeers) :
    s.step (.shutdownStep i) = some (s.register i { nc with phase := .closed }) := by
  rw [step_shutdownStep hi hp, shutdownStep, hph]

end ShutdownSteps

/-- The three `select`s of `Serve` that take an address from `pConnDone`, with where `Serve` is
when it makes each. -/
def Receives : NodeEvent → ServePc → Prop
  | .serveDone, .loop | .serveClear, .clearLoop | .serveRange, .rangeLoop => True
  | _, _ => False

theorem step_of_receives {e : NodeEvent} {pc : ServePc} (he : Receives e pc)
    (hp : s.panicked = none) (hpc : s.serve = pc) {p : String} {ch : Chan String}
    (hrecv : s.pConnDone.recv = some (some p, ch)) : s.step e = some (s.received p ch) := by
  rw [step_eq_act hp]
  cases e <;> cases pc <;> simp_all [Receives, act]

/-- **`Serve` drains `pConnDone`.** At a `select` that takes from it, `Serve` can take everything
`pConnDone` holds, oldest first, deleting each address from `pConns`. -/
theorem run_drain {e : NodeEvent} {pc : ServePc} (he : Receives e pc) :
    ∀ (l : List String) (s : PFCPNode), s.pConnDone.buf = l → s.panicked = none → s.serve = pc →
      ∃ ch : Chan String, ch.buf = [] ∧ ch.cap = s.pConnDone.cap ∧
        ch.closed = s.pConnDone.closed ∧
        s.run (List.replicate l.length e) =
          some { s with pConnDone := ch, pConns := l.foldl (fun m p => m.erase p) s.pConns }
  | [], s, hbuf, _, _ => ⟨s.pConnDone, hbuf, rfl, rfl, rfl⟩
  | p :: l, s, hbuf, hp, hpc => by
    obtain ⟨ch₁, hrecv, hbuf₁, hcap₁, hclosed₁⟩ := Chan.recv_of_cons hbuf
    obtain ⟨ch, hch, hcap, hclosed, hrun⟩ :=
      run_drain he l (s.received p ch₁) hbuf₁ hp hpc
    refine ⟨ch, hch, hcap.trans hcap₁, hclosed.trans hclosed₁, ?_⟩
    rw [List.length_cons, List.replicate_succ, run_cons_of_step (step_of_receives he hp hpc hrecv)]
    exact hrun

end PFCPNode

/-- The states of a node started over the peers `peers`. -/
inductive NodeReachable (peers : List String) : PFCPNode → Prop
  | init (upf : Upf) (metrics : Metrics.Service) (rngOf : Nat → Nat → UInt64) :
      NodeReachable peers (PFCPNode.init upf metrics rngOf peers)
  | step {s s' : PFCPNode} (e : NodeEvent) :
      NodeReachable peers s → s.step e = some s' → NodeReachable peers s'

/-- A node started over `peers`, with a UPF whose access and core addresses are `10.0.0.1` and
`10.0.0.2`, with no UE pool, over a datapath that accepts every call. -/
def sampleNode (peers : List String) : PFCPNode :=
  PFCPNode.init
    { accessIP := [10, 0, 0, 1], coreIP := [10, 0, 0, 2], ippool := none,
      teidAllocator := NewIDAllocator 1 0xFFFFFFFF, datapath := { answer := fun _ => 1 } }
    {} (fun _ n => (n + 1).toUInt64) peers

theorem NodeReachable.run {peers : List String} {s s' : PFCPNode} (hs : NodeReachable peers s) :
    ∀ {es : List NodeEvent}, s.run es = some s' → NodeReachable peers s'
  | [], h => by cases h; exact hs
  | _ :: _, h => by
    obtain ⟨s₁, h₁, h⟩ := PFCPNode.run_cons_eq_some h
    exact (hs.step _ h₁).run h

end Pfcpiface
