import Mathlib
import OmecUpf.Pfcpiface.Node

/-!
# Stopping a node

`Stop` cancels the context that `Serve` and the select loop of every connection watch. `Serve`
then closes the listener, takes without blocking what `pConnDone` holds (`clearLoop`), and closes
`pConnDone` when `len(pConnDone)` is zero; otherwise it ranges over `pConnDone` until it is
closed. A connection whose select loop takes `ctx.Done()` runs `Shutdown`: it deletes its
sessions, sends its address on `pConnDone` and closes its socket. Nothing orders the two sides.

* `run_cleanup`, `run_cleaning`, **`run_shutdown`**: a `Shutdown` whose steps follow one another
  deletes the sessions as `PFCPConn.shutdown` does, and reaches its send on `pConnDone`;
  `run_connCtxDone`: the same, started by the select loop on `ctx.Done()`;
* `run_stop_clear`: after `Stop`, `Serve` can empty `pConnDone` and leave `clearLoop`;
* `step_stranded`, `run_stranded`: only `Serve` moves `Serve` or closes `pConnDone`;
* **`stop_panics_send_on_closed`**: after `Stop`, `Serve` can empty `pConnDone`, find
  `len(pConnDone)` zero and close it before a connection whose `Shutdown` has not begun takes
  `ctx.Done()`; that `Shutdown` then sends on the closed channel, and the process panics;
* **`stop_strands_serve`**: a completion sent between `clearLoop` and `len(pConnDone)` leaves
  `Serve` in its range over `pConnDone` for ever, so it never closes `node.done`. With room in
  `pConnDone`, a connection can send its completion after `Serve` has left `clearLoop` and before
  it reads `len(pConnDone)`; `Serve` then ranges over `pConnDone`, which only `Serve` closes, after
  that range, so `Done` waits for ever;
* **`release_during_stop_panics`**: an Association Release Request makes the reader of a
  connection run `Shutdown`, which closes `pConn.shutdown`; if the node stops before the select
  loop has taken it, the loop may take `ctx.Done()` instead, and its own `Shutdown` closes
  `pConn.shutdown` a second time;
* **`requester_shutdown_after_stop_panics`**: when the node stops, the select loop of a
  connection takes `ctx.Done()` and runs `Shutdown`; its `sendAssociationRequest` or heartbeat
  monitor can still see its request time out, and its own `Shutdown` closes `pConn.shutdown` a
  second time.
-/

namespace Pfcpiface

open Go

namespace PFCPNode

variable {s s' : PFCPNode} {i : Nat} {nc : NodeConn}

/-! ### A `Shutdown` run on its own -/

@[simp] theorem update_update (a b : NodeConn) (c c' : PFCPConn) :
    (s.update i a c).update i b c' = s.update i b c' := by
  simp

@[simp] theorem update_setConn (a b : NodeConn) (c : PFCPConn) :
    (s.setConn i a).update i b c = s.update i b c := by
  simp

/-- The connection just written back is the one its goroutines see. -/
theorem view_update (a : NodeConn) (c : PFCPConn) :
    (s.update i a c).view { a with conn := c } = c := rfl

theorem getElem?_update (hlt : i < s.conns.length) (a : NodeConn) (c : PFCPConn) :
    (s.update i a c).conns[i]? = some { a with conn := c } := by
  simp [hlt]

/-- **The cleanup loop of `Shutdown`.** From `cleaning caller L`, the steps of the `Shutdown` on
connection `i` delete the sessions of `L` in turn and reach its send. -/
theorem run_cleanup {caller : Caller} :
    ∀ (L : List PFCPSession) (t : PFCPNode) (nc : NodeConn), t.conns[i]? = some nc →
      nc.phase = .cleaning caller L → t.panicked = none →
      t.run (List.replicate (L.length + 1) (.shutdownStep i)) =
        some (t.update i { nc with phase := .notifying caller }
          (L.foldl PFCPConn.cleanupOne (t.view nc)))
  | [], t, nc, hi, hph, hp => by
    rw [List.length_nil, Nat.zero_add, List.replicate_one,
      run_cons_of_step (step_shutdownStep_cleaning_nil hi hp hph), run_nil]
    rfl
  | x :: L, t, nc, hi, hph, hp => by
    have hlt : i < t.conns.length := (List.getElem?_eq_some_iff.mp hi).1
    -- the state after one session, whose connection is again at `cleaning`
    rw [List.length_cons, List.replicate_succ,
      run_cons_of_step (step_shutdownStep_cleaning_cons hi hp hph),
      run_cleanup L _ _ (getElem?_update hlt _ _) rfl hp, view_update, update_update]
    simp

/-- From `cleaning` with every session of the store, the steps of the `Shutdown` delete them as
`PFCPConn.shutdown` does and reach the send. -/
theorem run_cleaning (hi : s.conns[i]? = some nc) (hp : s.panicked = none) (caller : Caller) :
    (s.setConn i { nc with phase := .cleaning caller (nc.conn.store.entries.map (·.2)) }).run
        (List.replicate (nc.conn.store.entries.length + 1) (.shutdownStep i)) =
      some (s.update i { nc with phase := .notifying caller } (s.view nc).shutdown) := by
  have hlt : i < s.conns.length := (List.getElem?_eq_some_iff.mp hi).1
  let nc₁ : NodeConn := { nc with phase := .cleaning caller (nc.conn.store.entries.map (·.2)) }
  have hrun := run_cleanup (i := i) _ (s.setConn i nc₁) nc₁ (by simp [hlt, nc₁]) rfl hp
  rw [List.length_map] at hrun
  rw [hrun, update_setConn, PFCPConn.shutdown_eq_foldl]
  rfl

/-- **A `Shutdown` on its own is `PFCPConn.shutdown`.** Once `close(pConn.shutdown)` has
succeeded, the steps of the `Shutdown` leave the connection, the `Upf` and the metrics as the
functional model's `PFCPConn.shutdown` leaves them, and reach `pConn.done <- rAddr`. -/
theorem run_shutdown (hi : s.conns[i]? = some nc) (hp : s.panicked = none)
    (hopen : nc.phase.isOpen = true) (caller : Caller) :
    (s.shutdown i nc caller).run (List.replicate (nc.conn.store.entries.length + 1) (.shutdownStep i)) =
      some (s.update i { nc with phase := .notifying caller } (s.view nc).shutdown) := by
  rw [shutdown_of_isOpen hopen]
  exact run_cleaning hi hp caller

/-- An uplink PDR `1` with FAR `1`. -/
def accessPdr : PdrIE :=
  { pdrID := some 1, precedence := some 0, pdi := some [.sourceInterface (some srcInterfaceAccess)],
    farID := some 1 }

/-- An establishment from the SMF `smf`, F-SEID `7`, of one uplink PDR. -/
def accessEstablishment : SessionEstablishmentRequest :=
  { nodeID := some "smf", cpFSEID := some { seid := 7, ipv4Address := [10, 0, 0, 9] },
    createPDR := [accessPdr] }

/-- The SMF `smf` associates with connection `0` and establishes a session on it. -/
def sessionSetupEvents : List NodeEvent :=
  [.message 0 (.associationSetupRequest { nodeID := some "smf" }),
   .message 0 (.sessionEstablishmentRequest accessEstablishment)]

/-- The `Shutdown` of the one connection of a node started over one peer, after the SMF has
established a session on it. -/
theorem run_shutdown_sample :
    ∃ t nc, (sampleNode ["10.0.0.9:8805"]).run sessionSetupEvents = some t ∧
      t.conns[0]? = some nc ∧ nc.conn.store.entries.length = 1 ∧
      (t.shutdown 0 nc .reader).run
          (List.replicate (nc.conn.store.entries.length + 1) (.shutdownStep 0)) =
        some (t.update 0 { nc with phase := .notifying .reader } (t.view nc).shutdown) := by
  -- the run is evaluated once, and what the theorem needs of it read off
  have hrun : ((sampleNode ["10.0.0.9:8805"]).run sessionSetupEvents).map (fun t =>
      t.panicked.isNone && t.conns[0]?.map (fun nc =>
        nc.phase.isOpen && nc.conn.store.entries.length == 1) == some true) = some true := by
    decide +kernel
  obtain ⟨t, ht, hcheck⟩ := Option.map_eq_some_iff.mp hrun
  simp only [Bool.and_eq_true, Option.isNone_iff_eq_none, beq_iff_eq, Option.map_eq_some_iff] at hcheck
  obtain ⟨hp, nc, hnc, hopen, hlen⟩ := hcheck
  exact ⟨t, nc, ht, hnc, hlen, run_shutdown hnc hp hopen .reader⟩

/-- The select loop of a connection whose `Shutdown` has not begun takes `ctx.Done()`, and the
steps of that `Shutdown` follow one another up to its send on `pConnDone`. -/
theorem run_connCtxDone (hi : s.conns[i]? = some nc) (hp : s.panicked = none)
    (hsel : nc.selecting = true) (hc : s.cancelled = true) (hopen : nc.phase.isOpen = true) :
    s.run (.connCtxDone i :: List.replicate (nc.conn.store.entries.length + 1) (.shutdownStep i)) =
      some (s.update i { nc with phase := .notifying .serve } (s.view nc).shutdown) := by
  rw [run_cons_of_step (step_connCtxDone hi hp hsel hc), shutdown_of_isOpen hopen]
  exact run_cleaning hi hp .serve

/-! ### `Serve` after `Stop` -/

/-- From its main loop, with `pConnDone` open, `Serve` can take `ctx.Done()`, empty `pConnDone` in
`clearLoop` and leave it by its `default` case: it is then at `len(pConnDone)`, and no connection
has moved. -/
theorem run_stop_clear (hp : s.panicked = none) (hserve : s.serve = .loop)
    (hopen : s.pConnDone.closed = false) :
    ∃ t : PFCPNode, s.run (.stop :: .serveCtxDone ::
          (List.replicate s.pConnDone.buf.length .serveClear ++ [.serveClear])) = some t ∧
      t.panicked = none ∧ t.cancelled = true ∧ t.serve = .checkLen ∧ t.conns = s.conns ∧
      t.pConnDone.buf = [] ∧ t.pConnDone.cap = s.pConnDone.cap ∧ t.pConnDone.closed = false := by
  let s₁ : PFCPNode := { s with cancelled := true }
  let s₂ : PFCPNode := { s₁ with listenerClosed := true, serve := .clearLoop }
  have h₁ : s.step .stop = some s₁ := step_stop hp
  have h₂ : s₁.step .serveCtxDone = some s₂ := step_serveCtxDone hp hserve rfl
  obtain ⟨ch, hbuf, hcap, hclosed, hdrain⟩ :=
    run_drain (show Receives .serveClear .clearLoop from trivial) s.pConnDone.buf s₂ rfl hp rfl
  -- `clearLoop` ends by its `default` case on the emptied channel
  let s₃ : PFCPNode :=
    { s₂ with pConnDone := ch, pConns := s.pConnDone.buf.foldl (fun m p => m.erase p) s₂.pConns }
  have h₃ : s₃.step .serveClear = some { s₃ with serve := .checkLen } :=
    step_serveClear_of_nil hp rfl hbuf (hclosed.trans hopen)
  refine ⟨{ s₃ with serve := .checkLen }, ?_, hp, rfl, rfl, rfl, hbuf, hcap, hclosed.trans hopen⟩
  rw [run_cons_of_step h₁, run_cons_of_step h₂]
  exact run_append_of_eq hdrain ((run_cons_of_step h₃ []).trans run_nil)

/-! ### Only `Serve` moves `Serve` -/

section ServeFrame

variable {caller : Caller}

@[simp] theorem serve_shutdown : (s.shutdown i nc caller).serve = s.serve := by
  unfold shutdown
  split <;> rfl

@[simp] theorem pConnDone_shutdown : (s.shutdown i nc caller).pConnDone = s.pConnDone := by
  unfold shutdown
  split <;> rfl

@[simp] theorem serve_message (m : Msg) : (s.message i nc m).serve = s.serve := by
  unfold message
  split
  · exact serve_shutdown
  · split <;> rfl

@[simp] theorem pConnDone_message (m : Msg) : (s.message i nc m).pConnDone = s.pConnDone := by
  unfold message
  split
  · exact pConnDone_shutdown
  · split <;> rfl

@[simp] theorem serve_handleNewPeer (p : String) (msg : Option Msg) :
    (s.handleNewPeer p msg).serve = s.serve := by
  unfold handleNewPeer
  split
  · rfl
  · split
    · rfl
    · exact serve_shutdown
    · dsimp only
      split <;> rfl

@[simp] theorem pConnDone_handleNewPeer (p : String) (msg : Option Msg) :
    (s.handleNewPeer p msg).pConnDone = s.pConnDone := by
  unfold handleNewPeer
  split
  · rfl
  · split
    · rfl
    · exact pConnDone_shutdown
    · dsimp only
      split <;> rfl

/-- A step of a `Shutdown` leaves `Serve` where it is, and `pConnDone` open or closed. -/
theorem shutdownStep_serve (h : s.shutdownStep i nc = some s') :
    s'.serve = s.serve ∧ s'.pConnDone.closed = s.pConnDone.closed := by
  unfold shutdownStep at h
  split at h
  · cases h; exact ⟨rfl, rfl⟩
  · cases h; exact ⟨rfl, rfl⟩
  · -- `pConn.done <- rAddr`, which panics or keeps `pConnDone` open
    obtain ⟨r, hsend, rfl⟩ := Option.map_eq_some_iff.mp h
    cases r with
    | error e => exact ⟨rfl, rfl⟩
    | ok ch =>
      obtain ⟨-, -, hc, hc'⟩ := Chan.send_eq_ok hsend
      exact ⟨rfl, hc'.trans hc.symm⟩
  -- the ends of a `Shutdown`, one for each caller, and the phases where it is not running
  all_goals first | (cases h; exact ⟨rfl, rfl⟩) | cases h

/-- **`Serve` in its range, for good.** While `Serve` ranges over an open `pConnDone`, no step
moves it: only `Serve` closes `pConnDone`, and it does so after its range. -/
theorem step_stranded {e : NodeEvent} (hserve : s.serve = .rangeLoop)
    (hopen : s.pConnDone.closed = false) (h : s.step e = some s') :
    s'.serve = .rangeLoop ∧ s'.pConnDone.closed = false := by
  rw [step_eq_act (panicked_of_step h)] at h
  cases e with
  | stop => cases h; exact ⟨hserve, hopen⟩
  | newPeer p msg =>
    simp only [act] at h
    split at h
    · cases h
    · cases h
      simpa using ⟨hserve, hopen⟩
  | serveRange =>
    simp only [act, hserve, if_true] at h
    split at h
    · -- an address taken: the range goes on
      cases h
      rcases Chan.recv_cases ‹_› with ⟨a, -, -, -, hc⟩ | ⟨h, -⟩
      · exact ⟨hserve, hc.trans hopen⟩
      · cases h
    · -- the end of the range needs `pConnDone` closed
      rcases Chan.recv_cases ‹_› with ⟨a, h, -⟩ | ⟨-, -, hc, -⟩
      · cases h
      · rw [hopen] at hc
        cases hc
    · cases h
  | message i m =>
    obtain ⟨nc, -, h⟩ := Option.bind_eq_some_iff.mp h
    split at h
    · cases h
      simpa using ⟨hserve, hopen⟩
    · cases h
  | readTimeout i | connShutdown i =>
    obtain ⟨nc, -, h⟩ := Option.bind_eq_some_iff.mp h
    split at h
    · cases h
      exact ⟨hserve, hopen⟩
    · cases h
  | connTimeout i | connCtxDone i | requestTimeout i =>
    obtain ⟨nc, -, h⟩ := Option.bind_eq_some_iff.mp h
    split at h
    · cases h
      simpa using ⟨hserve, hopen⟩
    · cases h
  | shutdownStep i =>
    obtain ⟨nc, -, h⟩ := Option.bind_eq_some_iff.mp h
    obtain ⟨h₁, h₂⟩ := shutdownStep_serve h
    exact ⟨h₁.trans hserve, h₂.trans hopen⟩
  | serveDone | serveCtxDone | serveClear | serveCheckLen | serveClose =>
    simp [act, hserve] at h

theorem run_stranded {es : List NodeEvent} (hserve : s.serve = .rangeLoop)
    (hopen : s.pConnDone.closed = false) (h : s.run es = some s') :
    s'.serve = .rangeLoop ∧ s'.pConnDone.closed = false := by
  induction es generalizing s with
  | nil => cases h; exact ⟨hserve, hopen⟩
  | cons e es ih =>
    obtain ⟨s₁, h₁, h⟩ := run_cons_eq_some h
    obtain ⟨hserve₁, hopen₁⟩ := step_stranded hserve hopen h₁
    exact ih hserve₁ hopen₁ h

end ServeFrame

end PFCPNode

/-! ## Races between `Serve` and `Shutdown` -/

section Races

open PFCPNode

variable {s : PFCPNode} {i : Nat} {nc : NodeConn}

/-- **`send on closed channel`** after `Stop`. -/
theorem stop_panics_send_on_closed (hp : s.panicked = none) (hserve : s.serve = .loop)
    (hopen : s.pConnDone.closed = false) (hi : s.conns[i]? = some nc)
    (hsel : nc.selecting = true) (hph : nc.phase.isOpen = true) :
    ∃ es s', s.run (.stop :: es) = some s' ∧ s'.panicked = some (.chan .sendOnClosed) := by
  obtain ⟨t, hrun, htp, htc, hts, htconns, htbuf, -, htclosed⟩ := run_stop_clear hp hserve hopen
  -- `len(pConnDone)` is zero: `Serve` closes `pConnDone` and returns
  let t₁ : PFCPNode := { t with serve := .closing }
  let t₂ : PFCPNode := { t₁ with pConnDone := { t.pConnDone with closed := true }, serve := .exited }
  have h₁ : t.step .serveCheckLen = some t₁ := by
    simpa [htbuf] using step_serveCheckLen htp hts
  have h₂ : t₁.step .serveClose = some t₂ :=
    step_serveClose (s := t₁) htp rfl (by simp [Chan.close, htclosed, t₁])
  -- only now does the connection take `ctx.Done()`; its `Shutdown` runs to its send
  have hi₂ : t₂.conns[i]? = some nc := by simpa [t₂, t₁, htconns] using hi
  let t₄ := t₂.update i { nc with phase := .notifying .serve } (t₂.view nc).shutdown
  have h₅ : t₄.step (.shutdownStep i) = some (t₄.crash (.chan .sendOnClosed)) :=
    step_shutdownStep_notifying_closed
      (getElem?_update (List.getElem?_eq_some_iff.mp hi₂).1 _ _) htp rfl rfl
  have h₁₂ : t.run [.serveCheckLen, .serveClose] = some t₂ := by
    rw [run_cons_of_step h₁, run_cons_of_step h₂, run_nil]
  have hrest := run_append_of_eq h₁₂ (run_append_of_eq (run_connCtxDone hi₂ htp hsel htc hph)
    ((run_cons_of_step h₅ []).trans run_nil))
  exact ⟨_, _, run_append_of_eq hrun hrest, rfl⟩

/-- A node started over one peer can panic this way as soon as it is stopped. -/
theorem stop_panics_send_on_closed_sample :
    ∃ es s', (sampleNode ["10.0.0.9:8805"]).run (.stop :: es) = some s' ∧
      s'.panicked = some (.chan .sendOnClosed) :=
  stop_panics_send_on_closed (i := 0) rfl rfl rfl rfl rfl rfl

/-- **After `Stop`, `Serve` can be left in its range over `pConnDone` for ever**, so that it never
closes `node.done`. -/
theorem stop_strands_serve (hp : s.panicked = none) (hserve : s.serve = .loop)
    (hopen : s.pConnDone.closed = false) (hcap : 0 < s.pConnDone.cap)
    (hi : s.conns[i]? = some nc) (hsel : nc.selecting = true) (hph : nc.phase.isOpen = true) :
    ∃ es s', s.run (.stop :: es) = some s' ∧ s'.serve = .rangeLoop ∧
      ∀ es' s'', s'.run es' = some s'' → s''.serve = .rangeLoop := by
  obtain ⟨t, hrun, htp, htc, hts, htconns, htbuf, htcap, htclosed⟩ := run_stop_clear hp hserve hopen
  have hi' : t.conns[i]? = some nc := htconns ▸ hi
  -- the connection takes `ctx.Done()` and its `Shutdown` sends its completion
  let t₂ := t.update i { nc with phase := .notifying .serve } (t.view nc).shutdown
  obtain ⟨ch, hsend, hbuf, -, hclosed⟩ :=
    Chan.send_of_lt t₂.pConnDone nc.rAddr htclosed (by simp [t₂, htbuf, htcap, hcap])
  let t₃ : PFCPNode :=
    { t₂.setConn i { nc with conn := (t.view nc).shutdown, phase := .closing .serve } with
      pConnDone := ch }
  have h₃ : t₂.step (.shutdownStep i) = some t₃ :=
    step_shutdownStep_notifying (getElem?_update (List.getElem?_eq_some_iff.mp hi').1 _ _) htp rfl
      hsend
  -- `len(pConnDone)` is one: `Serve` enters its range
  have h₄ : t₃.step .serveCheckLen = some { t₃ with serve := .rangeLoop } := by
    simpa [t₃, t₂, hbuf, htbuf] using step_serveCheckLen (s := t₃) htp hts
  have h₃₄ : t₂.run [.shutdownStep i, .serveCheckLen] = some { t₃ with serve := .rangeLoop } := by
    rw [run_cons_of_step h₃, run_cons_of_step h₄, run_nil]
  have hrest := run_append_of_eq (run_connCtxDone hi' htp hsel htc hph) h₃₄
  exact ⟨_, _, run_append_of_eq hrun hrest, rfl,
    fun _ _ h => (run_stranded rfl hclosed h).1⟩

/-- A node started over one peer can strand its `Serve` as soon as it is stopped. -/
theorem stop_strands_serve_sample :
    ∃ es s', (sampleNode ["10.0.0.9:8805"]).run (.stop :: es) = some s' ∧ s'.serve = .rangeLoop ∧
      ∀ es' s'', s'.run es' = some s'' → s''.serve = .rangeLoop :=
  stop_strands_serve (i := 0) rfl rfl rfl (by decide) rfl rfl rfl

/-- **`close of closed channel`**, from a release while the node stops. -/
theorem release_during_stop_panics (hp : s.panicked = none) (hi : s.conns[i]? = some nc)
    (hread : nc.reading = true) (hsel : nc.selecting = true) (hph : nc.phase.isOpen = true)
    (seq : UInt32) :
    ∃ s', s.run [.message i (.associationReleaseRequest seq), .stop, .connCtxDone i] = some s' ∧
      s'.panicked = some (.chan .closeOfClosed) := by
  have hlt : i < s.conns.length := (List.getElem?_eq_some_iff.mp hi).1
  let nc₁ : NodeConn := { nc with phase := .cleaning .reader (nc.conn.store.entries.map (·.2)) }
  have h₁ : s.step (.message i (.associationReleaseRequest seq)) = some (s.setConn i nc₁) := by
    rw [step_message hi hp hread]
    exact congrArg some (shutdown_of_isOpen hph .reader)
  let s₂ : PFCPNode := { s.setConn i nc₁ with cancelled := true }
  have h₂ : (s.setConn i nc₁).step .stop = some s₂ := step_stop hp
  -- the reader's `Shutdown` is not the loop's, so the loop still selects
  have hsel₁ : nc₁.selecting = true := by
    simp only [NodeConn.selecting, Bool.and_eq_true, nc₁] at hsel ⊢
    exact ⟨hsel.1, by simp [Phase.caller?]⟩
  have h₃ : s₂.step (.connCtxDone i) = some (s₂.crash (.chan .closeOfClosed)) := by
    rw [step_connCtxDone (s := s₂) (by simp [s₂, hlt]) hp hsel₁ rfl]
    exact congrArg some (shutdown_of_not_isOpen rfl .serve)
  exact ⟨_, by rw [run_cons_of_step h₁, run_cons_of_step h₂, run_cons_of_step h₃, run_nil], rfl⟩

/-- The one connection of a node started over one peer can be released while the node stops. -/
theorem release_during_stop_panics_sample :
    ∃ s', (sampleNode ["10.0.0.9:8805"]).run
        [.message 0 (.associationReleaseRequest 1), .stop, .connCtxDone 0] = some s' ∧
      s'.panicked = some (.chan .closeOfClosed) :=
  release_during_stop_panics rfl rfl rfl rfl rfl 1

/-- **`close of closed channel`, from a requester.** -/
theorem requester_shutdown_after_stop_panics (hp : s.panicked = none) (hi : s.conns[i]? = some nc)
    (hsel : nc.selecting = true) (hph : nc.phase.isOpen = true) (hreq : nc.requesting = true) :
    ∃ s', s.run [.stop, .connCtxDone i, .requestTimeout i] = some s' ∧
      s'.panicked = some (.chan .closeOfClosed) := by
  have hlt : i < s.conns.length := (List.getElem?_eq_some_iff.mp hi).1
  let s₁ : PFCPNode := { s with cancelled := true }
  have h₁ : s.step .stop = some s₁ := step_stop hp
  let nc₂ : NodeConn := { nc with phase := .cleaning .serve (nc.conn.store.entries.map (·.2)) }
  have h₂ : s₁.step (.connCtxDone i) = some (s₁.setConn i nc₂) := by
    rw [step_connCtxDone (s := s₁) hi hp hsel rfl]
    exact congrArg some (shutdown_of_isOpen hph .serve)
  -- the loop's `Shutdown` is not the requester's, which can still give up on its request
  have hi₂ : (s₁.setConn i nc₂).conns[i]? = some nc₂ := by simp [s₁, hlt]
  have h₃ : (s₁.setConn i nc₂).step (.requestTimeout i) =
      some ((s₁.setConn i nc₂).crash (.chan .closeOfClosed)) := by
    rw [step_requestTimeout hi₂ hp hreq (by simp [nc₂, Phase.caller?])]
    exact congrArg some (shutdown_of_not_isOpen rfl .requester)
  exact ⟨_, by rw [run_cons_of_step h₁, run_cons_of_step h₂, run_cons_of_step h₃, run_nil], rfl⟩

/-- The connection of a node started over one peer, whose `sendAssociationRequest` runs, can panic
this way as soon as the node is stopped. -/
theorem requester_shutdown_after_stop_panics_sample :
    ∃ s', (sampleNode ["10.0.0.9:8805"]).run [.stop, .connCtxDone 0, .requestTimeout 0] = some s' ∧
      s'.panicked = some (.chan .closeOfClosed) :=
  requester_shutdown_after_stop_panics rfl rfl rfl rfl rfl

end Races

end Pfcpiface
