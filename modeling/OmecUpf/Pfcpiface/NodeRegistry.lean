import Mathlib
import OmecUpf.Pfcpiface.Node

/-!
# The node's map of connections

`handleNewPeers` tells the packets of a known peer from those of a new one by `pConns`, and the
node's `Serve` deletes an address from it when the connection's `Shutdown` says so on
`pConnDone`. This module follows that map over every interleaving of the node's goroutines.

* `Tag`, `PFCPNode.tags`: what the map depends on in each connection; `RegistryStep`,
  `step_registryStep`: what one step can do to the connections' tags, to `pConns` and to
  `pConnDone`, said once;
* `RegistryInv`, kept by each kind of step, and `NodeReachable.registry`;
* **`live_conn_registered`**: in a node started over distinct peers, after any interleaving of
  its goroutines, every connection whose `Serve` has started and whose `Shutdown` has not sent its
  address on `pConnDone` is the one `pConns` holds for its peer. So two never serve one peer, and
  no completion taken from `pConnDone` deletes the entry of a connection still serving;
* `LockedOut`, `NodeReachable.lockedOut_run`; `run_newPeer_release`,
  **`release_first_locks_out`**: a peer whose first packet is an Association Release Request can
  be shut out for good.

`NewPFCPConn` hands the first packet to `HandlePFCPMsg` before it stores the connection, and an
Association Release runs `Shutdown` there: the completion goes to `pConnDone` before the
connection is in `pConns`. When the node's `Serve` takes every completion in `pConnDone`, the new
one last, `Store` then records a connection that has shut down, and no completion will ever
delete it. So in a node started over distinct peers, from every state where `handleNewPeers` can
read a first packet from a new address `p` and `pConnDone` has room, some interleaving leads to a
state from which, in every later state, `pConns` holds that connection for `p` and every
connection to `p` has shut down: every packet from `p` is dropped.
-/

namespace Pfcpiface

open Go

/-- What `pConns` depends on in a connection: its peer's address, whether `Serve` has started,
whether `Shutdown` has sent its address on `pConnDone`, and whether `NewPFCPConn` is still making
it. -/
structure Tag where
  rAddr : String
  started : Bool
  notified : Bool
  creating : Bool
  deriving DecidableEq

def NodeConn.tag (nc : NodeConn) : Tag :=
  ⟨nc.rAddr, nc.started, nc.phase.notified, nc.phase.caller? == some .newPeers⟩

namespace PFCPNode

/-- The tags of the connections, in order. -/
def tags (s : PFCPNode) : List Tag := s.conns.map NodeConn.tag

variable {s s' : PFCPNode} {i : Nat} {nc nc' : NodeConn}

theorem busy_eq_any_creating (s : PFCPNode) : s.busy = s.tags.any (·.creating) := by
  simp [busy, tags, NodeConn.tag, List.any_map, Function.comp_def]

theorem getElem?_tags (s : PFCPNode) (i : Nat) : s.tags[i]? = s.conns[i]?.map NodeConn.tag := by
  simp [tags]

/-- Changing a connection but not its tag leaves the tags as they were. -/
theorem tags_setConn (hi : s.conns[i]? = some nc) (ht : nc'.tag = nc.tag) :
    (s.setConn i nc').tags = s.tags := by
  obtain ⟨hlt, hnc⟩ := List.getElem?_eq_some_iff.mp hi
  apply List.ext_getElem?
  intro j
  by_cases hij : i = j
  · subst hij
    simp [tags, hlt, hnc, ht]
  · simp [tags, List.getElem?_set_ne hij]

theorem tags_setConn_eq_set (i : Nat) (nc' : NodeConn) :
    (s.setConn i nc').tags = s.tags.set i nc'.tag := by
  simp [tags, List.map_set]

theorem tags_update (i : Nat) (nc' : NodeConn) (c : PFCPConn) :
    (s.update i nc' c).tags = (s.setConn i nc').tags := by
  simp [tags, List.map_set, NodeConn.tag]

theorem tags_register (i : Nat) (nc' : NodeConn) :
    (s.register i nc').tags = s.tags.set i { nc'.tag with started := true } := by
  simp [tags, List.map_set, NodeConn.tag]

theorem tags_append (s : PFCPNode) (nc : NodeConn) :
    ({ s with conns := s.conns ++ [nc] } : PFCPNode).tags = s.tags ++ [nc.tag] := by
  simp [tags]

end PFCPNode

/-- What one step does to the map of connections. Apart from a panic, either nothing it reads
changes, or `Serve` takes an address from `pConnDone` and deletes it, or a `Shutdown` sends its
address, or `NewPFCPConn` stores a connection after its `Shutdown`, or `handleNewPeers` makes a
connection for an address `pConns` does not hold, stored or still in `NewPFCPConn`. -/
inductive RegistryStep (s s' : PFCPNode) : Prop where
  | crash : s'.panicked.isSome → RegistryStep s s'
  | frame : s'.tags = s.tags → s'.pConns = s.pConns → s'.pConnDone.buf = s.pConnDone.buf →
      RegistryStep s s'
  | receive (p : String) : s.pConnDone.buf = p :: s'.pConnDone.buf →
      s'.pConns = s.pConns.erase p → s'.tags = s.tags → RegistryStep s s'
  | notify (i : Nat) (t : Tag) : s.tags[i]? = some t → t.notified = false →
      s'.tags = s.tags.set i { t with notified := true } → s'.pConns = s.pConns →
      s'.pConnDone.buf = s.pConnDone.buf ++ [t.rAddr] → RegistryStep s s'
  | register (i : Nat) (t : Tag) : s.tags[i]? = some t → t.creating = true → t.notified = true →
      s'.tags = s.tags.set i { t with started := true, creating := false } →
      s'.pConns = s.pConns.insert t.rAddr i → s'.pConnDone.buf = s.pConnDone.buf →
      RegistryStep s s'
  | connect (p : String) : p ∉ s.pConns → s.busy = false →
      s'.tags = s.tags ++ [⟨p, true, false, false⟩] → s'.pConns = s.pConns.insert p s.conns.length →
      s'.pConnDone.buf = s.pConnDone.buf → RegistryStep s s'
  | create (p : String) : p ∉ s.pConns → s.busy = false →
      s'.tags = s.tags ++ [⟨p, false, false, true⟩] → s'.pConns = s.pConns →
      s'.pConnDone.buf = s.pConnDone.buf → RegistryStep s s'

namespace PFCPNode

variable {s s' : PFCPNode} {i : Nat} {nc : NodeConn}

theorem registryStep_setConn (hi : s.conns[i]? = some nc) {nc' : NodeConn} (ht : nc'.tag = nc.tag) :
    RegistryStep s (s.setConn i nc') :=
  .frame (tags_setConn hi ht) rfl rfl

theorem registryStep_update (hi : s.conns[i]? = some nc) {nc' : NodeConn} (ht : nc'.tag = nc.tag)
    (c : PFCPConn) : RegistryStep s (s.update i nc' c) :=
  .frame ((tags_update i nc' c).trans (tags_setConn hi ht)) rfl rfl

theorem registryStep_crash (p : NodePanic) : RegistryStep s (s.crash p) := .crash rfl

/-- A `Shutdown` that `NewPFCPConn` did not call changes no tag, or panics. -/
theorem registryStep_shutdown (hi : s.conns[i]? = some nc) {caller : Caller}
    (hc : caller ≠ .newPeers) : RegistryStep s (s.shutdown i nc caller) := by
  unfold shutdown
  split
  · rename_i hopen
    apply registryStep_setConn hi
    cases hp : nc.phase <;> simp_all [NodeConn.tag, Phase.notified, Phase.caller?, Phase.isOpen]
  · exact registryStep_crash _

theorem registryStep_message (hi : s.conns[i]? = some nc) (m : Msg) :
    RegistryStep s (s.message i nc m) := by
  unfold message
  split
  · exact registryStep_shutdown hi (by decide)
  · split
    · -- the flag of a heartbeat monitor is no part of the tag
      exact registryStep_update hi (by rfl) _
    · exact registryStep_crash _

theorem registryStep_shutdownStep (hi : s.conns[i]? = some nc) (h : s.shutdownStep i nc = some s') :
    RegistryStep s s' := by
  unfold shutdownStep at h
  split at h
  · -- one session deleted
    cases h
    exact registryStep_update hi (by simp_all [NodeConn.tag, Phase.notified, Phase.caller?]) _
  · cases h
    exact registryStep_update hi (by simp_all [NodeConn.tag, Phase.notified, Phase.caller?]) _
  · -- `pConn.done <- rAddr`
    rename_i caller hphase
    obtain ⟨r, hsend, rfl⟩ := Option.map_eq_some_iff.mp h
    cases r with
    | error e => exact registryStep_crash _
    | ok ch =>
      obtain ⟨hbuf, -, -, -⟩ := Chan.send_eq_ok hsend
      refine .notify i nc.tag (by simp [getElem?_tags, hi]) (by simp [NodeConn.tag, hphase,
        Phase.notified]) ?_ rfl (by simpa [NodeConn.tag] using hbuf)
      show (s.setConn i { nc with phase := .closing caller }).tags = _
      rw [tags_setConn_eq_set]
      simp [NodeConn.tag, hphase, Phase.notified, Phase.caller?]
  · cases h
    exact registryStep_setConn hi (by simp_all [NodeConn.tag, Phase.notified, Phase.caller?])
  · cases h
    exact registryStep_setConn hi (by simp_all [NodeConn.tag, Phase.notified, Phase.caller?])
  · cases h
    exact registryStep_setConn hi (by simp_all [NodeConn.tag, Phase.notified, Phase.caller?])
  · -- the end of `NewPFCPConn`
    rename_i hphase
    cases h
    refine .register i nc.tag (by simp [getElem?_tags, hi])
      (by simp [NodeConn.tag, hphase, Phase.caller?]) (by simp [NodeConn.tag, hphase, Phase.notified])
      ?_ (by simp [NodeConn.tag]) rfl
    rw [tags_register]
    simp [NodeConn.tag, Phase.notified, Phase.caller?, hphase]
  · cases h
  · cases h

/-- A new connection is stored, or is in its `Shutdown` inside `NewPFCPConn`, unless its address
is known. -/
theorem registryStep_handleNewPeer (hbusy : s.busy = false) (p : String) (msg : Option Msg) :
    RegistryStep s (s.handleNewPeer p msg) := by
  unfold handleNewPeer
  split
  · exact .frame rfl rfl rfl
  · rename_i hp
    split
    · exact .connect p hp hbusy (by rw [tags_register]; simp [tags, NodeConn.tag, Phase.notified,
        Phase.caller?, newConn]) (by simp [newConn]) rfl
    · refine .create p hp hbusy ?_ rfl rfl
      simp [shutdown, Phase.isOpen, tags, NodeConn.tag, Phase.notified, Phase.caller?, newConn]
    · dsimp only
      split
      · refine .connect p hp hbusy ?_ (by simp [newConn]) rfl
        rw [tags_register]
        simp [tags, NodeConn.tag, Phase.notified, Phase.caller?, newConn]
      · exact .crash rfl

/-- `Serve` took an address from `pConnDone`. -/
theorem registryStep_received {ch : Chan String} {p : String}
    (hrecv : s.pConnDone.recv = some (some p, ch)) : RegistryStep s (s.received p ch) := by
  rcases Chan.recv_cases hrecv with ⟨a, ha, hbuf, -, -⟩ | ⟨h, -⟩
  · cases ha
    exact .receive p hbuf rfl rfl
  · cases h

/-- **One step, said once.** Every step of the node is one of the kinds of `RegistryStep`. -/
theorem step_registryStep {e : NodeEvent} (h : s.step e = some s') : RegistryStep s s' := by
  rw [step_eq_act (panicked_of_step h)] at h
  cases e with
  | stop => cases h; exact .frame rfl rfl rfl
  | newPeer p msg =>
    simp only [act] at h
    split at h
    · cases h
    · cases h
      exact registryStep_handleNewPeer (by simp_all) p msg
  | serveDone =>
    simp only [act] at h
    split at h
    · split at h
      · cases h
        exact registryStep_received ‹_›
      · cases h
    · cases h
  | serveCtxDone =>
    simp only [act] at h
    split at h
    · cases h; exact .frame rfl rfl rfl
    · cases h
  | serveClear =>
    simp only [act] at h
    split at h
    · split at h
      · cases h
        exact registryStep_received ‹_›
      · cases h; exact .frame rfl rfl rfl
    · cases h
  | serveCheckLen =>
    simp only [act] at h
    split at h
    · cases h; exact .frame rfl rfl rfl
    · cases h
  | serveRange =>
    simp only [act] at h
    split at h
    · split at h
      · cases h
        exact registryStep_received ‹_›
      · cases h; exact .frame rfl rfl rfl
      · cases h
    · cases h
  | serveClose =>
    simp only [act] at h
    split at h
    · split at h
      · cases h
        exact .frame rfl rfl (Chan.close_eq_ok ‹_›).1
      · cases h
        exact registryStep_crash _
    · cases h
  | message i m =>
    obtain ⟨nc, hi, h⟩ := Option.bind_eq_some_iff.mp h
    split at h
    · cases h
      exact registryStep_message hi m
    · cases h
  | readTimeout i =>
    obtain ⟨nc, hi, h⟩ := Option.bind_eq_some_iff.mp h
    split at h
    · cases h
      exact registryStep_setConn hi rfl
    · cases h
  | connTimeout i =>
    obtain ⟨nc, hi, h⟩ := Option.bind_eq_some_iff.mp h
    split at h
    · cases h
      exact registryStep_shutdown hi (by decide)
    · cases h
  | connCtxDone i =>
    obtain ⟨nc, hi, h⟩ := Option.bind_eq_some_iff.mp h
    split at h
    · cases h
      exact registryStep_shutdown hi (by decide)
    · cases h
  | connShutdown i =>
    obtain ⟨nc, hi, h⟩ := Option.bind_eq_some_iff.mp h
    split at h
    · cases h
      exact registryStep_setConn hi rfl
    · cases h
  | shutdownStep i =>
    obtain ⟨nc, hi, h⟩ := Option.bind_eq_some_iff.mp h
    exact registryStep_shutdownStep hi h
  | requestTimeout i =>
    obtain ⟨nc, hi, h⟩ := Option.bind_eq_some_iff.mp h
    split at h
    · cases h
      exact registryStep_shutdown hi (by decide)
    · cases h

end PFCPNode

/-! ## The invariant -/

section Lists

variable {α : Type}

theorem getElem?_set_eq_some {l : List α} {i j : Nat} {a b : α} (h : (l.set i a)[j]? = some b) :
    (j = i ∧ b = a) ∨ (j ≠ i ∧ l[j]? = some b) := by
  rw [List.getElem?_set] at h
  split_ifs at h with hij
  · exact .inl ⟨hij.symm, (Option.some.inj h).symm⟩
  · exact .inr ⟨Ne.symm hij, h⟩

theorem getElem?_concat_eq_some {l : List α} {x b : α} {j : Nat} (h : (l ++ [x])[j]? = some b) :
    l[j]? = some b ∨ (j = l.length ∧ b = x) := by
  rcases Nat.lt_or_ge j l.length with hj | hj
  · rw [List.getElem?_append_left hj] at h
    exact .inl h
  · rw [List.getElem?_append_right hj] at h
    obtain ⟨hj', hb⟩ := List.getElem?_eq_some_iff.mp h
    simp only [List.length_singleton] at hj'
    exact .inr ⟨by omega, by simpa using hb.symm⟩

theorem getElem?_concat_of_getElem? {l : List α} {x b : α} {j : Nat} (h : l[j]? = some b) :
    (l ++ [x])[j]? = some b := by
  rw [List.getElem?_append_left (List.getElem?_eq_some_iff.mp h).1, h]

end Lists

/-- The map of connections is right: every started connection that has not sent its address on
`pConnDone` is stored under it, and what waits in `pConnDone` can only delete connections that
have. `NewPFCPConn` holds at most one connection it has not started, whose address is not
stored. -/
structure RegistryInv (tags : List Tag) (pConns : AList fun _ : String => Nat) (buf : List String) :
    Prop where
  live : ∀ (i : Nat) (t : Tag), tags[i]? = some t → t.started = true → t.notified = false →
    pConns.lookup t.rAddr = some i
  pending : ∀ p ∈ buf, ∀ j, pConns.lookup p = some j →
    ∃ t : Tag, tags[j]? = some t ∧ t.notified = true
  nodup : buf.Nodup
  creating : ∀ (i : Nat) (t : Tag), tags[i]? = some t → t.creating = !t.started
  unstarted : ∀ (i : Nat) (t : Tag), tags[i]? = some t → t.started = false →
    t.rAddr ∉ pConns ∧ ∀ (j : Nat) (t' : Tag), tags[j]? = some t' → t'.started = false → j = i
  waiting : ∀ p ∈ buf, p ∈ pConns ∨
    ∃ (i : Nat) (t : Tag), tags[i]? = some t ∧ t.started = false ∧ t.rAddr = p ∧ t.notified = true

/-- The invariant of a node. -/
def PFCPNode.Registry (s : PFCPNode) : Prop := RegistryInv s.tags s.pConns s.pConnDone.buf

namespace RegistryInv

variable {tags : List Tag} {pConns : AList fun _ : String => Nat} {buf : List String}

/-- `Serve` deletes the address it takes: the connection stored under it, if any, has sent it. -/
theorem receive {p : String} (h : RegistryInv tags pConns (p :: buf)) :
    RegistryInv tags (pConns.erase p) buf where
  live i t ht hs hn := by
    have hl := h.live i t ht hs hn
    have hne : t.rAddr ≠ p := by
      rintro rfl
      obtain ⟨t', ht', hnot⟩ := h.pending t.rAddr List.mem_cons_self i hl
      rw [ht] at ht'
      cases ht'
      simp [hn] at hnot
    rwa [AList.lookup_erase_ne hne]
  pending q hq j hj := by
    have hne : q ≠ p := by
      rintro rfl
      simp [AList.lookup_erase] at hj
    rw [AList.lookup_erase_ne hne] at hj
    exact h.pending q (List.mem_cons_of_mem _ hq) j hj
  nodup := (List.nodup_cons.mp h.nodup).2
  creating := h.creating
  unstarted i t ht hs := by
    obtain ⟨hnot, huniq⟩ := h.unstarted i t ht hs
    exact ⟨fun hm => hnot (AList.mem_erase.mp hm).2, huniq⟩
  waiting q hq := by
    rcases h.waiting q (List.mem_cons_of_mem _ hq) with hm | hw
    · have hne : q ≠ p := fun hqp => (List.nodup_cons.mp h.nodup).1 (hqp ▸ hq)
      exact .inl (AList.mem_erase.mpr ⟨hne, hm⟩)
    · exact .inr hw

/-- A `Shutdown` sends its address on `pConnDone`: the connection is now one that has. -/
theorem notify {i : Nat} {t : Tag} (h : RegistryInv tags pConns buf) (hi : tags[i]? = some t)
    (hn : t.notified = false) :
    RegistryInv (tags.set i { t with notified := true }) pConns (buf ++ [t.rAddr]) := by
  have hlt : i < tags.length := (List.getElem?_eq_some_iff.mp hi).1
  -- every tag keeps its address, `started` and `creating`; those that had notified still have
  have hold : ∀ (j : Nat) (t' : Tag), (tags.set i { t with notified := true })[j]? = some t' →
      ∃ t₀ : Tag, tags[j]? = some t₀ ∧ t₀.rAddr = t'.rAddr ∧ t₀.started = t'.started ∧
        t₀.creating = t'.creating := by
    intro j t' hj
    rcases getElem?_set_eq_some hj with ⟨rfl, rfl⟩ | ⟨-, hj⟩
    · exact ⟨t, hi, rfl, rfl, rfl⟩
    · exact ⟨t', hj, rfl, rfl, rfl⟩
  have hkeep : ∀ (j : Nat) (t₀ : Tag), tags[j]? = some t₀ → t₀.notified = true →
      ∃ t' : Tag, (tags.set i { t with notified := true })[j]? = some t' ∧ t'.notified = true := by
    intro j t₀ hj hn₀
    by_cases hji : j = i
    · subst hji
      exact ⟨_, List.getElem?_set_self hlt, rfl⟩
    · exact ⟨t₀, by rw [List.getElem?_set_ne (Ne.symm hji), hj], hn₀⟩
  have hnew : (tags.set i { t with notified := true })[i]? = some { t with notified := true } :=
    List.getElem?_set_self hlt
  -- the connection that sends its address is stored under it, or is the one not started
  have hlive : t.started = true → pConns.lookup t.rAddr = some i := fun hs => h.live i t hi hs hn
  have hfresh : t.rAddr ∉ buf := by
    intro hmem
    cases hs : t.started with
    | true =>
      obtain ⟨t', ht', hn'⟩ := h.pending t.rAddr hmem i (hlive hs)
      rw [hi] at ht'
      cases ht'
      simp [hn] at hn'
    | false =>
      obtain ⟨hnot, huniq⟩ := h.unstarted i t hi hs
      rcases h.waiting t.rAddr hmem with hm | ⟨k, t₁, hk, hs₁, ha₁, hn₁⟩
      · exact hnot hm
      · obtain rfl := huniq k t₁ hk hs₁
        rw [hi] at hk
        cases hk
        simp [hn] at hn₁
  refine ⟨?live, ?pending, ?nodup, ?creating, ?unstarted, ?waiting⟩
  case live =>
    intro j t' hj hs' hn'
    rcases getElem?_set_eq_some hj with ⟨-, rfl⟩ | ⟨-, hj⟩
    · simp at hn'
    · exact h.live j t' hj hs' hn'
  case pending =>
    intro q hq j hj
    rcases List.mem_append.mp hq with hq | hq
    · obtain ⟨t₀, ht₀, hn₀⟩ := h.pending q hq j hj
      exact hkeep j t₀ ht₀ hn₀
    · obtain rfl := List.mem_singleton.mp hq
      by_cases hs : t.started = true
      · rw [hlive hs] at hj
        cases hj
        exact ⟨_, hnew, rfl⟩
      · exact absurd (AList.lookup_isSome.mp (by simp [hj]))
          (h.unstarted i t hi (by simpa using hs)).1
  case nodup =>
    refine List.nodup_append.mpr ⟨h.nodup, by simp, ?_⟩
    intro a ha b hb hab
    rw [List.mem_singleton.mp hb] at hab
    exact hfresh (hab ▸ ha)
  case creating =>
    intro j t' hj
    obtain ⟨t₀, ht₀, -, hs, hc⟩ := hold j t' hj
    rw [← hs, ← hc]
    exact h.creating j t₀ ht₀
  case unstarted =>
    intro j t' hj hs'
    obtain ⟨t₀, ht₀, ha, hs, -⟩ := hold j t' hj
    obtain ⟨hnot, huniq⟩ := h.unstarted j t₀ ht₀ (hs.trans hs')
    refine ⟨ha ▸ hnot, fun k t'' hk hs'' => ?_⟩
    obtain ⟨t₁, ht₁, -, hs₁, -⟩ := hold k t'' hk
    exact huniq k t₁ ht₁ (hs₁.trans hs'')
  case waiting =>
    intro q hq
    rcases List.mem_append.mp hq with hq | hq
    · rcases h.waiting q hq with hm | ⟨k, t₁, hk, hs₁, ha₁, hn₁⟩
      · exact .inl hm
      · obtain ⟨t', ht', hn'⟩ := hkeep k t₁ hk hn₁
        obtain ⟨t₀, ht₀, ha, hs, -⟩ := hold k t' ht'
        rw [hk] at ht₀
        cases ht₀
        exact .inr ⟨k, t', ht', hs ▸ hs₁, ha ▸ ha₁, hn'⟩
    · obtain rfl := List.mem_singleton.mp hq
      by_cases hs : t.started = true
      · exact .inl (AList.lookup_isSome.mp (by simp [hlive hs]))
      · exact .inr ⟨i, _, hnew, by simpa using hs, rfl, rfl⟩

/-- `NewPFCPConn` stores the connection whose `Shutdown` it ran. -/
theorem register {i : Nat} {t : Tag} (h : RegistryInv tags pConns buf) (hi : tags[i]? = some t)
    (hc : t.creating = true) (hn : t.notified = true) :
    RegistryInv (tags.set i { t with started := true, creating := false })
      (pConns.insert t.rAddr i) buf := by
  have hlt : i < tags.length := (List.getElem?_eq_some_iff.mp hi).1
  have hs : t.started = false := by simpa [hc] using (h.creating i t hi).symm
  obtain ⟨hnot, huniq⟩ := h.unstarted i t hi hs
  -- every other connection was started
  have hother : ∀ (j : Nat) (t' : Tag), tags[j]? = some t' → j ≠ i → t'.started = true := by
    intro j t' hj hji
    cases hs' : t'.started with
    | true => rfl
    | false => exact absurd (huniq j t' hj hs') hji
  refine ⟨?live, ?pending, h.nodup, ?creating, ?unstarted, ?waiting⟩
  case live =>
    intro j t' hj hs' hn'
    rcases getElem?_set_eq_some hj with ⟨-, rfl⟩ | ⟨hji, hj⟩
    · simp [hn] at hn'
    · have hl := h.live j t' hj hs' hn'
      have hne : t'.rAddr ≠ t.rAddr := fun he => hnot (he ▸ AList.lookup_isSome.mp (by simp [hl]))
      rwa [AList.lookup_insert_ne hne]
  case pending =>
    intro q hq j hj
    by_cases hqt : q = t.rAddr
    · subst hqt
      rw [AList.lookup_insert] at hj
      cases hj
      exact ⟨_, List.getElem?_set_self hlt, hn⟩
    · rw [AList.lookup_insert_ne hqt] at hj
      obtain ⟨t₀, ht₀, hn₀⟩ := h.pending q hq j hj
      by_cases hji : j = i
      · subst hji
        exact ⟨_, List.getElem?_set_self hlt, hn⟩
      · exact ⟨t₀, by rw [List.getElem?_set_ne (Ne.symm hji), ht₀], hn₀⟩
  case creating =>
    intro j t' hj
    rcases getElem?_set_eq_some hj with ⟨-, rfl⟩ | ⟨-, hj⟩
    · rfl
    · exact h.creating j t' hj
  case unstarted =>
    intro j t' hj hs'
    rcases getElem?_set_eq_some hj with ⟨-, rfl⟩ | ⟨hji, hj⟩
    · simp at hs'
    · simp [hother j t' hj hji] at hs'
  case waiting =>
    intro q hq
    rcases h.waiting q hq with hm | ⟨k, t₁, hk, hs₁, ha₁, -⟩
    · exact .inl ((AList.mem_insert _).mpr (.inr hm))
    · obtain rfl := huniq k t₁ hk hs₁
      rw [hi] at hk
      cases hk
      exact .inl ((AList.mem_insert _).mpr (.inl ha₁.symm))

/-- With no connection being made, every connection was started. -/
theorem started_of_not_creating (h : RegistryInv tags pConns buf)
    (hnone : tags.any (·.creating) = false) {j : Nat} {t : Tag} (hj : tags[j]? = some t) :
    t.started = true := by
  have hc : t.creating = false := by
    simpa using List.any_eq_false.mp hnone t (List.mem_of_getElem? hj)
  simpa [hc] using h.creating j t hj

/-- With no connection being made, every connection to an address that `pConns` does not hold
has sent its completion. -/
theorem notified_of_not_mem (h : RegistryInv tags pConns buf)
    (hnone : tags.any (·.creating) = false) {p : String} (hp : p ∉ pConns) {k : Nat} {t : Tag}
    (hk : tags[k]? = some t) (ha : t.rAddr = p) : t.notified = true := by
  by_contra hn
  have hlive := h.live k t hk (h.started_of_not_creating hnone hk) (by simpa using hn)
  exact hp (ha ▸ AList.lookup_isSome.mp (by simp [hlive]))

/-- `handleNewPeers` makes and stores a connection for an address `pConns` does not hold. -/
theorem connect {p : String} (h : RegistryInv tags pConns buf) (hp : p ∉ pConns)
    (hnone : tags.any (·.creating) = false) :
    RegistryInv (tags ++ [⟨p, true, false, false⟩]) (pConns.insert p tags.length) buf := by
  have hall := fun j t (hj : tags[j]? = some t) => h.started_of_not_creating hnone hj
  -- no address waiting in `pConnDone` is the new one
  have hbuf : ∀ q ∈ buf, q ∈ pConns := by
    intro q hq
    rcases h.waiting q hq with hm | ⟨k, t₁, hk, hs₁, -⟩
    · exact hm
    · simp [hall k t₁ hk] at hs₁
  refine ⟨?live, ?pending, h.nodup, ?creating, ?unstarted, ?waiting⟩
  case live =>
    intro j t hj hs hn
    rcases getElem?_concat_eq_some hj with hj | ⟨rfl, rfl⟩
    · have hl := h.live j t hj hs hn
      have hne : t.rAddr ≠ p := fun he => hp (he ▸ AList.lookup_isSome.mp (by simp [hl]))
      rw [AList.lookup_insert_ne hne, hl]
    · exact AList.lookup_insert _
  case pending =>
    intro q hq j hj
    have hne : q ≠ p := fun he => hp (he ▸ hbuf q hq)
    rw [AList.lookup_insert_ne hne] at hj
    obtain ⟨t₀, ht₀, hn₀⟩ := h.pending q hq j hj
    exact ⟨t₀, getElem?_concat_of_getElem? ht₀, hn₀⟩
  case creating =>
    intro j t hj
    rcases getElem?_concat_eq_some hj with hj | ⟨-, rfl⟩
    · exact h.creating j t hj
    · rfl
  case unstarted =>
    intro j t hj hs
    rcases getElem?_concat_eq_some hj with hj | ⟨-, rfl⟩
    · simp [hall j t hj] at hs
    · simp at hs
  case waiting => exact fun q hq => .inl ((AList.mem_insert _).mpr (.inr (hbuf q hq)))

/-- `handleNewPeers` makes a connection for an address `pConns` does not hold, and keeps it
in `NewPFCPConn` for its `Shutdown`. -/
theorem create {p : String} (h : RegistryInv tags pConns buf) (hp : p ∉ pConns)
    (hnone : tags.any (·.creating) = false) :
    RegistryInv (tags ++ [⟨p, false, false, true⟩]) pConns buf := by
  have hall := fun j t (hj : tags[j]? = some t) => h.started_of_not_creating hnone hj
  refine ⟨?live, ?pending, h.nodup, ?creating, ?unstarted, ?waiting⟩
  case live =>
    intro j t hj hs hn
    rcases getElem?_concat_eq_some hj with hj | ⟨-, rfl⟩
    · exact h.live j t hj hs hn
    · simp at hs
  case pending =>
    intro q hq j hj
    obtain ⟨t₀, ht₀, hn₀⟩ := h.pending q hq j hj
    exact ⟨t₀, getElem?_concat_of_getElem? ht₀, hn₀⟩
  case creating =>
    intro j t hj
    rcases getElem?_concat_eq_some hj with hj | ⟨-, rfl⟩
    · exact h.creating j t hj
    · rfl
  case unstarted =>
    intro j t hj hs
    rcases getElem?_concat_eq_some hj with hj | ⟨rfl, rfl⟩
    · simp [hall j t hj] at hs
    · refine ⟨hp, fun k t' hk hs' => ?_⟩
      rcases getElem?_concat_eq_some hk with hk | ⟨rfl, -⟩
      · simp [hall k t' hk] at hs'
      · rfl
  case waiting =>
    intro q hq
    rcases h.waiting q hq with hm | ⟨k, t₁, hk, hs₁, -⟩
    · exact .inl hm
    · simp [hall k t₁ hk] at hs₁

end RegistryInv

/-! ## Every reachable node -/

section Init

theorem lookup_foldl_insert_zipIdx_of_not_mem {a : String} :
    ∀ {l : List String} (m : AList fun _ : String => Nat) (k : Nat), a ∉ l →
      ((l.zipIdx k).foldl (fun m p => m.insert p.1 p.2) m).lookup a = m.lookup a
  | [], _, _, _ => rfl
  | b :: l, m, k, ha => by
    simp only [List.zipIdx_cons, List.foldl_cons]
    rw [lookup_foldl_insert_zipIdx_of_not_mem _ _ (fun h => ha (List.mem_cons_of_mem _ h)),
      AList.lookup_insert_ne (fun h => ha (by subst h; exact List.mem_cons_self))]

/-- `tryConnectToN4Peers` stores the `i`-th peer under `i`, when no peer is listed twice. -/
theorem lookup_foldl_insert_zipIdx :
    ∀ {l : List String}, l.Nodup → ∀ (m : AList fun _ : String => Nat) (k i : Nat) (p : String),
      l[i]? = some p → ((l.zipIdx k).foldl (fun m p => m.insert p.1 p.2) m).lookup p = some (k + i)
  | [], _, _, _, _, _, h => by simp at h
  | b :: l, hl, m, k, 0, p, h => by
    simp only [List.getElem?_cons_zero, Option.some.injEq] at h
    subst h
    simp only [List.zipIdx_cons, List.foldl_cons]
    rw [lookup_foldl_insert_zipIdx_of_not_mem _ _ (List.nodup_cons.mp hl).1, AList.lookup_insert]
    rfl
  | b :: l, hl, m, k, i + 1, p, h => by
    simp only [List.zipIdx_cons, List.foldl_cons]
    rw [lookup_foldl_insert_zipIdx (List.nodup_cons.mp hl).2 _ (k + 1) i p (by simpa using h)]
    congr 1
    omega

theorem getElem?_tags_init (upf : Upf) (metrics : Metrics.Service) (rngOf : Nat → Nat → UInt64)
    (peers : List String) (i : Nat) :
    (PFCPNode.init upf metrics rngOf peers).tags[i]? = peers[i]?.map fun p => ⟨p, true, false, false⟩ := by
  simp [PFCPNode.init, PFCPNode.getElem?_tags, List.getElem?_mapIdx, NodeConn.tag, Phase.notified,
    Phase.caller?, Function.comp_def]

theorem registry_init {peers : List String} (hpeers : peers.Nodup) (upf : Upf)
    (metrics : Metrics.Service) (rngOf : Nat → Nat → UInt64) :
    (PFCPNode.init upf metrics rngOf peers).Registry := by
  have htag : ∀ (i : Nat) (t : Tag), (PFCPNode.init upf metrics rngOf peers).tags[i]? = some t →
      peers[i]? = some t.rAddr ∧ t.started = true ∧ t.notified = false ∧ t.creating = false := by
    intro i t hi
    rw [getElem?_tags_init] at hi
    obtain ⟨p, hp, rfl⟩ := Option.map_eq_some_iff.mp hi
    exact ⟨hp, rfl, rfl, rfl⟩
  refine ⟨?live, ?pending, ?nodup, ?creating, ?unstarted, ?waiting⟩
  case live =>
    intro i t hi _ _
    have h := lookup_foldl_insert_zipIdx hpeers ∅ 0 i t.rAddr (htag i t hi).1
    rwa [Nat.zero_add] at h
  case creating =>
    intro i t hi
    obtain ⟨-, hs, -, hc⟩ := htag i t hi
    rw [hs, hc]
    rfl
  case unstarted =>
    intro i t hi hs
    simp [(htag i t hi).2.1] at hs
  all_goals simp [PFCPNode.init]

end Init

namespace RegistryStep

variable {s s' : PFCPNode}

/-- Each kind of step keeps the invariant. -/
theorem registry (hstep : RegistryStep s s') (h : s.Registry) (hp : s'.panicked = none) :
    s'.Registry := by
  unfold PFCPNode.Registry at *
  cases hstep with
  | crash hc => simp [hp] at hc
  | frame ht hc hb => rw [ht, hc, hb]; exact h
  | receive p hb hc ht =>
    rw [hb] at h
    rw [hc, ht]
    exact h.receive
  | notify i t hi hn ht hc hb =>
    rw [ht, hc, hb]
    exact h.notify hi hn
  | register i t hi hc hn ht hpc hb =>
    rw [ht, hpc, hb]
    exact h.register hi hc hn
  | connect p hnot hbusy ht hpc hb =>
    rw [ht, hpc, hb, show s.conns.length = s.tags.length by simp [PFCPNode.tags]]
    exact h.connect hnot (by rwa [PFCPNode.busy_eq_any_creating] at hbusy)
  | create p hnot hbusy ht hpc hb =>
    rw [ht, hpc, hb]
    exact h.create hnot (by rwa [PFCPNode.busy_eq_any_creating] at hbusy)

end RegistryStep

/-- The invariant holds of every node started over distinct peers, up to a panic. -/
theorem NodeReachable.registry {peers : List String} (hpeers : peers.Nodup) {s : PFCPNode}
    (hs : NodeReachable peers s) (hp : s.panicked = none) : s.Registry := by
  induction hs with
  | init upf metrics rngOf => exact registry_init hpeers upf metrics rngOf
  | step e _ hstep ih =>
    exact (PFCPNode.step_registryStep hstep).registry (ih (PFCPNode.panicked_of_step hstep)) hp

/-- **One live connection per peer.** -/
theorem live_conn_registered {peers : List String} (hpeers : peers.Nodup) {s : PFCPNode}
    (hs : NodeReachable peers s) (hp : s.panicked = none) {i : Nat} {nc : NodeConn}
    (hi : s.conns[i]? = some nc) (hstarted : nc.started = true) (hlive : nc.phase.notified = false) :
    s.pConns.lookup nc.rAddr = some i ∧
      ∀ j nc', s.conns[j]? = some nc' → nc'.started = true → nc'.phase.notified = false →
        nc'.rAddr = nc.rAddr → j = i := by
  have hreg := hs.registry hpeers hp
  have hlook : ∀ j nc', s.conns[j]? = some nc' → nc'.started = true →
      nc'.phase.notified = false → s.pConns.lookup nc'.rAddr = some j := fun j nc' hj hs' hn' =>
    hreg.live j nc'.tag (by simp [PFCPNode.getElem?_tags, hj]) hs' hn'
  refine ⟨hlook i nc hi hstarted hlive, fun j nc' hj hs' hn' ha => ?_⟩
  have h₁ := hlook j nc' hj hs' hn'
  rw [ha, hlook i nc hi hstarted hlive] at h₁
  exact (Option.some.inj h₁).symm

/-- A second peer's first packet makes connection `1`; the read of connection `0` times out, its
`Shutdown` runs to its end, and `Serve` takes its completion. -/
def churnEvents : List NodeEvent :=
  [.newPeer "10.0.0.7:8805" none, .readTimeout 0, .connTimeout 0, .shutdownStep 0,
   .shutdownStep 0, .shutdownStep 0, .serveDone]

/-- After connection `0` has shut down and been deleted from `pConns`, the new peer is served by
its connection `1`. -/
theorem live_conn_registered_sample :
    ∃ t nc, (sampleNode ["10.0.0.9:8805"]).run churnEvents = some t ∧ t.conns[1]? = some nc ∧
      t.pConns.lookup nc.rAddr = some 1 ∧ t.pConns.lookup "10.0.0.9:8805" = none := by
  -- the run is evaluated once, and what the theorem needs of it read off
  have hrun : ((sampleNode ["10.0.0.9:8805"]).run churnEvents).map (fun t =>
      t.panicked.isNone && t.pConns.lookup "10.0.0.9:8805" == none && t.conns[1]?.map (fun nc =>
        nc.started && !nc.phase.notified) == some true) = some true := by
    decide +kernel
  obtain ⟨t, ht, hcheck⟩ := Option.map_eq_some_iff.mp hrun
  simp only [Bool.and_eq_true, Option.isNone_iff_eq_none, beq_iff_eq, Option.map_eq_some_iff,
    Bool.not_eq_true'] at hcheck
  obtain ⟨⟨hp, hgone⟩, nc, hnc, hstarted, hlive⟩ := hcheck
  exact ⟨t, nc, ht, hnc, (live_conn_registered (by decide) ((NodeReachable.init _ _ _).run ht) hp hnc
    hstarted hlive).1, hgone⟩

/-! ## A peer shut out -/

/-- Address `p` is stored under connection `n`, no completion for it waits in `pConnDone`, and
every connection to `p` has sent its completion: nothing will ever delete `p` from `pConns`, and
`handleNewPeers` drops every packet from it. -/
structure LockedOut (p : String) (n : Nat) (tags : List Tag)
    (pConns : AList fun _ : String => Nat) (buf : List String) : Prop where
  stored : pConns.lookup p = some n
  not_waiting : p ∉ buf
  done : ∀ (k : Nat) (t : Tag), tags[k]? = some t → t.rAddr = p → t.notified = true

namespace RegistryStep

variable {s s' : PFCPNode} {p : String} {n : Nat}

/-- Each kind of step keeps a shut-out peer shut out. -/
theorem lockedOut (hstep : RegistryStep s s') (hreg : s.Registry)
    (h : LockedOut p n s.tags s.pConns s.pConnDone.buf) (hp : s'.panicked = none) :
    LockedOut p n s'.tags s'.pConns s'.pConnDone.buf := by
  have hmem : p ∈ s.pConns := AList.lookup_isSome.mp (by simp [h.stored])
  cases hstep with
  | crash hc => simp [hp] at hc
  | frame ht hc hb => rw [ht, hc, hb]; exact h
  | receive q hb hc ht =>
    have hne : p ≠ q := fun he => h.not_waiting (by rw [hb, he]; exact List.mem_cons_self)
    refine ⟨by rw [hc, AList.lookup_erase_ne hne]; exact h.stored, fun hq => h.not_waiting ?_,
      by rw [ht]; exact h.done⟩
    rw [hb]
    exact List.mem_cons_of_mem _ hq
  | notify i t hi hn ht hc hb =>
    have hne : t.rAddr ≠ p := fun he => by simp [h.done i t hi he] at hn
    refine ⟨by rw [hc]; exact h.stored, ?_, ?_⟩
    · rw [hb]
      simpa [Ne.symm hne] using h.not_waiting
    · intro k t' hk ha
      rw [ht] at hk
      rcases getElem?_set_eq_some hk with ⟨-, rfl⟩ | ⟨-, hk⟩
      · rfl
      · exact h.done k t' hk ha
  | register i t hi hc hn ht hpc hb =>
    have hs : t.started = false := by simpa [hc] using (hreg.creating i t hi).symm
    have hne : p ≠ t.rAddr := fun he => (hreg.unstarted i t hi hs).1 (he ▸ hmem)
    refine ⟨by rw [hpc, AList.lookup_insert_ne hne]; exact h.stored, by rw [hb]; exact h.not_waiting,
      ?_⟩
    intro k t' hk ha
    rw [ht] at hk
    rcases getElem?_set_eq_some hk with ⟨-, rfl⟩ | ⟨-, hk⟩
    · exact hn
    · exact h.done k t' hk ha
  | connect q hq _ ht hpc hb =>
    have hne : p ≠ q := fun he => hq (he ▸ hmem)
    refine ⟨by rw [hpc, AList.lookup_insert_ne hne]; exact h.stored, by rw [hb]; exact h.not_waiting,
      ?_⟩
    intro k t' hk ha
    rw [ht] at hk
    rcases getElem?_concat_eq_some hk with hk | ⟨-, rfl⟩
    · exact h.done k t' hk ha
    · exact absurd ha.symm hne
  | create q hq _ ht hpc hb =>
    have hne : p ≠ q := fun he => hq (he ▸ hmem)
    refine ⟨by rw [hpc]; exact h.stored, by rw [hb]; exact h.not_waiting, ?_⟩
    intro k t' hk ha
    rw [ht] at hk
    rcases getElem?_concat_eq_some hk with hk | ⟨-, rfl⟩
    · exact h.done k t' hk ha
    · exact absurd ha.symm hne

end RegistryStep

/-- A shut-out peer stays shut out in every later state of a run without a panic. -/
theorem NodeReachable.lockedOut_run {peers : List String} (hpeers : peers.Nodup) {p : String}
    {n : Nat} : ∀ {es : List NodeEvent} {s s'' : PFCPNode}, NodeReachable peers s →
      LockedOut p n s.tags s.pConns s.pConnDone.buf → s.run es = some s'' → s''.panicked = none →
      LockedOut p n s''.tags s''.pConns s''.pConnDone.buf
  | [], _, _, _, h, hrun, _ => by cases hrun; exact h
  | _ :: _, s, s'', hs, h, hrun, hp => by
    obtain ⟨s₁, h₁, hrun⟩ := PFCPNode.run_cons_eq_some hrun
    have hp₁ := PFCPNode.panicked_of_run hrun hp
    exact NodeReachable.lockedOut_run hpeers (hs.step _ h₁)
      ((PFCPNode.step_registryStep h₁).lockedOut
        (hs.registry hpeers (PFCPNode.panicked_of_step h₁)) h hp₁) hrun hp

namespace PFCPNode

theorem step_newPeer_release {s : PFCPNode} (hp : s.panicked = none)
    (hl : s.listenerClosed = false) (hb : s.busy = false) {p : String} (hnew : p ∉ s.pConns)
    (seq : UInt32) :
    s.step (.newPeer p (some (.associationReleaseRequest seq))) =
      some { s with conns := s.conns ++ [{ s.newConn p with phase := .cleaning .newPeers [] }] } := by
  simp [step_eq_act hp, act, hl, hb, handleNewPeer, hnew, shutdown, Phase.isOpen, newConn,
    PFCPConn.init]

end PFCPNode

namespace PFCPNode

/-- **`NewPFCPConn` for a first Association Release Request stores a connection that has shut
down**, after `Serve` has taken its completion. -/
theorem run_newPeer_release {s : PFCPNode} (hp : s.panicked = none) (hserve : s.serve = .loop)
    (hlistener : s.listenerClosed = false) (hbusy : s.busy = false)
    (hopen : s.pConnDone.closed = false) (hroom : s.pConnDone.buf.length < s.pConnDone.cap)
    {p : String} (hnew : p ∉ s.pConns) (seq : UInt32) :
    ∃ es s', s.run (.newPeer p (some (.associationReleaseRequest seq)) :: es) = some s' ∧
      s'.tags = s.tags ++ [⟨p, true, true, false⟩] ∧ s'.pConns.lookup p = some s.conns.length ∧
      s'.pConnDone.buf = [] := by
  set n := s.conns.length with hn
  set nc₀ := s.newConn p with hnc₀
  -- the new connection at each phase of its `Shutdown`, inside `NewPFCPConn`
  have hat : ∀ (x : NodeConn) (ch : Chan String) (m : AList fun _ : String => Nat),
      ({ s with conns := s.conns ++ [x], pConnDone := ch, pConns := m } : PFCPNode).conns[n]? =
        some x := fun x ch m => by simp [hn]
  set nc₁ : NodeConn := { nc₀ with conn := s.view nc₀ } with hnc₁
  obtain ⟨ch, hsend, hbuf, -, hclosed⟩ := Chan.send_of_lt s.pConnDone p hopen hroom
  have h₁ := step_newPeer_release hp hlistener hbusy hnew seq
  have h₂ : ({ s with conns := s.conns ++ [{ nc₀ with phase := .cleaning .newPeers [] }] } :
      PFCPNode).step (.shutdownStep n) =
        some { s with conns := s.conns ++ [{ nc₁ with phase := .notifying .newPeers }] } := by
    rw [step_shutdownStep_cleaning_nil (hat _ s.pConnDone s.pConns) hp rfl]
    simp [hn, hnc₁, view]
  have h₃ : ({ s with conns := s.conns ++ [{ nc₁ with phase := .notifying .newPeers }] } :
      PFCPNode).step (.shutdownStep n) =
        some { s with conns := s.conns ++ [{ nc₁ with phase := .closing .newPeers }],
                      pConnDone := ch } := by
    rw [step_shutdownStep_notifying (hat _ s.pConnDone s.pConns) hp rfl hsend]
    simp [hn]
  -- `Serve` takes every completion, the new connection's last
  obtain ⟨ch', hch', -, -, h₄⟩ := run_drain (show Receives .serveDone .loop from trivial) ch.buf
    { s with conns := s.conns ++ [{ nc₁ with phase := .closing .newPeers }], pConnDone := ch } rfl
    hp hserve
  set s₄ : PFCPNode :=
    { s with conns := s.conns ++ [{ nc₁ with phase := .closing .newPeers }], pConnDone := ch',
             pConns := ch.buf.foldl (fun m p => m.erase p) s.pConns }
  have h₅ := step_shutdownStep_closing_newPeers
    (hat { nc₁ with phase := .closing .newPeers } ch' (ch.buf.foldl (fun m p => m.erase p) s.pConns))
    hp rfl
  -- `NewPFCPConn` up to its send, then `Serve`, then `Store`
  have h₁₃ : s.run [.newPeer p (some (.associationReleaseRequest seq)), .shutdownStep n,
      .shutdownStep n] =
        some { s with conns := s.conns ++ [{ nc₁ with phase := .closing .newPeers }],
                      pConnDone := ch } := by
    rw [run_cons_of_step h₁, run_cons_of_step h₂, run_cons_of_step h₃, run_nil]
  have hrun := run_append_of_eq (run_append_of_eq h₁₃ h₄) ((run_cons_of_step h₅ []).trans run_nil)
  refine ⟨_, _, hrun, ?_, ?_, ?_⟩
  · rw [tags_register]
    simp [tags, hn, NodeConn.tag, Phase.notified, Phase.caller?, hnc₁, hnc₀, newConn]
  · simp [hnc₁, hnc₀, newConn]
  · simp [hch']

end PFCPNode

/-- **A peer whose first packet is an Association Release Request can be shut out for good**:
`pConns` keeps a connection to it that has shut down, and drops its packets. -/
theorem release_first_locks_out {peers : List String} (hpeers : peers.Nodup) {s : PFCPNode}
    (hs : NodeReachable peers s) (hp : s.panicked = none) (hserve : s.serve = .loop)
    (hlistener : s.listenerClosed = false) (hbusy : s.busy = false)
    (hopen : s.pConnDone.closed = false) (hroom : s.pConnDone.buf.length < s.pConnDone.cap)
    {p : String} (hnew : p ∉ s.pConns) (seq : UInt32) :
    ∃ es s', s.run (.newPeer p (some (.associationReleaseRequest seq)) :: es) = some s' ∧
      ∀ es' s'', s'.run es' = some s'' → s''.panicked = none →
        s''.pConns.lookup p = some s.conns.length ∧
          ∀ (k : Nat) (nc : NodeConn), s''.conns[k]? = some nc → nc.rAddr = p →
            nc.phase.notified = true := by
  obtain ⟨es, s', hrun, htags, hstored, hbuf⟩ :=
    PFCPNode.run_newPeer_release hp hserve hlistener hbusy hopen hroom hnew seq
  have hnone : s.tags.any (·.creating) = false := by
    rwa [PFCPNode.busy_eq_any_creating] at hbusy
  -- the connections to `p` made before had all shut down, and so has the new one
  have hlock : LockedOut p s.conns.length s'.tags s'.pConns s'.pConnDone.buf := by
    refine ⟨hstored, by simp [hbuf], fun k t hk ha => ?_⟩
    rw [htags] at hk
    rcases getElem?_concat_eq_some hk with hk | ⟨-, rfl⟩
    · exact (hs.registry hpeers hp).notified_of_not_mem hnone hnew hk ha
    · rfl
  refine ⟨es, s', hrun, fun es' s'' hrun' hp'' => ?_⟩
  have hlock'' := (hs.run hrun).lockedOut_run hpeers hlock hrun' hp''
  exact ⟨hlock''.stored, fun k nc hk ha =>
    hlock''.done k nc.tag (by simp [PFCPNode.getElem?_tags, hk]) ha⟩

/-- On a node with no peer yet, the first packet from `10.0.0.9:8805` is an Association Release:
that address is shut out. -/
theorem release_first_locks_out_sample :
    ∃ es s', (sampleNode []).run
        (.newPeer "10.0.0.9:8805" (some (.associationReleaseRequest 1)) :: es) = some s' ∧
      ∀ es' s'', s'.run es' = some s'' → s''.panicked = none →
        s''.pConns.lookup "10.0.0.9:8805" = some 0 ∧
          ∀ (k : Nat) (nc : NodeConn), s''.conns[k]? = some nc → nc.rAddr = "10.0.0.9:8805" →
            nc.phase.notified = true :=
  release_first_locks_out (List.nodup_nil : ([] : List String).Nodup) (.init _ _ _) rfl rfl rfl rfl rfl
    (by decide) (by simp [PFCPNode.init]) 1

end Pfcpiface
