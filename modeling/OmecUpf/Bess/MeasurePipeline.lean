import Mathlib
import OmecUpf.Bess.FlowMeasure

/-!
# The measurement pipeline of `up4.bess`

With `measure_flow` set, `conf/up4.bess` puts one leader `FlowMeasure` (`preQosFlowMeasure`)
where both directions leave the PDR lookup, and one follower on each forwarding gate of
`executeFAR` (`postDLQosFlowMeasure`, `postULQosFlowMeasure`). The QoS and FAR modules between
them pass a packet on or drop it, and never write its `buffer_flag`. The state is the three
modules and the packets the leader has passed on that no follower has taken and no module has
dropped; a step is one batch of a module, one drop, or one command of the controller, in any
order.

The double buffer lets the controller read a side that nothing writes: it flips the leader to
the other side, waits (`CommandFlipFlag` sleeps 10 ms) for the packets stamped with the old side
to leave the pipeline, and then reads and clears the old side of every module.

* `Follower`, `MeasurePipeline` (the roles are fields: the leader leads and the followers
  follow), `PipelineEvent`, `MeasurePipeline.step`, `MeasurePipeline.run`;
* `Quiet s`: the leader counts into the other side and no packet in flight carries `s`;
  `KeepsSide s`: side `s` of every module is as it was, or emptied;
* `step_flip_side`: a flip takes the leader off its side;
* `step_quiet`: every step but a flip keeps a quiet side quiet, and changes it in no module
  but by a clearing read;
* **`run_quiet`**: the same over any run without a flip, whatever batches the modules see,
  whatever packets are dropped and whatever is read: once side `s` is quiet (after a flip, when
  the packets stamped before it have left), the controller reads a side that nothing writes.
-/

namespace Bess

/-- The followers of `up4.bess`. -/
inductive Follower where
  | postDL
  | postUL
  deriving DecidableEq, Repr

/-- The `FlowMeasure` modules of `up4.bess` and the packets in flight between them. -/
structure MeasurePipeline where
  leader : FlowMeasure SessionStats
  postDL : FlowMeasure SessionStats
  postUL : FlowMeasure SessionStats
  inFlight : List MeasuredPacket
  leader_leads : leader.leader = true
  postDL_follows : postDL.leader = false
  postUL_follows : postUL.leader = false

/-- A step of the pipeline: a batch through the leader, whose packets then are in flight; a batch
of packets in flight through a follower; a packet dropped on the way; the controller's commands. -/
inductive PipelineEvent where
  | ingress (nowNs : UInt64) (pkts : List MeasuredPacket)
  | egress (f : Follower) (nowNs : UInt64) (pkts : List MeasuredPacket)
  | drop (pkt : MeasuredPacket)
  | flip
  | readLeader (flagToRead : UInt64) (clear : Bool)
  | readFollower (f : Follower) (flagToRead : UInt64) (clear : Bool)
  deriving DecidableEq

namespace MeasurePipeline

def follower (p : MeasurePipeline) : Follower → FlowMeasure SessionStats
  | .postDL => p.postDL
  | .postUL => p.postUL

theorem follower_follows (p : MeasurePipeline) (f : Follower) : (p.follower f).leader = false := by
  cases f
  · exact p.postDL_follows
  · exact p.postUL_follows

def setFollower (p : MeasurePipeline) :
    (f : Follower) → (m : FlowMeasure SessionStats) → m.leader = false → MeasurePipeline
  | .postDL, m, h => { p with postDL := m, postDL_follows := h }
  | .postUL, m, h => { p with postUL := m, postUL_follows := h }

@[simp] theorem leader_setFollower (p : MeasurePipeline) (f : Follower) (m) (h) :
    (p.setFollower f m h).leader = p.leader := by
  cases f <;> rfl

@[simp] theorem inFlight_setFollower (p : MeasurePipeline) (f : Follower) (m) (h) :
    (p.setFollower f m h).inFlight = p.inFlight := by
  cases f <;> rfl

@[simp] theorem follower_setFollower_self (p : MeasurePipeline) (f : Follower) (m) (h) :
    (p.setFollower f m h).follower f = m := by
  cases f <;> rfl

@[simp] theorem follower_setFollower_ne (p : MeasurePipeline) {f f' : Follower} (hf : f' ≠ f) (m) (h) :
    (p.setFollower f m h).follower f' = p.follower f' := by
  cases f <;> cases f' <;> first | rfl | exact absurd rfl hf

variable (hashAdd : List TableKey → TableKey → Bool)

/-- One step; `none` when the event cannot happen: a follower's batch of packets that are not in
flight, or a drop of a packet that is not. A failed command changes nothing. -/
def step (p : MeasurePipeline) : PipelineEvent → Option MeasurePipeline
  | .ingress nowNs pkts =>
    some { p with
      leader := (p.leader.processBatch hashAdd nowNs pkts).1
      inFlight := p.inFlight ++ (p.leader.processBatch hashAdd nowNs pkts).2
      leader_leads := (FlowMeasure.leader_processBatch hashAdd nowNs _ pkts).trans p.leader_leads }
  | .egress f nowNs pkts =>
    if pkts.Subperm p.inFlight then
      some { p.setFollower f ((p.follower f).processBatch hashAdd nowNs pkts).1
          ((FlowMeasure.leader_processBatch hashAdd nowNs _ pkts).trans (p.follower_follows f)) with
        inFlight := p.inFlight.diff pkts }
    else none
  | .drop pkt => if pkt ∈ p.inFlight then some { p with inFlight := p.inFlight.erase pkt } else none
  | .flip =>
    match h : p.leader.commandFlipFlag with
    | .ok (_, m) =>
      some { p with
        leader := m
        leader_leads := by rw [(FlowMeasure.commandFlipFlag_cases h).2.2]; exact p.leader_leads }
    | .error _ => some p
  | .readLeader flagToRead clear =>
    match h : p.leader.commandReadStats flagToRead clear with
    | .ok (_, m) =>
      some { p with
        leader := m
        leader_leads := (FlowMeasure.commandReadStats_cases h).1.trans p.leader_leads }
    | .error _ => some p
  | .readFollower f flagToRead clear =>
    match h : (p.follower f).commandReadStats flagToRead clear with
    | .ok (_, m) =>
      some (p.setFollower f m ((FlowMeasure.commandReadStats_cases h).1.trans (p.follower_follows f)))
    | .error _ => some p

def run : MeasurePipeline → List PipelineEvent → Option MeasurePipeline
  | p, [] => some p
  | p, e :: es => (p.step hashAdd e).bind fun p' => run p' es

/-- Side `s` is quiet: the leader counts into the other side, and no packet in flight carries
`s`. -/
def Quiet (p : MeasurePipeline) (s : Side) : Prop :=
  p.leader.currentFlag.side? ≠ some s ∧ ∀ pkt ∈ p.inFlight, (Flag.ofValue pkt.bufferFlag).side? ≠ some s

/-- Side `s` of a module is as it was, or emptied. -/
def KeepsSide (s : Side) (m m' : FlowMeasure SessionStats) : Prop :=
  m'.table s = m.table s ∨ m'.table s = ∅

/-- Side `s` of the leader and of both followers is as it was, or emptied. -/
def KeepsAll (s : Side) (p p' : MeasurePipeline) : Prop :=
  KeepsSide s p.leader p'.leader ∧ ∀ f, KeepsSide s (p.follower f) (p'.follower f)

theorem KeepsSide.refl (s : Side) (m : FlowMeasure SessionStats) : KeepsSide s m m := .inl rfl

theorem KeepsSide.trans {s : Side} {m₁ m₂ m₃ : FlowMeasure SessionStats} (h₁ : KeepsSide s m₁ m₂)
    (h₂ : KeepsSide s m₂ m₃) : KeepsSide s m₁ m₃ := by
  rcases h₂ with h₂ | h₂
  · rwa [KeepsSide, h₂]
  · exact .inr h₂

theorem KeepsAll.refl (s : Side) (p : MeasurePipeline) : KeepsAll s p p :=
  ⟨.refl s _, fun _ => .refl s _⟩

theorem KeepsAll.trans {s : Side} {p₁ p₂ p₃ : MeasurePipeline} (h₁ : KeepsAll s p₁ p₂)
    (h₂ : KeepsAll s p₂ p₃) : KeepsAll s p₁ p₃ :=
  ⟨h₁.1.trans h₂.1, fun f => (h₁.2 f).trans (h₂.2 f)⟩

variable {hashAdd}

/-- A flip takes the leader off the side it counted into. -/
theorem step_flip_side {p p' : MeasurePipeline} {s : Side} (h : p.step hashAdd .flip = some p')
    (hs : p.leader.currentFlag.side? = some s) : p'.leader.currentFlag.side? ≠ some s := by
  simp only [step] at h
  split at h
  · rename_i old m hflip
    cases h
    show m.currentFlag.side? ≠ some s
    rw [(FlowMeasure.commandFlipFlag_cases hflip).2.2, FlowMeasure.currentFlag_setCurrentFlag]
    exact Flag.side?_flip_ne hs
  · rename_i e hflip
    -- a leader's flip does not fail
    simp [FlowMeasure.commandFlipFlag, p.leader_leads] at hflip

/-- A packet the leader passes on carries the leader's flag. -/
theorem side_of_stamped {m : FlowMeasure SessionStats} {s : Side} (hs : m.currentFlag.side? ≠ some s)
    {pkt : MeasuredPacket} (hpkt : pkt.bufferFlag = m.currentFlag.value) :
    (Flag.ofValue pkt.bufferFlag).side? ≠ some s := by
  rwa [hpkt, Flag.ofValue_value]

/-- A read on a quiet pipeline: the module read keeps side `s` or has it emptied, and nothing
else changes. -/
theorem keepsSide_of_read {m m' : FlowMeasure SessionStats} {flagToRead : UInt64} {clear : Bool}
    {flows : List (TableKey × SessionStats)} (s : Side)
    (h : m.commandReadStats flagToRead clear = .ok (flows, m')) : KeepsSide s m m' :=
  (FlowMeasure.commandReadStats_cases h).2.2 s

/-- **Every step but a flip keeps a quiet side quiet**, and changes side `s` of no module but by
a clearing read. -/
theorem step_quiet {p p' : MeasurePipeline} {s : Side} {e : PipelineEvent} (hq : p.Quiet s)
    (he : e ≠ .flip) (h : p.step hashAdd e = some p') : p'.Quiet s ∧ KeepsAll s p p' := by
  cases e with
  | ingress nowNs pkts =>
    cases h
    obtain ⟨-, hflag, htable, hout⟩ :=
      FlowMeasure.processBatchWith_of_leader (countIn hashAdd) nowNs p.leader_leads hq.1 pkts
    refine ⟨⟨?_, ?_⟩, .inl htable, fun f => .refl s _⟩
    · simpa [FlowMeasure.processBatch, hflag] using hq.1
    · intro pkt hpkt
      rcases List.mem_append.mp hpkt with hpkt | hpkt
      · exact hq.2 pkt hpkt
      · exact side_of_stamped hq.1 (hout pkt hpkt)
  | egress f nowNs pkts =>
    simp only [step] at h
    split at h
    · rename_i hsub
      cases h
      have htable := FlowMeasure.table_processBatchWith_of_follower (countIn hashAdd) nowNs
        (p.follower_follows f) pkts (fun pkt hpkt => hq.2 pkt (hsub.subset hpkt))
      -- the follower's module is the only one that changes
      refine ⟨⟨?_, fun pkt hpkt => hq.2 pkt ((List.diff_sublist _ _).subset hpkt)⟩, ?_, fun f' => ?_⟩
      · show (p.setFollower f _ _).leader.currentFlag.side? ≠ some s
        rw [leader_setFollower]
        exact hq.1
      · show KeepsSide s p.leader (p.setFollower f _ _).leader
        rw [leader_setFollower]
        exact .refl s _
      · show KeepsSide s (p.follower f') ((p.setFollower f _ _).follower f')
        by_cases hf : f' = f
        · subst hf
          rw [follower_setFollower_self]
          exact .inl htable
        · rw [follower_setFollower_ne _ hf]
          exact .refl s _
    · cases h
  | drop pkt =>
    simp only [step] at h
    split at h
    · cases h
      exact ⟨⟨hq.1, fun q hq' => hq.2 q (List.mem_of_mem_erase hq')⟩, KeepsAll.refl s p⟩
    · cases h
  | flip => exact absurd rfl he
  | readLeader flagToRead clear =>
    simp only [step] at h
    split at h
    · rename_i flows m hread
      cases h
      refine ⟨⟨?_, hq.2⟩, keepsSide_of_read s hread, fun f => .refl s _⟩
      rw [(FlowMeasure.commandReadStats_cases hread).2.1]
      exact hq.1
    · cases h
      exact ⟨hq, KeepsAll.refl s p⟩
  | readFollower f flagToRead clear =>
    simp only [step] at h
    split at h
    · rename_i flows m hread
      cases h
      refine ⟨⟨by simpa using hq.1, by simpa using hq.2⟩, by simpa using KeepsSide.refl s p.leader,
        fun f' => ?_⟩
      by_cases hf : f' = f
      · subst hf
        rw [follower_setFollower_self]
        exact keepsSide_of_read s hread
      · rw [follower_setFollower_ne _ hf]
        exact .refl s _
    · cases h
      exact ⟨hq, KeepsAll.refl s p⟩

/-- **The controller reads a side that nothing writes.** -/
theorem run_quiet {s : Side} :
    ∀ {p p' : MeasurePipeline} {es : List PipelineEvent}, p.Quiet s → PipelineEvent.flip ∉ es →
      p.run hashAdd es = some p' → p'.Quiet s ∧ KeepsAll s p p'
  | p, p', [], hq, _, h => by
    cases h
    exact ⟨hq, KeepsAll.refl s p⟩
  | p, p', e :: es, hq, hflip, h => by
    obtain ⟨p₁, h₁, hrest⟩ := Option.bind_eq_some_iff.mp h
    have he : e ≠ .flip := fun he => hflip (he ▸ List.mem_cons_self)
    obtain ⟨hq₁, hkeep₁⟩ := step_quiet hq he h₁
    obtain ⟨hq', hkeep⟩ := run_quiet hq₁ (fun hmem => hflip (List.mem_cons_of_mem e hmem)) hrest
    exact ⟨hq', hkeep₁.trans hkeep⟩

/-- The leader on side B after a flip, nothing in flight, and empty followers. -/
def flippedToB : MeasurePipeline where
  leader := ⟨true, .b, ∅, ∅⟩
  postDL := ⟨false, .invalid, ∅, ∅⟩
  postUL := ⟨false, .invalid, ∅, ∅⟩
  inFlight := []
  leader_leads := rfl
  postDL_follows := rfl
  postUL_follows := rfl

/-- A packet of flow (`fseid` 7, `pdr_id` 1), stamped at time 4, and as the leader passes it on. -/
def probe : MeasuredPacket := ⟨0, 4, 7, 1, 100⟩
def probeStamped : MeasuredPacket := ⟨2, 4, 7, 1, 100⟩

/-- With side A quiet, a packet through the leader and the downlink follower and a clearing read
of side A of that follower keep side A quiet. -/
theorem run_quiet_probe :
    ∃ p', flippedToB.run (fun _ _ => true)
        [.ingress 10 [probe], .egress .postDL 12 [probeStamped], .readFollower .postDL 1 true] = some p' ∧
      p'.Quiet .a ∧ KeepsAll .a flippedToB p' :=
  ⟨_, rfl, @run_quiet (fun _ _ => true) .a flippedToB _
    [.ingress 10 [probe], .egress .postDL 12 [probeStamped], .readFollower .postDL 1 true]
    ⟨by decide, fun _ h => nomatch h⟩ (by decide) rfl⟩

end MeasurePipeline

end Bess
