import Mathlib
import OmecUpf.Lib.KeyedFold

/-!
# FlowMeasure: double-buffered latency statistics per flow

`FlowMeasure` (`core/modules/flow_measure.cc`) measures, for each flow (`fseid`, `pdr_id`), the
packets that pass it: the latency `now_ns - ts_ns` since the `timestamp` attribute was set, the
jitter between consecutive latencies, the packet and byte counts. A module keeps two sides,
A and B, each a hash table of flows with a vector of `SessionStats`. In `conf/up4.bess` one
leader (`preQosFlowMeasure`) writes into each packet's `buffer_flag` attribute the side it is
counting into, and two followers (`postDLQosFlowMeasure`, `postULQosFlowMeasure`, after
`executeFAR`) count each packet into the side its flag names. The controller flips the leader
to the other side, waits for the packets of the old side to leave the pipeline, and reads
(and clears) the old side of every module.

A side's table is an association list from `TableKey` to what the module keeps for a flow.
`rte_hash_add_key` finding room for a new flow is a function `hashAdd` of the keys the table
holds and the new key. A histogram is the list of the values inserted into it, oldest first
(its buckets and percentiles are BESS's `Histogram`). Commands and batches are atomic: each is
one step of the model.

* `Flag`, `Side`, `SessionStats`, `SessionStats.record`, `TableKey`, `MeasuredPacket`;
* `FlowMeasure α`: a module whose flows hold `α`; `takeFlag` and `measurement`, the checks of the
  loop body of `ProcessBatch`; `measurePacketWith`, `processBatchWith`, `commandFlipFlag`,
  `commandReadStats`, `handleWith`, `runWith`;
* the code: `findOrCreate`, `countIn`, and `processBatch`, `run` over `SessionStats`;
  `FlowMeasureInit`;
* the measurements: `keepIn` keeps, per flow, the list of measurements of the packets counted
  since the last clear; `summarize` folds each list by `SessionStats.record`;
  `countIn_summarize`, `measurePacketWith_summarize`, `processBatchWith_summarize`,
  `commandReadStats_summarize`;
* **`run_summarize`**: any run of the module from the summary of some lists of measurements
  is the summary of the run that keeps the measurements, and every read returns the summary
  of what it reads;
* **`summary_eq`**: the statistics of a flow in closed form: the count, the bytes, the
  latencies in order, and each jitter against the latency before it, `0` after a latency of `0`.
-/

namespace Bess

/-- `FlowMeasure::Flag`: which side of the double buffer a packet is counted into. -/
inductive Flag where
  | invalid
  | a
  | b
  deriving DecidableEq, Repr

/-- The two sides of a module. -/
inductive Side where
  | a
  | b
  deriving DecidableEq, Repr

namespace Flag

/-- `static_cast<uint64_t>(flag)`. -/
def value : Flag → UInt64
  | invalid => 0
  | a => 1
  | b => 2

/-- `static_cast<Flag>(v)` of a `uint64_t`: the `int` that `v` converts to, as a flag. Values
other than `0`, `1`, `2` are no flag; like `FLAG_VALUE_INVALID` they fail `Flag_IsValid` and
take the `default:` branch of every switch (only the logs tell them apart), so they are
`invalid` here. -/
def ofValue (v : UInt64) : Flag :=
  if v.toUInt32 = 1 then a else if v.toUInt32 = 2 then b else invalid

/-- `Flag_IsValid`: `FLAG_VALUE_INVALID < flag ≤ FLAG_VALUE_MAX`. -/
def IsValid : Flag → Bool
  | invalid => false
  | _ => true

/-- The flag a leader flips to: `current == FLAG_VALUE_A ? FLAG_VALUE_B : FLAG_VALUE_A`. -/
def flip (f : Flag) : Flag := if f = a then b else a

/-- The side a flag selects in the switches of `ProcessBatch` and `CommandReadStats`. -/
def side? : Flag → Option Side
  | invalid => none
  | a => some .a
  | b => some .b

@[simp] theorem ofValue_value (f : Flag) : ofValue f.value = f := by
  cases f <;> decide

/-- A flip takes a flag off the side it selects. -/
theorem side?_flip_ne {f : Flag} {s : Side} (h : f.side? = some s) : f.flip.side? ≠ some s := by
  cases f <;> cases s <;> simp_all [side?, flip]

theorem isValid_iff_side? (f : Flag) : f.IsValid = true ↔ f.side?.isSome := by
  cases f <;> decide

end Flag

/-- `SessionStats`, each histogram the list of the values inserted into it. `{}` is what the
constructor and `reset()` leave. -/
structure SessionStats where
  pktCount : UInt64 := 0
  byteCount : UInt64 := 0
  lastLatency : UInt64 := 0
  latencyHistogram : List UInt64 := []
  jitterHistogram : List UInt64 := []
  deriving DecidableEq, Repr

/-- What a counted packet brings to its flow: `now_ns - ts_ns` and `total_len()`. -/
structure Measurement where
  latencyNs : UInt64
  totalLen : UInt32
  deriving DecidableEq, Repr

/-- `absdiff` of BESS's `utils/common.h`. -/
def absdiff (x y : UInt64) : UInt64 := if x > y then x - y else y - x

/-- The update of a flow's statistics in `ProcessBatch`, under `stat.mutex`. -/
def SessionStats.record (stat : SessionStats) (meas : Measurement) : SessionStats :=
  let diffNs := meas.latencyNs
  let lastLatency := if stat.lastLatency = 0 then diffNs else stat.lastLatency
  let jitterNs := absdiff lastLatency diffNs
  { pktCount := stat.pktCount + 1
    byteCount := stat.byteCount + meas.totalLen.toUInt64
    lastLatency := diffNs
    latencyHistogram := stat.latencyHistogram ++ [diffNs]
    jitterHistogram := stat.jitterHistogram ++ [jitterNs] }

/-- `TableKey`: the flow's `fseid` and its `pdr_id`, widened to 64 bits. -/
structure TableKey where
  fseid : UInt64
  pdr : UInt64
  deriving DecidableEq, Repr

/-- The attributes of a packet that `FlowMeasure` reads and writes, and its `total_len()`. -/
structure MeasuredPacket where
  bufferFlag : UInt64
  timestamp : UInt64
  fseid : UInt64
  pdrId : UInt32
  totalLen : UInt32
  deriving DecidableEq, Repr

/-- A `FlowMeasure` module whose flows hold `α`: `leader_`, `current_flag_value_` and the table
of each side. The code keeps `SessionStats`; `List Measurement` keeps every measurement. -/
structure FlowMeasure (α : Type) where
  leader : Bool
  currentFlag : Flag
  tableA : AList (fun _ : TableKey => α)
  tableB : AList (fun _ : TableKey => α)

/-- The first part of the loop body of `ProcessBatch`: a leader writes its current flag into
the packet's `buffer_flag`; a follower reads it, skips the packet (`continue`) when it is not
valid, and takes it as its current flag otherwise. The module's new current flag, the packet
as it leaves, and the flag the packet is counted under. -/
def takeFlag (leader : Bool) (current : Flag) (pkt : MeasuredPacket) :
    Flag × MeasuredPacket × Option Flag :=
  if leader then (current, { pkt with bufferFlag := current.value }, some current)
  else
    let flag := Flag.ofValue pkt.bufferFlag
    if flag.IsValid then (flag, pkt, some flag) else (current, pkt, none)

/-- The other checks of the loop body: an invalid timestamp (`!ts_ns || now_ns < ts_ns`) and a
flag of no side skip the packet; otherwise the side, the flow and the measurement. -/
def measurement (nowNs : UInt64) (pkt : MeasuredPacket) (cached : Flag) :
    Option (Side × TableKey × Measurement) :=
  if pkt.timestamp = 0 ∨ nowNs < pkt.timestamp then none
  else cached.side?.map fun s =>
    (s, ⟨pkt.fseid, pkt.pdrId.toUInt64⟩, ⟨nowNs - pkt.timestamp, pkt.totalLen⟩)

namespace FlowMeasure

variable {α β : Type}

/-- `table_a_` or `table_b_` with its data. -/
def table (m : FlowMeasure α) : Side → AList (fun _ : TableKey => α)
  | .a => m.tableA
  | .b => m.tableB

def setTable (m : FlowMeasure α) : Side → AList (fun _ : TableKey => α) → FlowMeasure α
  | .a, t => { m with tableA := t }
  | .b, t => { m with tableB := t }

/-- `current_flag_value_ = flag`. -/
def setCurrentFlag (m : FlowMeasure α) (f : Flag) : FlowMeasure α := { m with currentFlag := f }

@[simp] theorem table_setCurrentFlag (m : FlowMeasure α) (f : Flag) (s : Side) :
    (m.setCurrentFlag f).table s = m.table s := by
  cases s <;> rfl

@[simp] theorem leader_setCurrentFlag (m : FlowMeasure α) (f : Flag) :
    (m.setCurrentFlag f).leader = m.leader := rfl

@[simp] theorem currentFlag_setCurrentFlag (m : FlowMeasure α) (f : Flag) :
    (m.setCurrentFlag f).currentFlag = f := rfl

@[simp] theorem table_setTable_self (m : FlowMeasure α) (s : Side) (t) :
    (m.setTable s t).table s = t := by
  cases s <;> rfl

@[simp] theorem table_setTable_ne (m : FlowMeasure α) {s s' : Side} (h : s' ≠ s) (t) :
    (m.setTable s t).table s' = m.table s' := by
  cases s <;> cases s' <;> first | rfl | exact absurd rfl h

@[simp] theorem leader_setTable (m : FlowMeasure α) (s : Side) (t) :
    (m.setTable s t).leader = m.leader := by
  cases s <;> rfl

@[simp] theorem currentFlag_setTable (m : FlowMeasure α) (s : Side) (t) :
    (m.setTable s t).currentFlag = m.currentFlag := by
  cases s <;> rfl

/-- The loop body of `ProcessBatch` for one packet, with `put` the find-or-create and update
of the flow in the side's table (`none` when it fails: `ret < 0`, `continue`). -/
def measurePacketWith
    (put : AList (fun _ : TableKey => α) → TableKey → Measurement → Option (AList (fun _ : TableKey => α)))
    (nowNs : UInt64) (m : FlowMeasure α) (pkt : MeasuredPacket) : FlowMeasure α × MeasuredPacket :=
  let (current, pkt, cached) := takeFlag m.leader m.currentFlag pkt
  let m := m.setCurrentFlag current
  match cached.bind (measurement nowNs pkt) with
  | none => (m, pkt)
  | some (s, key, meas) =>
    match put (m.table s) key meas with
    | none => (m, pkt)
    | some t => (m.setTable s t, pkt)

/-- `ProcessBatch`: the loop over the batch, which then goes on (`RunNextModule`) with the flags
the leader wrote. -/
def processBatchWith
    (put : AList (fun _ : TableKey => α) → TableKey → Measurement → Option (AList (fun _ : TableKey => α)))
    (nowNs : UInt64) : FlowMeasure α → List MeasuredPacket → FlowMeasure α × List MeasuredPacket
  | m, [] => (m, [])
  | m, pkt :: pkts =>
    let (m, pkt) := m.measurePacketWith put nowNs pkt
    let (m, pkts) := processBatchWith put nowNs m pkts
    (m, pkt :: pkts)

/-- `CommandFlipFlag`: the flag before the flip. -/
def commandFlipFlag (m : FlowMeasure α) : Except String (UInt64 × FlowMeasure α) :=
  if !m.leader then .error "only leaders can flip the flag"
  else .ok (m.currentFlag.value, m.setCurrentFlag m.currentFlag.flip)

/-- The `Statistic`s of a read, in the table's order: each flow and what it holds (the
percentiles of its histograms are BESS's `Summarize` of them). -/
def readOut (t : AList (fun _ : TableKey => α)) : List (TableKey × α) :=
  t.entries.map fun e => (e.1, e.2)

/-- `CommandReadStats`: the flows of the side `flag_to_read` names, and on `clear` the side
emptied (`rte_hash_reset`, then `reset()` of every slot). -/
def commandReadStats (m : FlowMeasure α) (flagToRead : UInt64) (clear : Bool) :
    Except String (List (TableKey × α) × FlowMeasure α) :=
  let flag := Flag.ofValue flagToRead
  if !flag.IsValid then .error "invalid flag value"
  else
    match flag.side? with
    | none => .ok ([], m)
    | some s => .ok (readOut (m.table s), if clear then m.setTable s ∅ else m)

end FlowMeasure

/-- What drives one module: a batch at time `now_ns`, and its two commands. -/
inductive Command where
  | batch (nowNs : UInt64) (pkts : List MeasuredPacket)
  | flip
  | read (flagToRead : UInt64) (clear : Bool)

/-- What a module answers: the batch it passes on, the old flag, or the flows read. -/
inductive Reply (α : Type) where
  | forwarded (pkts : List MeasuredPacket)
  | flipped (r : Except String UInt64)
  | stats (r : Except String (List (TableKey × α)))

def Reply.map {α β : Type} (f : α → β) : Reply α → Reply β
  | .forwarded pkts => .forwarded pkts
  | .flipped r => .flipped r
  | .stats r => .stats (r.map fun flows => flows.map fun e => (e.1, f e.2))

namespace FlowMeasure

variable {α : Type}

/-- One step of a module; a failed command leaves it as it was. -/
def handleWith
    (put : AList (fun _ : TableKey => α) → TableKey → Measurement → Option (AList (fun _ : TableKey => α)))
    (m : FlowMeasure α) : Command → FlowMeasure α × Reply α
  | .batch nowNs pkts =>
    let (m, out) := m.processBatchWith put nowNs pkts
    (m, .forwarded out)
  | .flip =>
    match m.commandFlipFlag with
    | .ok (old, m') => (m', .flipped (.ok old))
    | .error e => (m, .flipped (.error e))
  | .read flagToRead clear =>
    match m.commandReadStats flagToRead clear with
    | .ok (flows, m') => (m', .stats (.ok flows))
    | .error e => (m, .stats (.error e))

def runWith
    (put : AList (fun _ : TableKey => α) → TableKey → Measurement → Option (AList (fun _ : TableKey => α))) :
    FlowMeasure α → List Command → FlowMeasure α × List (Reply α)
  | m, [] => (m, [])
  | m, c :: cs =>
    let (m, r) := m.handleWith put c
    let (m, rs) := runWith put m cs
    (m, r :: rs)

end FlowMeasure

/-! ## What one step can do to a module -/

@[simp] theorem takeFlag_true (current : Flag) (pkt : MeasuredPacket) :
    takeFlag true current pkt = (current, { pkt with bufferFlag := current.value }, some current) :=
  rfl

/-- A follower counts a packet under the side its flag names, and under no side when the flag is
not valid. -/
theorem takeFlag_false_side (current : Flag) (pkt : MeasuredPacket) :
    (takeFlag false current pkt).2.2.bind Flag.side? = (Flag.ofValue pkt.bufferFlag).side? := by
  unfold takeFlag
  dsimp only
  rw [if_neg Bool.false_ne_true]
  by_cases h : (Flag.ofValue pkt.bufferFlag).IsValid = true
  · rw [if_pos h]
    rfl
  · -- an invalid flag selects no side either
    rw [if_neg h]
    cases hf : Flag.ofValue pkt.bufferFlag <;> simp_all [Flag.IsValid, Flag.side?]

theorem measurement_side {nowNs : UInt64} {pkt : MeasuredPacket} {cached : Flag} {s : Side}
    {key : TableKey} {meas : Measurement} (h : measurement nowNs pkt cached = some (s, key, meas)) :
    cached.side? = some s := by
  unfold measurement at h
  split at h
  · cases h
  · obtain ⟨s', hs', he⟩ := Option.map_eq_some_iff.mp h
    cases he
    exact hs'

namespace FlowMeasure

variable {α : Type}
  (put : AList (fun _ : TableKey => α) → TableKey → Measurement → Option (AList (fun _ : TableKey => α)))

theorem processBatchWith_cons (nowNs : UInt64) (m : FlowMeasure α) (pkt : MeasuredPacket)
    (pkts : List MeasuredPacket) :
    m.processBatchWith put nowNs (pkt :: pkts) =
      ((processBatchWith put nowNs (m.measurePacketWith put nowNs pkt).1 pkts).1,
        (m.measurePacketWith put nowNs pkt).2 ::
          (processBatchWith put nowNs (m.measurePacketWith put nowNs pkt).1 pkts).2) := rfl

/-- Everything the loop body does to one packet: it leaves as `takeFlag` makes it, and the module
takes the new current flag and, when the packet is counted, the update of one side's table. -/
theorem measurePacketWith_cases (nowNs : UInt64) (m : FlowMeasure α) (pkt : MeasuredPacket) :
    (m.measurePacketWith put nowNs pkt).2 = (takeFlag m.leader m.currentFlag pkt).2.1 ∧
      ((m.measurePacketWith put nowNs pkt).1 = m.setCurrentFlag (takeFlag m.leader m.currentFlag pkt).1 ∨
        ∃ s key meas t,
          (takeFlag m.leader m.currentFlag pkt).2.2.bind
            (measurement nowNs (takeFlag m.leader m.currentFlag pkt).2.1) = some (s, key, meas) ∧
          (m.measurePacketWith put nowNs pkt).1 =
            (m.setCurrentFlag (takeFlag m.leader m.currentFlag pkt).1).setTable s t) := by
  unfold measurePacketWith
  obtain ⟨current, pkt', cached⟩ := takeFlag m.leader m.currentFlag pkt
  dsimp only
  cases hc : cached.bind (measurement nowNs pkt') with
  | none => exact ⟨rfl, .inl rfl⟩
  | some c =>
    obtain ⟨s, key, meas⟩ := c
    dsimp only
    cases put ((m.setCurrentFlag current).table s) key meas with
    | none => exact ⟨rfl, .inl rfl⟩
    | some t => exact ⟨rfl, .inr ⟨s, key, meas, t, rfl, rfl⟩⟩

@[simp] theorem leader_measurePacketWith (nowNs : UInt64) (m : FlowMeasure α) (pkt : MeasuredPacket) :
    (m.measurePacketWith put nowNs pkt).1.leader = m.leader := by
  rcases (measurePacketWith_cases put nowNs m pkt).2 with h | ⟨s, key, meas, t, -, h⟩ <;> simp [h]

theorem currentFlag_measurePacketWith_of_leader (nowNs : UInt64) {m : FlowMeasure α}
    (hl : m.leader = true) (pkt : MeasuredPacket) :
    (m.measurePacketWith put nowNs pkt).1.currentFlag = m.currentFlag := by
  rcases (measurePacketWith_cases put nowNs m pkt).2 with h | ⟨s, key, meas, t, -, h⟩ <;> simp [h, hl]

/-- A side the packet is not counted under keeps its table. -/
theorem table_measurePacketWith_of_ne (nowNs : UInt64) (m : FlowMeasure α) (pkt : MeasuredPacket)
    {s : Side} (hs : (takeFlag m.leader m.currentFlag pkt).2.2.bind Flag.side? ≠ some s) :
    (m.measurePacketWith put nowNs pkt).1.table s = m.table s := by
  rcases (measurePacketWith_cases put nowNs m pkt).2 with h | ⟨s', key, meas, t, hc, h⟩
  · simp [h]
  · obtain ⟨cached, hcached, hmeas⟩ := Option.bind_eq_some_iff.mp hc
    have hne : s ≠ s' := by
      rintro rfl
      exact hs (by rw [hcached, Option.bind_some, measurement_side hmeas])
    simp [h, hne]

theorem leader_processBatchWith (nowNs : UInt64) :
    ∀ (m : FlowMeasure α) (pkts : List MeasuredPacket),
      (m.processBatchWith put nowNs pkts).1.leader = m.leader
  | m, [] => rfl
  | m, pkt :: pkts => by
    rw [processBatchWith_cons, leader_processBatchWith nowNs _ pkts, leader_measurePacketWith]

/-- A leader keeps its flag over a batch, writes it into every packet, and leaves the other side
alone. -/
theorem processBatchWith_of_leader (nowNs : UInt64) {s : Side} :
    ∀ {m : FlowMeasure α}, m.leader = true → m.currentFlag.side? ≠ some s →
      ∀ pkts : List MeasuredPacket,
        (m.processBatchWith put nowNs pkts).1.leader = true ∧
        (m.processBatchWith put nowNs pkts).1.currentFlag = m.currentFlag ∧
        (m.processBatchWith put nowNs pkts).1.table s = m.table s ∧
        ∀ pkt ∈ (m.processBatchWith put nowNs pkts).2, pkt.bufferFlag = m.currentFlag.value
  | m, hl, _, [] => ⟨hl, rfl, rfl, fun _ h => nomatch h⟩
  | m, hl, hs, pkt :: pkts => by
    -- the module after the first packet is a leader on the same flag, with the same side `s`
    have hflag := currentFlag_measurePacketWith_of_leader put nowNs hl pkt
    have hl' : (m.measurePacketWith put nowNs pkt).1.leader = true := by simpa using hl
    have htable : (m.measurePacketWith put nowNs pkt).1.table s = m.table s :=
      table_measurePacketWith_of_ne put nowNs m pkt (by simpa [hl] using hs)
    obtain ⟨h1, h2, h3, h4⟩ :=
      processBatchWith_of_leader nowNs hl' (by rwa [hflag]) pkts
    rw [processBatchWith_cons]
    refine ⟨h1, by rw [h2, hflag], by rw [h3, htable], ?_⟩
    intro q hq
    rcases List.mem_cons.mp hq with rfl | hq
    · simp [(measurePacketWith_cases put nowNs m pkt).1, hl]
    · rw [h4 q hq, hflag]

/-- A follower counts a batch only into the sides its packets' flags name. -/
theorem table_processBatchWith_of_follower (nowNs : UInt64) {s : Side} :
    ∀ {m : FlowMeasure α}, m.leader = false → ∀ pkts : List MeasuredPacket,
      (∀ pkt ∈ pkts, (Flag.ofValue pkt.bufferFlag).side? ≠ some s) →
        (m.processBatchWith put nowNs pkts).1.table s = m.table s
  | m, _, [], _ => rfl
  | m, hl, pkt :: pkts, hs => by
    have htable : (m.measurePacketWith put nowNs pkt).1.table s = m.table s :=
      table_measurePacketWith_of_ne put nowNs m pkt
        (by rw [hl, takeFlag_false_side]; exact hs pkt List.mem_cons_self)
    have hl' : (m.measurePacketWith put nowNs pkt).1.leader = false := by simpa using hl
    rw [processBatchWith_cons, table_processBatchWith_of_follower nowNs hl' pkts
      (fun q hq => hs q (List.mem_cons_of_mem pkt hq)), htable]

/-- A read keeps the module's role and flag, and every side as it was or emptied. -/
theorem commandReadStats_cases {m m' : FlowMeasure α} {flagToRead : UInt64} {clear : Bool}
    {flows : List (TableKey × α)} (h : m.commandReadStats flagToRead clear = .ok (flows, m')) :
    m'.leader = m.leader ∧ m'.currentFlag = m.currentFlag ∧
      ∀ s, m'.table s = m.table s ∨ m'.table s = ∅ := by
  unfold commandReadStats at h
  dsimp only at h
  split at h
  · cases h
  · split at h
    · cases h
      exact ⟨rfl, rfl, fun _ => .inl rfl⟩
    · rename_i s' _
      cases h
      cases clear
      · exact ⟨rfl, rfl, fun _ => .inl rfl⟩
      · refine ⟨by simp, by simp, fun s => ?_⟩
        by_cases hs : s = s'
        · subst hs
          simp
        · simp [hs]

theorem commandFlipFlag_cases {m m' : FlowMeasure α} {old : UInt64}
    (h : m.commandFlipFlag = .ok (old, m')) :
    m.leader = true ∧ old = m.currentFlag.value ∧ m' = m.setCurrentFlag m.currentFlag.flip := by
  unfold commandFlipFlag at h
  cases hl : m.leader
  · simp [hl] at h
  · simp only [hl, Bool.not_true, Bool.false_eq_true, if_false, Except.ok.injEq, Prod.mk.injEq] at h
    exact ⟨rfl, h.1.symm, h.2.symm⟩

end FlowMeasure

/-! ## The code: `SessionStats` in hash tables -/

/-- A side's `rte_hash` with its `SessionStats`. -/
abbrev StatsTable := AList (fun _ : TableKey => SessionStats)

/-- `rte_hash_lookup`, then `rte_hash_add_key` when the flow is not there (`-ENOENT`): the
statistics to update, or `none` when the add fails. A new flow's slot holds `{}`: slots are
given out again only after `rte_hash_reset`, and the read that resets the table resets every
slot. -/
def findOrCreate (hashAdd : List TableKey → TableKey → Bool) (t : StatsTable) (key : TableKey) :
    Option SessionStats :=
  match t.lookup key with
  | some stat => some stat
  | none => if hashAdd t.keys key then some {} else none

/-- Find or create the flow, and update its statistics. -/
def countIn (hashAdd : List TableKey → TableKey → Bool) (t : StatsTable) (key : TableKey)
    (meas : Measurement) : Option StatsTable :=
  (findOrCreate hashAdd t key).map fun stat => t.insert key (stat.record meas)

namespace FlowMeasure

/-- `FlowMeasure::ProcessBatch`. -/
def processBatch (hashAdd : List TableKey → TableKey → Bool) (nowNs : UInt64)
    (m : FlowMeasure SessionStats) (pkts : List MeasuredPacket) :
    FlowMeasure SessionStats × List MeasuredPacket :=
  m.processBatchWith (countIn hashAdd) nowNs pkts

@[simp] theorem leader_processBatch (hashAdd : List TableKey → TableKey → Bool) (nowNs : UInt64)
    (m : FlowMeasure SessionStats) (pkts : List MeasuredPacket) :
    (m.processBatch hashAdd nowNs pkts).1.leader = m.leader :=
  leader_processBatchWith _ nowNs m pkts

/-- A run of the module. -/
def run (hashAdd : List TableKey → TableKey → Bool) (m : FlowMeasure SessionStats)
    (cmds : List Command) : FlowMeasure SessionStats × List (Reply SessionStats) :=
  m.runWith (countIn hashAdd) cmds

end FlowMeasure

/-- `FlowMeasure::Init`, with `AddMetadataAttr` and `rte_hash_create` taken to succeed: a
leader starts on side A, a follower with `current_flag_value_()`, `FLAG_VALUE_INVALID`.
`RTE_HASH_NAMESIZE - 1` bounds the tables' names. -/
def FlowMeasureInit (leader : Bool) (name : String) (socketId : Nat) :
    Except String (FlowMeasure SessionStats) :=
  if (name ++ "Ta" ++ toString socketId).length > 26 then .error "invalid hash name A"
  else if (name ++ "Tb" ++ toString socketId).length > 26 then .error "invalid hash name B"
  else .ok ⟨leader, if leader then .a else .invalid, ∅, ∅⟩

/-! ## The measurements, and the statistics as their summary -/

/-- Keep the measurement at the end of its flow's list; a new flow is let in as the code lets
it in, when `rte_hash_add_key` finds room. -/
def keepIn (hashAdd : List TableKey → TableKey → Bool) (t : AList (fun _ : TableKey => List Measurement))
    (key : TableKey) (meas : Measurement) : Option (AList (fun _ : TableKey => List Measurement)) :=
  if key ∈ t ∨ hashAdd t.keys key = true then some (KeyedFold.recordIn key meas t) else none

/-- The statistics of a list of measurements, as the code accumulates them. -/
def summary (rs : List Measurement) : SessionStats := rs.foldl SessionStats.record {}

namespace FlowMeasure

/-- The statistics of every flow, from its measurements. -/
def summarize (w : FlowMeasure (List Measurement)) : FlowMeasure SessionStats :=
  ⟨w.leader, w.currentFlag, KeyedFold.summarize SessionStats.record {} w.tableA,
    KeyedFold.summarize SessionStats.record {} w.tableB⟩

/-- The module that has measured nothing yet. -/
def fresh (leader : Bool) : FlowMeasure (List Measurement) :=
  ⟨leader, if leader then .a else .invalid, ∅, ∅⟩

@[simp] theorem leader_summarize (w : FlowMeasure (List Measurement)) :
    w.summarize.leader = w.leader := rfl

@[simp] theorem currentFlag_summarize (w : FlowMeasure (List Measurement)) :
    w.summarize.currentFlag = w.currentFlag := rfl

@[simp] theorem table_summarize (w : FlowMeasure (List Measurement)) (s : Side) :
    w.summarize.table s = KeyedFold.summarize SessionStats.record {} (w.table s) := by
  cases s <;> rfl

theorem summarize_setCurrentFlag (w : FlowMeasure (List Measurement)) (f : Flag) :
    w.summarize.setCurrentFlag f = (w.setCurrentFlag f).summarize := rfl

theorem summarize_setTable (w : FlowMeasure (List Measurement)) (s : Side) (t) :
    w.summarize.setTable s (KeyedFold.summarize SessionStats.record {} t) =
      (w.setTable s t).summarize := by
  cases s <;> rfl

end FlowMeasure

/-- Find or create, and update: the flow's statistics, or `{}` for a flow let in now, take one
more measurement. -/
theorem countIn_eq (hashAdd : List TableKey → TableKey → Bool) (t : StatsTable) (key : TableKey)
    (meas : Measurement) :
    countIn hashAdd t key meas =
      if key ∈ t ∨ hashAdd t.keys key = true then
        some (t.insert key (((t.lookup key).getD {}).record meas))
      else none := by
  unfold countIn findOrCreate
  cases h : t.lookup key with
  | some stat =>
    have hmem : key ∈ t := AList.lookup_isSome.mp (by simp [h])
    simp [hmem]
  | none =>
    have hmem : key ∉ t := AList.lookup_eq_none.mp h
    by_cases hadd : hashAdd t.keys key = true <;> simp [hmem, hadd]

/-- The code's update of a table of statistics is the summary of keeping the measurement. -/
theorem countIn_summarize (hashAdd : List TableKey → TableKey → Bool)
    (t : AList (fun _ : TableKey => List Measurement)) (key : TableKey) (meas : Measurement) :
    countIn hashAdd (KeyedFold.summarize SessionStats.record {} t) key meas =
      (keepIn hashAdd t key meas).map (KeyedFold.summarize SessionStats.record {}) := by
  have hmem : key ∈ KeyedFold.summarize SessionStats.record {} t ↔ key ∈ t := by
    rw [AList.mem_keys, AList.mem_keys, KeyedFold.keys_summarize]
  rw [countIn_eq, keepIn, KeyedFold.keys_summarize]
  by_cases h : key ∈ t ∨ hashAdd t.keys key = true
  · rw [if_pos (h.imp_left hmem.mpr), if_pos h, Option.map_some, KeyedFold.summarize_recordIn]
  · rw [if_neg (fun h' => h (h'.imp_left hmem.mp)), if_neg h, Option.map_none]

namespace FlowMeasure

/-- One packet: the module that keeps measurements, summarized, is the code's module. -/
theorem measurePacketWith_summarize (hashAdd : List TableKey → TableKey → Bool) (nowNs : UInt64)
    (w : FlowMeasure (List Measurement)) (pkt : MeasuredPacket) :
    w.summarize.measurePacketWith (countIn hashAdd) nowNs pkt =
      ((w.measurePacketWith (keepIn hashAdd) nowNs pkt).1.summarize,
        (w.measurePacketWith (keepIn hashAdd) nowNs pkt).2) := by
  unfold measurePacketWith
  rw [leader_summarize, currentFlag_summarize]
  obtain ⟨current, pkt', cached⟩ := takeFlag w.leader w.currentFlag pkt
  dsimp only
  rw [summarize_setCurrentFlag]
  cases cached.bind (measurement nowNs pkt') with
  | none => rfl
  | some c =>
    obtain ⟨s, key, meas⟩ := c
    dsimp only
    rw [table_summarize, countIn_summarize]
    cases keepIn hashAdd ((w.setCurrentFlag current).table s) key meas with
    | none => rfl
    | some t => exact congrArg (·, pkt') (summarize_setTable _ s t)

theorem processBatchWith_summarize (hashAdd : List TableKey → TableKey → Bool) (nowNs : UInt64) :
    ∀ (w : FlowMeasure (List Measurement)) (pkts : List MeasuredPacket),
      w.summarize.processBatchWith (countIn hashAdd) nowNs pkts =
        ((w.processBatchWith (keepIn hashAdd) nowNs pkts).1.summarize,
          (w.processBatchWith (keepIn hashAdd) nowNs pkts).2)
  | w, [] => rfl
  | w, pkt :: pkts => by
    simp only [processBatchWith, measurePacketWith_summarize,
      processBatchWith_summarize hashAdd nowNs _ pkts]

theorem commandFlipFlag_summarize (w : FlowMeasure (List Measurement)) :
    w.summarize.commandFlipFlag = w.commandFlipFlag.map fun r => (r.1, r.2.summarize) := by
  unfold commandFlipFlag
  rw [leader_summarize, currentFlag_summarize, summarize_setCurrentFlag]
  cases w.leader <;> rfl

theorem readOut_summarize (t : AList (fun _ : TableKey => List Measurement)) :
    readOut (KeyedFold.summarize SessionStats.record {} t) =
      (readOut t).map fun e => (e.1, summary e.2) := by
  simp [readOut, KeyedFold.foldEntry, summary, Function.comp_def]

theorem commandReadStats_summarize (w : FlowMeasure (List Measurement)) (flagToRead : UInt64)
    (clear : Bool) :
    w.summarize.commandReadStats flagToRead clear =
      (w.commandReadStats flagToRead clear).map fun r =>
        (r.1.map fun e => (e.1, summary e.2), r.2.summarize) := by
  unfold commandReadStats
  dsimp only
  cases (Flag.ofValue flagToRead).IsValid
  · rfl
  · cases (Flag.ofValue flagToRead).side? with
    | none => rfl
    | some s =>
      simp only [Bool.not_true, Bool.false_eq_true, if_false, Except.map, table_summarize,
        readOut_summarize]
      cases clear
      · rfl
      · rw [if_pos rfl, if_pos rfl, ← KeyedFold.summarize_empty SessionStats.record {},
          summarize_setTable]

theorem handleWith_summarize (hashAdd : List TableKey → TableKey → Bool)
    (w : FlowMeasure (List Measurement)) (c : Command) :
    w.summarize.handleWith (countIn hashAdd) c =
      ((w.handleWith (keepIn hashAdd) c).1.summarize,
        (w.handleWith (keepIn hashAdd) c).2.map summary) := by
  cases c with
  | batch nowNs pkts =>
    simp only [handleWith, processBatchWith_summarize]
    rfl
  | flip =>
    simp only [handleWith]
    rw [commandFlipFlag_summarize]
    cases w.commandFlipFlag <;> rfl
  | read flagToRead clear =>
    simp only [handleWith]
    rw [commandReadStats_summarize]
    cases w.commandReadStats flagToRead clear <;> rfl

/-- Whatever the module is sent (batches with any packets at any times, whatever room the hash
tables have, flips and reads of either side in any order), it runs as the module that keeps
every measurement, summarized: its statistics are, flow by flow, the summary of the
measurements of the packets it counted there since the side was last cleared, and every read
returns the summaries of what it reads. -/
theorem run_summarize (hashAdd : List TableKey → TableKey → Bool)
    (w : FlowMeasure (List Measurement)) (cmds : List Command) :
    w.summarize.run hashAdd cmds =
      ((w.runWith (keepIn hashAdd) cmds).1.summarize,
        (w.runWith (keepIn hashAdd) cmds).2.map (Reply.map summary)) := by
  induction cmds generalizing w with
  | nil => rfl
  | cons c cs ih =>
    simp only [run] at ih ⊢
    simp only [runWith, handleWith_summarize, ih, List.map_cons]

end FlowMeasure

/-- `Init` builds the module that has measured nothing yet. -/
theorem FlowMeasureInit_eq_ok {leader : Bool} {name : String} {socketId : Nat}
    {m : FlowMeasure SessionStats} (h : FlowMeasureInit leader name socketId = .ok m) :
    m = (FlowMeasure.fresh leader).summarize := by
  unfold FlowMeasureInit at h
  split at h
  · cases h
  · split at h
    · cases h
    · cases h
      rfl

/-! ## The statistics of a flow in closed form -/

/-- The jitter recorded for a latency `cur` after a latency `prev`: `0` when `prev` is `0`, as
`last_latency == 0` makes the code compare `cur` with itself. -/
def jitterOf (prev cur : UInt64) : UInt64 := if prev = 0 then 0 else absdiff prev cur

/-- The jitters of a list of latencies, each against the one before it (`prev` before the
first). -/
def jitters : UInt64 → List UInt64 → List UInt64
  | _, [] => []
  | prev, x :: xs => jitterOf prev x :: jitters x xs

theorem absdiff_self (x : UInt64) : absdiff x x = 0 := by
  simp [absdiff]

/-- The jitter `record` computes from the last latency. -/
theorem absdiff_lastLatency (last cur : UInt64) :
    absdiff (if last = 0 then cur else last) cur = jitterOf last cur := by
  unfold jitterOf
  split
  · exact absdiff_self cur
  · rfl

theorem jitters_append_singleton (prev : UInt64) (l : List UInt64) (x : UInt64) :
    jitters prev (l ++ [x]) = jitters prev l ++ [jitterOf (l.getLast?.getD prev) x] := by
  induction l generalizing prev with
  | nil => rfl
  | cons y ys ih =>
    rw [List.cons_append, jitters, jitters, ih y, List.cons_append, List.getLast?_cons]
    simp

theorem summary_append_singleton (rs : List Measurement) (r : Measurement) :
    summary (rs ++ [r]) = (summary rs).record r := by
  rw [summary, List.foldl_append, List.foldl_cons, List.foldl_nil, summary]

/-- The statistics of a flow: as many packets as measurements, their bytes summed, the last
latency, the latencies in order, and the jitter of each latency against the one before it, `0`
for the first and after a latency of `0`. -/
theorem summary_eq (rs : List Measurement) :
    summary rs =
      { pktCount := rs.length.toUInt64
        byteCount := (rs.map fun r => r.totalLen.toUInt64).sum
        lastLatency := (rs.getLast?.map Measurement.latencyNs).getD 0
        latencyHistogram := rs.map Measurement.latencyNs
        jitterHistogram := jitters 0 (rs.map Measurement.latencyNs) } := by
  induction rs using List.reverseRecOn with
  | nil => rfl
  | append_singleton rs r ih =>
    rw [summary_append_singleton, ih, SessionStats.record]
    simp only [SessionStats.mk.injEq]
    refine ⟨?count, ?bytes, ?last, ?latencies, ?jitters⟩
    case count => simp
    case bytes => simp
    case last => simp
    case latencies => simp
    case jitters =>
      -- the jitter of `r` is taken against the latency of the last measurement before it
      rw [List.map_append, List.map_singleton, jitters_append_singleton, List.getLast?_map,
        absdiff_lastLatency]

end Bess
