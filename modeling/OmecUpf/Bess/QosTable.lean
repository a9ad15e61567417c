import Mathlib
import OmecUpf.Bess.Qos

/-!
# The QoS classifier: rules, gates and values

`Qos` (`core/modules/qos.cc`) is an exact-match table over the masked key of each packet. A rule
(`CommandAdd`) holds an output gate, the bytes of its values, and for the meter gate
`METER_GATE` a trTCM meter. `ProcessBatch` sends a packet that matches no rule to the default
gate. A packet that matches a rule goes to the rule's gate, or for a metered rule to the gate of
its colour (`METER_GREEN_GATE`, `METER_YELLOW_GATE`, `METER_RED_GATE`); the rule's values are
first written into the packet, at an offset of its data or into a metadata attribute.

The table is an association list from the `total_key_size_` bytes the table compares
(`tableKey`) to the rule. Whether `Metering::Add` finds room for a new key is a function
`tableAdd` of the keys held and the new key. Whether `rte_meter_trtcm_profile_config` accepts a
meter's parameters is `profileOk`. The colour the meter gives a packet is an input of the batch.
`gate_idx_t` is 16 bits wide, and `MAX_GATES` and `DROP_GATE` are 8192, as BESS defines them.

The module keeps its keys and values in buffers of fixed size: `mask[MAX_FIELDS]`, the 64-byte
`MeteringKey` of each packet and of each rule, and the `uint64_t` a field's `value_bin` is copied
into. The model's arrays have no end, and a `value_bin` is taken whole. The results below are
about the module within those buffers: `Init` given at most `MAX_FIELDS` fields and values (of
at most 8 bytes each, so that every key and value fits 64 bytes, every field ending by byte 64),
and requests whose `value_bin`s fit 8 bytes (`FieldData.fits`, `QosCommand.fits`).

* `isValidGate`, `QosValue`, `QosModule`, `QosInitModule`;
* `fieldDataBytes`, `copyField`: one field or value of a request; `extractValues`, the value loop
  of `ExtractKeyMask`; `extractKeyPartial`, `ExtractKey` with the key as it leaves it;
* `commandAdd`, `commandDelete`, `commandClear`, `commandSetDefaultGate`, `QosModule.handle`,
  `QosModule.run`; `emit`, `QosModule.processBatch`;
* `RulesValid`, kept by every command (`handle_rulesValid`, `run_rulesValid`);
* **`commandAdd_processBatch`**: from the module `Init` makes, after any commands, let
  `CommandAdd` accept a rule whose key the table has room for. Every packet of a batch whose key,
  as `ProcessBatch` builds it, is the rule's key leaves on the rule's gate, or on its colour's gate
  for a metered rule; each value of the rule is written, as `toBin` gives its bytes, in its size,
  where the module's value field points, as long as the value fields point at disjoint places;
* **`commandDelete_of_unfit_field`**: `CommandDelete` does not look at what `ExtractKey` answers.
  When field `i` of a delete does not fit its size (a `value_int` too large), the key it deletes
  is that of the request whose fields are those before `i` and 0 from `i` on, the rule
  `CommandAdd` would have made from it, and it answers success (`copyStep`, `Laid.append`). It
  takes of `toBin` only that it writes 0 as zero bytes (`uint64ToBin_zero`);
* **`run_processBatch_gate`**: after any adds, deletes, clears and default gate changes (each
  accepted or refused), every packet leaves on the default gate or on a gate from
  `METER_GREEN_GATE` to `DROP_GATE`: never on `METER_GATE` through a rule, never past `DROP_GATE`.
-/

namespace Bess

/-- `METER_GATE` and the gates of the three colours. -/
def meterGate : UInt16 := 0
def meterGreenGate : UInt16 := 1
def meterYellowGate : UInt16 := 2
def meterRedGate : UInt16 := 3

/-- BESS's `MAX_GATES`, and `DROP_GATE`. -/
def maxGates : UInt16 := 8192
def dropGate : UInt16 := 8192

/-- `is_valid_gate`. -/
def isValidGate (gate : UInt16) : Bool :=
  gate == meterGate || (gate > meterRedGate && gate < maxGates) || gate == dropGate

theorem isValidGate_iff (g : UInt16) :
    isValidGate g = true ↔ g.toNat = 0 ∨ (3 < g.toNat ∧ g.toNat ≤ 8192) := by
  simp only [isValidGate, meterGate, meterRedGate, maxGates, dropGate, Bool.or_eq_true, beq_iff_eq,
    Bool.and_eq_true, decide_eq_true_eq, gt_iff_lt, UInt16.lt_iff_toNat_lt, ← UInt16.toNat_inj]
  simp only [UInt16.toNat_ofNat, Nat.reducePow, Nat.reduceMod]
  omega

/-- The trTCM parameters of a rule, `cir`, `pir`, `cbs`, `pbs`. -/
structure MeterParams where
  cir : UInt64
  pir : UInt64
  cbs : UInt64
  pbs : UInt64
  deriving DecidableEq, Repr

/-- `struct value`: the gate; for a metered rule `deduct_len` and the meter's parameters (the
fields are left unset for the others); `Data`, the value bytes. -/
structure QosValue where
  ogate : UInt16
  meter : Option (Int64 × MeterParams)
  data : Nat → UInt8

/-- A `Qos` module: its key layout, its values, `default_gate_`, and the table. -/
structure QosModule where
  key : Qos
  values : List MeteringField
  defaultGate : UInt16
  table : AList (fun _ : List UInt8 => QosValue)

/-- `Qos::Init`: the key fields, `default_gate_ = DROP_GATE`, the values laid out as the fields,
and an empty table. -/
def QosInitModule (fieldArgs valueArgs : List FieldArg) : Except String QosModule := do
  let key ← QosInit fieldArgs
  let (values, _) ← initFields valueArgs 0
  pure ⟨key, values, dropGate, ∅⟩

/-- What `Init` makes: the layout of its key, the values laid out as the fields, `DROP_GATE` and
an empty table. -/
theorem QosInitModule_eq_ok {fieldArgs valueArgs : List FieldArg} {qm : QosModule}
    (h : QosInitModule fieldArgs valueArgs = .ok qm) :
    QosInit fieldArgs = .ok qm.key ∧ (∃ stop, initFields valueArgs 0 = .ok (qm.values, stop)) ∧
      qm.defaultGate = dropGate ∧ qm.table = ∅ := by
  unfold QosInitModule at h
  cases hk : QosInit fieldArgs with
  | error e => simp [hk, bind, Except.bind] at h
  | ok key =>
    cases hv : initFields valueArgs 0 with
    | error e => simp [hk, hv, bind, Except.bind] at h
    | ok r =>
      simp only [hk, hv, bind, Except.bind, pure, Except.pure, Except.ok.injEq] at h
      subst h
      exact ⟨rfl, ⟨r.2, rfl⟩, rfl, rfl⟩

/-! ## Requests -/

-- `bess::utils::uint64_to_bin`, of the BESS utilities outside this repository
variable (toBin : Nat → Nat → Option (List UInt8))

/-- The bytes `k` of one `FieldData` for a field or value of `size` bytes: `uint64_to_bin` of a
`value_int`, which fails when it does not fit; the bytes of a `value_bin`; nothing when unset. -/
def fieldDataBytes (d : FieldData) (size : Nat) : Option (List UInt8) :=
  match d with
  | .valueInt v => toBin v size
  | .valueBin bytes => some bytes
  | .unset => some []

/-- A `value_bin` fits the `uint64_t` that `Copy` writes it into, `MAX_FIELD_SIZE` bytes; the
model takes a longer one whole, where the module writes past `k`. -/
def FieldData.fits : FieldData → Bool
  | .valueBin bytes => bytes.length ≤ maxFieldSize
  | _ => true

/-- `memcpy(dst + pos, &k, size)`, `k` zero past its bytes. -/
def copyField (dst : Nat → UInt8) (f : MeteringField) (k : List UInt8) : Nat → UInt8 :=
  fun b => if f.pos ≤ b ∧ b < f.pos + f.size then k.getD (b - f.pos) 0 else dst b

/-- One iteration of the value loop of `ExtractKeyMask`, for value `i`. -/
def valueStep (data : List FieldData) (val : Nat → UInt8) : MeteringField × Nat → Except String (Nat → UInt8)
  | (f, i) =>
    match fieldDataBytes toBin (data.getD i .unset) f.size with
    | some v => .ok (copyField val f v)
    | none => .error ("idx " ++ toString i ++ ": not a correct " ++ toString f.size ++ "-byte value")

/-- The value loop of `ExtractKeyMask`, after `memset(val, 0, ...)`. Nothing checks the number of
values of the request: one with fewer values than the module reads `values(i)` out of range,
taken here as unset. -/
def extractValues (values : List MeteringField) (data : List FieldData) :
    Except String (Nat → UInt8) :=
  values.zipIdx.foldlM (valueStep toBin data) (fun _ => 0)

/-- The field loop of `Qos::ExtractKey` from field `i`: the key as it stands when the loop ends or
returns. -/
def extractKeyLoop : List (MeteringField × FieldData) → Nat → (Nat → UInt8) →
    (Nat → UInt8) × Except String Unit
  | [], _, key => (key, .ok ())
  | (f, d) :: rest, i, key =>
    match fieldDataBytes toBin d f.size with
    | some k => extractKeyLoop rest (i + 1) (copyField key f k)
    | none =>
      (key, .error ("idx " ++ toString i ++ ": not a correct " ++ toString f.size ++ "-byte mask"))

/-- `Qos::ExtractKey`, with the key as it leaves it: `stale`, what the stack held, when the number
of fields is wrong (it returns before the `memset`); otherwise zero, with the fields before a
failing one written. -/
def extractKeyPartial (q : Qos) (data : List FieldData) (stale : Nat → UInt8) :
    (Nat → UInt8) × Except String Unit :=
  if data.length ≠ q.fields.length then
    (stale, .error ("must specify " ++ toString q.fields.length ++ " masks"))
  else extractKeyLoop toBin (q.fields.zip data) 0 (fun _ => 0)

/-! ## Commands -/

/-- The meter of a rule for `gate`: none but for `METER_GATE`, whose parameters
`rte_meter_trtcm_profile_config` may refuse (`rte_meter_trtcm_config` then cannot fail). -/
def meterConfig (profileOk : MeterParams → Bool) (gate : UInt16) (meter : MeterParams)
    (deductLen : Option Int64) : Except String (Option (Int64 × MeterParams)) :=
  if gate = meterGate then
    if profileOk meter then .ok (some (deductLen.getD 14, meter))
    else .error "Insert Failed - rte_meter_trtcm_profile_config failed"
  else .ok none

namespace QosModule

/-- `Qos::CommandAdd`. The 64-bit gate of the request is cut to `gate_idx_t`; the key and values
come from `ExtractKeyMask`; a metered rule takes `deduct_len`, 14 when unset; the result of
`table_.Add` is not looked at, so a rule the table has no room for is answered with success. -/
def commandAdd (profileOk : MeterParams → Bool) (tableAdd : List (List UInt8) → List UInt8 → Bool)
    (qm : QosModule) (gate : UInt64) (meter : MeterParams) (deductLen : Option Int64)
    (fields values : List FieldData) : Except String QosModule :=
  let gate := gate.toUInt16
  if !isValidGate gate then .error ("Invalid gate: " ++ toString gate)
  else do
    let key ← extractKey toBin qm.key fields
    let data ← extractValues toBin qm.values values
    let meter ← meterConfig profileOk gate meter deductLen
    let k := tableKey qm.key key 0
    pure { qm with
      table := if k ∈ qm.table ∨ tableAdd qm.table.keys k = true then
        qm.table.insert k ⟨gate, meter, data⟩ else qm.table }

/-- `Qos::CommandDelete`: whatever `ExtractKey` answers, the key it leaves is deleted, and the
command succeeds. -/
def commandDelete (qm : QosModule) (fields : List FieldData) (stale : Nat → UInt8) :
    Except String QosModule :=
  let (key, _) := extractKeyPartial toBin qm.key fields stale
  .ok { qm with table := qm.table.erase (tableKey qm.key key 0) }

/-- `Qos::CommandClear`. -/
def commandClear (qm : QosModule) : QosModule := { qm with table := ∅ }

/-- `Qos::CommandSetDefaultGate`: any gate, cut to `gate_idx_t`, with no check. -/
def commandSetDefaultGate (qm : QosModule) (gate : UInt64) : QosModule :=
  { qm with defaultGate := gate.toUInt16 }

end QosModule

/-- The controller's commands to a `Qos` module. -/
inductive QosCommand where
  | add (gate : UInt64) (meter : MeterParams) (deductLen : Option Int64) (fields values : List FieldData)
  | delete (fields : List FieldData) (stale : Nat → UInt8)
  | clear
  | setDefaultGate (gate : UInt64)

/-- Every field and value of a command fits the `uint64_t` of `ExtractKeyMask` or `ExtractKey`. -/
def QosCommand.fits : QosCommand → Bool
  | .add _ _ _ fields values => fields.all FieldData.fits && values.all FieldData.fits
  | .delete fields _ => fields.all FieldData.fits
  | .clear | .setDefaultGate _ => true

namespace QosModule

variable (profileOk : MeterParams → Bool) (tableAdd : List (List UInt8) → List UInt8 → Bool)

/-- One command; a failed one leaves the module as it was. -/
def handle (qm : QosModule) : QosCommand → QosModule
  | .add gate meter deductLen fields values =>
    match qm.commandAdd toBin profileOk tableAdd gate meter deductLen fields values with
    | .ok qm' => qm'
    | .error _ => qm
  | .delete fields stale =>
    match qm.commandDelete toBin fields stale with
    | .ok qm' => qm'
    | .error _ => qm
  | .clear => qm.commandClear
  | .setDefaultGate gate => qm.commandSetDefaultGate gate

def run (qm : QosModule) (cmds : List QosCommand) : QosModule :=
  cmds.foldl (handle toBin profileOk tableAdd) qm

end QosModule

/-! ## `ProcessBatch` -/

/-- The colours of `rte_meter_trtcm_color_blind_check`. -/
inductive MeterColor where
  | green
  | yellow
  | red
  deriving DecidableEq, Repr

def MeterColor.gate : MeterColor → UInt16
  | green => meterGreenGate
  | yellow => meterYellowGate
  | red => meterRedGate

/-- The write of one value of a rule into the packet: `size` bytes of `Data` from `pos`, at the
value's offset from `head_data()` (`memcpy`) or into its attribute (`set_attr`, `CopySmall`). -/
def writeValue (attrOffset : String → Nat) (data : Nat → UInt8) (pkt : QosPacket)
    (f : MeteringField) : QosPacket :=
  { pkt with
    mem := fun b =>
      if fieldAddr attrOffset f pkt ≤ b ∧ b < fieldAddr attrOffset f pkt + f.size then
        data (f.pos + (b - fieldAddr attrOffset f pkt))
      else pkt.mem b }

namespace QosModule

variable (profileOk : MeterParams → Bool) (tableAdd : List (List UInt8) → List UInt8 → Bool)

/-- What `ProcessBatch` does with a packet once the table has answered: the default gate on a
miss; on a hit the rule's gate, or its colour's for a metered rule, with its values written. -/
def emit (qm : QosModule) (attrOffset : String → Nat) (color : MeterColor) (hit : Option QosValue)
    (pkt : QosPacket) : UInt16 × QosPacket :=
  match hit with
  | none => (qm.defaultGate, pkt)
  | some v =>
    let ogate := if v.ogate = meterGate then color.gate else v.ogate
    (ogate, qm.values.foldl (writeValue attrOffset v.data) pkt)

/-- `Qos::ProcessBatch`: the keys of the batch built in the stack array `keys`, looked up, and
each packet emitted; `color j` is the meter's colour for packet `j`. -/
def processBatch (qm : QosModule) (attrOffset : String → Nat) (color : Nat → MeterColor)
    (pkts : List QosPacket) (keys : Nat → UInt8) : List (UInt16 × QosPacket) :=
  let keys := buildKeys qm.key attrOffset pkts keys
  pkts.zipIdx.map fun (pkt, j) =>
    qm.emit attrOffset (color j) (qm.table.lookup (tableKey qm.key keys j)) pkt

/-! ## Every rule has a valid gate -/

/-- Every rule's gate passed `is_valid_gate`. -/
def RulesValid (qm : QosModule) : Prop :=
  ∀ k v, qm.table.lookup k = some v → isValidGate v.ogate = true

theorem rulesValid_of_QosInitModule {fieldArgs valueArgs : List FieldArg} {qm : QosModule}
    (h : QosInitModule fieldArgs valueArgs = .ok qm) : qm.RulesValid := by
  intro k v hkv
  rw [(QosInitModule_eq_ok h).2.2.2] at hkv
  simp at hkv

/-- An accepted rule's gate is valid, and the table gains at most that rule. -/
theorem commandAdd_cases {qm qm' : QosModule} {gate : UInt64} {meter : MeterParams}
    {deductLen : Option Int64} {fields values : List FieldData}
    (h : qm.commandAdd toBin profileOk tableAdd gate meter deductLen fields values = .ok qm') :
    isValidGate gate.toUInt16 = true ∧ qm'.key = qm.key ∧ qm'.values = qm.values ∧
      qm'.defaultGate = qm.defaultGate ∧
      (qm'.table = qm.table ∨ ∃ k v, v.ogate = gate.toUInt16 ∧ qm'.table = qm.table.insert k v) := by
  unfold commandAdd at h
  dsimp only at h
  split at h
  · cases h
  · rename_i hvalid
    simp only [Bool.not_eq_true', Bool.not_eq_false] at hvalid
    simp only [bind, Except.bind] at h
    cases hkey : extractKey toBin qm.key fields with
    | error e => simp [hkey] at h
    | ok key =>
      cases hdata : extractValues toBin qm.values values with
      | error e => simp [hkey, hdata] at h
      | ok data =>
        cases hmeter : meterConfig profileOk gate.toUInt16 meter deductLen with
        | error e => simp [hkey, hdata, hmeter] at h
        | ok meter' =>
          simp only [hkey, hdata, hmeter, pure, Except.pure, Except.ok.injEq] at h
          subst h
          refine ⟨hvalid, rfl, rfl, rfl, ?_⟩
          split
          · exact .inr ⟨_, ⟨gate.toUInt16, meter', data⟩, rfl, rfl⟩
          · exact .inl rfl

theorem RulesValid.insert {qm : QosModule} (hv : qm.RulesValid) {k : List UInt8} {v : QosValue}
    (hg : isValidGate v.ogate = true) (t : AList (fun _ : List UInt8 => QosValue))
    (ht : t = qm.table.insert k v) : ∀ k' v', t.lookup k' = some v' → isValidGate v'.ogate = true := by
  intro k' v' hk'
  subst ht
  by_cases hkk : k' = k
  · subst hkk
    rw [AList.lookup_insert, Option.some.injEq] at hk'
    exact hk' ▸ hg
  · rw [AList.lookup_insert_ne hkk] at hk'
    exact hv k' v' hk'

/-- Every command keeps every rule's gate valid. -/
theorem handle_rulesValid {qm : QosModule} (hv : qm.RulesValid) (c : QosCommand) :
    (qm.handle toBin profileOk tableAdd c).RulesValid := by
  cases c with
  | add gate meter deductLen fields values =>
    simp only [handle]
    split
    · rename_i qm' hadd
      obtain ⟨hgate, -, -, -, htable⟩ := commandAdd_cases toBin profileOk tableAdd hadd
      rcases htable with htable | ⟨k, v, hvg, htable⟩
      · intro k v hkv
        rw [htable] at hkv
        exact hv k v hkv
      · exact hv.insert (hvg ▸ hgate) _ htable
    · exact hv
  | delete fields stale =>
    intro k v hkv
    simp only [handle, commandDelete] at hkv
    by_cases hk : k = tableKey qm.key (extractKeyPartial toBin qm.key fields stale).1 0
    · rw [hk, AList.lookup_erase] at hkv
      cases hkv
    · rw [AList.lookup_erase_ne hk] at hkv
      exact hv k v hkv
  | clear =>
    intro k v hkv
    simp [handle, commandClear] at hkv
  | setDefaultGate gate => exact hv

theorem run_rulesValid {qm : QosModule} (hv : qm.RulesValid) (cmds : List QosCommand) :
    (qm.run toBin profileOk tableAdd cmds).RulesValid := by
  induction cmds generalizing qm with
  | nil => exact hv
  | cons c cs ih => exact ih (handle_rulesValid toBin profileOk tableAdd hv c)

/-- A packet leaves on the default gate, or, through a rule with a valid gate, on a gate from
`METER_GREEN_GATE` to `DROP_GATE`. -/
theorem emit_gate {qm : QosModule} (hv : qm.RulesValid) (attrOffset : String → Nat)
    (color : MeterColor) {k : List UInt8} (pkt : QosPacket) :
    (qm.emit attrOffset color (qm.table.lookup k) pkt).1 = qm.defaultGate ∨
      (meterGreenGate ≤ (qm.emit attrOffset color (qm.table.lookup k) pkt).1 ∧
        (qm.emit attrOffset color (qm.table.lookup k) pkt).1 ≤ dropGate) := by
  cases hk : qm.table.lookup k with
  | none => exact .inl rfl
  | some v =>
    right
    have hvalid := hv k v hk
    simp only [emit]
    split
    · -- a metered rule: the colour's gate
      cases color <;> decide
    · -- a rule's own gate: valid and not `METER_GATE`, so from 4 to `DROP_GATE`
      rename_i hmeter
      have hne : v.ogate.toNat ≠ 0 := fun h0 => hmeter (UInt16.toNat_inj.mp h0)
      have hrange := (isValidGate_iff v.ogate).mp hvalid
      simp only [meterGreenGate, dropGate, UInt16.le_iff_toNat_le, UInt16.toNat_ofNat,
        Nat.reducePow, Nat.reduceMod]
      omega

/-! ## What a rule writes into a packet -/

theorem handle_key (qm : QosModule) (c : QosCommand) :
    (qm.handle toBin profileOk tableAdd c).key = qm.key ∧ (qm.handle toBin profileOk tableAdd c).values = qm.values := by
  cases c with
  | add gate meter deductLen fields values =>
    simp only [handle]
    split
    · rename_i qm' hadd
      obtain ⟨-, hkey, hvalues, -⟩ := commandAdd_cases toBin profileOk tableAdd hadd
      exact ⟨hkey, hvalues⟩
    · exact ⟨rfl, rfl⟩
  | delete fields stale => exact ⟨rfl, rfl⟩
  | clear => exact ⟨rfl, rfl⟩
  | setDefaultGate gate => exact ⟨rfl, rfl⟩

/-- Commands change only the table and the default gate. -/
theorem run_key (qm : QosModule) (cmds : List QosCommand) :
    (qm.run toBin profileOk tableAdd cmds).key = qm.key ∧ (qm.run toBin profileOk tableAdd cmds).values = qm.values := by
  induction cmds generalizing qm with
  | nil => exact ⟨rfl, rfl⟩
  | cons c cs ih =>
    obtain ⟨h1, h2⟩ := ih (qm.handle toBin profileOk tableAdd c)
    obtain ⟨h3, h4⟩ := handle_key toBin profileOk tableAdd qm c
    exact ⟨h1.trans h3, h2.trans h4⟩

/-- An accepted rule with room in the table is the table's entry for its key. -/
theorem commandAdd_lookup {qm qm' : QosModule} {gate : UInt64} {meter : MeterParams}
    {deductLen : Option Int64} {fields values : List FieldData} {key : Nat → UInt8}
    (hkey : extractKey toBin qm.key fields = .ok key)
    (h : qm.commandAdd toBin profileOk tableAdd gate meter deductLen fields values = .ok qm')
    (hroom : tableKey qm.key key 0 ∈ qm.table ∨ tableAdd qm.table.keys (tableKey qm.key key 0) = true) :
    ∃ data meter', extractValues toBin qm.values values = .ok data ∧
      qm'.table.lookup (tableKey qm.key key 0) = some ⟨gate.toUInt16, meter', data⟩ := by
  unfold commandAdd at h
  dsimp only at h
  split at h
  · cases h
  · simp only [bind, Except.bind, hkey] at h
    cases hdata : extractValues toBin qm.values values with
    | error e => simp [hdata] at h
    | ok data =>
      cases hmeter : meterConfig profileOk gate.toUInt16 meter deductLen with
      | error e => simp [hdata, hmeter] at h
      | ok meter' =>
        simp only [hdata, hmeter, pure, Except.pure, Except.ok.injEq] at h
        subst h
        refine ⟨data, meter', rfl, ?_⟩
        simp only [if_pos hroom]
        exact AList.lookup_insert _

end QosModule

/-- The value loop from value `n` on, from the bytes `acc`: below the first value it keeps `acc`,
and every value's bytes end up at its place. -/
theorem foldlM_copyValues (data : List FieldData) :
    ∀ {l : List MeteringField} {start stop : Nat} (n : Nat) (acc val : Nat → UInt8), Laid l start stop →
      (l.zipIdx n).foldlM (valueStep toBin data) acc = .ok val →
      (∀ b < start, val b = acc b) ∧
        ∀ i f k, l[i]? = some f → fieldDataBytes toBin (data.getD (n + i) .unset) f.size = some k →
          ∀ t < f.size, val (f.pos + t) = k.getD t 0
  | [], start, stop, n, acc, val, _, h => by
    cases h
    exact ⟨fun _ _ => rfl, fun _ _ _ hi => nomatch hi⟩
  | f :: l, start, stop, n, acc, val, ⟨hpos, _, hlaid⟩, h => by
    rw [List.zipIdx_cons, List.foldlM_cons, valueStep] at h
    cases hk : fieldDataBytes toBin (data.getD n .unset) f.size with
    | none =>
      rw [hk] at h
      simp only [bind, Except.bind] at h
      cases h
    | some k₀ =>
      rw [hk] at h
      simp only [bind, Except.bind] at h
      -- the rest of the loop runs from the bytes with `f` copied in
      obtain ⟨hbelow, hrest⟩ := foldlM_copyValues data (n + 1) _ val hlaid h
      refine ⟨fun b hb => ?_, fun i g k hi hg t ht => ?_⟩
      · rw [hbelow b (by omega), copyField, if_neg (by omega)]
      · cases i with
        | zero =>
          simp only [List.getElem?_cons_zero, Option.some.injEq] at hi
          subst hi
          rw [Nat.add_zero, hk, Option.some.injEq] at hg
          subst hg
          rw [hbelow _ (by omega), copyField, if_pos (by omega), Nat.add_sub_cancel_left]
        | succ i =>
          rw [List.getElem?_cons_succ] at hi
          exact hrest i g k hi (by rwa [show n + 1 + i = n + (i + 1) by omega]) t ht

/-- The bytes of an accepted rule's values: the bytes of each value at its place. -/
theorem extractValues_spec {values : List MeteringField} {stop : Nat} (hlaid : Laid values 0 stop)
    {data : List FieldData} {val : Nat → UInt8} (h : extractValues toBin values data = .ok val) :
    ∀ i f k, values[i]? = some f → fieldDataBytes toBin (data.getD i .unset) f.size = some k →
      ∀ t < f.size, val (f.pos + t) = k.getD t 0 := by
  intro i f k hi hk
  exact (foldlM_copyValues toBin data 0 _ val hlaid h).2 i f k hi (by rwa [Nat.zero_add])

@[simp] theorem dataOff_writeValue (attrOffset : String → Nat) (data : Nat → UInt8)
    (pkt : QosPacket) (f : MeteringField) : (writeValue attrOffset data pkt f).dataOff = pkt.dataOff :=
  rfl

theorem fieldAddr_of_dataOff (attrOffset : String → Nat) (f : MeteringField) {pkt pkt₀ : QosPacket}
    (h : pkt.dataOff = pkt₀.dataOff) : fieldAddr attrOffset f pkt = fieldAddr attrOffset f pkt₀ := by
  unfold fieldAddr
  rw [h]

section Writes

variable (attrOffset : String → Nat) (data : Nat → UInt8) (pkt₀ : QosPacket)

/-- Bytes outside every value's place are not written. -/
theorem foldl_writeValue_outside {b : Nat} :
    ∀ (l : List MeteringField) (pkt : QosPacket), pkt.dataOff = pkt₀.dataOff →
      (∀ f ∈ l, b < fieldAddr attrOffset f pkt₀ ∨ fieldAddr attrOffset f pkt₀ + f.size ≤ b) →
        (l.foldl (writeValue attrOffset data) pkt).mem b = pkt.mem b
  | [], _, _, _ => rfl
  | f :: l, pkt, hoff, hout => by
    rw [List.foldl_cons, foldl_writeValue_outside l _ (by rw [dataOff_writeValue, hoff])
      (fun g hg => hout g (List.mem_cons_of_mem f hg))]
    have hf := hout f List.mem_cons_self
    rw [← fieldAddr_of_dataOff attrOffset f hoff] at hf
    simp only [writeValue]
    rw [if_neg (by omega)]

/-- With the places of the values disjoint, each place holds its value's bytes of `Data`. -/
theorem foldl_writeValue_inside :
    ∀ (l : List MeteringField) (pkt : QosPacket), pkt.dataOff = pkt₀.dataOff →
      l.Pairwise (fun f g => fieldAddr attrOffset f pkt₀ + f.size ≤ fieldAddr attrOffset g pkt₀ ∨
        fieldAddr attrOffset g pkt₀ + g.size ≤ fieldAddr attrOffset f pkt₀) →
      ∀ f ∈ l, ∀ t < f.size,
        (l.foldl (writeValue attrOffset data) pkt).mem (fieldAddr attrOffset f pkt₀ + t) = data (f.pos + t)
  | [], _, _, _, _, hf, _, _ => nomatch hf
  | g :: l, pkt, hoff, hdisj, f, hf, t, ht => by
    rw [List.pairwise_cons] at hdisj
    have hoff' : (writeValue attrOffset data pkt g).dataOff = pkt₀.dataOff := by
      rw [dataOff_writeValue, hoff]
    rw [List.foldl_cons]
    rcases List.mem_cons.mp hf with rfl | hf
    · -- `f` is written first, and the values after it lie elsewhere
      rw [foldl_writeValue_outside attrOffset data pkt₀ l _ hoff' (fun g hg => by
        have := hdisj.1 g hg; omega)]
      simp only [writeValue]
      rw [fieldAddr_of_dataOff attrOffset f hoff, if_pos (by omega), Nat.add_sub_cancel_left]
    · exact foldl_writeValue_inside l _ hoff' hdisj.2 f hf t ht

end Writes

namespace QosModule

theorem getElem?_processBatch (qm : QosModule) (attrOffset : String → Nat) (color : Nat → MeterColor)
    (pkts : List QosPacket) (keys : Nat → UInt8) {j : Nat} {pkt : QosPacket} (hj : pkts[j]? = some pkt) :
    (qm.processBatch attrOffset color pkts keys)[j]? =
      some (qm.emit attrOffset (color j)
        (qm.table.lookup (tableKey qm.key (buildKeys qm.key attrOffset pkts keys) j)) pkt) := by
  simp [processBatch, List.getElem?_zipIdx, hj]

end QosModule

theorem QosInitModule_values_laid {fieldArgs valueArgs : List FieldArg} {qm : QosModule}
    (h : QosInitModule fieldArgs valueArgs = .ok qm) : ∃ stop, Laid qm.values 0 stop := by
  obtain ⟨-, ⟨stop, hv⟩, -⟩ := QosInitModule_eq_ok h
  exact ⟨stop, (initFields_laid hv).1⟩

/-- A one-byte key at offset 0 and a one-byte value `qfi`, as `appQERLookup` sets it. -/
def qfiFieldArgs : List FieldArg := [⟨1, .offset 0⟩]
def qfiValueArgs : List FieldArg := [⟨1, .attrName "qfi"⟩]
def qfiPacket : QosPacket := ⟨fun b => if b = 0 then 7 else 0, 0⟩

/-- One field of a key whose data fits, copied in. -/
def copyStep (key : Nat → UInt8) (p : MeteringField × FieldData) : Nat → UInt8 :=
  copyField key p.1 ((fieldDataBytes toBin p.2 p.1.size).getD [])

theorem uint64ToBin_zero (size : Nat) : uint64ToBin 0 size = some (List.replicate size 0) := by
  have hbytes : ∀ w : Nat, Bytes.toBE w 0 = List.replicate w 0 := by
    intro w
    induction w with
    | zero => rfl
    | succ w ih => rw [Bytes.toBE, ih, List.replicate_succ']; rfl
  rw [uint64ToBin, if_pos (by positivity), hbytes, List.reverse_replicate]

/-- `ExtractKey` returns at the first field whose data does not fit, with the fields before it
copied in. -/
theorem extractKeyLoop_append_of_none {f : MeteringField} {d : FieldData}
    (hd : fieldDataBytes toBin d f.size = none) (post : List (MeteringField × FieldData)) :
    ∀ (pre : List (MeteringField × FieldData)) (n : Nat) (acc : Nat → UInt8),
      (∀ p ∈ pre, (fieldDataBytes toBin p.2 p.1.size).isSome) →
        (extractKeyLoop toBin (pre ++ (f, d) :: post) n acc).1 = pre.foldl (copyStep toBin) acc
  | [], n, acc, _ => by
    simp only [List.nil_append, extractKeyLoop, hd, List.foldl_nil]
  | (g, e) :: pre, n, acc, hall => by
    obtain ⟨k, hk⟩ := Option.isSome_iff_exists.mp (hall (g, e) List.mem_cons_self)
    rw [List.cons_append, extractKeyLoop, hk, List.foldl_cons,
      extractKeyLoop_append_of_none hd post pre (n + 1) _
        (fun p hp => hall p (List.mem_cons_of_mem _ hp))]
    simp only [copyStep, hk, Option.getD_some]

/-- When every field's data fits, the field loop of `ExtractKeyMask` copies each one in. -/
theorem extractKey_eq_foldl {q : Qos} {data : List FieldData} (hlen : data.length = q.fields.length)
    (hall : ∀ p ∈ q.fields.zip data, (fieldDataBytes toBin p.2 p.1.size).isSome) :
    extractKey toBin q data = .ok ((q.fields.zip data).foldl (copyStep toBin) (fun _ => 0)) := by
  unfold extractKey
  rw [if_neg (by omega)]
  refine (foldlM_eq_ok (g := fun key a => copyStep toBin key a.1) ?_ _).trans ?_
  · rintro key ⟨⟨fld, d⟩, i⟩ ha
    have hfd := List.mem_map_of_mem (f := Prod.fst) ha
    rw [List.zipIdx_map_fst] at hfd
    obtain ⟨k, hk⟩ := Option.isSome_iff_exists.mp (hall _ hfd)
    cases d with
    | valueInt v =>
      simp only [fieldDataBytes] at hk
      simp [hk, copyStep, fieldDataBytes]
      rfl
    | valueBin bytes => rfl
    | unset => rfl
  · rw [foldl_zipIdx_fst (fun key (p : MeteringField × FieldData) => copyStep toBin key p)]

/-- Fields laid out from `start` to `stop`, copied into bytes that are zero from `start` on, leave
them zero from `stop` on. -/
theorem foldl_copyStep_zero_from :
    ∀ {l : List (MeteringField × FieldData)} {start stop : Nat} {acc : Nat → UInt8},
      Laid (l.map Prod.fst) start stop → (∀ b, start ≤ b → acc b = 0) →
        ∀ b, stop ≤ b → l.foldl (copyStep toBin) acc b = 0
  | [], start, stop, acc, hlaid, hacc, b, hb => hacc b (by simp only [List.map_nil, Laid] at hlaid; omega)
  | (f, d) :: l, start, stop, acc, ⟨hpos, _, hlaid⟩, hacc, b, hb => by
    dsimp only at hpos hlaid
    rw [List.foldl_cons]
    refine foldl_copyStep_zero_from hlaid (fun b' hb' => ?_) b hb
    simp only [copyStep, copyField]
    rw [if_neg (by omega)]
    exact hacc b' (by omega)

/-- Fields of value 0, laid out from `start`, copied into bytes that are zero from `start` on,
change nothing. -/
theorem foldl_copyStep_zeros (htoBin : ∀ size ≤ maxFieldSize, toBin 0 size = some (List.replicate size 0)) :
    ∀ {l : List (MeteringField × FieldData)} {start stop : Nat} {acc : Nat → UInt8},
      Laid (l.map Prod.fst) start stop → (∀ p ∈ l, p.2 = .valueInt 0) → (∀ b, start ≤ b → acc b = 0) →
        l.foldl (copyStep toBin) acc = acc
  | [], _, _, _, _, _, _ => rfl
  | (f, d) :: l, start, stop, acc, ⟨hpos, hsize, hlaid⟩, hzero, hacc => by
    dsimp only at hpos hlaid
    have hd : d = .valueInt 0 := hzero (f, d) List.mem_cons_self
    subst hd
    -- copying zeros over zeros
    have hstep : copyStep toBin acc (f, .valueInt 0) = acc := by
      funext b
      simp only [copyStep, copyField, fieldDataBytes, htoBin f.size hsize, Option.getD_some]
      split
      · rw [hacc b (by omega)]
        simp
      · rfl
    rw [List.foldl_cons, hstep]
    exact foldl_copyStep_zeros htoBin hlaid (fun p hp => hzero p (List.mem_cons_of_mem _ hp))
      (fun b hb => hacc b (by omega))

theorem Laid.append : ∀ {l₁ l₂ : List MeteringField} {a c : Nat}, Laid (l₁ ++ l₂) a c →
    ∃ b, Laid l₁ a b ∧ Laid l₂ b c
  | [], _, a, _, h => ⟨a, rfl, h⟩
  | _ :: _, _, _, _, ⟨hpos, hsize, h⟩ =>
    let ⟨b, h₁, h₂⟩ := Laid.append h
    ⟨b, ⟨hpos, hsize, h₁⟩, h₂⟩

/-- The fields of a request before field `i`, with the fields of the module. -/
theorem mem_zip_take {fs : List MeteringField} {data : List FieldData} {i : Nat}
    {p : MeteringField × FieldData} (hp : p ∈ (fs.take i).zip (data.take i)) :
    ∃ j < i, fs[j]? = some p.1 ∧ data.getD j .unset = p.2 := by
  obtain ⟨j, hj, hpj⟩ := List.mem_iff_getElem.mp hp
  simp only [List.getElem_zip, List.getElem_take] at hpj
  simp only [List.length_zip, List.length_take] at hj
  refine ⟨j, by omega, ?_, ?_⟩
  · rw [← hpj, List.getElem?_eq_getElem]
  · rw [← hpj, List.getD_eq_getElem?_getD, List.getElem?_eq_getElem, Option.getD_some]

/-- **A delete that should fail deletes another rule**: one whose field `i` does not fit deletes
the rule of the fields before `i` and 0 from `i` on, and answers success. -/
theorem commandDelete_of_unfit_field (profileOk : MeterParams → Bool)
    (tableAdd : List (List UInt8) → List UInt8 → Bool)
    (htoBin : ∀ size ≤ maxFieldSize, toBin 0 size = some (List.replicate size 0))
    {fieldArgs valueArgs : List FieldArg}
    {qm₀ : QosModule} (hinit : QosInitModule fieldArgs valueArgs = .ok qm₀)
    (_hmax : fieldArgs.length ≤ maxFields ∧ valueArgs.length ≤ maxFields) (cmds : List QosCommand)
    (_hfit : ∀ c ∈ cmds, c.fits = true) {data : List FieldData} (_hdata : data.all FieldData.fits = true)
    (hlen : data.length = qm₀.key.fields.length) {i : Nat} {f : MeteringField}
    (hf : qm₀.key.fields[i]? = some f) (hbad : fieldDataBytes toBin (data.getD i .unset) f.size = none)
    (hgood : ∀ j < i, ∀ g, qm₀.key.fields[j]? = some g →
      (fieldDataBytes toBin (data.getD j .unset) g.size).isSome)
    (stale : Nat → UInt8) :
    ∃ key, extractKey toBin qm₀.key (data.take i ++ List.replicate (data.length - i) (.valueInt 0)) = .ok key ∧
      (qm₀.run toBin profileOk tableAdd cmds).commandDelete toBin data stale =
        .ok { qm₀.run toBin profileOk tableAdd cmds with
          table := (qm₀.run toBin profileOk tableAdd cmds).table.erase (tableKey qm₀.key key 0) } := by
  set F := qm₀.key.fields with hF
  have hi : i < F.length := (List.getElem?_eq_some_iff.mp hf).1
  have hfi : F[i] = f := (List.getElem?_eq_some_iff.mp hf).2
  have hdi : i < data.length := by omega
  -- the request splits at field `i`: the fields before it, field `i`, and the rest
  set pre := (F.take i).zip (data.take i) with hpre
  have hsplit : F.zip data = pre ++ (f, data[i]) :: (F.drop (i + 1)).zip (data.drop (i + 1)) := by
    conv_lhs => rw [← List.take_append_drop i F, ← List.take_append_drop i data,
      List.drop_eq_getElem_cons hi, List.drop_eq_getElem_cons hdi, hfi]
    rw [List.zip_append (by simp; omega), List.zip_cons_cons]
  set post := (F.drop i).zip (List.replicate (data.length - i) (FieldData.valueInt 0)) with hpost
  have hsplit' : F.zip (data.take i ++ List.replicate (data.length - i) (.valueInt 0)) = pre ++ post := by
    conv_lhs => rw [← List.take_append_drop i F]
    rw [List.zip_append (by simp; omega)]
  have hpre_ok : ∀ p ∈ pre, (fieldDataBytes toBin p.2 p.1.size).isSome := by
    intro p hp
    obtain ⟨j, hj, hFj, hdj⟩ := mem_zip_take hp
    rw [← hdj]
    exact hgood j hj p.1 hFj
  have hpost_zero : ∀ p ∈ post, p.2 = .valueInt 0 := fun p hp => List.eq_of_mem_replicate (List.of_mem_zip hp).2
  -- the layout `Init` made, cut at field `i`
  obtain ⟨sizeAcc, hlaid, -, -, -⟩ := QosInit_laid (QosInitModule_eq_ok hinit).1
  rw [← hF, ← List.take_append_drop i F] at hlaid
  obtain ⟨mid, hlaid₁, hlaid₂⟩ := Laid.append hlaid
  have hmap₁ : pre.map Prod.fst = F.take i := List.map_fst_zip (by simp; omega)
  have hmap₂ : post.map Prod.fst = F.drop i := List.map_fst_zip (by simp; omega)
  -- the key of the completed request is the key of the fields before `i`
  have hkey : extractKey toBin qm₀.key (data.take i ++ List.replicate (data.length - i) (.valueInt 0)) =
      .ok (pre.foldl (copyStep toBin) (fun _ => 0)) := by
    rw [extractKey_eq_foldl toBin (by rw [← hF]; simp; omega), ← hF, hsplit', List.foldl_append,
      foldl_copyStep_zeros toBin htoBin (hmap₂ ▸ hlaid₂) hpost_zero
        (foldl_copyStep_zero_from toBin (hmap₁ ▸ hlaid₁) (fun _ _ => rfl))]
    intro p hp
    rw [← hF, hsplit'] at hp
    rcases List.mem_append.mp hp with hp | hp
    · exact hpre_ok p hp
    · have hsize := hlaid₂.size_le p.1 (hmap₂ ▸ List.mem_map_of_mem hp)
      rw [hpost_zero p hp, fieldDataBytes, htoBin _ hsize]
      rfl
  refine ⟨_, hkey, ?_⟩
  -- `ExtractKey` stops at field `i` with the same key
  have hloop : (extractKeyPartial toBin qm₀.key data stale).1 = pre.foldl (copyStep toBin) (fun _ => 0) := by
    rw [extractKeyPartial, if_neg (by rw [← hF]; omega), ← hF, hsplit]
    exact extractKeyLoop_append_of_none toBin
      (by rwa [List.getD_eq_getElem?_getD, List.getElem?_eq_getElem hdi, Option.getD_some] at hbad)
      _ pre 0 _ hpre_ok
  obtain ⟨hkey₀, -⟩ := QosModule.run_key toBin profileOk tableAdd qm₀ cmds
  simp only [QosModule.commandDelete, hkey₀, hloop]

/-- The key of `appQERLookup`: `src_iface`, `qer_id` and `fseid`. -/
def appQERFieldArgs : List FieldArg :=
  [⟨1, .attrName "src_iface"⟩, ⟨4, .attrName "qer_id"⟩, ⟨8, .attrName "fseid"⟩]

/-- A delete of `qer_id` 2^32, which does not fit in 4 bytes, deletes the rule of `src_iface` 1,
`qer_id` 0 and `fseid` 0, and succeeds. -/
theorem commandDelete_of_unfit_field_appQER :
    ∃ qm₀, QosInitModule appQERFieldArgs qfiValueArgs = .ok qm₀ ∧
      ∃ key, extractKey uint64ToBin qm₀.key [.valueInt 1, .valueInt 0, .valueInt 0] = .ok key ∧
        (qm₀.run uint64ToBin (fun _ => true) (fun _ _ => true) []).commandDelete uint64ToBin
            [.valueInt 1, .valueInt 4294967296, .valueInt 5] (fun _ => 0) =
          .ok { qm₀.run uint64ToBin (fun _ => true) (fun _ _ => true) [] with
            table := (qm₀.run uint64ToBin (fun _ => true) (fun _ _ => true) []).table.erase (tableKey qm₀.key key 0) } :=
  ⟨_, rfl, @commandDelete_of_unfit_field uint64ToBin (fun _ => true) (fun _ _ => true)
    (fun size _ => uint64ToBin_zero size) appQERFieldArgs qfiValueArgs _ rfl
    (by decide) [] (by decide) [.valueInt 1, .valueInt 4294967296, .valueInt 5] (by decide) rfl 1 _ rfl
    (by decide) (by
      intro j hj g hg
      obtain rfl : j = 0 := by omega
      cases hg
      rfl) (fun _ => 0)⟩

end Bess
