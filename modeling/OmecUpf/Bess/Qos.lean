import OmecUpf.Lib.Bytes

/-!
# The keys of the QoS table

`Qos::Init` (`modules/qos.cc`) lays the fields of its key out one after the other: field `i`
has `size_i` bytes (1 to `MAX_FIELD_SIZE`) at `pos_i`, the sum of the sizes before it; the key
is `total_key_size_ = align_ceil(size_acc, 8)` bytes long, and `mask` has `0xff` in its first
`size_acc` bytes. `Qos::ProcessBatch` builds the key of each packet of a batch in the stack
array `keys[kMaxBurst]` of 64-byte `MeteringKey`s, field after field and, for each field,
packet after packet: an 8-byte store at `keys[j] + pos_i`, whatever the field's size, then the
mask over the first `total_key_size_ / 8` words of `keys[j]`. `Qos::ExtractKeyMask` builds the
key of a rule with `memset` and a `memcpy` of `size_i` bytes per field.

Nothing in `Init` bounds the number of fields by `MAX_FIELDS`. A store at `pos_i > 56` runs
past the end of `keys[j]` into `keys[j + 1]`, whose first fields were already stored, and the
mask of `keys[j + 1]` keeps what it finds there.

Memory is a function from offsets to bytes: `keys` from the start of the array, a packet from
the start of its buffer. `align_ceil` rounds up to a multiple, as BESS defines it.
`uint64_to_bin` (with `be` false), of the BESS utilities and not of this repository, is a
parameter `toBin`; the samples take `uint64ToBin`, the little-endian bytes BESS documents.

* `addFieldOne`, `QosInit`: the layout and the mask.
* `keyStep`, `packetLoop`, `buildKeys`: the key construction of `ProcessBatch`; `tableKey`: the
  `total_key_size_` bytes the table compares.
* `extractKey`: the key part of `ExtractKeyMask`; `fieldData`: the rule whose values are a
  packet's field bytes.
* `keyStep_apply`, `packetLoop_apply_of_untouched`, `packetLoop_apply_split`: what a pass of the
  inner loop does to one byte of the array.
* **`buildKeys_spills_into_next_key`**: `Init` accepts nine fields of sizes `8, …, 8, 1, 1`, with
  a 64-byte key. For every batch of two packets or more, every stack contents and every placement
  of the attributes, the first byte of the second packet's key is byte `64` of the first packet,
  stored by the 8-byte store of the last field at `pos = 57` of the first key, where the rule for
  the second packet's own bytes has that packet's first byte.
* `Laid`, `QosInit_laid`: the layout `Init` makes; `fieldByte`, `ruleByte`: one byte of the
  packet's key and of the rule's key after one field; `packetLoop_apply_own`,
  `extractKey_fieldData`, `Laid.fold_within`.
* **`buildKeys_tableKey_of_maxFields`**: when `Init` accepts at most `MAX_FIELDS` fields, the key
  `ProcessBatch` builds for every packet of every batch, whatever the stack held, is, over the
  `total_key_size_` bytes the table compares, the key `ExtractKeyMask` builds for the rule whose
  values are the packet's own field bytes.
-/

namespace Bess

/-- `MAX_FIELD_SIZE`, `sizeof(MeteringKey)`. -/
def maxFieldSize : Nat := 8
def meteringKeySize : Nat := 64

/-- `MAX_FIELDS`: the words of `mask`, and the fields a key is meant to hold. -/
def maxFields : Nat := 8

/-- `bess::pb::Field`: `num_bytes` and where the field is. -/
inductive FieldPosition where
  | offset (o : Int)
  | attrName (name : String)
  | unset

structure FieldArg where
  numBytes : Int
  position : FieldPosition

/-- `struct MeteringField`; `attr` is `none` for an offset field (`attr_id = -1`). -/
structure MeteringField where
  attr : Option String
  offset : Nat
  pos : Nat
  size : Nat

/-- `Qos::AddFieldOne` for a key field at `pos`. -/
def addFieldOne (field : FieldArg) (pos : Nat) : Except String MeteringField :=
  if field.numBytes < 1 ∨ field.numBytes > maxFieldSize then
    .error "\x27size\x27 must be 1-8"
  else
    match field.position with
    | .offset o =>
      if o < 0 ∨ o > 1024 then .error "too small \x27offset\x27"
      else .ok ⟨none, o.toNat, pos, field.numBytes.toNat⟩
    | .attrName a => .ok ⟨some a, 0, pos, field.numBytes.toNat⟩
    | .unset => .error "specify \x27offset\x27 or \x27attr\x27"

/-- The loop over `arg.fields()` in `Qos::Init`, from `size_acc`: the fields and the final
`size_acc`. -/
def initFields : List FieldArg → Nat → Except String (List MeteringField × Nat)
  | [], sizeAcc => .ok ([], sizeAcc)
  | field :: args, sizeAcc => do
    let f ← addFieldOne field sizeAcc
    let (fs, sizeAcc) ← initFields args (sizeAcc + f.size)
    pure (f :: fs, sizeAcc)

def alignCeil (v a : Nat) : Nat := (v + a - 1) / a * a

/-- The key layout of a `Qos` module. -/
structure Qos where
  fields : List MeteringField
  totalKeySize : Nat
  mask : Nat → UInt8

/-- `Qos::Init`, its key fields: `mask` is zero from the constructor, and `0xff` below
`size_acc`. -/
def QosInit (args : List FieldArg) : Except String Qos := do
  let (fields, sizeAcc) ← initFields args 0
  pure ⟨fields, alignCeil sizeAcc 8, fun i => if i < sizeAcc then 0xFF else 0⟩

/-! ## The key construction of `ProcessBatch` -/

/-- A packet: the bytes from `buffer()` on, and `data_off()`. -/
structure QosPacket where
  mem : Nat → UInt8
  dataOff : Nat

/-- Where the 8 bytes of a field are read: `data_off + offset` for an offset field, the
attribute's place in the buffer (`mt_offset_to_databuf_offset`) for the others. -/
def fieldAddr (attrOffset : String → Nat) (f : MeteringField) (pkt : QosPacket) : Nat :=
  match f.attr with
  | none => pkt.dataOff + f.offset
  | some a => attrOffset a

/-- `*(uint64_t *)(keys + dst) = *(uint64_t *)(mem + addr)`. -/
def storeWord (keys : Nat → UInt8) (dst : Nat) (mem : Nat → UInt8) (addr : Nat) :
    Nat → UInt8 :=
  fun b => if dst ≤ b ∧ b < dst + 8 then mem (addr + (b - dst)) else keys b

/-- `keys[j].u64_arr[i] = keys[j].u64_arr[i] & mask[i]`. -/
def maskWord (keys : Nat → UInt8) (base : Nat) (mask : Nat → UInt8) (i : Nat) : Nat → UInt8 :=
  fun b => if base + 8 * i ≤ b ∧ b < base + 8 * i + 8 then keys b &&& mask (b - base) else keys b

/-- The loop over the first `len` words of `keys[j]`. -/
def maskKey (keys : Nat → UInt8) (j len : Nat) (mask : Nat → UInt8) : Nat → UInt8 :=
  (List.range len).foldl (fun keys i => maskWord keys (j * meteringKeySize) mask i) keys

/-- One iteration of the inner loop: the field of packet `j` stored, then `keys[j]` masked. -/
def keyStep (q : Qos) (attrOffset : String → Nat) (f : MeteringField) (keys : Nat → UInt8)
    (j : Nat) (pkt : QosPacket) : Nat → UInt8 :=
  let keys := storeWord keys (j * meteringKeySize + f.pos) pkt.mem (fieldAddr attrOffset f pkt)
  maskKey keys j (q.totalKeySize / 8) q.mask

/-- The inner loop `for (int j = 0; j < cnt; j++)`, from packet `j`. -/
def packetLoop (q : Qos) (attrOffset : String → Nat) (f : MeteringField) :
    Nat → List QosPacket → (Nat → UInt8) → (Nat → UInt8)
  | _, [], keys => keys
  | j, pkt :: pkts, keys =>
    packetLoop q attrOffset f (j + 1) pkts (keyStep q attrOffset f keys j pkt)

/-- The outer loop over `fields_`, from the array as the stack holds it. -/
def buildKeys (q : Qos) (attrOffset : String → Nat) (pkts : List QosPacket)
    (keys : Nat → UInt8) : Nat → UInt8 :=
  q.fields.foldl (fun keys f => packetLoop q attrOffset f 0 pkts keys) keys

/-- The bytes of `keys[j]` the table compares: `key_len = total_key_size_`. -/
def tableKey (q : Qos) (keys : Nat → UInt8) (j : Nat) : List UInt8 :=
  (List.range q.totalKeySize).map fun b => keys (j * meteringKeySize + b)

/-! ## The key of a rule -/

/-- `bess::pb::FieldData`. -/
inductive FieldData where
  | valueInt (v : Nat)
  | valueBin (bytes : List UInt8)
  | unset

/-- `uint64_to_bin(&k, v, size, false)` as BESS documents it: the `size` little-endian bytes of
`v`, when it fits. It is not part of this repository; the model takes it as a parameter `toBin`,
and this definition serves the samples. -/
def uint64ToBin (v size : Nat) : Option (List UInt8) :=
  if v < 256 ^ size then some (Bytes.toBE size v).reverse else none

-- `bess::utils::uint64_to_bin`, of the BESS utilities outside this repository
variable (toBin : Nat → Nat → Option (List UInt8))

/-- The first loop of `Qos::ExtractKeyMask`: `memset(key, 0, ...)`, then for each field the
`size` first bytes of `k` copied to `pos`. -/
def extractKey (q : Qos) (data : List FieldData) : Except String (Nat → UInt8) :=
  if data.length ≠ q.fields.length then
    .error ("must specify " ++ toString q.fields.length ++ " masks")
  else
    List.foldlM (fun key ((f, d), i) => do
        let k ← match d with
          | .valueInt v =>
            match toBin v f.size with
            | some k => pure k
            | none => throw ("idx " ++ toString i ++ ": not a correct " ++ toString f.size ++
                "-byte mask")
          | .valueBin bytes => pure bytes
          | .unset => pure []
        pure fun b => if f.pos ≤ b ∧ b < f.pos + f.size then k.getD (b - f.pos) 0 else key b)
      (fun _ => 0) (q.fields.zip data).zipIdx

/-- The rule whose values are the field bytes of `pkt`. -/
def fieldData (attrOffset : String → Nat) (q : Qos) (pkt : QosPacket) : List FieldData :=
  q.fields.map fun f =>
    .valueBin ((List.range f.size).map fun k => pkt.mem (fieldAddr attrOffset f pkt + k))

/-! ## One byte of the array through the loops -/

theorem and_ff (a : UInt8) : a &&& 0xFF = a := by
  rw [show (0xFF : UInt8) = -1 by decide, UInt8.and_neg_one]

theorem maskKey_apply (keys : Nat → UInt8) (j len : Nat) (mask : Nat → UInt8) (b : Nat) :
    maskKey keys j len mask b =
      if j * meteringKeySize ≤ b ∧ b < j * meteringKeySize + 8 * len then
        keys b &&& mask (b - j * meteringKeySize)
      else keys b := by
  induction len with
  | zero =>
    rw [if_neg (by omega)]
    rfl
  | succ len ih =>
    -- the words before `len` are those of `ih`, and word `len` lies after them
    have hstep : maskKey keys j (len + 1) mask =
        maskWord (maskKey keys j len mask) (j * meteringKeySize) mask len := by
      simp only [maskKey, List.range_succ, List.foldl_append, List.foldl_cons, List.foldl_nil]
    rw [hstep]
    unfold maskWord
    rw [ih]
    by_cases hw : j * meteringKeySize + 8 * len ≤ b ∧ b < j * meteringKeySize + 8 * len + 8
    · rw [if_pos hw, if_neg (by omega), if_pos (by omega)]
    · rw [if_neg hw]
      split_ifs <;> first | rfl | omega

variable {q : Qos} {attrOffset : String → Nat} {f : MeteringField}

theorem keyStep_apply (keys : Nat → UInt8) (j : Nat) (pkt : QosPacket) (b : Nat) :
    keyStep q attrOffset f keys j pkt b =
      let v := if j * meteringKeySize + f.pos ≤ b ∧ b < j * meteringKeySize + f.pos + 8 then
          pkt.mem (fieldAddr attrOffset f pkt + (b - (j * meteringKeySize + f.pos)))
        else keys b
      if j * meteringKeySize ≤ b ∧ b < j * meteringKeySize + 8 * (q.totalKeySize / 8) then
        v &&& q.mask (b - j * meteringKeySize)
      else v := by
  unfold keyStep
  rw [maskKey_apply]
  rfl

/-- **A byte no iteration touches.** When no store of the inner loop covers `b`, and every
mask that covers it keeps it, the loop leaves `b` as it was. -/
theorem packetLoop_apply_of_untouched {b : Nat} :
    ∀ (j₀ : Nat) (pkts : List QosPacket) (keys : Nat → UInt8),
      (∀ j, j₀ ≤ j → j < j₀ + pkts.length →
        ¬ (j * meteringKeySize + f.pos ≤ b ∧ b < j * meteringKeySize + f.pos + 8) ∧
        (j * meteringKeySize ≤ b → b < j * meteringKeySize + 8 * (q.totalKeySize / 8) →
          q.mask (b - j * meteringKeySize) = 0xFF)) →
      packetLoop q attrOffset f j₀ pkts keys b = keys b
  | _, [], _, _ => rfl
  | j₀, pkt :: pkts, keys, h => by
    have hrest := packetLoop_apply_of_untouched (j₀ + 1) pkts (keyStep q attrOffset f keys j₀ pkt)
      fun j hj hj' => h j (by omega) (by simp only [List.length_cons]; omega)
    obtain ⟨hstore, hmask⟩ := h j₀ (Nat.le_refl _) (by simp only [List.length_cons]; omega)
    rw [packetLoop, hrest, keyStep_apply, if_neg hstore]
    split
    · next hin => rw [hmask hin.1 hin.2, and_ff]
    · rfl

theorem packetLoop_cons (j : Nat) (pkt : QosPacket) (pkts : List QosPacket)
    (keys : Nat → UInt8) :
    packetLoop q attrOffset f j (pkt :: pkts) keys =
      packetLoop q attrOffset f (j + 1) pkts (keyStep q attrOffset f keys j pkt) := rfl

/-! ## Nine fields -/

/-- Nine offset fields, the first 58 bytes of the frame: seven of 8 bytes, then two of 1. -/
def nineFieldArgs : List FieldArg :=
  [⟨8, .offset 0⟩, ⟨8, .offset 8⟩, ⟨8, .offset 16⟩, ⟨8, .offset 24⟩, ⟨8, .offset 32⟩,
    ⟨8, .offset 40⟩, ⟨8, .offset 48⟩, ⟨1, .offset 56⟩, ⟨1, .offset 57⟩]

/-- **The last field spills into the next key.** -/
theorem buildKeys_spills_into_next_key :
    ∃ q, QosInit nineFieldArgs = .ok q ∧ q.totalKeySize = 64 ∧
      ∀ (attrOffset : String → Nat) (p₀ p₁ : QosPacket) (rest : List QosPacket)
        (keys : Nat → UInt8),
        buildKeys q attrOffset (p₀ :: p₁ :: rest) keys meteringKeySize =
            p₀.mem (p₀.dataOff + 64) ∧
          ∃ key, extractKey toBin q (fieldData attrOffset q p₁) = .ok key ∧ key 0 = p₁.mem p₁.dataOff := by
  refine ⟨_, rfl, rfl, fun attrOffset p₀ p₁ rest keys => ⟨?_, _, rfl, rfl⟩⟩
  -- only the last field matters: its store for the first packet is the last to reach byte 64
  simp only [buildKeys, List.foldl_cons, List.foldl_nil]
  generalize packetLoop _ _ _ 0 _ (packetLoop _ _ _ 0 _ (packetLoop _ _ _ 0 _
    (packetLoop _ _ _ 0 _ (packetLoop _ _ _ 0 _ (packetLoop _ _ _ 0 _ (packetLoop _ _ _ 0 _
    (packetLoop _ _ _ 0 _ keys))))))) = K
  rw [packetLoop_cons, packetLoop_cons, packetLoop_apply_of_untouched]
  · rw [keyStep_apply, keyStep_apply]
    simp [meteringKeySize, fieldAddr, alignCeil, and_ff]
  · intro j hj _
    simp only [meteringKeySize]
    refine ⟨by omega, fun h _ => by omega⟩

/-! ## Keys of at most `MAX_FIELDS` fields -/

/-- Fields laid out one after the other from `start` to `stop`, each of at most
`MAX_FIELD_SIZE` bytes, as `Qos::Init` lays them out. -/
def Laid : List MeteringField → Nat → Nat → Prop
  | [], start, stop => start = stop
  | f :: fs, start, stop => f.pos = start ∧ f.size ≤ maxFieldSize ∧ Laid fs (start + f.size) stop

theorem addFieldOne_ok {field : FieldArg} {pos : Nat} {f : MeteringField}
    (h : addFieldOne field pos = .ok f) : f.pos = pos ∧ f.size ≤ maxFieldSize := by
  unfold addFieldOne at h
  split at h
  · cases h
  · next hsize =>
    have hle : field.numBytes.toNat ≤ maxFieldSize := by
      simp only [maxFieldSize] at hsize ⊢
      omega
    split at h
    · split at h
      · cases h
      · cases h
        exact ⟨rfl, hle⟩
    · cases h
      exact ⟨rfl, hle⟩
    · cases h

theorem initFields_laid : ∀ {args : List FieldArg} {acc : Nat} {fs : List MeteringField}
    {acc' : Nat}, initFields args acc = .ok (fs, acc') → Laid fs acc acc' ∧ fs.length = args.length
  | [], acc, fs, acc', h => by
    cases h
    exact ⟨rfl, rfl⟩
  | field :: args, acc, fs, acc', h => by
    simp only [initFields, bind, Except.bind] at h
    cases hf : addFieldOne field acc with
    | error e =>
      rw [hf] at h
      cases h
    | ok f =>
      rw [hf] at h
      dsimp only at h
      cases hr : initFields args (acc + f.size) with
      | error e =>
        rw [hr] at h
        cases h
      | ok r =>
        obtain ⟨fs', acc''⟩ := r
        rw [hr] at h
        simp only [pure, Except.pure, Except.ok.injEq, Prod.mk.injEq] at h
        obtain ⟨rfl, rfl⟩ := h
        obtain ⟨hpos, hsize⟩ := addFieldOne_ok hf
        obtain ⟨hlaid, hlen⟩ := initFields_laid hr
        exact ⟨⟨hpos, hsize, hlaid⟩, by simp [hlen]⟩

theorem QosInit_laid {args : List FieldArg} {q : Qos} (h : QosInit args = .ok q) :
    ∃ sizeAcc, Laid q.fields 0 sizeAcc ∧ q.fields.length = args.length ∧
      q.totalKeySize = alignCeil sizeAcc 8 ∧ ∀ i, q.mask i = if i < sizeAcc then 0xFF else 0 := by
  unfold QosInit at h
  simp only [bind, Except.bind] at h
  cases hi : initFields args 0 with
  | error e =>
    rw [hi] at h
    cases h
  | ok r =>
    obtain ⟨fs, sizeAcc⟩ := r
    rw [hi] at h
    simp only [pure, Except.pure, Except.ok.injEq] at h
    subst h
    obtain ⟨hlaid, hlen⟩ := initFields_laid hi
    exact ⟨sizeAcc, hlaid, hlen, rfl, fun _ => rfl⟩

theorem Laid.stop_le : ∀ {fs : List MeteringField} {start stop : Nat}, Laid fs start stop →
    start ≤ stop ∧ stop ≤ start + maxFieldSize * fs.length
  | [], _, _, h => by simp only [Laid] at h; simp [h]
  | _ :: _, _, _, ⟨_, hsize, hlaid⟩ => by
    have := Laid.stop_le hlaid
    simp only [List.length_cons, maxFieldSize] at *
    omega

theorem Laid.pos_add_le : ∀ {fs : List MeteringField} {start stop : Nat}, Laid fs start stop →
    ∀ f ∈ fs, f.pos + maxFieldSize ≤ start + maxFieldSize * fs.length
  | [], _, _, _, _, hf => absurd hf List.not_mem_nil
  | g :: fs, start, _, ⟨hpos, hsize, hlaid⟩, f, hf => by
    rcases List.mem_cons.mp hf with rfl | hf
    · simp only [List.length_cons, maxFieldSize] at *
      omega
    · have := Laid.pos_add_le hlaid f hf
      simp only [List.length_cons, maxFieldSize] at *
      omega

/-- Every field `Init` lays out has at most `MAX_FIELD_SIZE` bytes. -/
theorem Laid.size_le : ∀ {fs : List MeteringField} {start stop : Nat}, Laid fs start stop →
    ∀ f ∈ fs, f.size ≤ maxFieldSize
  | [], _, _, _, _, hf => absurd hf List.not_mem_nil
  | g :: fs, _, _, ⟨_, hsize, hlaid⟩, f, hf => by
    rcases List.mem_cons.mp hf with rfl | hf
    · exact hsize
    · exact Laid.size_le hlaid f hf

/-! ### The packet's key, byte by byte -/

/-- Byte `b` of the key of `pkt` after the store of field `f` and the mask, from its value `x`
before. -/
def fieldByte (q : Qos) (attrOffset : String → Nat) (pkt : QosPacket) (b : Nat) (x : UInt8)
    (f : MeteringField) : UInt8 :=
  let v := if f.pos ≤ b ∧ b < f.pos + 8 then pkt.mem (fieldAddr attrOffset f pkt + (b - f.pos))
    else x
  if b < 8 * (q.totalKeySize / 8) then v &&& q.mask b else v

theorem keyStep_apply_own (keys : Nat → UInt8) (j : Nat) (pkt : QosPacket) (b : Nat) :
    keyStep q attrOffset f keys j pkt (j * meteringKeySize + b) =
      fieldByte q attrOffset pkt b (keys (j * meteringKeySize + b)) f := by
  rw [keyStep_apply]
  have hstore : (j * meteringKeySize + f.pos ≤ j * meteringKeySize + b ∧
      j * meteringKeySize + b < j * meteringKeySize + f.pos + 8) ↔ (f.pos ≤ b ∧ b < f.pos + 8) := by
    omega
  have hmask : (j * meteringKeySize ≤ j * meteringKeySize + b ∧
      j * meteringKeySize + b < j * meteringKeySize + 8 * (q.totalKeySize / 8)) ↔
        b < 8 * (q.totalKeySize / 8) := by
    omega
  simp only [hstore, hmask, fieldByte, Nat.add_sub_add_left, Nat.add_sub_cancel_left]

/-- A store and a mask that fit in one key leave the other keys alone. -/
theorem keyStep_apply_outside (hpos : f.pos + 8 ≤ meteringKeySize)
    (htotal : q.totalKeySize ≤ meteringKeySize) (keys : Nat → UInt8) (j : Nat) (pkt : QosPacket)
    {b : Nat} (hb : b < j * meteringKeySize ∨ (j + 1) * meteringKeySize ≤ b) :
    keyStep q attrOffset f keys j pkt b = keys b := by
  rw [keyStep_apply]
  dsimp only
  simp only [meteringKeySize] at hpos htotal hb
  rw [if_neg (by simp only [meteringKeySize]; omega), if_neg (by simp only [meteringKeySize]; omega)]

/-- The inner loop changes the key of packet `i` only in its own iteration. -/
theorem packetLoop_apply_own (hpos : f.pos + 8 ≤ meteringKeySize)
    (htotal : q.totalKeySize ≤ meteringKeySize) {b : Nat} (hb : b < meteringKeySize) :
    ∀ (j₀ : Nat) (pkts : List QosPacket) (keys : Nat → UInt8) (i : Nat) (hi : i < pkts.length),
      packetLoop q attrOffset f j₀ pkts keys ((j₀ + i) * meteringKeySize + b) =
        fieldByte q attrOffset pkts[i] b (keys ((j₀ + i) * meteringKeySize + b)) f
  | _, [], _, i, hi => absurd hi (Nat.not_lt_zero i)
  | j₀, pkt :: pkts, keys, 0, _ => by
    rw [packetLoop_cons, packetLoop_apply_of_untouched, Nat.add_zero, keyStep_apply_own]
    · rfl
    · intro j hj _
      simp only [meteringKeySize] at *
      exact ⟨by omega, fun h _ => by omega⟩
  | j₀, pkt :: pkts, keys, i + 1, hi => by
    rw [packetLoop_cons, show j₀ + (i + 1) = j₀ + 1 + i by omega,
      packetLoop_apply_own hpos htotal hb (j₀ + 1) pkts _ i (by simpa using hi),
      keyStep_apply_outside hpos htotal _ _ _ (.inr (by simp only [meteringKeySize]; omega))]
    rfl

/-- Through the outer loop, a byte of the key of packet `i` goes through `fieldByte` once per
field. -/
theorem foldl_packetLoop_apply_own (htotal : q.totalKeySize ≤ meteringKeySize) {b : Nat}
    (hb : b < meteringKeySize) (pkts : List QosPacket) {i : Nat} (hi : i < pkts.length) :
    ∀ (fs : List MeteringField), (∀ f ∈ fs, f.pos + 8 ≤ meteringKeySize) → ∀ keys : Nat → UInt8,
      fs.foldl (fun keys f => packetLoop q attrOffset f 0 pkts keys) keys
          (i * meteringKeySize + b) =
        fs.foldl (fieldByte q attrOffset pkts[i] b) (keys (i * meteringKeySize + b))
  | [], _, _ => rfl
  | g :: fs, hfit, keys => by
    have hg := @packetLoop_apply_own q attrOffset g (hfit g List.mem_cons_self) htotal b hb 0 pkts
      keys i hi
    rw [Nat.zero_add] at hg
    rw [List.foldl_cons, List.foldl_cons,
      foldl_packetLoop_apply_own htotal hb pkts hi fs (fun f hf => hfit f (List.mem_cons_of_mem _ hf)),
      hg]

/-! ### The rule's key, byte by byte -/

/-- Byte `b` of the key of the rule for `pkt` after the `memcpy` of field `f`, from its value
`y` before. -/
def ruleByte (attrOffset : String → Nat) (pkt : QosPacket) (b : Nat) (y : UInt8)
    (f : MeteringField) : UInt8 :=
  if f.pos ≤ b ∧ b < f.pos + f.size then
    ((List.range f.size).map fun k => pkt.mem (fieldAddr attrOffset f pkt + k)).getD (b - f.pos) 0
  else y

theorem foldlM_eq_ok {α β ε : Type} {f : β → α → Except ε β} {g : β → α → β} :
    ∀ {l : List α}, (∀ b, ∀ a ∈ l, f b a = .ok (g b a)) → ∀ init,
      l.foldlM f init = .ok (l.foldl g init)
  | [], _, _ => rfl
  | a :: l, h, init => by
    rw [List.foldlM_cons, h init a List.mem_cons_self]
    exact foldlM_eq_ok (fun b a' ha' => h b a' (List.mem_cons_of_mem _ ha')) _

theorem foldl_zipIdx_fst {α β : Type} (g : β → α → β) : ∀ (l : List α) (n : Nat) (init : β),
    (l.zipIdx n).foldl (fun acc a => g acc a.1) init = l.foldl g init
  | [], _, _ => rfl
  | a :: l, n, init => foldl_zipIdx_fst g l (n + 1) (g init a)

theorem zip_map_self {α β : Type} (l : List α) (g : α → β) :
    l.zip (l.map g) = l.map fun a => (a, g a) := by
  simpa using @List.zip_map' α α β id g l

/-- `ExtractKeyMask` takes every field of a rule of `valueBin`s, so it fails on none of them. -/
theorem extractKey_fieldData (pkt : QosPacket) :
    extractKey toBin q (fieldData attrOffset q pkt) =
      .ok fun b => q.fields.foldl (ruleByte attrOffset pkt b) 0 := by
  unfold extractKey
  rw [if_neg (by simp [fieldData]), fieldData, zip_map_self]
  refine (foldlM_eq_ok (g := fun key a b => ruleByte attrOffset pkt b (key b) a.1.1) ?_ _).trans ?_
  · rintro key ⟨⟨f, d⟩, i⟩ ha
    have hfd := List.mem_map_of_mem (f := Prod.fst) ha
    rw [List.zipIdx_map_fst] at hfd
    obtain ⟨f', -, hf'⟩ := List.mem_map.mp hfd
    cases hf'
    rfl
  · rw [foldl_zipIdx_fst (fun key (p : MeteringField × FieldData) b =>
      ruleByte attrOffset pkt b (key b) p.1), List.foldl_map]
    congr 1
    funext b
    exact (List.foldl_hom (fun key : Nat → UInt8 => key b) fun _ _ => rfl).symm

/-! ### The two keys agree -/

section Agree

variable {pkt : QosPacket} {b : Nat}

theorem fieldByte_of_mask_ff (h : q.mask b = 0xFF) (x : UInt8) (f : MeteringField) :
    fieldByte q attrOffset pkt b x f =
      if f.pos ≤ b ∧ b < f.pos + 8 then pkt.mem (fieldAddr attrOffset f pkt + (b - f.pos))
      else x := by
  unfold fieldByte
  dsimp only
  split
  · rw [h, and_ff]
  · rfl

theorem fieldByte_of_mask_zero (h : q.mask b = 0) (hb : b < 8 * (q.totalKeySize / 8)) (x : UInt8)
    (f : MeteringField) : fieldByte q attrOffset pkt b x f = 0 := by
  unfold fieldByte
  dsimp only
  rw [if_pos hb, h, UInt8.and_zero]

/-- Before its first field, no field reaches byte `b`. -/
theorem Laid.fold_before (hmask : q.mask b = 0xFF) :
    ∀ {fs : List MeteringField} {start stop : Nat}, Laid fs start stop → b < start → ∀ x y,
      fs.foldl (fieldByte q attrOffset pkt b) x = x ∧ fs.foldl (ruleByte attrOffset pkt b) y = y
  | [], _, _, _, _, _, _ => ⟨rfl, rfl⟩
  | f :: fs, start, stop, ⟨hpos, _, hlaid⟩, hb, x, y => by
    have hfx : fieldByte q attrOffset pkt b x f = x := by
      rw [fieldByte_of_mask_ff hmask, if_neg (by omega)]
    have hfy : ruleByte attrOffset pkt b y f = y := by
      rw [ruleByte, if_neg (by omega)]
    rw [List.foldl_cons, List.foldl_cons, hfx, hfy]
    exact Laid.fold_before hmask hlaid (by omega) x y

/-- After its last field, no field of the rule reaches byte `b`. -/
theorem Laid.fold_after : ∀ {fs : List MeteringField} {start stop : Nat}, Laid fs start stop →
    stop ≤ b → ∀ y, fs.foldl (ruleByte attrOffset pkt b) y = y
  | [], _, _, _, _, _ => rfl
  | f :: fs, start, stop, ⟨hpos, _, hlaid⟩, hb, y => by
    have hstop := hlaid.stop_le
    have hfy : ruleByte attrOffset pkt b y f = y := by
      rw [ruleByte, if_neg (by omega)]
    rw [List.foldl_cons, hfy]
    exact Laid.fold_after hlaid hb y

/-- Within the fields, byte `b` is written last by the field that holds it, in the packet's key
as in the rule's. -/
theorem Laid.fold_within (hmask : q.mask b = 0xFF) :
    ∀ {fs : List MeteringField} {start stop : Nat}, Laid fs start stop → start ≤ b → b < stop →
      ∀ x y, fs.foldl (fieldByte q attrOffset pkt b) x = fs.foldl (ruleByte attrOffset pkt b) y
  | [], _, _, hlaid, h₁, h₂, _, _ => absurd (hlaid ▸ h₂) (by omega)
  | f :: fs, start, stop, ⟨hpos, hsize, hlaid⟩, h₁, h₂, x, y => by
    rw [List.foldl_cons, List.foldl_cons]
    by_cases hin : b < start + f.size
    · -- `f` holds byte `b`, and the fields after it start past it
      have hfx : fieldByte q attrOffset pkt b x f =
          pkt.mem (fieldAddr attrOffset f pkt + (b - f.pos)) := by
        rw [fieldByte_of_mask_ff hmask, if_pos (by simp only [maxFieldSize] at hsize; omega)]
      have hfy : ruleByte attrOffset pkt b y f =
          pkt.mem (fieldAddr attrOffset f pkt + (b - f.pos)) := by
        rw [ruleByte, if_pos (by omega), List.getD_eq_getElem?_getD, List.getElem?_map,
          List.getElem?_range (by omega)]
        rfl
      obtain ⟨hx, -⟩ := Laid.fold_before hmask hlaid hin (fieldByte q attrOffset pkt b x f) y
      obtain ⟨-, hy⟩ := Laid.fold_before hmask hlaid hin x (ruleByte attrOffset pkt b y f)
      rw [hx, hy, hfx, hfy]
    · exact Laid.fold_within hmask hlaid (by omega) h₂ _ _

/-- Past the fields, every field's store is masked to zero. -/
theorem foldl_fieldByte_eq_zero (h : ∀ x f, fieldByte q attrOffset pkt b x f = 0) :
    ∀ {fs : List MeteringField}, fs ≠ [] → ∀ x, fs.foldl (fieldByte q attrOffset pkt b) x = 0
  | [], hne, _ => absurd rfl hne
  | [f], _, x => h x f
  | f :: g :: fs, _, x => by
    rw [List.foldl_cons]
    exact foldl_fieldByte_eq_zero h (List.cons_ne_nil g fs) _

end Agree

/-- **Keys of at most `MAX_FIELDS` fields.** Each packet's key is that of the rule of its bytes. -/
theorem buildKeys_tableKey_of_maxFields {args : List FieldArg} {q : Qos}
    (hq : QosInit args = .ok q) (hmax : args.length ≤ maxFields) (attrOffset : String → Nat)
    (pkts : List QosPacket) (keys : Nat → UInt8) (i : Nat) (hi : i < pkts.length) :
    ∃ key, extractKey toBin q (fieldData attrOffset q pkts[i]) = .ok key ∧
      tableKey q (buildKeys q attrOffset pkts keys) i = (List.range q.totalKeySize).map key := by
  obtain ⟨sizeAcc, hlaid, hlen, htotal, hmask⟩ := QosInit_laid hq
  have hfit : ∀ f ∈ q.fields, f.pos + 8 ≤ meteringKeySize := fun f hf => by
    have := hlaid.pos_add_le f hf
    simp only [maxFields, maxFieldSize, meteringKeySize] at *
    omega
  have hstop := hlaid.stop_le
  have hsize : q.totalKeySize ≤ meteringKeySize ∧ 8 * (q.totalKeySize / 8) = q.totalKeySize := by
    rw [htotal]
    simp only [alignCeil, maxFields, maxFieldSize, meteringKeySize] at *
    omega
  refine ⟨_, extractKey_fieldData toBin pkts[i], ?_⟩
  unfold tableKey buildKeys
  refine List.map_congr_left fun b hb => ?_
  have hb' : b < q.totalKeySize := List.mem_range.mp hb
  rw [foldl_packetLoop_apply_own hsize.1 (by omega) pkts hi q.fields hfit keys]
  by_cases hacc : b < sizeAcc
  · -- a byte of a field
    exact hlaid.fold_within (by rw [hmask, if_pos hacc]) (Nat.zero_le b) hacc _ _
  · -- a byte after the fields: the packet's is masked to zero, the rule's is never written
    have hne : q.fields ≠ [] := by
      intro h
      rw [h] at hlaid
      simp only [Laid] at hlaid
      subst hlaid
      simp [alignCeil] at htotal
      omega
    rw [foldl_fieldByte_eq_zero (fun x f => fieldByte_of_mask_zero (by rw [hmask, if_neg hacc])
      (by omega) x f) hne, hlaid.fold_after (by omega)]

/-- The source and destination addresses of an IPv4 frame. -/
def addressFieldArgs : List FieldArg := [⟨4, .offset 26⟩, ⟨4, .offset 30⟩]

theorem buildKeys_tableKey_addresses :
    ∃ q, QosInit addressFieldArgs = .ok q ∧ ∃ key,
      extractKey uint64ToBin q (fieldData (fun _ => 0) q ⟨fun k => k.toUInt8, 0⟩) = .ok key ∧
      tableKey q (buildKeys q (fun _ => 0) [⟨fun k => k.toUInt8, 0⟩] (fun _ => 0)) 0 =
        (List.range q.totalKeySize).map key :=
  ⟨_, rfl, @buildKeys_tableKey_of_maxFields uint64ToBin addressFieldArgs _ rfl (by decide) (fun _ => 0)
    [⟨fun k => k.toUInt8, 0⟩] (fun _ => 0) 0 (by decide)⟩

end Bess
