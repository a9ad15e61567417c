import Mathlib

/-!
# Big-endian fields in byte buffers

Network headers store their multi-byte fields most significant byte first. This module gives
the encoding of a number as `w` big-endian bytes and back, and the two buffer operations that
header code is built from: reading the `w` bytes at an offset, and overwriting bytes at an
offset.

* `toBE w n`, `ofBE`: the encoding, with `ofBE_toBE` (`n % 256 ^ w`).
* `readBE buf off w`: the field of width `w` at offset `off`; `readField buf off w`: the same
  field when it lies inside the buffer, `none` for a read past its end.
* `writeAt buf off src`: `memcpy(buf + off, src, len(src))`, with `length_writeAt`,
  `getElem?_writeAt_of_lt`, `getElem?_writeAt_of_ge`, `readBE_writeAt_toBE`,
  `readField_writeAt_self` and `readField_writeAt_of_disjoint`;
  `setByte buf i f`: the assignment of `f` of the byte at `i`, as a bit-field store does.
* `writeAt_append_left`, `writeAt_append_right`, `setByte_append_left`, `setByte_append_right`,
  `readBE_append_left`, `readBE_append_right`, `readField_append_left`,
  `readField_append_length_add`: a write or a read that falls inside one part of a concatenated
  buffer only concerns that part.
-/

namespace Bytes

/-- The `w` big-endian bytes of `n`; bits above `8 * w` are dropped. -/
def toBE : Nat → Nat → List UInt8
  | 0, _ => []
  | w + 1, n => toBE w (n / 256) ++ [UInt8.ofNat (n % 256)]

/-- The number with the given big-endian bytes. -/
def ofBE (l : List UInt8) : Nat :=
  l.foldl (fun acc b => 256 * acc + b.toNat) 0

@[simp] theorem toBE_zero (n : Nat) : toBE 0 n = [] := rfl

@[simp] theorem length_toBE (w n : Nat) : (toBE w n).length = w := by
  induction w generalizing n with
  | zero => rfl
  | succ w ih => simp [toBE, ih]

@[simp] theorem ofBE_nil : ofBE [] = 0 := rfl

theorem ofBE_append_single (l : List UInt8) (b : UInt8) :
    ofBE (l ++ [b]) = 256 * ofBE l + b.toNat := by
  simp [ofBE, List.foldl_append]

/-- **Round trip.** Decoding the `w` big-endian bytes of `n` gives `n` modulo `256 ^ w`. -/
theorem ofBE_toBE (w n : Nat) : ofBE (toBE w n) = n % 256 ^ w := by
  induction w generalizing n with
  | zero => simp [Nat.mod_one]
  | succ w ih =>
    have byte : (UInt8.ofNat (n % 256)).toNat = n % 256 := by simp
    rw [toBE, ofBE_append_single, ih, byte, Nat.pow_succ, Nat.mul_comm (256 ^ w) 256, Nat.mod_mul]
    omega

theorem ofBE_lt (l : List UInt8) : ofBE l < 256 ^ l.length := by
  induction l using List.reverseRecOn with
  | nil => simp
  | append_singleton l b ih =>
    rw [ofBE_append_single, List.length_append, List.length_singleton, Nat.pow_succ]
    have := b.toNat_lt
    omega

theorem ofBE_toBE_of_lt {w n : Nat} (h : n < 256 ^ w) : ofBE (toBE w n) = n := by
  rw [ofBE_toBE, Nat.mod_eq_of_lt h]

/-- The field of width `w` at offset `off` of `buf`. -/
def readBE (buf : List UInt8) (off w : Nat) : Nat :=
  ofBE ((buf.drop off).take w)

theorem readBE_lt (buf : List UInt8) (off w : Nat) : readBE buf off w < 256 ^ w :=
  Nat.lt_of_lt_of_le (ofBE_lt _)
    (Nat.pow_le_pow_right (by decide) (by simp only [List.length_take]; omega))

/-- The field of width `w` at offset `off`, when all its bytes are in `buf`. -/
def readField (buf : List UInt8) (off w : Nat) : Option Nat :=
  if off + w ≤ buf.length then some (readBE buf off w) else none

/-- `memcpy(buf + off, src, len(src))`: the bytes of `src` written over `buf` from `off`. -/
def writeAt (buf : List UInt8) (off : Nat) (src : List UInt8) : List UInt8 :=
  buf.take off ++ src ++ buf.drop (off + src.length)

variable {buf src : List UInt8} {off : Nat}

@[simp] theorem length_writeAt (h : off + src.length ≤ buf.length) :
    (writeAt buf off src).length = buf.length := by
  simp only [writeAt, List.length_append, List.length_take, List.length_drop]
  omega

/-- The length of a write, also when it runs past the end of the buffer. -/
theorem length_writeAt_eq (buf : List UInt8) (off : Nat) (src : List UInt8) :
    (writeAt buf off src).length =
      min off buf.length + src.length + (buf.length - (off + src.length)) := by
  simp only [writeAt, List.length_append, List.length_take, List.length_drop]

/-- A write leaves the bytes before its offset alone. -/
theorem getElem?_writeAt_of_lt {i : Nat} (h : off ≤ buf.length) (hi : i < off) :
    (writeAt buf off src)[i]? = buf[i]? := by
  unfold writeAt
  rw [List.append_assoc, List.getElem?_append_left (by simp; omega), List.getElem?_take_of_lt hi]

/-- A write that fits in the buffer leaves the bytes after it alone. -/
theorem getElem?_writeAt_of_ge {i : Nat} (h : off + src.length ≤ buf.length)
    (hi : off + src.length ≤ i) : (writeAt buf off src)[i]? = buf[i]? := by
  unfold writeAt
  have hlen : (buf.take off ++ src).length = off + src.length := by
    simp only [List.length_append, List.length_take]; omega
  rw [List.getElem?_append_right (by omega), hlen, List.getElem?_drop]
  congr 1
  omega

/-- What was written is read back. -/
theorem drop_take_writeAt (h : off + src.length ≤ buf.length) :
    ((writeAt buf off src).drop off).take src.length = src := by
  have hoff : (buf.take off).length = off := by simp only [List.length_take]; omega
  rw [writeAt, List.append_assoc, List.drop_left' hoff, List.take_left]

/-- A write leaves the bytes outside it alone, so also a field that lies before or after it. -/
theorem take_drop_writeAt_of_disjoint {j w : Nat} (h : off + src.length ≤ buf.length)
    (hd : j + w ≤ off ∨ off + src.length ≤ j) :
    ((writeAt buf off src).drop j).take w = (buf.drop j).take w := by
  apply List.ext_getElem?
  intro i
  simp only [List.getElem?_take, List.getElem?_drop]
  split
  · rcases hd with hd | hd
    · exact getElem?_writeAt_of_lt (by omega) (by omega)
    · exact getElem?_writeAt_of_ge h (by omega)
  · rfl

/-- A field written as `w` big-endian bytes reads back as its value modulo `256 ^ w`. -/
theorem readBE_writeAt_toBE {w n : Nat} (h : off + w ≤ buf.length) :
    readBE (writeAt buf off (toBE w n)) off w = n % 256 ^ w := by
  have h' : off + (toBE w n).length ≤ buf.length := by rw [length_toBE]; exact h
  have := drop_take_writeAt h'
  rw [length_toBE] at this
  rw [readBE, this, ofBE_toBE]

theorem drop_writeAt_self (h : off ≤ buf.length) :
    (writeAt buf off src).drop off = src ++ buf.drop (off + src.length) := by
  have hoff : (buf.take off).length = off := by simp only [List.length_take]; omega
  rw [writeAt, List.append_assoc, List.drop_left' hoff]

/-- A write of a whole buffer replaces it. -/
theorem writeAt_zero_of_length_eq (h : src.length = buf.length) : writeAt buf 0 src = src := by
  simp [writeAt, h]

/-! ## Writes and reads in one part of a buffer -/

variable {A M : List UInt8}

theorem writeAt_append_left (h : off + src.length ≤ A.length) :
    writeAt (A ++ M) off src = writeAt A off src ++ M := by
  unfold writeAt
  rw [List.take_append_of_le_length (by omega), List.drop_append_of_le_length h]
  simp only [List.append_assoc]

theorem writeAt_append_right (h : A.length ≤ off) :
    writeAt (A ++ M) off src = A ++ writeAt M (off - A.length) src := by
  unfold writeAt
  have hsub : off + src.length - A.length = off - A.length + src.length := by omega
  rw [List.take_append, List.take_of_length_le h, List.drop_append,
    List.drop_eq_nil_of_le (by omega), hsub]
  simp only [List.append_assoc, List.nil_append]

/-- `buf[i] = f(buf[i])`, the store of a bit field or of a byte computed from the old one. -/
def setByte (buf : List UInt8) (i : Nat) (f : UInt8 → UInt8) : List UInt8 :=
  writeAt buf i [f (buf.getD i 0)]

theorem setByte_append_left {i : Nat} {f : UInt8 → UInt8} (h : i < A.length) :
    setByte (A ++ M) i f = setByte A i f ++ M := by
  unfold setByte
  rw [List.getD_eq_getElem?_getD, List.getElem?_append_left h, ← List.getD_eq_getElem?_getD]
  exact writeAt_append_left (by simp only [List.length_singleton]; omega)

theorem setByte_append_right {i : Nat} {f : UInt8 → UInt8} (h : A.length ≤ i) :
    setByte (A ++ M) i f = A ++ setByte M (i - A.length) f := by
  unfold setByte
  rw [List.getD_eq_getElem?_getD, List.getElem?_append_right h, ← List.getD_eq_getElem?_getD]
  exact writeAt_append_right h

theorem readBE_append_left {w : Nat} (h : off + w ≤ A.length) :
    readBE (A ++ M) off w = readBE A off w := by
  unfold readBE
  rw [List.drop_append_of_le_length (by omega), List.take_append_of_le_length (by simp; omega)]

theorem readBE_append_right {w : Nat} (h : A.length ≤ off) :
    readBE (A ++ M) off w = readBE M (off - A.length) w := by
  unfold readBE
  rw [List.drop_append, List.drop_eq_nil_of_le h, List.nil_append]

theorem readField_writeAt_of_disjoint {j w : Nat} (h : off + src.length ≤ buf.length)
    (hd : j + w ≤ off ∨ off + src.length ≤ j) :
    readField (writeAt buf off src) j w = readField buf j w := by
  unfold readField readBE
  rw [length_writeAt h, take_drop_writeAt_of_disjoint h hd]

theorem readField_writeAt_self (h : off + src.length ≤ buf.length) :
    readField (writeAt buf off src) off src.length = some (ofBE src) := by
  unfold readField readBE
  rw [length_writeAt h, if_pos h, drop_take_writeAt h]

theorem readField_append_left {w : Nat} (h : off + w ≤ A.length) :
    readField (A ++ M) off w = readField A off w := by
  have hlen : off + w ≤ (A ++ M).length := by simp only [List.length_append]; omega
  rw [readField, readField, if_pos hlen, if_pos h, readBE_append_left h]

theorem readField_append_length_add (k w : Nat) :
    readField (A ++ M) (A.length + k) w = readField M k w := by
  have hlen : A.length + k + w ≤ (A ++ M).length ↔ k + w ≤ M.length := by
    simp only [List.length_append]; omega
  unfold readField
  rw [readBE_append_right (by omega), Nat.add_sub_cancel_left]
  exact if_congr hlen rfl rfl

end Bytes
