import Mathlib

/-!
# Go's `strings` and `strconv` on the characters of a string

The parts of Go's standard library that the flow-description parser uses, over `List Char`
(a Go string is taken as the code points it decodes to).

* `isSpace`: `unicode.IsSpace`; `fields`: `strings.Fields`, the maximal runs of non-space
  characters; `split`: `strings.Split` with a one-character separator.
* `decimalValue`, `parseUint`: `strconv.ParseUint(s, 10, bitSize)`, which accepts a non-empty
  string of ASCII digits whose value is below `2 ^ bitSize`.
* `parseUintErrorText`: the text of its error.
* `formatUint`: `strconv.FormatUint(n, 10)`, the decimal digits of `n`.
* `parseUint_formatUint`, `head_formatUint_ne_zero`: `ParseUint` reads back what `FormatUint`
  writes, which has no leading zero; `fields_intercalate`, `split_append_cons`: splitting
  words joined by a separator gives them back.
-/

namespace Go

/-- `unicode.IsSpace`: the Latin-1 spaces, and above Latin-1 the `White_Space` code points. -/
def isSpace (c : Char) : Bool :=
  if c.toNat ≤ 0xFF then
    c.toNat = 0x09 || c.toNat = 0x0A || c.toNat = 0x0B || c.toNat = 0x0C || c.toNat = 0x0D ||
      c.toNat = 0x20 || c.toNat = 0x85 || c.toNat = 0xA0
  else
    c.toNat = 0x1680 || (0x2000 ≤ c.toNat && c.toNat ≤ 0x200A) || c.toNat = 0x2028 ||
      c.toNat = 0x2029 || c.toNat = 0x202F || c.toNat = 0x205F || c.toNat = 0x3000

/-- `strings.Fields(s)`: the pieces of `s` between runs of spaces, without empty ones. -/
def fields (s : List Char) : List (List Char) :=
  (s.splitOnP isSpace).filter fun w => !w.isEmpty

/-- `strings.Split(s, sep)` for a one-character `sep`: the pieces between its occurrences, with
`[""]` for the empty string. -/
def split (s : List Char) (sep : Char) : List (List Char) :=
  s.splitOn sep

/-- The value of a string of decimal digits. -/
def decimalValue (s : List Char) : Nat :=
  s.foldl (fun n c => 10 * n + (c.toNat - '0'.toNat)) 0

/-- `strconv.ParseUint(s, 10, bitSize)`: the value of `s` when it is a non-empty string of ASCII
digits below `2 ^ bitSize`; `none` for the syntax and range errors. -/
def parseUint (s : List Char) (bitSize : Nat) : Option Nat :=
  if !s.isEmpty && s.all Char.isDigit && decimalValue s < 2 ^ bitSize then some (decimalValue s)
  else none

/-- A decimal numeral of value at most `bound`: a non-empty string of ASCII digits. -/
def IsDecimalAtMost (bound : Nat) (s : List Char) : Prop :=
  s ≠ [] ∧ (∀ c ∈ s, c.isDigit) ∧ decimalValue s ≤ bound

-- decided through the `Bool` test that `parseUint` makes, which evaluates where the bounded
-- quantifier over characters does not
instance (bound : Nat) (s : List Char) : Decidable (IsDecimalAtMost bound s) :=
  decidable_of_iff (s ≠ [] ∧ s.all Char.isDigit = true ∧ decimalValue s ≤ bound)
    (by simp only [IsDecimalAtMost, List.all_eq_true])

/-- The text of the `*strconv.NumError` that `ParseUint(s, 10, bitSize)` returns when it fails:
a range error for digits whose value is too large, a syntax error otherwise. The number is
quoted as `strconv.Quote` quotes printable text. -/
def parseUintErrorText (s : List Char) : String :=
  "strconv.ParseUint: parsing \"" ++ String.ofList s ++ "\": " ++
    (if !s.isEmpty && s.all Char.isDigit then "value out of range" else "invalid syntax")

/-- `strconv.FormatUint(n, 10)`. -/
def formatUint (n : Nat) : List Char :=
  (Nat.toDigits 10 n)

theorem parseUint_eq_some {s : List Char} {b n : Nat} (h : parseUint s b = some n) :
    s ≠ [] ∧ (∀ c ∈ s, c.isDigit) ∧ n = decimalValue s ∧ n < 2 ^ b := by
  unfold parseUint at h
  split at h
  · rename_i hc
    simp only [Bool.and_eq_true, Bool.not_eq_true', List.isEmpty_eq_false_iff, List.all_eq_true,
      decide_eq_true_eq] at hc
    cases h
    exact ⟨hc.1.1, hc.1.2, rfl, hc.2⟩
  · cases h

/-- What `ParseUint` accepts is a decimal numeral below `2 ^ bitSize`, and it returns its value. -/
theorem isDecimalAtMost_of_parseUint {s : List Char} {b n : Nat} (h : parseUint s b = some n) :
    IsDecimalAtMost (2 ^ b - 1) s ∧ n = decimalValue s := by
  obtain ⟨hne, hdig, rfl, hlt⟩ := parseUint_eq_some h
  exact ⟨⟨hne, hdig, by omega⟩, rfl⟩

/-! ## Decimal digits -/

theorem decimalValue_eq_ofDigitChars (s : List Char) : decimalValue s = Nat.ofDigitChars 10 s 0 :=
  rfl

@[simp] theorem decimalValue_formatUint (n : Nat) : decimalValue (formatUint n) = n :=
  Nat.ofDigitChars_ten_toDigits

theorem decimalValue_append (l m : List Char) :
    decimalValue (l ++ m) = 10 ^ m.length * decimalValue l + decimalValue m := by
  rw [decimalValue_eq_ofDigitChars, Nat.ofDigitChars_append, Nat.ofDigitChars_eq_ofDigitChars_zero]
  rfl

/-- One more digit: the value shifts one place and the digit is added. -/
theorem decimalValue_concat (p : List Char) (c : Char) :
    decimalValue (p ++ [c]) = decimalValue p * 10 + (c.toNat - '0'.toNat) := by
  rw [decimalValue_append]
  simp only [List.length_singleton, Nat.pow_one, decimalValue, List.foldl_cons, List.foldl_nil]
  omega

theorem decimalValue_le_append (l m : List Char) : decimalValue l ≤ decimalValue (l ++ m) := by
  rw [decimalValue_append]
  have : 0 < 10 ^ m.length := Nat.pow_pos (by decide)
  calc decimalValue l ≤ 10 ^ m.length * decimalValue l := Nat.le_mul_of_pos_left _ this
    _ ≤ _ := Nat.le_add_right _ _

theorem isDigit_of_mem_formatUint {n : Nat} {c : Char} (h : c ∈ formatUint n) : c.isDigit :=
  Nat.isDigit_of_mem_toDigits (by decide) (by decide) h

theorem not_mem_formatUint {n : Nat} {c : Char} (hc : c.isDigit = false) : c ∉ formatUint n :=
  fun h => Bool.false_ne_true (hc.symm.trans (isDigit_of_mem_formatUint h))

@[simp] theorem formatUint_ne_nil (n : Nat) : formatUint n ≠ [] := Nat.toDigits_ne_nil

theorem ten_le_of_two_le_length_formatUint {n : Nat} (h : 2 ≤ (formatUint n).length) : 10 ≤ n := by
  by_contra hlt
  have := (Nat.length_toDigits_le_iff (b := 10) (k := 1) (by decide) (by decide)).mpr
    (by omega : n < 10 ^ 1)
  exact absurd h (by unfold formatUint; omega)

/-- `FormatUint` writes no leading zero. -/
theorem head_formatUint_ne_zero {n : Nat} (h : 10 ≤ n) : (formatUint n).head? ≠ some '0' := by
  induction n using Nat.strongRecOn with
  | _ n ih =>
    unfold formatUint
    rw [Nat.toDigits_of_base_le (by decide) h, List.head?_append_of_ne_nil _ Nat.toDigits_ne_nil]
    by_cases h' : 10 ≤ n / 10
    · exact ih (n / 10) (by omega) h'
    · rw [Nat.toDigits_of_lt_base (by omega), List.head?_cons, ne_eq, Option.some.injEq,
        Nat.digitChar_eq_zero]
      omega

theorem parseUint_formatUint {n b : Nat} (h : n < 2 ^ b) : parseUint (formatUint n) b = some n := by
  have hdig : (formatUint n).all Char.isDigit = true :=
    List.all_eq_true.mpr fun _ hc => isDigit_of_mem_formatUint hc
  unfold parseUint
  rw [if_pos (by simp [hdig, h]), decimalValue_formatUint]

/-! ## Splitting -/

theorem split_of_not_mem {s : List Char} {sep : Char} (h : sep ∉ s) : split s sep = [s] :=
  List.splitOn_eq_singleton h

theorem split_append_cons {l m : List Char} {sep : Char} (h : sep ∉ l) :
    split (l ++ sep :: m) sep = l :: split m sep :=
  List.splitOn_append_cons_self_of_not_mem h m

/-- The first occurrence of `c` in `s`. -/
theorem exists_eq_append_cons_of_mem {s : List Char} {c : Char} (h : c ∈ s) :
    ∃ l m, s = l ++ c :: m ∧ c ∉ l := by
  induction s with
  | nil => cases h
  | cons x s ih =>
    by_cases hx : x = c
    · exact ⟨[], s, by rw [hx]; rfl, List.not_mem_nil⟩
    · obtain ⟨l, m, rfl, hl⟩ := ih ((List.mem_cons.mp h).resolve_left (Ne.symm hx))
      exact ⟨x :: l, m, rfl, by simp [hl, Ne.symm hx]⟩

/-- A string `Split` leaves in one piece has no separator. -/
theorem split_eq_singleton {s a : List Char} {sep : Char} (h : split s sep = [a]) :
    s = a ∧ sep ∉ s := by
  by_cases hs : sep ∈ s
  · obtain ⟨l, m, rfl, hl⟩ := exists_eq_append_cons_of_mem hs
    rw [split_append_cons hl, List.cons.injEq] at h
    exact absurd h.2 (List.splitOn_ne_nil sep m)
  · rw [split_of_not_mem hs, List.cons.injEq] at h
    exact ⟨h.1, hs⟩

/-- A string `Split` cuts in two is its pieces around its one separator. -/
theorem split_eq_pair {s a b : List Char} {sep : Char} (h : split s sep = [a, b]) :
    s = a ++ sep :: b ∧ sep ∉ a ∧ sep ∉ b := by
  by_cases hs : sep ∈ s
  · obtain ⟨l, m, rfl, hl⟩ := exists_eq_append_cons_of_mem hs
    rw [split_append_cons hl, List.cons.injEq] at h
    obtain ⟨rfl, hm⟩ := h
    obtain ⟨rfl, hb⟩ := split_eq_singleton hm
    exact ⟨rfl, hl, hb⟩
  · rw [split_of_not_mem hs] at h
    cases h

/-- `strings.Fields` of words joined by single spaces gives back the words, when none is empty
or holds a space. -/
theorem fields_intercalate {ws : List (List Char)} (hne : ∀ w ∈ ws, w ≠ [])
    (hsp : ∀ w ∈ ws, ∀ c ∈ w, isSpace c = false) : fields ([' '].intercalate ws) = ws := by
  have hsplit : ws ≠ [] → List.splitOnP isSpace ([' '].intercalate ws) = ws := by
    intro hws
    induction ws with
    | nil => exact absurd rfl hws
    | cons w ws ih =>
      cases ws with
      | nil => rw [List.intercalate_singleton, List.splitOnP_eq_singleton (hsp w (by simp))]
      | cons w' ws =>
        rw [List.intercalate_cons_cons, List.append_assoc, List.singleton_append,
          List.splitOnP_append_cons_of_forall_mem (hsp w (by simp)) ' ' (by decide),
          ih (fun v hv => hne v (by simp [hv])) (fun v hv => hsp v (by simp [hv])) (by simp)]
  unfold fields
  cases ws with
  | nil => rfl
  | cons w ws =>
    rw [hsplit (by simp), List.filter_eq_self]
    intro v hv
    simpa using hne v hv

theorem isSpace_of_isDigit {c : Char} (h : c.isDigit) : isSpace c = false := by
  have := Char.isDigit_iff_toNat.mp h
  simp only [Char.reduceToNat] at this
  unfold isSpace
  rw [if_pos (by omega)]
  simp only [Bool.or_eq_false_iff, decide_eq_false_iff_not]
  omega

end Go
