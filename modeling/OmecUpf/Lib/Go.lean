import Mathlib

/-!
# Go run-time behaviour

Code written in Go fails in two ways. An `error` is an ordinary value that the caller tests; a
run-time panic (an index out of range, a call through a nil pointer) unwinds the goroutine and,
when nothing recovers it, ends the process. This module fixes how the model writes the second
kind, and the slice idioms whose bounds it checks.

* `RuntimeError`, `Abort`: a panic of the run time, a fatal log that exits, or a call that never
  returns; code that may abort returns in `Except Abort`.
* `index`: slice indexing `s[i]`, which panics outside `[0, len(s))`; `deref` for nil pointers.
* `setFirst?`, `eraseFirst?`: the loops `for idx, v := range s { if p(v) { … return } }` that
  overwrite, or cut out with `append(s[:idx], s[idx+1:]...)`, the first element satisfying `p`;
  `copy`, the built-in `copy(dst, src)`.
* `umod`: unsigned `%`, which panics on a zero divisor.
* `Fallible ε α`: code that may panic and returns a result or an `error` of type `ε`, with
  `Fallible.ofAbort`, `Fallible.ofError` and the inversion `Fallible.run_bind_eq_ok`.
-/

namespace Go

/-- A panic raised by the Go run time. -/
inductive RuntimeError where
  /-- `index out of range [index] with length length` -/
  | indexOutOfRange (index : Int) (length : Nat)
  /-- `invalid memory address or nil pointer dereference` -/
  | nilPointerDereference
  /-- `integer divide by zero` -/
  | integerDivideByZero
  deriving DecidableEq, Repr

/-- How a call of Go code can fail to return normally. -/
inductive Abort where
  /-- An unrecovered panic, which ends the process. -/
  | panic (e : RuntimeError)
  /-- A fatal log message, which exits the process. -/
  | exit
  /-- A loop that never ends. -/
  | diverge
  deriving DecidableEq, Repr

variable {α β : Type}

/-- Slice indexing `s[i]`: the element, or a panic when `i` is outside `[0, len(s))`. -/
def index (s : List α) (i : Int) : Except Abort α :=
  match i.toNat? with
  | some n =>
    match s[n]? with
    | some a => .ok a
    | none => .error (.panic (.indexOutOfRange i s.length))
  | none => .error (.panic (.indexOutOfRange i s.length))

/-- Following a pointer that may be nil. -/
def deref : Option α → Except Abort α
  | some a => .ok a
  | none => .error (.panic .nilPointerDereference)

/-- Unsigned remainder `a % b`, which panics when `b = 0`. -/
def umod (a b : UInt32) : Except Abort UInt32 :=
  if b = 0 then .error (.panic .integerDivideByZero) else .ok (a % b)

theorem index_natCast (s : List α) (n : Nat) (h : n < s.length) :
    index s n = .ok s[n] := by
  simp [index, Int.toNat?, h]

theorem index_natCast_eq_ok_iff {s : List α} {n : Nat} {a : α} :
    index s n = .ok a ↔ s[n]? = some a := by
  unfold index
  simp only [Int.toNat?]
  cases s[n]? <;> simp

theorem index_neg (s : List α) (i : Int) (h : i < 0) :
    index s i = .error (.panic (.indexOutOfRange i s.length)) := by
  cases i with
  | ofNat n => exact absurd h (by simp)
  | negSucc n => rfl

/-- An index that did not panic was inside the slice. -/
theorem lt_length_of_index_eq_ok {s : List α} {i : Int} {a : α} (h : index s i = .ok a) :
    0 ≤ i ∧ i.toNat < s.length := by
  cases i with
  | negSucc n => rw [index_neg _ _ (Int.negSucc_lt_zero n)] at h; cases h
  | ofNat n =>
    rw [Int.ofNat_eq_natCast] at h ⊢
    have hn := (List.getElem?_eq_some_iff.mp (index_natCast_eq_ok_iff.mp h)).1
    exact ⟨Int.natCast_nonneg n, by simpa using hn⟩

theorem index_natCast_of_le (s : List α) (n : Nat) (h : s.length ≤ n) :
    index s n = .error (.panic (.indexOutOfRange n s.length)) := by
  simp [index, Int.toNat?, List.getElem?_eq_none h]

/-- The last element, as `s[len(s)-1]` reads it. -/
theorem index_getLast {s : List α} {a : α} (h : s.getLast? = some a) :
    index s ((s.length : Int) - 1) = .ok a := by
  have hpos : 0 < s.length := List.length_pos_iff.mpr (by rintro rfl; cases h)
  have hcast : (s.length : Int) - 1 = ((s.length - 1 : Nat) : Int) := by omega
  rw [hcast, index_natCast_eq_ok_iff, ← List.getLast?_eq_getElem?]
  exact h

@[simp] theorem index_zero_cons (a : α) (s : List α) : index (a :: s) 0 = .ok a := rfl

@[simp] theorem index_nil (i : Int) :
    index ([] : List α) i = .error (.panic (.indexOutOfRange i 0)) := by
  unfold index
  cases i.toNat? <;> rfl

@[simp] theorem umod_of_ne_zero (a b : UInt32) (h : b ≠ 0) : umod a b = .ok (a % b) := by
  simp [umod, h]

/-! ## Overwriting and cutting out the first match -/

/-- `for idx, v := range s { if p(v) { s[idx] = x; return nil } }`: `s` with its first element
satisfying `p` replaced by `x`, or `none` when no element satisfies `p`. -/
def setFirst? (p : α → Bool) (x : α) : List α → Option (List α)
  | [] => none
  | a :: s => if p a then some (x :: s) else (setFirst? p x s).map (a :: ·)

/-- `for idx, v := range s { if p(v) { s = append(s[:idx], s[idx+1:]...); return &v, nil } }`:
the first element satisfying `p` and the slice without it, or `none`. -/
def eraseFirst? (p : α → Bool) : List α → Option (α × List α)
  | [] => none
  | a :: s => if p a then some (a, s) else (eraseFirst? p s).map fun r => (r.1, a :: r.2)

/-- `copy(dst, src)`: `dst` with its first `min(len(dst), len(src))` elements taken from
`src`. -/
def copy (dst src : List α) : List α := src.take dst.length ++ dst.drop src.length

/-- A copy of a shorter slice leaves the tail of `dst` in place. -/
theorem copy_of_length_le {dst src : List α} (h : src.length ≤ dst.length) :
    copy dst src = src ++ dst.drop src.length := by
  rw [copy, List.take_of_length_le h]

variable {p : α → Bool} {x : α}

@[simp] theorem setFirst?_nil : setFirst? p x [] = none := rfl

@[simp] theorem eraseFirst?_nil : eraseFirst? p ([] : List α) = none := rfl

theorem setFirst?_eq_none_iff (s : List α) : setFirst? p x s = none ↔ ∀ a ∈ s, p a = false := by
  induction s with
  | nil => simp
  | cons a s ih =>
    by_cases ha : p a
    · simp [setFirst?, ha]
    · simp [setFirst?, ha, ih]

theorem eraseFirst?_eq_none_iff (s : List α) : eraseFirst? p s = none ↔ ∀ a ∈ s, p a = false := by
  induction s with
  | nil => simp
  | cons a s ih =>
    by_cases ha : p a
    · simp [eraseFirst?, ha]
    · simp [eraseFirst?, ha, ih]

/-- An overwrite keeps the length. -/
theorem length_of_setFirst? {s s' : List α} (h : setFirst? p x s = some s') :
    s'.length = s.length := by
  induction s generalizing s' with
  | nil => cases h
  | cons a s ih =>
    unfold setFirst? at h
    split at h
    · cases h
      rfl
    · obtain ⟨t, ht, rfl⟩ := Option.map_eq_some_iff.mp h
      simp [ih ht]

/-- Every element after an overwrite is `x` or was there before. -/
theorem mem_of_setFirst? {s s' : List α} (h : setFirst? p x s = some s') {b : α}
    (hb : b ∈ s') : b = x ∨ b ∈ s := by
  induction s generalizing s' with
  | nil => cases h
  | cons a s ih =>
    unfold setFirst? at h
    split at h
    · cases h
      rcases List.mem_cons.mp hb with rfl | hb
      · exact .inl rfl
      · exact .inr (List.mem_cons_of_mem _ hb)
    · obtain ⟨t, ht, rfl⟩ := Option.map_eq_some_iff.mp h
      rcases List.mem_cons.mp hb with rfl | hb
      · exact .inr List.mem_cons_self
      · exact (ih ht hb).imp id (List.mem_cons_of_mem _)

/-- The element cut out satisfies `p`, and with the rest it is a permutation of the slice. -/
theorem perm_of_eraseFirst? {s : List α} {a : α} {s' : List α}
    (h : eraseFirst? p s = some (a, s')) : p a = true ∧ (a :: s').Perm s := by
  induction s generalizing s' with
  | nil => cases h
  | cons b s ih =>
    unfold eraseFirst? at h
    split at h
    · cases h
      exact ⟨by assumption, List.Perm.refl _⟩
    · obtain ⟨⟨a', t⟩, ht, he⟩ := Option.map_eq_some_iff.mp h
      simp only [Prod.mk.injEq] at he
      obtain ⟨rfl, rfl⟩ := he
      obtain ⟨hp, hperm⟩ := ih ht
      exact ⟨hp, (List.Perm.swap b a' t).trans (hperm.cons b)⟩

theorem mem_of_eraseFirst? {s : List α} {a : α} {s' : List α}
    (h : eraseFirst? p s = some (a, s')) : a ∈ s :=
  (perm_of_eraseFirst? h).2.subset List.mem_cons_self

/-! ## Code that may panic and return an error -/

/-- Go code that may panic and otherwise returns a result or an `error` of type `ε`:
`.error a` for a panic, `.ok (.error e)` for an error, `.ok (.ok x)` for a result. -/
abbrev Fallible (ε α : Type) := ExceptT ε (Except Abort) α

namespace Fallible

variable {ε : Type}

/-- A computation that may panic but returns no `error`. -/
def ofAbort (x : Except Abort α) : Fallible ε α := ExceptT.lift x

/-- A computation that may return an `error` but does not panic. -/
def ofError (x : Except ε α) : Fallible ε α := ExceptT.mk (.ok x)

@[simp] theorem run_ofAbort (x : Except Abort α) :
    (ofAbort x : Fallible ε α).run = x.map .ok := by
  cases x <;> rfl

theorem run_ofAbort_eq_ok {x : Except Abort α} {a : α} :
    (ofAbort x : Fallible ε α).run = .ok (.ok a) ↔ x = .ok a := by
  cases x <;> simp [Except.map]

/-- A slice read that went through was inside the slice. -/
theorem lt_length_of_run_ofAbort_index {s : List α} {i : Int} {a : α}
    (h : (ofAbort (index s i) : Fallible ε α).run = .ok (.ok a)) : i.toNat < s.length :=
  (lt_length_of_index_eq_ok (run_ofAbort_eq_ok.mp h)).2

@[simp] theorem run_ofError (x : Except ε α) : (ofError x).run = .ok x := rfl

@[simp] theorem run_pure (a : α) : (pure a : Fallible ε α).run = .ok (.ok a) := rfl

@[simp] theorem run_ofAbort_ok_bind (a : α) (f : α → Fallible ε β) :
    (ofAbort (.ok a) >>= f).run = (f a).run := rfl

@[simp] theorem run_ofError_ok_bind (a : α) (f : α → Fallible ε β) :
    (ofError (.ok a) >>= f).run = (f a).run := rfl

@[simp] theorem run_ofError_error_bind (e : ε) (f : α → Fallible ε β) :
    (ofError (.error e) >>= f).run = .ok (.error e) := rfl

/-- A sequence that returns a result ran its first part to a result. -/
theorem run_bind_eq_ok {x : Fallible ε α} {f : α → Fallible ε β} {b : β}
    (h : (x >>= f).run = .ok (.ok b)) : ∃ a, x.run = .ok (.ok a) ∧ (f a).run = .ok (.ok b) := by
  rw [ExceptT.run_bind] at h
  cases hx : x.run with
  | error e => rw [hx] at h; cases h
  | ok r =>
    rw [hx] at h
    cases r with
    | error e => cases h
    | ok a => exact ⟨a, rfl, h⟩

end Fallible

/-- A run that evaluates to a value with a decidable property returned that value. Used to
read a property off a run on given inputs, which `decide` evaluates. -/
theorem exists_ok_of_map_decide {ε : Type} {x : Except ε α} {P : α → Prop} [DecidablePred P]
    (h : x.map (fun a => decide (P a)) = .ok true) : ∃ a, x = .ok a ∧ P a := by
  cases x with
  | error e => cases h
  | ok a => exact ⟨a, rfl, of_decide_eq_true (Except.ok.inj h)⟩

/-- A computation whose image failed has failed the same way; a failure of a computation whose
values cannot be compared is decided on its image. -/
theorem eq_error_of_map_eq_error {ε β : Type} {x : Except ε α} (f : α → β) {e : ε}
    (h : x.map f = .error e) : x = .error e := by
  cases x with
  | error e' => cases h; rfl
  | ok a => cases h

end Go
