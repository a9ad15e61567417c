import Mathlib

/-!
# Loops run with fuel

A `for {}` or `while` loop whose number of iterations depends on the data is modelled by its
body `f : σ → Step σ α`: one iteration ends the loop with a result, faults (it reads outside the
data it walks), or continues from a new state. `run f n s` runs at most `n` iterations.

* `run_succ_next`, `run_mono`: the fuel lemmas; an outcome found with some fuel is found with
  more, so `Ends f s r` (some fuel gives `r`) has at most one outcome, `ends_unique`.
* `run_eq_none_of_next_self`, **`not_terminates_of_next_self`**: an iteration that continues
  to its own state makes the loop run forever; `run_eq_none_of_forall_next`: so does an
  invariant under which every iteration continues.
* **`run_isSome_of_measure`**: a measure, bounded by `B`, that grows at every iteration makes
  `B + 1` iterations enough.
* `ends_of_inv`: an invariant kept by every iteration holds of the state the loop ends in.
* **`iterate_injOn_of_stops`**: a walk that iterates a function while a condition holds, and
  stops, visits distinct states.
-/

namespace Loop

/-- What one iteration of a loop body does. -/
inductive Step (σ α : Type) where
  /-- The loop ends with result `a`. -/
  | done (a : α)
  /-- The iteration reads outside the data it walks. -/
  | fault
  /-- The loop continues from state `s`. -/
  | next (s : σ)
  deriving DecidableEq, Repr

variable {σ α : Type} (f : σ → Step σ α)

/-- Run the body `f` from `s` for at most `n` iterations: `some (some a)` when the loop ends with
`a`, `some none` when an iteration faults, `none` when the fuel runs out. -/
def run : Nat → σ → Option (Option α)
  | 0, _ => none
  | n + 1, s =>
    match f s with
    | .done a => some (some a)
    | .fault => some none
    | .next s' => run n s'

/-- The loop ends from `s` with outcome `r` (`none` for a fault). -/
def Ends (s : σ) (r : Option α) : Prop := ∃ n, run f n s = some r

/-- The loop ends from `s`, with a result or a fault. -/
def Terminates (s : σ) : Prop := ∃ r, Ends f s r

variable {f}

@[simp] theorem run_zero (s : σ) : run f 0 s = none := rfl

theorem run_succ_done {s : σ} {a : α} (h : f s = .done a) (n : Nat) :
    run f (n + 1) s = some (some a) := by
  simp [run, h]

theorem run_succ_fault {s : σ} (h : f s = .fault) (n : Nat) : run f (n + 1) s = some none := by
  simp [run, h]

theorem run_succ_next {s s' : σ} (h : f s = .next s') (n : Nat) :
    run f (n + 1) s = run f n s' := by
  simp [run, h]

/-- More fuel does not change an outcome that was reached. -/
theorem run_mono {n m : Nat} {s : σ} {r : Option α} (h : run f n s = some r) (hnm : n ≤ m) :
    run f m s = some r := by
  induction n generalizing m s with
  | zero => cases h
  | succ n ih =>
    obtain ⟨m, rfl⟩ : ∃ m', m = m' + 1 := ⟨m - 1, by omega⟩
    cases hs : f s with
    | done a => rw [run_succ_done hs] at h ⊢; exact h
    | fault => rw [run_succ_fault hs] at h ⊢; exact h
    | next s' =>
      rw [run_succ_next hs] at h ⊢
      exact ih h (by omega)

theorem ends_unique {s : σ} {r r' : Option α} (h : Ends f s r) (h' : Ends f s r') : r = r' := by
  obtain ⟨n, hn⟩ := h
  obtain ⟨n', hn'⟩ := h'
  have e1 := run_mono hn (Nat.le_max_left n n')
  have e2 := run_mono hn' (Nat.le_max_right n n')
  rw [e1] at e2
  exact Option.some.inj e2

theorem ends_of_run {n : Nat} {s : σ} {r : Option α} (h : run f n s = some r) : Ends f s r :=
  ⟨n, h⟩

theorem ends_next_iff {s s' : σ} (h : f s = .next s') (r : Option α) :
    Ends f s r ↔ Ends f s' r := by
  constructor
  · rintro ⟨n, hn⟩
    cases n with
    | zero => cases hn
    | succ n => exact ⟨n, (run_succ_next h n) ▸ hn⟩
  · rintro ⟨n, hn⟩
    exact ⟨n + 1, (run_succ_next h n).trans hn⟩

/-! ## Divergence -/

/-- An iteration that continues to the state it started from never lets the loop end. -/
theorem run_eq_none_of_next_self {s : σ} (h : f s = .next s) (n : Nat) : run f n s = none := by
  induction n with
  | zero => rfl
  | succ n ih => rw [run_succ_next h, ih]

/-- An invariant under which every iteration continues, and which every iteration keeps, never
lets the loop end. -/
theorem run_eq_none_of_forall_next (I : σ → Prop) (h : ∀ s, I s → ∃ s', f s = .next s' ∧ I s')
    {s : σ} (hs : I s) (n : Nat) : run f n s = none := by
  induction n generalizing s with
  | zero => rfl
  | succ n ih =>
    obtain ⟨s', hf, hs'⟩ := h s hs
    rw [run_succ_next hf, ih hs']

/-- **A loop stuck at a state runs forever.** -/
theorem not_terminates_of_next_self {s : σ} (h : f s = .next s) : ¬ Terminates f s := by
  rintro ⟨r, n, hn⟩
  rw [run_eq_none_of_next_self h] at hn
  cases hn

/-! ## Termination by a growing measure -/

/-- **Fuel from a measure.** If every iteration that continues from a state satisfying `I`
keeps `I`, raises `μ` and keeps it at most `B`, then `B + 1 - μ s` iterations end the loop from
a state satisfying `I` with `μ s ≤ B`. -/
theorem run_isSome_of_measure (I : σ → Prop) (μ : σ → Nat) (B : Nat)
    (hμ : ∀ s s', I s → f s = .next s' → I s' ∧ μ s < μ s' ∧ μ s' ≤ B) {n : Nat} {s : σ}
    (hI : I s) (hs : μ s ≤ B) (hn : B + 1 - μ s ≤ n) : (run f n s).isSome := by
  induction n generalizing s with
  | zero => omega
  | succ n ih =>
    cases hf : f s with
    | done a => simp [run_succ_done hf]
    | fault => simp [run_succ_fault hf]
    | next s' =>
      rw [run_succ_next hf]
      obtain ⟨hI', hlt, hle⟩ := hμ s s' hI hf
      exact ih hI' hle (by omega)

/-! ## Invariants -/

/-- **The loop invariant rule.** An invariant that holds at the start and is kept by every
iteration that continues holds at the state where an iteration ends the loop. -/
theorem ends_of_inv (I : σ → Prop) (Q : Option α → Prop)
    (hnext : ∀ s s', I s → f s = .next s' → I s')
    (hdone : ∀ s a, I s → f s = .done a → Q (some a))
    (hfault : ∀ s, I s → f s = .fault → Q none) {s : σ} (hs : I s) {r : Option α}
    (h : Ends f s r) : Q r := by
  obtain ⟨n, hn⟩ := h
  induction n generalizing s with
  | zero => cases hn
  | succ n ih =>
    cases hf : f s with
    | done a =>
      rw [run_succ_done hf] at hn
      cases hn
      exact hdone s a hs hf
    | fault =>
      rw [run_succ_fault hf] at hn
      cases hn
      exact hfault s hs hf
    | next s' =>
      rw [run_succ_next hf] at hn
      exact ih (hnext s s' hs hf) hn

/-! ## Walks -/

/-- **A walk that stops visits distinct states.** If `g` is iterated from `x` while `C` holds,
and `C` first fails at the `k`-th iterate, the first `k` iterates are distinct: a state seen
twice would make the walk go round a cycle of states where `C` holds. -/
theorem iterate_injOn_of_stops {g : σ → σ} {C : σ → Prop} {x : σ} {k : Nat}
    (hC : ∀ m < k, C (g^[m] x)) (hk : ¬ C (g^[k] x)) {i j : Nat} (hi : i < k) (hj : j < k)
    (h : g^[i] x = g^[j] x) : i = j := by
  -- from a repetition at `i < j`, the walk is periodic from `i` with period `j - i`
  have cycle : ∀ {i j : Nat}, i < j → j < k → g^[i] x = g^[j] x → False := by
    intro i j hij hj h
    have hper : Function.IsPeriodicPt g (j - i) (g^[i] x) := by
      show g^[j - i] (g^[i] x) = g^[i] x
      rw [← Function.iterate_add_apply, Nat.sub_add_cancel hij.le, h]
    have hmod := hper.iterate_mod_apply (k - i)
    rw [← Function.iterate_add_apply, ← Function.iterate_add_apply, Nat.sub_add_cancel (by omega)]
      at hmod
    have hlt : (k - i) % (j - i) + i < k :=
      lt_of_lt_of_le (Nat.add_lt_add_right (Nat.mod_lt _ (by omega)) i) (by omega)
    exact hk (hmod ▸ hC _ hlt)
  rcases lt_trichotomy i j with hij | rfl | hji
  · exact (cycle hij hj h).elim
  · rfl
  · exact (cycle hji hi h.symm).elim

end Loop
