import Mathlib

/-!
# Allocators, abstractly

An allocator hands out the elements of a range `R` and takes them back. What it is for is said
by the set of elements it holds: `alloc` grants an element of `R` that it does not hold, or
answers that it is exhausted when it holds all of `R`; `release x` stops holding `x`, whether
it held it or not.

* `Call`, `Reply`: the calls and their answers.
* `Step R held c r held'`: the call `c` answered `r` takes the holdings `held` to `held'`.
* `Run R held cs rs held'`: a sequence of calls, step by step.
* `replay`, `Run.held_eq_replay`: what a run holds is its history: the elements granted and not
  released since.
* **`Run.count_granted_le_one`**, `Run.not_granted_of_held`: between two releases of `x`, a run
  grants `x` at most once, and not at all while it holds `x`.
-/

namespace Alloc

/-- A call on an allocator. -/
inductive Call (ι : Type) where
  | alloc
  | release (x : ι)
  deriving DecidableEq, Repr

/-- The answer to a call. -/
inductive Reply (ι : Type) where
  | granted (x : ι)
  | exhausted
  | released
  deriving DecidableEq, Repr

variable {ι : Type} {R : Set ι}

/-- What one call may do. -/
inductive Step (R : Set ι) : Set ι → Call ι → Reply ι → Set ι → Prop where
  | grant {held : Set ι} {x : ι} : x ∈ R → x ∉ held → Step R held .alloc (.granted x) (insert x held)
  | exhaust {held : Set ι} : R ⊆ held → Step R held .alloc .exhausted held
  | release {held : Set ι} (x : ι) : Step R held (.release x) .released (held \ {x})

/-- What a sequence of calls may do, with their answers. -/
inductive Run (R : Set ι) : Set ι → List (Call ι) → List (Reply ι) → Set ι → Prop where
  | nil (held : Set ι) : Run R held [] [] held
  | cons {held held' held'' : Set ι} {c : Call ι} {r : Reply ι} {cs : List (Call ι)}
      {rs : List (Reply ι)} :
      Step R held c r held' → Run R held' cs rs held'' → Run R held (c :: cs) (r :: rs) held''

/-- The elements held after calls answered as given, from `held`: those granted, and not
released since. -/
def replay (held : Set ι) : List (Call ι × Reply ι) → Set ι
  | [] => held
  | (.release x, _) :: es => replay (held \ {x}) es
  | (.alloc, .granted x) :: es => replay (insert x held) es
  | (.alloc, _) :: es => replay held es

/-- **A run holds what its history says.** -/
theorem Run.held_eq_replay {held held' : Set ι} {cs : List (Call ι)} {rs : List (Reply ι)}
    (h : Run R held cs rs held') : held' = replay held (cs.zip rs) := by
  induction h with
  | nil => rfl
  | cons hs _ ih => cases hs <;> exact ih

/-- A step that does not release `x` keeps holding it, and grants it only if it was not held. -/
theorem Step.held_of_not_release {held held' : Set ι} {c : Call ι} {r : Reply ι} {x : ι}
    (h : Step R held c r held') (hx : c ≠ .release x) :
    (x ∈ held → x ∈ held') ∧ (r = .granted x → x ∉ held ∧ x ∈ held') := by
  cases h with
  | grant _ hy =>
    refine ⟨fun hh => Set.mem_insert_of_mem _ hh, fun hr => ?_⟩
    cases hr
    exact ⟨hy, Set.mem_insert _ _⟩
  | exhaust => exact ⟨id, fun hr => by cases hr⟩
  | release y =>
    refine ⟨fun hh => ⟨hh, fun hy => hx ?_⟩, fun hr => by cases hr⟩
    rw [Set.mem_singleton_iff.mp hy]

/-- **No grant of a held element.** A run that never releases `x` does not grant `x` while it
holds it, and holds it to the end. -/
theorem Run.not_granted_of_held {held held' : Set ι} {cs : List (Call ι)} {rs : List (Reply ι)}
    {x : ι} (h : Run R held cs rs held') (hx : Call.release x ∉ cs) (hheld : x ∈ held) :
    Reply.granted x ∉ rs ∧ x ∈ held' := by
  induction h with
  | nil => exact ⟨List.not_mem_nil, hheld⟩
  | cons hs _ ih =>
    have hc : _ ≠ Call.release x := fun he => hx (he ▸ List.mem_cons_self)
    obtain ⟨hkeep, hgrant⟩ := hs.held_of_not_release hc
    obtain ⟨hrest, hend⟩ := ih (fun hm => hx (List.mem_cons_of_mem _ hm)) (hkeep hheld)
    refine ⟨fun hm => ?_, hend⟩
    rcases List.mem_cons.mp hm with he | hm
    · exact (hgrant he.symm).1 hheld
    · exact hrest hm

/-- **At most one grant between releases.** A run that never releases `x` grants it at most
once: after the first grant it holds `x`. -/
theorem Run.count_granted_le_one {held held' : Set ι} {cs : List (Call ι)}
    {rs : List (Reply ι)} {x : ι} [DecidableEq ι] (h : Run R held cs rs held')
    (hx : Call.release x ∉ cs) : rs.count (.granted x) ≤ 1 := by
  induction h with
  | nil => simp
  | @cons held₁ held₂ _ c r cs rs hs hrun ih =>
    have hc : c ≠ .release x := fun he => hx (he ▸ List.mem_cons_self)
    have hcs : Call.release x ∉ cs := fun hm => hx (List.mem_cons_of_mem _ hm)
    by_cases hr : r = .granted x
    · -- the first grant: from then on `x` is held, so it is not granted again
      have hnot := (hrun.not_granted_of_held hcs ((hs.held_of_not_release hc).2 hr).2).1
      rw [hr, List.count_cons_self, List.count_eq_zero.mpr hnot]
    · rw [List.count_cons_of_ne hr]
      exact ih hcs

end Alloc
