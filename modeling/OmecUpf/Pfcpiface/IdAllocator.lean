import Mathlib
import OmecUpf.Lib.Loop
import OmecUpf.Pfcpiface.Rules

/-!
# The ID allocator

`IDAllocator` (`id_allocator.go`) hands out the TEIDs of the UPF (`NewIDAllocator(1,
MaxUint32)` in `NewUPF`). It keeps offsets from `minValue` rather than IDs: `usedMap` holds the
offsets in use, and `Allocate` searches cyclically from the cursor `offset` for one that is not,
moving the cursor with `updateOffset` (`offset++`, then `% valueRange`, in `uint32`).

* `allocateStep`: one iteration of the search loop, which ends at a free offset, at a full range
  (the cursor is back where it started), or with the panic of a zero `valueRange`.
* `allocate`: the loop run for `valueRange + 1` iterations (`Abort.diverge` past that), then the
  marking of the offset found.
* `free`: `Free`, which ignores IDs outside `[minValue, maxValue]`.
* `MarksUsed a id`: `id` is in range and its offset is in `usedMap`.
* **`allocate_ok`**, `allocate_full`: a successful `Allocate` marks exactly one new ID, one that
  was not marked; a failed one marks nothing.
-/

namespace Pfcpiface

open Go

structure IDAllocator where
  minValue : UInt32
  maxValue : UInt32
  valueRange : UInt32
  offset : UInt32
  usedMap : Finset UInt32
  deriving DecidableEq

/-- `NewIDAllocator(minValue, maxValue)`; `valueRange` wraps in `uint32`. -/
def NewIDAllocator (minValue maxValue : UInt32) : IDAllocator :=
  { minValue, maxValue, valueRange := maxValue - minValue + 1, offset := 0, usedMap := ∅ }

namespace IDAllocator

def updateOffset (a : IDAllocator) : Except Abort IDAllocator := do
  let offset ← umod (a.offset + 1) a.valueRange
  pure { a with offset }

/-- How the search loop of `Allocate` ends. -/
inductive SearchEnd where
  /-- The cursor is at a free offset (`break`). -/
  | free (a : IDAllocator)
  /-- The cursor came back to where it started (`no available value range`). -/
  | full (a : IDAllocator)
  /-- `updateOffset` panicked. -/
  | abort (e : Abort)

/-- One iteration of the search loop of `Allocate`, which started at `offsetBegin`. -/
def allocateStep (offsetBegin : UInt32) (a : IDAllocator) : Loop.Step IDAllocator SearchEnd :=
  if a.offset ∈ a.usedMap then
    match a.updateOffset with
    | .error e => .done (.abort e)
    | .ok a' => if a'.offset = offsetBegin then .done (.full a') else .next a'
  else .done (.free a)

def errNoSpace : Error := .sentinel "no available value range to allocate id"

/-- `Allocate`: the search loop, then the marking of the free offset found. -/
def allocate (a : IDAllocator) : Except Abort (Except Error UInt32 × IDAllocator) :=
  match Loop.run (allocateStep a.offset) (a.valueRange.toNat + 1) a with
  | none => .error .diverge
  | some none => .error .diverge
  | some (some (.abort e)) => .error e
  | some (some (.full a')) => .ok (.error errNoSpace, a')
  | some (some (.free a')) => do
    let a'' ← { a' with usedMap := insert a'.offset a'.usedMap }.updateOffset
    pure (.ok (a'.offset + a'.minValue), a'')

/-- `Free`: unmark `id`, unless it is outside `[minValue, maxValue]`. -/
def free (a : IDAllocator) (id : UInt32) : IDAllocator :=
  if id < a.minValue ∨ id > a.maxValue then a
  else { a with usedMap := a.usedMap.erase (id - a.minValue) }

/-- `id` is marked used: it is in range and its offset is in `usedMap`. -/
def MarksUsed (a : IDAllocator) (id : UInt32) : Prop :=
  a.minValue ≤ id ∧ id ≤ a.maxValue ∧ id - a.minValue ∈ a.usedMap

instance (a : IDAllocator) (id : UInt32) : Decidable (a.MarksUsed id) :=
  inferInstanceAs (Decidable (_ ∧ _ ∧ _))

/-! ## The search loop only moves the cursor -/

theorem updateOffset_eq {a a' : IDAllocator} (h : a.updateOffset = .ok a') :
    a' = { a with offset := a'.offset } := by
  unfold updateOffset umod at h
  split at h
  · cases h
  · cases h
    rfl

theorem allocateStep_next {b : UInt32} {a a' : IDAllocator} (h : allocateStep b a = .next a') :
    a.offset ∈ a.usedMap ∧ a' = { a with offset := a'.offset } := by
  unfold allocateStep at h
  split at h
  · split at h
    · cases h
    · split at h
      · cases h
      · cases h
        exact ⟨by assumption, updateOffset_eq (by assumption)⟩
  · cases h

/-- The search loop changes nothing but the cursor: it ends at a free offset, or at a full
range with `usedMap` as it was. -/
theorem search_ends {a : IDAllocator} {r : Option SearchEnd}
    (h : Loop.Ends (allocateStep a.offset) a r) :
    r = none ∨ (∃ e, r = some (.abort e)) ∨
      (∃ a', r = some (.free a') ∧ a' = { a with offset := a'.offset } ∧
        a'.offset ∉ a.usedMap) ∨
      (∃ a', r = some (.full a') ∧ a'.usedMap = a.usedMap) := by
  apply Loop.ends_of_inv (fun s => s = { a with offset := s.offset }) _ ?_ ?_ ?_ rfl h
  · intro s s' hs hn
    obtain ⟨-, hs'⟩ := allocateStep_next hn
    rw [hs', hs]
  · intro s r hs hd
    unfold allocateStep at hd
    split at hd
    · split at hd
      · cases hd
        exact .inr (.inl ⟨_, rfl⟩)
      · split at hd
        · cases hd
          rename_i a' ha' _
          refine .inr (.inr (.inr ⟨a', rfl, ?_⟩))
          rw [updateOffset_eq ha', hs]
        · cases hd
    · cases hd
      rename_i hfree
      refine .inr (.inr (.inl ⟨s, rfl, hs, ?_⟩))
      rw [hs] at hfree
      exact hfree
  · intro s _ hf
    unfold allocateStep at hf
    split at hf
    · split at hf
      · cases hf
      · split at hf <;> cases hf
    · cases hf

/-- **A successful `Allocate`** returns `offset + minValue` for an offset that was free, and
marks exactly that offset. -/
theorem allocate_ok {a a' : IDAllocator} {id : UInt32} (h : a.allocate = .ok (.ok id, a')) :
    id - a.minValue ∉ a.usedMap ∧ a'.usedMap = insert (id - a.minValue) a.usedMap ∧
      a'.minValue = a.minValue ∧ a'.maxValue = a.maxValue ∧ a'.valueRange = a.valueRange := by
  unfold allocate at h
  split at h
  · cases h
  · cases h
  · cases h
  · cases h
  · rename_i a₁ hrun
    obtain hr | ⟨e, he⟩ | ⟨a₂, he, ha₂, hfree⟩ | ⟨a₂, he, -⟩ :=
      search_ends (Loop.ends_of_run hrun)
    · cases hr
    · cases he
    · simp only [Option.some.injEq, SearchEnd.free.injEq] at he
      subst he
      simp only [bind, Except.bind] at h
      split at h
      · cases h
      · rename_i a₃ hupd
        simp only [pure, Except.pure, Except.ok.injEq, Prod.mk.injEq] at h
        obtain ⟨rfl, rfl⟩ := h
        rw [updateOffset_eq hupd]
        rw [ha₂] at hfree ⊢
        simp [hfree]
    · cases he

/-- A failed `Allocate` marks nothing. -/
theorem allocate_full {a a' : IDAllocator} {e : Error} (h : a.allocate = .ok (.error e, a')) :
    a'.usedMap = a.usedMap := by
  unfold allocate at h
  split at h
  · cases h
  · cases h
  · cases h
  · rename_i a₁ hrun
    simp only [Except.ok.injEq, Prod.mk.injEq] at h
    obtain ⟨-, rfl⟩ := h
    obtain hr | ⟨e, he⟩ | ⟨a₂, he, -⟩ | ⟨a₂, he, hused⟩ :=
      search_ends (Loop.ends_of_run hrun)
    · cases hr
    · cases he
    · cases he
    · simp only [Option.some.injEq, SearchEnd.full.injEq] at he
      subst he
      exact hused
  · simp only [bind, Except.bind] at h
    split at h
    · cases h
    · cases h

@[simp] theorem free_minValue (a : IDAllocator) (id : UInt32) :
    (a.free id).minValue = a.minValue := by
  unfold free; split <;> rfl

@[simp] theorem free_maxValue (a : IDAllocator) (id : UInt32) :
    (a.free id).maxValue = a.maxValue := by
  unfold free; split <;> rfl

/-- `Free id` unmarks exactly `id`. -/
theorem marksUsed_free (a : IDAllocator) (id id' : UInt32) :
    (a.free id).MarksUsed id' ↔ a.MarksUsed id' ∧ id' ≠ id := by
  unfold free MarksUsed
  split
  · rename_i hout
    constructor
    · rintro ⟨h1, h2, h3⟩
      refine ⟨⟨h1, h2, h3⟩, ?_⟩
      rintro rfl
      rcases hout with h | h
      · exact absurd h1 (UInt32.not_le.mpr h)
      · exact absurd h2 (UInt32.not_le.mpr h)
    · exact fun h => h.1
  · rename_i hin
    simp only [Finset.mem_erase]
    constructor
    · rintro ⟨h1, h2, hne, h3⟩
      refine ⟨⟨h1, h2, h3⟩, fun he => hne (by rw [he])⟩
    · rintro ⟨⟨h1, h2, h3⟩, hne⟩
      refine ⟨h1, h2, fun he => hne ?_, h3⟩
      have := congrArg (· + a.minValue) he
      simpa using this

end IDAllocator

end Pfcpiface
