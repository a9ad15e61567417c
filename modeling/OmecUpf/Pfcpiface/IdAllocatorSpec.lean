import OmecUpf.Lib.Allocator
import OmecUpf.Pfcpiface.IdAllocator

/-!
# The ID allocator meets the allocator specification

`Alloc` says what an allocator is for; this module shows that `IDAllocator` is one, over the
range `[minValue, maxValue]`, as long as it is well formed (`Wf`): its `valueRange` is the size
of the range, and every offset it holds, the cursor included, is below it. `NewIDAllocator`
makes such an allocator, unless `valueRange` wraps to `0` (the range `[0, MaxUint32]`), and
`Allocate` and `Free` keep it so.

* `allocate_of_valueRange_zero`: without that, the first `Allocate` panics.
* `gap`, `SearchInv`, **`search_run`**: the search of `Allocate` ends within its
  `valueRange + 1` iterations, at a free offset or after it has seen every offset used.
* **`allocate_spec`**: on a well-formed allocator, `Allocate` neither panics nor diverges, and
  keeps the allocator well formed, with its range. It grants an ID of `[minValue, maxValue]` it
  did not hold, and holds it from then on, or answers `errNoSpace` holding every ID of the range,
  and holds what it held; `Wf.free`.
* `held`, `range`, `call`, `runCalls`: the allocator as the specification sees it.
  `call_refines`, **`runCalls_refines`**: every sequence of calls on a well-formed allocator is
  a run of the specification.
* **`NewIDAllocator_refines`**, **`NewIDAllocator_grants_once`**: so from `NewIDAllocator`,
  an ID is never granted twice without a `Free` of it in between.
* `cursorStep`, `runCalls_cursor`: the cursor a sequence of calls leaves, from their answers.
* `allocate_first_free`: on a well-formed allocator, `Allocate` grants the first ID not held
  after the cursor, or fails exactly when it holds the whole range.
* **`NewIDAllocator_allocates_first_free`**: after any calls on `NewIDAllocator` over
  `1 ≤ minValue ≤ maxValue`, the IDs held are those granted and not freed since, and
  `Allocate` grants the first of the others after the cursor, or fails exactly when there is
  none; a `Free` of an ID outside the range or not held changes nothing.
-/

namespace Pfcpiface

namespace IDAllocator

open Go

/-! ## Well-formed allocators -/

/-- The allocator keeps offsets of the range: its `valueRange` is the number of IDs of
`[minValue, maxValue]`, and the cursor and the used offsets are below it. -/
structure Wf (a : IDAllocator) : Prop where
  le : a.minValue ≤ a.maxValue
  range_eq : a.valueRange.toNat = a.maxValue.toNat - a.minValue.toNat + 1
  offset_lt : a.offset < a.valueRange
  used_lt : ∀ o ∈ a.usedMap, o < a.valueRange

theorem wf_NewIDAllocator {minValue maxValue : UInt32} (hle : minValue ≤ maxValue)
    (hne : maxValue - minValue + 1 ≠ 0) : (NewIDAllocator minValue maxValue).Wf := by
  have hsub := UInt32.toNat_sub_of_le _ _ hle
  have hlt := UInt32.toNat_lt maxValue
  -- `valueRange` does not wrap, since it is not `0`
  have hrange : (maxValue - minValue + 1).toNat = maxValue.toNat - minValue.toNat + 1 := by
    rw [UInt32.toNat_add, hsub, UInt32.toNat_one]
    refine Nat.mod_eq_of_lt (Nat.lt_of_le_of_ne (by omega) fun h => hne ?_)
    apply UInt32.toNat_inj.mp
    rw [UInt32.toNat_add, hsub, UInt32.toNat_one, h, Nat.mod_self, UInt32.toNat_zero]
  refine ⟨hle, hrange, ?_, fun o ho => absurd ho (Finset.notMem_empty o)⟩
  rw [UInt32.lt_iff_toNat_lt]
  show 0 < (maxValue - minValue + 1).toNat
  omega

/-- With a `valueRange` of `0` (`NewIDAllocator(0, MaxUint32)`), `Allocate` finds the cursor free
and panics when it moves it: `% 0`. -/
theorem allocate_of_valueRange_zero {a : IDAllocator} (h : a.valueRange = 0)
    (hfree : a.offset ∉ a.usedMap) : a.allocate = .error (.panic .integerDivideByZero) := by
  have hstep : allocateStep a.offset a = .done (.free a) := by simp [allocateStep, hfree]
  simp [allocate, h, Loop.run_succ_done hstep, updateOffset, umod, bind, Except.bind]

example : (NewIDAllocator 0 0xFFFFFFFF).allocate = .error (.panic .integerDivideByZero) :=
  allocate_of_valueRange_zero rfl (Finset.notMem_empty _)

/-! ## The search loop -/

theorem updateOffset_eq_ok {a : IDAllocator} (h : a.valueRange ≠ 0) :
    a.updateOffset = .ok { a with offset := (a.offset + 1) % a.valueRange } := by
  simp only [updateOffset, bind, Except.bind, umod_of_ne_zero _ _ h, pure, Except.pure]

/-- The cursor after `offset++` and `% valueRange`: the next offset, or `0` at the end. -/
theorem toNat_succ_mod {o vr : UInt32} (h : o < vr) :
    ((o + 1) % vr).toNat = if o.toNat + 1 = vr.toNat then 0 else o.toNat + 1 := by
  have hlt := UInt32.lt_iff_toNat_lt.mp h
  have hv := UInt32.toNat_lt vr
  rw [UInt32.toNat_mod, UInt32.toNat_add, UInt32.toNat_one,
    Nat.mod_eq_of_lt (by omega : o.toNat + 1 < 2 ^ 32)]
  split_ifs with h1
  · rw [h1, Nat.mod_self]
  · exact Nat.mod_eq_of_lt (by omega)

theorem ne_zero_of_lt {o vr : UInt32} (h : o < vr) : vr ≠ 0 := by
  rintro rfl
  exact absurd h (UInt32.not_lt.mpr UInt32.zero_le)

/-- One iteration of the search at an offset of the range. -/
theorem allocateStep_eq {b : UInt32} {s : IDAllocator} (h : s.offset < s.valueRange) :
    allocateStep b s =
      if s.offset ∈ s.usedMap then
        if (s.offset + 1) % s.valueRange = b then
          .done (.full { s with offset := (s.offset + 1) % s.valueRange })
        else .next { s with offset := (s.offset + 1) % s.valueRange }
      else .done (.free s) := by
  unfold allocateStep
  rw [updateOffset_eq_ok (ne_zero_of_lt h)]

/-- How far the search from `b` has gone when its cursor is at `x`, in a range of `vr`
offsets: the cursor runs from `b` up to the end, then from `0`. -/
def gap (vr b x : Nat) : Nat := if b ≤ x then x - b else x + vr - b

theorem eq_of_gap_eq {vr b x y : Nat} (hb : b < vr) (hx : x < vr) (hy : y < vr)
    (h : gap vr b x = gap vr b y) : x = y := by
  unfold gap at h
  split_ifs at h <;> omega

theorem gap_succ {vr b o o' : Nat} (hb : b < vr)
    (ho' : o' = if o + 1 = vr then 0 else o + 1) (hne : o' ≠ b) :
    gap vr b o' = gap vr b o + 1 := by
  unfold gap
  split_ifs at ho' ⊢ <;> omega

theorem gap_lt {vr b x : Nat} (hb : b < vr) (hx : x < vr) : gap vr b x < vr := by
  unfold gap
  split_ifs <;> omega

theorem gap_of_back {vr b o o' : Nat} (hb : b < vr)
    (ho' : o' = if o + 1 = vr then 0 else o + 1) (hback : o' = b) : gap vr b o = vr - 1 := by
  unfold gap
  split_ifs at ho' ⊢ <;> omega

def SearchInv (a s : IDAllocator) : Prop :=
  s = { a with offset := s.offset } ∧ s.offset < a.valueRange ∧
    ∀ x : UInt32, x < a.valueRange →
      gap a.valueRange.toNat a.offset.toNat x.toNat <
        gap a.valueRange.toNat a.offset.toNat s.offset.toNat → x ∈ a.usedMap

theorem searchInv_start {a : IDAllocator} (hw : a.Wf) : SearchInv a a := by
  refine ⟨rfl, hw.offset_lt, fun x _ hx => ?_⟩
  simp [gap] at hx

/-- Moving the cursor off a used offset of the range, for the search from `a`. -/
theorem searchInv_succ {a s : IDAllocator} (hw : a.Wf) (hs : SearchInv a s)
    (hused : s.offset ∈ s.usedMap) :
    let s' := { s with offset := (s.offset + 1) % s.valueRange }
    s' = { a with offset := s'.offset } ∧ s'.offset < a.valueRange ∧
      (s'.offset ≠ a.offset →
        gap a.valueRange.toNat a.offset.toNat s'.offset.toNat =
          gap a.valueRange.toNat a.offset.toNat s.offset.toNat + 1) ∧
      (s'.offset = a.offset →
        gap a.valueRange.toNat a.offset.toNat s.offset.toNat = a.valueRange.toNat - 1) ∧
      ∀ x : UInt32, x < a.valueRange →
        gap a.valueRange.toNat a.offset.toNat x.toNat =
          gap a.valueRange.toNat a.offset.toNat s.offset.toNat → x ∈ a.usedMap := by
  obtain ⟨hsa, hlt, -⟩ := hs
  have hvr : s.valueRange = a.valueRange := by rw [hsa]
  have hoff : ((s.offset + 1) % s.valueRange).toNat =
      if s.offset.toNat + 1 = a.valueRange.toNat then 0 else s.offset.toNat + 1 := by
    rw [toNat_succ_mod (hvr ▸ hlt : s.offset < s.valueRange), hvr]
  have hb := UInt32.lt_iff_toNat_lt.mp hw.offset_lt
  have ho := UInt32.lt_iff_toNat_lt.mp hlt
  refine ⟨by rw [hsa], ?_, fun hne => gap_succ hb hoff fun h => hne (UInt32.toNat_inj.mp h),
    fun hback => gap_of_back hb hoff (congrArg UInt32.toNat hback), fun x hx hgap => ?_⟩
  · apply UInt32.lt_iff_toNat_lt.mpr
    rw [hoff]
    split_ifs <;> omega
  · -- the offset the cursor leaves is the only one at its distance
    have hx' : x = s.offset :=
      UInt32.toNat_inj.mp (eq_of_gap_eq hb (UInt32.lt_iff_toNat_lt.mp hx) ho hgap)
    rw [hx', ← show s.usedMap = a.usedMap by rw [hsa]]
    exact hused

theorem SearchInv.offset_lt_range {a s : IDAllocator} (hs : SearchInv a s) :
    s.offset < s.valueRange := by
  rw [hs.1]
  exact hs.2.1

/-- **The search step.** An iteration that continues keeps the invariant and moves the cursor
one offset further from where the search began. -/
theorem searchInv_next {a s s' : IDAllocator} (hw : a.Wf) (hs : SearchInv a s)
    (h : allocateStep a.offset s = .next s') :
    SearchInv a s' ∧
      gap a.valueRange.toNat a.offset.toNat s.offset.toNat <
        gap a.valueRange.toNat a.offset.toNat s'.offset.toNat ∧
      gap a.valueRange.toNat a.offset.toNat s'.offset.toNat ≤ a.valueRange.toNat - 1 := by
  rw [allocateStep_eq hs.offset_lt_range] at h
  split_ifs at h with hused hback
  cases h
  obtain ⟨hsa', hlt', hsucc, -, hleft⟩ := searchInv_succ hw hs hused
  have hsucc := hsucc hback
  have hbound := gap_lt (UInt32.lt_iff_toNat_lt.mp hw.offset_lt) (UInt32.lt_iff_toNat_lt.mp hlt')
  refine ⟨⟨hsa', hlt', fun x hx hgap => ?_⟩, by omega, by omega⟩
  rw [hsucc] at hgap
  rcases Nat.lt_succ_iff_lt_or_eq.mp hgap with hbefore | hat
  · exact hs.2.2 x hx hbefore
  · exact hleft x hx hat

/-- **How the search ends.** From a well-formed allocator, `valueRange + 1` iterations end the
search: at an unused offset of the range, only the cursor having moved, or back at its start,
every offset of the range being used. -/
theorem search_run {a : IDAllocator} (hw : a.Wf) :
    ∃ r, Loop.run (allocateStep a.offset) (a.valueRange.toNat + 1) a = some (some r) ∧
      ((∃ o, r = .free { a with offset := o } ∧ o < a.valueRange ∧ o ∉ a.usedMap ∧
          ∀ x, x < a.valueRange → gap a.valueRange.toNat a.offset.toNat x.toNat <
            gap a.valueRange.toNat a.offset.toNat o.toNat → x ∈ a.usedMap) ∨
        (r = .full a ∧ ∀ x, x < a.valueRange → x ∈ a.usedMap)) := by
  have hb := UInt32.lt_iff_toNat_lt.mp hw.offset_lt
  -- the distance from the start grows at every iteration and stays below `valueRange`
  have hsome := Loop.run_isSome_of_measure (SearchInv a)
    (fun s => gap a.valueRange.toNat a.offset.toNat s.offset.toNat) (a.valueRange.toNat - 1)
    (fun s s' hs h => searchInv_next hw hs h) (searchInv_start hw) (by simp [gap])
    (n := a.valueRange.toNat + 1) (by simp [gap])
  obtain ⟨o, ho⟩ := Option.isSome_iff_exists.mp hsome
  have hend := Loop.ends_of_inv (SearchInv a) (fun o => ∃ r, o = some r ∧
      ((∃ o, r = .free { a with offset := o } ∧ o < a.valueRange ∧ o ∉ a.usedMap ∧
          ∀ x, x < a.valueRange → gap a.valueRange.toNat a.offset.toNat x.toNat <
            gap a.valueRange.toNat a.offset.toNat o.toNat → x ∈ a.usedMap) ∨
        (r = .full a ∧ ∀ x, x < a.valueRange → x ∈ a.usedMap)))
    (fun s s' hs h => (searchInv_next hw hs h).1) ?_ ?_ (searchInv_start hw) (Loop.ends_of_run ho)
  · obtain ⟨r, rfl, hr⟩ := hend
    exact ⟨r, ho, hr⟩
  · intro s r hs h
    rw [allocateStep_eq hs.offset_lt_range] at h
    split_ifs at h with hused hback
    · -- back at the start: every offset of the range was passed, and each was used
      cases h
      obtain ⟨hsa', hlt', -, hlast, hleft⟩ := searchInv_succ hw hs hused
      have hlast := hlast hback
      -- the cursor is back at `a.offset`, so the allocator is `a` again
      refine ⟨_, rfl, .inr ⟨by rw [hsa', hback], fun x hx => ?_⟩⟩
      have hxlt := gap_lt hb (UInt32.lt_iff_toNat_lt.mp hx)
      rcases Nat.lt_or_ge (gap a.valueRange.toNat a.offset.toNat x.toNat)
          (a.valueRange.toNat - 1) with hbefore | hat
      · exact hs.2.2 x hx (by omega)
      · exact hleft x hx (by omega)
    · cases h
      exact ⟨_, rfl, .inl ⟨s.offset, by rw [← hs.1], hs.2.1,
        fun h => hused (by rw [hs.1]; exact h), hs.2.2⟩⟩
  · intro s hs h
    rw [allocateStep_eq hs.offset_lt_range] at h
    split_ifs at h

/-! ## `Allocate` and `Free` on a well-formed allocator -/

section Wf

variable {a : IDAllocator} (hw : a.Wf)
include hw

/-- An offset of the range is the offset of an ID of `[minValue, maxValue]`. -/
theorem Wf.add_minValue {o : UInt32} (ho : o < a.valueRange) :
    a.minValue ≤ o + a.minValue ∧ o + a.minValue ≤ a.maxValue := by
  have ho' := UInt32.lt_iff_toNat_lt.mp ho
  have hle := UInt32.le_iff_toNat_le.mp hw.le
  have hrange := hw.range_eq
  have hsum : (o + a.minValue).toNat = o.toNat + a.minValue.toNat := by
    rw [UInt32.toNat_add, Nat.mod_eq_of_lt (by have := UInt32.toNat_lt a.maxValue; omega)]
  rw [UInt32.le_iff_toNat_le, UInt32.le_iff_toNat_le, hsum]
  omega

/-- An ID of `[minValue, maxValue]` is at an offset of the range. -/
theorem Wf.sub_minValue_lt {x : UInt32} (h1 : a.minValue ≤ x) (h2 : x ≤ a.maxValue) :
    x - a.minValue < a.valueRange := by
  rw [UInt32.lt_iff_toNat_lt, UInt32.toNat_sub_of_le _ _ h1, hw.range_eq]
  have := UInt32.le_iff_toNat_le.mp h1
  have := UInt32.le_iff_toNat_le.mp h2
  omega

/-- Marking the offset `o` of the range makes the allocator hold the ID `o + minValue` too. -/
theorem Wf.marksUsed_insert {o : UInt32} (ho : o < a.valueRange) (x : UInt32) :
    ({ a with usedMap := insert o a.usedMap } : IDAllocator).MarksUsed x ↔
      a.MarksUsed x ∨ x = o + a.minValue := by
  obtain ⟨hlo, hhi⟩ := hw.add_minValue ho
  simp only [MarksUsed, Finset.mem_insert]
  constructor
  · rintro ⟨h1, h2, ho' | hu⟩
    · exact .inr (UInt32.sub_eq_iff_eq_add.mp ho')
    · exact .inl ⟨h1, h2, hu⟩
  · rintro (⟨h1, h2, hu⟩ | rfl)
    · exact ⟨h1, h2, .inr hu⟩
    · exact ⟨hlo, hhi, .inl (UInt32.add_sub_cancel o a.minValue)⟩

theorem Wf.moveOffset {o : UInt32} (ho : o < a.valueRange) (used : Finset UInt32)
    (hused : ∀ o ∈ used, o < a.valueRange) :
    ({ a with offset := (o + 1) % a.valueRange, usedMap := used } : IDAllocator).Wf := by
  refine ⟨hw.le, hw.range_eq, ?_, hused⟩
  apply UInt32.lt_iff_toNat_lt.mpr
  show ((o + 1) % a.valueRange).toNat < a.valueRange.toNat
  have := UInt32.lt_iff_toNat_lt.mp ho
  rw [toNat_succ_mod ho]
  split_ifs <;> omega

/-- **`Allocate`, case by case.** It marks the first free offset `o` of the range after the
cursor, in cyclic order, returns `o + minValue` and moves the cursor past it; or, every offset
being used, it returns `errNoSpace` and changes nothing. -/
theorem allocate_cases :
    (∃ o, o < a.valueRange ∧ o ∉ a.usedMap ∧
        (∀ x, x < a.valueRange → gap a.valueRange.toNat a.offset.toNat x.toNat <
          gap a.valueRange.toNat a.offset.toNat o.toNat → x ∈ a.usedMap) ∧
        a.allocate = .ok (.ok (o + a.minValue),
          { a with offset := (o + 1) % a.valueRange, usedMap := insert o a.usedMap })) ∨
      ((∀ x, x < a.valueRange → x ∈ a.usedMap) ∧ a.allocate = .ok (.error errNoSpace, a)) := by
  obtain ⟨r, hrun, ⟨o, rfl, ho, hfree, hfirst⟩ | ⟨rfl, hall⟩⟩ := search_run hw
  · have hnext := updateOffset_eq_ok (a := { a with offset := o, usedMap := insert o a.usedMap })
      (ne_zero_of_lt ho)
    exact .inl ⟨o, ho, hfree, hfirst, by simp only [allocate, hrun, bind, Except.bind, hnext]; rfl⟩
  · exact .inr ⟨hall, by simp only [allocate, hrun]⟩

/-- **`Allocate` on a well-formed allocator**: a fresh ID of the range, or `errNoSpace`. -/
theorem allocate_spec :
    ∃ r a', a.allocate = .ok (r, a') ∧ a'.Wf ∧ a'.minValue = a.minValue ∧
      a'.maxValue = a.maxValue ∧
      ((∃ id, r = .ok id ∧ a.minValue ≤ id ∧ id ≤ a.maxValue ∧ ¬ a.MarksUsed id ∧
          ∀ x, a'.MarksUsed x ↔ a.MarksUsed x ∨ x = id) ∨
        (r = .error errNoSpace ∧ (∀ x, a'.MarksUsed x ↔ a.MarksUsed x) ∧
          ∀ x, a.minValue ≤ x → x ≤ a.maxValue → a.MarksUsed x)) := by
  rcases allocate_cases hw with ⟨o, ho, hfree, -, ha⟩ | ⟨hall, ha⟩
  · -- a free offset `o`: it is marked, and the cursor moves past it
    refine ⟨.ok (o + a.minValue), _, ha, hw.moveOffset ho _ ?_, rfl, rfl,
      .inl ⟨_, rfl, (hw.add_minValue ho).1, (hw.add_minValue ho).2, fun h => hfree ?_,
        hw.marksUsed_insert ho⟩⟩
    · intro o' ho'
      rcases Finset.mem_insert.mp ho' with rfl | hu
      · exact ho
      · exact hw.used_lt o' hu
    · have := h.2.2
      rwa [UInt32.add_sub_cancel] at this
  · -- back at the start: every offset of the range is used
    exact ⟨.error errNoSpace, a, ha, hw, rfl, rfl,
      .inr ⟨rfl, fun x => Iff.rfl, fun x h1 h2 => ⟨h1, h2, hall _ (hw.sub_minValue_lt h1 h2)⟩⟩⟩

/-- `Free` keeps the allocator well formed. -/
theorem Wf.free (id : UInt32) : (a.free id).Wf := by
  unfold IDAllocator.free
  split
  · exact hw
  · exact ⟨hw.le, hw.range_eq, hw.offset_lt, fun o ho => hw.used_lt o (Finset.mem_of_mem_erase ho)⟩

end Wf

/-! ## The allocator as the specification sees it -/

/-- The IDs the allocator holds. -/
def held (a : IDAllocator) : Set UInt32 := {x | a.MarksUsed x}

/-- The IDs it hands out. -/
def range (a : IDAllocator) : Set UInt32 := {x | a.minValue ≤ x ∧ x ≤ a.maxValue}

/-- A call through the API of the allocator: `Allocate`, whose error is `errNoSpace` on a
well-formed allocator, or `Free(id)`. -/
def call (a : IDAllocator) : Alloc.Call UInt32 → Except Abort (Alloc.Reply UInt32 × IDAllocator)
  | .alloc => a.allocate.map fun r =>
    (match r.1 with | .ok id => .granted id | .error _ => .exhausted, r.2)
  | .release id => .ok (.released, a.free id)

/-- A sequence of calls, with their answers. -/
def runCalls (a : IDAllocator) :
    List (Alloc.Call UInt32) → Except Abort (List (Alloc.Reply UInt32) × IDAllocator)
  | [] => .ok ([], a)
  | c :: cs => do
    let (r, a') ← a.call c
    let (rs, a'') ← a'.runCalls cs
    pure (r :: rs, a'')

theorem runCalls_cons {a a' : IDAllocator} {c : Alloc.Call UInt32} {r : Alloc.Reply UInt32}
    (h : a.call c = .ok (r, a')) (cs : List (Alloc.Call UInt32)) :
    a.runCalls (c :: cs) = (a'.runCalls cs).map fun p => (r :: p.1, p.2) := by
  simp only [runCalls, h, bind, Except.bind]
  cases a'.runCalls cs <;> rfl

/-- **One call is a step of the specification.** On a well-formed allocator a call does not
panic, keeps the allocator well formed over its range, and changes the IDs it holds as
`Alloc.Step` allows. -/
theorem call_refines {a : IDAllocator} (hw : a.Wf) (c : Alloc.Call UInt32) :
    ∃ r a', a.call c = .ok (r, a') ∧ a'.Wf ∧ a'.range = a.range ∧
      Alloc.Step a.range a.held c r a'.held := by
  cases c with
  | alloc =>
    obtain ⟨r, a', ha, hw', hmin, hmax, ⟨id, rfl, h1, h2, hnot, hmarks⟩ | ⟨rfl, hmarks, hall⟩⟩ :=
      allocate_spec hw
    · -- a grant: the ID was not held and is held from now on
      have hheld : a'.held = insert id a.held :=
        Set.ext fun x => (hmarks x).trans (or_comm.trans (or_congr Iff.rfl Iff.rfl))
      refine ⟨.granted id, a', by simp only [call, ha, Except.map], hw',
        by simp only [range, hmin, hmax], ?_⟩
      rw [hheld]
      exact .grant ⟨h1, h2⟩ hnot
    · -- no space: the whole range is held, and nothing changes
      have hheld : a'.held = a.held := Set.ext hmarks
      refine ⟨.exhausted, a', by simp only [call, ha, Except.map], hw',
        by simp only [range, hmin, hmax], ?_⟩
      rw [hheld]
      exact .exhaust fun x hx => hall x hx.1 hx.2
  | release id =>
    have hheld : (a.free id).held = a.held \ {id} :=
      Set.ext fun x => marksUsed_free a id x
    refine ⟨.released, a.free id, rfl, hw.free id, by simp only [range, free_minValue, free_maxValue],
      ?_⟩
    rw [hheld]
    exact .release id

/-- **Every sequence of calls is a run of the specification.** From a well-formed allocator,
the calls do not panic, and their answers and the IDs held at the end are those of an
`Alloc.Run` over the range. -/
theorem runCalls_refines {a : IDAllocator} (hw : a.Wf) (cs : List (Alloc.Call UInt32)) :
    ∃ rs a', a.runCalls cs = .ok (rs, a') ∧ a'.Wf ∧ a'.range = a.range ∧
      Alloc.Run a.range a.held cs rs a'.held := by
  induction cs generalizing a with
  | nil => exact ⟨[], a, rfl, hw, rfl, .nil _⟩
  | cons c cs ih =>
    obtain ⟨r, a₁, hc, hw₁, hrange₁, hstep⟩ := call_refines hw c
    obtain ⟨rs, a₂, hrun, hw₂, hrange₂, hruns⟩ := ih hw₁
    refine ⟨r :: rs, a₂, by rw [runCalls_cons hc, hrun]; rfl, hw₂, hrange₂.trans hrange₁, ?_⟩
    exact .cons hstep (hrange₁ ▸ hruns)

theorem held_NewIDAllocator (minValue maxValue : UInt32) :
    (NewIDAllocator minValue maxValue).held = ∅ :=
  Set.eq_empty_of_forall_notMem fun _ h => Finset.notMem_empty _ h.2.2

/-- **`NewIDAllocator` meets the allocator specification.** Over a range that does not wrap,
every sequence of `Allocate` and `Free` calls from a new allocator is a run of `Alloc` over
`[minValue, maxValue]` from no ID held. -/
theorem NewIDAllocator_refines {minValue maxValue : UInt32} (hle : minValue ≤ maxValue)
    (hne : maxValue - minValue + 1 ≠ 0) (cs : List (Alloc.Call UInt32)) :
    ∃ rs a, (NewIDAllocator minValue maxValue).runCalls cs = .ok (rs, a) ∧
      Alloc.Run {x | minValue ≤ x ∧ x ≤ maxValue} ∅ cs rs a.held := by
  obtain ⟨rs, a, hrun, -, -, hruns⟩ := runCalls_refines (wf_NewIDAllocator hle hne) cs
  rw [held_NewIDAllocator] at hruns
  exact ⟨rs, a, hrun, hruns⟩

/-- The TEID allocator of `NewUPF`, and three calls. -/
theorem NewIDAllocator_refines_teids :
    (1 : UInt32) ≤ 0xFFFFFFFF ∧ (0xFFFFFFFF - 1 + 1 : UInt32) ≠ 0 ∧
      ∃ rs a, (NewIDAllocator 1 0xFFFFFFFF).runCalls [.alloc, .release 1, .alloc] = .ok (rs, a) ∧
        Alloc.Run {x | 1 ≤ x ∧ x ≤ 0xFFFFFFFF} ∅ [.alloc, .release 1, .alloc] rs a.held :=
  ⟨by decide, by decide, NewIDAllocator_refines (by decide) (by decide) _⟩

/-- **An ID is never granted twice without a `Free` in between.** After any calls `cs₀` on a
new allocator, calls `cs` that do not free `x` grant it at most once, and not at all if it was
held when they began. -/
theorem NewIDAllocator_grants_once {minValue maxValue : UInt32} (hle : minValue ≤ maxValue)
    (hne : maxValue - minValue + 1 ≠ 0) (cs₀ cs : List (Alloc.Call UInt32)) (x : UInt32)
    (hx : Alloc.Call.release x ∉ cs) :
    ∃ rs₀ a₀ rs a, (NewIDAllocator minValue maxValue).runCalls cs₀ = .ok (rs₀, a₀) ∧
      a₀.runCalls cs = .ok (rs, a) ∧ rs.count (.granted x) ≤ 1 ∧
      (a₀.MarksUsed x → Alloc.Reply.granted x ∉ rs) := by
  obtain ⟨rs₀, a₀, hrun₀, hw₀, -, -⟩ := runCalls_refines (wf_NewIDAllocator hle hne) cs₀
  obtain ⟨rs, a, hrun, -, -, hruns⟩ := runCalls_refines hw₀ cs
  exact ⟨rs₀, a₀, rs, a, hrun₀, hrun, hruns.count_granted_le_one hx,
    fun hheld => (hruns.not_granted_of_held hx hheld).1⟩

/-- The TEID allocator of `NewUPF`: TEID `1` is granted first, and not again by two more
`Allocate`s. -/
theorem NewIDAllocator_grants_once_teid :
    (1 : UInt32) ≤ 0xFFFFFFFF ∧ (0xFFFFFFFF - 1 + 1 : UInt32) ≠ 0 ∧
      Alloc.Call.release 1 ∉ [Alloc.Call.alloc, .alloc] ∧
      ∃ rs₀ a₀ rs a, (NewIDAllocator 1 0xFFFFFFFF).runCalls [.alloc] = .ok (rs₀, a₀) ∧
        a₀.runCalls [.alloc, .alloc] = .ok (rs, a) ∧ rs.count (.granted 1) ≤ 1 ∧
        (a₀.MarksUsed 1 → Alloc.Reply.granted 1 ∉ rs) :=
  ⟨by decide, by decide, by decide,
    NewIDAllocator_grants_once (by decide) (by decide) [.alloc] [.alloc, .alloc] 1 (by decide)⟩

/-! ## The cursor, and the first free ID -/

@[simp] theorem free_offset (a : IDAllocator) (id : UInt32) : (a.free id).offset = a.offset := by
  unfold IDAllocator.free; split <;> rfl

@[simp] theorem free_valueRange (a : IDAllocator) (id : UInt32) :
    (a.free id).valueRange = a.valueRange := by
  unfold IDAllocator.free; split <;> rfl

/-- The cursor after a call answered `r`: past the ID granted, and where it was otherwise. -/
def cursorStep (minValue valueRange : UInt32) (cursor : UInt32) : Alloc.Reply UInt32 → UInt32
  | .granted id => (id - minValue + 1) % valueRange
  | _ => cursor

/-- A call keeps the range and moves the cursor as its answer says. -/
theorem call_cursor {a a' : IDAllocator} (hw : a.Wf) {c : Alloc.Call UInt32}
    {r : Alloc.Reply UInt32} (h : a.call c = .ok (r, a')) :
    a'.minValue = a.minValue ∧ a'.valueRange = a.valueRange ∧
      a'.offset = cursorStep a.minValue a.valueRange a.offset r := by
  cases c with
  | alloc =>
    rcases allocate_cases hw with ⟨o, -, -, -, ha⟩ | ⟨-, ha⟩
    · simp only [call, ha, Except.map, Except.ok.injEq, Prod.mk.injEq] at h
      obtain ⟨rfl, rfl⟩ := h
      exact ⟨rfl, rfl, by simp only [cursorStep, UInt32.add_sub_cancel]⟩
    · simp only [call, ha, Except.map, Except.ok.injEq, Prod.mk.injEq] at h
      obtain ⟨rfl, rfl⟩ := h
      exact ⟨rfl, rfl, rfl⟩
  | release id =>
    simp only [call, Except.ok.injEq, Prod.mk.injEq] at h
    obtain ⟨rfl, rfl⟩ := h
    exact ⟨free_minValue a id, free_valueRange a id, free_offset a id⟩

/-- **The cursor of a run.** From a well-formed allocator, the cursor after a sequence of calls
is the one their answers give, step by step. -/
theorem runCalls_cursor {a a' : IDAllocator} (hw : a.Wf) {cs : List (Alloc.Call UInt32)}
    {rs : List (Alloc.Reply UInt32)} (h : a.runCalls cs = .ok (rs, a')) :
    a'.minValue = a.minValue ∧ a'.valueRange = a.valueRange ∧
      a'.offset = rs.foldl (cursorStep a.minValue a.valueRange) a.offset := by
  induction cs generalizing a rs with
  | nil =>
    cases h
    exact ⟨rfl, rfl, rfl⟩
  | cons c cs ih =>
    obtain ⟨r, a₁, hc, hw₁, -, -⟩ := call_refines hw c
    rw [runCalls_cons hc] at h
    cases hrun : a₁.runCalls cs with
    | error e => rw [hrun] at h; cases h
    | ok p =>
      rw [hrun] at h
      cases h
      obtain ⟨hmin₁, hvr₁, hoff₁⟩ := call_cursor hw hc
      obtain ⟨hmin, hvr, hoff⟩ := ih hw₁ hrun
      refine ⟨hmin.trans hmin₁, hvr.trans hvr₁, ?_⟩
      rw [hoff, hmin₁, hvr₁, hoff₁]
      rfl

theorem valueRange_ne_zero_of_one_le {minValue maxValue : UInt32} (hmin : 1 ≤ minValue)
    (hle : minValue ≤ maxValue) : maxValue - minValue + 1 ≠ 0 := by
  intro h
  have h1 := UInt32.le_iff_toNat_le.mp hmin
  have hsub := UInt32.toNat_sub_of_le _ _ hle
  have hlt := UInt32.toNat_lt maxValue
  have := congrArg UInt32.toNat h
  rw [UInt32.toNat_add, hsub, UInt32.toNat_one, UInt32.toNat_zero,
    Nat.mod_eq_of_lt (by simp only [UInt32.toNat_one] at h1; omega)] at this
  omega

/-- On a well-formed allocator, `Allocate` returns an ID of the range that is not held, the first
such in cyclic order from the cursor, and holds it; or fails, holding what it held. It fails
exactly when every ID of the range is held. -/
theorem allocate_first_free {a : IDAllocator} (hw : a.Wf) :
    ∃ r a', a.allocate = .ok (r, a') ∧
      ((∃ id, r = .ok id ∧ a.minValue ≤ id ∧ id ≤ a.maxValue ∧ id ∉ a.held ∧
          (∀ x, a.minValue ≤ x → x ≤ a.maxValue →
            gap a.valueRange.toNat a.offset.toNat (x - a.minValue).toNat <
              gap a.valueRange.toNat a.offset.toNat (id - a.minValue).toNat → x ∈ a.held) ∧
          a'.held = insert id a.held) ∨
        (r = .error errNoSpace ∧ a'.held = a.held)) ∧
      ((∃ e, r = .error e) ↔ ∀ x, a.minValue ≤ x → x ≤ a.maxValue → x ∈ a.held) := by
  rcases allocate_cases hw with ⟨o, ho, hfreeo, hfirst, ha⟩ | ⟨hall, ha⟩
  · -- the ID `o + minValue` is granted; every ID before it after the cursor is held
    have hid := hw.add_minValue ho
    have hnot : o + a.minValue ∉ a.held := fun h => hfreeo (by
      have := h.2.2
      rwa [UInt32.add_sub_cancel] at this)
    refine ⟨.ok (o + a.minValue), _, ha, .inl ⟨_, rfl, hid.1, hid.2, hnot,
      fun x h1 h2 hgap => ?_, Set.ext fun y => (hw.marksUsed_insert ho y).trans or_comm⟩,
      ⟨(fun ⟨e, he⟩ => by cases he), fun hall => absurd (hall _ hid.1 hid.2) hnot⟩⟩
    rw [UInt32.add_sub_cancel] at hgap
    exact ⟨h1, h2, hfirst _ (hw.sub_minValue_lt h1 h2) hgap⟩
  · -- every offset is used: the whole range is held, and nothing changes
    have hheldall : ∀ x, a.minValue ≤ x → x ≤ a.maxValue → x ∈ a.held := fun x h1 h2 =>
      ⟨h1, h2, hall _ (hw.sub_minValue_lt h1 h2)⟩
    exact ⟨.error errNoSpace, a, ha, .inr ⟨rfl, rfl⟩, fun _ => hheldall, fun _ => ⟨_, rfl⟩⟩

/-- **`Allocate` grants the first free ID after the cursor.** -/
theorem NewIDAllocator_allocates_first_free {minValue maxValue : UInt32} (hmin : 1 ≤ minValue)
    (hle : minValue ≤ maxValue) (cs : List (Alloc.Call UInt32)) :
    ∃ rs a, (NewIDAllocator minValue maxValue).runCalls cs = .ok (rs, a) ∧
      a.held = Alloc.replay ∅ (cs.zip rs) ∧
      a.offset = rs.foldl (cursorStep minValue (maxValue - minValue + 1)) 0 ∧
      (∀ id, (id < minValue ∨ maxValue < id ∨ id ∉ a.held) → (a.free id).held = a.held) ∧
      ∃ r a', a.allocate = .ok (r, a') ∧
        ((∃ id, r = .ok id ∧ minValue ≤ id ∧ id ≤ maxValue ∧ id ∉ a.held ∧
            (∀ x, minValue ≤ x → x ≤ maxValue →
              gap (maxValue - minValue + 1).toNat a.offset.toNat (x - minValue).toNat <
                gap (maxValue - minValue + 1).toNat a.offset.toNat (id - minValue).toNat →
              x ∈ a.held) ∧
            a'.held = insert id a.held) ∨
          (r = .error errNoSpace ∧ a'.held = a.held)) ∧
        ((∃ e, r = .error e) ↔ ∀ x, minValue ≤ x → x ≤ maxValue → x ∈ a.held) := by
  have hw₀ := wf_NewIDAllocator hle (valueRange_ne_zero_of_one_le hmin hle)
  obtain ⟨rs, a, hrun, hw, hrange, hruns⟩ := runCalls_refines hw₀ cs
  obtain ⟨hmin₀, hvr₀, hoff⟩ := runCalls_cursor hw₀ hrun
  -- the allocator keeps its range: `minValue`, `maxValue` and `valueRange` stay as created
  have hmin' : a.minValue = minValue := hmin₀
  have hvr' : a.valueRange = maxValue - minValue + 1 := hvr₀
  have hmax' : a.maxValue = maxValue := by
    have h2 : maxValue ∈ a.range := hrange ▸ ⟨hle, UInt32.le_refl maxValue⟩
    have h3 : a.maxValue ∈ (NewIDAllocator minValue maxValue).range :=
      hrange ▸ ⟨hw.le, UInt32.le_refl _⟩
    exact UInt32.le_antisymm h3.2 h2.2
  have hheld : a.held = Alloc.replay ∅ (cs.zip rs) := by
    rw [hruns.held_eq_replay, held_NewIDAllocator]
  have hfree : ∀ x, (a.free x).held = a.held \ {x} := fun x => Set.ext fun y => marksUsed_free a x y
  refine ⟨rs, a, hrun, hheld, hoff, fun id hid => ?_, ?_⟩
  · -- an ID outside the range is not held either
    have hnot : id ∉ a.held := by
      rcases hid with h | h | h
      · exact fun hm => absurd hm.1 (UInt32.not_le.mpr (hmin' ▸ h))
      · exact fun hm => absurd hm.2.1 (UInt32.not_le.mpr (hmax' ▸ h))
      · exact h
    rw [hfree, Set.sdiff_singleton_eq_self hnot]
  · -- `Allocate` on the allocator reached, whose range is the one created
    obtain ⟨r, a', ha, hcases, hiff⟩ := allocate_first_free hw
    rw [hmin', hmax', hvr'] at hcases
    rw [hmin', hmax'] at hiff
    exact ⟨r, a', ha, hcases, hiff⟩

/-- The TEID allocator of `NewUPF`: two `Allocate`s and a `Free`. -/
theorem NewIDAllocator_allocates_first_free_teids :
    (1 : UInt32) ≤ 1 ∧ (1 : UInt32) ≤ 0xFFFFFFFF ∧
      ∃ rs a, (NewIDAllocator 1 0xFFFFFFFF).runCalls [.alloc, .alloc, .release 1] = .ok (rs, a) ∧
        a.held = Alloc.replay ∅ ([.alloc, .alloc, .release 1].zip rs) :=
  have h := NewIDAllocator_allocates_first_free (UInt32.le_refl 1) (by decide) [.alloc, .alloc, .release 1]
  ⟨UInt32.le_refl 1, by decide, h.elim fun rs h => h.elim fun a h => ⟨rs, a, h.1, h.2.1⟩⟩

end IDAllocator

end Pfcpiface
