import Mathlib

/-!
# Covers of an interval by aligned blocks

A block `(q, k)` stands for the numbers `[q, q + 2 ^ k)`; it is aligned when `2 ^ k ∣ q`, and
is then the set of `w`-bit numbers whose bits above `k` are those of `q`, the numbers that a
prefix mask of `w - k` ones selects. A list of blocks tiles `[p, hi]` when its blocks follow each
other from `p` and the last ends at `hi`. A greedy cover takes at each start the largest aligned
block that fits: such a cover of an interval of `w`-bit numbers that starts above `0` has at
most `2 * w - 1` blocks, their sizes first growing and then shrinking.

* `Tiles`, `Tiles.mem_iff`, `Tiles.pairwise`: a tiling covers its interval, with disjoint
  blocks.
* `Maximal`, `length_le_of_tiles`: a greedy cover, apart from a first block at `0`, has at most
  `2 * w` blocks.
* `testBit_two_pow_sub_two_pow`, `and_two_pow_sub_two_pow`: the prefix mask `2 ^ w - 2 ^ k`
  has ones from bit `k` to bit `w - 1`, and keeps the bits of a number from bit `k` on.
-/

namespace PrefixCover

/-! ## Tilings -/

/-- `bs` tiles `[p, hi]`: its blocks start at `p`, each the one after the last, and the last
ends at `hi`. -/
def Tiles : Nat → Nat → List (Nat × Nat) → Prop
  | p, hi, [] => p = hi + 1
  | p, hi, b :: bs => b.1 = p ∧ Tiles (p + 2 ^ b.2) hi bs

variable {p hi : Nat} {bs : List (Nat × Nat)}

theorem Tiles.le (h : Tiles p hi bs) : p ≤ hi + 1 := by
  induction bs generalizing p with
  | nil => exact Nat.le_of_eq h
  | cons b bs ih =>
    have := ih h.2
    have := Nat.one_le_two_pow (n := b.2)
    omega

/-- Every block of a tiling starts at or after its start. -/
theorem Tiles.le_start (h : Tiles p hi bs) : ∀ b ∈ bs, p ≤ b.1 := by
  induction bs generalizing p with
  | nil => simp
  | cons b bs ih =>
    intro c hc
    rcases List.mem_cons.mp hc with rfl | hc
    · exact Nat.le_of_eq h.1.symm
    · exact Nat.le_trans (Nat.le_add_right _ _) (ih h.2 c hc)

/-- Every block of a tiling ends by the end of its interval. -/
theorem Tiles.end_le (h : Tiles p hi bs) : ∀ b ∈ bs, b.1 + 2 ^ b.2 ≤ hi + 1 := by
  induction bs generalizing p with
  | nil => simp
  | cons b bs ih =>
    intro c hc
    obtain ⟨hb, hbs⟩ := h
    rcases List.mem_cons.mp hc with rfl | hc
    · rw [hb]
      exact hbs.le
    · exact ih hbs c hc

/-- **A tiling covers its interval.** -/
theorem Tiles.mem_iff (h : Tiles p hi bs) (x : Nat) :
    (p ≤ x ∧ x ≤ hi) ↔ ∃ b ∈ bs, b.1 ≤ x ∧ x < b.1 + 2 ^ b.2 := by
  induction bs generalizing p with
  | nil =>
    have : p = hi + 1 := h
    simp only [List.not_mem_nil, false_and, exists_false, iff_false]
    omega
  | cons b bs ih =>
    obtain ⟨hb, hbs⟩ := h
    have hle := hbs.le
    have hpos := Nat.two_pow_pos b.2
    simp only [List.mem_cons, or_and_right, exists_or, exists_eq_left]
    rw [← ih hbs, hb]
    omega

/-- **The blocks of a tiling are disjoint**: each ends before the next ones start. -/
theorem Tiles.pairwise (h : Tiles p hi bs) : bs.Pairwise fun b c => b.1 + 2 ^ b.2 ≤ c.1 := by
  induction bs generalizing p with
  | nil => exact List.Pairwise.nil
  | cons b bs ih =>
    obtain ⟨hb, hbs⟩ := h
    refine List.Pairwise.cons (fun c hc => ?_) (ih hbs)
    rw [hb]
    exact hbs.le_start c hc

/-! ## Greedy covers -/

/-- The block `(q, k)` is aligned, and the aligned block twice its size at `q` does not fit
below `hi`. -/
def Maximal (hi : Nat) (b : Nat × Nat) : Prop :=
  2 ^ b.2 ∣ b.1 ∧ ¬ (2 ^ (b.2 + 1) ∣ b.1 ∧ b.1 + 2 ^ (b.2 + 1) ≤ hi + 1)

/-- A number with exactly `k` trailing zeros becomes one with more than `k` when `2 ^ k` is
added. -/
theorem two_pow_succ_dvd_add {q k : Nat} (h : 2 ^ k ∣ q) (h' : ¬ 2 ^ (k + 1) ∣ q) :
    2 ^ (k + 1) ∣ q + 2 ^ k := by
  obtain ⟨c, rfl⟩ := h
  have hodd : ¬ 2 ∣ c := by
    rintro ⟨d, rfl⟩
    exact h' ⟨d, by rw [Nat.pow_succ, Nat.mul_assoc]⟩
  obtain ⟨d, hd⟩ : 2 ∣ c + 1 := by omega
  exact ⟨d, by rw [← Nat.mul_add_one, hd, Nat.pow_succ, Nat.mul_assoc]⟩

theorem lt_of_two_pow_dvd {q k w : Nat} (h : 2 ^ k ∣ q) (hq : 0 < q) (hw : q < 2 ^ w) : k < w :=
  (Nat.pow_lt_pow_iff_right (by decide)).mp
    (Nat.lt_of_le_of_lt (Nat.le_of_dvd hq h) hw)

section Greedy

variable (hmax : ∀ b ∈ bs, Maximal hi b)
include hmax

/-- Past a start aligned to `2 ^ m` whose block of `2 ^ m` does not fit, a greedy cover takes
blocks of strictly shrinking sizes below `2 ^ m`: at most `m` of them. -/
theorem length_le_of_dvd {m : Nat} (h : Tiles p hi bs) (hp : 0 < p) (hm : 2 ^ m ∣ p)
    (hfit : hi + 1 < p + 2 ^ m) : bs.length ≤ m := by
  induction bs generalizing p m with
  | nil => exact Nat.zero_le _
  | cons b bs ih =>
    obtain ⟨hb, hbs⟩ := h
    obtain ⟨hk, hnot⟩ := hmax b (List.mem_cons_self ..)
    rw [hb] at hk hnot
    -- the block fits, so it is smaller than `2 ^ m`, and the one twice its size does not fit
    have hkm : b.2 < m := by
      have := hbs.le
      exact (Nat.pow_lt_pow_iff_right (a := 2) (by decide)).mp (by omega)
    have hnext : hi + 1 < p + 2 ^ (b.2 + 1) := by
      have hdvd : 2 ^ (b.2 + 1) ∣ p := Nat.dvd_trans (Nat.pow_dvd_pow 2 hkm) hm
      by_contra hle
      exact hnot ⟨hdvd, by omega⟩
    have hrest := ih (fun c hc => hmax c (List.mem_cons_of_mem _ hc)) hbs
      (by omega) (Nat.dvd_add hk (Nat.dvd_refl _)) (by rw [Nat.pow_succ] at hnext; omega)
    simp only [List.length_cons]
    omega

/-- From a start above `0` aligned to `2 ^ a`, a greedy cover of `w`-bit numbers has at most
`2 * w - 1 - a` blocks: while its blocks are limited by the alignment of their start they grow,
and once one is limited by `hi` the rest shrink. -/
theorem length_le_of_pos {w a : Nat} (h : Tiles p hi bs) (hp : 0 < p) (hw : hi < 2 ^ w)
    (ha : 2 ^ a ∣ p) : bs.length ≤ 2 * w - 1 - a := by
  induction bs generalizing p a with
  | nil => exact Nat.zero_le _
  | cons b bs ih =>
    obtain ⟨hb, hbs⟩ := h
    obtain ⟨hk, hnot⟩ := hmax b (List.mem_cons_self ..)
    rw [hb] at hk hnot
    have hmax' : ∀ c ∈ bs, Maximal hi c := fun c hc => hmax c (List.mem_cons_of_mem _ hc)
    have hpw : p < 2 ^ w := by
      have := hbs.le
      have := Nat.one_le_two_pow (n := b.2)
      omega
    have hkw : b.2 < w := lt_of_two_pow_dvd hk hp hpw
    have haw : a < w := lt_of_two_pow_dvd ha hp hpw
    simp only [List.length_cons]
    by_cases hdvd : 2 ^ (b.2 + 1) ∣ p
    · -- limited by `hi`: the rest shrink below `2 ^ b.2`
      have hfit : hi + 1 < p + 2 ^ (b.2 + 1) := by
        by_contra hle
        exact hnot ⟨hdvd, by omega⟩
      have hrest := length_le_of_dvd hmax' hbs (by omega) (Nat.dvd_add hk (Nat.dvd_refl _))
        (by rw [Nat.pow_succ] at hfit; omega)
      have := lt_of_two_pow_dvd hdvd hp hpw
      omega
    · -- limited by the alignment of `p`: the next start is aligned to `2 ^ (b.2 + 1)`
      have hak : a ≤ b.2 := by
        by_contra hlt
        exact hdvd (Nat.dvd_trans (Nat.pow_dvd_pow 2 (by omega)) ha)
      have hrest := ih hmax' hbs (by omega) (two_pow_succ_dvd_add hk hdvd)
      omega

end Greedy

/-- **A greedy cover has at most `2 * w` blocks.** A cover of `w`-bit numbers, `w > 0`, whose
blocks but one at `0` are maximal has at most `2 * w` blocks. -/
theorem length_le_of_tiles {w : Nat} (h : Tiles p hi bs)
    (hmax : ∀ b ∈ bs, 0 < b.1 → Maximal hi b) (hw : hi < 2 ^ w) (hw0 : 0 < w) :
    bs.length ≤ 2 * w := by
  cases bs with
  | nil => exact Nat.zero_le _
  | cons b bs =>
    obtain ⟨hb, hbs⟩ := h
    -- every block after the first starts above `0`
    have hpos : ∀ c ∈ bs, 0 < c.1 := fun c hc =>
      Nat.lt_of_lt_of_le (Nat.lt_of_lt_of_le (Nat.two_pow_pos _) (Nat.le_add_left _ _))
        (hbs.le_start c hc)
    have hrest := length_le_of_pos (fun c hc => hmax c (List.mem_cons_of_mem _ hc) (hpos c hc))
      hbs (Nat.lt_of_lt_of_le (Nat.two_pow_pos _) (Nat.le_add_left _ _)) hw (Nat.one_dvd _)
      (a := 0)
    simp only [List.length_cons]
    omega

/-! ## Prefix masks -/

/-- The prefix mask `2 ^ w - 2 ^ k` has its ones from bit `k` to bit `w - 1`. -/
theorem testBit_two_pow_sub_two_pow {w k : Nat} (hk : k ≤ w) (i : Nat) :
    (2 ^ w - 2 ^ k).testBit i = (decide (k ≤ i) && decide (i < w)) := by
  have hsplit : 2 ^ w - 2 ^ k = 2 ^ k * (2 ^ (w - k) - 1) := by
    rw [Nat.mul_sub, Nat.mul_one, ← Nat.pow_add, Nat.add_sub_cancel' hk]
  rw [hsplit, Nat.testBit_two_pow_mul, Nat.testBit_two_pow_sub_one]
  by_cases hi : k ≤ i
  · simp only [ge_iff_le, hi, decide_true, Bool.true_and]
    exact decide_eq_decide.mpr (by omega)
  · simp [hi]

/-- The prefix mask `2 ^ w - 2 ^ k` keeps the bits of a `w`-bit number from bit `k` on. -/
theorem and_two_pow_sub_two_pow {w k x : Nat} (hk : k ≤ w) (hx : x < 2 ^ w) :
    x &&& (2 ^ w - 2 ^ k) = x / 2 ^ k * 2 ^ k := by
  apply Nat.eq_of_testBit_eq
  intro i
  rw [Nat.testBit_and, testBit_two_pow_sub_two_pow hk, Nat.testBit_mul_two_pow]
  by_cases hki : k ≤ i
  · rw [Nat.testBit_div_two_pow, Nat.sub_add_cancel hki]
    by_cases hiw : i < w
    · simp [hki, hiw]
    · have : x < 2 ^ i := Nat.lt_of_lt_of_le hx (Nat.pow_le_pow_right (by decide) (by omega))
      simp [hki, hiw, Nat.testBit_lt_two_pow this]
  · simp [hki]

/-- A number keeps the bits of an aligned start from bit `k` on exactly when it is in the block
of `2 ^ k` at that start. -/
theorem div_mul_eq_iff {k q x : Nat} (hq : 2 ^ k ∣ q) :
    x / 2 ^ k * 2 ^ k = q ↔ q ≤ x ∧ x < q + 2 ^ k := by
  obtain ⟨c, rfl⟩ := hq
  have hpos := Nat.two_pow_pos k
  rw [Nat.mul_comm (2 ^ k) c, Nat.mul_left_inj (Nat.pos_iff_ne_zero.mp hpos), Nat.div_eq_iff hpos]
  omega

end PrefixCover
