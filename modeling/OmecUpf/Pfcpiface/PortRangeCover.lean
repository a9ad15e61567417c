import OmecUpf.Pfcpiface.PortRanges
import OmecUpf.Lib.PrefixCover

/-!
# The ternary rules of a port range

The `Ternary` strategy of `asComplexTernaryMatches` (`parse_pdr.go`) covers a range greedily:
`portMask(port, end)` tries the prefix masks of `2 ^ 16 - 2 ^ k` for `k = 0, 1, …`, keeping the
last one whose block `[port, port + 2 ^ k)` is aligned and ends by `end`, and the outer loop
starts the next rule after the block. The port `0` is the one exception: its loop does not run,
and it gets the rule of the one port `0`.

* `toNat_and_prefixMask`, `and_prefixMask_lt_iff`, `toNat_maxPort`: a prefix mask keeps the bits
  of a port above `k`, so it lowers exactly the ports not aligned to it, and `maxPort` of an
  aligned port is the end of its block.
* `MaskInv`, `MaskInv.next`, `portMaskStep_spec`, `portMask_spec`: the loop of `portMask` keeps
  the mask of the last block that fits, and returns within its 17 iterations the mask of a
  `Maximal` block.
* `ternaryRules_spec`: the outer loop lists the rules of a greedy tiling of the range.
* `rulesOfTiles_cover`: the rules of a tiling by aligned blocks are prefix rules over their
  ports, with disjoint sets of ports whose union is the tiled interval.
* **`asComplexTernaryMatches_ternary_cover`**: for a range `[low, high]` with `low < high` that
  is not the wildcard `[0, 65535]`, the rules have prefix masks, ones from some bit `k` on, over
  ports with no bits below `k`; their sets of ports are disjoint with the range as their union,
  and there are at most `32` of them.
-/

namespace Pfcpiface

open PrefixCover

/-! ## Prefix masks on ports -/

theorem add_two_pow_le_of_dvd {k w q : Nat} (h : 2 ^ k ∣ q) (hq : q < 2 ^ w) (hk : k ≤ w) :
    q + 2 ^ k ≤ 2 ^ w := by
  obtain ⟨c, rfl⟩ := h
  have hw : 2 ^ w = 2 ^ k * 2 ^ (w - k) := by rw [← Nat.pow_add, Nat.add_sub_cancel' hk]
  rw [hw] at hq ⊢
  have hc : c < 2 ^ (w - k) := Nat.lt_of_mul_lt_mul_left hq
  calc 2 ^ k * c + 2 ^ k = 2 ^ k * (c + 1) := (Nat.mul_add_one _ _).symm
    _ ≤ 2 ^ k * 2 ^ (w - k) := Nat.mul_le_mul_left _ hc

theorem toNat_and_prefixMask {k : Nat} (hk : k ≤ 16) {m : UInt16}
    (hm : m.toNat = 2 ^ 16 - 2 ^ k) (x : UInt16) :
    (x &&& m).toNat = x.toNat / 2 ^ k * 2 ^ k := by
  rw [UInt16.toNat_and, hm, and_two_pow_sub_two_pow hk x.toNat_lt]

/-- A prefix mask lowers exactly the ports that are not aligned to it. -/
theorem and_prefixMask_lt_iff {k : Nat} (hk : k ≤ 16) {m : UInt16}
    (hm : m.toNat = 2 ^ 16 - 2 ^ k) (x : UInt16) : x &&& m < x ↔ ¬ 2 ^ k ∣ x.toNat := by
  rw [UInt16.lt_iff_toNat_lt, toNat_and_prefixMask hk hm, Nat.dvd_iff_div_mul_eq]
  have := Nat.div_mul_le_self x.toNat (2 ^ k)
  omega

theorem and_prefixMask_of_dvd {k : Nat} (hk : k ≤ 16) {m : UInt16}
    (hm : m.toNat = 2 ^ 16 - 2 ^ k) {x : UInt16} (hx : 2 ^ k ∣ x.toNat) : x &&& m = x :=
  UInt16.toNat_inj.mp (by rw [toNat_and_prefixMask hk hm, Nat.div_mul_cancel hx])

/-- `bit <<= 1` and `testMask -= bit` move the bit and the mask of `2 ^ k` to those of
`2 ^ (k + 1)`. -/
theorem toNat_prefixMask_succ {k : Nat} (hk : k < 16) {m b : UInt16}
    (hm : m.toNat = 2 ^ 16 - 2 ^ k) (hb : b.toNat = 2 ^ k) :
    (b <<< 1).toNat = 2 ^ (k + 1) % 2 ^ 16 ∧ (m - b).toNat = 2 ^ 16 - 2 ^ (k + 1) := by
  have hpow : 2 ^ (k + 1) ≤ 2 ^ 16 := Nat.pow_le_pow_right (by decide) hk
  have hle : b ≤ m := UInt16.le_iff_toNat_le.mpr (by rw [hb, hm]; omega)
  constructor
  · rw [UInt16.toNat_shiftLeft, hb, show (1 : UInt16).toNat % 16 = 1 from rfl, Nat.shiftLeft_eq,
      Nat.pow_one, ← Nat.pow_succ]
  · rw [UInt16.toNat_sub_of_le _ _ hle, hm, hb, Nat.pow_succ]
    omega

/-- `maxPort` of a port aligned to the mask is the last port of its block. -/
theorem toNat_maxPort {k : Nat} (hk : k ≤ 16) {m : UInt16} (hm : m.toNat = 2 ^ 16 - 2 ^ k)
    {x : UInt16} (hx : 2 ^ k ∣ x.toNat) : (maxPort x m).toNat = x.toNat + 2 ^ k - 1 := by
  have hone := Nat.one_le_two_pow (n := k)
  have hand : (x &&& m).toNat = x.toNat := by rw [and_prefixMask_of_dvd hk hm hx]
  have hle : m ≤ 0xFFFF :=
    UInt16.le_iff_toNat_le.mpr (by rw [hm]; simp only [UInt16.reduceToNat]; omega)
  have hsub : ((0xFFFF : UInt16) - m).toNat = 2 ^ k - 1 := by
    rw [UInt16.toNat_sub_of_le _ _ hle, hm]
    have := Nat.pow_le_pow_right (n := 2) (by decide) hk
    simp only [UInt16.reduceToNat]
    omega
  have hfit := add_two_pow_le_of_dvd hx x.toNat_lt hk
  rw [maxPort, UInt16.toNat_add, hand, hsub, Nat.mod_eq_of_lt (by omega)]
  omega

/-! ## The loop of `portMask` -/

/-- What `portMask(port, end)` returns: the prefix mask of an aligned block at `port` that ends
by `end`, and is maximal when `port` is not `0`. -/
def MaskFits (port endPort mask : UInt16) : Prop :=
  ∃ k, mask.toNat = 2 ^ 16 - 2 ^ k ∧ 2 ^ k ∣ port.toNat ∧ port.toNat + 2 ^ k ≤ endPort.toNat + 1 ∧
    (0 < port.toNat → Maximal endPort.toNat (port.toNat, k))

/-- The state of the loop of `portMask(port, end)` before iteration `k`: `testMask` and `bit` are
those of `2 ^ k`, `netPort` is `port`, aligned to `2 ^ (k - 1)` with `maximumPort` the end of that
block, and `mask` is the mask of the last block that fit: that of `2 ^ (k - 1)` or, when that
block overran `end`, of `2 ^ (k - 2)`. -/
structure MaskInv (port endPort : UInt16) (k : Nat) (st : PortMaskState) : Prop where
  le : k ≤ 16
  bit : st.bit.toNat = 2 ^ k % 2 ^ 16
  testMask : st.testMask.toNat = 2 ^ 16 - 2 ^ k
  netPort : st.netPort = port
  maximumPort : st.maximumPort.toNat = port.toNat + 2 ^ (k - 1) - 1
  dvd : 2 ^ (k - 1) ∣ port.toNat
  mask : ∃ j, st.mask.toNat = 2 ^ 16 - 2 ^ j ∧ 2 ^ j ∣ port.toNat ∧
    port.toNat + 2 ^ j ≤ endPort.toNat + 1 ∧
    (j = k - 1 ∨ j + 2 = k ∧ endPort.toNat + 1 < port.toNat + 2 ^ (k - 1))

theorem portMaskStep_of_not {port endPort : UInt16} {st : PortMaskState}
    (h : ¬ (st.netPort > 0 ∧ st.maximumPort < endPort)) :
    portMaskStep port endPort st = .done st.mask := by
  rw [portMaskStep, if_neg h]

theorem portMaskStep_of_lt {port endPort : UInt16} {st : PortMaskState}
    (h : st.netPort > 0 ∧ st.maximumPort < endPort) (hlt : port &&& st.testMask < port) :
    portMaskStep port endPort st = .done st.mask := by
  rw [portMaskStep, if_pos h]
  exact if_pos hlt

theorem portMaskStep_of_not_lt {port endPort : UInt16} {st : PortMaskState}
    (h : st.netPort > 0 ∧ st.maximumPort < endPort) (hlt : ¬ port &&& st.testMask < port) :
    portMaskStep port endPort st = .next
      { bit := st.bit <<< 1,
        mask := if maxPort (port &&& st.testMask) st.testMask ≤ endPort then st.testMask
          else st.mask,
        testMask := st.testMask - st.bit, netPort := port &&& st.testMask,
        maximumPort := maxPort (port &&& st.testMask) st.testMask } := by
  rw [portMaskStep, if_pos h]
  exact if_neg hlt

/-- The loop returns the mask it kept once the block twice its size cannot be taken. -/
theorem maskFits_of_inv {port endPort mask : UInt16} {j : Nat}
    (hmask : mask.toNat = 2 ^ 16 - 2 ^ j) (hdvd : 2 ^ j ∣ port.toNat)
    (hfit : port.toNat + 2 ^ j ≤ endPort.toNat + 1)
    (hnot : ¬ (2 ^ (j + 1) ∣ port.toNat ∧ port.toNat + 2 ^ (j + 1) ≤ endPort.toNat + 1)) :
    MaskFits port endPort mask :=
  ⟨j, hmask, hdvd, hfit, fun _ => ⟨hdvd, hnot⟩⟩

/-- When the last block ended before `end`, the mask kept is the one of that block. -/
theorem MaskInv.mask_of_lt {port endPort : UInt16} {k : Nat} {st : PortMaskState}
    (hI : MaskInv port endPort k st) (hlt : port.toNat + 2 ^ (k - 1) ≤ endPort.toNat) :
    st.mask.toNat = 2 ^ 16 - 2 ^ (k - 1) ∧ port.toNat + 2 ^ (k - 1) ≤ endPort.toNat + 1 := by
  obtain ⟨j, hmask, -, hjfit, hj⟩ := hI.mask
  rcases hj with rfl | ⟨-, h⟩
  · exact ⟨hmask, hjfit⟩
  · omega

/-- **The invariant is kept.** When the last block ended before `end` and `port` is aligned to
`2 ^ k`, the state the loop continues from has the invariant at `k + 1`. -/
theorem MaskInv.next {port endPort : UInt16} (hp : 0 < port.toNat) {k : Nat}
    {st : PortMaskState} (hI : MaskInv port endPort k st)
    (hlt : port.toNat + 2 ^ (k - 1) ≤ endPort.toNat) (hdk : 2 ^ k ∣ port.toNat) :
    MaskInv port endPort (k + 1)
      { bit := st.bit <<< 1,
        mask := if maxPort (port &&& st.testMask) st.testMask ≤ endPort then st.testMask
          else st.mask,
        testMask := st.testMask - st.bit, netPort := port &&& st.testMask,
        maximumPort := maxPort (port &&& st.testMask) st.testMask } := by
  obtain ⟨hmask, hfit⟩ := hI.mask_of_lt hlt
  have hk16 : k < 16 := lt_of_two_pow_dvd hdk hp port.toNat_lt
  have hmaxP : (maxPort port st.testMask).toNat = port.toNat + 2 ^ k - 1 :=
    toNat_maxPort hI.le hI.testMask hdk
  have hbitk : st.bit.toNat = 2 ^ k := by
    rw [hI.bit, Nat.mod_eq_of_lt (Nat.pow_lt_pow_right (by decide) hk16)]
  obtain ⟨hbit', htm'⟩ := toNat_prefixMask_succ hk16 hI.testMask hbitk
  rw [and_prefixMask_of_dvd hI.le hI.testMask hdk]
  refine ⟨hk16, hbit', htm', rfl, ?_, hdk, ?_⟩
  · rw [hmaxP, Nat.add_sub_cancel]
  · -- the block of `2 ^ k` is kept when it ends by `end`
    by_cases hfitk : maxPort port st.testMask ≤ endPort
    · have := UInt16.le_iff_toNat_le.mp hfitk
      rw [hmaxP] at this
      exact ⟨k, by rw [if_pos hfitk, hI.testMask], hdk, by omega, Or.inl rfl⟩
    · have := UInt16.le_iff_toNat_le.not.mp hfitk
      rw [hmaxP] at this
      -- at `k = 0` the block of `2 ^ k` is the one that fit before
      have hk1 : 1 ≤ k := by
        by_contra h0
        have : k = 0 := by omega
        subst this
        simp at hlt this
        omega
      refine ⟨k - 1, by rw [if_neg hfitk, hmask], hI.dvd, hfit, Or.inr ⟨by omega, ?_⟩⟩
      show endPort.toNat + 1 < port.toNat + 2 ^ k
      omega

/-- **One iteration of `portMask`.** From a port above `0`, an iteration either returns the mask
of a maximal block, or tries the next block size. -/
theorem portMaskStep_spec {port endPort : UInt16} (hp : 0 < port.toNat) {k : Nat}
    {st : PortMaskState} (hI : MaskInv port endPort k st) :
    (∃ m, portMaskStep port endPort st = .done m ∧ MaskFits port endPort m) ∨
      ∃ st', portMaskStep port endPort st = .next st' ∧ MaskInv port endPort (k + 1) st' := by
  have hone := Nat.one_le_two_pow (n := k - 1)
  by_cases hcond : st.netPort > 0 ∧ st.maximumPort < endPort
  · -- the last block ended before `end`, so its mask is the one kept
    have hlt : port.toNat + 2 ^ (k - 1) ≤ endPort.toNat := by
      have := UInt16.lt_iff_toNat_lt.mp hcond.2
      rw [hI.maximumPort] at this
      omega
    by_cases hdk : 2 ^ k ∣ port.toNat
    · -- aligned to `2 ^ k`: the block of `2 ^ k` is tried
      right
      have hnlt : ¬ port &&& st.testMask < port := by
        rw [and_prefixMask_lt_iff hI.le hI.testMask]
        exact not_not.mpr hdk
      exact ⟨_, portMaskStep_of_not_lt hcond hnlt, hI.next hp hlt hdk⟩
    · -- not aligned to `2 ^ k`: the block of `2 ^ k` is not tried
      left
      obtain ⟨hmask, hfit⟩ := hI.mask_of_lt hlt
      have hand : port &&& st.testMask < port :=
        (and_prefixMask_lt_iff hI.le hI.testMask port).mpr hdk
      have hk1 : 1 ≤ k := by
        by_contra h0
        exact hdk (by rw [show k = 0 by omega]; exact Nat.one_dvd _)
      refine ⟨_, portMaskStep_of_lt hcond hand, maskFits_of_inv hmask hI.dvd hfit ?_⟩
      rw [Nat.sub_add_cancel hk1]
      exact fun h => hdk h.1
  · -- the last block reached `end`: the mask kept is returned
    left
    obtain ⟨j, hmask, hjdvd, hjfit, hj⟩ := hI.mask
    have hjone := Nat.one_le_two_pow (n := j)
    have hge : endPort.toNat + 1 ≤ port.toNat + 2 ^ (k - 1) := by
      rw [hI.netPort] at hcond
      have : ¬ st.maximumPort < endPort := fun h => hcond ⟨UInt16.lt_iff_toNat_lt.mpr hp, h⟩
      rw [UInt16.lt_iff_toNat_lt, hI.maximumPort] at this
      omega
    refine ⟨_, portMaskStep_of_not hcond, maskFits_of_inv hmask hjdvd hjfit ?_⟩
    rintro ⟨-, h⟩
    rw [Nat.pow_succ] at h
    rcases hj with rfl | ⟨hj2, hlt⟩
    · omega
    · have : k - 1 = j + 1 := by omega
      rw [this, Nat.pow_succ] at hlt
      omega

/-- **The loop of `portMask` returns.** From a state before iteration `k`, `17 - k` iterations
return the mask of a maximal block. -/
theorem run_portMaskStep {port endPort : UInt16} (hp : 0 < port.toNat) (n : Nat) :
    ∀ k st, MaskInv port endPort k st → 17 ≤ n + k →
      ∃ m, Loop.run (portMaskStep port endPort) n st = some (some m) ∧
        MaskFits port endPort m := by
  induction n with
  | zero =>
    intro k st hI hn
    have := hI.le
    omega
  | succ n ih =>
    intro k st hI hn
    rcases portMaskStep_spec hp hI with ⟨m, hdone, hm⟩ | ⟨st', hnext, hI'⟩
    · exact ⟨m, Loop.run_succ_done hdone n, hm⟩
    · rw [Loop.run_succ_next hnext]
      exact ih (k + 1) st' hI' (by omega)

/-- **`portMask(port, end)` returns the mask of a fitting block**, maximal when `port` is not
`0`; the port `0` gets the mask of itself alone. -/
theorem portMask_spec {port endPort : UInt16} (hle : port ≤ endPort) :
    ∃ m, portMask port endPort = some m ∧ MaskFits port endPort m := by
  have hle' := UInt16.le_iff_toNat_le.mp hle
  have hand : port &&& 0xFFFF = port :=
    UInt16.toNat_inj.mp (by rw [toNat_and_prefixMask (k := 0) (by decide) rfl]; simp)
  by_cases hp : port.toNat = 0
  · -- `netPort` is `0`: the loop does not run
    have h0 : port = 0 := UInt16.toNat_inj.mp hp
    subst h0
    refine ⟨0xFFFF, ?_, 0, rfl, Nat.dvd_zero _, by simp, fun h => absurd h (by decide)⟩
    rw [portMask, Loop.run_succ_done (portMaskStep_of_not fun h => absurd h.1 (by decide))]
    rfl
  · obtain ⟨m, hrun, hm⟩ := run_portMaskStep (Nat.pos_of_ne_zero hp) 17 0
      { bit := 1, mask := 0xFFFF, testMask := 0xFFFF, netPort := port &&& 0xFFFF,
        maximumPort := maxPort (port &&& 0xFFFF) 0xFFFF }
      ⟨by decide, rfl, rfl, hand,
        by rw [hand, toNat_maxPort (k := 0) (by decide) rfl (Nat.one_dvd _)],
        Nat.one_dvd _, 0, rfl, Nat.one_dvd _, by simpa using hle', Or.inl rfl⟩ (by decide)
    exact ⟨m, by rw [portMask, hrun]; rfl, hm⟩

/-! ## The loop over the range -/

/-- The rule of a block `(q, k)`: the port `q` and the prefix mask of `2 ^ k`. -/
def ruleOfBlock (b : Nat × Nat) : PortRangeTernaryRule :=
  ⟨UInt16.ofNat b.1, UInt16.ofNat (2 ^ 16 - 2 ^ b.2)⟩

theorem toNat_ruleOfBlock_mask (b : Nat × Nat) :
    (ruleOfBlock b).mask.toNat = 2 ^ 16 - 2 ^ b.2 := by
  have hone := Nat.one_le_two_pow (n := b.2)
  rw [ruleOfBlock, UInt16.toNat_ofNat', Nat.mod_eq_of_lt (by omega)]

theorem toNat_ruleOfBlock_port {b : Nat × Nat} (hb : b.1 < 2 ^ 16) :
    (ruleOfBlock b).port.toNat = b.1 := by
  rw [ruleOfBlock, UInt16.toNat_ofNat', Nat.mod_eq_of_lt hb]

/-- A block inside the port numbers has at most `2 ^ 16` ports. -/
theorem exponent_le_of_block {b : Nat × Nat} (hend : b.1 + 2 ^ b.2 ≤ 2 ^ 16) : b.2 ≤ 16 :=
  (Nat.pow_le_pow_iff_right (a := 2) (by decide)).mp (by omega)

theorem ruleOfBlock_eq {port : UInt32} {m : UInt16} {k : Nat} (hm : m.toNat = 2 ^ 16 - 2 ^ k) :
    ruleOfBlock (port.toNat, k) = ⟨port.toUInt16, m⟩ := by
  have hmask : (ruleOfBlock (port.toNat, k)).mask = m :=
    UInt16.toNat_inj.mp (by rw [toNat_ruleOfBlock_mask, hm])
  rw [← hmask]
  rfl

/-- **The loop over the range tiles it greedily.** From a start at most one past `high`, with
enough iterations, the loop appends the rules of a tiling of `[port, high]` by aligned blocks,
each maximal but one at `0`. -/
theorem ternaryRules_spec (high : UInt16) (fuel : Nat) :
    ∀ (port : UInt32) (rules : List PortRangeTernaryRule), port.toNat ≤ high.toNat + 1 →
      high.toNat + 2 ≤ port.toNat + fuel →
      ∃ bs, ternaryRules high fuel port rules = .ok (rules ++ bs.map ruleOfBlock) ∧
        Tiles port.toNat high.toNat bs ∧
        ∀ b ∈ bs, 2 ^ b.2 ∣ b.1 ∧ (0 < b.1 → Maximal high.toNat b) := by
  induction fuel with
  | zero =>
    intro port rules hport hfuel
    omega
  | succ fuel ih =>
    intro port rules hport hfuel
    have hhigh := high.toNat_lt
    by_cases hle : port ≤ high.toUInt32
    · have hP : port.toNat ≤ high.toNat := by
        have := UInt32.le_iff_toNat_le.mp hle
        rwa [UInt16.toNat_toUInt32] at this
      have h16 : port.toUInt16.toNat = port.toNat := by
        rw [UInt32.toNat_toUInt16, Nat.mod_eq_of_lt (by omega)]
      obtain ⟨m, hmask, k, hm, hdvd, hfit, hmax⟩ :=
        portMask_spec (UInt16.le_iff_toNat_le.mpr (by rw [h16]; exact hP) : port.toUInt16 ≤ high)
      rw [h16] at hdvd hfit hmax
      have hk : k ≤ 16 := exponent_le_of_block (b := (port.toNat, k))
        (show port.toNat + 2 ^ k ≤ 2 ^ 16 by have : 2 ^ 16 = 65536 := rfl; omega)
      -- the next start is the port after the block
      have hnext : ((maxPort port.toUInt16 m).toUInt32 + 1).toNat = port.toNat + 2 ^ k := by
        have hone := Nat.one_le_two_pow (n := k)
        rw [UInt32.toNat_add, UInt16.toNat_toUInt32, toNat_maxPort hk hm (by rw [h16]; exact hdvd),
          h16]
        simp only [UInt32.reduceToNat]
        omega
      obtain ⟨bs, hrun, htiles, hbs⟩ := ih _ (rules ++ [⟨port.toUInt16, m⟩])
        (by rw [hnext]; exact hfit) (by rw [hnext]; have := Nat.one_le_two_pow (n := k); omega)
      rw [hnext] at htiles
      refine ⟨(port.toNat, k) :: bs, ?_, ⟨rfl, htiles⟩, ?_⟩
      · rw [ternaryRules, if_pos hle, hmask]
        simp only
        rw [hrun, List.map_cons, ruleOfBlock_eq hm, List.append_assoc, List.singleton_append]
      · rintro b (_ | ⟨_, hb⟩)
        · exact ⟨hdvd, hmax⟩
        · exact hbs b hb
    · -- past `high`: the range is tiled
      have hP : high.toNat < port.toNat := by
        have := UInt32.le_iff_toNat_le.not.mp hle
        rw [UInt16.toNat_toUInt32] at this
        omega
      refine ⟨[], ?_, show port.toNat = high.toNat + 1 by omega, by simp⟩
      rw [ternaryRules, if_neg hle, List.map_nil, List.append_nil]

/-! ## The rules of a range -/

/-- The ports the rule of an aligned block matches are those of the block. -/
theorem matches_ruleOfBlock {b : Nat × Nat} (hdvd : 2 ^ b.2 ∣ b.1) (hend : b.1 + 2 ^ b.2 ≤ 2 ^ 16)
    (p : UInt16) : (ruleOfBlock b).Matches p ↔ b.1 ≤ p.toNat ∧ p.toNat < b.1 + 2 ^ b.2 := by
  have hone := Nat.one_le_two_pow (n := b.2)
  unfold PortRangeTernaryRule.Matches
  rw [← UInt16.toNat_inj,
    toNat_and_prefixMask (exponent_le_of_block hend) (toNat_ruleOfBlock_mask b),
    toNat_ruleOfBlock_port (by omega), div_mul_eq_iff hdvd]

/-- **The rules of a tiling cover it.** The rules of a tiling of `[p, hi]` by aligned blocks of
port numbers are prefix masks over their ports, and their sets of ports are disjoint, with
`[p, hi]` as their union. -/
theorem rulesOfTiles_cover {p hi : Nat} {bs : List (Nat × Nat)} (htiles : Tiles p hi bs)
    (hdvd : ∀ b ∈ bs, 2 ^ b.2 ∣ b.1) (hhi : hi < 2 ^ 16) :
    (∀ r ∈ bs.map ruleOfBlock, ∃ k ≤ 16, ∀ i < 16, r.mask.toNat.testBit i = decide (k ≤ i)) ∧
      (∀ r ∈ bs.map ruleOfBlock, r.port &&& r.mask = r.port) ∧
      (bs.map ruleOfBlock).Pairwise (fun r s => ∀ q, ¬ (r.Matches q ∧ s.Matches q)) ∧
      ∀ q : UInt16, (∃ r ∈ bs.map ruleOfBlock, r.Matches q) ↔ p ≤ q.toNat ∧ q.toNat ≤ hi := by
  -- each block is aligned and ends in the port numbers
  have hblock : ∀ b ∈ bs, 2 ^ b.2 ∣ b.1 ∧ b.1 + 2 ^ b.2 ≤ 2 ^ 16 := fun b hb =>
    ⟨hdvd b hb, by have := htiles.end_le b hb; omega⟩
  refine ⟨?_, ?_, ?_, fun q => ?_⟩
  · -- the mask of `2 ^ k` has ones from bit `k` on
    simp only [List.mem_map]
    rintro _ ⟨b, hb, rfl⟩
    have hk := exponent_le_of_block (hblock b hb).2
    refine ⟨b.2, hk, fun i hi16 => ?_⟩
    rw [toNat_ruleOfBlock_mask, testBit_two_pow_sub_two_pow hk]
    simp [hi16]
  · simp only [List.mem_map]
    rintro _ ⟨b, hb, rfl⟩
    have hone := Nat.one_le_two_pow (n := b.2)
    have hend := (hblock b hb).2
    refine (matches_ruleOfBlock (hblock b hb).1 hend (ruleOfBlock b).port).mpr ?_
    rw [toNat_ruleOfBlock_port (by omega)]
    omega
  · -- each block ends before the next ones start
    rw [List.pairwise_map]
    refine htiles.pairwise.imp_of_mem fun {b c} hb hc hbc q ⟨hqb, hqc⟩ => ?_
    rw [matches_ruleOfBlock (hblock b hb).1 (hblock b hb).2] at hqb
    rw [matches_ruleOfBlock (hblock c hc).1 (hblock c hc).2] at hqc
    omega
  · rw [htiles.mem_iff]
    simp only [List.mem_map, exists_exists_and_eq_and]
    exact exists_congr fun b => and_congr_right fun hb =>
      matches_ruleOfBlock (hblock b hb).1 (hblock b hb).2 q

/-- A range with `low < high` that is not the wildcard goes to the loop of the `Ternary`
strategy. -/
theorem asComplexTernaryMatches_ternary_eq (pr : PortRange) (hlt : pr.low < pr.high)
    (hwild : ¬ (pr.low = 0 ∧ pr.high = 65535)) :
    pr.asComplexTernaryMatches .ternary =
      (ternaryRules pr.high 65536 pr.low.toUInt32 []).map .ok := by
  have hlt' := UInt16.lt_iff_toNat_lt.mp hlt
  have hexact : pr.isExactMatch = false := by
    have hne : pr.low ≠ pr.high := fun h => by rw [h] at hlt'; exact Nat.lt_irrefl _ hlt'
    simp [PortRange.isExactMatch, hne]
  have hwildcard : pr.isWildcardMatch = false := by
    have hne : pr.high ≠ 0 := fun h => by rw [h] at hlt'; simp at hlt'
    simp only [PortRange.isWildcardMatch, Bool.or_eq_false_iff, Bool.and_eq_false_iff,
      beq_eq_false_iff_ne]
    exact ⟨by tauto, Or.inr hne⟩
  rw [PortRange.asComplexTernaryMatches, hexact, hwildcard]
  simp only [Bool.false_eq_true, if_false]

/-- **The `Ternary` strategy covers a range with prefix rules.** -/
theorem asComplexTernaryMatches_ternary_cover (pr : PortRange) (hlt : pr.low < pr.high)
    (hwild : ¬ (pr.low = 0 ∧ pr.high = 65535)) :
    ∃ rules, pr.asComplexTernaryMatches .ternary = .ok (.ok rules) ∧
      (∀ r ∈ rules, ∃ k ≤ 16, ∀ i < 16, r.mask.toNat.testBit i = decide (k ≤ i)) ∧
      (∀ r ∈ rules, r.port &&& r.mask = r.port) ∧
      rules.Pairwise (fun r s => ∀ p, ¬ (r.Matches p ∧ s.Matches p)) ∧
      (∀ p, (∃ r ∈ rules, r.Matches p) ↔ pr.low ≤ p ∧ p ≤ pr.high) ∧
      rules.length ≤ 32 := by
  have hlt' := UInt16.lt_iff_toNat_lt.mp hlt
  have hhigh := pr.high.toNat_lt
  -- the loop has the iterations it needs: the range has at most `65535` ports
  have hfuel : pr.high.toNat + 2 ≤ pr.low.toUInt32.toNat + 65536 := by
    rw [UInt16.toNat_toUInt32]
    by_cases h0 : pr.low = 0
    · have : pr.high ≠ 65535 := fun h => hwild ⟨h0, h⟩
      have : pr.high.toNat ≠ 65535 := fun h => this (UInt16.toNat_inj.mp h)
      omega
    · have : pr.low.toNat ≠ 0 := fun h => h0 (UInt16.toNat_inj.mp h)
      omega
  obtain ⟨bs, hrun, htiles, hbs⟩ :=
    ternaryRules_spec pr.high 65536 pr.low.toUInt32 [] (by rw [UInt16.toNat_toUInt32]; omega) hfuel
  rw [UInt16.toNat_toUInt32] at htiles
  obtain ⟨hmask, hport, hdisj, hcover⟩ :=
    rulesOfTiles_cover htiles (fun b hb => (hbs b hb).1) hhigh
  refine ⟨bs.map ruleOfBlock, ?_, hmask, hport, hdisj, fun p => ?_, ?_⟩
  · rw [asComplexTernaryMatches_ternary_eq pr hlt hwild, hrun, List.nil_append]
    rfl
  · rw [UInt16.le_iff_toNat_le, UInt16.le_iff_toNat_le]
    exact hcover p
  · rw [List.length_map]
    exact length_le_of_tiles htiles (fun b hb => (hbs b hb).2) hhigh (by decide)

theorem asComplexTernaryMatches_ternary_cover_oneToSix :
    ∃ rules, ({ low := 1, high := 6 } : PortRange).asComplexTernaryMatches .ternary =
      .ok (.ok rules) ∧ rules.length ≤ 32 := by
  obtain ⟨rules, h, -, -, -, -, hlen⟩ :=
    asComplexTernaryMatches_ternary_cover { low := 1, high := 6 } (by decide) (by decide)
  exact ⟨rules, h, hlen⟩

/-- The range `[1, 6]`: the blocks `[1]`, `[2, 3]`, `[4, 5]` and `[6]`, the sizes growing with the
alignment of their start, then shrinking to end at `6`. -/
example : ({ low := 1, high := 6 } : PortRange).asComplexTernaryMatches .ternary =
    .ok (.ok [⟨1, 65535⟩, ⟨2, 65534⟩, ⟨4, 65534⟩, ⟨6, 65535⟩]) := by decide

end Pfcpiface
