import OmecUpf.Pfcpiface.Upf

/-!
# Slice rates from the configuration service

`handleSliceConfig` (`web_service.go`) turns the slice configuration posted to the agent into
the `SliceInfo` it gives the datapath through `upf.addSliceInfo`. Each maximum bit rate is
scaled by the unit of the configuration in `calculateBitRates`: `bps` is returned as it is, and
the other units multiply in Go's `int64`, which wraps, with a product that is not positive taken
for an overflow and replaced by `math.MaxInt64`.

* `NetworkSlice`, `SliceInfo`, `calculateBitRates`, `handleSliceConfig`.
* `toNat_calculateBitRates_of_lt`: a positive product below `2 ^ 63` is the scaled rate.
* `calculateBitRates_zero`: a rate of `0` in any unit but `bps` becomes `math.MaxInt64`.
* **`handleSliceConfig_rates_diverge`**: the rates handed to the datapath are not
  `min(rate * unit, 2 ^ 63 - 1)`: a rate of `0`, a product that wraps to a positive value, and a
  `bps` rate above `2 ^ 63 - 1` each give another value.
-/

namespace Pfcpiface

/-- `KB`, `MB`, `GB`: the scale of a rate in `Kbps`, `Mbps` and `Gbps`. -/
def KB : Int64 := 1000
def MB : Int64 := 1000000
def GB : Int64 := 1000000000

/-- `SliceQos`: the slice level rates of the configuration. -/
structure SliceQos where
  uplinkMbr : UInt64
  downlinkMbr : UInt64
  bitrateUnit : String
  ulBurstBytes : UInt64
  dlBurstBytes : UInt64
  deriving DecidableEq, Repr

/-- `UeResInfo`: a UE pool and its DNN. -/
structure UeResInfo where
  dnn : String
  name : String
  deriving DecidableEq, Repr

/-- `NetworkSlice`, as the configuration service decodes it. -/
structure NetworkSlice where
  sliceName : String
  sliceQos : SliceQos
  ueResInfo : List UeResInfo
  deriving DecidableEq, Repr

structure UeResource where
  name : String
  dnn : String
  deriving DecidableEq, Repr

/-- `SliceInfo`, what the datapath is given. -/
structure SliceInfo where
  name : String
  uplinkMbr : UInt64
  downlinkMbr : UInt64
  ulBurstBytes : UInt64
  dlBurstBytes : UInt64
  ueResList : List UeResource
  deriving DecidableEq, Repr

/-- `calculateBitRates(mbr, rate)`: `Mbps` is also the unit of any other text. -/
def calculateBitRates (mbr : UInt64) (rate : String) : UInt64 :=
  if rate = "bps" then mbr
  else
    let val : Int64 :=
      if rate = "Kbps" then mbr.toInt64 * KB
      else if rate = "Gbps" then mbr.toInt64 * GB
      else mbr.toInt64 * MB
    if val > 0 then val.toUInt64 else Int64.maxValue.toUInt64

/-- `handleSliceConfig(nwSlice, upf)`: the `SliceInfo` it passes to `upf.addSliceInfo`, which
stores it and hands it to the datapath. -/
def handleSliceConfig (nwSlice : NetworkSlice) : SliceInfo :=
  { name := nwSlice.sliceName,
    uplinkMbr := calculateBitRates nwSlice.sliceQos.uplinkMbr nwSlice.sliceQos.bitrateUnit,
    downlinkMbr := calculateBitRates nwSlice.sliceQos.downlinkMbr nwSlice.sliceQos.bitrateUnit,
    ulBurstBytes := nwSlice.sliceQos.ulBurstBytes,
    dlBurstBytes := nwSlice.sliceQos.dlBurstBytes,
    ueResList := nwSlice.ueResInfo.map fun ueRes => ⟨ueRes.name, ueRes.dnn⟩ }

/-! ## The scaled rates -/

/-- The bits per second of one unit of a rate: `1` for `bps`, `10 ^ 3` for `Kbps`, `10 ^ 9` for
`Gbps`, and `10 ^ 6` for `Mbps`, the unit `calculateBitRates` takes any other text for. -/
def bitrateScale (rate : String) : Nat :=
  if rate = "bps" then 1
  else if rate = "Kbps" then 1000
  else if rate = "Gbps" then 1000000000
  else 1000000

/-- The constant `calculateBitRates` multiplies by, for a unit other than `bps`. -/
def unitConst (rate : String) : Int64 :=
  if rate = "Kbps" then KB else if rate = "Gbps" then GB else MB

theorem toInt_unitConst {rate : String} (h : rate ≠ "bps") :
    (unitConst rate).toInt = bitrateScale rate := by
  unfold unitConst bitrateScale
  rw [if_neg h]
  split_ifs <;> rfl

theorem calculateBitRates_of_ne_bps {mbr : UInt64} {rate : String} (h : rate ≠ "bps") :
    calculateBitRates mbr rate =
      if mbr.toInt64 * unitConst rate > 0 then (mbr.toInt64 * unitConst rate).toUInt64
      else Int64.maxValue.toUInt64 := by
  unfold calculateBitRates unitConst
  rw [if_neg h]
  dsimp only
  split_ifs <;> rfl

theorem toInt_toInt64 {x : UInt64} (h : x.toNat < 2 ^ 63) : x.toInt64.toInt = x.toNat := by
  show x.toBitVec.toInt = x.toBitVec.toNat
  exact BitVec.toInt_eq_toNat_of_lt (by rw [UInt64.toNat_toBitVec]; omega)

theorem toNat_toUInt64 {v : Int64} (h : 0 ≤ v.toInt) : (v.toUInt64.toNat : Int) = v.toInt := by
  show (v.toBitVec.toNat : Int) = v.toBitVec.toInt
  have hcond := BitVec.toInt_eq_toNat_cond v.toBitVec
  have hlt := v.toBitVec.isLt
  change 0 ≤ v.toBitVec.toInt at h
  split at hcond <;> omega

/-- **A product that fits is the scaled rate.** When the rate times its scale is positive and
below `2 ^ 63`, `calculateBitRates` returns it. -/
theorem toNat_calculateBitRates_of_lt {mbr : UInt64} {rate : String}
    (hpos : 0 < mbr.toNat * bitrateScale rate) (hlt : mbr.toNat * bitrateScale rate < 2 ^ 63) :
    (calculateBitRates mbr rate).toNat = mbr.toNat * bitrateScale rate := by
  by_cases hbps : rate = "bps"
  · simp [calculateBitRates, bitrateScale, hbps]
  · have hscale : 1 ≤ bitrateScale rate := by
      unfold bitrateScale
      split_ifs <;> omega
    have hmbr : mbr.toNat < 2 ^ 63 := by
      calc mbr.toNat ≤ mbr.toNat * bitrateScale rate := Nat.le_mul_of_pos_right _ hscale
        _ < 2 ^ 63 := hlt
    -- the `int64` product does not wrap
    have hval : (mbr.toInt64 * unitConst rate).toInt = (mbr.toNat * bitrateScale rate : Nat) := by
      rw [Int64.toInt_mul, toInt_toInt64 hmbr, toInt_unitConst hbps]
      push_cast
      exact Int.bmod_eq_of_le (by omega) (by omega)
    have hgt : mbr.toInt64 * unitConst rate > 0 := by
      rw [gt_iff_lt, Int64.lt_iff_toInt_lt, hval, Int64.toInt_zero]
      exact_mod_cast hpos
    rw [calculateBitRates_of_ne_bps hbps, if_pos hgt]
    have hnat := toNat_toUInt64 (le_of_lt (Int64.lt_iff_toInt_lt.mp hgt))
    rw [hval] at hnat
    exact_mod_cast hnat

/-- A rate of `0` in a unit other than `bps` is a product of `0`, taken for an overflow. -/
theorem calculateBitRates_zero {rate : String} (h : rate ≠ "bps") :
    calculateBitRates 0 rate = Int64.maxValue.toUInt64 := by
  rw [calculateBitRates_of_ne_bps h, if_neg]
  show ¬ (0 : Int64) < 0 * unitConst rate
  rw [Int64.zero_mul]
  decide

/-! ## Rates the datapath is handed -/

/-- A slice of `18446744073710 Mbps` both ways: the product, about `1.8 * 10 ^ 19`, is above
`2 ^ 64` and wraps to `448384`. -/
def wrappingSlice : NetworkSlice :=
  ⟨"slice", ⟨18446744073710, 18446744073710, "Mbps", 0, 0⟩, []⟩

/-- **The rates handed to the datapath are not `min(rate * unit, 2 ^ 63 - 1)`.** A rate of `0` in
any unit but `bps` is handed over as `2 ^ 63 - 1`; a rate in `bps` is handed over as it is, also
above `2 ^ 63 - 1`; and a product of `2 ^ 63` or more can wrap to a small positive rate. -/
theorem handleSliceConfig_rates_diverge :
    (∀ nwSlice : NetworkSlice, nwSlice.sliceQos.bitrateUnit ≠ "bps" →
      nwSlice.sliceQos.uplinkMbr = 0 →
        (handleSliceConfig nwSlice).uplinkMbr.toNat = 2 ^ 63 - 1) ∧
    (∀ nwSlice : NetworkSlice, nwSlice.sliceQos.bitrateUnit = "bps" →
      (handleSliceConfig nwSlice).uplinkMbr = nwSlice.sliceQos.uplinkMbr) ∧
    ((handleSliceConfig wrappingSlice).uplinkMbr.toNat = 448384 ∧
      2 ^ 63 ≤ wrappingSlice.sliceQos.uplinkMbr.toNat * bitrateScale "Mbps") := by
  refine ⟨?_, ?_, by decide, by decide⟩
  · intro nwSlice hunit hzero
    show (calculateBitRates nwSlice.sliceQos.uplinkMbr nwSlice.sliceQos.bitrateUnit).toNat = _
    rw [hzero, calculateBitRates_zero hunit]
    rfl
  · intro nwSlice hbps
    show calculateBitRates nwSlice.sliceQos.uplinkMbr nwSlice.sliceQos.bitrateUnit = _
    rw [calculateBitRates, if_pos hbps]

theorem handleSliceConfig_rates_diverge_zeroRate :
    (handleSliceConfig ⟨"slice", ⟨0, 0, "Mbps", 0, 0⟩, []⟩).uplinkMbr.toNat = 2 ^ 63 - 1 :=
  handleSliceConfig_rates_diverge.1 ⟨"slice", ⟨0, 0, "Mbps", 0, 0⟩, []⟩ (by decide) rfl

end Pfcpiface
