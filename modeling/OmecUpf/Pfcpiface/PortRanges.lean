import OmecUpf.Pfcpiface.ParseSdf

/-!
# Port ranges as ternary rules

A datapath that matches ports by value and mask needs a port range as a set of ternary rules
(`parse_pdr.go`). `PortRange` overloads its zero value: `{0, 0}` is the wildcard, as is
`{0, 65535}`, so a range is exact when its two ends agree and are not `0`, and a range match
otherwise. `asComplexTernaryMatches` turns a range into rules, one exact rule per port
(`Exact`) or a prefix cover (`Ternary`); `CreatePortRangeCartesianProduct` pairs the rules of a
source and a destination range, of which at most one may be a range match.

* `PortRangeTernaryRule`, `PortRangeTernaryCartesianProduct`, their `Matches`.
* `PortRange.width`, `asExactMatchUnchecked`, `asTrivialTernaryMatch`,
  `asComplexTernaryMatches` (the `Ternary` strategy with a bound on its loops),
  `CreatePortRangeCartesianProduct`.
* `PortRange.Contains`: the ports a range stands for, its zero value being every port.
* **`port_zero_matches_every_port`**: the port `0` of a flow description parses to `{0, 0}`,
  whose rule matches every port.
-/

namespace Pfcpiface

open Go

/-- `portRangeTernaryRule`. -/
structure PortRangeTernaryRule where
  port : UInt16
  mask : UInt16
  deriving DecidableEq, Repr

/-- `portRangeTernaryCartesianProduct`. -/
structure PortRangeTernaryCartesianProduct where
  srcPort : UInt16
  srcMask : UInt16
  dstPort : UInt16
  dstMask : UInt16
  deriving DecidableEq, Repr

/-- A port matches a ternary rule when its masked bits are the rule's port. -/
def PortRangeTernaryRule.Matches (r : PortRangeTernaryRule) (p : UInt16) : Prop :=
  p &&& r.mask = r.port

/-- A pair of ports matches a product rule when each matches its half. -/
def PortRangeTernaryCartesianProduct.Matches (r : PortRangeTernaryCartesianProduct)
    (s d : UInt16) : Prop :=
  s &&& r.srcMask = r.srcPort ∧ d &&& r.dstMask = r.dstPort

instance (r : PortRangeTernaryCartesianProduct) (s d : UInt16) : Decidable (r.Matches s d) :=
  inferInstanceAs (Decidable (_ ∧ _))

namespace PortRange

/-- `pr.String()`, as `%v` prints it in error texts. -/
def toText (pr : PortRange) : String :=
  "\x7b" ++ toString pr.low ++ "-" ++ toString pr.high ++ "\x7d"

/-- `Width()`: the number of ports, with the wildcard at `MaxUint16`. -/
def width (pr : PortRange) : UInt16 :=
  if pr.isWildcardMatch then 65535 else pr.high - pr.low + 1

def asExactMatchUnchecked (pr : PortRange) : PortRangeTernaryRule := ⟨pr.low, 0xFFFF⟩

/-- `asTrivialTernaryMatch()`: the wildcard as mask `0`, an exact range as its port. -/
def asTrivialTernaryMatch (pr : PortRange) : Except Error PortRangeTernaryRule :=
  if pr.isWildcardMatch then .ok ⟨0, 0⟩
  else if pr.isExactMatch then .ok pr.asExactMatchUnchecked
  else .error (.invalidArgumentWithReason "asTrivialTernaryMatch" pr.toText
    "not trivially convertible")

end PortRange

/-- `RangeConversionStrategy`: `Exact` and `Ternary`, the two constants of the type. -/
inductive RangeConversionStrategy where
  | exact
  | ternary
  deriving DecidableEq, Repr

/-- `maxPort(port, mask)`: the largest port with the masked bits of `port`. -/
def maxPort (port mask : UInt16) : UInt16 := (port &&& mask) + (0xFFFF - mask)

/-- The state of the loop of `portMask`: `bit`, `mask`, `testMask`, `netPort`, `maximumPort`. -/
structure PortMaskState where
  bit : UInt16
  mask : UInt16
  testMask : UInt16
  netPort : UInt16
  maximumPort : UInt16
  deriving DecidableEq, Repr

/-- One iteration of `for netPort > 0 && maximumPort < end` in `portMask(port, end)`, its
condition first. -/
def portMaskStep (port endPort : UInt16) (st : PortMaskState) : Loop.Step PortMaskState UInt16 :=
  if st.netPort > 0 ∧ st.maximumPort < endPort then
    let netPort := port &&& st.testMask
    if netPort < port then .done st.mask
    else
      let maximumPort := maxPort netPort st.testMask
      let mask := if maximumPort ≤ endPort then st.testMask else st.mask
      .next { bit := st.bit <<< 1, mask, testMask := st.testMask - st.bit, netPort, maximumPort }
  else .done st.mask

/-- `portMask(port, end)`, its loop given 17 iterations: one per bit of `testMask`, and the
last test. -/
def portMask (port endPort : UInt16) : Option UInt16 :=
  (Loop.run (portMaskStep port endPort) 17
    { bit := 1, mask := 0xFFFF, testMask := 0xFFFF, netPort := port &&& 0xFFFF,
      maximumPort := maxPort (port &&& 0xFFFF) 0xFFFF }).join

/-- The loop `for port <= uint32(pr.high)` of the `Ternary` strategy, with at most `fuel`
iterations: the rule for `port`, then on from the port after the last one it covers. -/
def ternaryRules (high : UInt16) : Nat → UInt32 → List PortRangeTernaryRule →
    Except Abort (List PortRangeTernaryRule)
  | 0, _, _ => .error .diverge
  | fuel + 1, port, rules =>
    if port ≤ high.toUInt32 then
      match portMask port.toUInt16 high with
      | none => .error .diverge
      | some mask =>
        ternaryRules high fuel ((maxPort port.toUInt16 mask).toUInt32 + 1)
          (rules ++ [⟨port.toUInt16, mask⟩])
    else .ok rules

namespace PortRange

/-- `asComplexTernaryMatches(strategy)`. The `Exact` strategy lists the ports of the range, up
to 100 of them; the `Ternary` strategy runs its loops for at most `65536` rules. -/
def asComplexTernaryMatches (pr : PortRange) (strategy : RangeConversionStrategy) :
    Except Abort (Except Error (List PortRangeTernaryRule)) :=
  if pr.isExactMatch then .ok (.ok [pr.asExactMatchUnchecked])
  else if pr.isWildcardMatch then .ok (.ok [⟨0, 0⟩])
  else
    match strategy with
    | .exact =>
      if pr.width > 100 then
        .ok (.error (.invalidArgumentWithReason "asComplexTernaryMatches" pr.toText
          "port range too wide for exact match strategy"))
      else
        .ok (.ok ((List.range (pr.high.toNat + 1 - pr.low.toNat)).map fun k =>
          ⟨UInt16.ofNat (pr.low.toNat + k), 0xFFFF⟩))
    | .ternary => (ternaryRules pr.high 65536 pr.low.toUInt32 []).map .ok

/-- The ports a range stands for: `[low, high]`, and every port for the zero value. -/
def Contains (pr : PortRange) (p : UInt16) : Prop :=
  pr = {} ∨ pr.low ≤ p ∧ p ≤ pr.high

end PortRange

/-- `CreatePortRangeCartesianProduct(src, dst)`: the rules of the range match on one side,
each with the trivial rule of the other side. -/
def CreatePortRangeCartesianProduct (src dst : PortRange) :
    Except Abort (Except Error (List PortRangeTernaryCartesianProduct)) :=
  if src.isRangeMatch && dst.isRangeMatch then
    .ok (.error (.invalidArgumentWithReason "CreatePortRangeCartesianProduct" src.toText
      "src and dst ports cannot both be a range match"))
  else if src.isRangeMatch then do
    match ← src.asComplexTernaryMatches .exact with
    | .error e => pure (.error e)
    | .ok srcTernaryRules =>
      match dst.asTrivialTernaryMatch with
      | .error e => pure (.error e)
      | .ok dstTernary =>
        pure (.ok (srcTernaryRules.map fun r => ⟨r.port, r.mask, dstTernary.port, dstTernary.mask⟩))
  else if dst.isRangeMatch then do
    match ← dst.asComplexTernaryMatches .exact with
    | .error e => pure (.error e)
    | .ok dstTernaryRules =>
      match src.asTrivialTernaryMatch with
      | .error e => pure (.error e)
      | .ok srcTernary =>
        pure (.ok (dstTernaryRules.map fun r => ⟨srcTernary.port, srcTernary.mask, r.port, r.mask⟩))
  else
    match src.asTrivialTernaryMatch, dst.asTrivialTernaryMatch with
    | .ok srcTernary, .ok dstTernary =>
      .ok (.ok [⟨srcTernary.port, srcTernary.mask, dstTernary.port, dstTernary.mask⟩])
    | .error e, _ => .ok (.error e)
    | _, .error e => .ok (.error e)

/-- **The port `0` stands for every port.** A flow description's port `0` parses to the zero
value `{0, 0}`, a wildcard: its product with the wildcard destination is the one rule of mask
`0`, which matches every pair of ports, while the description names source port `0` only. -/
theorem port_zero_matches_every_port :
    parsePort "0".toList = .ok {} ∧
      CreatePortRangeCartesianProduct {} newWildcardPortRange = .ok (.ok [⟨0, 0, 0, 0⟩]) ∧
      ∀ s d : UInt16, PortRangeTernaryCartesianProduct.Matches ⟨0, 0, 0, 0⟩ s d := by
  refine ⟨by decide, by decide, fun s d => ⟨UInt16.and_zero, UInt16.and_zero⟩⟩

end Pfcpiface
