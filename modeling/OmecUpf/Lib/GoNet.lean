import Mathlib
import OmecUpf.Lib.GoText

/-!
# Go's `net.ParseCIDR`

`net.ParseCIDR` cuts the string at its first `/`, parses the address with `netip.ParseAddr`
(dotted-decimal IPv4, or IPv6 with `::` and an optional embedded IPv4 tail; a zone makes it
fail) and the prefix length with `dtoi`, and returns the network as the address masked by
`CIDRMask`.

* `parseIPv4`: `parseIPv4Fields`, four decimal fields of at most `255`, no leading zeros.
* `hexGroup`, `ipv6Loop`, `parseIPv6`: the IPv6 parser of `net/netip`, its loop run for its eight
  16-bit groups.
* `parseAddr`, `cidrMask`, `ipMask`, `parseCIDR`: the network returned as `IPNet`.
* `ipv4String`: `net.IP.String` of a 4-byte address.
* `to4`, `networkNumberAndMask`, `IPNet.contains`: `IP.To4`, and `IPNet.Contains`, which
  compares an address with the network in its 4-byte form when both have one.
* `parseIPv4_ipv4String`, `parseCIDR_ipv4String`: the address `IP.String` writes is read back,
  alone or with a prefix length; the scan of each field is `ipv4Scan_formatUint`.
-/

namespace Go

/-- An address returned by `netip.ParseAddr`. -/
inductive Addr where
  | v4 (b : List UInt8)
  | v6 (b : List UInt8)
  deriving DecidableEq, Repr

/-- `net.IPNet`: an address and a mask, as byte slices. -/
structure IPNet where
  ip : List UInt8
  mask : List UInt8
  deriving DecidableEq, Repr

/-- The scan of `parseIPv4Fields` at index `i` of a string of length `n`, after the character
`prev`, with finished fields `fs` and the current field's value `val` and digit count
`digLen`. -/
def ipv4Scan (n : Nat) : List Char → Nat → Option Char → List UInt8 → Nat → Nat →
    Option (List UInt8)
  | [], _, _, fs, val, _ => if fs.length < 3 then none else some (fs ++ [val.toUInt8])
  | c :: s, i, prev, fs, val, digLen =>
    if c.isDigit then
      -- a field may not continue after a leading zero
      if digLen = 1 ∧ val = 0 then none
      else if val * 10 + (c.toNat - '0'.toNat) > 255 then none
      else ipv4Scan n s (i + 1) (some c) fs (val * 10 + (c.toNat - '0'.toNat)) (digLen + 1)
    else if c = '.' then
      if i = 0 ∨ i = n - 1 ∨ prev = some '.' then none
      else if fs.length = 3 then none
      else ipv4Scan n s (i + 1) (some c) (fs ++ [val.toUInt8]) 0 0
    else none

/-- `parseIPv4Fields`: the four bytes of a dotted-decimal IPv4 address. -/
def parseIPv4 (s : List Char) : Option (List UInt8) :=
  ipv4Scan s.length s 0 none [] 0 0

def hexDigit (c : Char) : Option Nat :=
  if '0' ≤ c ∧ c ≤ '9' then some (c.toNat - '0'.toNat)
  else if 'a' ≤ c ∧ c ≤ 'f' then some (c.toNat - 'a'.toNat + 10)
  else if 'A' ≤ c ∧ c ≤ 'F' then some (c.toNat - 'A'.toNat + 10)
  else none

/-- The hex group at the front of `s`: the digits read (`off`), its value (`acc`) and the rest;
`none` for a fifth digit or a value of `2 ^ 16` or more. -/
def hexGroup : List Char → Nat → Nat → Option (Nat × Nat × List Char)
  | [], off, acc => some (off, acc, [])
  | c :: s, off, acc =>
    match hexDigit c with
    | none => some (off, acc, c :: s)
    | some d =>
      if off > 3 then none
      else if acc * 16 + d > 65535 then none
      else hexGroup s (off + 1) (acc * 16 + d)

/-- The loop `for i < 16` of `parseIPv6`, for at most `fuel` more groups: the bytes `ip` parsed
so far (`i = ip.length`), the position of `::` and the unparsed rest `s`. It returns them when
the loop stops. -/
def ipv6Loop : Nat → List UInt8 → Option Nat → List Char →
    Option (List UInt8 × Option Nat × List Char)
  | 0, ip, ellipsis, s => some (ip, ellipsis, s)
  | fuel + 1, ip, ellipsis, s =>
    if 16 ≤ ip.length then some (ip, ellipsis, s)
    else
      match hexGroup s 0 0 with
      | none => none
      | some (off, acc, rest) =>
        if off = 0 then none
        else if rest.head? = some '.' then
          -- an embedded IPv4 address replaces the last two groups
          if ellipsis = none ∧ ip.length ≠ 12 then none
          else if ip.length + 4 > 16 then none
          else (parseIPv4 s).map fun f => (ip ++ f, ellipsis, [])
        else
          let ip := ip ++ [(acc / 256).toUInt8, acc.toUInt8]
          match rest with
          | [] => some (ip, ellipsis, [])
          | c :: rest =>
            if c ≠ ':' then none
            else match rest with
              | [] => none
              | ':' :: rest =>
                if ellipsis.isSome then none
                else if rest = [] then some (ip, some ip.length, [])
                else ipv6Loop fuel ip (some ip.length) rest
              | rest => ipv6Loop fuel ip ellipsis rest

/-- `parseIPv6` of `net/netip` on an address without a zone. -/
def parseIPv6 (s : List Char) : Option (List UInt8) :=
  let start : Option Nat × List Char :=
    match s with
    | ':' :: ':' :: rest => (some 0, rest)
    | _ => (none, s)
  if start.1 = some 0 ∧ start.2 = [] then some (List.replicate 16 0)
  else
    match ipv6Loop 8 [] start.1 start.2 with
    | none => none
    | some (ip, ellipsis, rest) =>
      if rest ≠ [] then none
      else if ip.length < 16 then
        match ellipsis with
        | none => none
        | some e => some (ip.take e ++ List.replicate (16 - ip.length) 0 ++ ip.drop e)
      else if ellipsis.isSome then none
      else some ip

/-- `netip.ParseAddr`, for the addresses `ParseCIDR` accepts: the first `.`, `:` or `%` decides
the syntax, and any zone (`%`) is refused. -/
def parseAddr (s : List Char) : Option Addr :=
  match s.find? (fun c => c = '.' ∨ c = ':' ∨ c = '%') with
  | some '.' => (parseIPv4 s).map .v4
  | some ':' => if '%' ∈ s then none else (parseIPv6 s).map .v6
  | _ => none

def Addr.bitLen : Addr → Nat
  | .v4 _ => 32
  | .v6 _ => 128

/-- `net.CIDRMask(ones, bits)`. -/
def cidrMask (ones bits : Nat) : List UInt8 :=
  (List.range (bits / 8)).map fun k =>
    if 8 * (k + 1) ≤ ones then 0xFF
    else if ones ≤ 8 * k then 0
    else (0xFF <<< (8 - (ones - 8 * k))).toUInt8

/-- `IP(addr16[:]).Mask(m)` for the address and mask of `ParseCIDR`: an IPv4 address is masked
as its four bytes. -/
def ipMask : Addr → List UInt8 → List UInt8
  | .v4 b, m => List.zipWith (· &&& ·) b m
  | .v6 b, m => List.zipWith (· &&& ·) b m

/-- `net.ParseCIDR(s)`: the network (the second result), or `none` for a `ParseError`. -/
def parseCIDR (s : List Char) : Option IPNet :=
  -- `strings.Cut` at the first `/`
  match s.span (· ≠ '/') with
  | (addr, '/' :: mask) =>
    match parseAddr addr with
    | none => none
    | some a =>
      if !mask.isEmpty && mask.all Char.isDigit && decimalValue mask ≤ a.bitLen then
        some { ip := ipMask a (cidrMask (decimalValue mask) a.bitLen),
               mask := cidrMask (decimalValue mask) a.bitLen }
      else none
  | _ => none

/-- `net.IP.String` of the 4-byte address `int2ip(x)`: dotted decimal. -/
def ipv4String (x : UInt32) : List Char :=
  formatUint (x >>> 24).toNat ++ '.' :: formatUint ((x >>> 16) &&& 0xFF).toNat ++
    '.' :: formatUint ((x >>> 8) &&& 0xFF).toNat ++ '.' :: formatUint (x &&& 0xFF).toNat

/-- `IP.To4()`: a 4-byte address, or the last four bytes of an IPv4-mapped 16-byte one. -/
def to4 (ip : List UInt8) : Option (List UInt8) :=
  if ip.length = 4 then some ip
  else if ip.length = 16 ∧ (ip.take 10).all (· = 0) ∧ ip[10]? = some 0xFF ∧ ip[11]? = some 0xFF
  then some (ip.drop 12)
  else none

/-- `networkNumberAndMask(n)`: the network in its 4-byte form if it has one, with a mask of the
same length; `none` where Go returns `nil, nil`. -/
def networkNumberAndMask (n : IPNet) : Option (List UInt8 × List UInt8) :=
  let ip? : Option (List UInt8) :=
    match to4 n.ip with
    | some ip => some ip
    | none => if n.ip.length = 16 then some n.ip else none
  match ip? with
  | none => none
  | some ip =>
    if n.mask.length = 4 then
      if ip.length ≠ 4 then none else some (ip, n.mask)
    else if n.mask.length = 16 then
      if ip.length = 4 then some (ip, n.mask.drop 12) else some (ip, n.mask)
    else none

/-- `n.Contains(ip)`. A `nil` network number has length `0`, which only an empty address
matches. -/
def IPNet.contains (n : IPNet) (ip : List UInt8) : Bool :=
  let (nn, m) := (networkNumberAndMask n).getD ([], [])
  let ip := (to4 ip).getD ip
  ip.length == nn.length &&
    (List.range ip.length).all fun i => nn.getD i 0 &&& m.getD i 0 == ip.getD i 0 &&& m.getD i 0

/-! ## Dotted decimal, read back -/

/-- The scan of a field's digits `ds` after its first digits `p`: the value and the digit count
grow as the field's, while no leading zero and no value above `255` stops it. -/
theorem ipv4Scan_digits (n : Nat) (rest : List Char) (fs : List UInt8) :
    ∀ (ds p : List Char) (i : Nat), p ≠ [] → (∀ c ∈ p ++ ds, c.isDigit) →
      (2 ≤ (p ++ ds).length → (p ++ ds).head? ≠ some '0') → decimalValue (p ++ ds) ≤ 255 →
      ipv4Scan n (ds ++ rest) i p.getLast? fs (decimalValue p) p.length =
        ipv4Scan n rest (i + ds.length) (p ++ ds).getLast? fs (decimalValue (p ++ ds))
          (p ++ ds).length
  | [], p, i, _, _, _, _ => by simp
  | c :: ds, p, i, hp, hdig, hzero, hle => by
    have hc : c.isDigit := hdig c (by simp)
    -- a field `0` may not go on: its digits would start with a zero
    have hlead : ¬ (p.length = 1 ∧ decimalValue p = 0) := by
      rintro ⟨h1, h0⟩
      obtain ⟨d, rfl⟩ := List.length_eq_one_iff.mp h1
      have hd : d.isDigit := hdig d (by simp)
      have h48 : d.toNat = '0'.toNat := by
        have := Char.isDigit_iff_toNat.mp hd
        simp only [decimalValue, List.foldl_cons, List.foldl_nil] at h0
        omega
      exact hzero (by simp) (by simp [Char.toNat_inj.mp h48])
    have hle' : decimalValue (p ++ [c]) ≤ 255 := by
      have := decimalValue_le_append (p ++ [c]) ds
      simp only [List.append_assoc, List.singleton_append] at this
      omega
    have ih := ipv4Scan_digits n rest fs ds (p ++ [c]) (i + 1) (by simp)
      (by simpa using hdig) (by simpa using hzero) (by simpa using hle)
    have e₁ : (p ++ [c]).getLast? = some c := by simp
    have e₂ : (p ++ [c]).length = p.length + 1 := by simp
    have e₃ : p ++ [c] ++ ds = p ++ c :: ds := by simp
    rw [e₁, e₂, e₃] at ih
    rw [List.cons_append, ipv4Scan, if_pos hc, if_neg hlead,
      if_neg (by rw [← decimalValue_concat]; omega), ← decimalValue_concat, ih,
      List.length_cons, Nat.add_assoc, Nat.add_comm 1 ds.length]

/-- The scan of a whole field `FormatUint` wrote, of a value at most `255`. -/
theorem ipv4Scan_formatUint (n : Nat) (rest : List Char) (i : Nat) (prev : Option Char)
    (fs : List UInt8) {v : Nat} (hv : v ≤ 255) :
    ipv4Scan n (formatUint v ++ rest) i prev fs 0 0 =
      ipv4Scan n rest (i + (formatUint v).length) (formatUint v).getLast? fs v
        (formatUint v).length := by
  obtain ⟨c, ds, hcd⟩ := List.exists_cons_of_ne_nil (formatUint_ne_nil v)
  have hdig : ∀ d ∈ [c] ++ ds, d.isDigit := fun d hd =>
    isDigit_of_mem_formatUint (by rw [hcd]; simpa using hd)
  have hc : c.isDigit := hdig c (by simp)
  have hc9 : c.toNat - '0'.toNat ≤ 9 := by
    have := Char.isDigit_iff_toNat.mp hc
    simp only [Char.reduceToNat] at this ⊢
    omega
  have hzero : 2 ≤ ([c] ++ ds).length → ([c] ++ ds).head? ≠ some '0' := fun h => by
    rw [List.singleton_append, ← hcd] at h ⊢
    exact head_formatUint_ne_zero (ten_le_of_two_le_length_formatUint h)
  have hval : decimalValue ([c] ++ ds) = v := by
    rw [List.singleton_append, ← hcd, decimalValue_formatUint]
  have key := ipv4Scan_digits n rest fs ds [c] (i + 1) (by simp) hdig hzero (by omega)
  have h0 : 0 * 10 + (c.toNat - '0'.toNat) = decimalValue [c] := by simp [decimalValue]
  rw [hval, List.singleton_append, ← hcd] at key
  rw [hcd, List.cons_append, ipv4Scan, if_pos hc, if_neg (by simp), if_neg (by omega), h0,
    Nat.zero_add]
  rw [← hcd]
  exact (key.trans (by rw [hcd, List.length_cons, Nat.add_assoc, Nat.add_comm 1]))

/-- A `.` between fields: the field's value is kept and a new field starts. -/
theorem ipv4Scan_dot (n : Nat) (rest : List Char) {i : Nat} {prev : Option Char}
    {fs : List UInt8} (val digLen : Nat) (hi : i ≠ 0) (hn : i ≠ n - 1) (hprev : prev ≠ some '.')
    (hfs : fs.length ≠ 3) :
    ipv4Scan n ('.' :: rest) i prev fs val digLen =
      ipv4Scan n rest (i + 1) (some '.') (fs ++ [val.toUInt8]) 0 0 := by
  rw [ipv4Scan, if_neg (by decide), if_pos rfl, if_neg (by simp [hi, hn, hprev]), if_neg hfs]

theorem getLast?_formatUint_ne_dot (v : Nat) : (formatUint v).getLast? ≠ some '.' := by
  intro h
  have := isDigit_of_mem_formatUint (List.mem_of_getLast? h)
  exact absurd this (by decide)

/-- The four bytes whose text `ipv4String` writes. -/
def ipv4Bytes (x : UInt32) : List UInt8 :=
  [(x >>> 24).toNat.toUInt8, ((x >>> 16) &&& 0xFF).toNat.toUInt8,
    ((x >>> 8) &&& 0xFF).toNat.toUInt8, (x &&& 0xFF).toNat.toUInt8]

theorem toNat_shiftRight_24_le (x : UInt32) : (x >>> 24).toNat ≤ 255 := by
  rw [UInt32.toNat_shiftRight, Nat.shiftRight_eq_div_pow]
  have := x.toNat_lt
  simp only [UInt32.reduceToNat, Nat.reduceMod, Nat.reducePow] at this ⊢
  omega

theorem toNat_and_ff_le (x : UInt32) : (x &&& 0xFF).toNat ≤ 255 := by
  rw [UInt32.toNat_and]
  exact Nat.and_le_right

/-- `parseIPv4Fields` reads four fields that `FormatUint` wrote, each at most `255`. -/
theorem parseIPv4_formatUint {a b c d : Nat} (ha : a ≤ 255) (hb : b ≤ 255) (hc : c ≤ 255)
    (hd : d ≤ 255) :
    parseIPv4 (formatUint a ++ '.' :: formatUint b ++ '.' :: formatUint c ++ '.' :: formatUint d) =
      some [a.toUInt8, b.toUInt8, c.toUInt8, d.toUInt8] := by
  have hpos : ∀ v, 0 < (formatUint v).length := fun v =>
    List.length_pos_iff.mpr (formatUint_ne_nil v)
  have hp₁ := hpos a
  have hp₂ := hpos b
  have hp₃ := hpos c
  have hp₄ := hpos d
  unfold parseIPv4
  -- the text is `a ++ ('.' :: b) ++ …`, grouped to the left as `++` is
  simp only [List.append_assoc, List.cons_append, List.length_append, List.length_cons]
  rw [ipv4Scan_formatUint _ _ _ _ _ ha, ipv4Scan_dot _ _ _ _ (by omega) (by omega)
      (getLast?_formatUint_ne_dot _) (by simp),
    ipv4Scan_formatUint _ _ _ _ _ hb, ipv4Scan_dot _ _ _ _ (by omega) (by omega)
      (getLast?_formatUint_ne_dot _) (by simp),
    ipv4Scan_formatUint _ _ _ _ _ hc, ipv4Scan_dot _ _ _ _ (by omega) (by omega)
      (getLast?_formatUint_ne_dot _) (by simp),
    ← List.append_nil (formatUint d), ipv4Scan_formatUint _ _ _ _ _ hd, ipv4Scan]
  rfl

/-- **`parseIPv4Fields` reads back `IP.String`** of every 4-byte address. -/
theorem parseIPv4_ipv4String (x : UInt32) : parseIPv4 (ipv4String x) = some (ipv4Bytes x) :=
  parseIPv4_formatUint (toNat_shiftRight_24_le x) (toNat_and_ff_le (x >>> 16))
    (toNat_and_ff_le (x >>> 8)) (toNat_and_ff_le x)

theorem mem_ipv4String {x : UInt32} {c : Char} (h : c ∈ ipv4String x) : c.isDigit ∨ c = '.' := by
  simp only [ipv4String, List.mem_append, List.mem_cons] at h
  rcases h with ((h | h | h) | h | h) | h | h
  all_goals first
    | exact .inl (isDigit_of_mem_formatUint h)
    | exact .inr h

theorem slash_not_mem_ipv4String (x : UInt32) : '/' ∉ ipv4String x := fun h => by
  rcases mem_ipv4String h with hd | hd
  · exact absurd hd (by decide)
  · exact absurd hd (by decide)

/-- `strings.Cut` at the first `c`, where the text before it has none. -/
theorem span_append_cons_of_not_mem {l m : List Char} {c : Char} (h : c ∉ l) :
    (l ++ c :: m).span (· ≠ c) = (l, c :: m) := by
  have hall : ∀ d ∈ l, decide (d ≠ c) = true := fun d hd =>
    decide_eq_true fun hdc => h (hdc ▸ hd)
  rw [List.span_eq_takeWhile_dropWhile, List.takeWhile_append_of_pos hall,
    List.dropWhile_append_of_pos hall]
  simp

theorem span_ipv4String (x : UInt32) (m : List Char) :
    (ipv4String x ++ '/' :: m).span (· ≠ '/') = (ipv4String x, '/' :: m) :=
  span_append_cons_of_not_mem (slash_not_mem_ipv4String x)

theorem parseAddr_ipv4String (x : UInt32) : parseAddr (ipv4String x) = some (.v4 (ipv4Bytes x)) := by
  have hfirst : ∀ c ∈ formatUint (x >>> 24).toNat,
      decide (c = '.' ∨ c = ':' ∨ c = '%') = false := by
    intro c hc
    have hd := isDigit_of_mem_formatUint hc
    simp only [decide_eq_false_iff_not, not_or]
    refine ⟨?_, ?_, ?_⟩ <;> (rintro rfl; exact absurd hd (by decide))
  have hnone : (formatUint (x >>> 24).toNat).find? (fun c => c = '.' ∨ c = ':' ∨ c = '%') =
      none := List.find?_eq_none.mpr fun c hc => by simp only [hfirst c hc]; decide
  have hfind : (ipv4String x).find? (fun c => c = '.' ∨ c = ':' ∨ c = '%') = some '.' := by
    simp only [ipv4String, List.append_assoc, List.cons_append, List.find?_append, hnone,
      Option.none_or, List.find?_cons]
    simp
  unfold parseAddr
  rw [hfind, parseIPv4_ipv4String]
  rfl

/-- **`ParseCIDR` of an IPv4 address and a prefix length** gives the address masked to the
prefix, with the prefix's mask. -/
theorem parseCIDR_ipv4String (x : UInt32) {len : Nat} (h : len ≤ 32) :
    parseCIDR (ipv4String x ++ '/' :: formatUint len) =
      some { ip := ipMask (.v4 (ipv4Bytes x)) (cidrMask len 32), mask := cidrMask len 32 } := by
  have hdig : (formatUint len).all Char.isDigit = true :=
    List.all_eq_true.mpr fun _ hc => isDigit_of_mem_formatUint hc
  unfold parseCIDR
  simp only [span_ipv4String]
  rw [parseAddr_ipv4String]
  simp only [Addr.bitLen, decimalValue_formatUint, hdig, h]
  simp

/-- The octets of an address, as `ipv4String` takes them apart. -/
theorem toNat_octets (x : UInt32) :
    (x >>> 24).toNat = x.toNat / 16777216 ∧ ((x >>> 16) &&& 0xFF).toNat = x.toNat / 65536 % 256 ∧
      ((x >>> 8) &&& 0xFF).toNat = x.toNat / 256 % 256 ∧ (x &&& 0xFF).toNat = x.toNat % 256 := by
  have h255 : (255 : Nat) = 2 ^ 8 - 1 := rfl
  simp only [UInt32.toNat_and, UInt32.toNat_shiftRight, Nat.shiftRight_eq_div_pow,
    UInt32.reduceToNat, Nat.reduceMod, Nat.reducePow]
  rw [h255, Nat.and_two_pow_sub_one_eq_mod, Nat.and_two_pow_sub_one_eq_mod,
    Nat.and_two_pow_sub_one_eq_mod]
  simp

/-- Four octets at most `255` are told apart by their bytes. -/
theorem toUInt8_inj_of_le {n m : Nat} (hn : n ≤ 255) (hm : m ≤ 255) (h : n.toUInt8 = m.toUInt8) :
    n = m := by
  have := congrArg UInt8.toNat h
  simp only [Nat.toUInt8, UInt8.toNat_ofNat'] at this
  omega

/-- `IP.String` tells addresses apart: its bytes determine the address. -/
theorem ipv4Bytes_injective {x y : UInt32} (h : ipv4Bytes x = ipv4Bytes y) : x = y := by
  obtain ⟨hx₁, hx₂, hx₃, hx₄⟩ := toNat_octets x
  obtain ⟨hy₁, hy₂, hy₃, hy₄⟩ := toNat_octets y
  simp only [ipv4Bytes, List.cons.injEq, and_true] at h
  obtain ⟨h₁, h₂, h₃, h₄⟩ := h
  have e₁ := toUInt8_inj_of_le (toNat_shiftRight_24_le x) (toNat_shiftRight_24_le y) h₁
  have e₂ := toUInt8_inj_of_le (toNat_and_ff_le _) (toNat_and_ff_le _) h₂
  have e₃ := toUInt8_inj_of_le (toNat_and_ff_le _) (toNat_and_ff_le _) h₃
  have e₄ := toUInt8_inj_of_le (toNat_and_ff_le _) (toNat_and_ff_le _) h₄
  have hxl := x.toNat_lt
  have hyl := y.toNat_lt
  apply UInt32.toNat_inj.mp
  omega

theorem ipv4String_head_digit (x : UInt32) :
    ∃ c rest, ipv4String x = c :: rest ∧ c.isDigit := by
  obtain ⟨c, ds, hcd⟩ := List.exists_cons_of_ne_nil (formatUint_ne_nil (x >>> 24).toNat)
  refine ⟨c, _, by rw [ipv4String, List.append_assoc, List.append_assoc, hcd]; rfl, ?_⟩
  exact isDigit_of_mem_formatUint (by rw [hcd]; exact List.mem_cons_self)

theorem ipv4String_zero : ipv4String 0 = "0.0.0.0".toList := by
  simp [ipv4String, formatUint, Nat.toDigits_zero]

/-! ## What the parsers accept -/

/-- Dotted decimal: four decimal fields of at most `255`, joined by dots. -/
def IsIPv4Text (s : List Char) : Prop :=
  (split s '.').length = 4 ∧ ∀ f ∈ split s '.', IsDecimalAtMost 255 f

instance (s : List Char) : Decidable (IsIPv4Text s) :=
  inferInstanceAs (Decidable (_ ∧ _))

/-- What the scan accepts after reading the digits `p` of a field: the rest of that field and
the fields still to come, `4 - fs.length` in all, each decimal and at most `255`. The scan
holds the value and the length of `p`; a field is empty only at the start, or right after a
`.` that was not the last character. -/
theorem ipv4Scan_eq_some {n : Nat} : ∀ {s : List Char} {i : Nat} {prev : Option Char}
    {fs : List UInt8} {p : List Char} {r : List UInt8},
    ipv4Scan n s i prev fs (decimalValue p) p.length = some r →
    n = i + s.length → fs.length ≤ 3 → (∀ c ∈ p, c.isDigit) → decimalValue p ≤ 255 →
    (p = [] → (i = 0 ∧ fs = []) ∨ (prev = some '.' ∧ i < n)) →
    ∃ fields : List (List Char), p ++ s = ['.'].intercalate fields ∧
      fs.length + fields.length = 4 ∧ ∀ f ∈ fields, IsDecimalAtMost 255 f
  | [], i, prev, fs, p, r, h, hn, hfs, hp, hv, hstart => by
    rw [ipv4Scan] at h
    have h3 : fs.length = 3 := by
      by_cases hlt : fs.length < 3
      · rw [if_pos hlt] at h
        cases h
      · omega
    -- the last field is not empty: the text neither is empty nor ends with `.`
    have hpne : p ≠ [] := by
      rintro rfl
      rcases hstart rfl with ⟨-, rfl⟩ | ⟨-, hi⟩
      · cases h3
      · simp only [List.length_nil, Nat.add_zero] at hn
        omega
    exact ⟨[p], by simp, by simp [h3], by simpa [IsDecimalAtMost] using ⟨hpne, hp, hv⟩⟩
  | c :: s, i, prev, fs, p, r, h, hn, hfs, hp, hv, hstart => by
    simp only [List.length_cons] at hn
    rw [ipv4Scan] at h
    by_cases hc : c.isDigit
    · -- a digit continues the field
      rw [if_pos hc] at h
      by_cases hlead : p.length = 1 ∧ decimalValue p = 0
      · rw [if_pos hlead] at h
        cases h
      rw [if_neg hlead, ← decimalValue_concat] at h
      by_cases hbig : decimalValue (p ++ [c]) > 255
      · rw [if_pos hbig] at h
        cases h
      rw [if_neg hbig, show p.length + 1 = (p ++ [c]).length by simp] at h
      have hdig : ∀ d ∈ p ++ [c], d.isDigit := by
        intro d hd
        rcases List.mem_append.mp hd with hd | hd
        · exact hp d hd
        · rw [List.mem_singleton.mp hd]
          exact hc
      obtain ⟨fields, hfields, hlen, hdec⟩ := ipv4Scan_eq_some h (by omega) hfs hdig (by omega)
        (by simp)
      exact ⟨fields, by simpa using hfields, hlen, hdec⟩
    · rw [if_neg hc] at h
      by_cases hdot : c = '.'
      · -- a dot ends the field, which may not be empty, and starts the next
        subst hdot
        rw [if_pos rfl] at h
        by_cases hbad : i = 0 ∨ i = n - 1 ∨ prev = some '.'
        · rw [if_pos hbad] at h
          cases h
        by_cases hfour : fs.length = 3
        · rw [if_neg hbad, if_pos hfour] at h
          cases h
        rw [if_neg hbad, if_neg hfour] at h
        have hpne : p ≠ [] := by
          rintro rfl
          rcases hstart rfl with ⟨hi, -⟩ | ⟨hprev, -⟩
          · exact hbad (.inl hi)
          · exact hbad (.inr (.inr hprev))
        obtain ⟨fields, hfields, hlen, hdec⟩ := ipv4Scan_eq_some (p := []) h (by omega)
          (by simp; omega) (by simp) (by simp [decimalValue])
          (fun _ => .inr ⟨rfl, by omega⟩)
        obtain ⟨f, fields, rfl⟩ := List.exists_cons_of_ne_nil (l := fields) (by
          rintro rfl
          simp only [List.length_append, List.length_singleton, List.length_nil] at hlen
          omega)
        refine ⟨p :: f :: fields, ?_, ?_, ?_⟩
        · rw [List.intercalate_cons_cons, ← hfields]
          simp
        · simp only [List.length_append, List.length_cons, List.length_nil] at hlen ⊢
          omega
        · intro g hg
          rcases List.mem_cons.mp hg with rfl | hg
          · exact ⟨hpne, hp, hv⟩
          · exact hdec g hg
      · rw [if_neg hdot] at h
        cases h

theorem dot_not_mem_of_isDecimalAtMost {f : List Char} {b : Nat} (h : IsDecimalAtMost b f) :
    '.' ∉ f := fun hf => absurd (h.2.1 _ hf) (by decide)

/-- **`parseIPv4Fields` accepts dotted decimal only.** -/
theorem isIPv4Text_of_parseIPv4 {s : List Char} {b : List UInt8} (h : parseIPv4 s = some b) :
    IsIPv4Text s := by
  obtain ⟨fields, hs, hlen, hdec⟩ := ipv4Scan_eq_some (p := []) h (by simp) (by simp) (by simp)
    (by simp [decimalValue]) (fun _ => .inl ⟨rfl, rfl⟩)
  have hsplit : split s '.' = fields := by
    rw [List.nil_append] at hs
    rw [split, hs]
    refine List.splitOn_intercalate '.' (fun f hf => dot_not_mem_of_isDecimalAtMost (hdec f hf)) ?_
    rintro rfl
    cases hlen
  rw [IsIPv4Text, hsplit]
  exact ⟨by simpa using hlen, hdec⟩

/-- An address with no `:` that `ParseAddr` accepts is dotted decimal, and read as IPv4. -/
theorem parseAddr_eq_some_of_colon_not_mem {s : List Char} {a : Addr} (hcolon : ':' ∉ s)
    (h : parseAddr s = some a) : (∃ b, a = .v4 b) ∧ IsIPv4Text s := by
  unfold parseAddr at h
  split at h
  · obtain ⟨b, hb, rfl⟩ := Option.map_eq_some_iff.mp h
    exact ⟨⟨b, rfl⟩, isIPv4Text_of_parseIPv4 hb⟩
  · rename_i hfind
    exact absurd (List.mem_of_find?_eq_some hfind) hcolon
  · cases h

/-- **What `ParseCIDR` accepts of an address with no `:`**: dotted decimal, then a decimal
prefix length of at most `32`. -/
theorem parseCIDR_append_eq_some {addr mask : List Char} {n : IPNet} (hslash : '/' ∉ addr)
    (hcolon : ':' ∉ addr) (h : parseCIDR (addr ++ '/' :: mask) = some n) :
    IsIPv4Text addr ∧ IsDecimalAtMost 32 mask := by
  unfold parseCIDR at h
  simp only [span_append_cons_of_not_mem hslash] at h
  cases ha : parseAddr addr with
  | none =>
    rw [ha] at h
    cases h
  | some a =>
    obtain ⟨⟨b, rfl⟩, hip⟩ := parseAddr_eq_some_of_colon_not_mem hcolon ha
    simp only [ha] at h
    by_cases hm : (!mask.isEmpty && mask.all Char.isDigit &&
        decide (decimalValue mask ≤ (Addr.v4 b).bitLen)) = true
    · simp only [Bool.and_eq_true, Bool.not_eq_true', List.isEmpty_eq_false_iff, List.all_eq_true,
        Addr.bitLen] at hm
      exact ⟨hip, hm.1.1, hm.1.2, of_decide_eq_true hm.2⟩
    · rw [if_neg hm] at h
      cases h

end Go
