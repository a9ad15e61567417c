import OmecUpf.Lib.Bytes
import OmecUpf.Lib.Loop

/-!
# The GTP-U header and its extension chain

`Gtpv1::header_length` (`utils/gtp.h`) measures a GTP-U header: eight bytes, four more when any
of the sequence, N-PDU or extension flags is set, and, when the extension flag is set, the
chain of extension headers, walked by

    while (pktptr[len - 1]) len += (pktptr[len] << 2);

where `pktptr[len - 1]` is the next-extension-type byte that ends the previous header and
`pktptr[len]` the length, in 4-byte units, of the next one. The header is the list of the bytes
from its first byte to the end of the frame; a read past the end is a fault of the walk.

The Ethernet, IPv4 and UDP headers are the packed BESS layouts (14, 20 and 8 bytes), with the
IPv4 header length in the low nibble of its first byte.

* `extWalkStep`: one iteration of the walk; `headerLengthStart`, `headerLength`: the whole
  `header_length` with a bound on its iterations.
* `gtpuParserGtpOffset`, `gtpuDecapGtpOffset`: where `GtpuParser::ProcessBatch` and
  `GtpuDecap::ProcessBatch` place the GTP-U header they measure.
* **`headerLength_diverges_on_zero_length_extension`**: a frame that both modules accept, whose
  walk never ends.
-/

namespace Bess

/-- Ether types `Ethernet::kIpv4` and `Ethernet::kArp`. -/
def etherTypeIpv4 : Nat := 0x0800
def etherTypeArp : Nat := 0x0806

/-- `Ipv4::kUdp`. -/
def ipProtoUdp : UInt8 := 17

/-- `UDP_PORT_GTPU`. -/
def udpPortGtpu : Nat := 2152

/-- `sizeof(Gtpv1)`. -/
def gtpv1Size : Nat := 8

/-- One iteration of the extension walk of `header_length` at length `len`. -/
def extWalkStep (hdr : List UInt8) (len : Nat) : Loop.Step Nat Nat :=
  match hdr[len - 1]? with
  | none => .fault
  | some 0 => .done len
  | some _ =>
    match hdr[len]? with
    | none => .fault
    | some n => .next (len + n.toNat * 4)

/-- The length before the walk: `sizeof(Gtpv1)`, plus 4 when `seq`, `pdn` or `ex` (the three low
bits of the flags byte) is set. -/
def headerLengthStart (flags : UInt8) : Nat :=
  if flags &&& 0x07 = 0 then gtpv1Size else gtpv1Size + 4

/-- `Gtpv1::header_length` with at most `fuel` iterations of the walk: `some (some len)` for the
length, `some none` for a read past the frame, `none` when the iterations run out. -/
def headerLength (hdr : List UInt8) (fuel : Nat) : Option (Option Nat) :=
  match hdr[0]? with
  | none => some none
  | some flags =>
    if flags &&& 0x04 = 0 then some (some (headerLengthStart flags))
    else Loop.run (extWalkStep hdr) fuel (headerLengthStart flags)

/-- The offset of the UDP header after the IPv4 header at 14, whose length is read from its
first byte. -/
def udpOffset (frame : List UInt8) : Option Nat :=
  frame[14]?.map fun b => 14 + (b &&& 0x0F).toNat * 4

/-- The GTP-U header that `GtpuParser::ProcessBatch` measures: an IPv4 (or ARP) frame whose
IPv4 protocol is UDP and whose UDP destination port is `UDP_PORT_GTPU`; `none` when the frame
takes another branch. -/
def gtpuParserGtpOffset (frame : List UInt8) : Option Nat := do
  let etherType := Bytes.readBE frame 12 2
  if etherType ≠ etherTypeIpv4 ∧ etherType ≠ etherTypeArp then none
  else if frame[23]? ≠ some ipProtoUdp then none
  else
    let udp ← udpOffset frame
    if Bytes.readBE frame (udp + 2) 2 = udpPortGtpu then some (udp + 8) else none

/-- The GTP-U header that `GtpuDecap::ProcessBatch` measures, after the IPv4 and UDP headers. -/
def gtpuDecapGtpOffset (frame : List UInt8) : Option Nat :=
  (udpOffset frame).map (· + 8)

/-- An iteration at a length whose next-type byte is set moves past the next extension. -/
theorem extWalkStep_next {hdr : List UInt8} {len : Nat} {t n : UInt8}
    (ht : hdr[len - 1]? = some t) (ht0 : t ≠ 0) (hn : hdr[len]? = some n) :
    extWalkStep hdr len = .next (len + n.toNat * 4) := by
  unfold extWalkStep
  rw [ht]
  split
  · next h => cases h
  · next h => exact absurd (Option.some.inj h) ht0
  · rw [hn]

/-- The walk stops at a length whose next-type byte is `0`. -/
theorem extWalkStep_done {hdr : List UInt8} {len : Nat} (ht : hdr[len - 1]? = some 0) :
    extWalkStep hdr len = .done len := by
  unfold extWalkStep
  rw [ht]
  rfl

/-- Without the extension flag, the length is the one before the walk. -/
theorem headerLength_of_no_ext {hdr : List UInt8} {flags : UInt8} (h0 : hdr[0]? = some flags)
    (hx : flags &&& 0x04 = 0) (fuel : Nat) :
    headerLength hdr fuel = some (some (headerLengthStart flags)) := by
  rw [headerLength, h0]
  exact if_pos hx

/-- With the extension flag, the length is the outcome of the walk from the one before it. -/
theorem headerLength_of_ext {hdr : List UInt8} {flags : UInt8} (h0 : hdr[0]? = some flags)
    (hx : flags &&& 0x04 ≠ 0) (fuel : Nat) :
    headerLength hdr fuel = Loop.run (extWalkStep hdr) fuel (headerLengthStart flags) := by
  rw [headerLength, h0]
  exact if_neg hx

/-- A G-PDU whose GTP-U header has the extension flag and a PDU session container type
(`0x85`) in its next-type byte, followed by an extension whose length byte is `0`. -/
def zeroLengthExtFrame : List UInt8 :=
  -- Ethernet: addresses, type IPv4
  [0, 0, 0, 0, 0, 0, 0, 0, 0, 0, 0, 0, 0x08, 0x00] ++
  -- IPv4: version 4, header length 5, protocol UDP
  [0x45, 0, 0, 44, 0, 0, 0, 0, 64, 17, 0, 0, 10, 0, 0, 1, 10, 0, 0, 2] ++
  -- UDP: ports 2152
  [0x08, 0x68, 0x08, 0x68, 0, 24, 0, 0] ++
  -- GTP-U: flags E, type G-PDU, length, TEID 1, sequence number, N-PDU, next type 0x85
  [0x34, 0xFF, 0, 8, 0, 0, 0, 1, 0, 0, 0, 0x85] ++
  -- extension header: length 0
  [0, 0, 0, 0]

theorem headerLength_diverges_on_zero_length_extension :
    gtpuParserGtpOffset zeroLengthExtFrame = some 42 ∧
    gtpuDecapGtpOffset zeroLengthExtFrame = some 42 ∧
    ∀ fuel, headerLength (zeroLengthExtFrame.drop 42) fuel = none := by
  refine ⟨by decide, by decide, fun fuel => ?_⟩
  -- the walk starts at 12 and stays there: next type `0x85`, length `0`
  have hstep : extWalkStep (zeroLengthExtFrame.drop 42) 12 = .next 12 :=
    extWalkStep_next (t := 0x85) (n := 0) (by decide) (by decide) (by decide)
  have hflags : (zeroLengthExtFrame.drop 42)[0]? = some 0x34 := by decide
  rw [headerLength, hflags]
  exact Loop.run_eq_none_of_next_self hstep fuel

end Bess
