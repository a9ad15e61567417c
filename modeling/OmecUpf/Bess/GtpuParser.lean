import OmecUpf.Bess.Gtpu

/-!
# The GTP-U parser

`GtpuParser::ProcessBatch` (`modules/gtpu_parser.cc`) writes seven metadata attributes of a
packet for the PDR lookup after it: `src_ip`, `dst_ip`, `src_port`, `dst_port`, `teid`,
`tunnel_ipv4_dst` and `ip_proto`. A frame whose ether type is neither IPv4 nor ARP leaves on
the default gate. Every other frame is read as IPv4 and leaves on the forward gate, after
`set_gtp_parsing_attrs` for TCP, UDP and ICMP (for UDP to `UDP_PORT_GTPU`, from the inner
headers of the tunnel), and with nothing written for any other protocol.

An attribute is the header field it copies, as the number its bytes spell in network order:
`set_attr` stores the raw `be32_t` or `be16_t`, and `_const_val` is `0xFFFFFFFF`, of which a
port attribute takes the first two bytes. A read past the end of the frame, and a
`header_length` whose walk does not end, make the model return `none`.

* `ParserAttrs`, `setGtpParsingAttrs`; `ipv4Attrs`: the attributes of an IPv4 header and of the
  ports after it, which the outer switch and the inner `if` chain both read.
* `gtpuParser`: `ProcessBatch` on one packet, the gate it leaves on and its metadata after.
* **`gtpuParser_keeps_metadata_of_other_protocols`**: an IPv4 frame of any protocol but TCP,
  UDP and ICMP leaves on the forward gate with the metadata it came with.
* `ipv4Attrs_append`, **`gtpuParser_gtpuEncap`**: an IPv4 Ethernet frame that `GtpuEncap`
  tunnelled to `UDP_PORT_GTPU`, with and without the PDU session container, leaves the parser on
  the forward gate with the attributes of the frame inside, read where its IPv4 header starts,
  the tunnel's TEID and the tunnel's destination address.
-/

namespace Bess

open Bytes

/-- `Ipv4::kTcp` and `Ipv4::kIcmp`. -/
def ipProtoTcp : UInt8 := 6
def ipProtoIcmp : UInt8 := 1

/-- The attributes `GtpuParser::Init` adds, in its order. -/
structure ParserAttrs where
  srcIp : UInt32
  dstIp : UInt32
  srcPort : UInt16
  dstPort : UInt16
  teid : UInt32
  tunnelIpv4Dst : UInt32
  ipProto : UInt8
  deriving DecidableEq, Repr

/-- `_const_val`, and the port of its first two bytes. -/
def constVal : UInt32 := 0xFFFFFFFF
def constPort : UInt16 := 0xFFFF

/-- `set_gtp_parsing_attrs(sip, dip, sp, dp, teid, tipd, protoid, p)` writes every attribute. -/
def setGtpParsingAttrs (sip dip : UInt32) (sp dp : UInt16) (teid tipd : UInt32)
    (protoid : UInt8) : ParserAttrs :=
  ⟨sip, dip, sp, dp, teid, tipd, protoid⟩

/-- The 4-byte and the 2-byte field at `off`. -/
def field32 (frame : List UInt8) (off : Nat) : Option UInt32 :=
  (readField frame off 4).map UInt32.ofNat

def field16 (frame : List UInt8) (off : Nat) : Option UInt16 :=
  (readField frame off 2).map UInt16.ofNat

/-- `(char *)iph + (iph->header_length << 2)`. -/
def l4Offset (frame : List UInt8) (iph : Nat) : Option Nat :=
  frame[iph]?.map fun b => iph + (b &&& 0x0F).toNat * 4

/-- The attributes of the IPv4 header at `iph`, with `teid` and `tipd`: the ports of the TCP or
UDP header after it, and `_const_val` for any other protocol. -/
def ipv4Attrs (frame : List UInt8) (iph : Nat) (teid tipd : UInt32) : Option ParserAttrs := do
  let protocol ← frame[iph + 9]?
  let sip ← field32 frame (iph + 12)
  let dip ← field32 frame (iph + 16)
  -- `Tcp` and `Udp` both start with the source and the destination port
  if protocol = ipProtoTcp ∨ protocol = ipProtoUdp then
    let l4 ← l4Offset frame iph
    let sp ← field16 frame l4
    let dp ← field16 frame (l4 + 2)
    pure (setGtpParsingAttrs sip dip sp dp teid tipd protocol)
  else pure (setGtpParsingAttrs sip dip constPort constPort teid tipd protocol)

/-- `GtpuParser::ProcessBatch` on one packet with metadata `md`: the gate and the metadata it
leaves with. -/
def gtpuParser (frame : List UInt8) (md : ParserAttrs) : Option (Nat × ParserAttrs) := do
  let etherType ← readField frame 12 2
  if etherType ≠ etherTypeIpv4 ∧ etherType ≠ etherTypeArp then return (defaultGate, md)
  let iph := 14
  let protocol ← frame[iph + 9]?
  let md ←
    if protocol = ipProtoTcp then ipv4Attrs frame iph constVal constVal
    else if protocol = ipProtoUdp then do
      let udph ← l4Offset frame iph
      let dp ← readField frame (udph + 2) 2
      if dp = udpPortGtpu then
        let tipd ← field32 frame (iph + 16)
        let gtph := udph + 8
        let teid ← field32 frame (gtph + 4)
        let hdr := frame.drop gtph
        let hl ← (headerLength hdr (hdr.length + 1)).join
        ipv4Attrs frame (gtph + hl) teid tipd
      else ipv4Attrs frame iph constVal constVal
    else if protocol = ipProtoIcmp then ipv4Attrs frame iph constVal constVal
    -- `default: /* nothing here at the moment */`
    else pure md
  return (forwardGate, md)

/-! ## Protocols the switch does not name -/

/-- **Stale metadata on the forward gate.** An IPv4 frame whose protocol is not TCP, UDP or
ICMP (GRE, ESP, SCTP, …) leaves on the forward gate with the metadata it came with, whatever
that was: none of the seven attributes is written. -/
theorem gtpuParser_keeps_metadata_of_other_protocols {frame : List UInt8} {protocol : UInt8}
    (hether : readField frame 12 2 = some etherTypeIpv4) (hproto : frame[23]? = some protocol)
    (hother : protocol ≠ ipProtoTcp ∧ protocol ≠ ipProtoUdp ∧ protocol ≠ ipProtoIcmp)
    (md : ParserAttrs) : gtpuParser frame md = some (forwardGate, md) := by
  obtain ⟨htcp, hudp, hicmp⟩ := hother
  have hipv4 : ¬ (etherTypeIpv4 ≠ etherTypeIpv4 ∧ etherTypeIpv4 ≠ etherTypeArp) :=
    fun h => h.1 rfl
  simp only [gtpuParser, hether, hproto, Option.bind_eq_bind, Option.bind_some, if_neg hipv4,
    if_neg htcp, if_neg hudp, if_neg hicmp]
  rfl

/-- An IPv4 frame of protocol `47` (GRE), with a GRE header that carries IPv4. -/
def greFrame : List UInt8 :=
  [0, 0, 0, 0, 0, 0, 0, 0, 0, 0, 0, 0, 0x08, 0x00] ++
  [0x45, 0, 0, 24, 0, 0, 0, 0, 64, 47, 0, 0, 10, 0, 0, 1, 10, 0, 0, 2] ++
  [0, 0, 0x08, 0x00]

/-- The attributes a TCP packet from `10.0.0.3:80` to `10.0.0.4:443` leaves in a buffer. -/
def staleAttrs : ParserAttrs :=
  ⟨0x0A000003, 0x0A000004, 80, 443, constVal, constVal, ipProtoTcp⟩

theorem gtpuParser_greFrame :
    (readField greFrame 12 2 = some etherTypeIpv4 ∧ greFrame[23]? = some 47 ∧
      ((47 : UInt8) ≠ ipProtoTcp ∧ (47 : UInt8) ≠ ipProtoUdp ∧
        (47 : UInt8) ≠ ipProtoIcmp)) ∧
    gtpuParser greFrame staleAttrs = some (forwardGate, staleAttrs) :=
  ⟨⟨by decide, by decide, by decide⟩,
    @gtpuParser_keeps_metadata_of_other_protocols greFrame 47 (by decide) (by decide) (by decide)
      staleAttrs⟩

/-! ## Tunnelled frames -/

section Shift

variable (A M : List UInt8)

theorem getElem?_append_length_add (i : Nat) : (A ++ M)[A.length + i]? = M[i]? := by
  rw [List.getElem?_append_right (by omega), Nat.add_sub_cancel_left]

theorem field32_append (k : Nat) : field32 (A ++ M) (A.length + k) = field32 M k := by
  rw [field32, field32, readField_append_length_add]

theorem field16_append (k : Nat) : field16 (A ++ M) (A.length + k) = field16 M k := by
  rw [field16, field16, readField_append_length_add]

theorem l4Offset_append (k : Nat) :
    l4Offset (A ++ M) (A.length + k) = (l4Offset M k).map (A.length + ·) := by
  simp only [l4Offset, getElem?_append_length_add, Option.map_map, Function.comp_def,
    Nat.add_assoc]

/-- **The parser reads an IPv4 header where it starts.** Every read of `ipv4Attrs` lies at or
after `iph`, so the bytes before the header do not matter. -/
theorem ipv4Attrs_append (k : Nat) (teid tipd : UInt32) :
    ipv4Attrs (A ++ M) (A.length + k) teid tipd = ipv4Attrs M k teid tipd := by
  simp only [ipv4Attrs, Nat.add_assoc, getElem?_append_length_add, field32_append, l4Offset_append]
  cases l4Offset M k <;> simp [Nat.add_assoc, field16_append]

end Shift

/-- The fields of an outer header that the parser reads: the version and length byte, the
protocol, the destination address, the UDP destination port and the TEID. -/
theorem outerHeader_fields (addPsc : Bool) (a : EncapAttrs) (n : Nat) :
    (outerHeader addPsc a n)[0]? = some 0x45 ∧ (outerHeader addPsc a n)[9]? = some ipProtoUdp ∧
    field32 (outerHeader addPsc a n) 16 = some a.toutDip ∧
    readField (outerHeader addPsc a n) 22 2 = some a.toutUport.toNat ∧
    field32 (outerHeader addPsc a n) 32 = some a.toutTeid := by
  cases addPsc <;>
  simp [outerHeader, field32, readField, readBE, List.drop_append, List.drop_eq_nil_of_le,
    List.take_of_length_le, ofBE_toBE, ipProtoUdp]

/-- **The parser sees through the tunnel.** -/
theorem gtpuParser_gtpuEncap (addPsc : Bool) (a : EncapAttrs) (p : Packet) (md : ParserAttrs)
    (hL : 14 ≤ p.totalLen) (hroom : encapSize addPsc ≤ p.off)
    (hether : readField p.data 12 2 = some etherTypeIpv4)
    (hport : a.toutUport.toNat = udpPortGtpu) :
    gtpuParser (gtpuEncap addPsc a p).2.data md =
      (ipv4Attrs p.data 14 a.toutTeid a.toutDip).map fun attrs => (forwardGate, attrs) := by
  obtain ⟨-, hdata⟩ := gtpuEncap_data (a := a) p hL hroom
  set O := outerHeader addPsc a ((p.totalLen - 14) % 2 ^ 16)
  -- the frame is its Ethernet header `E` and the rest `R`
  obtain ⟨E, R, hE, hER⟩ : ∃ E R : List UInt8, E.length = 14 ∧ p.data = E ++ R :=
    ⟨p.data.take 14, p.data.drop 14, by simp only [List.length_take, Packet.length_data]; omega,
      (List.take_append_drop 14 p.data).symm⟩
  rw [hER, List.take_left' hE, List.drop_left' hE] at hdata
  rw [hER] at hether ⊢
  have henc : 36 ≤ encapSize addPsc := by cases addPsc <;> decide
  have hO : O.length = encapSize addPsc := length_outerHeader addPsc a _
  obtain ⟨h0, h9, hdip, hdport, hteid⟩ :=
    outerHeader_fields addPsc a ((p.totalLen - 14) % 2 ^ 16)
  -- the reads of the outer switch, in the Ethernet header and then in the outer header
  have rether : readField (E ++ O ++ R) 12 2 = some etherTypeIpv4 := by
    rw [List.append_assoc, readField_append_left (by omega), ← hether,
      readField_append_left (by omega)]
  have ronO : ∀ k, k < O.length → (E ++ O ++ R)[14 + k]? = O[k]? := by
    intro k hk
    rw [List.append_assoc, ← hE, getElem?_append_length_add, List.getElem?_append_left hk]
  have hfield : ∀ k, k + 4 ≤ O.length → field32 (E ++ O ++ R) (14 + k) = field32 O k := by
    intro k hk
    rw [List.append_assoc, ← hE, field32_append, field32, field32, readField_append_left hk]
  have rproto : (E ++ O ++ R)[14 + 9]? = some ipProtoUdp := by
    rw [ronO 9 (by omega), h9]
  have rudph : l4Offset (E ++ O ++ R) 14 = some 34 := by
    rw [l4Offset, ronO 0 (by omega), h0]
    rfl
  have rdport : readField (E ++ O ++ R) (34 + 2) 2 = some udpPortGtpu := by
    rw [List.append_assoc, show 34 + 2 = E.length + 22 by omega, readField_append_length_add,
      readField_append_left (by omega), hdport, hport]
  have rtipd : field32 (E ++ O ++ R) (14 + 16) = some a.toutDip := by
    rw [hfield 16 (by omega), hdip]
  have rteid : field32 (E ++ O ++ R) (34 + 8 + 4) = some a.toutTeid := by
    rw [show 34 + 8 + 4 = 14 + 32 by rfl, hfield 32 (by omega), hteid]
  -- the GTP-U header is measured as `encap_size - 28`, and the inner header follows it
  have rhl : (headerLength ((E ++ O ++ R).drop (34 + 8))
      (((E ++ O ++ R).drop (34 + 8)).length + 1)).join = some (encapSize addPsc - 28) :=
    headerLength_frame_outerHeader addPsc a _ E R hE
  have rinner : ipv4Attrs (E ++ O ++ R) (34 + 8 + (encapSize addPsc - 28)) a.toutTeid a.toutDip =
      ipv4Attrs (E ++ R) 14 a.toutTeid a.toutDip := by
    have hoff : 34 + 8 + (encapSize addPsc - 28) = (E ++ O).length + 0 := by
      rw [List.length_append, hE, hO]; omega
    rw [hoff, ipv4Attrs_append, ← hE, ← Nat.add_zero E.length, ipv4Attrs_append]
  have hudp : ¬ ipProtoUdp = ipProtoTcp := by decide
  have hipv4 : ¬ (etherTypeIpv4 ≠ etherTypeIpv4 ∧ etherTypeIpv4 ≠ etherTypeArp) :=
    fun h => h.1 rfl
  rw [hdata]
  simp only [gtpuParser, rether, rproto, rudph, rdport, rtipd, rteid, rhl, rinner,
    Option.bind_eq_bind, Option.bind_some, if_neg hipv4, if_neg hudp, if_true]
  cases ipv4Attrs (E ++ R) 14 a.toutTeid a.toutDip <;> rfl

/-- A UDP datagram from `192.168.0.1:5000` to `192.168.0.2:53`, with 44 bytes of headroom. -/
def tunnelSample : Packet :=
  ⟨List.replicate 44 0 ++ [2, 0, 0, 0, 0, 1, 2, 0, 0, 0, 0, 2, 0x08, 0x00] ++
    [0x45, 0, 0, 28, 0, 0, 0, 0, 64, 17, 0, 0, 192, 168, 0, 1, 192, 168, 0, 2] ++
    [0x13, 0x88, 0, 53, 0, 8, 0, 0], 44⟩

theorem gtpuParser_gtpuEncap_tunnelSample :
    (14 ≤ tunnelSample.totalLen ∧ encapSize true ≤ tunnelSample.off ∧
      readField tunnelSample.data 12 2 = some etherTypeIpv4 ∧
      (2152 : UInt16).toNat = udpPortGtpu) ∧
    gtpuParser (gtpuEncap true ⟨1, 9, 0x0A000001, 0x0A000002, 0x1234, 2152⟩ tunnelSample).2.data
        staleAttrs =
      some (forwardGate, ⟨0xC0A80001, 0xC0A80002, 5000, 53, 0x1234, 0x0A000002, ipProtoUdp⟩) :=
  ⟨⟨by decide, by decide, by decide, by decide⟩,
    (gtpuParser_gtpuEncap true ⟨1, 9, 0x0A000001, 0x0A000002, 0x1234, 2152⟩ tunnelSample
      staleAttrs (by decide) (by decide) (by decide) (by decide)).trans (by decide)⟩

end Bess
