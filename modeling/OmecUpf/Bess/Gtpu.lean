import OmecUpf.Bess.Gtp

/-!
# GTP-U encapsulation and decapsulation

`GtpuEncap::ProcessBatch` (`modules/gtpu_encap.cc`) prepends `encap_size` bytes to a frame,
moves the Ethernet header to the new front, copies the first `encap_size` bytes of the packed
`PacketTemplate` (IPv4, UDP, GTP-U, and with `add_psc` the sequence/N-PDU word and the PDU
session container) after it, and fills in the lengths, addresses, ports, TEID, QFI and PDU
type. `GtpuDecap::ProcessBatch` (`modules/gtpu_decap.cc`) strips the IPv4, UDP and GTP-U
headers, measured by `Gtpv1::header_length`, and moves the Ethernet header forward again.

A packet is its buffer and the offset where its data starts (`head_data`); `prepend` and `adj`
move the offset within the buffer, and fail as `rte_pktmbuf_prepend` and `rte_pktmbuf_adj` do.
The template is the static `outer_ip_template` after its constructor ran: the constructor
never sets `psch.next_type`, which keeps the zero of static storage. Bit fields are laid out
from the least significant bit, as GCC does on the little-endian targets BESS runs on.

* `Packet`, `outerIpTemplate`, `encapSize`, `EncapAttrs`.
* `fillOuterHeader`, `gtpuEncap`: the template copy and the field stores through `iph`, and
  the whole `ProcessBatch` for one packet; `gtpuDecap`.
* `outerHeader`: the header the encapsulation is meant to produce, field by field.
* `fillOuterHeader_append_right`, `fillOuterHeader_append_left`, `fillOuterHeader_template`:
  the stores touch only the `encap_size` bytes at `iph`, and there build `outerHeader`.
* `gtpuEncap_data`: the encapsulated frame is the Ethernet header, `outerHeader` and the
  payload; `gtpuDecap_outer`: decapsulation of such a frame.
* **`gtpuDecap_gtpuEncap`**: for both settings of `add_psc` and all tunnel attributes, a frame of
  at least an Ethernet header, with room for the outer headers and no overflow of the outer
  length fields, leaves on the forward gate, and decapsulation gives it back. Its IPv4, UDP and
  GTP-U lengths are its length after the Ethernet header plus `encap_size`, less 20, less 16
  again, and `header_length` is `encap_size - 28`.
-/

namespace Bess

open Bytes

/-- A single-segment packet: the buffer and the offset of `head_data` in it. -/
structure Packet where
  buf : List UInt8
  off : Nat
  deriving DecidableEq, Repr

namespace Packet

/-- The frame, from `head_data` to the end of the buffer. -/
def data (p : Packet) : List UInt8 := p.buf.drop p.off

/-- `total_len()`. -/
def totalLen (p : Packet) : Nat := p.buf.length - p.off

/-- `prepend(n)`: `n` more bytes at the front, taken from the headroom. -/
def prepend (p : Packet) (n : Nat) : Option Packet :=
  if n ≤ p.off then some { p with off := p.off - n } else none

/-- `adj(n)`: the first `n` bytes of the frame removed. -/
def adj (p : Packet) (n : Nat) : Option Packet :=
  if n ≤ p.totalLen then some { p with off := p.off + n } else none

@[simp] theorem length_data (p : Packet) : p.data.length = p.totalLen := by
  simp [data, totalLen]

end Packet

/-- `Ipv4` of the template: version 4, header length 5, id `0x513`, TTL 64, protocol UDP. -/
def ipv4Template : List UInt8 := [0x45, 0, 0, 0, 0x05, 0x13, 0, 0, 64, 17, 0, 0, 0, 0, 0, 0, 0, 0, 0, 0]

/-- `Udp` of the template: both ports `UDP_PORT_GTPU`. -/
def udpTemplate : List UInt8 := [0x08, 0x68, 0x08, 0x68, 0, 0, 0, 0]

/-- `Gtpv1` of the template: version 1, protocol type GTP, type `GTP_GPDU`. -/
def gtpv1Template : List UInt8 := [0x30, 0xFF, 0, 0, 0, 0, 0, 0]

/-- `Gtpv1SeqPDUExt` of the template: next extension type, the PDU session container. -/
def seqPDUExtTemplate : List UInt8 := [0, 0, 0, 0x85]

/-- `Gtpv1PDUSessExt` of the template: length 1 (in 4-byte units); `next_type` stays `0`. -/
def pduSessExtTemplate : List UInt8 := [1, 0, 0, 0]

/-- `outer_ip_template`, the packed `PacketTemplate`. -/
def outerIpTemplate : List UInt8 :=
  ipv4Template ++ udpTemplate ++ gtpv1Template ++ seqPDUExtTemplate ++ pduSessExtTemplate

/-- `encap_size` as `GtpuEncap::Init` sets it: the whole template with `add_psc`, and otherwise
the template less `sizeof(Gtpv1SeqPDUExt)` twice. -/
def encapSize (addPsc : Bool) : Nat :=
  if addPsc then outerIpTemplate.length else outerIpTemplate.length - 4 - 4

example : encapSize true = 44 ∧ encapSize false = 36 := by decide

/-- The metadata attributes the encapsulation reads. -/
structure EncapAttrs where
  pduType : UInt8
  qfi : UInt8
  toutSip : UInt32
  toutDip : UInt32
  toutTeid : UInt32
  toutUport : UInt16
  deriving DecidableEq, Repr

def defaultGate : Nat := 0
def forwardGate : Nat := 1

/-- The `uint16_t` lengths `gtplen`, `udplen` and `iplen` for `pkt_len` bytes after the
Ethernet header. -/
def gtpLen (addPsc : Bool) (pktLen : Nat) : Nat := (pktLen + encapSize addPsc - 8 - 8 - 20) % 2 ^ 16
def udpLen (addPsc : Bool) (pktLen : Nat) : Nat := (gtpLen addPsc pktLen + 8 + 8) % 2 ^ 16
def ipLen (addPsc : Bool) (pktLen : Nat) : Nat := (udpLen addPsc pktLen + 20) % 2 ^ 16

/-- From `bess::utils::Copy(iph, &outer_ip_template, encap_size)` to the store of `iph->dst`:
the outer header written at `iph` of `buf`, for a frame of `pktLen` bytes after its Ethernet
header. -/
def fillOuterHeader (addPsc : Bool) (a : EncapAttrs) (pktLen : Nat) (buf : List UInt8)
    (iph : Nat) : List UInt8 :=
  let udph := iph + 20
  -- `offsetof(PacketTemplate, gtph)` and `offsetof(PacketTemplate, psch)`
  let gtph := iph + 28
  let psch := iph + 40
  let buf := writeAt buf iph (outerIpTemplate.take (encapSize addPsc))
  let buf :=
    if addPsc then
      -- `gtph->ex = 1`, `psch->qfi = at_qfi`, `psch->pdu_type = at_pdu_type`
      let buf := setByte buf gtph (· ||| 0x04)
      let buf := setByte buf (psch + 2) fun (b : UInt8) => (b &&& 0xC0) ||| (a.qfi &&& 0x3F)
      setByte buf (psch + 1) fun (b : UInt8) =>
        (b &&& 0x0F) ||| ((a.pduType &&& 0x0F) <<< (4 : UInt8))
    else buf
  let buf := writeAt buf (gtph + 2) (toBE 2 (gtpLen addPsc pktLen))
  let buf := writeAt buf (gtph + 4) (toBE 4 a.toutTeid.toNat)
  let buf := writeAt buf (udph + 4) (toBE 2 (udpLen addPsc pktLen))
  -- `udph->src_port = udph->dst_port = (be16_t)(at_tout_uport)` stores the destination first
  let buf := writeAt buf (udph + 2) (toBE 2 a.toutUport.toNat)
  let buf := writeAt buf udph (toBE 2 a.toutUport.toNat)
  let buf := writeAt buf (iph + 2) (toBE 2 (ipLen addPsc pktLen))
  let buf := writeAt buf (iph + 12) (toBE 4 a.toutSip.toNat)
  writeAt buf (iph + 16) (toBE 4 a.toutDip.toNat)

/-- `GtpuEncap::ProcessBatch` on one packet: the gate it is emitted on, and the packet. -/
def gtpuEncap (addPsc : Bool) (a : EncapAttrs) (p : Packet) : Nat × Packet :=
  let pktLen := (p.totalLen - 14) % 2 ^ 16
  let eth := p.off
  match p.prepend (encapSize addPsc) with
  | none => (defaultGate, p)
  | some q =>
    let newP := q.off
    -- `memcpy(new_p, eth, sizeof(Ethernet))`
    let buf := writeAt q.buf newP ((q.buf.drop eth).take 14)
    (forwardGate, { q with buf := fillOuterHeader addPsc a pktLen buf (newP + 14) })

/-- `GtpuDecap::ProcessBatch` on one packet: `none` when `header_length` does not return a
length inside the frame, or when `adj` fails and the copy of the Ethernet header would go
through a null pointer. -/
def gtpuDecap (p : Packet) : Option Packet := do
  let ihl ← p.data[14]?.map fun b => (b &&& 0x0F).toNat
  let hdr := p.data.drop (14 + ihl * 4 + 8)
  let hl ← (headerLength hdr (hdr.length + 1)).join
  let q ← p.adj (ihl * 4 + 8 + hl)
  -- `memcpy(new_p, eth, sizeof(*eth))` from the old `head_data`
  pure { q with buf := writeAt q.buf q.off ((p.buf.drop p.off).take 14) }

/-- The outer IPv4, UDP and GTP-U headers, and with `add_psc` the two extension words, that an
encapsulation of `pktLen` bytes is meant to carry. -/
def outerHeader (addPsc : Bool) (a : EncapAttrs) (pktLen : Nat) : List UInt8 :=
  ([0x45, 0] ++ toBE 2 (ipLen addPsc pktLen) ++ [0x05, 0x13, 0, 0, 64, 17, 0, 0] ++
    toBE 4 a.toutSip.toNat ++ toBE 4 a.toutDip.toNat) ++
  (toBE 2 a.toutUport.toNat ++ toBE 2 a.toutUport.toNat ++ toBE 2 (udpLen addPsc pktLen) ++
    [0, 0]) ++
  ([if addPsc then 0x34 else 0x30, 0xFF] ++ toBE 2 (gtpLen addPsc pktLen) ++
    toBE 4 a.toutTeid.toNat) ++
  (if addPsc then [0, 0, 0, 0x85, 1, (a.pduType &&& 0x0F) <<< (4 : UInt8), a.qfi &&& 0x3F, 0]
    else [])

@[simp] theorem length_outerHeader (addPsc : Bool) (a : EncapAttrs) (pktLen : Nat) :
    (outerHeader addPsc a pktLen).length = encapSize addPsc := by
  cases addPsc <;> simp [outerHeader, encapSize, outerIpTemplate, ipv4Template, udpTemplate,
    gtpv1Template, seqPDUExtTemplate, pduSessExtTemplate]

/-! ## The stores stay inside the header -/

variable {addPsc : Bool} {a : EncapAttrs} {pktLen : Nat}

/-- The stores through `iph` leave the bytes before `iph` alone. -/
theorem fillOuterHeader_append_right (A M : List UInt8) (k : Nat) :
    fillOuterHeader addPsc a pktLen (A ++ M) (A.length + k) =
      A ++ fillOuterHeader addPsc a pktLen M k := by
  cases addPsc <;>
  simp (disch := omega) only [fillOuterHeader, writeAt_append_right, setByte_append_right,
    Nat.add_assoc, Nat.add_sub_cancel_left, Bool.false_eq_true, if_true, if_false]

/-- The stores through `iph = 0` of a buffer whose first `encap_size` bytes are `X` overwrite
`X` and leave the rest alone. -/
theorem fillOuterHeader_append_left (X R : List UInt8) (hX : X.length = encapSize addPsc) :
    fillOuterHeader addPsc a pktLen (X ++ R) 0 =
      fillOuterHeader addPsc a pktLen X 0 ++ R := by
  have hE : encapSize true = 44 ∧ encapSize false = 36 := by decide
  have hT : (outerIpTemplate.take 44).length = 44 ∧ (outerIpTemplate.take 36).length = 36 := by
    decide
  -- every store lies inside the `encap_size` bytes at `iph`; the length of each buffer is
  -- computed from the inside out, so that it is a numeral at every store
  cases addPsc <;>
  simp (disch := simp +decide only [length_writeAt_eq, setByte, length_toBE,
      List.length_singleton, hX, hE, hT, Nat.min_def, Nat.reduceAdd, Nat.reduceSub,
      Nat.reduceLeDiff, if_true, if_false]) only
    [fillOuterHeader, writeAt_append_left, setByte_append_left, Bool.false_eq_true, if_true,
      if_false]

/-- On the `encap_size` bytes at `iph`, the stores build `outerHeader`. -/
theorem fillOuterHeader_template (X : List UInt8) (hX : X.length = encapSize addPsc) :
    fillOuterHeader addPsc a pktLen X 0 = outerHeader addPsc a pktLen := by
  -- the template overwrites `X`; the stores then land on literal bytes, except `gtph->ex`,
  -- whose result `0x30 ||| 0x04` is left to `decide`
  cases addPsc <;>
  simp [fillOuterHeader, outerHeader, writeAt, setByte, toBE, outerIpTemplate, ipv4Template,
    udpTemplate, gtpv1Template, seqPDUExtTemplate, pduSessExtTemplate, encapSize, hX]
  decide

/-! ## Reading the outer header -/

/-- The three length fields of the outer header. -/
theorem readBE_outerHeader (addPsc : Bool) (a : EncapAttrs) (n : Nat) :
    readBE (outerHeader addPsc a n) 2 2 = ipLen addPsc n ∧
    readBE (outerHeader addPsc a n) 24 2 = udpLen addPsc n ∧
    readBE (outerHeader addPsc a n) 30 2 = gtpLen addPsc n := by
  cases addPsc <;>
  simp [outerHeader, readBE, List.drop_append, List.drop_eq_nil_of_le, ofBE_toBE, ipLen, udpLen,
    gtpLen]

/-- Without overflow, the lengths are those of the frame plus the outer headers, less the IPv4
header, then less the UDP header. -/
theorem ipLen_eq {n : Nat} (h : n + encapSize addPsc ≤ 65535) :
    ipLen addPsc n = n + encapSize addPsc ∧ udpLen addPsc n = n + encapSize addPsc - 20 ∧
      gtpLen addPsc n = n + encapSize addPsc - 36 := by
  have he : 36 ≤ encapSize addPsc := by cases addPsc <;> decide
  have hg : gtpLen addPsc n = n + encapSize addPsc - 36 := by
    unfold gtpLen
    rw [Nat.mod_eq_of_lt (by omega)]
    omega
  have hu : udpLen addPsc n = n + encapSize addPsc - 20 := by
    unfold udpLen
    rw [hg, Nat.mod_eq_of_lt (by omega)]
    omega
  refine ⟨?_, hu, hg⟩
  unfold ipLen
  rw [hu, Nat.mod_eq_of_lt (by omega)]
  omega

/-- `header_length` of the outer GTP-U header, whatever follows it, is `encap_size - 28`: with
`add_psc` the walk reads the `0x85` of the sequence word, the length `1` of the container and
its `next_type`, which is `0`. -/
theorem headerLength_outerHeader (addPsc : Bool) (a : EncapAttrs) (n : Nat) (R : List UInt8)
    (fuel : Nat) :
    headerLength ((outerHeader addPsc a n).drop 28 ++ R) (fuel + 2) =
      some (some (encapSize addPsc - 28)) := by
  cases addPsc with
  | false =>
    have h0 : ((outerHeader false a n).drop 28 ++ R)[0]? = some 0x30 := by
      simp [outerHeader, toBE]
    rw [headerLength_of_no_ext h0 (by decide)]
    rfl
  | true =>
    let hdr := (outerHeader true a n).drop 28 ++ R
    have h0 : hdr[0]? = some 0x34 := by simp [hdr, outerHeader, toBE]
    have h11 : hdr[12 - 1]? = some 0x85 := by simp [hdr, outerHeader, toBE]
    have h12 : hdr[12]? = some 1 := by simp [hdr, outerHeader, toBE]
    have h15 : hdr[16 - 1]? = some 0 := by simp [hdr, outerHeader, toBE]
    have hnext : extWalkStep hdr 12 = .next 16 := extWalkStep_next h11 (by decide) h12
    have hdone : extWalkStep hdr 16 = .done 16 := extWalkStep_done h15
    have hstart : headerLengthStart 0x34 = 12 := by decide
    -- the walk reads the container's next type and its length, then stops at its end
    calc headerLength hdr (fuel + 2)
        = Loop.run (extWalkStep hdr) (fuel + 2) 12 := by
          rw [headerLength_of_ext h0 (by decide), hstart]
      _ = some (some 16) := by rw [Loop.run_succ_next hnext, Loop.run_succ_done hdone]

/-- In a frame of an Ethernet header, an outer header and anything after them, the GTP-U header
at `42`, measured with the fuel `gtpuDecap` gives it, is `encap_size - 28` long. -/
theorem headerLength_frame_outerHeader (addPsc : Bool) (a : EncapAttrs) (n : Nat)
    (E R : List UInt8) (hE : E.length = 14) :
    (headerLength ((E ++ outerHeader addPsc a n ++ R).drop 42)
      (((E ++ outerHeader addPsc a n ++ R).drop 42).length + 1)).join =
      some (encapSize addPsc - 28) := by
  have h28 : 28 ≤ (outerHeader addPsc a n).length := by
    rw [length_outerHeader]; cases addPsc <;> decide
  have hdrop : (E ++ outerHeader addPsc a n ++ R).drop 42 =
      (outerHeader addPsc a n).drop 28 ++ R := by
    rw [show 42 = E.length + 28 by rw [hE], List.append_assoc, List.drop_length_add_append,
      List.drop_append_of_le_length h28]
  -- the walk needs two iterations, and the header is at least 8 bytes long
  have hfuel : ((outerHeader addPsc a n).drop 28 ++ R).length + 1 =
      (((outerHeader addPsc a n).drop 28 ++ R).length - 1) + 2 := by
    have : 8 ≤ ((outerHeader addPsc a n).drop 28).length := by
      rw [List.length_drop, length_outerHeader]; cases addPsc <;> decide
    simp only [List.length_append]; omega
  rw [hdrop, hfuel, headerLength_outerHeader]
  rfl

/-! ## Encapsulation and decapsulation -/

/-- **Encapsulation.** With room for the outer headers, the frame becomes its Ethernet header,
`outerHeader`, and the rest of the frame. -/
theorem gtpuEncap_data (p : Packet) (hL : 14 ≤ p.totalLen) (hroom : encapSize addPsc ≤ p.off) :
    (gtpuEncap addPsc a p).1 = forwardGate ∧
    (gtpuEncap addPsc a p).2.data =
      p.data.take 14 ++ outerHeader addPsc a ((p.totalLen - 14) % 2 ^ 16) ++ p.data.drop 14 := by
  set newP := p.off - encapSize addPsc with hnewP
  have hprep : p.prepend (encapSize addPsc) = some { p with off := newP } := if_pos hroom
  have hlen : p.off + 14 ≤ p.buf.length := by unfold Packet.totalLen at hL; omega
  -- the buffer after `memcpy(new_p, eth, ...)`: headroom, Ethernet header, the bytes the
  -- template goes over, and the rest of the frame
  let A := p.buf.take newP ++ p.data.take 14
  let X := (p.buf.drop (newP + 14)).take (encapSize addPsc)
  have hA : A.length = newP + 14 := by
    simp only [A, List.length_append, List.length_take, Packet.length_data, Packet.totalLen]
    omega
  have hX : X.length = encapSize addPsc := by
    simp only [X, List.length_take, List.length_drop]; omega
  have hrest : p.buf.drop (newP + 14 + encapSize addPsc) = p.data.drop 14 := by
    simp only [Packet.data, List.drop_drop]; congr 1; omega
  have hsplit : p.buf.drop (newP + 14) = X ++ p.data.drop 14 := by
    have h := List.take_append_drop (encapSize addPsc) (p.buf.drop (newP + 14))
    rw [List.drop_drop, hrest] at h
    exact h.symm
  have hcopy : writeAt p.buf newP ((p.buf.drop p.off).take 14) = A ++ (X ++ p.data.drop 14) := by
    have hE' : ((p.buf.drop p.off).take 14).length = 14 := by
      simp only [List.length_take, List.length_drop]; omega
    rw [writeAt, hE', hsplit]
    simp only [A, Packet.data, List.append_assoc]
  have hfill := @fillOuterHeader_append_right addPsc a ((p.totalLen - 14) % 2 ^ 16) A
    (X ++ p.data.drop 14) 0
  rw [fillOuterHeader_append_left X _ hX, fillOuterHeader_template X hX, hA, Nat.add_zero] at hfill
  refine ⟨by simp only [gtpuEncap, hprep], ?_⟩
  simp only [gtpuEncap, hprep, hcopy, hfill]
  show (A ++ (outerHeader addPsc a ((p.totalLen - 14) % 2 ^ 16) ++ p.data.drop 14)).drop newP = _
  rw [List.append_assoc, List.drop_left' (by simp only [List.length_take]; omega)]
  simp only [List.append_assoc]

/-- **Decapsulation.** A frame made of an Ethernet header, an `outerHeader` and a payload
decapsulates to the Ethernet header and the payload. -/
theorem gtpuDecap_outer (q : Packet) (E R : List UInt8) (hE : E.length = 14) (n : Nat)
    (hq : q.data = E ++ outerHeader addPsc a n ++ R) :
    (gtpuDecap q).map Packet.data = some (E ++ R) := by
  have hlenq : q.data.length = 14 + encapSize addPsc + R.length := by
    rw [hq]; simp only [List.length_append, length_outerHeader, hE]
  have h14 : (q.data[14]?.map fun b => (b &&& 0x0F).toNat) = some 5 := by
    rw [hq, List.append_assoc, List.getElem?_append_right (by omega), hE]
    cases addPsc <;> simp [outerHeader]
  have hhl : (headerLength (q.data.drop (14 + 5 * 4 + 8))
      ((q.data.drop (14 + 5 * 4 + 8)).length + 1)).join = some (encapSize addPsc - 28) := by
    rw [hq]
    exact headerLength_frame_outerHeader addPsc a n E R hE
  have hadj : 5 * 4 + 8 + (encapSize addPsc - 28) = encapSize addPsc := by
    cases addPsc <;> decide
  have hroom : encapSize addPsc ≤ q.totalLen := by rw [← Packet.length_data, hlenq]; omega
  have hcopy : (q.buf.drop q.off).take 14 = E := by
    change q.data.take 14 = E
    rw [hq, List.append_assoc, List.take_left' hE]
  simp only [gtpuDecap, h14, Option.bind_eq_bind, Option.bind_some, hhl, hadj, Packet.adj,
    if_pos hroom, hcopy, Option.map_some, pure]
  have hoff : q.off + encapSize addPsc ≤ q.buf.length := by
    have := Packet.length_data q; unfold Packet.totalLen at this; omega
  show some ((writeAt q.buf (q.off + encapSize addPsc) E).drop (q.off + encapSize addPsc)) =
    some (E ++ R)
  rw [drop_writeAt_self hoff, hE]
  congr 2
  have hR : q.buf.drop (q.off + encapSize addPsc + 14) =
      q.data.drop (E.length + (outerHeader addPsc a n).length) := by
    simp only [Packet.data, List.drop_drop, hE, length_outerHeader]; congr 1; omega
  rw [hR, hq, List.append_assoc, List.drop_length_add_append, List.drop_left]

/-- **Round trip**: decapsulation after encapsulation gives the frame back. -/
theorem gtpuDecap_gtpuEncap (addPsc : Bool) (a : EncapAttrs) (p : Packet)
    (hL : 14 ≤ p.totalLen) (hfit : p.totalLen - 14 + encapSize addPsc ≤ 65535)
    (hroom : encapSize addPsc ≤ p.off) :
    (gtpuEncap addPsc a p).1 = forwardGate ∧
    (gtpuDecap (gtpuEncap addPsc a p).2).map Packet.data = some p.data ∧
    readBE (gtpuEncap addPsc a p).2.data 16 2 = p.totalLen - 14 + encapSize addPsc ∧
    readBE (gtpuEncap addPsc a p).2.data 38 2 = readBE (gtpuEncap addPsc a p).2.data 16 2 - 20 ∧
    readBE (gtpuEncap addPsc a p).2.data 44 2 = readBE (gtpuEncap addPsc a p).2.data 38 2 - 16 ∧
    (headerLength ((gtpuEncap addPsc a p).2.data.drop 42)
      (((gtpuEncap addPsc a p).2.data.drop 42).length + 1)).join = some (encapSize addPsc - 28) := by
  obtain ⟨hgate, hdata⟩ := gtpuEncap_data (a := a) p hL hroom
  set n := (p.totalLen - 14) % 2 ^ 16 with hn
  have hn' : n = p.totalLen - 14 := Nat.mod_eq_of_lt (by omega)
  have hE : (p.data.take 14).length = 14 := by simp; omega
  obtain ⟨hip, hudp, hgtp⟩ := @ipLen_eq addPsc n (by omega)
  obtain ⟨rip, rudp, rgtp⟩ := readBE_outerHeader addPsc a n
  have hO : 50 ≤ (p.data.take 14 ++ outerHeader addPsc a n).length := by
    simp only [List.length_append, hE, length_outerHeader]; cases addPsc <;> decide
  -- each length field lies inside the outer header
  have read : ∀ k, k + 2 ≤ 14 + 30 + 2 → 14 ≤ k →
      readBE (gtpuEncap addPsc a p).2.data k 2 = readBE (outerHeader addPsc a n) (k - 14) 2 := by
    intro k hk hk'
    rw [hdata, readBE_append_left (by omega), readBE_append_right (by omega), hE]
  have r16 := read 16 (by omega) (by omega)
  have r38 := read 38 (by omega) (by omega)
  have r44 := read 44 (by omega) (by omega)
  simp only [Nat.reduceSub] at r16 r38 r44
  rw [rip, hip] at r16; rw [rudp, hudp] at r38; rw [rgtp, hgtp] at r44
  refine ⟨hgate, ?_, by rw [r16, hn'], by rw [r38, r16], by rw [r44, r38]; omega, ?_⟩
  · rw [gtpuDecap_outer _ (p.data.take 14) (p.data.drop 14) hE n hdata, List.take_append_drop]
  · rw [hdata]
    exact headerLength_frame_outerHeader addPsc a n _ _ hE

/-- A frame of an Ethernet header and a 20-byte IPv4 header, with 44 bytes of headroom. -/
def samplePacket : Packet :=
  ⟨List.replicate 44 0 ++ [2, 0, 0, 0, 0, 1, 2, 0, 0, 0, 0, 2, 0x08, 0x00] ++
    [0x45, 0, 0, 20, 0, 0, 0, 0, 64, 17, 0, 0, 192, 168, 0, 1, 192, 168, 0, 2], 44⟩

theorem gtpuDecap_gtpuEncap_samplePacket :
    (14 ≤ samplePacket.totalLen ∧ samplePacket.totalLen - 14 + encapSize true ≤ 65535 ∧
      encapSize true ≤ samplePacket.off) ∧
    (gtpuDecap (gtpuEncap true ⟨1, 9, 0x0A000001, 0x0A000002, 0x1234, 2152⟩ samplePacket).2).map
      Packet.data = some samplePacket.data :=
  ⟨⟨by decide, by decide, by decide⟩,
    (gtpuDecap_gtpuEncap true ⟨1, 9, 0x0A000001, 0x0A000002, 0x1234, 2152⟩ samplePacket
      (by decide) (by decide) (by decide)).2.1⟩

end Bess
