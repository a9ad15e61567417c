import OmecUpf.Bess.Gtpu

/-!
# GTP-U echo

`GtpuEcho::process_echo_request` (`modules/gtpu_echo.cc`) turns a GTP-U echo request into its
response in place: it sets the message type, adds a 2-byte recovery IE after the GTP-U payload,
swaps the IPv4 addresses and the UDP ports, and grows the IPv4, UDP and GTP-U lengths by the
size of the IE. The IE goes into the Ethernet padding after the IPv4 packet when

    p->total_len() - (sizeof(Ethernet) + iph->length.value() + sizeof(struct gtpu_recovery_ie_t))

is not zero, and into two bytes appended to the frame otherwise. The test is a `size_t`
difference: it is zero only when the padding is exactly two bytes, and not when there is less.

An mbuf is its data room, the offset of `head_data` in it and the length of the frame, which
fits in the room. A load reads the room; a load or a store beyond the room is `outOfBuffer`.

* `Mbuf`, `load`, `store`; `Frame p q lo hi`: `q` is `p` but for the bytes of `[lo, hi)`, with
  `store_frame`, `Frame.trans`, `Frame.load_eq`. `p->append` is DPDK's `rte_pktmbuf_append`,
  outside this repository: the model takes it as a parameter `append`, and what is proved holds
  for every one (`Mbuf.append`, DPDK's documented behaviour, is the one the samples use).
* `placeRecoveryIe`, `setEchoResponse`, `swapIpv4`, `swapUdp`: the parts of
  `processEchoRequest`, each with its spec; `gtpuEcho`: `ProcessBatch` on one packet.
* `EchoRequest p pad`: the IPv4, UDP and GTP-U lengths agree, and `pad` bytes follow the IPv4
  packet; `processEchoRequest_reuse`: what the response is when the padding is not two bytes.
* **`processEchoRequest_short_padding`**: with less than two bytes of padding, the IE is stored
  across or past the end of the frame, and the new IPv4 length exceeds the frame.
* **`processEchoRequest_long_padding`**: with three bytes or more, the response keeps the frame's
  length and is again a request-shaped frame with two bytes less padding: its IPv4, UDP and GTP-U
  lengths have grown by two and still agree, the IE lies right after the GTP-U payload, and the
  IPv4 packet ends inside the frame.
-/

namespace Bess

open Bytes

/-- `GTPU_ECHO_RESPONSE`, `GTPU_ECHO_RECOVERY`, `sizeof(struct gtpu_recovery_ie_t)`. -/
def gtpuEchoResponse : UInt8 := 0x02
def gtpuEchoRecovery : UInt8 := 14
def recoveryIeSize : Nat := 2

/-- A single-segment mbuf: its data room, `data_off` and `data_len`. The room is at most
`buf_len`, a `uint16_t`, and the frame fits in it. -/
structure Mbuf where
  buf : List UInt8
  off : Nat
  len : Nat
  fits : off + len ≤ buf.length
  room_lt : buf.length < 2 ^ 16

namespace Mbuf

variable (p : Mbuf)

/-- The frame, `len` bytes from `head_data`. -/
def data : List UInt8 := (p.buf.drop p.off).take p.len

/-- The byte `i` bytes after `head_data`. -/
def byte (i : Nat) : Option UInt8 := p.buf[p.off + i]?

/-- The big-endian field of width `w` at `i` bytes after `head_data`. -/
def load (i w : Nat) : Option Nat := readField p.buf (p.off + i) w

/-- The store of `src` at `i` bytes after `head_data`. -/
def store (i : Nat) (src : List UInt8) : Option Mbuf :=
  if h : p.off + i + src.length ≤ p.buf.length then
    some ⟨writeAt p.buf (p.off + i) src, p.off, p.len, by rw [length_writeAt h]; exact p.fits,
      by rw [length_writeAt h]; exact p.room_lt⟩
  else none

/-- `rte_pktmbuf_append(m, n)` as DPDK documents it: the frame grows by `n` bytes of tailroom, and
the call fails beyond it. DPDK is not part of this repository: `processEchoRequest` takes
`p->append` as a parameter, and only the samples use this one. -/
def append (n : Nat) : Option Mbuf :=
  if h : p.off + p.len + n ≤ p.buf.length then
    some ⟨p.buf, p.off, p.len + n, by omega, p.room_lt⟩
  else none

/-- `q` is `p` with only the bytes in `[lo, hi)` changed. -/
structure Frame (p q : Mbuf) (lo hi : Nat) : Prop where
  off : q.off = p.off
  len : q.len = p.len
  room : q.buf.length = p.buf.length
  byte : ∀ j, j < lo ∨ hi ≤ j → q.byte j = p.byte j

variable {p} {q r : Mbuf} {i j w lo hi lo' hi' : Nat} {src : List UInt8}

theorem load_congr (hoff : q.off = p.off) (hroom : q.buf.length = p.buf.length)
    (h : ∀ k < w, q.byte (j + k) = p.byte (j + k)) : q.load j w = p.load j w := by
  have htake : (q.buf.drop (q.off + j)).take w = (p.buf.drop (p.off + j)).take w := by
    apply List.ext_getElem?
    intro k
    simp only [List.getElem?_take, List.getElem?_drop]
    split
    · have := h k ‹_›
      simp only [byte, hoff, Nat.add_assoc] at this ⊢
      exact this
    · rfl
  unfold load readField readBE
  rw [htake, hoff, hroom]

theorem Frame.load_eq (h : Frame p q lo hi) (hd : j + w ≤ lo ∨ hi ≤ j) :
    q.load j w = p.load j w :=
  load_congr h.off h.room fun k hk => h.byte (j + k) (by omega)

theorem Frame.trans (h₁ : Frame p q lo hi) (h₂ : Frame q r lo' hi') :
    Frame p r (min lo lo') (max hi hi') where
  off := h₂.off.trans h₁.off
  len := h₂.len.trans h₁.len
  room := h₂.room.trans h₁.room
  byte j hj := (h₂.byte j (by omega)).trans (h₁.byte j (by omega))

theorem Frame.mono (h : Frame p q lo hi) (hlo : lo' ≤ lo) (hhi : hi ≤ hi') : Frame p q lo' hi' :=
  ⟨h.off, h.len, h.room, fun j hj => h.byte j (by omega)⟩

theorem exists_store (p : Mbuf) (i : Nat) (src : List UInt8)
    (h : p.off + i + src.length ≤ p.buf.length) : ∃ q, p.store i src = some q :=
  ⟨_, dif_pos h⟩

theorem load_eq_some (h : p.off + i + w ≤ p.buf.length) :
    p.load i w = some (readBE p.buf (p.off + i) w) :=
  if_pos h

theorem store_frame (h : p.store i src = some q) : Frame p q i (i + src.length) := by
  unfold store at h
  split at h
  · next hfit =>
    cases h
    refine ⟨rfl, rfl, length_writeAt hfit, fun j hj => ?_⟩
    show (writeAt p.buf (p.off + i) src)[p.off + j]? = p.buf[p.off + j]?
    rcases hj with hj | hj
    · exact getElem?_writeAt_of_lt (by omega) (by omega)
    · exact getElem?_writeAt_of_ge hfit (by omega)
  · cases h

theorem store_load (h : p.store i src = some q) : q.load i src.length = some (ofBE src) := by
  unfold store at h
  split at h
  · next hfit =>
    cases h
    exact readField_writeAt_self hfit
  · cases h

theorem store_load_toBE {n : Nat} (h : p.store i (toBE w n) = some q) :
    q.load i w = some (n % 256 ^ w) := by
  have := store_load h
  rwa [length_toBE, ofBE_toBE] at this

theorem store_byte {b : UInt8} (h : p.store i [b] = some q) : q.byte i = some b := by
  unfold store at h
  split at h
  · next hfit =>
    cases h
    unfold byte writeAt
    rw [List.getElem?_append_left (by simp; omega),
      List.getElem?_append_right (by simp only [List.length_take]; omega)]
    simp only [List.length_take]
    rw [show p.off + i - min (p.off + i) p.buf.length = 0 by omega]
    rfl
  · cases h

/-- A field inside the frame is read from the frame. -/
theorem load_eq_data (h : i + w ≤ p.len) : p.load i w = some (readBE p.data i w) := by
  have hfit := p.fits
  unfold load readField readBE data
  rw [if_pos (by omega), List.drop_take, List.take_take, List.drop_drop,
    Nat.min_eq_left (by omega)]

theorem byte_eq_data (h : i < p.len) : p.byte i = p.data[i]? := by
  unfold byte data
  rw [List.getElem?_take_of_lt h, List.getElem?_drop]

end Mbuf

/-- How `process_echo_request` fails: `false` when `append` fails, and a load or a store beyond
the data room, where the C code reads or writes memory that is not the packet's. -/
inductive EchoFault where
  | appendFailed
  | outOfBuffer
  deriving DecidableEq, Repr

def inBuffer {α : Type} : Option α → Except EchoFault α
  | some a => .ok a
  | none => .error .outOfBuffer

-- `bess::Packet::append`, that is `rte_pktmbuf_append`, of a library outside this repository
variable (append : Mbuf → Nat → Option Mbuf)

/-- The choice of `recovery_ie`: in the padding after the GTP-U payload when the `size_t`
difference is not zero, else in two bytes appended to the frame. The packet and the offset of
the IE from `head_data`. -/
def placeRecoveryIe (p : Mbuf) (gtph : Nat) : Except EchoFault (Mbuf × Nat) := do
  let iplen ← inBuffer (p.load (14 + 2) 2)
  if UInt64.ofNat p.len - UInt64.ofNat (14 + iplen + recoveryIeSize) ≠ 0 then
    let gtplen ← inBuffer (p.load (gtph + 2) 2)
    pure (p, gtph + gtpv1Size + gtplen)
  else
    match append p recoveryIeSize with
    | some q => pure (q, p.len)
    | none => throw .appendFailed

/-- `gtph->type`, `gtph->length` and the recovery IE at `ie`. -/
def setEchoResponse (p : Mbuf) (gtph ie : Nat) : Option Mbuf := do
  let p ← p.store (gtph + 1) [gtpuEchoResponse]
  let gtplen ← p.load (gtph + 2) 2
  let p ← p.store (gtph + 2) (toBE 2 (gtplen + recoveryIeSize))
  let p ← p.store ie [gtpuEchoRecovery]
  p.store (ie + 1) [0]

/-- The shape of the IPv4 and the UDP part: the fields of width `w` at `a` and `b` of the header
at `base` swapped, the length at `lenOff` grown by the size of the IE, and the checksum at
`csumOff` zeroed. -/
def swapAndGrow (p : Mbuf) (base a b w lenOff csumOff : Nat) : Option Mbuf := do
  let x ← p.load (base + a) w
  let y ← p.load (base + b) w
  let p ← p.store (base + a) (toBE w y)
  let p ← p.store (base + b) (toBE w x)
  let l ← p.load (base + lenOff) 2
  let p ← p.store (base + lenOff) (toBE 2 (l + recoveryIeSize))
  p.store (base + csumOff) [0, 0]

/-- `std::swap(iph->src, iph->dst)`, `iph->length` and `iph->checksum = 0`. -/
def swapIpv4 (p : Mbuf) (iph : Nat) : Option Mbuf := swapAndGrow p iph 12 16 4 2 10

/-- `std::swap(udp->src_port, udp->dst_port)`, `udp->length` and `udp->checksum = 0`. -/
def swapUdp (p : Mbuf) (udp : Nat) : Option Mbuf := swapAndGrow p udp 0 2 2 4 6

/-- `GtpuEcho::process_echo_request`, with `iph`, `udp` and `gtph` as offsets from
`head_data`. -/
def processEchoRequest (p : Mbuf) : Except EchoFault Mbuf := do
  let iph := 14
  let b ← inBuffer (p.load iph 1)
  -- `iph->header_length`, the low four bits of the first byte
  let udp := iph + b % 16 * 4
  let gtph := udp + 8
  let (p, ie) ← placeRecoveryIe append p gtph
  let p ← inBuffer (setEchoResponse p gtph ie)
  let p ← inBuffer (swapIpv4 p iph)
  inBuffer (swapUdp p udp)

/-! ## The parts of the response -/

open Mbuf

section Parts

variable {p : Mbuf}

/-- **The GTP-U part.** With the IE after the GTP-U length and inside the data room: the type
and the length of the GTP-U header and the IE are stored, and nothing outside
`[gtph + 1, ie + 2)`. -/
theorem setEchoResponse_spec {gtph ie : Nat} (hie : gtph + 4 ≤ ie)
    (hroom : p.off + ie + 2 ≤ p.buf.length) :
    ∃ q, setEchoResponse p gtph ie = some q ∧ Frame p q (gtph + 1) (ie + 2) ∧
      q.load (gtph + 2) 2 = (p.load (gtph + 2) 2).map (fun n => (n + recoveryIeSize) % 256 ^ 2) ∧
      q.byte ie = some gtpuEchoRecovery ∧ q.byte (ie + 1) = some 0 := by
  obtain ⟨q₁, h₁⟩ := exists_store p (gtph + 1) [gtpuEchoResponse] (by simp; omega)
  have f₁ := store_frame h₁
  have hn : p.load (gtph + 2) 2 = some (readBE p.buf (p.off + (gtph + 2)) 2) :=
    load_eq_some (by omega)
  have hn₁ : q₁.load (gtph + 2) 2 = p.load (gtph + 2) 2 := f₁.load_eq (by simp)
  obtain ⟨q₂, h₂⟩ := exists_store q₁ (gtph + 2)
    (toBE 2 (readBE p.buf (p.off + (gtph + 2)) 2 + recoveryIeSize))
    (by rw [length_toBE, f₁.off, f₁.room]; omega)
  have f₂ := store_frame h₂
  have hlen₂ := store_load h₂
  rw [length_toBE, ofBE_toBE] at hlen₂
  obtain ⟨q₃, h₃⟩ := exists_store q₂ ie [gtpuEchoRecovery]
    (by rw [f₂.off, f₂.room, f₁.off, f₁.room]; simp; omega)
  have f₃ := store_frame h₃
  obtain ⟨q₄, h₄⟩ := exists_store q₃ (ie + 1) [0]
    (by rw [f₃.off, f₃.room, f₂.off, f₂.room, f₁.off, f₁.room]; simp; omega)
  have f₄ := store_frame h₄
  refine ⟨q₄, ?_, ((f₁.trans f₂).trans (f₃.trans f₄)).mono (by simp; omega) (by simp; omega),
    ?_, ?_, store_byte h₄⟩
  · simp only [setEchoResponse, h₁, hn₁, hn, h₂, h₃, h₄, Option.bind_eq_bind, Option.bind_some]
  · -- the length is stored at `gtph + 2`, and the IE after it
    rw [f₄.load_eq (by simp; omega), f₃.load_eq (by simp; omega), hn, Option.map_some, hlen₂]
  · rw [f₄.byte ie (by simp), store_byte h₃]

/-- **The IPv4 and the UDP part.** With its four fields apart and inside the data room: the two
fields swapped, the length grown by the size of the IE and the checksum zeroed, and nothing
changed outside `[base + lo, base + hi)`. -/
theorem swapAndGrow_spec {base a b w lenOff csumOff lo hi : Nat} (hab : a + w ≤ b)
    (hlen : lenOff + 2 ≤ a ∨ b + w ≤ lenOff)
    (hcsum : (csumOff + 2 ≤ a ∨ b + w ≤ csumOff) ∧ (csumOff + 2 ≤ lenOff ∨ lenOff + 2 ≤ csumOff))
    (hlo : lo ≤ a ∧ lo ≤ lenOff ∧ lo ≤ csumOff)
    (hhi : b + w ≤ hi ∧ lenOff + 2 ≤ hi ∧ csumOff + 2 ≤ hi)
    (hroom : p.off + base + hi ≤ p.buf.length) :
    ∃ q, swapAndGrow p base a b w lenOff csumOff = some q ∧ Frame p q (base + lo) (base + hi) ∧
      q.load (base + a) w = p.load (base + b) w ∧ q.load (base + b) w = p.load (base + a) w ∧
      q.load (base + lenOff) 2 =
        (p.load (base + lenOff) 2).map (fun n => (n + recoveryIeSize) % 256 ^ 2) ∧
      q.load (base + csumOff) 2 = some 0 := by
  have hx : p.load (base + a) w = some (readBE p.buf (p.off + (base + a)) w) :=
    load_eq_some (by omega)
  have hy : p.load (base + b) w = some (readBE p.buf (p.off + (base + b)) w) :=
    load_eq_some (by omega)
  have hl : p.load (base + lenOff) 2 = some (readBE p.buf (p.off + (base + lenOff)) 2) :=
    load_eq_some (by omega)
  -- the two stores of the swap
  obtain ⟨q₁, h₁⟩ := exists_store p (base + a) (toBE w (readBE p.buf (p.off + (base + b)) w))
    (by rw [length_toBE]; omega)
  have f₁ := store_frame h₁
  rw [length_toBE] at f₁
  obtain ⟨q₂, h₂⟩ := exists_store q₁ (base + b) (toBE w (readBE p.buf (p.off + (base + a)) w))
    (by rw [length_toBE, f₁.off, f₁.room]; omega)
  have f₂ := store_frame h₂
  rw [length_toBE] at f₂
  -- the length, read after the swap, and the checksum
  have hl₂ : q₂.load (base + lenOff) 2 = some (readBE p.buf (p.off + (base + lenOff)) 2) := by
    rw [f₂.load_eq (by omega), f₁.load_eq (by omega), hl]
  obtain ⟨q₃, h₃⟩ := exists_store q₂ (base + lenOff)
    (toBE 2 (readBE p.buf (p.off + (base + lenOff)) 2 + recoveryIeSize))
    (by rw [length_toBE, f₂.off, f₂.room, f₁.off, f₁.room]; omega)
  have f₃ := store_frame h₃
  rw [length_toBE] at f₃
  obtain ⟨q₄, h₄⟩ := exists_store q₃ (base + csumOff) [0, 0]
    (by rw [f₃.off, f₃.room, f₂.off, f₂.room, f₁.off, f₁.room]; simp; omega)
  have f₄ := store_frame h₄
  simp only [List.length_cons, List.length_nil] at f₄
  refine ⟨q₄, ?_, ((f₁.trans f₂).trans (f₃.trans f₄)).mono (by omega) (by omega), ?_, ?_, ?_,
    store_load h₄⟩
  · simp only [swapAndGrow, hx, hy, h₁, h₂, hl₂, h₃, h₄, Option.bind_eq_bind, Option.bind_some]
  · rw [f₄.load_eq (by omega), f₃.load_eq (by omega), f₂.load_eq (by omega), store_load_toBE h₁,
      Nat.mod_eq_of_lt (readBE_lt _ _ _), hy]
  · rw [f₄.load_eq (by omega), f₃.load_eq (by omega), store_load_toBE h₂,
      Nat.mod_eq_of_lt (readBE_lt _ _ _), hx]
  · rw [f₄.load_eq (by omega), store_load_toBE h₃, hl, Option.map_some]

end Parts

/-! ## Echo requests -/

namespace Mbuf

variable (p : Mbuf)

/-- `iph->header_length`, and the IPv4, UDP and GTP-U length fields of the frame. -/
def ihl : Nat := readBE p.data 14 1 % 16
def ipLength : Nat := readBE p.data (14 + 2) 2
def udpLength : Nat := readBE p.data (14 + p.ihl * 4 + 4) 2
def gtpLength : Nat := readBE p.data (14 + p.ihl * 4 + 8 + 2) 2

end Mbuf

/-- An echo request: an IPv4 header of at least 20 bytes, IPv4, UDP and GTP-U lengths that
agree, and `pad` bytes of Ethernet padding after the IPv4 packet. -/
structure EchoRequest (p : Mbuf) (pad : Nat) : Prop where
  ihl_ge : 5 ≤ p.ihl
  ip_length : p.ipLength = p.ihl * 4 + p.udpLength
  udp_length : p.udpLength = 8 + gtpv1Size + p.gtpLength
  len_eq : p.len = 14 + p.ipLength + pad

/-- The `size_t` difference of the test is zero only for equal operands. -/
theorem sizeDiff_ne_zero {a b : Nat} (ha : a < 2 ^ 64) (hb : b < 2 ^ 64) :
    UInt64.ofNat a - UInt64.ofNat b ≠ 0 ↔ a ≠ b := by
  rw [Ne, Ne, ← UInt64.toNat_inj, UInt64.toNat_sub, UInt64.toNat_ofNat_of_lt' ha,
    UInt64.toNat_ofNat_of_lt' hb, UInt64.toNat_zero]
  omega

section Request

variable {p : Mbuf} {pad : Nat}

/-- The fields of a request that the response reads, read from its frame. -/
theorem EchoRequest.loads (hreq : EchoRequest p pad) :
    p.load 14 1 = some (readBE p.data 14 1) ∧ p.load (14 + 2) 2 = some p.ipLength ∧
      p.load (14 + p.ihl * 4 + 4) 2 = some p.udpLength ∧
      p.load (14 + p.ihl * 4 + 8 + 2) 2 = some p.gtpLength := by
  have := hreq.len_eq
  have := hreq.ip_length
  have := hreq.udp_length
  have : gtpv1Size = 8 := rfl
  exact ⟨load_eq_data (by omega), load_eq_data (by omega), load_eq_data (by omega),
    load_eq_data (by omega)⟩

/-- **The padding is reused unless it is two bytes.** The IE goes right after the IPv4 packet,
where the GTP-U payload ends. -/
theorem placeRecoveryIe_reuse (hreq : EchoRequest p pad) (hpad : pad ≠ 2) :
    placeRecoveryIe append p (14 + p.ihl * 4 + 8) = .ok (p, 14 + p.ipLength) := by
  obtain ⟨-, hip, -, hgtp⟩ := hreq.loads
  have hlen := hreq.len_eq
  have hfit := p.fits
  have hroom := p.room_lt
  have h2 : recoveryIeSize = 2 := rfl
  have htest : UInt64.ofNat p.len - UInt64.ofNat (14 + p.ipLength + recoveryIeSize) ≠ 0 :=
    (sizeDiff_ne_zero (by omega) (by omega)).mpr (by omega)
  have hie : 14 + p.ihl * 4 + 8 + gtpv1Size + p.gtpLength = 14 + p.ipLength := by
    rw [hreq.ip_length, hreq.udp_length]; omega
  simp only [placeRecoveryIe, hip, hgtp, inBuffer, bind, Except.bind, if_pos htest, pure,
    Except.pure, hie]

/-- **The response when the padding is reused.** Every byte outside `[16, ie + 2)` is kept;
the IE is stored right after the IPv4 packet, and the IPv4, UDP and GTP-U lengths grow by its
size. -/
theorem processEchoRequest_reuse (hreq : EchoRequest p pad) (hpad : pad ≠ 2)
    (hroom : p.off + 14 + p.ipLength + recoveryIeSize ≤ p.buf.length) :
    ∃ q, processEchoRequest append p = .ok q ∧
      Frame p q (14 + 2) (14 + p.ipLength + recoveryIeSize) ∧
      q.byte (14 + p.ipLength) = some gtpuEchoRecovery ∧
      q.byte (14 + p.ipLength + 1) = some 0 ∧
      q.load (14 + 2) 2 = some ((p.ipLength + recoveryIeSize) % 256 ^ 2) ∧
      q.load (14 + p.ihl * 4 + 4) 2 = some ((p.udpLength + recoveryIeSize) % 256 ^ 2) ∧
      q.load (14 + p.ihl * 4 + 8 + 2) 2 = some ((p.gtpLength + recoveryIeSize) % 256 ^ 2) := by
  obtain ⟨hb, hip, hudp, hgtp⟩ := hreq.loads
  have hihl := hreq.ihl_ge
  have hipl := hreq.ip_length
  have hudpl := hreq.udp_length
  have h8 : gtpv1Size = 8 := rfl
  have h2 : recoveryIeSize = 2 := rfl
  -- the GTP-U part, then the IPv4 header at `14`, then the UDP header after it
  obtain ⟨q₁, h₁, f₁, hg₁, hie₁, hie₁'⟩ :=
    @setEchoResponse_spec p (14 + p.ihl * 4 + 8) (14 + p.ipLength) (by omega) (by omega)
  obtain ⟨q₂, h₂, f₂, -, -, hl₂, -⟩ := @swapAndGrow_spec q₁ 14 12 16 4 2 10 2 20
    (by decide) (by decide) (by decide) (by decide) (by decide)
    (by rw [f₁.off, f₁.room]; omega)
  obtain ⟨q₃, h₃, f₃, -, -, hl₃, -⟩ := @swapAndGrow_spec q₂ (14 + p.ihl * 4) 0 2 2 4 6 0 8
    (by decide) (by decide) (by decide) (by decide) (by decide)
    (by rw [f₂.off, f₂.room, f₁.off, f₁.room]; omega)
  refine ⟨q₃, ?_, ((f₁.trans f₂).trans f₃).mono (by omega) (by omega), ?_, ?_, ?_, ?_, ?_⟩
  · have hb' : readBE p.data 14 1 % 16 = p.ihl := rfl
    simp only [processEchoRequest, hb, hb', placeRecoveryIe_reuse append hreq hpad, h₁, swapIpv4, h₂,
      swapUdp, h₃, inBuffer, bind, Except.bind]
  · rw [f₃.byte _ (by omega), f₂.byte _ (by omega), hie₁]
  · rw [f₃.byte _ (by omega), f₂.byte _ (by omega), hie₁']
  · rw [f₃.load_eq (by omega), hl₂, f₁.load_eq (by omega), hip, Option.map_some]
  · rw [hl₃, f₂.load_eq (by omega), f₁.load_eq (by omega), hudp, Option.map_some]
  · rw [f₃.load_eq (by omega), f₂.load_eq (by omega), hg₁, hgtp, Option.map_some]

theorem take_drop_eq_pair {l : List UInt8} {k : Nat} {a b : UInt8} (ha : l[k]? = some a)
    (hb : l[k + 1]? = some b) : (l.drop k).take 2 = [a, b] := by
  apply List.ext_getElem?
  intro i
  simp only [List.getElem?_take, List.getElem?_drop]
  rcases i with _ | _ | i
  · simpa using ha
  · simpa using hb
  · simp

/-- A length field grown by the size of the IE, below `2 ^ 16`, reads back as its sum. -/
theorem readBE_data_of_load {q : Mbuf} {i n : Nat} (hi : i + 2 ≤ q.len)
    (hl : q.load i 2 = some ((n + recoveryIeSize) % 256 ^ 2)) (hn : n + recoveryIeSize < 256 ^ 2) :
    readBE q.data i 2 = n + recoveryIeSize := by
  rw [load_eq_data hi, Nat.mod_eq_of_lt hn] at hl
  exact Option.some.inj hl

/-- **The IE past the end of the frame.** With less than two bytes of padding, the `size_t`
difference wraps and is not zero, so the IE is stored right after the IPv4 packet, although
the frame ends before the IE does; and the new IPv4 length exceeds the frame. -/
theorem processEchoRequest_short_padding (hreq : EchoRequest p pad) (hpad : pad < 2)
    (htail : p.off + p.len + recoveryIeSize ≤ p.buf.length) :
    ∃ q, processEchoRequest append p = .ok q ∧ q.len = p.len ∧
      q.byte (14 + p.ipLength) = some gtpuEchoRecovery ∧ q.byte (14 + p.ipLength + 1) = some 0 ∧
      q.len < 14 + p.ipLength + recoveryIeSize ∧ q.len < 14 + q.ipLength := by
  have hlen := hreq.len_eq
  have hipl := hreq.ip_length
  have hihl := hreq.ihl_ge
  have h2 : recoveryIeSize = 2 := rfl
  have hfit := p.fits
  have hroom := p.room_lt
  obtain ⟨q, hq, f, hie, hie', hip, -, -⟩ :=
    processEchoRequest_reuse append hreq (by omega) (by omega)
  have hqip : q.ipLength = p.ipLength + recoveryIeSize :=
    readBE_data_of_load (by rw [f.len]; omega) hip (by omega)
  exact ⟨q, hq, f.len, hie, hie', by rw [f.len]; omega, by rw [f.len, hqip]; omega⟩

/-- An echo request: Ethernet, IPv4 of length 40, UDP of length 20 to port 2152, and a GTP-U
header with a sequence number, of length 4. -/
def echoRequestFrame : List UInt8 :=
  [0, 0, 0, 0, 0, 1, 0, 0, 0, 0, 0, 2, 0x08, 0x00] ++
  [0x45, 0, 0, 40, 0, 0, 0, 0, 64, 17, 0, 0, 10, 0, 0, 1, 10, 0, 0, 2] ++
  [0x08, 0x68, 0x08, 0x68, 0, 20, 0, 0] ++
  [0x32, 0x01, 0, 4, 0, 0, 0, 0, 0, 1, 0, 0]

/-- The request without padding, with two bytes of tailroom. -/
def unpaddedEcho : Mbuf := ⟨echoRequestFrame ++ [0, 0], 0, 54, by decide, by decide⟩

theorem processEchoRequest_short_padding_unpadded :
    (EchoRequest unpaddedEcho 0 ∧ 0 < 2 ∧
      unpaddedEcho.off + unpaddedEcho.len + recoveryIeSize ≤ unpaddedEcho.buf.length) ∧
    ∃ q, processEchoRequest Mbuf.append unpaddedEcho = .ok q ∧ q.len = unpaddedEcho.len ∧
      q.byte (14 + unpaddedEcho.ipLength) = some gtpuEchoRecovery ∧
      q.byte (14 + unpaddedEcho.ipLength + 1) = some 0 ∧
      q.len < 14 + unpaddedEcho.ipLength + recoveryIeSize ∧ q.len < 14 + q.ipLength :=
  ⟨⟨⟨by decide, by decide, by decide, by decide⟩, by decide, by decide⟩,
    @processEchoRequest_short_padding Mbuf.append unpaddedEcho 0
      ⟨by decide, by decide, by decide, by decide⟩
      (by decide) (by decide)⟩

/-- **A well-formed response**, with three bytes of padding or more. -/
theorem processEchoRequest_long_padding (hreq : EchoRequest p pad) (hpad : 3 ≤ pad) :
    ∃ q, processEchoRequest append p = .ok q ∧ q.len = p.len ∧
      EchoRequest q (pad - recoveryIeSize) ∧
      q.ipLength = p.ipLength + recoveryIeSize ∧ q.udpLength = p.udpLength + recoveryIeSize ∧
      q.gtpLength = p.gtpLength + recoveryIeSize ∧
      (q.data.drop (14 + p.ipLength)).take recoveryIeSize = [gtpuEchoRecovery, 0] ∧
      14 + q.ipLength ≤ q.len := by
  have hlen := hreq.len_eq
  have hipl := hreq.ip_length
  have hudpl := hreq.udp_length
  have h2 : recoveryIeSize = 2 := rfl
  have h8 : gtpv1Size = 8 := rfl
  have hfit := p.fits
  have hroom := p.room_lt
  obtain ⟨q, hq, f, hie, hie', hip, hudp, hgtp⟩ := processEchoRequest_reuse append hreq (by omega)
    (by omega)
  have hqlen : q.len = p.len := f.len
  -- the byte of the header length is kept, so the fields are where they were
  have hqihl : q.ihl = p.ihl := by
    have h14 : q.load 14 1 = p.load 14 1 := f.load_eq (by omega)
    rw [load_eq_data (by omega), load_eq_data (by omega)] at h14
    unfold Mbuf.ihl
    rw [Option.some.inj h14]
  have hqip : q.ipLength = p.ipLength + recoveryIeSize :=
    readBE_data_of_load (by omega) hip (by omega)
  have hqudp : q.udpLength = p.udpLength + recoveryIeSize := by
    have e : q.udpLength = readBE q.data (14 + p.ihl * 4 + 4) 2 := by rw [Mbuf.udpLength, hqihl]
    rw [e]
    exact readBE_data_of_load (by omega) hudp (by omega)
  have hqgtp : q.gtpLength = p.gtpLength + recoveryIeSize := by
    have e : q.gtpLength = readBE q.data (14 + p.ihl * 4 + 8 + 2) 2 := by
      rw [Mbuf.gtpLength, hqihl]
    rw [e]
    exact readBE_data_of_load (by omega) hgtp (by omega)
  have hIE : (q.data.drop (14 + p.ipLength)).take recoveryIeSize = [gtpuEchoRecovery, 0] := by
    rw [byte_eq_data (by omega)] at hie hie'
    exact take_drop_eq_pair hie hie'
  refine ⟨q, hq, hqlen, ⟨?_, ?_, ?_, ?_⟩, hqip, hqudp, hqgtp, hIE, by omega⟩
  · rw [hqihl]
    exact hreq.ihl_ge
  · rw [hqip, hqudp, hqihl, hipl, Nat.add_assoc]
  · rw [hqudp, hqgtp, hudpl, Nat.add_assoc]
  · rw [hqlen, hqip, hlen]
    omega

/-- The request with four bytes of Ethernet padding. -/
def paddedEcho : Mbuf := ⟨echoRequestFrame ++ [0, 0, 0, 0], 0, 58, by decide, by decide⟩

theorem processEchoRequest_long_padding_padded :
    (EchoRequest paddedEcho 4 ∧ 3 ≤ 4) ∧
    ∃ q, processEchoRequest Mbuf.append paddedEcho = .ok q ∧ q.len = paddedEcho.len ∧
      EchoRequest q (4 - recoveryIeSize) ∧
      q.ipLength = paddedEcho.ipLength + recoveryIeSize ∧
      q.udpLength = paddedEcho.udpLength + recoveryIeSize ∧
      q.gtpLength = paddedEcho.gtpLength + recoveryIeSize ∧
      (q.data.drop (14 + paddedEcho.ipLength)).take recoveryIeSize = [gtpuEchoRecovery, 0] ∧
      14 + q.ipLength ≤ q.len :=
  ⟨⟨⟨by decide, by decide, by decide, by decide⟩, by decide⟩,
    @processEchoRequest_long_padding Mbuf.append paddedEcho 4
      ⟨by decide, by decide, by decide, by decide⟩
      (by decide)⟩

end Request

/-- `GtpuEcho::ProcessBatch` on one packet: the gate and the packet it is emitted with. -/
def gtpuEcho (p : Mbuf) : Option (Nat × Mbuf) :=
  match processEchoRequest append p with
  | .ok q => some (forwardGate, q)
  | .error .appendFailed => some (defaultGate, p)
  | .error .outOfBuffer => none

end Bess
