import OmecUpf.Lib.Bytes
import OmecUpf.Pfcpiface.IdAllocator
import OmecUpf.Pfcpiface.IpPool

/-!
# The UPF and its datapath, as the PFCP handlers see them

`Upf` (`upf.go`) holds what the session handlers read and change: the access and core
addresses, the end-marker switch, the UE IP pool (nil unless `enable_ue_ip_alloc`), the TEID
allocator and the datapath. The datapath is the `Datapath` interface (`datapath.go`); the
handlers only call `SendMsgToUPF`, whose answer is the datapath's, so the model takes the
causes it answers as given (`Datapath.answer`) and records every call.

* `has1stBit`, `has2ndBit`, `has5thBit`, `ip2int`, `ipMask2int`, `int2ip`: the helpers of
  `utils.go`; `ip2int` panics on a slice shorter than four bytes.
* `AppPFD`: an application's PFD (`pfd.go`).
* `DatapathCall`, `Datapath`, `Datapath.sendMsgToUPF`, `Datapath.sendEndMarkers`; `Upf`.
-/

namespace Pfcpiface

open Go

def has1stBit (f : UInt8) : Bool := f &&& 0x01 == 1

def has2ndBit (f : UInt8) : Bool := (f &&& 0x02) >>> 1 == 1

def has5thBit (f : UInt8) : Bool := (f &&& 0x10) >>> 4 == 1

/-- `ip2int`: the big-endian value of the last four bytes of a 16-byte address, or of the
first four bytes of any other slice. `binary.BigEndian.Uint32` first reads `b[3]`, and panics
when the slice is shorter. -/
def ip2int (ip : List UInt8) : Except Abort UInt32 :=
  let b := if ip.length = 16 then ip.drop 12 else ip
  if b.length < 4 then .error (.panic (.indexOutOfRange 3 b.length))
  else .ok (Bytes.ofBE (b.take 4)).toUInt32

/-- `ipMask2int`, the body of `ip2int` on a `net.IPMask`. -/
def ipMask2int (ip : List UInt8) : Except Abort UInt32 := ip2int ip

/-- `int2ip`: the four big-endian bytes. -/
def int2ip (nn : UInt32) : List UInt8 := Bytes.toBE 4 nn.toNat

/-- A 4-byte address is read whole and never panics. -/
theorem ip2int_of_length_four {ip : List UInt8} (h : ip.length = 4) :
    ip2int ip = .ok (Bytes.ofBE (ip.take 4)).toUInt32 := by
  unfold ip2int
  rw [if_neg (show ¬ ip.length = 16 by omega), if_neg (show ¬ ip.length < 4 by omega)]

theorem ip2int_int2ip (nn : UInt32) : ip2int (int2ip nn) = .ok nn := by
  have hlen : (int2ip nn).length = 4 := Bytes.length_toBE 4 _
  have hval : (Bytes.ofBE (int2ip nn)).toUInt32 = nn := by
    rw [int2ip, Bytes.ofBE_toBE_of_lt nn.toNat_lt]
    exact UInt32.ofNat_toNat
  rw [ip2int_of_length_four hlen, List.take_of_length_le (by omega), hval]

/-- `appPFD`: an application ID and its flow descriptions. -/
structure AppPFD where
  appID : String
  flowDescs : List String
  deriving DecidableEq, Repr

/-- A call of `SendMsgToUPF(method, session, new)`. -/
structure DatapathCall where
  method : UpfMsgType
  session : PFCPSession
  rules : PacketForwardingRules
  deriving DecidableEq, Repr

/-- The datapath: the cause it answers to its `n`-th call of `SendMsgToUPF`, whether its
channel is up (`IsConnected`), the calls made so far, and the lists of end markers it was
given. -/
structure Datapath where
  answer : Nat → UInt8
  connected : Bool := true
  calls : List DatapathCall := []
  endMarkers : List (List EndMarker) := []

/-- `SendMsgToUPF(method, session, new)`: the datapath's cause, and the call recorded. -/
def Datapath.sendMsgToUPF (d : Datapath) (method : UpfMsgType) (session : PFCPSession)
    (rules : PacketForwardingRules) : UInt8 × Datapath :=
  (d.answer d.calls.length, { d with calls := d.calls ++ [⟨method, session, rules⟩] })

/-- `SendEndMarkers(&endMarkerList)`; the handler only logs its error. -/
def Datapath.sendEndMarkers (d : Datapath) (endMarkerList : List EndMarker) : Datapath :=
  { d with endMarkers := d.endMarkers ++ [endMarkerList] }

structure Upf where
  enableEndMarker : Bool := false
  /-- `enable_hbTimer`: `HandlePFCPMsg` starts a heartbeat monitor after an Association Setup
  Request it accepts, and so does `sendAssociationRequest` after its setup. -/
  enableHBTimer : Bool := false
  accessIP : List UInt8
  coreIP : List UInt8
  /-- `nil` unless `enable_ue_ip_alloc` is set. -/
  ippool : Option IPPool
  teidAllocator : IDAllocator
  datapath : Datapath

/-- `upf.SendMsgToUPF`, through the embedded datapath. -/
def Upf.sendMsgToUPF (upf : Upf) (method : UpfMsgType) (session : PFCPSession)
    (rules : PacketForwardingRules) : UInt8 × Upf :=
  let (cause, d) := upf.datapath.sendMsgToUPF method session rules
  (cause, { upf with datapath := d })

def Upf.sendEndMarkers (upf : Upf) (endMarkerList : List EndMarker) : Upf :=
  { upf with datapath := upf.datapath.sendEndMarkers endMarkerList }

@[simp] theorem Upf.sendMsgToUPF_teidAllocator (upf : Upf) (m : UpfMsgType) (s : PFCPSession)
    (r : PacketForwardingRules) : (upf.sendMsgToUPF m s r).2.teidAllocator = upf.teidAllocator :=
  rfl

@[simp] theorem Upf.sendMsgToUPF_ippool (upf : Upf) (m : UpfMsgType) (s : PFCPSession)
    (r : PacketForwardingRules) : (upf.sendMsgToUPF m s r).2.ippool = upf.ippool :=
  rfl

end Pfcpiface
