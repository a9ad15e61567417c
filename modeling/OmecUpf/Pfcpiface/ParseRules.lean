import OmecUpf.Lib.Go
import OmecUpf.Pfcpiface.Ie
import OmecUpf.Pfcpiface.Upf

/-!
# Parsing FARs, QERs and URRs

`Far.parseFAR` (`parse_far.go`), `Qer.parseQER` (`parse_qer.go`) and `Urr.parseURR`
(`parse_urr.go`) fill a rule from its Create or Update IE. The handlers drop the rule when the
parser returns an error, so each parser is modelled by the rule it returns.

* `Operation`, the Apply Action bits the agent reads, the Destination Interface values, `tunnelGTPUPort`.
* `Far.parseFwdIE`: one child of the Forwarding Parameters; the loop skips a child whose
  accessor fails. `Far.parseFAR`: `ip2int` of a short address panics.
* `Qer.parseQER`, `Urr.parseURR`: only the rule ID (and for a URR the measurement method and
  the triggers) can fail; the other accessors only log.
-/

namespace Pfcpiface

open Go

/-- `operation`: whether `parseFAR` reads a Create FAR or an Update FAR. -/
inductive Operation where
  | create
  | update
  deriving DecidableEq, Repr

def actionForward : UInt8 := 0x2
def actionNotify : UInt8 := 0x8

/-- The Destination Interface values of go-pfcp: `DstInterfaceAccess`, `DstInterfaceCore`. -/
def dstInterfaceAccess : UInt8 := 0
def dstInterfaceCore : UInt8 := 1

def tunnelGTPUPort : UInt16 := 2152

/-- One iteration of the loop over the Forwarding Parameters. The value of a Destination
Interface is stored before its error is checked; go-pfcp returns `0` with the error. -/
def Far.parseFwdIE (upf : Upf) (f : Far) : FwdIE → Except Abort Far
  | .outerHeaderCreation none => pure f
  | .outerHeaderCreation (some ohcFields) => do
    let tunnelIP4Dst ← ip2int ohcFields.ipv4Address
    pure { f with tunnelTEID := ohcFields.teid, tunnelIP4Dst, tunnelType := 1,
                  tunnelPort := tunnelGTPUPort }
  | .destinationInterface none => pure { f with dstIntf := 0 }
  | .destinationInterface (some dstIntf) => do
    let f := { f with dstIntf }
    if dstIntf = dstInterfaceAccess then pure { f with tunnelIP4Src := ← ip2int upf.accessIP }
    else if dstIntf = dstInterfaceCore then pure { f with tunnelIP4Src := ← ip2int upf.coreIP }
    else pure f
  | .pfcpSMReqFlags none => pure f
  | .pfcpSMReqFlags (some smReqFlags) =>
    pure (if has2ndBit smReqFlags then { f with sendEndMarker := true } else f)
  | .other => pure f

/-- `f.parseFAR(farIE, fseid, upf, op)` from a zero `Far`. A Create FAR reads its Forwarding
Parameters only when it forwards; an Update FAR always reads its Update Forwarding
Parameters. -/
def Far.parseFAR (farIE : FarIE) (fseid : UInt64) (upf : Upf) (op : Operation) :
    Fallible Error Far := do
  let f : Far := { fseID := fseid }
  let farID ← fromIE farIE.farID
  let f := { f with farID }
  let action ← fromIE farIE.applyAction
  if action = 0 then
    throw (.invalidArgument "FAR Action" (toString action))
  let f := { f with applyAction := action }
  let fwdIEs ← match op with
    | .create =>
      if f.applyAction &&& actionForward ≠ 0 then fromIE farIE.forwardingParameters
      else pure []
    | .update => fromIE farIE.updateForwardingParameters
  let f := { f with sendEndMarker := false }
  Fallible.ofAbort (fwdIEs.foldlM (Far.parseFwdIE upf) f)

/-- `q.parseQER(ie1, seid)` from a zero `Qer`; only a missing QER ID is an error. -/
def Qer.parseQER (ie1 : QerIE) (seid : UInt64) : Except Error Qer := do
  let qerID ← fromIE ie1.qerID
  pure { qerID, qfi := ie1.qfi, ulStatus := ie1.gateStatusUL, dlStatus := ie1.gateStatusDL,
         ulMbr := ie1.mbrUL, dlMbr := ie1.mbrDL, ulGbr := ie1.gbrUL, dlGbr := ie1.gbrDL,
         fseID := seid }

/-- The `VolumeData` of a Volume Threshold or Volume Quota IE, zero when the IE is missing. -/
def volumeData : Option VolumeFields → VolumeData
  | some v => { flags := v.flags, totalVol := v.totalVolume, uplinkVol := v.uplinkVolume,
                downlinkVol := v.downlinkVolume }
  | none => {}

/-- `u.parseURR(ie1, seid)` from a zero `Urr`. -/
def Urr.parseURR (ie1 : UrrIE) (seid : UInt64) : Except Error Urr := do
  let urrID ← fromIE ie1.urrID
  let measureMethod ← fromIE ie1.measurementMethod
  let trigger ← fromIE ie1.reportingTriggers
  let volumeThresh := volumeData ie1.volumeThreshold
  let volumeQuota := volumeData ie1.volumeQuota
  pure { urrID, measureMethod, trigger, reportOpen := true, volThreshold := volumeThresh,
         localThreshold := volumeThresh.totalVol, volQuota := volumeQuota, fseID := seid }

end Pfcpiface
