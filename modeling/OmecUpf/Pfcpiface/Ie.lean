import OmecUpf.Pfcpiface.Rules

/-!
# Information elements and messages

The PFCP messages the handlers read, as go-pfcp decodes them. go-pfcp itself is not part of the
repository: an IE is modelled by what its accessors return to the handlers, with `none` where
an accessor (`PDRID()`, `FTEID()`, …) returns an error, and a list for repeated IEs. Accessors
whose errors the handlers ignore (the rates of a QER) are kept as the value they return, zero
for a missing IE.

* The Source Interface and Cause values of go-pfcp.
* The decoded fields of go-pfcp: `FTEIDFields`, `UEIPAddressFields`, `SDFFilterFields`,
  `FSEIDFields`, `OuterHeaderCreationFields`, `VolumeFields`, and the flag tests
  `HasCh`, `HasChID`, `HasFD`, `HasBID` (TS 29.244 bit positions).
* The grouped IEs `PdiIE`, `PdrIE`, `FwdIE`, `FarIE`, `QerIE`, `UrrIE`.
* The requests `SessionEstablishmentRequest`, `SessionModificationRequest`,
  `SessionDeletionRequest`, and the `SessionReportResponse` from the SMF.
* `fromIE`: an accessor's value, or its error returned to the caller.
-/

namespace Pfcpiface

/-- The Source Interface values of go-pfcp: `SrcInterfaceAccess`, `SrcInterfaceCore`,
`SrcInterfaceCPFunction`. -/
def srcInterfaceAccess : UInt8 := 0
def srcInterfaceCore : UInt8 := 1
def srcInterfaceCPFunction : UInt8 := 3

/-- The Cause values of go-pfcp the handlers use. -/
def causeRequestAccepted : UInt8 := 1
def causeRequestRejected : UInt8 := 64
def causeSessionContextNotFound : UInt8 := 65
def causeNoEstablishedPFCPAssociation : UInt8 := 72
def causeNoResourcesAvailable : UInt8 := 75

/-- `ie.FTEIDFields`. -/
structure FTEIDFields where
  flags : UInt8
  teid : UInt32 := 0
  ipv4Address : List UInt8 := []
  chooseID : UInt8 := 0
  deriving DecidableEq, Repr

/-- The CHOOSE flag (bit 3). -/
def FTEIDFields.HasCh (f : FTEIDFields) : Bool := f.flags &&& 0x04 != 0

/-- The CHOOSE ID flag (bit 4). -/
def FTEIDFields.HasChID (f : FTEIDFields) : Bool := f.flags &&& 0x08 != 0

/-- `ie.UEIPAddressFields`; only the IPv4 address is read. -/
structure UEIPAddressFields where
  flags : UInt8
  ipv4Address : List UInt8 := []
  deriving DecidableEq, Repr

/-- `ie.SDFFilterFields`; the flow description is a Go string. -/
structure SDFFilterFields where
  flags : UInt8
  flowDescription : String := ""
  sdfFilterID : UInt32 := 0
  deriving DecidableEq, Repr

/-- The Flow Description flag (bit 1). -/
def SDFFilterFields.HasFD (f : SDFFilterFields) : Bool := f.flags &&& 0x01 != 0

/-- The bidirectional SDF filter flag (bit 5). -/
def SDFFilterFields.HasBID (f : SDFFilterFields) : Bool := f.flags &&& 0x10 != 0

/-- `ie.FSEIDFields`. -/
structure FSEIDFields where
  seid : UInt64
  ipv4Address : List UInt8 := []
  deriving DecidableEq, Repr

/-- `ie.OuterHeaderCreationFields`. -/
structure OuterHeaderCreationFields where
  teid : UInt32 := 0
  ipv4Address : List UInt8 := []
  deriving DecidableEq, Repr

/-- `ie.VolumeThresholdFields` and `ie.VolumeQuotaFields`. -/
structure VolumeFields where
  flags : UInt8 := 0
  totalVolume : UInt64 := 0
  uplinkVolume : UInt64 := 0
  downlinkVolume : UInt64 := 0
  deriving DecidableEq, Repr

/-- A child IE of the PDI of a PDR, with the result of its accessor. -/
inductive PdiIE where
  | ueIPAddress (fields : Option UEIPAddressFields)
  | sourceInterface (value : Option UInt8)
  | fteid (fields : Option FTEIDFields)
  | applicationID (value : Option String)
  | sdfFilter (fields : Option SDFFilterFields)
  /-- An IE that `parsePDI` skips. -/
  | other
  deriving DecidableEq, Repr

/-- A Create PDR or Update PDR IE: the results of `PDRID()`, `Precedence()`, `PDI()`,
`OuterHeaderRemovalDescription()` and `FARID()`, and the QER ID children found by
`CreatePDR()`/`UpdatePDR()`, each with the result of its `QERID()`. -/
structure PdrIE where
  isUpdate : Bool := false
  pdrID : Option UInt16
  precedence : Option UInt32
  pdi : Option (List PdiIE)
  outerHeaderRemovalDescription : Option UInt8 := none
  farID : Option UInt32
  qerIDs : Option (List (Option UInt32)) := some []
  deriving DecidableEq, Repr

/-- A child IE of the (Update) Forwarding Parameters of a FAR. -/
inductive FwdIE where
  | outerHeaderCreation (fields : Option OuterHeaderCreationFields)
  | destinationInterface (value : Option UInt8)
  | pfcpSMReqFlags (value : Option UInt8)
  | other
  deriving DecidableEq, Repr

/-- A Create FAR or Update FAR IE. -/
structure FarIE where
  farID : Option UInt32
  applyAction : Option UInt8
  forwardingParameters : Option (List FwdIE) := none
  updateForwardingParameters : Option (List FwdIE) := none
  deriving DecidableEq, Repr

/-- A Create QER or Update QER IE; the accessors other than `QERID()` only log their errors. -/
structure QerIE where
  qerID : Option UInt32
  qfi : UInt8 := 0
  gateStatusUL : UInt8 := 0
  gateStatusDL : UInt8 := 0
  mbrUL : UInt64 := 0
  mbrDL : UInt64 := 0
  gbrUL : UInt64 := 0
  gbrDL : UInt64 := 0
  deriving DecidableEq, Repr

/-- A Create URR or Update URR IE. -/
structure UrrIE where
  urrID : Option UInt32
  measurementMethod : Option UInt8
  reportingTriggers : Option UInt16
  volumeThreshold : Option VolumeFields := none
  volumeQuota : Option VolumeFields := none
  deriving DecidableEq, Repr

/-- `v, err := x.Accessor(); if err != nil { return err }`: the accessor's value, or its error
(`Error.ie`) returned. -/
def fromIE {m : Type → Type} [Monad m] [MonadExceptOf Error m] {α : Type} : Option α → m α
  | some a => pure a
  | none => throw Error.ie

structure SessionEstablishmentRequest where
  sequenceNumber : UInt32 := 0
  nodeID : Option String
  cpFSEID : Option FSEIDFields
  createPDR : List PdrIE := []
  createFAR : List FarIE := []
  createQER : List QerIE := []
  createURR : List UrrIE := []
  deriving DecidableEq, Repr

/-- A Session Modification Request; `cpFSEID` is `none` when the IE is absent, and otherwise
the result of `FSEID()`. -/
structure SessionModificationRequest where
  sequenceNumber : UInt32 := 0
  seid : UInt64
  cpFSEID : Option (Option FSEIDFields) := none
  createPDR : List PdrIE := []
  createFAR : List FarIE := []
  createQER : List QerIE := []
  createURR : List UrrIE := []
  updatePDR : List PdrIE := []
  updateFAR : List FarIE := []
  updateQER : List QerIE := []
  updateURR : List UrrIE := []
  removePDR : List (Option UInt16) := []
  removeFAR : List (Option UInt32) := []
  removeQER : List (Option UInt32) := []
  removeURR : List (Option UInt32) := []
  deriving DecidableEq, Repr

structure SessionDeletionRequest where
  sequenceNumber : UInt32 := 0
  seid : UInt64
  deriving DecidableEq, Repr

/-- A Session Report Response; `cause` is the payload of the Cause IE, `none` when it is
absent. -/
structure SessionReportResponse where
  sequenceNumber : UInt32 := 0
  seid : UInt64
  cause : Option (List UInt8)
  deriving DecidableEq, Repr

end Pfcpiface
