import OmecUpf.Lib.GoMut
import OmecUpf.Pfcpiface.Ie
import OmecUpf.Pfcpiface.ParseSdf

/-!
# Parsing PDRs

`Pdr.parsePDR` (`parse_pdr.go`) fills a zero `Pdr` from a Create PDR or Update PDR IE. Its
children write to the PDR through the receiver and to the UPF: the F-TEID parser allocates
TEIDs from `upf.teidAllocator`, the UE IP Address parser draws from `upf.ippool`. Both stay
drawn when the parse then fails, since the handlers only drop the PDR. The code runs in
`PdrM`, over the PDR and the UPF.

* `needAllocIP`, `sameTeidAllocPerSession`, `needTeidAlloc`; `allocateTEID`.
* `findChoosedPdr`, `findSDFFilter`: the first PDR of the session with a CHOOSE ID, or with an
  SDF filter ID, as `session_pdr.go` searches them.
* `Pdr.parseUEAddressIE`, `Pdr.parseSourceInterfaceIE`, `Pdr.parseFTEID`: the first pass of
  `parsePDI`; `Pdr.parseApplicationID`, `Pdr.parseSDFFilter`: the second, which reads the UE
  address. `Pdr.parsePDI`, `Pdr.parsePDR`; `parseNewPDR`: `var p Pdr; p.parsePDR(...)`.
-/

namespace Pfcpiface

open Go

/-- Code with the receiver `p *Pdr` and the `upf *Upf` of the PDR parsers. -/
abbrev PdrM := Mut (Pdr × Upf) Error

def getPdr : PdrM Pdr := return (← get).1

def modifyPdr (f : Pdr → Pdr) : PdrM Unit := modify fun s => (f s.1, s.2)

def getUpf : PdrM Upf := return (← get).2

def setUpf (upf : Upf) : PdrM Unit := modify fun s => (s.1, upf)

def needAllocIP (ueIPaddr : UEIPAddressFields) : Bool :=
  if has2ndBit ueIPaddr.flags && !has5thBit ueIPaddr.flags then false else true

def sameTeidAllocPerSession (teid : FTEIDFields) : Bool := teid.HasChID

def needTeidAlloc (teid : FTEIDFields) : Bool := teid.HasCh

/-- `allocateTEID(p, upf)`. `Allocate` returns the TEID `0` with its error, which is stored
before the error is returned. -/
def allocateTEID : PdrM Unit := do
  let upf ← getUpf
  let (r, teidAllocator) ← Mut.ofAbort upf.teidAllocator.allocate
  setUpf { upf with teidAllocator }
  modifyPdr fun p => { p with tunnelTEID := match r with | .ok teid => teid | .error _ => 0 }
  let _ ← Mut.ofExcept r
  let p ← getPdr
  if p.srcIface = access then
    let tunnelIP4Dst ← Mut.ofAbort (ip2int upf.accessIP)
    modifyPdr fun p => { p with tunnelIP4Dst }
  else if p.srcIface = core then
    let tunnelIP4Dst ← Mut.ofAbort (ip2int upf.coreIP)
    modifyPdr fun p => { p with tunnelIP4Dst }
  modifyPdr fun p => { p with tunnelTEIDMask := 0xFFFFFFFF, tunnelIP4DstMask := 0xFFFFFFFF }

def findChoosedPdr (session : PFCPSession) (chooseID : UInt8) : Option Pdr :=
  session.pdrs.find? fun pdr => pdr.chooseIDFlag && pdr.chooseID == chooseID

def findSDFFilter (session : PFCPSession) (filterID : UInt32) : Option ApplicationFilter :=
  (session.pdrs.find? fun pdr => pdr.appFilter.filterID == filterID).map (·.appFilter)

/-- `p.parseUEAddressIE(ueAddrIE, ippool)`. Allocation goes through the `*IPPool` of the UPF,
which is nil without `enable_ue_ip_alloc`: `LookupOrAllocIP` then dereferences nil. -/
def Pdr.parseUEAddressIE (ueAddrIE : Option UEIPAddressFields) : PdrM Unit := do
  let ueIPaddr ← fromIE ueAddrIE
  let ueIP4 ← if needAllocIP ueIPaddr then do
      let upf ← getUpf
      let ippool ← Mut.ofAbort (deref upf.ippool)
      let p ← getPdr
      let (r, ippool) := ippool.lookupOrAllocIP p.fseID
      setUpf { upf with ippool := some ippool }
      let ueIP4 ← Mut.ofExcept r
      modifyPdr fun p => { p with allocIPFlag := true }
      pure ueIP4
    else pure ueIPaddr.ipv4Address
  if ueIP4.length ≠ 4 then
    throw (.operationFailedWithParam "parse UE Address IE" "IP address length"
      (toString ueIP4.length))
  let ueAddress ← Mut.ofAbort (ip2int ueIP4)
  modifyPdr fun p => { p with ueAddress }

/-- `p.parseSourceInterfaceIE(srcIfaceIE)`; other values leave the PDR as it is. -/
def Pdr.parseSourceInterfaceIE (srcIfaceIE : Option UInt8) : PdrM Unit := do
  let srcIface ← fromIE srcIfaceIE
  if srcIface = srcInterfaceCPFunction then
    throw (.unsupported "Source Interface CP Function" (toString srcIface))
  else if srcIface = srcInterfaceAccess then
    modifyPdr fun p => { p with srcIface := access, srcIfaceMask := 0xFF }
  else if srcIface = srcInterfaceCore then
    modifyPdr fun p => { p with srcIface := core, srcIfaceMask := 0xFF }

/-- `p.parseFTEID(teidIE, upf, session)`. With CHOOSE set, the UPF picks the TEID: a CHOOSE ID
already chosen in the session reuses that PDR's TEID, anything else allocates one. -/
def Pdr.parseFTEID (teidIE : Option FTEIDFields) (session : PFCPSession) : PdrM Unit := do
  let fteid ← fromIE teidIE
  if !needTeidAlloc fteid then
    let teid := fteid.teid
    if teid ≠ 0 then
      let tunnelIP4Dst ← Mut.ofAbort (ip2int fteid.ipv4Address)
      modifyPdr fun p => { p with tunnelTEID := teid, tunnelTEIDMask := 0xFFFFFFFF, tunnelIP4Dst,
                                  tunnelIP4DstMask := 0xFFFFFFFF }
  else
    modifyPdr fun p => { p with allocTEIDFlag := true }
    if sameTeidAllocPerSession fteid then
      match findChoosedPdr session fteid.chooseID with
      | none =>
        modifyPdr fun p => { p with chooseIDFlag := true, chooseID := fteid.chooseID }
        allocateTEID
      | some choosedPdr =>
        modifyPdr fun p => { p with tunnelTEID := choosedPdr.tunnelTEID,
                                    tunnelTEIDMask := choosedPdr.tunnelTEIDMask,
                                    tunnelIP4Dst := choosedPdr.tunnelIP4Dst,
                                    tunnelIP4DstMask := choosedPdr.tunnelIP4DstMask }
    else allocateTEID

/-- `ip2int(e.IPNet.IP)` and `ipMask2int(e.IPNet.Mask)` of an endpoint of a flow description;
its network is nil when the description has no `from` or `to`. -/
def Endpoint.ipInts (e : Endpoint) : Except Abort (UInt32 × UInt32) := do
  let ipNet ← deref e.ipNet
  let ip ← ip2int ipNet.ip
  let mask ← ipMask2int ipNet.mask
  pure (ip, mask)

/-- The filter of a flow description as it is written: its destination as the destination.
`parseApplicationID` sets it, and `parseSDFFilter` for a PDR on the core side, before its port
workaround. -/
def filterAsWritten (af : ApplicationFilter) (ipf : IpFilterRule) (dst src : UInt32 × UInt32) :
    ApplicationFilter :=
  { af with dstIP := dst.1, dstIPMask := dst.2, srcIP := src.1, srcIPMask := src.2,
            dstPortRange := ipf.dst.ports, srcPortRange := ipf.src.ports }

/-- The filter of `parseSDFFilter` for a PDR on the access side: addresses and ports flipped. -/
def filterFlipped (af : ApplicationFilter) (ipf : IpFilterRule) (dst src : UInt32 × UInt32) :
    ApplicationFilter :=
  { af with srcIP := dst.1, srcIPMask := dst.2, dstIP := src.1, dstIPMask := src.2,
            dstPortRange := ipf.src.ports, srcPortRange := ipf.dst.ports }

/-- The loop of `parseApplicationID` over the flow descriptions of the application's PFD: the
first one whose direction is the PDR's sets the filter as it is written. -/
def Pdr.applyFlowDescs : List String → PdrM Unit
  | [] => pure ()
  | flowDesc :: rest => do
    let p ← getPdr
    match ← Mut.ofAbort (parseFlowDesc flowDesc.toList (ipv4String p.ueAddress)) with
    | .error _ => throw errBadFilterDesc
    | .ok ipf =>
      if (p.srcIface = access ∧ ipf.direction = "out".toList) ∨
          (p.srcIface = core ∧ ipf.direction = "in".toList) then
        if ipf.proto ≠ reservedProto then
          modifyPdr fun p => { p with appFilter := { p.appFilter with proto := ipf.proto,
                                                                      protoMask := 0xFF } }
        let dst ← Mut.ofAbort ipf.dst.ipInts
        let src ← Mut.ofAbort ipf.src.ipInts
        modifyPdr fun p => { p with appFilter := filterAsWritten p.appFilter ipf dst src }
      else Pdr.applyFlowDescs rest

/-- `p.parseApplicationID(ie, appPFDs)`. A PFD stored under another ID than its own stops the
process (`log.Fatalf`). -/
def Pdr.parseApplicationID (ie : Option String) (appPFDs : AList (fun _ : String => AppPFD)) :
    PdrM Unit := do
  let appID ← fromIE ie
  let some apfd := appPFDs.lookup appID
    | throw (.notFoundWithParam "Application PFD for ApplicationID" "application ID" appID)
  if appID ≠ apfd.appID then
    Mut.ofAbort (.error .exit)
  Pdr.applyFlowDescs apfd.flowDescs

/-- `p.parseSDFFilter(ie, session)`. A bidirectional filter whose ID a PDR of the session
already has is copied from that PDR with source and destination swapped. -/
def Pdr.parseSDFFilter (ie : Option SDFFilterFields) (session : PFCPSession) : PdrM Unit := do
  let sdfFields ← fromIE ie
  if sdfFields.HasBID then
    modifyPdr fun p => { p with appFilter := { p.appFilter with filterID := sdfFields.sdfFilterID } }
    if let some sdfFilter := findSDFFilter session sdfFields.sdfFilterID then
      modifyPdr fun p => { p with appFilter := { p.appFilter with
        dstIP := sdfFilter.srcIP, dstIPMask := sdfFilter.srcIPMask,
        srcIP := sdfFilter.dstIP, srcIPMask := sdfFilter.dstIPMask,
        dstPortRange := sdfFilter.srcPortRange, srcPortRange := sdfFilter.dstPortRange,
        proto := sdfFilter.proto, protoMask := sdfFilter.protoMask } }
      return
  let flowDesc ← if sdfFields.HasFD then
      if sdfFields.flowDescription = "" then
        throw (.operationFailedWithReason "parse SDF Filter" "empty filter description")
      else pure sdfFields.flowDescription
    else pure ""
  let p ← getPdr
  let ipf ← match ← Mut.ofAbort (parseFlowDesc flowDesc.toList (ipv4String p.ueAddress)) with
    | .error _ => throw errBadFilterDesc
    | .ok ipf => pure ipf
  if ipf.proto ≠ reservedProto then
    modifyPdr fun p => { p with appFilter := { p.appFilter with proto := ipf.proto,
                                                                protoMask := 0xFF } }
  if p.srcIface = core then
    let dst ← Mut.ofAbort ipf.dst.ipInts
    let src ← Mut.ofAbort ipf.src.ipInts
    modifyPdr fun p => { p with appFilter := filterAsWritten p.appFilter ipf dst src }
    -- the workaround of the source: a destination port range moves to the source
    modifyPdr fun p =>
      if !p.appFilter.dstPortRange.isWildcardMatch then
        { p with appFilter := { p.appFilter with srcPortRange := p.appFilter.dstPortRange,
                                                 dstPortRange := newWildcardPortRange } }
      else p
  else if p.srcIface = access then
    let dst ← Mut.ofAbort ipf.dst.ipInts
    let src ← Mut.ofAbort ipf.src.ipInts
    modifyPdr fun p => { p with appFilter := filterFlipped p.appFilter ipf dst src }
    modifyPdr fun p =>
      if !p.appFilter.srcPortRange.isWildcardMatch then
        { p with appFilter := { p.appFilter with dstPortRange := p.appFilter.srcPortRange,
                                                 srcPortRange := newWildcardPortRange } }
      else p

/-- `p.parsePDI(pdiIEs, appPFDs, ippool, upf, session)`: the first pass, the filter set from the
UE address, then the second pass. -/
def Pdr.parsePDI (pdiIEs : List PdiIE) (appPFDs : AList (fun _ : String => AppPFD))
    (session : PFCPSession) : PdrM Unit := do
  pdiIEs.forM fun pdiIE =>
    match pdiIE with
    | .ueIPAddress f => Pdr.parseUEAddressIE f
    | .sourceInterface v => Pdr.parseSourceInterfaceIE v
    | .fteid f => Pdr.parseFTEID f session
    | _ => pure ()
  modifyPdr fun p =>
    if p.isDownlink && p.ueAddress != 0 then
      { p with appFilter := { p.appFilter with dstIP := p.ueAddress, dstIPMask := 0xFFFFFFFF } }
    else if p.isUplink && p.ueAddress != 0 then
      { p with appFilter := { p.appFilter with srcIP := p.ueAddress, srcIPMask := 0xFFFFFFFF } }
    else p
  pdiIEs.forM fun ie2 =>
    match ie2 with
    | .applicationID v => Pdr.parseApplicationID v appPFDs
    | .sdfFilter f => Pdr.parseSDFFilter f session
    | _ => pure ()

/-- `p.parsePDR(ie1, appPFDs, ippool, upf, session)`. An unusable flow description
(`errBadFilterDesc`) does not fail the PDR; it keeps what the PDI had set. QER IDs that cannot
be read are skipped. -/
def Pdr.parsePDR (ie1 : PdrIE) (appPFDs : AList (fun _ : String => AppPFD))
    (session : PFCPSession) : PdrM Unit := do
  modifyPdr fun p => { p with qerIDList := [], fseID := session.localSEID }
  let pdrID ← fromIE ie1.pdrID
  let precedence ← fromIE ie1.precedence
  let pdi ← fromIE ie1.pdi
  let outerHeaderRemoval : UInt8 := if ie1.outerHeaderRemovalDescription = some 0 then 1 else 0
  tryCatch (Pdr.parsePDI pdi appPFDs session) fun err =>
    if err = errBadFilterDesc then pure () else throw err
  let farID ← fromIE ie1.farID
  let ies ← fromIE ie1.qerIDs
  modifyPdr fun p => { p with qerIDList := p.qerIDList ++ ies.filterMap id }
  modifyPdr fun p => { p with precedence, pdrID := pdrID.toUInt32, farID,
                              needDecap := outerHeaderRemoval }

/-- `var p Pdr; err := p.parsePDR(...)`: the PDR, or the error, with the UPF as the parse left
it. -/
def parseNewPDR (ie1 : PdrIE) (appPFDs : AList (fun _ : String => AppPFD))
    (session : PFCPSession) : Mut Upf Error Pdr := do
  let ((), p) ← Mut.withLocal {} (Pdr.parsePDR ie1 appPFDs session)
  pure p

end Pfcpiface
