import OmecUpf.Pfcpiface.Panics

/-!
# The bidirectional SDF filter shortcut

A PDR whose SDF Filter IE is bidirectional takes its filter from the first PDR of the session
with the same filter ID, source and destination swapped, instead of parsing the flow
description (`Pdr.parseSDFFilter`). The swap is right for a PDR of the other direction only;
`findSDFFilter` does not look at the direction.

* `parseSDFFilter_shortcut`: what the shortcut writes, whatever the flow description says.
* `directSDFFilter`: the filter the flow description gives a PDR by itself.
* **`bidirectional_filter_mirrored`**: two uplink PDRs of one description and one filter ID; the
  second is stored with the first one's filter mirrored, not the filter of its description.
-/

namespace Pfcpiface

open Go

/-- **The shortcut** copies the filter found, mirrored, and skips the flow description. -/
theorem parseSDFFilter_shortcut (f : SDFFilterFields) (session : PFCPSession) (st : Pdr × Upf)
    (hbid : f.HasBID = true) (sdf : ApplicationFilter)
    (hsdf : findSDFFilter session f.sdfFilterID = some sdf) :
    (Pdr.parseSDFFilter (some f) session).exec st =
      .ok (.ok (), ({ st.1 with
        appFilter := { st.1.appFilter with
          filterID := f.sdfFilterID, dstIP := sdf.srcIP, dstIPMask := sdf.srcIPMask,
          srcIP := sdf.dstIP, srcIPMask := sdf.dstIPMask, dstPortRange := sdf.srcPortRange,
          srcPortRange := sdf.dstPortRange, proto := sdf.proto, protoMask := sdf.protoMask } },
        st.2)) := by
  unfold Pdr.parseSDFFilter
  simp only [Mut.exec_bind, fromIE, Mut.exec_pure, hbid, if_true, modifyPdr, Mut.exec_modify, hsdf]

/-- The filter `parseSDFFilter` gives the PDR `p` from the flow description of `f` alone: in a
session where no PDR has a filter, so that the shortcut is not taken. -/
def directSDFFilter (f : SDFFilterFields) (p : Pdr) (upf : Upf) :
    Except Abort (Except Error ApplicationFilter) :=
  ((Pdr.parseSDFFilter (some f) {}).exec (p, upf)).map fun r => r.1.map fun _ => r.2.1.appFilter

/-- A bidirectional SDF filter, ID `1`, of the description `permit out ip from 1.1.1.1 to
2.2.2.2`. -/
def bidSdf : SDFFilterFields :=
  { flags := 0x11, flowDescription := "permit out ip from 1.1.1.1 to 2.2.2.2", sdfFilterID := 1 }

/-- An uplink PDR with the filter `bidSdf`. -/
def bidSdfPdr (pdrID : UInt16) : PdrIE :=
  { pdrWithPdi [.sourceInterface (some srcInterfaceAccess), .sdfFilter (some bidSdf)] with
    pdrID := some pdrID }

/-- **A bidirectional filter is mirrored onto a PDR of the same direction.** PDR 2 finds PDR 1
under filter ID 1 and is stored with its filter swapped: its source is `1.1.1.1` where the
description, as PDR 1 has it, makes it `2.2.2.2`. -/
theorem bidirectional_filter_mirrored : ∃ c, Reachable c ∧ ∃ e ∈ c.store.entries,
    ∃ p ∈ e.2.pdrs, p.appFilter.filterID = bidSdf.sdfFilterID ∧
      directSDFFilter bidSdf p c.upf ≠ .ok (.ok p.appFilter) :=
  exists_reachable_of_run (fun _ => causeRequestAccepted)
    [smfAssociation,
     .message (.sessionEstablishmentRequest (smfEstablishment 7 [bidSdfPdr 1, bidSdfPdr 2]))]
    (by decide +kernel)

end Pfcpiface
