import OmecUpf.Lib.GoNet
import OmecUpf.Lib.Loop
import OmecUpf.Pfcpiface.Upf

/-!
# Flow descriptions

`parseFlowDesc` (`parse_sdf.go`) reads an IPFilterRule of TS 29.212,
`action direction proto from src [ports] to dst [ports]`, split into fields by
`strings.Fields`. The loop over the fields after the third advances its index inside the
body: after `from` it reads the address field and then the field after it, to see whether it
is `to`; after `to` it reads the address and, when one is left, a port field. Those reads go
past the end of the fields for descriptions that end early, and then the slice index panics.
`xform` rewrites `any` and `assigned` in place before the address is parsed.

* `Endpoint`, `IpFilterRule`, `newIpFilterRule`; `parseNet`, `parsePort`, `parseAction`,
  `parseDirection`, `parseL4Proto`, `xform`.
* `flowDescBody`, `flowDescStep`: one iteration of the loop; `parseFlowDesc`.
* `flowDescBody_next`, `flowDescStep_next`: every iteration that continues moves the index
  forward and stays within the fields, whose number `xform` keeps.
* **`flowDesc_run_ends`**: so the fuel `len(fields) + 1` never runs out.
* `flowDescBody_from`, `flowDescBody_to`, `flowDescStep_of_body`: what the iterations at `from`
  and at `to` compute, in terms of the parsers of their fields.
* **`parseFlowDesc_panics_without_destination`**: `"permit out ip from any"` makes the parser
  read past the end of its fields.
-/

namespace Pfcpiface

open Go

def reservedProto : UInt8 := 0xff

def ipv4WildcardNetString : List Char := "0.0.0.0/0".toList

/-- `endpoint`: the network (nil until parsed) and the port range. -/
structure Endpoint where
  ipNet : Option IPNet := none
  ports : PortRange
  deriving DecidableEq, Repr

structure IpFilterRule where
  action : List Char := []
  direction : List Char := []
  proto : UInt8 := 0
  src : Endpoint
  dst : Endpoint
  deriving DecidableEq, Repr

def newIpFilterRule : IpFilterRule :=
  { src := { ports := newWildcardPortRange }, dst := { ports := newWildcardPortRange } }

/-- `endpoint.parseNet`: a network without a prefix length is a `/32`. -/
def parseNet (ipnet : List Char) : Except Error IPNet :=
  let cidr : Except Error (List Char) :=
    match split ipnet '/' with
    | [addr] => .ok (addr ++ "/32".toList)
    | [_, _] => .ok ipnet
    | fields => .error (.invalidArgument "network string" (toString fields.length))
  match cidr with
  | .error e => .error e
  | .ok cidr =>
    match parseCIDR cidr with
    | some n => .ok n
    | none => .error (.operationFailedWithReason "ParseCIDR"
        ("invalid CIDR address: " ++ String.ofList cidr))

/-- `endpoint.parsePort`: a port or a range `low-high` of decimal `uint16`s. -/
def parsePort (port : List Char) : Except Error PortRange :=
  let ports : Option (List Char × List Char) :=
    match split port '-' with
    | [p] => some (p, p)
    | [low, high] => some (low, high)
    | _ => none
  match ports with
  | none => .error (.invalidArgument "port string" (String.ofList port))
  | some (low, high) =>
    match parseUint low 16 with
    | none => .error (.std (parseUintErrorText low))
    | some lo =>
      match parseUint high 16 with
      | none => .error (.std (parseUintErrorText high))
      | some hi =>
        if lo > hi then
          .error (.invalidArgumentWithReason "port" (String.ofList port) "invalid port range")
        else .ok (newRangeMatchPortRange lo.toUInt16 hi.toUInt16)

def parseAction (action : List Char) : Option Error :=
  if action = "permit".toList ∨ action = "deny".toList then none else some errBadFilterDesc

def parseDirection (dir : List Char) : Option Error :=
  if dir = "in".toList ∨ dir = "out".toList then none else some errBadFilterDesc

/-- `parseL4Proto`: a decimal protocol number, `udp` or `tcp`; `reservedProto` otherwise. -/
def parseL4Proto (proto : List Char) : UInt8 × Option Error :=
  match parseUint proto 8 with
  | some p => (p.toUInt8, none)
  | none =>
    if proto = "udp".toList then (17, none)
    else if proto = "tcp".toList then (6, none)
    else (reservedProto, some errBadFilterDesc)

/-- `xform(i)`: `any`, and `assigned` without a usable UE address, become the IPv4 wildcard;
`assigned` becomes the UE address. Reading `fields[i]` panics past the end. -/
def xform (ueIP : List Char) (fields : List (List Char)) (i : Nat) :
    Except Abort (List (List Char)) := do
  let f ← Go.index fields i
  if f = "any".toList then pure (fields.set i ipv4WildcardNetString)
  else if f = "assigned".toList then
    if ueIP = "0.0.0.0".toList then pure (fields.set i ipv4WildcardNetString)
    else if ueIP ≠ [] ∧ ueIP ≠ "<nil>".toList then pure (fields.set i ueIP)
    else pure (fields.set i ipv4WildcardNetString)
  else pure fields

/-- The body of `for i := 3; i < len(fields); i++` at field `i`: the index, the fields and the
rule the next iteration starts from. -/
def flowDescBody (ueIP : List Char) (i : Nat) (fields : List (List Char)) (ipf : IpFilterRule) :
    Fallible Error (Nat × List (List Char) × IpFilterRule) := do
  let f ← Fallible.ofAbort (Go.index fields i)
  if f = "from".toList then
    let i := i + 1
    let fields ← Fallible.ofAbort (xform ueIP fields i)
    let net ← Fallible.ofError (parseNet (← Fallible.ofAbort (Go.index fields i)))
    let ipf := { ipf with src := { ipf.src with ipNet := some net } }
    if (← Fallible.ofAbort (Go.index fields (i + 1))) ≠ "to".toList then
      let i := i + 1
      let ports ← Fallible.ofError (parsePort (← Fallible.ofAbort (Go.index fields i)))
      pure (i + 1, fields, { ipf with src := { ipf.src with ports } })
    else pure (i + 1, fields, ipf)
  else if f = "to".toList then
    let i := i + 1
    let fields ← Fallible.ofAbort (xform ueIP fields i)
    let net ← Fallible.ofError (parseNet (← Fallible.ofAbort (Go.index fields i)))
    let ipf := { ipf with dst := { ipf.dst with ipNet := some net } }
    if i < fields.length - 1 then
      let i := i + 1
      let ports ← Fallible.ofError (parsePort (← Fallible.ofAbort (Go.index fields i)))
      pure (i + 1, fields, { ipf with dst := { ipf.dst with ports } })
    else pure (i + 1, fields, ipf)
  else pure (i + 1, fields, ipf)

/-- One iteration of the loop, with its condition `i < len(fields)`. -/
def flowDescStep (ueIP : List Char) :
    Nat × List (List Char) × IpFilterRule →
      Loop.Step (Nat × List (List Char) × IpFilterRule) (Except Abort (Except Error IpFilterRule))
  | (i, fields, ipf) =>
    if i < fields.length then
      match (flowDescBody ueIP i fields ipf).run with
      | .error a => .done (.error a)
      | .ok (.error e) => .done (.ok (.error e))
      | .ok (.ok st) => .next st
    else .done (.ok (.ok ipf))

/-- `parseFlowDesc(flowDesc, ueIP)`; the loop runs with `len(fields) + 1` iterations of fuel,
which it never exhausts (`flowDesc_run_ends`). -/
def parseFlowDesc (flowDesc ueIP : List Char) : Except Abort (Except Error IpFilterRule) :=
  let fields := Go.fields flowDesc
  match fields with
  | action :: direction :: proto :: _ =>
    match parseAction action with
    | some e => .ok (.error e)
    | none =>
      match parseDirection direction with
      | some e => .ok (.error e)
      | none =>
        let ipf := { newIpFilterRule with action, direction, proto := (parseL4Proto proto).1 }
        match Loop.run (flowDescStep ueIP) (fields.length + 1) (3, fields, ipf) with
        | some (some r) => r
        | _ => .error .diverge
  | _ => .ok (.error errBadFilterDesc)

/-! ## The loop always ends -/

/-- What `xform` does, as one store: the field it writes at `i`. -/
def xformField (ueIP f : List Char) : List Char :=
  if f = "any".toList then ipv4WildcardNetString
  else if f = "assigned".toList then
    if ueIP = "0.0.0.0".toList then ipv4WildcardNetString
    else if ueIP ≠ [] ∧ ueIP ≠ "<nil>".toList then ueIP
    else ipv4WildcardNetString
  else f

theorem xform_eq (ueIP : List Char) (fields : List (List Char)) (i : Nat) :
    xform ueIP fields i = (Go.index fields i).map fun f => fields.set i (xformField ueIP f) := by
  unfold xform
  cases hi : Go.index fields i with
  | error a => rfl
  | ok f =>
    have hf : fields[i]? = some f := index_natCast_eq_ok_iff.mp hi
    show (if f = "any".toList then _ else _) = Except.ok _
    unfold xformField
    beta_reduce
    split_ifs
    · rfl
    · rfl
    · rfl
    · rfl
    · -- any other field is left as it is, which is storing it again
      obtain ⟨hlt, rfl⟩ := List.getElem?_eq_some_iff.mp hf
      exact congrArg Except.ok (List.set_getElem_self hlt).symm

theorem length_xform {ueIP : List Char} {fields fields' : List (List Char)} {i : Nat}
    (h : xform ueIP fields i = .ok fields') : fields'.length = fields.length := by
  rw [xform_eq] at h
  cases hi : Go.index fields i with
  | error a => rw [hi] at h; cases h
  | ok f =>
    rw [hi] at h
    cases h
    exact List.length_set

theorem length_of_run_xform {ueIP : List Char} {fields fields' : List (List Char)} {j : Nat}
    (hx : (Fallible.ofAbort (xform ueIP fields j) : Fallible Error _).run = .ok (.ok fields')) :
    fields'.length = fields.length :=
  length_xform (Fallible.run_ofAbort_eq_ok.mp hx)

/-- The body keeps the number of fields and moves the index forward, to at most the number of
fields: each field it reads was there. -/
theorem flowDescBody_next {ueIP : List Char} {i : Nat} {fields : List (List Char)}
    {ipf : IpFilterRule} {st : Nat × List (List Char) × IpFilterRule}
    (h : (flowDescBody ueIP i fields ipf).run = .ok (.ok st)) :
    i < st.1 ∧ st.1 ≤ st.2.1.length ∧ st.2.1.length = fields.length := by
  unfold flowDescBody at h
  obtain ⟨f, hf, h⟩ := Fallible.run_bind_eq_ok h
  have hi := Fallible.lt_length_of_run_ofAbort_index hf
  split_ifs at h with hfrom hto
  · -- `from`: the address, then a port unless the next field is `to`
    obtain ⟨fields', hx, h⟩ := Fallible.run_bind_eq_ok h
    have hlen := length_of_run_xform hx
    obtain ⟨fi, hfi, h⟩ := Fallible.run_bind_eq_ok h
    obtain ⟨net, -, h⟩ := Fallible.run_bind_eq_ok h
    obtain ⟨nxt, hnxt, h⟩ := Fallible.run_bind_eq_ok h
    have hi2 := Fallible.lt_length_of_run_ofAbort_index hnxt
    split_ifs at h
    · obtain ⟨_, hp, h⟩ := Fallible.run_bind_eq_ok h
      have hi3 := Fallible.lt_length_of_run_ofAbort_index hp
      obtain ⟨ports, -, h⟩ := Fallible.run_bind_eq_ok h
      cases h
      dsimp only
      exact ⟨by omega, by omega, hlen⟩
    · cases h
      dsimp only
      exact ⟨by omega, by omega, hlen⟩
  · -- `to`: the address, then a port when a field is left
    obtain ⟨fields', hx, h⟩ := Fallible.run_bind_eq_ok h
    have hlen := length_of_run_xform hx
    obtain ⟨fi, hfi, h⟩ := Fallible.run_bind_eq_ok h
    have hi1 := Fallible.lt_length_of_run_ofAbort_index hfi
    obtain ⟨net, -, h⟩ := Fallible.run_bind_eq_ok h
    split_ifs at h
    · obtain ⟨_, hp, h⟩ := Fallible.run_bind_eq_ok h
      have hi2 := Fallible.lt_length_of_run_ofAbort_index hp
      obtain ⟨ports, -, h⟩ := Fallible.run_bind_eq_ok h
      cases h
      dsimp only
      exact ⟨by omega, by omega, hlen⟩
    · cases h
      dsimp only
      exact ⟨by omega, by omega, hlen⟩
  · cases h
    dsimp only
    exact ⟨by omega, by omega, rfl⟩

/-- Every iteration that continues moves the index forward, to at most the number of fields,
and keeps the number of fields. -/
theorem flowDescStep_next {ueIP : List Char} {st st' : Nat × List (List Char) × IpFilterRule}
    (h : flowDescStep ueIP st = .next st') :
    st.1 < st'.1 ∧ st'.1 ≤ st'.2.1.length ∧ st'.2.1.length = st.2.1.length := by
  obtain ⟨i, fields, ipf⟩ := st
  simp only [flowDescStep] at h
  split_ifs at h with hi
  split at h
  · cases h
  · cases h
  · next hb =>
    cases h
    exact flowDescBody_next hb

/-- The loop of `parseFlowDesc` ends within `len(fields) + 1` iterations: the index grows and
stays at most `len(fields)` while the loop continues. -/
theorem flowDesc_run_isSome (ueIP : List Char) (fields : List (List Char)) (ipf : IpFilterRule)
    (i : Nat) (hi : i ≤ fields.length) :
    (Loop.run (flowDescStep ueIP) (fields.length + 1) (i, fields, ipf)).isSome := by
  refine Loop.run_isSome_of_measure (fun st => st.2.1.length = fields.length) (·.1) fields.length
    ?_ rfl hi (by omega)
  intro st st' hI hst
  obtain ⟨hlt, hle, hlen⟩ := flowDescStep_next hst
  have hlen' : st'.2.1.length = fields.length := hlen.trans hI
  exact ⟨hlen', hlt, by omega⟩

theorem flowDescStep_ne_fault (ueIP : List Char) (st : Nat × List (List Char) × IpFilterRule) :
    flowDescStep ueIP st ≠ .fault := by
  obtain ⟨i, fields, ipf⟩ := st
  simp only [flowDescStep]
  split_ifs
  · split <;> nofun
  · nofun

/-- **The fuel is enough.** From an index inside the fields, the loop ends with a result within
`len(fields) + 1` iterations. -/
theorem flowDesc_run_ends (ueIP : List Char) (fields : List (List Char)) (ipf : IpFilterRule)
    (i : Nat) (hi : i ≤ fields.length) :
    ∃ r, Loop.run (flowDescStep ueIP) (fields.length + 1) (i, fields, ipf) = some (some r) := by
  obtain ⟨o, ho⟩ := Option.isSome_iff_exists.mp (flowDesc_run_isSome ueIP fields ipf i hi)
  have hne : o ≠ none :=
    Loop.ends_of_inv (fun _ => True) (· ≠ none) (fun _ _ _ _ => trivial)
      (fun _ _ _ _ => Option.some_ne_none _)
      (fun st _ hst => absurd hst (flowDescStep_ne_fault ueIP st)) trivial (Loop.ends_of_run ho)
  obtain ⟨r, rfl⟩ := Option.ne_none_iff_exists'.mp hne
  exact ⟨r, ho⟩

/-! ## The two branches of the loop -/

/-- The iteration at `from`: the source address, then a port unless the next field is `to`. -/
theorem flowDescBody_from {ueIP : List Char} {i : Nat} {fields : List (List Char)}
    {ipf : IpFilterRule} {s nxt : List Char} (hf : fields[i]? = some "from".toList)
    (hs : fields[i + 1]? = some s) (hn : fields[i + 2]? = some nxt) :
    (flowDescBody ueIP i fields ipf).run = .ok (do
      let net ← parseNet (xformField ueIP s)
      let ipf := { ipf with src := { ipf.src with ipNet := some net } }
      if nxt ≠ "to".toList then
        let ports ← parsePort nxt
        pure (i + 3, fields.set (i + 1) (xformField ueIP s), { ipf with src := { ipf.src with ports } })
      else pure (i + 2, fields.set (i + 1) (xformField ueIP s), ipf)) := by
  have h₀ : Go.index fields i = .ok "from".toList := index_natCast_eq_ok_iff.mpr hf
  have hx : xform ueIP fields (i + 1 : Nat) = .ok (fields.set (i + 1) (xformField ueIP s)) := by
    rw [xform_eq, index_natCast_eq_ok_iff.mpr hs]
    rfl
  have h₁ : Go.index (fields.set (i + 1) (xformField ueIP s)) (i + 1 : Nat) = .ok (xformField ueIP s) :=
    index_natCast_eq_ok_iff.mpr (by simp [(List.getElem?_eq_some_iff.mp hs).1])
  have h₂ : Go.index (fields.set (i + 1) (xformField ueIP s)) (((i + 1 : Nat) : Int) + 1) =
      .ok nxt := by
    rw [show ((i + 1 : Nat) : Int) + 1 = ((i + 2 : Nat) : Int) by omega]
    exact index_natCast_eq_ok_iff.mpr (by rw [List.getElem?_set_ne (by omega)]; exact hn)
  have h₃ : Go.index (fields.set (i + 1) (xformField ueIP s)) ((i + 1 + 1 : Nat) : Int) = .ok nxt :=
    index_natCast_eq_ok_iff.mpr (by rw [List.getElem?_set_ne (by omega)]; exact hn)
  simp only [flowDescBody, h₀, Fallible.run_ofAbort_ok_bind, if_true, hx, h₁, h₂]
  -- the source address parses or not; then a port follows unless the next field is `to`
  cases parseNet (xformField ueIP s) with
  | error e => rfl
  | ok net =>
    simp only [Fallible.run_ofError_ok_bind, Fallible.run_ofAbort_ok_bind, h₃]
    split
    · simp only [Fallible.run_ofAbort_ok_bind]
      cases parsePort nxt <;> rfl
    · rfl

/-- The iteration at `to`: the destination address, then a port when a field is left. -/
theorem flowDescBody_to {ueIP : List Char} {i : Nat} {fields : List (List Char)}
    {ipf : IpFilterRule} {t : List Char} {tp? : Option (List Char)}
    (hf : fields[i]? = some "to".toList) (ht : fields[i + 1]? = some t)
    (htp : fields[i + 2]? = tp?) :
    (flowDescBody ueIP i fields ipf).run = .ok (do
      let net ← parseNet (xformField ueIP t)
      let ipf := { ipf with dst := { ipf.dst with ipNet := some net } }
      match tp? with
      | some tp =>
        let ports ← parsePort tp
        pure (i + 3, fields.set (i + 1) (xformField ueIP t), { ipf with dst := { ipf.dst with ports } })
      | none => pure (i + 2, fields.set (i + 1) (xformField ueIP t), ipf)) := by
  have h₀ : Go.index fields i = .ok "to".toList := index_natCast_eq_ok_iff.mpr hf
  have hx : xform ueIP fields (i + 1 : Nat) = .ok (fields.set (i + 1) (xformField ueIP t)) := by
    rw [xform_eq, index_natCast_eq_ok_iff.mpr ht]
    rfl
  have h₁ : Go.index (fields.set (i + 1) (xformField ueIP t)) (i + 1 : Nat) =
      .ok (xformField ueIP t) :=
    index_natCast_eq_ok_iff.mpr (by simp [(List.getElem?_eq_some_iff.mp ht).1])
  simp only [flowDescBody, h₀, Fallible.run_ofAbort_ok_bind, if_neg (by decide : "to".toList ≠ "from".toList), if_true, hx, h₁]
  cases parseNet (xformField ueIP t) with
  | error e => rfl
  | ok net =>
    simp only [Fallible.run_ofError_ok_bind, List.length_set]
    cases tp? with
    | none =>
      -- no field after the address: the loop reads no port
      have hlen : fields.length ≤ i + 2 := List.getElem?_eq_none_iff.mp htp
      rw [if_neg (by omega)]
      rfl
    | some tp =>
      have hlen : i + 2 < fields.length := (List.getElem?_eq_some_iff.mp htp).1
      have h₂ : Go.index (fields.set (i + 1) (xformField ueIP t)) ((i + 1 + 1 : Nat) : Int) =
          .ok tp :=
        index_natCast_eq_ok_iff.mpr (by rw [List.getElem?_set_ne (by omega)]; exact htp)
      rw [if_pos (by omega)]
      simp only [h₂, Fallible.run_ofAbort_ok_bind]
      cases parsePort tp <;> rfl
/-- An iteration inside the fields stops at the body's error and goes on from its result. -/
theorem flowDescStep_of_body {ueIP : List Char} {i : Nat} {fields : List (List Char)}
    {ipf : IpFilterRule} {r : Except Error (Nat × List (List Char) × IpFilterRule)}
    (hi : i < fields.length) (h : (flowDescBody ueIP i fields ipf).run = .ok r) :
    flowDescStep ueIP (i, fields, ipf) =
      match r with
      | .error e => .done (.ok (.error e))
      | .ok st => .next st := by
  simp only [flowDescStep, if_pos hi, h]
  cases r <;> rfl

theorem flowDescStep_end {ueIP : List Char} {i : Nat} {fields : List (List Char)}
    {ipf : IpFilterRule} (hi : fields.length ≤ i) :
    flowDescStep ueIP (i, fields, ipf) = .done (.ok (.ok ipf)) := by
  simp only [flowDescStep, if_neg (Nat.not_lt.mpr hi)]

/-- A description that ends after its source reads the field after the address, to see
whether it is `to`, and panics. -/
theorem parseFlowDesc_panics_without_destination (ueIP : List Char) :
    parseFlowDesc "permit out ip from any".toList ueIP = .error (.panic (.indexOutOfRange 5 5)) := by
  rfl
end Pfcpiface
