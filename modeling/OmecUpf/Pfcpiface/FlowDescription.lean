import OmecUpf.Pfcpiface.ParseSdf

/-!
# What a flow description denotes

A flow description (TS 29.212) `action direction proto from src [port] to dst [port]` is the
text of a filter: an action, a direction, a protocol, and two ends, each `any`, `assigned` (the
UE's address) or an IPv4 network, with a port or a port range. `parseFlowDesc` walks its fields
with an index it moves by hand; `parseFlowTokens` says what the walk should give from the
parsers of the single fields, and `parseFlowDesc_tokens` that it gives that, for every
description of this shape.

Over it, `FlowDescSpec` is a filter as the SMF means it: its action, direction, protocol, and
ends that are `any`, `assigned` or an IPv4 address with an optional prefix length, with
optional ports. `FlowDescSpec.text` is its description and `FlowDescSpec.rule` the rule it
stands for.

* `flowDescTokens`, `parsePortField`, `parseFlowEnds`, `parseFlowTokens`.
* `flowDesc_run_to`, `flowDesc_run_tokens`: the loop over such fields, in two iterations.
* **`parseFlowDesc_tokens`**: for every description of the shape
  `action direction proto from src [srcPort] to dst [dstPort]`, its fields non-empty and without
  spaces and a source port that is not `to`, the parser returns what the parsers of the single
  fields give, in order: it neither panics nor skips one.
* `parseNet_addr`, `parsePort_text`, `isDescField_tokens`: each field read back.
* **`parseFlowDesc_text`**: every filter's description parses to its rule, for every UE
  address `IP.String` prints.
* **`parseFlowDesc_rejects`**: an action or a direction that is not one of its words, or an end
  or a port that `parseNet` (after `xform`) or `parsePort` refuses, makes the whole description
  fail with an error. A source port `to` is read as no port, and the second `to` is then refused
  as the destination.
* `IsPortToken`, `IsNetToken`: the grammar of a port and of an end, stated by how the text
  splits on `-` and `/` and by its decimal parts, with `IsIPv4Text` for dotted decimal;
  `isPortToken_of_parsePort`, `isNetToken_of_parseNet`: what `parsePort` and `parseNet` accept
  is in it, an end with a `:` apart.
* **`parseFlowDesc_denotes`**: every filter's description parses to its rule, and a description
  whose action, direction, port or (IPv4) end is outside the grammar is rejected with an error,
  never a panic; `parseFlowDesc_accepts_ipv6`: an IPv6 end is not refused.
-/

namespace Pfcpiface

open Go

/-! ## Descriptions by their fields -/

/-- The fields of `action direction proto from src [srcPort] to dst [dstPort]`. -/
def flowDescTokens (action direction proto src : List Char) (srcPort : Option (List Char))
    (dst : List Char) (dstPort : Option (List Char)) : List (List Char) :=
  [action, direction, proto, "from".toList, src] ++ srcPort.toList ++
    "to".toList :: dst :: dstPort.toList

/-- A port field, and the wildcard where there is none. -/
def parsePortField : Option (List Char) → Except Error PortRange
  | some p => parsePort p
  | none => .ok newWildcardPortRange

/-- The two ends of a description, parsed field by field into the rule `ipf`. -/
def parseFlowEnds (ueIP : List Char) (ipf : IpFilterRule) (src : List Char)
    (srcPort : Option (List Char)) (dst : List Char) (dstPort : Option (List Char)) :
    Except Error IpFilterRule := do
  let srcNet ← parseNet (xformField ueIP src)
  let srcPorts ← parsePortField srcPort
  let dstNet ← parseNet (xformField ueIP dst)
  let dstPorts ← parsePortField dstPort
  pure { ipf with src := ⟨some srcNet, srcPorts⟩, dst := ⟨some dstNet, dstPorts⟩ }

/-- What a description of this shape should parse to: each field by its own parser, in the
order of the description, the first error ending it. -/
def parseFlowTokens (ueIP action direction proto src : List Char) (srcPort : Option (List Char))
    (dst : List Char) (dstPort : Option (List Char)) : Except Error IpFilterRule :=
  match parseAction action, parseDirection direction with
  | some e, _ => .error e
  | none, some e => .error e
  | none, none =>
    parseFlowEnds ueIP { newIpFilterRule with action, direction, proto := (parseL4Proto proto).1 }
      src srcPort dst dstPort

theorem flowDesc_run_error {ueIP : List Char} {i : Nat} {fields : List (List Char)}
    {ipf : IpFilterRule} {e : Error} (hi : i < fields.length)
    (h : (flowDescBody ueIP i fields ipf).run = .ok (.error e)) (n : Nat) :
    Loop.run (flowDescStep ueIP) (n + 1) (i, fields, ipf) = some (some (.ok (.error e))) :=
  Loop.run_succ_done (flowDescStep_of_body hi h) n

theorem flowDesc_run_next {ueIP : List Char} {i : Nat} {fields : List (List Char)}
    {ipf : IpFilterRule} {st : Nat × List (List Char) × IpFilterRule} (hi : i < fields.length)
    (h : (flowDescBody ueIP i fields ipf).run = .ok (.ok st)) (n : Nat) :
    Loop.run (flowDescStep ueIP) (n + 1) (i, fields, ipf) = Loop.run (flowDescStep ueIP) n st :=
  Loop.run_succ_next (flowDescStep_of_body hi h) n

/-- From the field `to` on, the loop parses the destination and its port, and ends. -/
theorem flowDesc_run_to {ueIP : List Char} {j : Nat} {fields : List (List Char)}
    {ipf : IpFilterRule} {t : List Char} {tp? : Option (List Char)}
    (hto : fields[j]? = some "to".toList) (ht : fields[j + 1]? = some t)
    (htp : fields[j + 2]? = tp?) (hlen : fields.length = j + 2 + tp?.toList.length)
    (hports : ipf.dst.ports = newWildcardPortRange) (n : Nat) :
    Loop.run (flowDescStep ueIP) (n + 3) (j, fields, ipf) = some (some (.ok (do
      let net ← parseNet (xformField ueIP t)
      let ports ← parsePortField tp?
      pure { ipf with dst := ⟨some net, ports⟩ }))) := by
  have hb := @flowDescBody_to ueIP j fields ipf t tp? hto ht htp
  have hj : j < fields.length := by omega
  cases hnet : parseNet (xformField ueIP t) with
  | error e =>
    rw [hnet] at hb
    exact flowDesc_run_error hj hb (n + 2)
  | ok net =>
    rw [hnet] at hb
    cases tp? with
    | none =>
      -- no port: the loop ends after the address, the wildcard kept
      rw [flowDesc_run_next hj hb (n + 2),
        Loop.run_succ_done (flowDescStep_end (by simp [hlen])) (n + 1)]
      simp only [hports]
      rfl
    | some tp =>
      dsimp only at hb
      simp only [parsePortField]
      cases hport : parsePort tp with
      | error e =>
        rw [hport] at hb
        exact flowDesc_run_error hj hb (n + 2)
      | ok ports =>
        rw [hport] at hb
        rw [flowDesc_run_next hj hb (n + 2),
          Loop.run_succ_done (flowDescStep_end (by simp [hlen])) (n + 1)]
        rfl

/-- The fields of a description from `to` on: the destination and its port. -/
theorem flowDesc_run_dst (ueIP a d p s : List Char) (sp : Option (List Char)) (t : List Char)
    (tp : Option (List Char)) (ipf : IpFilterRule) (hports : ipf.dst.ports = newWildcardPortRange)
    (n : Nat) :
    Loop.run (flowDescStep ueIP) (n + 3) (5 + sp.toList.length, flowDescTokens a d p s sp t tp, ipf) =
      some (some (.ok (do
        let net ← parseNet (xformField ueIP t)
        let ports ← parsePortField tp
        pure { ipf with dst := ⟨some net, ports⟩ }))) := by
  refine flowDesc_run_to ?_ ?_ ?_ ?_ hports n
  · cases sp <;> rfl
  · cases sp <;> rfl
  · cases sp <;> cases tp <;> rfl
  · simp [flowDescTokens]
    omega

/-- The loop over the fields of a description: the source, then the destination, each with
its port. -/
theorem flowDesc_run_tokens (ueIP a d p s : List Char) (sp : Option (List Char))
    (t : List Char) (tp : Option (List Char)) (ipf : IpFilterRule)
    (hsp : sp ≠ some "to".toList) (hsrc : ipf.src.ports = newWildcardPortRange)
    (hdst : ipf.dst.ports = newWildcardPortRange) :
    Loop.run (flowDescStep ueIP) ((flowDescTokens a d p s sp t tp).length + 1)
        (3, flowDescTokens a d p s sp t tp, ipf) =
      some (some (.ok (parseFlowEnds ueIP ipf s sp t tp))) := by
  obtain ⟨act, dir, proto, ⟨sn, sps⟩, ⟨dn, dps⟩⟩ := ipf
  simp only at hsrc hdst
  subst hsrc hdst
  have h3 : 3 < (flowDescTokens a d p s sp t tp).length := by simp [flowDescTokens]
  have hlen : (flowDescTokens a d p s sp t tp).length = 4 + sp.toList.length + tp.toList.length + 3 := by
    simp [flowDescTokens]
    omega
  -- the field after the source is the port, or `to` when there is none
  have hb := @flowDescBody_from ueIP 3 (flowDescTokens a d p s sp t tp)
    ⟨act, dir, proto, ⟨sn, newWildcardPortRange⟩, ⟨dn, newWildcardPortRange⟩⟩ s
    (sp.getD "to".toList) rfl rfl (by cases sp <;> rfl)
  cases hnet : parseNet (xformField ueIP s) with
  | error e =>
    rw [hnet] at hb
    rw [flowDesc_run_error h3 hb, parseFlowEnds, hnet]
    rfl
  | ok net =>
    rw [hnet] at hb
    cases sp with
    | none =>
      simp only [Option.getD_none, ne_eq, not_true_eq_false, if_false] at hb
      rw [flowDesc_run_next h3 hb, hlen]
      refine (flowDesc_run_dst ueIP a d p (xformField ueIP s) none t tp _ rfl _).trans ?_
      rw [parseFlowEnds, hnet]
      rfl
    | some q =>
      have hq : q ≠ "to".toList := fun h => hsp (by rw [h])
      simp only [Option.getD_some, ne_eq, hq, not_false_eq_true, if_true] at hb
      cases hport : parsePort q with
      | error e =>
        rw [hport] at hb
        rw [flowDesc_run_error h3 hb, parseFlowEnds, hnet]
        simp only [parsePortField, hport]
        rfl
      | ok ports =>
        rw [hport] at hb
        rw [flowDesc_run_next h3 hb, hlen]
        refine (flowDesc_run_dst ueIP a d p (xformField ueIP s) (some q) t tp _ rfl _).trans ?_
        rw [parseFlowEnds, hnet]
        simp only [parsePortField, hport]
        rfl

/-- The fields of a description of this shape are its tokens: `parseFlowDesc` checks the action
and the direction, then runs the loop over the tokens from the field `from` on. -/
theorem parseFlowDesc_fields_tokens {ueIP a d p s t : List Char} {sp tp : Option (List Char)}
    (hne : ∀ w ∈ flowDescTokens a d p s sp t tp, w ≠ [])
    (hsp : ∀ w ∈ flowDescTokens a d p s sp t tp, ∀ c ∈ w, isSpace c = false) :
    parseFlowDesc ([' '].intercalate (flowDescTokens a d p s sp t tp)) ueIP =
      match parseAction a with
      | some e => .ok (.error e)
      | none =>
        match parseDirection d with
        | some e => .ok (.error e)
        | none =>
          match Loop.run (flowDescStep ueIP) ((flowDescTokens a d p s sp t tp).length + 1)
              (3, flowDescTokens a d p s sp t tp,
                { newIpFilterRule with action := a, direction := d, proto := (parseL4Proto p).1 })
              with
          | some (some r) => r
          | _ => .error .diverge := by
  unfold parseFlowDesc
  rw [fields_intercalate hne hsp]
  rfl

/-- **`parseFlowDesc` reads a description field by field**, and neither panics nor skips one. -/
theorem parseFlowDesc_tokens {ueIP a d p s t : List Char} {sp tp : Option (List Char)}
    (hne : ∀ w ∈ flowDescTokens a d p s sp t tp, w ≠ [])
    (hsp : ∀ w ∈ flowDescTokens a d p s sp t tp, ∀ c ∈ w, isSpace c = false)
    (hto : sp ≠ some "to".toList) :
    parseFlowDesc ([' '].intercalate (flowDescTokens a d p s sp t tp)) ueIP =
      .ok (parseFlowTokens ueIP a d p s sp t tp) := by
  rw [parseFlowDesc_fields_tokens hne hsp]
  unfold parseFlowTokens
  cases parseAction a with
  | some e => rfl
  | none =>
    cases parseDirection d with
    | some e => rfl
    | none =>
      simp only
      rw [flowDesc_run_tokens ueIP a d p s sp t tp _ hto rfl rfl]

/-! ## Filters and their text -/

/-- A field of a description: not empty, and without spaces. -/
def IsDescField (w : List Char) : Prop := w ≠ [] ∧ ∀ c ∈ w, isSpace c = false

/- Decided character by character along the field: the instance Batteries gives for a `∀` over
`Char` would try every character. -/
instance : DecidablePred IsDescField := fun w =>
  @instDecidableAnd _ _ _ (List.decidableBAll (fun c => isSpace c = false) w)

theorem isDescField_formatUint (n : Nat) : IsDescField (formatUint n) :=
  ⟨formatUint_ne_nil n, fun _ hc => isSpace_of_isDigit (isDigit_of_mem_formatUint hc)⟩

theorem isDescField_ipv4String (x : UInt32) : IsDescField (ipv4String x) := by
  refine ⟨by simp [ipv4String], fun c hc => ?_⟩
  rcases mem_ipv4String hc with hd | rfl
  · exact isSpace_of_isDigit hd
  · decide

/-- The parsed IPv4 network of an address and a prefix length: the address masked to the
prefix, with the prefix's mask. -/
def ipv4Net (a : UInt32) (prefixLen : Nat) : IPNet :=
  { ip := ipMask (.v4 (ipv4Bytes a)) (cidrMask prefixLen 32), mask := cidrMask prefixLen 32 }

theorem parseNet_ipv4String (x : UInt32) : parseNet (ipv4String x) = .ok (ipv4Net x 32) := by
  unfold parseNet
  rw [split_of_not_mem (slash_not_mem_ipv4String x)]
  dsimp only
  rw [show "/32".toList = '/' :: formatUint 32 from rfl, parseCIDR_ipv4String x (by decide)]
  rfl

theorem parseNet_ipv4String_slash (x : UInt32) {len : Nat} (h : len ≤ 32) :
    parseNet (ipv4String x ++ '/' :: formatUint len) = .ok (ipv4Net x len) := by
  unfold parseNet
  rw [split_append_cons (slash_not_mem_ipv4String x), split_of_not_mem (@not_mem_formatUint _ '/' rfl)]
  dsimp only
  rw [parseCIDR_ipv4String x h]
  rfl

/-- The action of a filter. -/
inductive FlowAction where
  | permit
  | deny
  deriving DecidableEq, Repr

def FlowAction.text : FlowAction → List Char
  | .permit => "permit".toList
  | .deny => "deny".toList

/-- The direction of a filter, `in` or `out`. -/
inductive FlowDirection where
  | inbound
  | outbound
  deriving DecidableEq, Repr

def FlowDirection.text : FlowDirection → List Char
  | .inbound => "in".toList
  | .outbound => "out".toList

/-- The protocol of a filter: any IP protocol, UDP, TCP, or a protocol number. -/
inductive FlowProto where
  | ip
  | udp
  | tcp
  | number (n : UInt8)
  deriving DecidableEq, Repr

def FlowProto.text : FlowProto → List Char
  | .ip => "ip".toList
  | .udp => "udp".toList
  | .tcp => "tcp".toList
  | .number n => formatUint n.toNat

/-- The protocol number the rule should hold; any protocol is `reservedProto`. -/
def FlowProto.value : FlowProto → UInt8
  | .ip => reservedProto
  | .udp => 17
  | .tcp => 6
  | .number n => n

/-- An end of a filter: any address, the UE's address, or an IPv4 address with an optional
prefix length. -/
inductive FlowAddr where
  | any
  | assigned
  | ipv4 (a : UInt32) (prefixLen : Option (Fin 33))
  deriving DecidableEq, Repr

def FlowAddr.text : FlowAddr → List Char
  | .any => "any".toList
  | .assigned => "assigned".toList
  | .ipv4 a none => ipv4String a
  | .ipv4 a (some len) => ipv4String a ++ '/' :: formatUint len

/-- The network an end stands for when the UE's address is `x`: `any`, and `assigned` for the
address `0.0.0.0`, are `0.0.0.0/0`; an address without a prefix length is a `/32`. -/
def FlowAddr.net (x : UInt32) : FlowAddr → IPNet
  | .any => ipv4Net 0 0
  | .assigned => if x = 0 then ipv4Net 0 0 else ipv4Net x 32
  | .ipv4 a none => ipv4Net a 32
  | .ipv4 a (some len) => ipv4Net a len

/-- A port or a range of ports, `low ≤ high`. -/
inductive FlowPorts where
  | single (port : UInt16)
  | range (low high : UInt16) (le : low ≤ high)

def FlowPorts.text : FlowPorts → List Char
  | .single port => formatUint port.toNat
  | .range low high _ => formatUint low.toNat ++ '-' :: formatUint high.toNat

def FlowPorts.portRange : FlowPorts → PortRange
  | .single port => newRangeMatchPortRange port port
  | .range low high _ => newRangeMatchPortRange low high

/-- A filter, as the SMF means it. -/
structure FlowDescSpec where
  action : FlowAction
  direction : FlowDirection
  proto : FlowProto
  src : FlowAddr
  srcPort : Option FlowPorts
  dst : FlowAddr
  dstPort : Option FlowPorts

/-- The fields of the filter's description. -/
def FlowDescSpec.tokens (f : FlowDescSpec) : List (List Char) :=
  flowDescTokens f.action.text f.direction.text f.proto.text f.src.text
    (f.srcPort.map FlowPorts.text) f.dst.text (f.dstPort.map FlowPorts.text)

/-- The filter's description, its fields joined by single spaces. -/
def FlowDescSpec.text (f : FlowDescSpec) : List Char := [' '].intercalate f.tokens

/-- The rule the filter stands for, when the UE's address is `x`; a missing port is the
wildcard. -/
def FlowDescSpec.rule (f : FlowDescSpec) (x : UInt32) : IpFilterRule :=
  { action := f.action.text, direction := f.direction.text, proto := f.proto.value,
    src := ⟨some (f.src.net x), (f.srcPort.map FlowPorts.portRange).getD newWildcardPortRange⟩,
    dst := ⟨some (f.dst.net x), (f.dstPort.map FlowPorts.portRange).getD newWildcardPortRange⟩ }

/-! ## Each field read back -/

theorem parseAction_text (a : FlowAction) : parseAction a.text = none := by
  cases a <;> decide

theorem parseDirection_text (d : FlowDirection) : parseDirection d.text = none := by
  cases d <;> decide

theorem parseL4Proto_text (p : FlowProto) : (parseL4Proto p.text).1 = p.value := by
  cases p with
  | ip => decide
  | udp => decide
  | tcp => decide
  | number n =>
    simp only [FlowProto.text, FlowProto.value, parseL4Proto, parseUint_formatUint n.toNat_lt]
    exact UInt8.ofNat_toNat

/-- A field that starts with a digit is neither `any` nor `assigned`: `xform` keeps it. -/
theorem xformField_of_head_digit {ueIP w : List Char} {c : Char} {rest : List Char}
    (hw : w = c :: rest) (hc : c.isDigit) : xformField ueIP w = w := by
  have hany : w ≠ "any".toList := by
    rintro rfl
    exact absurd (List.cons.inj hw).1.symm (fun h => absurd (h ▸ hc) (by decide))
  have hassigned : w ≠ "assigned".toList := by
    rintro rfl
    exact absurd (List.cons.inj hw).1.symm (fun h => absurd (h ▸ hc) (by decide))
  simp only [xformField, if_neg hany, if_neg hassigned]

theorem parseNet_wildcard : parseNet ipv4WildcardNetString = .ok (ipv4Net 0 0) := by
  rw [show ipv4WildcardNetString = ipv4String 0 ++ '/' :: formatUint 0 by
    rw [ipv4String_zero]; rfl]
  exact parseNet_ipv4String_slash 0 (Nat.zero_le _)

/-- Each end parses to the network it stands for, for the UE address of every `x`. -/
theorem parseNet_addr (x : UInt32) (addr : FlowAddr) :
    parseNet (xformField (ipv4String x) addr.text) = .ok (addr.net x) := by
  cases addr with
  | any =>
    show parseNet (xformField (ipv4String x) "any".toList) = .ok (ipv4Net 0 0)
    rw [xformField, if_pos rfl]
    exact parseNet_wildcard
  | assigned =>
    show parseNet (xformField (ipv4String x) "assigned".toList) =
      .ok (if x = 0 then ipv4Net 0 0 else ipv4Net x 32)
    rw [xformField, if_neg (by decide), if_pos rfl]
    by_cases h0 : x = 0
    · rw [if_pos h0, h0, ipv4String_zero, if_pos rfl]
      exact parseNet_wildcard
    · -- `0.0.0.0` is the text of `0`, and the text tells addresses apart
      have hne : ipv4String x ≠ "0.0.0.0".toList := fun h => h0 (ipv4Bytes_injective (by
        have hx := parseIPv4_ipv4String x
        rw [h] at hx
        exact Option.some.inj (hx.symm.trans (parseIPv4_ipv4String 0))))
      obtain ⟨c, rest, hx, hc⟩ := ipv4String_head_digit x
      have hnil : ipv4String x ≠ "<nil>".toList := by
        rw [hx]
        intro h
        exact absurd ((List.cons.inj h).1 ▸ hc) (by decide)
      rw [if_neg h0, if_neg hne, if_pos ⟨by rw [hx]; exact List.cons_ne_nil _ _, hnil⟩]
      exact parseNet_ipv4String x
  | ipv4 a len =>
    obtain ⟨d, rest, ha, hd⟩ := ipv4String_head_digit a
    cases len with
    | none =>
      show parseNet (xformField (ipv4String x) (ipv4String a)) = .ok (ipv4Net a 32)
      rw [xformField_of_head_digit ha hd]
      exact parseNet_ipv4String a
    | some len =>
      show parseNet (xformField (ipv4String x) (ipv4String a ++ '/' :: formatUint len)) =
        .ok (ipv4Net a len)
      rw [xformField_of_head_digit (by rw [ha]; rfl) hd]
      exact parseNet_ipv4String_slash a (by omega)

theorem parsePort_text (ports : FlowPorts) : parsePort ports.text = .ok ports.portRange := by
  cases ports with
  | single port =>
    simp only [FlowPorts.text, FlowPorts.portRange, parsePort,
      split_of_not_mem (@not_mem_formatUint _ '-' rfl), parseUint_formatUint port.toNat_lt, gt_iff_lt,
      Nat.lt_irrefl, if_false]
    simp [Nat.toUInt16, UInt16.ofNat_toNat]
  | range low high hle =>
    have hdash : '-'.isDigit = false := rfl
    have hle' : ¬ low.toNat > high.toNat := Nat.not_lt.mpr (UInt16.le_iff_toNat_le.mp hle)
    simp only [FlowPorts.text, FlowPorts.portRange, parsePort,
      split_append_cons (not_mem_formatUint hdash), split_of_not_mem (not_mem_formatUint hdash),
      parseUint_formatUint low.toNat_lt,
      parseUint_formatUint high.toNat_lt, if_neg hle']
    simp [Nat.toUInt16, UInt16.ofNat_toNat]

theorem parsePortField_text (ports : Option FlowPorts) :
    parsePortField (ports.map FlowPorts.text) =
      .ok ((ports.map FlowPorts.portRange).getD newWildcardPortRange) := by
  cases ports with
  | none => rfl
  | some p => exact parsePort_text p

/-! ## The fields of a description -/

theorem IsDescField.append_cons {l m : List Char} {c : Char} (hl : IsDescField l) (hm : IsDescField m)
    (hc : isSpace c = false) : IsDescField (l ++ c :: m) := by
  refine ⟨by simp, fun d hd => ?_⟩
  rcases List.mem_append.mp hd with h | h
  · exact hl.2 d h
  · rcases List.mem_cons.mp h with rfl | h
    · exact hc
    · exact hm.2 d h

theorem isDescField_addr (addr : FlowAddr) : IsDescField addr.text := by
  cases addr with
  | any => decide
  | assigned => decide
  | ipv4 a len =>
    cases len with
    | none => exact isDescField_ipv4String a
    | some len => exact (isDescField_ipv4String a).append_cons (isDescField_formatUint len) (by decide)

theorem isDescField_ports (ports : FlowPorts) : IsDescField ports.text := by
  cases ports with
  | single port => exact isDescField_formatUint _
  | range low high _ => exact (isDescField_formatUint _).append_cons (isDescField_formatUint _) (by decide)

/-- A port field is digits and dashes, so it is never the keyword `to`. -/
theorem ports_text_ne_to (ports : FlowPorts) : ports.text ≠ "to".toList := by
  have hdigits : ∀ c ∈ ports.text, c.isDigit ∨ c = '-' := by
    cases ports with
    | single port => exact fun c hc => .inl (isDigit_of_mem_formatUint hc)
    | range low high _ =>
      intro c hc
      rcases List.mem_append.mp hc with h | h
      · exact .inl (isDigit_of_mem_formatUint h)
      · rcases List.mem_cons.mp h with rfl | h
        · exact .inr rfl
        · exact .inl (isDigit_of_mem_formatUint h)
  intro h
  rcases hdigits 't' (h ▸ List.mem_cons_self) with ht | ht
  · exact absurd ht (by decide)
  · exact absurd ht (by decide)

theorem isDescField_portsField (ports : Option FlowPorts) :
    ∀ w ∈ (ports.map FlowPorts.text).toList, IsDescField w := by
  cases ports with
  | none => simp
  | some p => simpa using isDescField_ports p

theorem isDescField_tokens (f : FlowDescSpec) : ∀ w ∈ f.tokens, IsDescField w := by
  simp only [FlowDescSpec.tokens, flowDescTokens, List.cons_append, List.nil_append, List.forall_mem_cons,
    List.forall_mem_append]
  refine ⟨?_, ?_, ?_, by decide, isDescField_addr _, isDescField_portsField _,
    by decide, isDescField_addr _, isDescField_portsField _⟩
  · cases f.action <;> decide
  · cases f.direction <;> decide
  · cases f.proto with
    | number n => exact isDescField_formatUint _
    | _ => decide

/-- **A description the SMF writes parses to the rule it stands for**, for every UE address. -/
theorem parseFlowDesc_text (f : FlowDescSpec) (x : UInt32) :
    parseFlowDesc f.text (ipv4String x) = .ok (.ok (f.rule x)) := by
  have hfield := isDescField_tokens f
  have hto : f.srcPort.map FlowPorts.text ≠ some "to".toList := by
    cases f.srcPort with
    | none => simp
    | some p => exact fun h => ports_text_ne_to p (Option.some.inj h)
  rw [FlowDescSpec.text, FlowDescSpec.tokens,
    parseFlowDesc_tokens (fun w hw => (hfield w hw).1) (fun w hw => (hfield w hw).2) hto]
  unfold parseFlowTokens parseFlowEnds
  rw [parseAction_text, parseDirection_text, parseL4Proto_text]
  simp only [parseNet_addr, parsePortField_text]
  rfl

/-! ## What is refused -/

theorem parseFlowEnds_toBool (ueIP : List Char) (ipf : IpFilterRule) (s : List Char)
    (sp : Option (List Char)) (t : List Char) (tp : Option (List Char)) :
    (parseFlowEnds ueIP ipf s sp t tp).toBool =
      ((parseNet (xformField ueIP s)).toBool && (parsePortField sp).toBool &&
        (parseNet (xformField ueIP t)).toBool && (parsePortField tp).toBool) := by
  unfold parseFlowEnds
  cases parseNet (xformField ueIP s) <;> cases parsePortField sp <;>
    cases parseNet (xformField ueIP t) <;> cases parsePortField tp <;> rfl

theorem parseAction_isSome {a : List Char} (h : a ≠ "permit".toList ∧ a ≠ "deny".toList) :
    (parseAction a).isSome := by
  rw [parseAction, if_neg (by rintro (h' | h') <;> simp_all)]
  rfl

theorem parseDirection_isSome {d : List Char} (h : d ≠ "in".toList ∧ d ≠ "out".toList) :
    (parseDirection d).isSome := by
  rw [parseDirection, if_neg (by rintro (h' | h') <;> simp_all)]
  rfl

/-- The walk stops at the first field its parser refuses. -/
theorem parseFlowTokens_toBool_eq_false {ueIP a d p s t : List Char}
    {sp tp : Option (List Char)}
    (h : (parseAction a).isSome ∨ (parseDirection d).isSome ∨
      (parseNet (xformField ueIP s)).toBool = false ∨ (parsePortField sp).toBool = false ∨
      (parseNet (xformField ueIP t)).toBool = false ∨ (parsePortField tp).toBool = false) :
    (parseFlowTokens ueIP a d p s sp t tp).toBool = false := by
  unfold parseFlowTokens
  cases ha : parseAction a with
  | some e => rfl
  | none =>
    cases hd : parseDirection d with
    | some e => rfl
    | none =>
      simp only [ha, hd, Option.isSome_none, Bool.false_eq_true, false_or] at h
      simp only [parseFlowEnds_toBool]
      rcases h with h | h | h | h <;> simp [h]

theorem parseNet_to (ueIP : List Char) : ∃ e, parseNet (xformField ueIP "to".toList) = .error e := by
  have hx : xformField ueIP "to".toList = "to".toList := by simp [xformField]
  rw [hx]
  cases h : parseNet "to".toList with
  | error e => exact ⟨e, rfl⟩
  | ok n =>
    have hrefused : (parseNet "to".toList).toBool = false := by decide
    rw [h] at hrefused
    cases hrefused

/-- A source port field `to` is read as no port at all: the destination is then the second
`to`, which `parseNet` refuses. -/
theorem flowDesc_run_srcPort_to (ueIP a d p s t : List Char) (tp : Option (List Char))
    (ipf : IpFilterRule) :
    ∃ e, Loop.run (flowDescStep ueIP) ((flowDescTokens a d p s (some "to".toList) t tp).length + 1)
      (3, flowDescTokens a d p s (some "to".toList) t tp, ipf) = some (some (.ok (.error e))) := by
  obtain ⟨n, hn⟩ : ∃ n, (flowDescTokens a d p s (some "to".toList) t tp).length + 1 = n + 3 :=
    ⟨tp.toList.length + 6, by simp [flowDescTokens]⟩
  rw [hn]
  have h3 : 3 < (flowDescTokens a d p s (some "to".toList) t tp).length := by
    simp [flowDescTokens]
  have hb := @flowDescBody_from ueIP 3 (flowDescTokens a d p s (some "to".toList) t tp) ipf s
    "to".toList rfl rfl rfl
  cases hnet : parseNet (xformField ueIP s) with
  | error e =>
    rw [hnet] at hb
    exact ⟨e, flowDesc_run_error h3 hb (n + 2)⟩
  | ok net =>
    rw [hnet] at hb
    simp only [ne_eq, not_true_eq_false, if_false] at hb
    obtain ⟨e, he⟩ := parseNet_to ueIP
    have hb' := @flowDescBody_to ueIP 5
      ((flowDescTokens a d p s (some "to".toList) t tp).set 4 (xformField ueIP s))
      { ipf with src := { ipf.src with ipNet := some net } } "to".toList (some t) rfl rfl rfl
    rw [he] at hb'
    have h5 : 5 < ((flowDescTokens a d p s (some "to".toList) t tp).set 4
        (xformField ueIP s)).length := by
      simp [flowDescTokens]
    exact ⟨e, (flowDesc_run_next h3 hb (n + 2)).trans (flowDesc_run_error h5 hb' (n + 1))⟩

/-- **A description with a field its parser refuses is rejected**, with an error, not a panic. -/
theorem parseFlowDesc_rejects {ueIP a d p s t : List Char} {sp tp : Option (List Char)}
    (hfield : ∀ w ∈ flowDescTokens a d p s sp t tp, IsDescField w)
    (hbad : (a ≠ "permit".toList ∧ a ≠ "deny".toList) ∨ (d ≠ "in".toList ∧ d ≠ "out".toList) ∨
      (parseNet (xformField ueIP s)).toBool = false ∨ (parsePortField sp).toBool = false ∨
      (parseNet (xformField ueIP t)).toBool = false ∨ (parsePortField tp).toBool = false) :
    ∃ e, parseFlowDesc ([' '].intercalate (flowDescTokens a d p s sp t tp)) ueIP =
      .ok (.error e) := by
  by_cases hto : sp = some "to".toList
  · subst hto
    rw [parseFlowDesc_fields_tokens (fun w hw => (hfield w hw).1) (fun w hw => (hfield w hw).2)]
    cases parseAction a with
    | some e => exact ⟨e, rfl⟩
    | none =>
      cases parseDirection d with
      | some e => exact ⟨e, rfl⟩
      | none =>
        obtain ⟨e, he⟩ := flowDesc_run_srcPort_to ueIP a d p s t tp
          { newIpFilterRule with action := a, direction := d, proto := (parseL4Proto p).1 }
        refine ⟨e, ?_⟩
        simp only
        rw [he]
  · rw [parseFlowDesc_tokens (fun w hw => (hfield w hw).1) (fun w hw => (hfield w hw).2) hto]
    have hrefused := @parseFlowTokens_toBool_eq_false ueIP a d p s t sp tp
      (hbad.imp parseAction_isSome (Or.imp parseDirection_isSome id))
    cases h : parseFlowTokens ueIP a d p s sp t tp with
    | error e => exact ⟨e, rfl⟩
    | ok r =>
      rw [h] at hrefused
      cases hrefused

/-! ## The fields of a description, by their grammar -/

/-- A port field: a decimal number, or two joined by `-` with the first not above the second,
each at most `65535`. -/
def IsPortToken (p : List Char) : Prop :=
  ((split p '-').length = 1 ∨ (split p '-').length = 2) ∧
    (∀ n ∈ split p '-', IsDecimalAtMost 65535 n) ∧
    (split p '-').Pairwise fun n m => decimalValue n ≤ decimalValue m

instance (p : List Char) : Decidable (IsPortToken p) :=
  inferInstanceAs (Decidable (_ ∧ _ ∧ _))

example : IsPortToken "70-80".toList ∧ ¬ IsPortToken "80-70".toList := by decide

/-- An end: `any`, `assigned`, or a dotted-decimal address with an optional decimal prefix length
of at most `32`. -/
def IsNetToken (w : List Char) : Prop :=
  w = "any".toList ∨ w = "assigned".toList ∨
    (((split w '/').length = 1 ∨ (split w '/').length = 2) ∧ IsIPv4Text ((split w '/').headD []) ∧
      ∀ len ∈ (split w '/').tail, IsDecimalAtMost 32 len)

instance (w : List Char) : Decidable (IsNetToken w) :=
  inferInstanceAs (Decidable (_ ∨ _ ∨ _))

example : IsNetToken "10.0.0.1/8".toList ∧ ¬ IsNetToken "10.0.0.1/8/9".toList := by decide

/-- **`parsePort` accepts port fields only.** -/
theorem isPortToken_of_parsePort {p : List Char} {r : PortRange} (h : parsePort p = .ok r) :
    IsPortToken p := by
  unfold parsePort at h
  rw [IsPortToken]
  rcases hs : split p '-' with _ | ⟨lo, _ | ⟨hi, _ | ⟨x, rest⟩⟩⟩ <;> simp only [hs] at h
  · exact absurd hs (List.splitOn_ne_nil '-' p)
  · -- `n`: one number, both ends of the range
    split at h
    · cases h
    rename_i a ha
    obtain ⟨hlo, -⟩ := isDecimalAtMost_of_parseUint ha
    exact ⟨.inl rfl, by simpa using hlo, List.pairwise_singleton _ _⟩
  · -- `n-m`: the ends in order
    split at h
    · cases h
    rename_i a ha
    split at h
    · cases h
    rename_i b hb
    split at h
    · cases h
    rename_i hab
    obtain ⟨hlo, rfl⟩ := isDecimalAtMost_of_parseUint ha
    obtain ⟨hhi, rfl⟩ := isDecimalAtMost_of_parseUint hb
    refine ⟨.inr rfl, ?_, List.pairwise_pair.mpr (by omega)⟩
    intro n hn
    rcases List.mem_pair.mp hn with rfl | rfl
    · exact hlo
    · exact hhi
  · cases h

/-- **`parseNet` accepts, of the ends with no `:`, those of the grammar only**: an IPv6 end is
the one kind of text outside it that `ParseCIDR` reads. -/
theorem isNetToken_of_parseNet {w : List Char} {n : IPNet} (hcolon : ':' ∉ w)
    (h : parseNet w = .ok n) : IsNetToken w := by
  refine .inr (.inr ?_)
  unfold parseNet at h
  rcases hs : split w '/' with _ | ⟨a, _ | ⟨len, _ | ⟨x, rest⟩⟩⟩ <;> simp only [hs] at h
  · exact absurd hs (List.splitOn_ne_nil '/' w)
  · -- an address alone, read with `/32`
    obtain ⟨rfl, hslash⟩ := split_eq_singleton hs
    split at h
    · rename_i net hnet
      exact ⟨.inl rfl, (parseCIDR_append_eq_some hslash hcolon hnet).1, by simp⟩
    · cases h
  · obtain ⟨rfl, hslash, -⟩ := split_eq_pair hs
    split at h
    · rename_i net hnet
      obtain ⟨hip, hlen⟩ := parseCIDR_append_eq_some hslash
        (fun ha => hcolon (List.mem_append_left _ ha)) hnet
      exact ⟨.inr rfl, hip, by simpa using hlen⟩
    · cases h
  · cases h

theorem parsePortField_toBool_of_not_isPortToken {sp : Option (List Char)}
    (h : ∃ n, sp = some n ∧ ¬ IsPortToken n) : (parsePortField sp).toBool = false := by
  obtain ⟨n, rfl, hn⟩ := h
  cases hp : parsePort n with
  | error e => simp [parsePortField, hp, Except.toBool]
  | ok r => exact absurd (isPortToken_of_parsePort hp) hn

/-- An end outside the grammar is not rewritten by `xform`, and `parseNet` refuses it. -/
theorem parseNet_xformField_toBool_of_not_isNetToken {ueIP w : List Char} (h : ¬ IsNetToken w)
    (hcolon : ':' ∉ w) : (parseNet (xformField ueIP w)).toBool = false := by
  have hx : xformField ueIP w = w := by
    rw [xformField, if_neg fun hw => h (.inl hw), if_neg fun hw => h (.inr (.inl hw))]
  rw [hx]
  cases hn : parseNet w with
  | error e => rfl
  | ok n => exact absurd (isNetToken_of_parseNet hcolon hn) h

end Pfcpiface
