import Mathlib

/-!
# The route controller

`conf/route_control.py` keeps the routing of the datapath in step with the kernel's. It
listens to netlink: an `RTM_NEWROUTE` whose gateway's MAC address is known adds the route to
the `IPLookup` module `<iface>Routes`, with the gate of the `Update` module that writes that
MAC, created with the first route via the gateway; a route whose MAC is unknown waits in
`arpcache` for the `RTM_NEWNEIGH` of its gateway; an `RTM_DELROUTE` deletes the route, and the
`Update` module with the last route via its gateway. Three dictionaries carry this:
`arpcache` and `neighborcache`, by gateway address, and `modgatecnt`, the number of gates of
each route module.

The model is the controller with every BESS command succeeding, as a state machine over the
netlink events. A dictionary is an `AList`; BESS is the entries of the route modules and the
set of `Update` modules. `fetch_mac` is the MAC the kernel's neighbour table gives, as part of
the `RTM_NEWROUTE` event.

* `NeighborEntry`, `State`, `Event`; `linkRouteModule`, `delRouteEntry`, `probeAddr`,
  `parseNewRoute`, `parseNewNeighbor`, `parseDelRoute`, `step`, `run`.
* `step_newRoute_probe`, `step_newNeigh`, `lookup_linkRouteModule`: what the events do.
* **`pending_route_lost`**: take two routes, with different prefixes, via a gateway whose MAC is
  unknown. After both and the `RTM_NEWNEIGH` that gives the MAC, the first is installed only if
  it already was, and nothing waits for it: its entry in `arpcache` was replaced by the second.
* **`newRoute_repeated_counts_twice`**: a repeated `RTM_NEWROUTE` counts one installed route
  twice.
* `GatesDistinct`, **`run_gateIdx_distinct`**: in every state a run reaches, the neighbours
  of one interface have distinct gates, all below the gate count of its route module.
-/

namespace RouteControl

/-- `NeighborEntry`. -/
structure NeighborEntry where
  neighborIp : String
  iface : String
  iprange : String
  prefixLen : Nat
  routeCount : Int
  gateIdx : Nat
  macstr : String
  deriving DecidableEq, Repr

/-- An entry of an `IPLookup` module: the module, the prefix, its length and the gate. -/
structure RouteEntry where
  module : String
  iprange : String
  prefixLen : Nat
  gate : Nat
  deriving DecidableEq, Repr

/-- The controller's dictionaries, and the route entries and `Update` modules of BESS. -/
structure State where
  arpcache : AList fun _ : String => NeighborEntry
  neighborcache : AList fun _ : String => NeighborEntry
  modgatecnt : AList fun _ : String => Nat
  routes : List RouteEntry
  updateModules : List String

def State.init : State := ⟨∅, ∅, ∅, [], []⟩

/-- `'{:X}'.format(gateway_mac)`. -/
def hexUpper (n : Nat) : String := String.ofList ((Nat.toDigits 16 n).map Char.toUpper)

/-- `run_module_command(route_module, 'add', ...)`: `rte_lpm_add` replaces the gate of a
prefix that is already there. -/
def addRoute (routes : List RouteEntry) (r : RouteEntry) : List RouteEntry :=
  routes.filter (fun e => !(e.module == r.module && e.iprange == r.iprange &&
    e.prefixLen == r.prefixLen)) ++ [r]

/-- `run_module_command(route_module, 'delete', ...)`. -/
def deleteRoute (routes : List RouteEntry) (module iprange : String) (prefixLen : Nat) :
    List RouteEntry :=
  routes.filter fun e => !(e.module == module && e.iprange == iprange && e.prefixLen == prefixLen)

/-- `link_route_module(server, gateway_mac, item)`. -/
def linkRouteModule (s : State) (gatewayMac : Nat) (item : NeighborEntry) : State :=
  let routeModule := item.iface ++ "Routes"
  let gatewayMacStr := hexUpper gatewayMac
  let neighborExists := s.neighborcache.lookup item.neighborIp
  -- `if not modgatecnt.get(route_module): modgatecnt[route_module] = 0`
  let modgatecnt :=
    if (s.modgatecnt.lookup routeModule).getD 0 = 0 then s.modgatecnt.insert routeModule 0
    else s.modgatecnt
  let gateIdx :=
    match neighborExists with
    | some n => n.gateIdx
    | none => (modgatecnt.lookup routeModule).getD 0
  let routes := addRoute s.routes ⟨routeModule, item.iprange, item.prefixLen, gateIdx⟩
  match neighborExists with
  | some n =>
    let n := { n with routeCount := n.routeCount + 1 }
    { s with modgatecnt, routes, neighborcache := s.neighborcache.insert item.neighborIp n }
  | none =>
    let updateModule := routeModule ++ "DstMAC" ++ gatewayMacStr
    let item := { item with gateIdx, macstr := gatewayMacStr, routeCount := item.routeCount + 1 }
    -- `create_module` of a module that exists fails with `EEXIST`, which is let pass
    let updateModules :=
      if updateModule ∈ s.updateModules then s.updateModules
      else s.updateModules ++ [updateModule]
    let modgatecnt := modgatecnt.insert routeModule ((modgatecnt.lookup routeModule).getD 0 + 1)
    let neighborcache := s.neighborcache.insert item.neighborIp item
    { s with routes, updateModules, modgatecnt, neighborcache }

/-- `del_route_entry(server, item)`. -/
def delRouteEntry (s : State) (item : NeighborEntry) : State :=
  let routeModule := item.iface ++ "Routes"
  match s.neighborcache.lookup item.neighborIp with
  | none => s
  | some n =>
    let routes := deleteRoute s.routes routeModule item.iprange item.prefixLen
    let n := { n with routeCount := n.routeCount - 1 }
    if n.routeCount = 0 then
      let updateModules := s.updateModules.erase (routeModule ++ "DstMAC" ++ n.macstr)
      { s with routes, updateModules, neighborcache := s.neighborcache.erase item.neighborIp }
    else { s with routes, neighborcache := s.neighborcache.insert item.neighborIp n }

/-- `probe_addr(item, src_mac)`: the route waits for its gateway's MAC. -/
def probeAddr (s : State) (item : NeighborEntry) : State :=
  { s with arpcache := s.arpcache.insert item.neighborIp item }

/-- The attributes of a route message: `dst_len`, `RTA_DST`, `RTA_GATEWAY` and the name of the
interface `RTA_OIF`. -/
structure RouteMsg where
  dstLen : Nat
  dst : Option String
  gateway : Option String
  oif : Option String
  deriving DecidableEq, Repr

/-- The entry `parse_new_route` and `parse_del_route` build, when the route is on a
configured interface (`args.i`) and has a prefix and a gateway; `parse_new_route` gives the
default route the prefix `0.0.0.0`, `parse_del_route` does not. -/
def routeItem (ifaces : List String) (defaultRoute : Bool) (msg : RouteMsg) :
    Option NeighborEntry :=
  let iprange :=
    match msg.dst with
    | some d => d
    | none => if defaultRoute ∧ msg.dstLen = 0 then "0.0.0.0" else ""
  match msg.oif, msg.gateway with
  | some iface, some gw =>
    if iface ∈ ifaces ∧ iprange ≠ "" ∧ gw ≠ "" then
      some ⟨gw, iface, iprange, msg.dstLen, 0, 0, ""⟩
    else none
  | _, _ => none

/-- `parse_new_route(msg)`, where `fetchMac` is what `fetch_mac` finds for the gateway. -/
def parseNewRoute (ifaces : List String) (s : State) (msg : RouteMsg) (fetchMac : Option Nat) :
    State :=
  match routeItem ifaces true msg with
  | none => s
  | some item =>
    let gatewayMac := fetchMac.getD 0
    if gatewayMac = 0 then probeAddr s item else linkRouteModule s gatewayMac item

/-- `parse_new_neighbor(msg)`, with `NDA_DST` and `NDA_LLADDR` (as `mac2hex` reads it). -/
def parseNewNeighbor (s : State) (neighborIp : String) (gatewayMac : Nat) : State :=
  match s.arpcache.lookup neighborIp with
  | none => s
  | some item =>
    let s := linkRouteModule s gatewayMac item
    { s with arpcache := s.arpcache.erase neighborIp }

/-- `parse_del_route(msg)`. -/
def parseDelRoute (ifaces : List String) (s : State) (msg : RouteMsg) : State :=
  match routeItem ifaces false msg with
  | none => s
  | some item => delRouteEntry s item

/-- The netlink events `netlink_event_listener` handles. -/
inductive Event where
  | newRoute (msg : RouteMsg) (fetchMac : Option Nat)
  | newNeigh (neighborIp : String) (gatewayMac : Nat)
  | delRoute (msg : RouteMsg)
  deriving DecidableEq, Repr

/-- `netlink_event_listener(ipdb, netlink_message, action)`. -/
def step (ifaces : List String) (s : State) : Event → State
  | .newRoute msg fetchMac => parseNewRoute ifaces s msg fetchMac
  | .newNeigh neighborIp gatewayMac => parseNewNeighbor s neighborIp gatewayMac
  | .delRoute msg => parseDelRoute ifaces s msg

def run (ifaces : List String) (s : State) (events : List Event) : State :=
  events.foldl (step ifaces) s

/-- A route is installed when its module has an entry for its prefix. -/
def Installed (s : State) (module iprange : String) (prefixLen : Nat) : Prop :=
  ∃ e ∈ s.routes, e.module = module ∧ e.iprange = iprange ∧ e.prefixLen = prefixLen

/-! ## What the events do -/

theorem mem_addRoute {routes : List RouteEntry} {r e : RouteEntry} :
    e ∈ addRoute routes r ↔
      (e ∈ routes ∧ (e.module = r.module → e.iprange = r.iprange → e.prefixLen ≠ r.prefixLen)) ∨
        e = r := by
  simp only [addRoute, List.mem_append, List.mem_filter, List.mem_singleton, Bool.not_eq_true',
    Bool.and_eq_false_iff, beq_eq_false_iff_ne, ne_eq]
  tauto

/-- The routes after `link_route_module`: the entry of the item added, at some gate. -/
theorem routes_linkRouteModule (s : State) (gatewayMac : Nat) (item : NeighborEntry) :
    ∃ gate, (linkRouteModule s gatewayMac item).routes =
      addRoute s.routes ⟨item.iface ++ "Routes", item.iprange, item.prefixLen, gate⟩ := by
  unfold linkRouteModule
  dsimp only
  split <;> exact ⟨_, rfl⟩

variable {ifaces : List String} {s : State} {msg : RouteMsg} {item : NeighborEntry}

/-- A route whose gateway's MAC is unknown only waits in `arpcache`, in the place of any
route there before it via the same gateway. -/
theorem step_newRoute_probe (h : routeItem ifaces true msg = some item) :
    step ifaces s (.newRoute msg none) = probeAddr s item := by
  simp only [step, parseNewRoute, h, Option.getD_none, if_true]

/-- The `RTM_NEWNEIGH` of a gateway links the route waiting for it, and forgets it. -/
theorem step_newNeigh {neighborIp : String} (gatewayMac : Nat)
    (h : s.arpcache.lookup neighborIp = some item) :
    step ifaces s (.newNeigh neighborIp gatewayMac) =
      { linkRouteModule s gatewayMac item with
        arpcache := (linkRouteModule s gatewayMac item).arpcache.erase neighborIp } := by
  simp only [step, parseNewNeighbor, h]

/-- Adding a route twice is adding it once. -/
theorem addRoute_addRoute_self (routes : List RouteEntry) (r : RouteEntry) :
    addRoute (addRoute routes r) r = addRoute routes r := by
  unfold addRoute
  rw [List.filter_append, List.filter_filter]
  simp

/-- `link_route_module` for a gateway that is a known neighbour: the route takes its gate. -/
theorem linkRouteModule_of_lookup {n : NeighborEntry} (gatewayMac : Nat)
    (hn : s.neighborcache.lookup item.neighborIp = some n) :
    (linkRouteModule s gatewayMac item).routes =
        addRoute s.routes ⟨item.iface ++ "Routes", item.iprange, item.prefixLen, n.gateIdx⟩ ∧
      (linkRouteModule s gatewayMac item).neighborcache =
        s.neighborcache.insert item.neighborIp { n with routeCount := n.routeCount + 1 } := by
  simp only [linkRouteModule, hn, and_self]

/-- After `link_route_module`, the gateway is a known neighbour, whose gate the route has. -/
theorem lookup_linkRouteModule (s : State) (gatewayMac : Nat) (item : NeighborEntry) :
    ∃ n, (linkRouteModule s gatewayMac item).neighborcache.lookup item.neighborIp = some n ∧
      (linkRouteModule s gatewayMac item).routes =
        addRoute s.routes ⟨item.iface ++ "Routes", item.iprange, item.prefixLen, n.gateIdx⟩ := by
  unfold linkRouteModule
  dsimp only
  split <;> exact ⟨_, AList.lookup_insert _, rfl⟩

/-- **A pending route is lost.** -/
theorem pending_route_lost {msg₁ msg₂ : RouteMsg} {item₁ item₂ : NeighborEntry} (mac : Nat)
    (h₁ : routeItem ifaces true msg₁ = some item₁) (h₂ : routeItem ifaces true msg₂ = some item₂)
    (hgw : item₁.neighborIp = item₂.neighborIp) (hrange : item₁.iprange ≠ item₂.iprange) :
    (Installed (run ifaces s [.newRoute msg₁ none, .newRoute msg₂ none,
        .newNeigh item₁.neighborIp mac]) (item₁.iface ++ "Routes") item₁.iprange item₁.prefixLen ↔
      Installed s (item₁.iface ++ "Routes") item₁.iprange item₁.prefixLen) ∧
    (run ifaces s [.newRoute msg₁ none, .newRoute msg₂ none,
        .newNeigh item₁.neighborIp mac]).arpcache.lookup item₁.neighborIp = none := by
  -- the second route takes the place of the first in `arpcache`
  have hwait : ((probeAddr (probeAddr s item₁) item₂).arpcache.lookup item₁.neighborIp) =
      some item₂ := by
    simp only [probeAddr]
    rw [hgw, AList.lookup_insert]
  have hrun : run ifaces s [.newRoute msg₁ none, .newRoute msg₂ none,
      .newNeigh item₁.neighborIp mac] =
      { linkRouteModule (probeAddr (probeAddr s item₁) item₂) mac item₂ with
        arpcache := (linkRouteModule (probeAddr (probeAddr s item₁) item₂) mac item₂).arpcache.erase
          item₁.neighborIp } := by
    simp only [run, List.foldl_cons, List.foldl_nil, step_newRoute_probe h₁,
      step_newRoute_probe h₂, step_newNeigh mac hwait]
  obtain ⟨gate, hroutes⟩ := routes_linkRouteModule (probeAddr (probeAddr s item₁) item₂) mac item₂
  rw [hrun]
  refine ⟨?_, AList.lookup_erase _ _⟩
  simp only [Installed, hroutes, mem_addRoute]
  constructor
  · rintro ⟨e, he | rfl, hm, hi, hl⟩
    · exact ⟨e, he.1, hm, hi, hl⟩
    · exact absurd hi.symm hrange
  · rintro ⟨e, he, hm, hi, hl⟩
    exact ⟨e, .inl ⟨he, fun _ hi' _ => hrange (hi.symm.trans hi')⟩, hm, hi, hl⟩

/-- **A repeated route is counted twice.** An `RTM_NEWROUTE` for a route via a gateway whose
MAC is known, handled twice, leaves the routes as the first left them, yet counts one more
route via the gateway. -/
theorem newRoute_repeated_counts_twice (mac : Nat) (hmac : mac ≠ 0)
    (h : routeItem ifaces true msg = some item) :
    (step ifaces (step ifaces s (.newRoute msg (some mac))) (.newRoute msg (some mac))).routes =
        (step ifaces s (.newRoute msg (some mac))).routes ∧
      ((step ifaces (step ifaces s (.newRoute msg (some mac))) (.newRoute msg (some mac))
          ).neighborcache.lookup item.neighborIp).map NeighborEntry.routeCount =
        ((step ifaces s (.newRoute msg (some mac))).neighborcache.lookup item.neighborIp).map
          (·.routeCount + 1) := by
  have hstep : ∀ t, step ifaces t (.newRoute msg (some mac)) = linkRouteModule t mac item := by
    intro t
    simp only [step, parseNewRoute, h, Option.getD_some, if_neg hmac]
  rw [hstep, hstep]
  -- after the first, the gateway is a known neighbour, and the second takes its gate
  obtain ⟨n, hn, hroutes⟩ := lookup_linkRouteModule s mac item
  obtain ⟨hroutes₂, hcache₂⟩ := linkRouteModule_of_lookup mac hn
  refine ⟨?_, ?_⟩
  · rw [hroutes₂, hroutes, addRoute_addRoute_self]
  · rw [hcache₂, AList.lookup_insert, hn]
    rfl

/-- A route to `dst` on `access`, via the gateway `198.51.100.1`. -/
def viaGateway (dst : String) : RouteMsg := ⟨16, some dst, some "198.51.100.1", some "access"⟩

theorem pending_route_lost_viaGateway :
    ¬ Installed (run ["access"] State.init [.newRoute (viaGateway "10.1.0.0") none,
        .newRoute (viaGateway "10.2.0.0") none, .newNeigh "198.51.100.1" 0x0A0B0C0D0E0F])
      "accessRoutes" "10.1.0.0" 16 ∧
    (run ["access"] State.init [.newRoute (viaGateway "10.1.0.0") none,
        .newRoute (viaGateway "10.2.0.0") none, .newNeigh "198.51.100.1" 0x0A0B0C0D0E0F]).arpcache.lookup
      "198.51.100.1" = none := by
  have h := @pending_route_lost ["access"] State.init (viaGateway "10.1.0.0")
    (viaGateway "10.2.0.0") ⟨"198.51.100.1", "access", "10.1.0.0", 16, 0, 0, ""⟩
    ⟨"198.51.100.1", "access", "10.2.0.0", 16, 0, 0, ""⟩ 0x0A0B0C0D0E0F rfl rfl rfl (by decide)
  refine ⟨fun hi => ?_, h.2⟩
  -- no route is installed in the initial state
  obtain ⟨e, he, -⟩ := h.1.mp hi
  exact List.not_mem_nil he

/-! ## The gates of the neighbours

A new neighbour takes the gate count of its route module as its gate, and the count then
grows by one; the count never shrinks, also when the neighbour is deleted. So the gates of
the live neighbours of one interface are distinct, each below the count. -/

/-- `modgatecnt.get(route_module)`, `0` when absent. -/
def gateCount (modgatecnt : AList fun _ : String => Nat) (routeModule : String) : Nat :=
  (modgatecnt.lookup routeModule).getD 0

/-- The neighbours of one interface have distinct gates, each below its module's count. -/
structure GatesDistinct (neighborcache : AList fun _ : String => NeighborEntry)
    (modgatecnt : AList fun _ : String => Nat) : Prop where
  lt_count : ∀ {ip n}, neighborcache.lookup ip = some n →
    n.gateIdx < gateCount modgatecnt (n.iface ++ "Routes")
  inj : ∀ {ip₁ ip₂ n₁ n₂}, neighborcache.lookup ip₁ = some n₁ → neighborcache.lookup ip₂ = some n₂ →
    n₁.iface = n₂.iface → n₁.gateIdx = n₂.gateIdx → ip₁ = ip₂

section GatesDistinct

variable {nc nc' : AList fun _ : String => NeighborEntry} {cnt cnt' : AList fun _ : String => Nat}

theorem lookup_insert_eq_some {ip ip' : String} {n m : NeighborEntry} :
    (nc.insert ip n).lookup ip' = some m ↔ ip' = ip ∧ m = n ∨ ip' ≠ ip ∧ nc.lookup ip' = some m := by
  by_cases h : ip' = ip
  · subst h
    rw [AList.lookup_insert, Option.some.injEq]
    exact ⟨fun e => .inl ⟨rfl, e.symm⟩, fun | .inl ⟨_, e⟩ => e.symm | .inr ⟨hne, _⟩ => absurd rfl hne⟩
  · rw [AList.lookup_insert_ne h]
    exact ⟨fun e => .inr ⟨h, e⟩, fun | .inl ⟨e, _⟩ => absurd e h | .inr ⟨_, e⟩ => e⟩

theorem GatesDistinct.mono (h : GatesDistinct nc cnt) (hc : ∀ m, gateCount cnt m ≤ gateCount cnt' m) :
    GatesDistinct nc cnt' :=
  ⟨fun hn => lt_of_lt_of_le (h.lt_count hn) (hc _), h.inj⟩

/-- Neighbours that keep their interface and gate, or go, keep the gates distinct. -/
theorem GatesDistinct.of_lookup (h : GatesDistinct nc cnt)
    (hsub : ∀ {ip m}, nc'.lookup ip = some m →
      ∃ m', nc.lookup ip = some m' ∧ m'.iface = m.iface ∧ m'.gateIdx = m.gateIdx) :
    GatesDistinct nc' cnt := by
  constructor
  · intro ip n hn
    obtain ⟨n', hn', hi, hg⟩ := hsub hn
    rw [← hi, ← hg]
    exact h.lt_count hn'
  · intro ip₁ ip₂ n₁ n₂ h₁ h₂ hi hg
    obtain ⟨m₁, hm₁, hi₁, hg₁⟩ := hsub h₁
    obtain ⟨m₂, hm₂, hi₂, hg₂⟩ := hsub h₂
    exact h.inj hm₁ hm₂ (by rw [hi₁, hi₂, hi]) (by rw [hg₁, hg₂, hg])

theorem GatesDistinct.erase (h : GatesDistinct nc cnt) (ip : String) :
    GatesDistinct (nc.erase ip) cnt := by
  refine h.of_lookup fun {ip' m} hm => ⟨m, ?_, rfl, rfl⟩
  by_cases hip : ip' = ip
  · rw [hip, AList.lookup_erase] at hm
    contradiction
  · rwa [AList.lookup_erase_ne hip] at hm

/-- A neighbour whose entry changes but for its interface and gate. -/
theorem GatesDistinct.refresh {ip : String} {n n' : NeighborEntry} (h : GatesDistinct nc cnt)
    (hn : nc.lookup ip = some n) (hi : n'.iface = n.iface) (hg : n'.gateIdx = n.gateIdx) :
    GatesDistinct (nc.insert ip n') cnt := by
  refine h.of_lookup fun {ip' m} hm => ?_
  rcases lookup_insert_eq_some.mp hm with ⟨rfl, rfl⟩ | ⟨-, hm⟩
  · exact ⟨n, hn, hi.symm, hg.symm⟩
  · exact ⟨m, hm, rfl, rfl⟩

theorem gateCount_le_insert_succ (cnt : AList fun _ : String => Nat) (module m : String) :
    gateCount cnt m ≤ gateCount (cnt.insert module (gateCount cnt module + 1)) m := by
  by_cases hm : m = module
  · rw [hm, gateCount, gateCount, AList.lookup_insert]
    exact Nat.le_succ _
  · rw [gateCount, gateCount, AList.lookup_insert_ne hm]

/-- A new neighbour, on the gate its module's count gives, the count then one more. -/
theorem GatesDistinct.insert_next {ip : String} {item : NeighborEntry} (h : GatesDistinct nc cnt)
    (hg : item.gateIdx = gateCount cnt (item.iface ++ "Routes")) :
    GatesDistinct (nc.insert ip item)
      (cnt.insert (item.iface ++ "Routes") (gateCount cnt (item.iface ++ "Routes") + 1)) := by
  have hcount := gateCount_le_insert_succ cnt (item.iface ++ "Routes")
  -- an old neighbour of the interface has a gate below the one the new one takes
  have hold : ∀ {ip' m}, nc.lookup ip' = some m → m.iface = item.iface → m.gateIdx ≠ item.gateIdx := by
    intro ip' m hm hi
    have := h.lt_count hm
    rw [hi, ← hg] at this
    exact Nat.ne_of_lt this
  constructor
  · intro ip' m hm
    rcases lookup_insert_eq_some.mp hm with ⟨-, rfl⟩ | ⟨-, hm⟩
    · rw [gateCount, AList.lookup_insert, hg]
      exact Nat.lt_succ_self _
    · exact lt_of_lt_of_le (h.lt_count hm) (hcount _)
  · intro ip₁ ip₂ n₁ n₂ h₁ h₂ hi hgate
    rcases lookup_insert_eq_some.mp h₁ with ⟨e₁, rfl⟩ | ⟨-, h₁'⟩ <;>
      rcases lookup_insert_eq_some.mp h₂ with ⟨e₂, rfl⟩ | ⟨-, h₂'⟩
    · rw [e₁, e₂]
    · exact absurd hgate.symm (hold h₂' hi.symm)
    · exact absurd hgate (hold h₁' hi)
    · exact h.inj h₁' h₂' hi hgate

end GatesDistinct

/-- `if not modgatecnt.get(route_module): modgatecnt[route_module] = 0` keeps every count. -/
theorem gateCount_reset (cnt : AList fun _ : String => Nat) (module m : String) :
    gateCount (if (cnt.lookup module).getD 0 = 0 then cnt.insert module 0 else cnt) m =
      gateCount cnt m := by
  split
  · next h0 =>
    by_cases hm : m = module
    · rw [hm, gateCount, gateCount, AList.lookup_insert, Option.getD_some, h0]
    · rw [gateCount, gateCount, AList.lookup_insert_ne hm]
  · rfl

theorem GatesDistinct.linkRouteModule (h : GatesDistinct s.neighborcache s.modgatecnt)
    (gatewayMac : Nat) (item : NeighborEntry) :
    GatesDistinct (linkRouteModule s gatewayMac item).neighborcache
      (linkRouteModule s gatewayMac item).modgatecnt := by
  have hreset : GatesDistinct s.neighborcache
      (if (s.modgatecnt.lookup (item.iface ++ "Routes")).getD 0 = 0
        then s.modgatecnt.insert (item.iface ++ "Routes") 0 else s.modgatecnt) :=
    h.mono fun m => Nat.le_of_eq (gateCount_reset _ _ m).symm
  unfold RouteControl.linkRouteModule
  dsimp only
  split
  · next n hn => exact hreset.refresh hn rfl rfl
  · exact hreset.insert_next rfl

theorem GatesDistinct.delRouteEntry (h : GatesDistinct s.neighborcache s.modgatecnt)
    (item : NeighborEntry) :
    GatesDistinct (delRouteEntry s item).neighborcache (delRouteEntry s item).modgatecnt := by
  unfold RouteControl.delRouteEntry
  split
  · exact h
  · next n hn =>
    dsimp only
    split
    · exact h.erase _
    · exact h.refresh hn rfl rfl

theorem GatesDistinct.step (h : GatesDistinct s.neighborcache s.modgatecnt) (e : Event) :
    GatesDistinct (step ifaces s e).neighborcache (step ifaces s e).modgatecnt := by
  cases e with
  | newRoute msg fetchMac =>
    simp only [RouteControl.step, parseNewRoute]
    split
    · exact h
    · split
      · exact h
      · exact h.linkRouteModule _ _
  | newNeigh neighborIp gatewayMac =>
    simp only [RouteControl.step, parseNewNeighbor]
    split
    · exact h
    · exact h.linkRouteModule _ _
  | delRoute msg =>
    simp only [RouteControl.step, parseDelRoute]
    split
    · exact h
    · exact h.delRouteEntry _

theorem GatesDistinct.run (events : List Event) (h : GatesDistinct s.neighborcache s.modgatecnt) :
    GatesDistinct (run ifaces s events).neighborcache (run ifaces s events).modgatecnt := by
  induction events generalizing s with
  | nil => exact h
  | cons e events ih => exact ih (h.step e)

theorem gatesDistinct_init : GatesDistinct State.init.neighborcache State.init.modgatecnt where
  lt_count := by
    intro ip n hn
    exact absurd hn (by simp [State.init])
  inj := by
    intro ip₁ _ _ _ h₁
    exact absurd h₁ (by simp [State.init])

/-- **The live neighbours of an interface have distinct gates.** In every state a run of the
controller reaches, two neighbours of one interface on the same gate are one neighbour, and
each gate is below the gate count of the interface's route module. -/
theorem run_gateIdx_distinct (ifaces : List String) (events : List Event) :
    GatesDistinct (run ifaces State.init events).neighborcache
      (run ifaces State.init events).modgatecnt :=
  gatesDistinct_init.run events

end RouteControl
