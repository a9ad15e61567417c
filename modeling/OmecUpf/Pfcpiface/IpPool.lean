import Mathlib
import OmecUpf.Lib.GoNet
import OmecUpf.Lib.Loop
import OmecUpf.Pfcpiface.Rules

/-!
# The UE IP pool

`IPPool` (`ip_pool.go`) is a FIFO of free addresses and an inventory from the local SEID of a
session to the address it holds. An address is a `net.IP`, a byte slice.

* `lookupOrAllocIP`: `LookupOrAllocIP`, which answers the held address of a known SEID and
  otherwise dequeues the head of the free list.
* `deallocIP`: `DeallocIP`, which re-enqueues the address of a known SEID.
* `lookupOrAllocIP_lookup`, `deallocIP_lookup`: what each call does to the inventory; a
  failed call changes nothing.
* `Op`, `step`, `run`: the runs of the pool; `addresses`: its addresses, free or held.
* `addresses_lookupOrAllocIP`, `addresses_deallocIP`: each call moves one address between the
  free list and the inventory, or none. **`addresses_run`**: so a run keeps them.
* `HoldsDistinct`: no address is held under two SEIDs, or both held and free;
  `holdsDistinct_of_nodup`: it follows from distinct addresses.
* `inc`, `newIPPoolStep`, `NewIPPool`: the enumeration of the subnet, `inc` after `inc` while
  the network contains the address, run with a bound on its iterations.
* `run_newIPPoolStep`, `nodup_freePool_NewIPPool`: the loop lists the iterates of `inc` it
  walked, which are distinct because it stopped.
* `lookupOrAllocIP_cases`, `deallocIP_cases`: what each call returns, in each case.
* **`NewIPPool_run_conserves`**: from a pool of `NewIPPool`, every sequence of `LookupOrAllocIP`
  and `DeallocIP` calls keeps the free list and the held addresses together a permutation of the
  pool's addresses, without duplicates, so that no address is held under two SEIDs or both held
  and free; every call then behaves as `lookupOrAllocIP_cases` and `deallocIP_cases` say.
* **`NewIPPool_diverges_on_slash_zero`**: for `0.0.0.0/0` every address is in the network, and
  the loop never ends.
-/

namespace Pfcpiface

structure IPPool where
  freePool : List (List UInt8)
  inventory : AList (fun _ : UInt64 => List UInt8)

namespace IPPool

/-- `LookupOrAllocIP(seid)`. -/
def lookupOrAllocIP (i : IPPool) (seid : UInt64) : Except Error (List UInt8) × IPPool :=
  match i.inventory.lookup seid with
  | some ip => (.ok ip, i)
  | none =>
    match i.freePool with
    | [] => (.error (.operationFailedWithReason "IP allocation" "ip pool empty"), i)
    | ip :: rest => (.ok ip, { freePool := rest, inventory := i.inventory.insert seid ip })

/-- `DeallocIP(seid)`. -/
def deallocIP (i : IPPool) (seid : UInt64) : Option Error × IPPool :=
  match i.inventory.lookup seid with
  | none =>
    (some (.invalidArgumentWithReason "seid" (toString seid) "can't dealloc non-existent session"),
      i)
  | some ip => (none, { freePool := i.freePool ++ [ip], inventory := i.inventory.erase seid })

/-- After `LookupOrAllocIP(seid)` succeeds, `seid` holds the address returned and no other
entry of the inventory changes. A failure changes nothing. -/
theorem lookupOrAllocIP_lookup (i : IPPool) (seid : UInt64) :
    (∃ ip, (i.lookupOrAllocIP seid).1 = .ok ip ∧ ∀ s', (i.lookupOrAllocIP seid).2.inventory.lookup s'
      = if s' = seid then some ip else i.inventory.lookup s') ∨
    (∃ e, (i.lookupOrAllocIP seid).1 = .error e ∧ (i.lookupOrAllocIP seid).2 = i) := by
  unfold lookupOrAllocIP
  cases hl : i.inventory.lookup seid with
  | some ip =>
    refine .inl ⟨ip, rfl, fun s' => ?_⟩
    split_ifs with h
    · rw [h, hl]
    · rfl
  | none =>
    cases hf : i.freePool with
    | nil => exact .inr ⟨_, rfl, rfl⟩
    | cons ip rest =>
      refine .inl ⟨ip, rfl, fun s' => ?_⟩
      split_ifs with h
      · rw [h]
        exact AList.lookup_insert _
      · exact AList.lookup_insert_ne h

/-- `DeallocIP(seid)` fails, changing nothing, exactly when `seid` holds no address; otherwise
it removes `seid` from the inventory. -/
theorem deallocIP_lookup (i : IPPool) (seid : UInt64) :
    ((i.deallocIP seid).1 = none ↔ seid ∈ i.inventory) ∧
    (seid ∉ i.inventory → (i.deallocIP seid).2 = i) ∧
    ∀ s', (i.deallocIP seid).2.inventory.lookup s' =
      if s' = seid then none else i.inventory.lookup s' := by
  unfold deallocIP
  cases hl : i.inventory.lookup seid with
  | none =>
    have hn : seid ∉ i.inventory := AList.lookup_eq_none.mp hl
    refine ⟨by simp [hn], fun _ => rfl, fun s' => ?_⟩
    split_ifs with h
    · rw [h, hl]
    · rfl
  | some ip =>
    have hm : seid ∈ i.inventory := by
      rw [← AList.lookup_isSome, hl]; rfl
    refine ⟨by simp [hm], fun h => absurd hm h, fun s' => ?_⟩
    split_ifs with h
    · rw [h]
      exact AList.lookup_erase _ _
    · exact AList.lookup_erase_ne h

/-! ## Runs of the pool -/

/-- A call on the pool. -/
inductive Op where
  | lookupOrAllocIP (seid : UInt64)
  | deallocIP (seid : UInt64)
  deriving DecidableEq, Repr

/-- The pool after one call. -/
def step (i : IPPool) : Op → IPPool
  | .lookupOrAllocIP seid => (i.lookupOrAllocIP seid).2
  | .deallocIP seid => (i.deallocIP seid).2

/-- The pool after a sequence of calls. -/
def run (i : IPPool) (ops : List Op) : IPPool := ops.foldl step i

/-- A pool as `NewIPPool` leaves it: the free addresses, and no session holding one. -/
def ofFreePool (freePool : List (List UInt8)) : IPPool := ⟨freePool, ∅⟩

/-- Every address of the pool, free or held. -/
def addresses (i : IPPool) : List (List UInt8) := i.freePool ++ i.inventory.entries.map (·.2)

theorem addresses_lookupOrAllocIP (i : IPPool) (seid : UInt64) :
    (i.lookupOrAllocIP seid).2.addresses.Perm i.addresses := by
  unfold lookupOrAllocIP
  cases hl : i.inventory.lookup seid with
  | some ip => exact .refl _
  | none =>
    cases hf : i.freePool with
    | nil => exact .refl _
    | cons ip rest =>
      -- the head of the free list moves to the inventory, under a SEID that held nothing
      have hseid : seid ∉ i.inventory := AList.lookup_eq_none.mp hl
      simp only [addresses, AList.entries_insert_of_notMem hseid, List.map_cons, hf]
      exact List.perm_middle

theorem addresses_deallocIP (i : IPPool) (seid : UInt64) :
    (i.deallocIP seid).2.addresses.Perm i.addresses := by
  unfold deallocIP
  cases hl : i.inventory.lookup seid with
  | none => exact .refl _
  | some ip =>
    -- the entry of `seid` leaves the inventory, and its address goes to the back of the list
    have hmem : Sigma.mk seid ip ∈ i.inventory.entries := AList.mem_lookup_iff.mp hl
    obtain ⟨b, l₁, l₂, -, he, hk⟩ := List.exists_of_kerase (List.mem_keys_of_mem hmem)
    have hb : b = ip := i.inventory.nodupKeys.eq_of_mk_mem
      (by rw [he]; exact List.mem_append_right _ List.mem_cons_self) hmem
    simp only [addresses, AList.erase, hk]
    rw [he, hb]
    simp only [List.map_append, List.map_cons, List.append_assoc, List.singleton_append]
    exact List.Perm.append_left _ List.perm_middle.symm

theorem addresses_step (i : IPPool) (op : Op) : (i.step op).addresses.Perm i.addresses := by
  cases op with
  | lookupOrAllocIP seid => exact addresses_lookupOrAllocIP i seid
  | deallocIP seid => exact addresses_deallocIP i seid

/-- **A run keeps the addresses of the pool**: it moves them between the free list and the
inventory, and never loses, copies or invents one. -/
theorem addresses_run (i : IPPool) (ops : List Op) : (i.run ops).addresses.Perm i.addresses := by
  induction ops generalizing i with
  | nil => exact .refl _
  | cons op ops ih => exact (ih (i.step op)).trans (addresses_step i op)

/-- No address is held under two SEIDs, and no held address is also free. -/
def HoldsDistinct (i : IPPool) : Prop :=
  (∀ s₁ s₂ ip, i.inventory.lookup s₁ = some ip → i.inventory.lookup s₂ = some ip → s₁ = s₂) ∧
  ∀ s ip, i.inventory.lookup s = some ip → ip ∉ i.freePool

theorem holdsDistinct_of_nodup {i : IPPool} (h : i.addresses.Nodup) : i.HoldsDistinct := by
  obtain ⟨-, hheld, hdisj⟩ := List.nodup_append.mp h
  refine ⟨fun s₁ s₂ ip h₁ h₂ => ?_, fun s ip hs hfree => ?_⟩
  · -- two entries with one address are one entry
    have he := List.inj_on_of_nodup_map hheld (AList.mem_lookup_iff.mp h₁)
      (AList.mem_lookup_iff.mp h₂) rfl
    exact congrArg Sigma.fst he
  · exact hdisj ip hfree ip (List.mem_map_of_mem (AList.mem_lookup_iff.mp hs)) rfl

/-! ## What each call returns -/

/-- `LookupOrAllocIP(seid)` answers the address of a known SEID and changes nothing; otherwise it
dequeues the head of the free list, or fails with the pool unchanged when the list is empty. -/
theorem lookupOrAllocIP_cases (i : IPPool) (seid : UInt64) :
    (∀ ip, i.inventory.lookup seid = some ip → i.lookupOrAllocIP seid = (.ok ip, i)) ∧
    (seid ∉ i.inventory → ∀ ip rest, i.freePool = ip :: rest →
      i.lookupOrAllocIP seid = (.ok ip, { freePool := rest, inventory := i.inventory.insert seid ip })) ∧
    (seid ∉ i.inventory → i.freePool = [] →
      i.lookupOrAllocIP seid = (.error (.operationFailedWithReason "IP allocation" "ip pool empty"), i)) := by
  refine ⟨fun ip hl => by simp only [lookupOrAllocIP, hl], fun hn ip rest hf => ?_, fun hn hf => ?_⟩
  · simp only [lookupOrAllocIP, AList.lookup_eq_none.mpr hn, hf]
  · simp only [lookupOrAllocIP, AList.lookup_eq_none.mpr hn, hf]

/-- `DeallocIP(seid)` fails, with the pool unchanged, for an unknown SEID; otherwise it moves
the address of `seid` to the back of the free list. -/
theorem deallocIP_cases (i : IPPool) (seid : UInt64) :
    (seid ∉ i.inventory → i.deallocIP seid =
      (some (.invalidArgumentWithReason "seid" (toString seid) "can\x27t dealloc non-existent session"), i)) ∧
    (∀ ip, i.inventory.lookup seid = some ip →
      i.deallocIP seid = (none, { freePool := i.freePool ++ [ip], inventory := i.inventory.erase seid })) := by
  refine ⟨fun hn => by simp only [deallocIP, AList.lookup_eq_none.mpr hn], fun ip hl => ?_⟩
  simp only [deallocIP, hl]

end IPPool

/-! ## `NewIPPool` -/

open Go

/-- The loop of `inc(ip)` from index `j - 1` down: add one, and carry while the byte wraps to
`0`. -/
def incFrom (ip : List UInt8) : Nat → List UInt8
  | 0 => ip
  | j + 1 =>
    let ip := ip.modify j (· + 1)
    if ip.getD j 0 > 0 then ip else incFrom ip j

/-- `inc(ip)` (`utils.go`): the next address, in place; the last one wraps to `0`. -/
def inc (ip : List UInt8) : List UInt8 := incFrom ip ip.length

theorem length_incFrom (ip : List UInt8) (j : Nat) : (incFrom ip j).length = ip.length := by
  induction j generalizing ip with
  | zero => rfl
  | succ j ih =>
    simp only [incFrom]
    split_ifs
    · exact List.length_modify _ _ _
    · rw [ih, List.length_modify]

@[simp] theorem length_inc (ip : List UInt8) : (inc ip).length = ip.length := length_incFrom ip _

/-- One iteration of `for ip := ip.Mask(ipnet.Mask); ipnet.Contains(ip); inc(ip)`, which
appends a copy of each address. -/
def newIPPoolStep (ipnet : IPNet) (st : List UInt8 × List (List UInt8)) :
    Loop.Step (List UInt8 × List (List UInt8)) (List (List UInt8)) :=
  if ipnet.contains st.1 then .next (inc st.1, st.2 ++ [st.1]) else .done st.2

/-- `NewIPPool(poolSubnet)` with at most `fuel` iterations of its loop: `none` when they run out.
The loop starts at `ip.Mask(ipnet.Mask)`, which is the network address `ipnet.IP`. The network
and the broadcast address are cut off the list. -/
def NewIPPool (poolSubnet : List Char) (fuel : Nat) : Option (Except Error IPPool) :=
  match parseCIDR poolSubnet with
  | none => some (.error (.std ("invalid CIDR address: " ++ String.ofList poolSubnet)))
  | some ipnet =>
    match Loop.run (newIPPoolStep ipnet) fuel (ipnet.ip, []) with
    | some (some freePool) =>
      if freePool.length < 2 then
        some (.error (.invalidArgumentWithReason "NewIPPool" (String.ofList poolSubnet)
          "pool subnet is too small to use as a pool"))
      else some (.ok { freePool := (freePool.drop 1).take (freePool.length - 2), inventory := ∅ })
    | _ => none

/-- **The loop lists the walk.** A run of the loop that ends has appended the iterates of `inc`
it walked, each in the network, and stopped at the first one outside. -/
theorem run_newIPPoolStep {ipnet : IPNet} {fuel : Nat} {ip : List UInt8}
    {acc r : List (List UInt8)} (h : Loop.run (newIPPoolStep ipnet) fuel (ip, acc) = some (some r)) :
    ∃ k, r = acc ++ (List.range k).map (fun m => inc^[m] ip) ∧
      (∀ m < k, ipnet.contains (inc^[m] ip) = true) ∧ ipnet.contains (inc^[k] ip) = false := by
  induction fuel generalizing ip acc with
  | zero => cases h
  | succ fuel ih =>
    by_cases hc : ipnet.contains ip = true
    · -- the address is kept and the walk goes on from the next one
      have hstep : newIPPoolStep ipnet (ip, acc) = .next (inc ip, acc ++ [ip]) := by
        simp only [newIPPoolStep, hc, if_true]
      rw [Loop.run_succ_next hstep] at h
      obtain ⟨k, rfl, hin, hout⟩ := ih h
      refine ⟨k + 1, ?_, fun m hm => ?_, by rwa [Function.iterate_succ_apply]⟩
      · rw [List.range_succ_eq_map, List.map_cons, List.map_map]
        simp only [Function.iterate_zero_apply, List.append_assoc, List.singleton_append]
        rfl
      · cases m with
        | zero => exact hc
        | succ m => rw [Function.iterate_succ_apply]; exact hin m (by omega)
    · have hstep : newIPPoolStep ipnet (ip, acc) = .done acc := by
        simp only [newIPPoolStep, hc, Bool.false_eq_true, if_false]
      rw [Loop.run_succ_done hstep] at h
      cases h
      exact ⟨0, by simp, fun m hm => absurd hm (Nat.not_lt_zero m), by simpa using hc⟩

/-- **`NewIPPool` hands out distinct addresses.** The loop stopped, so the iterates it walked
are distinct (`Loop.iterate_injOn_of_stops`), and the pool is a slice of them. -/
theorem nodup_freePool_NewIPPool {poolSubnet : List Char} {fuel : Nat} {pool : IPPool}
    (h : NewIPPool poolSubnet fuel = some (.ok pool)) : pool.freePool.Nodup ∧ pool.inventory = ∅ := by
  unfold NewIPPool at h
  split at h
  · cases h
  · rename_i ipnet _
    split at h
    · rename_i freePool hrun
      obtain ⟨k, rfl, hin, hout⟩ := run_newIPPoolStep hrun
      have hwalk : ((List.range k).map fun m => inc^[m] ipnet.ip).Nodup :=
        (List.nodup_range).map_on fun i hi j hj hij =>
          Loop.iterate_injOn_of_stops (C := fun a => ipnet.contains a = true) hin
            (by simpa using hout) (List.mem_range.mp hi) (List.mem_range.mp hj) hij
      split at h
      · cases h
      · cases h
        refine ⟨?_, rfl⟩
        rw [List.nil_append]
        exact (hwalk.sublist (List.drop_sublist _ _)).sublist (List.take_sublist _ _)
    · cases h

/-- **No UE address is given to two sessions.** -/
theorem NewIPPool_run_conserves {poolSubnet : List Char} {fuel : Nat} {pool : IPPool}
    (hpool : NewIPPool poolSubnet fuel = some (.ok pool)) (ops : List IPPool.Op) :
    (pool.run ops).addresses.Perm pool.freePool ∧ (pool.run ops).addresses.Nodup ∧
      (pool.run ops).HoldsDistinct ∧
      (∀ seid, (∀ ip, (pool.run ops).inventory.lookup seid = some ip →
          (pool.run ops).lookupOrAllocIP seid = (.ok ip, pool.run ops)) ∧
        (seid ∉ (pool.run ops).inventory → ∀ ip rest, (pool.run ops).freePool = ip :: rest →
          (pool.run ops).lookupOrAllocIP seid = (.ok ip,
            { freePool := rest, inventory := (pool.run ops).inventory.insert seid ip })) ∧
        (seid ∉ (pool.run ops).inventory → (pool.run ops).freePool = [] →
          (pool.run ops).lookupOrAllocIP seid =
            (.error (.operationFailedWithReason "IP allocation" "ip pool empty"), pool.run ops))) ∧
      (∀ seid, (seid ∉ (pool.run ops).inventory → (pool.run ops).deallocIP seid =
          (some (.invalidArgumentWithReason "seid" (toString seid)
            "can\x27t dealloc non-existent session"), pool.run ops)) ∧
        (∀ ip, (pool.run ops).inventory.lookup seid = some ip →
          (pool.run ops).deallocIP seid =
            (none, ⟨(pool.run ops).freePool ++ [ip], (pool.run ops).inventory.erase seid⟩))) := by
  obtain ⟨hnodup, hinv⟩ := nodup_freePool_NewIPPool hpool
  -- the pool's addresses are its free list: nothing is held yet
  have hstart : pool.addresses = pool.freePool := by
    simp only [IPPool.addresses, hinv, AList.empty_entries, List.map_nil, List.append_nil]
  have hperm : (pool.run ops).addresses.Perm pool.freePool := hstart ▸ IPPool.addresses_run pool ops
  have hnd : (pool.run ops).addresses.Nodup := hperm.nodup_iff.mpr hnodup
  exact ⟨hperm, hnd, IPPool.holdsDistinct_of_nodup hnd,
    fun seid => IPPool.lookupOrAllocIP_cases _ seid, fun seid => IPPool.deallocIP_cases _ seid⟩

/-- A `/30`: its two host addresses, and two sessions that take them. -/
theorem NewIPPool_run_conserves_slash30 :
    NewIPPool "10.0.0.0/30".toList 5 = some (.ok ⟨[[10, 0, 0, 1], [10, 0, 0, 2]], ∅⟩) ∧
      ((⟨[[10, 0, 0, 1], [10, 0, 0, 2]], ∅⟩ : IPPool).run
        [.lookupOrAllocIP 1, .lookupOrAllocIP 2]).HoldsDistinct :=
  ⟨rfl, (@NewIPPool_run_conserves "10.0.0.0/30".toList 5 _ rfl _).2.2.1⟩

/-- The network `0.0.0.0/0`, which `ParseCIDR` accepts. -/
theorem parseCIDR_slash_zero : parseCIDR "0.0.0.0/0".toList = some ⟨[0, 0, 0, 0], [0, 0, 0, 0]⟩ := by
  decide

/-- A mask of zeros: the network `0.0.0.0/0` contains every 4-byte address. -/
theorem contains_slash_zero {ip : List UInt8} (h : ip.length = 4) :
    IPNet.contains ⟨[0, 0, 0, 0], [0, 0, 0, 0]⟩ ip = true := by
  have hnm : networkNumberAndMask ⟨[0, 0, 0, 0], [0, 0, 0, 0]⟩ = some ([0, 0, 0, 0], [0, 0, 0, 0]) := by
    decide
  have hto4 : to4 ip = some ip := by simp [to4, h]
  simp only [IPNet.contains, hnm, hto4, Option.getD_some, h]
  -- each byte of the network and of the mask is `0`
  have hzero : ∀ i, ([0, 0, 0, 0] : List UInt8).getD i 0 = 0 := by
    intro i
    rcases i with _ | _ | _ | _ | i <;> rfl
  simp only [hzero, UInt8.and_zero]
  decide

/-- **`NewIPPool("0.0.0.0/0")` runs forever.** Every address is in the network, and `inc` wraps
from `255.255.255.255` to `0.0.0.0`, so the loop condition never fails. -/
theorem NewIPPool_diverges_on_slash_zero :
    parseCIDR "0.0.0.0/0".toList = some ⟨[0, 0, 0, 0], [0, 0, 0, 0]⟩ ∧
      ∀ fuel, NewIPPool "0.0.0.0/0".toList fuel = none := by
  refine ⟨parseCIDR_slash_zero, fun fuel => ?_⟩
  -- the walk stays among 4-byte addresses, where every iteration continues
  have hrun : Loop.run (newIPPoolStep ⟨[0, 0, 0, 0], [0, 0, 0, 0]⟩) fuel ([0, 0, 0, 0], []) = none :=
    Loop.run_eq_none_of_forall_next (fun st => st.1.length = 4)
      (fun st hst => ⟨(inc st.1, st.2 ++ [st.1]),
        by simp only [newIPPoolStep, contains_slash_zero hst, if_true], (length_inc st.1).trans hst⟩)
      rfl fuel
  simp only [NewIPPool, parseCIDR_slash_zero, hrun]

end Pfcpiface
