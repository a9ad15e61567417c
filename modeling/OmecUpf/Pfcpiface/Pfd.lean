import Mathlib
import OmecUpf.Pfcpiface.Teid
import OmecUpf.Lib.GoMap

/-!
# The PFD table, with Go's maps as references

`handlePFDMgmtRequest` (`messages_conn.go`) keeps a copy `currentAppPFDs` of `pConn.appPFDs`;
`ResetAppPFDs` (`pfd.go`) then makes a new map, and the loops write into it through
`NewAppPFD`, `RemoveAppPFD` and `pConn.appPFDs[id] = appPFD`, the last from a local copy of the
entry. `errUnmarshalReply` sets `pConn.appPFDs` back to the copy. A Go map being a reference, the
copy is the old table only if none of these writes reach the map it refers to. Here the maps of
the connection are a `MapHeap`, and `PfdConn.handlePFDMgmtRequest` follows the source step by
step; `PFCPConn.handlePFDMgmtRequest` of `Messages` is its functional model.

* `PfdConn`, `ResetAppPFDs`, `NewAppPFD`, `RemoveAppPFD`, `PfdConn.handlePFDMgmtRequest`.
* `PfdConn.Wf`: `pConn.appPFDs` refers to a map that was made. `OnlyTable`: a connection that
  differs from another in the map of `appPFDs` only.
* `addAppPFDs_toOption`, `lookup_insertPFDs`: the functional loop stores the flow descriptions
  of each IE when every IE can be read, the last IE of an Application ID winning.
* `appPFDsLoop_spec`: the loops compute the functional loop, in the map of `appPFDs` only.
* **`handlePFDMgmtRequest_refines`**: from a connection whose `appPFDs` was made, the handler
  sends the response and error of `PFCPConn.handlePFDMgmtRequest` from the table `appPFDs` refers
  to, leaves `appPFDs` referring to the table that one leaves, and changes no map made before it.
* **`handlePFDMgmtRequest_accepts_or_restores`**: from a connection whose `appPFDs` was made, a
  request is accepted, and `appPFDs` is then the table of the Application IDs of the request,
  each with the flow descriptions of its last IE, or rejected, with the table from before.
-/

namespace Pfcpiface

open Go

/-- The part of `PFCPConn` the PFD handlers reach: the maps it made, and `appPFDs`, a
reference to one of them. -/
structure PfdConn where
  heap : MapHeap String AppPFD
  appPFDs : MapRef

namespace PfdConn

/-- `pConn.appPFDs` refers to a map that was made. -/
def Wf (c : PfdConn) : Prop := c.appPFDs < c.heap.maps.length

instance (c : PfdConn) : Decidable c.Wf := inferInstanceAs (Decidable (_ < _))

/-- The table `pConn.appPFDs` refers to. -/
def table (c : PfdConn) : AList fun _ : String => AppPFD := c.heap.get c.appPFDs

/-- `ResetAppPFDs()`. -/
def ResetAppPFDs (c : PfdConn) : PfdConn :=
  let (appPFDs, heap) := c.heap.make
  { heap, appPFDs }

/-- `NewAppPFD(appID)`: a PFD with no flow descriptions yet. -/
def NewAppPFD (c : PfdConn) (appID : String) : PfdConn :=
  { c with heap := c.heap.insert c.appPFDs appID ⟨appID, []⟩ }

/-- `RemoveAppPFD(appID)`. -/
def RemoveAppPFD (c : PfdConn) (appID : String) : PfdConn :=
  { c with heap := c.heap.erase c.appPFDs appID }

/-- The loop of `handlePFDMgmtRequest` over the PFD contents of the application `id`, appending
to the local copy `appPFD`; an exit through `errUnmarshalReply` gives its error and the
connection it leaves. -/
def flowDescsLoop (c : PfdConn) (id : String) (appPFD : AppPFD) :
    List (Option String) → Except (Error × PfdConn) AppPFD
  | [] => .ok appPFD
  -- `PFDContents()` failed: the entry of `id` is removed first
  | none :: _ => .error (.ie, c.RemoveAppPFD id)
  | some fd :: rest =>
    -- an empty flow description leaves the entry of `id` in the new map
    if fd = "" then .error (errFlowDescAbsent, c)
    else flowDescsLoop c id { appPFD with flowDescs := appPFD.flowDescs ++ [fd] } rest

/-- The loop of `handlePFDMgmtRequest` over the Application ID's PFDs IEs. -/
def appPFDsLoop (c : PfdConn) : List ApplicationIDPFDsIE → Except (Error × PfdConn) PfdConn
  | [] => .ok c
  | appIDPFD :: rest =>
    match appIDPFD.applicationID with
    | none => .error (.ie, c)
    | some id =>
      let c := c.NewAppPFD id
      -- `appPFD := pConn.appPFDs[id]`, the zero value for an absent key
      let appPFD := (c.table.lookup id).getD ⟨"", []⟩
      match appIDPFD.pfdContext with
      | none => .error (.ie, c.RemoveAppPFD id)
      | some pfdCtx =>
        match flowDescsLoop c id appPFD pfdCtx with
        | .error e => .error e
        | .ok appPFD => appPFDsLoop { c with heap := c.heap.insert c.appPFDs id appPFD } rest

/-- `handlePFDMgmtRequest(msg)`: the response and the error it returns, and the connection
after it. -/
def handlePFDMgmtRequest (c : PfdConn) (req : PFDManagementRequest) :
    (Reply × Option Error) × PfdConn :=
  let currentAppPFDs := c.appPFDs
  let c := c.ResetAppPFDs
  match appPFDsLoop c req.applicationIDsPFDs with
  | .ok c => ((.pfdManagementResponse causeRequestAccepted, none), c)
  -- `errUnmarshalReply`: the reference is set back to the old map
  | .error (err, c) =>
    ((.pfdManagementResponse causeRequestRejected, some (.unmarshal err)),
      { c with appPFDs := currentAppPFDs })

end PfdConn

/-! ## The table of a request -/

/-- The flow descriptions of a PFD context, when every `PFDContents()` can be read and none is
empty. -/
def flowDescsOf (pfdCtx : List (Option String)) : Option (List String) :=
  pfdCtx.mapM fun fd => fd.filter (· != "")

/-- The Application ID of an IE and the flow descriptions of its PFD context, when all of it
can be read. -/
def ApplicationIDPFDsIE.pfds (ie : ApplicationIDPFDsIE) : Option (String × List String) := do
  let id ← ie.applicationID
  let pfdCtx ← ie.pfdContext
  let flowDescs ← flowDescsOf pfdCtx
  pure (id, flowDescs)

/-- The PFD the last of `pfds` with the ID `id` gives. -/
def lastPFD (pfds : List (String × List String)) (id : String) : Option AppPFD :=
  ((pfds.filter (·.1 = id)).getLast?).map fun p => ⟨id, p.2⟩

/-- The table with the PFDs of `pfds` stored in order. -/
def insertPFDs (m : AList fun _ : String => AppPFD) (pfds : List (String × List String)) :
    AList fun _ : String => AppPFD :=
  pfds.foldl (fun m p => m.insert p.1 ⟨p.1, p.2⟩) m

@[simp] theorem flowDescsOf_nil : flowDescsOf [] = some [] := rfl

@[simp] theorem flowDescsOf_none_cons (rest : List (Option String)) :
    flowDescsOf (none :: rest) = none := rfl

@[simp] theorem flowDescsOf_some_cons (fd : String) (rest : List (Option String)) :
    flowDescsOf (some fd :: rest) = if fd = "" then none else (flowDescsOf rest).map (fd :: ·) := by
  by_cases h : fd = ""
  · simp [flowDescsOf, Option.filter, h]
  · simp [flowDescsOf, Option.filter, h, Option.map_eq_bind]

theorem addFlowDescs_toOption (appPFD : AppPFD) (pfdCtx : List (Option String)) :
    (PFCPConn.addFlowDescs appPFD pfdCtx).toOption =
      (flowDescsOf pfdCtx).map fun fds => { appPFD with flowDescs := appPFD.flowDescs ++ fds } := by
  induction pfdCtx generalizing appPFD with
  | nil => simp [PFCPConn.addFlowDescs, Except.toOption]
  | cons fd rest ih =>
    cases fd with
    | none => rfl
    | some fd =>
      by_cases h : fd = ""
      · simp [PFCPConn.addFlowDescs, Except.toOption, h]
      · simp [PFCPConn.addFlowDescs, h, ih, Function.comp_def]

theorem eq_of_addFlowDescs_eq_ok {id : String} {pfdCtx : List (Option String)} {appPFD : AppPFD}
    (h : PFCPConn.addFlowDescs ⟨id, []⟩ pfdCtx = .ok appPFD) :
    ∃ fds, flowDescsOf pfdCtx = some fds ∧ appPFD = ⟨id, fds⟩ := by
  have ht := addFlowDescs_toOption ⟨id, []⟩ pfdCtx
  rw [h] at ht
  cases hf : flowDescsOf pfdCtx with
  | none => simp [hf, Except.toOption] at ht
  | some fds =>
    simp only [hf, Option.map_some, Except.toOption, Option.some.injEq] at ht
    exact ⟨fds, rfl, by simpa using ht⟩

theorem addFlowDescs_eq_ok_of_flowDescsOf {id : String} {pfdCtx : List (Option String)}
    {fds : List String} (h : flowDescsOf pfdCtx = some fds) :
    PFCPConn.addFlowDescs ⟨id, []⟩ pfdCtx = .ok ⟨id, fds⟩ := by
  have ht := addFlowDescs_toOption ⟨id, []⟩ pfdCtx
  rw [h] at ht
  cases ha : PFCPConn.addFlowDescs ⟨id, []⟩ pfdCtx with
  | error e => simp [ha, Except.toOption] at ht
  | ok appPFD =>
    simp only [ha, Except.toOption, Option.map_some, Option.some.injEq] at ht
    simp [ht]

theorem addAppPFDs_cons_of_pfds {m : AList fun _ : String => AppPFD} {ie : ApplicationIDPFDsIE}
    {id : String} {fds : List String} (h : ie.pfds = some (id, fds))
    (rest : List ApplicationIDPFDsIE) :
    PFCPConn.addAppPFDs m (ie :: rest) = PFCPConn.addAppPFDs (m.insert id ⟨id, fds⟩) rest := by
  obtain ⟨_ | id', _ | pfdCtx⟩ := ie
  · simp [ApplicationIDPFDsIE.pfds] at h
  · simp [ApplicationIDPFDsIE.pfds] at h
  · simp [ApplicationIDPFDsIE.pfds] at h
  · cases hf : flowDescsOf pfdCtx with
    | none => simp [ApplicationIDPFDsIE.pfds, hf] at h
    | some fds' =>
      simp only [ApplicationIDPFDsIE.pfds, hf, Option.pure_def, Option.bind_eq_bind,
        Option.bind_some, Option.some.injEq, Prod.mk.injEq] at h
      obtain ⟨rfl, rfl⟩ := h
      simp only [PFCPConn.addAppPFDs, fromIE, pure_bind, addFlowDescs_eq_ok_of_flowDescsOf hf]
      rfl

theorem addAppPFDs_cons_of_pfds_eq_none {ie : ApplicationIDPFDsIE} (h : ie.pfds = none)
    (m : AList fun _ : String => AppPFD) (rest : List ApplicationIDPFDsIE) :
    (PFCPConn.addAppPFDs m (ie :: rest)).toOption = none := by
  obtain ⟨_ | id, _ | pfdCtx⟩ := ie
  · rfl
  · rfl
  · rfl
  · cases ha : PFCPConn.addFlowDescs ⟨id, []⟩ pfdCtx with
    | error e =>
      simp only [PFCPConn.addAppPFDs, fromIE, pure_bind, ha]
      rfl
    | ok appPFD =>
      obtain ⟨fds, hf, rfl⟩ := eq_of_addFlowDescs_eq_ok ha
      simp [ApplicationIDPFDsIE.pfds, hf] at h

/-- **The functional loop stores the PFDs of the request.** It succeeds exactly when every IE
can be read, with the PFD of each IE stored in order. -/
theorem addAppPFDs_toOption (m : AList fun _ : String => AppPFD)
    (ies : List ApplicationIDPFDsIE) :
    (PFCPConn.addAppPFDs m ies).toOption =
      (ies.mapM ApplicationIDPFDsIE.pfds).map (insertPFDs m) := by
  induction ies generalizing m with
  | nil => rfl
  | cons ie rest ih =>
    cases hp : ie.pfds with
    | none => simp [addAppPFDs_cons_of_pfds_eq_none hp, hp]
    | some p =>
      obtain ⟨id, fds⟩ := p
      rw [addAppPFDs_cons_of_pfds hp, ih, List.mapM_cons, hp]
      cases rest.mapM ApplicationIDPFDsIE.pfds <;> rfl

theorem insertPFDs_snoc (m : AList fun _ : String => AppPFD)
    (pfds : List (String × List String)) (p : String × List String) :
    insertPFDs m (pfds ++ [p]) = (insertPFDs m pfds).insert p.1 ⟨p.1, p.2⟩ := by
  simp [insertPFDs]

theorem lastPFD_snoc (pfds : List (String × List String)) (p : String × List String)
    (id : String) :
    lastPFD (pfds ++ [p]) id = if p.1 = id then some ⟨id, p.2⟩ else lastPFD pfds id := by
  by_cases h : p.1 = id <;> simp [lastPFD, h]

/-- **The last PFD of an Application ID wins.** -/
theorem lookup_insertPFDs (m : AList fun _ : String => AppPFD)
    (pfds : List (String × List String)) (id : String) :
    (insertPFDs m pfds).lookup id = (lastPFD pfds id).or (m.lookup id) := by
  induction pfds using List.reverseRecOn with
  | nil => rfl
  | append_singleton pfds p ih =>
    rw [insertPFDs_snoc, lastPFD_snoc]
    by_cases h : p.1 = id
    · subst h
      simp
    · simp [AList.lookup_insert_ne (Ne.symm h), h, ih]

/-! ## The loops on the maps -/

namespace PfdConn

/-- `c'` is `c` with the map of `c.appPFDs` changed, and nothing else. -/
def OnlyTable (c c' : PfdConn) : Prop :=
  c'.appPFDs = c.appPFDs ∧ ∃ m, c'.heap = c.heap.set c.appPFDs m

theorem OnlyTable.refl {c : PfdConn} (hc : c.Wf) : OnlyTable c c :=
  ⟨rfl, c.table, (c.heap.set_get_self hc).symm⟩

theorem OnlyTable.trans {c c' c'' : PfdConn} (h : OnlyTable c c') (h' : OnlyTable c' c'') :
    OnlyTable c c'' := by
  obtain ⟨hr, m, hm⟩ := h
  obtain ⟨hr', m', hm'⟩ := h'
  refine ⟨hr'.trans hr, m', ?_⟩
  rw [hm', hm, hr, MapHeap.set_set]

theorem onlyTable_set (c : PfdConn) (m : AList fun _ : String => AppPFD) :
    OnlyTable c { c with heap := c.heap.set c.appPFDs m } :=
  ⟨rfl, m, rfl⟩

theorem OnlyTable.wf {c c' : PfdConn} (h : OnlyTable c c') (hc : c.Wf) : c'.Wf := by
  obtain ⟨hr, m, hm⟩ := h
  unfold Wf
  rw [hr, hm, MapHeap.length_set]
  exact hc

/-- The maps other than the table are those of `c`. -/
theorem OnlyTable.get_ne {c c' : PfdConn} (h : OnlyTable c c') {r : MapRef} (hr : r ≠ c.appPFDs) :
    c'.heap.get r = c.heap.get r := by
  obtain ⟨-, m, hm⟩ := h
  rw [hm, MapHeap.get_set_ne _ _ (Ne.symm hr)]

theorem table_set {c : PfdConn} (hc : c.Wf) (m : AList fun _ : String => AppPFD) :
    table { c with heap := c.heap.set c.appPFDs m } = m :=
  c.heap.get_set_self m hc

theorem onlyTable_NewAppPFD (c : PfdConn) (appID : String) : OnlyTable c (c.NewAppPFD appID) :=
  onlyTable_set c _

theorem onlyTable_RemoveAppPFD (c : PfdConn) (appID : String) :
    OnlyTable c (c.RemoveAppPFD appID) :=
  onlyTable_set c _

theorem table_NewAppPFD {c : PfdConn} (hc : c.Wf) (appID : String) :
    (c.NewAppPFD appID).table = c.table.insert appID ⟨appID, []⟩ :=
  table_set hc _

/-- The inner loop computes `addFlowDescs`, and an exit from it changes the table only. -/
theorem flowDescsLoop_spec (c : PfdConn) (hc : c.Wf) (id : String) (appPFD : AppPFD)
    (pfdCtx : List (Option String)) :
    (flowDescsLoop c id appPFD pfdCtx).mapError Prod.fst = PFCPConn.addFlowDescs appPFD pfdCtx ∧
      ∀ e c', flowDescsLoop c id appPFD pfdCtx = .error (e, c') → OnlyTable c c' := by
  induction pfdCtx generalizing appPFD with
  | nil => exact ⟨rfl, fun e c' h => by cases h⟩
  | cons fd rest ih =>
    cases fd with
    | none =>
      refine ⟨rfl, fun e c' h => ?_⟩
      cases h
      exact onlyTable_RemoveAppPFD c id
    | some fd =>
      by_cases hfd : fd = ""
      · refine ⟨by simp [flowDescsLoop, PFCPConn.addFlowDescs, hfd, Except.mapError], ?_⟩
        intro e c' h
        simp only [flowDescsLoop, hfd, if_true, Except.error.injEq, Prod.mk.injEq] at h
        rw [← h.2]
        exact OnlyTable.refl hc
      · simp only [flowDescsLoop, PFCPConn.addFlowDescs, hfd, if_false]
        exact ih _

theorem appPFDsLoop_cons_none (c : PfdConn) (pfdContext : Option (List (Option String)))
    (rest : List ApplicationIDPFDsIE) :
    appPFDsLoop c (⟨none, pfdContext⟩ :: rest) = .error (.ie, c) := rfl

theorem appPFDsLoop_cons_some_none (c : PfdConn) (id : String) (rest : List ApplicationIDPFDsIE) :
    appPFDsLoop c (⟨some id, none⟩ :: rest) = .error (.ie, (c.NewAppPFD id).RemoveAppPFD id) :=
  rfl

/-- Writing the local copy back after `NewAppPFD(id)` stores it over the new entry. -/
theorem table_writeBack {c : PfdConn} (hc : c.Wf) (id : String) (appPFD : AppPFD) :
    table { c.NewAppPFD id with heap := (c.NewAppPFD id).heap.insert c.appPFDs id appPFD } =
      c.table.insert id appPFD :=
  calc _ = (c.NewAppPFD id).table.insert id appPFD :=
        table_set ((onlyTable_NewAppPFD c id).wf hc) _
    _ = c.table.insert id appPFD := by rw [table_NewAppPFD hc, AList.insert_insert]

/-- After `NewAppPFD(id)`, the local copy `pConn.appPFDs[id]` is the new PFD. -/
theorem appPFDsLoop_cons_some {c : PfdConn} (hc : c.Wf) (id : String)
    (pfdCtx : List (Option String)) (rest : List ApplicationIDPFDsIE) :
    appPFDsLoop c (⟨some id, some pfdCtx⟩ :: rest) =
      match flowDescsLoop (c.NewAppPFD id) id ⟨id, []⟩ pfdCtx with
      | .error e => .error e
      | .ok appPFD =>
        appPFDsLoop { c.NewAppPFD id with
          heap := (c.NewAppPFD id).heap.insert c.appPFDs id appPFD } rest := by
  have happ : ((c.NewAppPFD id).table.lookup id).getD ⟨"", []⟩ = ⟨id, []⟩ := by
    rw [table_NewAppPFD hc, AList.lookup_insert]
    rfl
  simp only [appPFDsLoop, happ]
  rfl

/-- **The loops compute the functional loop, in the table only.** From a connection whose
`appPFDs` was made, the loops over the IEs end as `addAppPFDs` from its table, with the same
error or the same table; and wherever they end, only the table has changed. -/
theorem appPFDsLoop_spec (c : PfdConn) (hc : c.Wf) (ies : List ApplicationIDPFDsIE) :
    ((appPFDsLoop c ies).map table).mapError Prod.fst = PFCPConn.addAppPFDs c.table ies ∧
      (∀ c', appPFDsLoop c ies = .ok c' → OnlyTable c c') ∧
      (∀ e c', appPFDsLoop c ies = .error (e, c') → OnlyTable c c') := by
  induction ies generalizing c with
  | nil => exact ⟨rfl, fun c' h => by cases h; exact OnlyTable.refl hc, fun e c' h => by cases h⟩
  | cons ie rest ih =>
    obtain ⟨_ | id, pfdContext⟩ := ie
    -- `ApplicationID()` failed: nothing was written
    · rw [appPFDsLoop_cons_none]
      exact ⟨rfl, nofun, fun e c' h => by cases h; exact OnlyTable.refl hc⟩
    cases pfdContext with
    -- `PFDContext()` failed: the new entry is removed
    | none =>
      rw [appPFDsLoop_cons_some_none]
      refine ⟨rfl, nofun, fun e c' h => ?_⟩
      cases h
      exact (onlyTable_NewAppPFD c id).trans (onlyTable_RemoveAppPFD _ id)
    | some pfdCtx =>
      have hnew := onlyTable_NewAppPFD c id
      have hc1 := hnew.wf hc
      obtain ⟨hfl, hfr⟩ := flowDescsLoop_spec (c.NewAppPFD id) hc1 id ⟨id, []⟩ pfdCtx
      rw [appPFDsLoop_cons_some hc]
      cases h : flowDescsLoop (c.NewAppPFD id) id ⟨id, []⟩ pfdCtx with
      | error e =>
        obtain ⟨e, c'⟩ := e
        rw [h] at hfl
        refine ⟨?_, nofun, fun e' c'' h' => ?_⟩
        · simp only [PFCPConn.addAppPFDs, fromIE, pure_bind, ← hfl]
          rfl
        · cases h'
          exact hnew.trans (hfr e c' h)
      | ok appPFD =>
        rw [h] at hfl
        -- the entry is written back once, over the new one
        let c2 : PfdConn := { c.NewAppPFD id with
          heap := (c.NewAppPFD id).heap.insert c.appPFDs id appPFD }
        have h12 : OnlyTable (c.NewAppPFD id) c2 := onlyTable_set _ _
        obtain ⟨ihl, iho, ihe⟩ := ih c2 (h12.wf hc1)
        refine ⟨?_, fun c' h' => (hnew.trans h12).trans (iho c' h'),
          fun e c' h' => (hnew.trans h12).trans (ihe e c' h')⟩
        simp only [PFCPConn.addAppPFDs, fromIE, pure_bind, ← hfl]
        show _ = PFCPConn.addAppPFDs (c.table.insert id appPFD) rest
        rw [← table_writeBack hc id appPFD]
        exact ihl

/-! ## The handler -/

theorem wf_ResetAppPFDs (c : PfdConn) : c.ResetAppPFDs.Wf := by
  show c.heap.maps.length < c.heap.make.2.maps.length
  simp

@[simp] theorem table_ResetAppPFDs (c : PfdConn) : c.ResetAppPFDs.table = ∅ :=
  c.heap.get_make_self

/-- After `ResetAppPFDs`, a write to the table reaches no map made before. -/
theorem OnlyTable.get_of_ResetAppPFDs {c c' : PfdConn} (h : OnlyTable c.ResetAppPFDs c')
    {r : MapRef} (hr : r < c.heap.maps.length) : c'.heap.get r = c.heap.get r := by
  have hne : r ≠ c.ResetAppPFDs.appPFDs := Nat.ne_of_lt hr
  rw [h.get_ne hne]
  exact c.heap.get_make_of_lt hr

/-- What the handler does: it accepts with the connection the loops leave, or rejects with the
error of the loops and `appPFDs` set back. -/
theorem handlePFDMgmtRequest_cases (c : PfdConn) (req : PFDManagementRequest) :
    (∃ c', appPFDsLoop c.ResetAppPFDs req.applicationIDsPFDs = .ok c' ∧
      c.handlePFDMgmtRequest req = ((.pfdManagementResponse causeRequestAccepted, none), c')) ∨
    (∃ e c', appPFDsLoop c.ResetAppPFDs req.applicationIDsPFDs = .error (e, c') ∧
      c.handlePFDMgmtRequest req =
        ((.pfdManagementResponse causeRequestRejected, some (.unmarshal e)),
          { c' with appPFDs := c.appPFDs })) := by
  dsimp only [handlePFDMgmtRequest]
  cases appPFDsLoop c.ResetAppPFDs req.applicationIDsPFDs with
  | ok c' => exact .inl ⟨c', rfl, rfl⟩
  | error r => exact .inr ⟨r.1, r.2, rfl, rfl⟩

theorem handlePFDMgmtRequest_of_ok {c : PfdConn} {req : PFDManagementRequest}
    {m : AList fun _ : String => AppPFD}
    (h : PFCPConn.addAppPFDs ∅ req.applicationIDsPFDs = .ok m) :
    (c.handlePFDMgmtRequest req).1 = (.pfdManagementResponse causeRequestAccepted, none) ∧
      (c.handlePFDMgmtRequest req).2.table = m := by
  obtain ⟨hl, -, -⟩ :=
    appPFDsLoop_spec c.ResetAppPFDs (wf_ResetAppPFDs c) req.applicationIDsPFDs
  rw [table_ResetAppPFDs, h] at hl
  obtain ⟨c', hloop, hreq⟩ | ⟨e, c', hloop, -⟩ := handlePFDMgmtRequest_cases c req
  · rw [hloop] at hl
    cases hl
    rw [hreq]
    exact ⟨rfl, rfl⟩
  · rw [hloop] at hl
    cases hl

theorem handlePFDMgmtRequest_of_error {c : PfdConn} (hc : c.Wf) {req : PFDManagementRequest}
    {e : Error} (h : PFCPConn.addAppPFDs ∅ req.applicationIDsPFDs = .error e) :
    (c.handlePFDMgmtRequest req).1 =
        (.pfdManagementResponse causeRequestRejected, some (.unmarshal e)) ∧
      (c.handlePFDMgmtRequest req).2.table = c.table := by
  obtain ⟨hl, -, he⟩ :=
    appPFDsLoop_spec c.ResetAppPFDs (wf_ResetAppPFDs c) req.applicationIDsPFDs
  rw [table_ResetAppPFDs, h] at hl
  obtain ⟨c', hloop, -⟩ | ⟨e', c', hloop, hreq⟩ := handlePFDMgmtRequest_cases c req
  · rw [hloop] at hl
    cases hl
  · rw [hloop] at hl
    cases hl
    rw [hreq]
    -- the old reference is restored, and its map was not written
    exact ⟨rfl, (he _ c' hloop).get_of_ResetAppPFDs hc⟩

/-- The handler changes no map made before it, and `appPFDs` refers to a map after it. -/
theorem handlePFDMgmtRequest_frame {c : PfdConn} (hc : c.Wf) (req : PFDManagementRequest) :
    (∀ r < c.heap.maps.length, (c.handlePFDMgmtRequest req).2.heap.get r = c.heap.get r) ∧
      (c.handlePFDMgmtRequest req).2.Wf := by
  obtain ⟨-, ho, he⟩ :=
    appPFDsLoop_spec c.ResetAppPFDs (wf_ResetAppPFDs c) req.applicationIDsPFDs
  obtain ⟨c', hloop, hreq⟩ | ⟨e, c', hloop, hreq⟩ := handlePFDMgmtRequest_cases c req
  · have hon := ho c' hloop
    rw [hreq]
    exact ⟨fun r hr => hon.get_of_ResetAppPFDs hr, hon.wf (wf_ResetAppPFDs c)⟩
  · have hon := he e c' hloop
    rw [hreq]
    refine ⟨fun r hr => hon.get_of_ResetAppPFDs hr, ?_⟩
    -- the old reference is below the length of the maps after `make`
    obtain ⟨-, m, hm⟩ := hon
    show c.appPFDs < c'.heap.maps.length
    rw [hm, MapHeap.length_set]
    exact Nat.lt_of_lt_of_le hc (by simp [ResetAppPFDs])

/-- **The handler refines its functional model.** -/
theorem handlePFDMgmtRequest_refines (c : PfdConn) (hc : c.Wf) (pc : PFCPConn)
    (hpc : pc.appPFDs = c.table) (req : PFDManagementRequest) :
    (c.handlePFDMgmtRequest req).1 = (pc.handlePFDMgmtRequest req).1 ∧
      (c.handlePFDMgmtRequest req).2.table = (pc.handlePFDMgmtRequest req).2.appPFDs ∧
      (c.handlePFDMgmtRequest req).2.Wf ∧
      ∀ r < c.heap.maps.length, (c.handlePFDMgmtRequest req).2.heap.get r = c.heap.get r := by
  obtain ⟨hframe, hwf⟩ := handlePFDMgmtRequest_frame hc req
  refine ⟨?_, ?_, hwf, hframe⟩ <;>
  · unfold PFCPConn.handlePFDMgmtRequest
    cases h : PFCPConn.addAppPFDs ∅ req.applicationIDsPFDs with
    | ok m => simp [handlePFDMgmtRequest_of_ok h]
    | error e => simp [handlePFDMgmtRequest_of_error hc h, hpc]

theorem handlePFDMgmtRequest_refines_emptyTable :
    PfdConn.Wf ⟨⟨[∅]⟩, 0⟩ ∧ (sampleConn fun _ => 0).appPFDs = (⟨⟨[∅]⟩, 0⟩ : PfdConn).table ∧
      ((⟨⟨[∅]⟩, 0⟩ : PfdConn).handlePFDMgmtRequest ⟨1, [⟨some "app", some [some "flow"]⟩]⟩).1 =
        ((sampleConn fun _ => 0).handlePFDMgmtRequest ⟨1, [⟨some "app", some [some "flow"]⟩]⟩).1 :=
  ⟨by decide, rfl, (handlePFDMgmtRequest_refines ⟨⟨[∅]⟩, 0⟩ (by decide) (sampleConn fun _ => 0) rfl
    ⟨1, [⟨some "app", some [some "flow"]⟩]⟩).1⟩

/-- **A request is accepted with the table of its IEs, or rejected with the table from before.** -/
theorem handlePFDMgmtRequest_accepts_or_restores (c : PfdConn) (hc : c.Wf)
    (req : PFDManagementRequest) :
    ((c.handlePFDMgmtRequest req).1 = (.pfdManagementResponse causeRequestAccepted, none) ∧
      ∃ pfds, req.applicationIDsPFDs.mapM ApplicationIDPFDsIE.pfds = some pfds ∧
        ∀ id, (c.handlePFDMgmtRequest req).2.table.lookup id = lastPFD pfds id) ∨
    ((c.handlePFDMgmtRequest req).1.1 = .pfdManagementResponse causeRequestRejected ∧
      (c.handlePFDMgmtRequest req).2.table = c.table) := by
  cases h : PFCPConn.addAppPFDs ∅ req.applicationIDsPFDs with
  | error e =>
    obtain ⟨hreply, htable⟩ := handlePFDMgmtRequest_of_error hc h
    exact Or.inr ⟨by rw [hreply], htable⟩
  | ok m =>
    obtain ⟨hreply, htable⟩ := handlePFDMgmtRequest_of_ok (c := c) h
    -- the table the functional loop stores is that of the IEs, read in order
    have ht := addAppPFDs_toOption ∅ req.applicationIDsPFDs
    rw [h] at ht
    cases hp : req.applicationIDsPFDs.mapM ApplicationIDPFDsIE.pfds with
    | none => simp [hp, Except.toOption] at ht
    | some pfds =>
      simp only [hp, Option.map_some, Except.toOption, Option.some.injEq] at ht
      refine Or.inl ⟨hreply, pfds, rfl, fun id => ?_⟩
      rw [htable, ht, lookup_insertPFDs]
      simp

theorem handlePFDMgmtRequest_accepts_or_restores_rejected :
    PfdConn.Wf ⟨⟨[∅]⟩, 0⟩ ∧
      ((((⟨⟨[∅]⟩, 0⟩ : PfdConn).handlePFDMgmtRequest ⟨1, [⟨some "app", some [some ""]⟩]⟩).1 =
          (.pfdManagementResponse causeRequestAccepted, none) ∧
        ∃ pfds, [(⟨some "app", some [some ""]⟩ : ApplicationIDPFDsIE)].mapM
            ApplicationIDPFDsIE.pfds = some pfds ∧
          ∀ id, ((⟨⟨[∅]⟩, 0⟩ : PfdConn).handlePFDMgmtRequest
            ⟨1, [⟨some "app", some [some ""]⟩]⟩).2.table.lookup id = lastPFD pfds id) ∨
      (((⟨⟨[∅]⟩, 0⟩ : PfdConn).handlePFDMgmtRequest ⟨1, [⟨some "app", some [some ""]⟩]⟩).1.1 =
          .pfdManagementResponse causeRequestRejected ∧
        ((⟨⟨[∅]⟩, 0⟩ : PfdConn).handlePFDMgmtRequest ⟨1, [⟨some "app", some [some ""]⟩]⟩).2.table =
          (⟨⟨[∅]⟩, 0⟩ : PfdConn).table)) :=
  ⟨by decide, handlePFDMgmtRequest_accepts_or_restores ⟨⟨[∅]⟩, 0⟩ (by decide)
    ⟨1, [⟨some "app", some [some ""]⟩]⟩⟩

end PfdConn

end Pfcpiface
