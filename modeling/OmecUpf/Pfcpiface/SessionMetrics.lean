import OmecUpf.Pfcpiface.Teid

/-!
# The session gauge

`pfcp_sessions` is meant to count, by node ID, the sessions the agent holds. `NewPFCPSession`
counts a session in as soon as it has a local SEID, before any Create IE is parsed, and only
`RemoveSession` counts one out. An establishment that fails on the way, after the session was
counted and before it is stored, leaves the gauge one above the sessions of the store.
`SaveSessions` also tells a creation from a deletion by a duration of `0`, so a session deleted
in the tick it was created counts in twice.

* `Metrics.saveSessions_sessions`: what `SaveSessions` does to the gauge of each node ID.
* `PFCPConn.sessionsOf`: the sessions of the store created for a node ID.
* `newSessionLoop_some`: a new session is counted for the remote node, and nothing is stored.
* `removeSession_sessions`: a removal counts out, or in when no tick passed.
* `handlePFCPMsg_createPDR_error`: an establishment whose first Create PDR fails to parse.
* **`rejected_establishment_counts_session`**: a reachable connection that stores no session
  of `smf` while its gauge counts one.
-/

namespace Pfcpiface

open Go

theorem Metrics.saveSessions_sessions (svc : Metrics.Service) (sess : Metrics.Session)
    (n : String) :
    (svc.saveSessions sess).sessions n =
      if n = sess.nodeID then (if sess.duration = 0 then svc.sessions n + 1 else svc.sessions n - 1)
      else svc.sessions n := by
  unfold Metrics.Service.saveSessions
  by_cases hd : sess.duration = 0
  · rw [if_pos hd]
    by_cases hn : n = sess.nodeID <;> simp [hn, hd]
  · rw [if_neg hd]
    by_cases hn : n = sess.nodeID <;> simp [hn, hd]

namespace PFCPConn

/-- The sessions of the store created for the SMF `nodeID`. -/
def sessionsOf (c : PFCPConn) (nodeID : String) : Nat :=
  (c.store.entries.filter fun e => e.2.metrics.nodeID = nodeID).length

/-- A session of `NewPFCPSession` is counted for the remote node; the store, the PFDs and the
UPF stay as they were. -/
theorem newSessionLoop_some {rseid : UInt64} {k : Nat} {c c' : PFCPConn} {s : PFCPSession}
    (h : newSessionLoop rseid k c = (some s, c')) :
    c'.store = c.store ∧ c'.appPFDs = c.appPFDs ∧ c'.upf = c.upf ∧
      ∀ n, c'.metrics.sessions n = c.metrics.sessions n + if n = c.nodeIDRemote then 1 else 0 := by
  induction k generalizing c with
  | zero => cases h
  | succ k ih =>
    by_cases hmem : c.rng c.draws ∈ c.store
    · simp only [newSessionLoop, hmem, if_true] at h
      -- a drawn SEID in use: the next try, from the connection with one more draw
      have := ih h
      exact this
    · simp only [newSessionLoop, hmem, if_false, timeNow] at h
      cases h
      refine ⟨rfl, rfl, rfl, fun n => ?_⟩
      rw [Metrics.saveSessions_sessions]
      by_cases hn : n = c.nodeIDRemote <;> simp [hn, Metrics.newSession]

/-- `RemoveSession` counts the session out of its node's gauge, unless the clock reads the
tick of its creation: then `SaveSessions` takes it for a new session. -/
theorem removeSession_sessions (c : PFCPConn) (session : PFCPSession) (n : String) :
    (c.removeSession session).metrics.sessions n =
      if n = session.metrics.nodeID then
        (if c.clock c.clockReads - session.metrics.createdAt = 0 then c.metrics.sessions n + 1
          else c.metrics.sessions n - 1)
      else c.metrics.sessions n :=
  Metrics.saveSessions_sessions _ _ n

theorem parseNewPDR_without_pdrID {ie : PdrIE} (h : ie.pdrID = none)
    (appPFDs : AList (fun _ : String => AppPFD)) (session : PFCPSession) (upf : Upf) :
    (parseNewPDR ie appPFDs session).exec upf = .ok (.error .ie, upf) := by
  simp only [parseNewPDR, Pdr.parsePDR, h, fromIE]
  rfl

theorem createRules_cons_error {ι ρ : Type} {parse : PFCPSession → ι → Mut Upf Error ρ}
    {withFseidIP : ρ → ρ} {create : PFCPSession → ρ → PFCPSession}
    {reply : Error → Response × Option Error} {ie : ι} {ies : List ι} {session : PFCPSession}
    {added : List ρ} {c : PFCPConn} {e : Error} {upf' : Upf}
    (h : (parse session ie).exec c.upf = .ok (.error e, upf')) :
    (createRules parse withFseidIP create reply (ie :: ies) session added).exec c =
      .ok (.error (reply e), { c with upf := upf' }) := by
  rw [createRules, Mut.exec_bind, onUpf, Mut.exec_focus, h]
  rfl

/-- An establishment whose first Create PDR fails to parse is rejected, after
`NewPFCPSession` counted its session; the connection is the one `NewPFCPSession` left, with the
UPF as the parse left it. -/
theorem handleSessionEstablishmentRequest_createPDR_error (c : PFCPConn)
    (req : SessionEstablishmentRequest) (hnode : req.nodeID = some c.nodeIDRemote)
    (f : FSEIDFields) (hf : req.cpFSEID = some f) (hip : f.ipv4Address.length = 4)
    (s : PFCPSession) (c₁ : PFCPConn) (hnew : c.newPFCPSession f.seid = (some s, c₁))
    (p : PdrIE) (ps : List PdrIE) (hpdr : req.createPDR = p :: ps) (e : Error) (upf' : Upf)
    (hparse : (parseNewPDR p c₁.appPFDs s).exec c₁.upf = .ok (.error e, upf')) :
    (handleSessionEstablishmentRequest req).exec c =
      .ok (.error (({ cause := causeRequestRejected, seid := f.seid } : Response),
        some (.process e)), { c₁ with upf := upf' }) := by
  unfold handleSessionEstablishmentRequest
  simp only [Mut.exec_bind, hnode, hf, orReturn, Mut.exec_pure, Mut.exec_ofAbort,
    ip2int_of_length_four hip, Except.map, Mut.exec_get, ne_eq, not_true_eq_false, if_false, hnew,
    Mut.exec_set, hpdr]
  rw [createRules_cons_error hparse]

theorem handlePFCPMsg_createPDR_error (c : PFCPConn)
    (req : SessionEstablishmentRequest) (hnode : req.nodeID = some c.nodeIDRemote)
    (f : FSEIDFields) (hf : req.cpFSEID = some f) (hip : f.ipv4Address.length = 4)
    (s : PFCPSession) (c₁ : PFCPConn) (hnew : c.newPFCPSession f.seid = (some s, c₁))
    (p : PdrIE) (ps : List PdrIE) (hpdr : req.createPDR = p :: ps) (e : Error) (upf' : Upf)
    (hparse : (parseNewPDR p c₁.appPFDs s).exec c₁.upf = .ok (.error e, upf')) :
    c.handlePFCPMsg (.sessionEstablishmentRequest req) =
      .ok ((some (.session { cause := causeRequestRejected, seid := f.seid }), some (.process e)),
        { c₁ with upf := upf' }) := by
  simp only [handlePFCPMsg, runHandler, Except.map,
    handleSessionEstablishmentRequest_createPDR_error c req hnode f hf hip s c₁ hnew p ps hpdr e
      upf' hparse]

end PFCPConn

/-- A Create PDR without its PDR ID. -/
def pdrWithoutID : PdrIE := { pdrID := none, precedence := some 0, pdi := some [], farID := some 1 }

/-- An establishment from `smf`, with F-SEID `7`, of one PDR without its ID. -/
def unparsableEstablishment : SessionEstablishmentRequest :=
  { nodeID := some "smf", cpFSEID := some { seid := 7, ipv4Address := [10, 0, 0, 9] },
    createPDR := [pdrWithoutID] }

/-- **A rejected establishment stays in the gauge.** After the association of `smf` and an
establishment whose Create PDR has no PDR ID, the connection stores no session of `smf`, and
`pfcp_sessions` for `smf` is `1`. -/
theorem rejected_establishment_counts_session :
    ∃ c, Reachable c ∧ c.sessionsOf "smf" = 0 ∧ c.metrics.sessions "smf" = 1 := by
  -- the connection after the association of `smf`
  let c₀ : PFCPConn := { sampleConn (fun _ => causeRequestAccepted) with nodeIDRemote := "smf" }
  have h₀ : Reachable c₀ := (reachable_sampleConn _).step smfAssociation rfl
  obtain ⟨s, c₁, hnew⟩ : ∃ s c₁, c₀.newPFCPSession 7 = (some s, c₁) := ⟨_, _, rfl⟩
  have hmsg := PFCPConn.handlePFCPMsg_createPDR_error c₀ unparsableEstablishment rfl
    { seid := 7, ipv4Address := [10, 0, 0, 9] } rfl rfl s c₁ hnew pdrWithoutID [] rfl .ie c₁.upf
    (PFCPConn.parseNewPDR_without_pdrID rfl _ _ _)
  obtain ⟨hstore, -, -, hgauge⟩ := PFCPConn.newSessionLoop_some hnew
  refine ⟨{ c₁ with upf := c₁.upf },
    h₀.step (.message (.sessionEstablishmentRequest unparsableEstablishment))
      (by rw [PFCPConn.step, hmsg]; rfl), ?_, ?_⟩
  · -- the store is still the empty one of the new connection
    show (c₁.store.entries.filter _).length = 0
    rw [hstore]
    rfl
  · show c₁.metrics.sessions "smf" = 1
    rw [hgauge]
    rfl

end Pfcpiface
