import Mathlib
import OmecUpf.Lib.Bytes

/-!
# Sequence numbers of the requests a connection originates

`PFCPConn.getSeqNum` (`conn.go`) increments a `uint32` and returns it. Association Setup and
Heartbeat requests carry that number and are stored in `pendingReqs` under `r.msg.Sequence()`
by `sendPFCPRequestMessage` (`messages.go`); a Session Report Request is sent with
`SendPFCPMsg` alone (`handleDigestReport`). A response is matched by `handleIncomingResponse`
(`messages_conn.go`) through the sequence number of its header. That header field has three
bytes: go-pfcp, outside the repository, is taken to write the number as its three low bytes
and to read it back from them (`headerSequence`).

* `RequestState`, `getSeqNum`, `originate`, `originateRun`, `heartbeatRun`,
  `handleIncomingResponse`.
* `headerSequence_eq`: the number a peer echoes is the sequence number modulo `2 ^ 24`.
* `seq_originateRun`, `zero_not_mem_originateRun`: the counter after a run of requests, and
  that no request waits under `0` before the counter wraps.
* `handleIncomingResponse_originate`: below `2 ^ 24` a response reaches its request.
* **`response_lost_at_two_pow_24`**: the response to the `2 ^ 24`-th request is not delivered.
-/

namespace Pfcpiface

/-- The requests a connection originates. -/
inductive RequestKind where
  | associationSetup
  | heartbeat
  | sessionReport
  deriving DecidableEq, Repr

/-- `seqNum` and `pendingReqs` of a `PFCPConn`, with the kind of each waiting request. -/
structure RequestState where
  seq : UInt32
  pendingReqs : AList (fun _ : UInt32 => RequestKind)

/-- A new connection: `seqNum` at zero, nothing pending. -/
def RequestState.init : RequestState := ⟨0, ∅⟩

/-- `getSeqNum`. -/
def getSeqNum (s : RequestState) : UInt32 × RequestState :=
  let seq := s.seq + 1
  (seq, { s with seq })

/-- A request of kind `k` with a fresh number: `sendAssociationRequest` and the heartbeat timer
store it in `pendingReqs`, `handleDigestReport` does not. -/
def originate (k : RequestKind) (s : RequestState) : UInt32 × RequestState :=
  let (seq, s) := getSeqNum s
  match k with
  | .sessionReport => (seq, s)
  | _ => (seq, { s with pendingReqs := s.pendingReqs.insert seq k })

/-- Requests originated one after another, with no response in between. -/
def originateRun : List RequestKind → RequestState → RequestState
  | [], s => s
  | k :: ks, s => originateRun ks (originate k s).2

/-- The state after `n` heartbeats that got no response. -/
def heartbeatRun (n : Nat) : RequestState :=
  originateRun (List.replicate n .heartbeat) RequestState.init

/-- The sequence number of a header as the peer reads it and echoes it: three bytes. -/
def headerSequence (seq : UInt32) : UInt32 :=
  (Bytes.ofBE (Bytes.toBE 3 seq.toNat)).toUInt32

/-- `handleIncomingResponse` for a response whose header carries `seq`: the request it is
delivered to, if any, which then stops waiting. -/
def handleIncomingResponse (s : RequestState) (seq : UInt32) :
    Option RequestKind × RequestState :=
  match s.pendingReqs.lookup seq with
  | some r => (some r, { s with pendingReqs := s.pendingReqs.erase seq })
  | none => (none, s)

theorem headerSequence_eq (seq : UInt32) : (headerSequence seq).toNat = seq.toNat % 2 ^ 24 := by
  have hlt : seq.toNat % 2 ^ 24 < 2 ^ 32 := by omega
  rw [headerSequence, Bytes.ofBE_toBE, UInt32.toNat_ofNat']
  -- three bytes hold the number modulo `256 ^ 3 = 2 ^ 24`
  show seq.toNat % 2 ^ 24 % 2 ^ 32 = _
  rw [Nat.mod_eq_of_lt hlt]

theorem originateRun_append (ks ks' : List RequestKind) (s : RequestState) :
    originateRun (ks ++ ks') s = originateRun ks' (originateRun ks s) := by
  induction ks generalizing s with
  | nil => rfl
  | cons k ks ih => exact ih _

theorem seq_originate (k : RequestKind) (s : RequestState) :
    (originate k s).1 = s.seq + 1 ∧ (originate k s).2.seq = s.seq + 1 := by
  cases k <;> exact ⟨rfl, rfl⟩

/-- The counter after a run of requests, modulo `2 ^ 32`. -/
theorem seq_originateRun (ks : List RequestKind) (s : RequestState) :
    (originateRun ks s).seq.toNat = (s.seq.toNat + ks.length) % 2 ^ 32 := by
  induction ks generalizing s with
  | nil => simp [originateRun]
  | cons k ks ih =>
    rw [originateRun, ih, (seq_originate k s).2, UInt32.toNat_add, UInt32.toNat_one,
      List.length_cons, Nat.mod_add_mod]
    congr 1
    omega

/-- Originating a request never makes a key other than its own number wait. -/
theorem mem_pending_originate {k : RequestKind} {s : RequestState} {key : UInt32} :
    key ∈ (originate k s).2.pendingReqs → key ∈ s.pendingReqs ∨ key = s.seq + 1 := by
  intro h
  cases k with
  | sessionReport => exact .inl h
  | associationSetup | heartbeat =>
    rcases (AList.mem_insert _).mp h with h | h
    · exact .inr h
    · exact .inl h

/-- Before the counter wraps, no request waits under the number `0`. -/
theorem zero_not_mem_originateRun (ks : List RequestKind) (s : RequestState)
    (h0 : (0 : UInt32) ∉ s.pendingReqs) (hw : s.seq.toNat + ks.length < 2 ^ 32) :
    (0 : UInt32) ∉ (originateRun ks s).pendingReqs := by
  induction ks generalizing s with
  | nil => exact h0
  | cons k ks ih =>
    rw [originateRun]
    have hseq : (s.seq + 1).toNat = s.seq.toNat + 1 := by
      rw [UInt32.toNat_add, UInt32.toNat_one, Nat.mod_eq_of_lt (by simp at hw; omega)]
    apply ih
    · intro hmem
      rcases mem_pending_originate hmem with h | h
      · exact h0 h
      · have := congrArg UInt32.toNat h
        rw [hseq] at this
        simp at this
    · rw [(seq_originate k s).2, hseq]
      simp at hw
      omega

/-- Below `2 ^ 24`, the response to a stored request, echoing the number it carried, is
delivered to it. -/
theorem handleIncomingResponse_originate (k : RequestKind) (hk : k ≠ .sessionReport)
    (s : RequestState) (hs : ((originate k s).1).toNat < 2 ^ 24) :
    (handleIncomingResponse (originate k s).2 (headerSequence (originate k s).1)).1 = some k := by
  have hecho : headerSequence (originate k s).1 = (originate k s).1 := by
    apply UInt32.toNat_inj.mp
    rw [headerSequence_eq, Nat.mod_eq_of_lt hs]
  have hlook : (originate k s).2.pendingReqs.lookup (originate k s).1 = some k := by
    cases k with
    | sessionReport => exact absurd rfl hk
    | associationSetup | heartbeat => exact AList.lookup_insert _
  rw [hecho, handleIncomingResponse, hlook]

theorem response_lost_at_two_pow_24 :
    (originate .heartbeat (heartbeatRun (2 ^ 24 - 1))).1 = 2 ^ 24 ∧
    (originate .heartbeat (heartbeatRun (2 ^ 24 - 1))).1 ∈
      (originate .heartbeat (heartbeatRun (2 ^ 24 - 1))).2.pendingReqs ∧
    headerSequence (originate .heartbeat (heartbeatRun (2 ^ 24 - 1))).1 = 0 ∧
    (handleIncomingResponse (originate .heartbeat (heartbeatRun (2 ^ 24 - 1))).2
      (headerSequence (originate .heartbeat (heartbeatRun (2 ^ 24 - 1))).1)).1 = none := by
  -- what the run of `2 ^ 24 - 1` heartbeats leaves, from the run lemmas
  have hseq : (heartbeatRun (2 ^ 24 - 1)).seq = 2 ^ 24 - 1 := by
    apply UInt32.toNat_inj.mp
    rw [heartbeatRun, seq_originateRun, List.length_replicate]
    rfl
  have hrun0 : (0 : UInt32) ∉ (heartbeatRun (2 ^ 24 - 1)).pendingReqs :=
    zero_not_mem_originateRun _ _ (by simp [RequestState.init])
      (by rw [List.length_replicate]; decide)
  have hnum : (originate .heartbeat (heartbeatRun (2 ^ 24 - 1))).1 = 2 ^ 24 := by
    rw [(seq_originate .heartbeat _).1, hseq]
    decide
  have hecho : headerSequence (2 ^ 24) = 0 := by decide
  -- no request waits under `0`, so the echoed `0` finds none
  have h0 : (0 : UInt32) ∉ (originate .heartbeat (heartbeatRun (2 ^ 24 - 1))).2.pendingReqs := by
    intro hmem
    rcases mem_pending_originate hmem with h | h
    · exact hrun0 h
    · rw [hseq] at h
      exact absurd h (by decide)
  refine ⟨hnum, (AList.mem_insert _).mpr (.inl rfl), by rw [hnum, hecho], ?_⟩
  rw [hnum, hecho, handleIncomingResponse, AList.lookup_eq_none.mpr h0]

end Pfcpiface
