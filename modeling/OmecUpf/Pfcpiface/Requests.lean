import Mathlib

/-!
# Requests and their responses, between goroutines

The agent originates requests from goroutines of their own: `sendAssociationRequest`, and the
heartbeat monitor `startHeartBeatMonitor` at each tick of its timer. Each one takes a number from
`getSeqNum` and makes a `Request` by `newRequest`, whose `reply` channel has no buffer;
`sendPFCPRequestMessage` stores it in `pendingReqs` under its sequence number, sends it, and
waits in `GetResponse` for the reply, for `pConn.shutdown` to close, or for `respTimeout`. After
a timeout it sends the request again while `retriesLeft` is positive, and then returns
`nil, true`. The reader goroutine of the connection hands each response to
`handleIncomingResponse`, which loads the request stored under the response's sequence number,
sends the response on its `reply` channel, and only then deletes it from `pendingReqs`. A send on
a channel without a buffer waits for its receiver.

* `Requester`, `Reader`, `Requests`, `ReqEvent`, `Requests.step`, `Requests.run`,
  `RequestsReachable`;
* `ReqStep`, `step_reqStep`: what one step can do, said once;
* `RetryInv`, **`sends_le`**: over every interleaving of the goroutines that originate requests
  and of the reader, a request is sent at most `maxReqRetries + 1` times, and its goroutine gives
  up (`nil, true`) only after all of them;
* `Blocked`, `run_blocked`; **`late_response_blocks_reader`**: a response read after its request
  has given up is handed to a `reply` channel that no goroutine reads again. The reader waits
  there for good, and the connection reads no other message.

The last is the story of one request. In any reachable state where a goroutine waits in
`GetResponse` for request `id`, which `pendingReqs` holds under `seq`, and the reader is free, the
request can time out `retriesLeft + 1` times, so that `sendPFCPRequestMessage` returns
`nil, true`, and then its response can come in. Nothing deletes the request from `pendingReqs` on
a timeout, so `handleIncomingResponse` finds it and sends the response on its `reply` channel,
which has no buffer and which no goroutine will read again.
-/

namespace Pfcpiface

/-- Where a goroutine that originates requests is. -/
inductive Requester where
  /-- Between requests: the heartbeat monitor waiting for its timer, or a goroutine about to
  call `sendAssociationRequest`. -/
  | idle
  /-- In `GetResponse` for request `id`, with `retriesLeft`. -/
  | waiting (id : Nat) (retriesLeft : Nat)
  /-- `sendPFCPRequestMessage` returned for request `id`: the sequence number of the reply if
  one came, and whether it timed out. -/
  | returned (id : Nat) (reply : Option UInt32) (timeout : Bool)
  deriving DecidableEq, Repr

/-- The request a goroutine is busy with. -/
def Requester.id? : Requester → Option Nat
  | .idle => none
  | .waiting id _ => some id
  | .returned id _ _ => some id

/-- A goroutine's request, with the retries it has left: `retriesLeft` while it waits, none once
it has given up. -/
def Requester.left? : Requester → Option (Nat × Nat)
  | .waiting id r => some (id, r)
  | .returned id none true => some (id, 0)
  | _ => none

/-- The reader goroutine: reading the next message, or in `handleIncomingResponse` at
`req.reply <- msg` for request `id`, with the response's sequence number. -/
inductive Reader where
  | reading
  | replying (id : Nat) (seq : UInt32)
  deriving DecidableEq, Repr

/-- The requests of one connection, with the goroutines that exchange them. Requests are
numbered in the order they are made; `made` holds the sequence number of each. -/
structure Requests where
  /-- `upf.maxReqRetries` -/
  maxReqRetries : UInt8
  /-- `seqNum.seq` -/
  seq : UInt32 := 0
  made : List UInt32 := []
  pendingReqs : AList (fun _ : UInt32 => Nat) := ∅
  /-- The requests `SendPFCPMsg` sent, in order. -/
  sent : List Nat := []
  requesters : Nat → Requester := fun _ => .idle
  reader : Reader := .reading
  /-- `pConn.shutdown` has been closed. -/
  shutdown : Bool := false

/-- The steps of the goroutines. -/
inductive ReqEvent where
  /-- Goroutine `g` makes a request and sends it. -/
  | request (g : Nat)
  /-- `respTimer` fires in the `GetResponse` of goroutine `g`. -/
  | respTimeout (g : Nat)
  /-- The `GetResponse` of goroutine `g` takes the closed `pConn.shutdown`. -/
  | shutdownDone (g : Nat)
  /-- The `GetResponse` of goroutine `g` takes the reply the reader hands over. -/
  | deliver (g : Nat)
  /-- Goroutine `g` goes back to its loop after a request that did not time out. -/
  | next (g : Nat)
  /-- The reader reads a response whose header carries `seq`. -/
  | response (seq : UInt32)
  /-- `Shutdown` closes `pConn.shutdown`. -/
  | close

namespace Requests

/-- A connection with `maxReqRetries` configured, before any request. -/
def init (maxReqRetries : UInt8) : Requests := { maxReqRetries }

/-- Goroutine `g` is now at `q`. -/
def setRequester (s : Requests) (g : Nat) (q : Requester) : Requests :=
  { s with requesters := Function.update s.requesters g q }

/-- `getSeqNum` and `newRequest`, then the start of `sendPFCPRequestMessage`:
`pendingReqs.Store(r.msg.Sequence(), r)`, `SendPFCPMsg(r.msg)` and
`retriesLeft := pConn.upf.maxReqRetries`. -/
def request (s : Requests) (g : Nat) : Requests :=
  let seq := s.seq + 1
  let id := s.made.length
  { s.setRequester g (.waiting id s.maxReqRetries.toNat) with
    seq, made := s.made ++ [seq], pendingReqs := s.pendingReqs.insert seq id,
    sent := s.sent ++ [id] }

/-- `respTimer.C` in `GetResponse`: the request is sent again while retries are left, and
`sendPFCPRequestMessage` returns `nil, true` after the last. -/
def respTimeout (s : Requests) (g id retriesLeft : Nat) : Requests :=
  if 0 < retriesLeft then
    { s.setRequester g (.waiting id (retriesLeft - 1)) with sent := s.sent ++ [id] }
  else s.setRequester g (.returned id none true)

/-- `pendingReqs.Load(msg.Sequence())` in `handleIncomingResponse`: a response that no request
waits for is dropped. -/
def response (s : Requests) (seq : UInt32) : Requests :=
  match s.pendingReqs.lookup seq with
  | some id => { s with reader := .replying id seq }
  | none => s

/-- `req.reply <- msg` meets `<-r.reply` in the `GetResponse` of goroutine `g`; the reader then
runs `pendingReqs.Delete(msg.Sequence())`. -/
def deliver (s : Requests) (g id : Nat) (seq : UInt32) : Requests :=
  { s.setRequester g (.returned id (some seq) false) with
    reader := .reading, pendingReqs := s.pendingReqs.erase seq }

/-- One step of a goroutine; `none` when it cannot take that step. -/
def step (s : Requests) : ReqEvent → Option Requests
  | .request g => if s.requesters g = .idle then some (s.request g) else none
  | .respTimeout g =>
    match s.requesters g with
    | .waiting id retriesLeft => some (s.respTimeout g id retriesLeft)
    | _ => none
  | .shutdownDone g =>
    match s.requesters g with
    | .waiting id _ => if s.shutdown then some (s.setRequester g (.returned id none false)) else none
    | _ => none
  | .deliver g =>
    match s.requesters g, s.reader with
    | .waiting id _, .replying id' seq => if id = id' then some (s.deliver g id seq) else none
    | _, _ => none
  | .next g =>
    match s.requesters g with
    | .returned _ _ false => some (s.setRequester g .idle)
    | _ => none
  | .response seq => if s.reader = .reading then some (s.response seq) else none
  -- a second `close` is the node's `close of closed channel`
  | .close => if s.shutdown then none else some { s with shutdown := true }

/-- A run: the events in order. -/
def run (s : Requests) : List ReqEvent → Option Requests
  | [] => some s
  | e :: es => (s.step e).bind fun s' => s'.run es

variable {s s' : Requests} {g g' : Nat} {q : Requester}

@[simp] theorem requesters_setRequester_self : (s.setRequester g q).requesters g = q := by
  simp [setRequester]

theorem requesters_setRequester_of_ne (h : g' ≠ g) :
    (s.setRequester g q).requesters g' = s.requesters g' := by
  simp [setRequester, h]

@[simp] theorem made_setRequester : (s.setRequester g q).made = s.made := rfl
@[simp] theorem sent_setRequester : (s.setRequester g q).sent = s.sent := rfl
@[simp] theorem pendingReqs_setRequester : (s.setRequester g q).pendingReqs = s.pendingReqs := rfl
@[simp] theorem reader_setRequester : (s.setRequester g q).reader = s.reader := rfl
@[simp] theorem maxReqRetries_setRequester :
    (s.setRequester g q).maxReqRetries = s.maxReqRetries := rfl

/-- A goroutine after `setRequester g q` is `q` or as it was. -/
theorem requesters_setRequester (g' : Nat) :
    (s.setRequester g q).requesters g' = q ∧ g' = g ∨
      (s.setRequester g q).requesters g' = s.requesters g' ∧ g' ≠ g := by
  by_cases h : g' = g
  · subst h
    exact .inl ⟨requesters_setRequester_self, rfl⟩
  · exact .inr ⟨requesters_setRequester_of_ne h, h⟩

@[simp] theorem run_nil : s.run [] = some s := rfl

theorem run_cons_of_step {e : ReqEvent} (h : s.step e = some s') (es : List ReqEvent) :
    s.run (e :: es) = s'.run es := by
  simp [run, h]

theorem run_append_of_eq {s₁ s₂ : Requests} {es es' : List ReqEvent} (h₁ : s.run es = some s₁)
    (h₂ : s₁.run es' = some s₂) : s.run (es ++ es') = some s₂ := by
  induction es generalizing s with
  | nil => cases h₁; exact h₂
  | cons e es ih =>
    obtain ⟨s₀, h₀, h₁⟩ := Option.bind_eq_some_iff.mp h₁
    rw [List.cons_append, run_cons_of_step h₀]
    exact ih h₁

/-! ### What a step can do -/

/-- What one step does, guards included. -/
inductive ReqStep (s s' : Requests) : Prop
  | request (g : Nat) : s.requesters g = .idle → s' = s.request g → ReqStep s s'
  | respTimeout (g id r : Nat) : s.requesters g = .waiting id r → s' = s.respTimeout g id r →
      ReqStep s s'
  | shutdownDone (g id r : Nat) : s.requesters g = .waiting id r →
      s' = s.setRequester g (.returned id none false) → ReqStep s s'
  | deliver (g id r : Nat) (seq : UInt32) : s.requesters g = .waiting id r →
      s.reader = .replying id seq → s' = s.deliver g id seq → ReqStep s s'
  | next (g id : Nat) (reply : Option UInt32) : s.requesters g = .returned id reply false →
      s' = s.setRequester g .idle → ReqStep s s'
  | response (seq : UInt32) : s.reader = .reading → s' = s.response seq → ReqStep s s'
  | close : s' = { s with shutdown := true } → ReqStep s s'

theorem step_reqStep {e : ReqEvent} (h : s.step e = some s') : ReqStep s s' := by
  cases e with
  | request g =>
    simp only [step] at h
    split at h
    · cases h
      exact .request g ‹_› rfl
    · cases h
  | respTimeout g =>
    simp only [step] at h
    split at h
    · cases h
      exact .respTimeout g _ _ ‹_› rfl
    · cases h
  | shutdownDone g =>
    simp only [step] at h
    split at h
    · split at h
      · cases h
        exact .shutdownDone g _ _ ‹_› rfl
      · cases h
    · cases h
  | deliver g =>
    simp only [step] at h
    split at h
    · rename_i id r id' seq hq hr
      split at h
      · subst id'
        cases h
        exact .deliver g id r seq hq hr rfl
      · cases h
    · cases h
  | next g =>
    simp only [step] at h
    split at h
    · cases h
      exact .next g _ _ ‹_› rfl
    · cases h
  | response seq =>
    simp only [step] at h
    split at h
    · cases h
      exact .response seq ‹_› rfl
    · cases h
  | close =>
    simp only [step] at h
    split at h
    · cases h
    · cases h
      exact .close rfl

@[simp] theorem made_request : (s.request g).made = s.made ++ [s.seq + 1] := rfl
@[simp] theorem sent_request : (s.request g).sent = s.sent ++ [s.made.length] := rfl
@[simp] theorem reader_request : (s.request g).reader = s.reader := rfl
@[simp] theorem maxReqRetries_request : (s.request g).maxReqRetries = s.maxReqRetries := rfl

theorem requesters_request (g' : Nat) :
    (s.request g).requesters g' = .waiting s.made.length s.maxReqRetries.toNat ∧ g' = g ∨
      (s.request g).requesters g' = s.requesters g' ∧ g' ≠ g :=
  requesters_setRequester g'

@[simp] theorem made_respTimeout {id r : Nat} : (s.respTimeout g id r).made = s.made := by
  unfold respTimeout
  split <;> rfl

@[simp] theorem reader_respTimeout {id r : Nat} : (s.respTimeout g id r).reader = s.reader := by
  unfold respTimeout
  split <;> rfl

@[simp] theorem pendingReqs_respTimeout {id r : Nat} :
    (s.respTimeout g id r).pendingReqs = s.pendingReqs := by
  unfold respTimeout
  split <;> rfl

@[simp] theorem maxReqRetries_respTimeout {id r : Nat} :
    (s.respTimeout g id r).maxReqRetries = s.maxReqRetries := by
  unfold respTimeout
  split <;> rfl

@[simp] theorem made_response {seq : UInt32} : (s.response seq).made = s.made := by
  unfold response
  split <;> rfl

@[simp] theorem sent_response {seq : UInt32} : (s.response seq).sent = s.sent := by
  unfold response
  split <;> rfl

@[simp] theorem requesters_response {seq : UInt32} :
    (s.response seq).requesters = s.requesters := by
  unfold response
  split <;> rfl

@[simp] theorem maxReqRetries_response {seq : UInt32} :
    (s.response seq).maxReqRetries = s.maxReqRetries := by
  unfold response
  split <;> rfl

/-! ### No request is sent more than `maxReqRetries + 1` times -/

@[simp] theorem requesters_deliver {id : Nat} {seq : UInt32} :
    (s.deliver g id seq).requesters = (s.setRequester g (.returned id (some seq) false)).requesters :=
  rfl

theorem id?_of_left? {q : Requester} {id r : Nat} (h : q.left? = some (id, r)) : q.id? = some id := by
  cases q with
  | idle => cases h
  | waiting => cases h; rfl
  | returned id' reply timeout =>
    cases reply <;> cases timeout <;> cases h
    rfl

/-- Sending one request leaves the sends of every other as they were. -/
theorem count_append_singleton_of_ne {l : List Nat} {x y : Nat} (h : y ≠ x) :
    (l ++ [x]).count y = l.count y := by
  simp [List.count_append, Ne.symm h]

/-- What every run keeps of the requests and of their sends. -/
structure RetryInv (s : Requests) : Prop where
  /-- Every request sent has been made. -/
  sent_lt : ∀ id ∈ s.sent, id < s.made.length
  /-- Every request a goroutine is busy with has been made, by that goroutine alone. -/
  id_lt : ∀ g id, (s.requesters g).id? = some id → id < s.made.length
  id_unique : ∀ g g' id, (s.requesters g).id? = some id → (s.requesters g').id? = some id → g = g'
  /-- A request has been sent once, and once more for each retry used. -/
  left_count : ∀ g id r, (s.requesters g).left? = some (id, r) →
    s.sent.count id + r = s.maxReqRetries.toNat + 1
  count_le : ∀ id, s.sent.count id ≤ s.maxReqRetries.toNat + 1

theorem retryInv_init (maxReqRetries : UInt8) : RetryInv (init maxReqRetries) where
  sent_lt := by simp [init]
  id_lt := by simp [init, Requester.id?]
  id_unique := by simp [init, Requester.id?]
  left_count := by simp [init, Requester.left?]
  count_le := by simp [init]

namespace RetryInv

/-- A step that sends nothing and gives no goroutine a request or a retry it did not have. -/
theorem of_frame (hinv : RetryInv s) (hsent : s'.sent = s.sent) (hmade : s'.made = s.made)
    (hmax : s'.maxReqRetries = s.maxReqRetries)
    (hid : ∀ g id, (s'.requesters g).id? = some id → (s.requesters g).id? = some id)
    (hleft : ∀ g p, (s'.requesters g).left? = some p → (s.requesters g).left? = some p) :
    RetryInv s' where
  sent_lt id h := hmade ▸ hinv.sent_lt id (hsent ▸ h)
  id_lt g id h := hmade ▸ hinv.id_lt g id (hid g id h)
  id_unique g g' id h h' := hinv.id_unique g g' id (hid g id h) (hid g' id h')
  left_count g id r h := hsent ▸ hmax ▸ hinv.left_count g id r (hleft g _ h)
  count_le id := hsent ▸ hmax ▸ hinv.count_le id

/-- Goroutine `g` keeps its request, or drops it, and gains no retry. -/
theorem setRequester (hinv : RetryInv s) {q : Requester}
    (hid : ∀ id, q.id? = some id → (s.requesters g).id? = some id)
    (hleft : ∀ p, q.left? = some p → (s.requesters g).left? = some p) :
    RetryInv (s.setRequester g q) := by
  refine hinv.of_frame rfl rfl rfl (fun g' id h => ?_) (fun g' p h => ?_)
  all_goals rcases requesters_setRequester (s := s) (g := g) (q := q) g' with ⟨h₁, rfl⟩ | ⟨h₁, -⟩
  · exact hid id (h₁ ▸ h)
  · rwa [h₁] at h
  · exact hleft p (h₁ ▸ h)
  · rwa [h₁] at h

/-- A new request: numbered after every other, sent once, with all its retries left. -/
theorem request (hinv : RetryInv s) : RetryInv (s.request g) := by
  have hnew : s.sent.count s.made.length = 0 :=
    List.count_eq_zero.mpr fun h => (hinv.sent_lt _ h).false
  constructor
  · intro id h
    simp only [sent_request, List.mem_append, List.mem_singleton, made_request,
      List.length_append, List.length_singleton] at h ⊢
    rcases h with h | rfl
    · exact Nat.lt_succ_of_lt (hinv.sent_lt id h)
    · exact Nat.lt_succ_self _
  · intro g' id h
    simp only [made_request, List.length_append, List.length_singleton]
    rcases requesters_request (s := s) (g := g) g' with ⟨h₁, -⟩ | ⟨h₁, -⟩ <;> rw [h₁] at h
    · cases h
      exact Nat.lt_succ_self _
    · exact Nat.lt_succ_of_lt (hinv.id_lt g' id h)
  · intro g₁ g₂ id h₁ h₂
    rcases requesters_request (s := s) (g := g) g₁ with ⟨e₁, r₁⟩ | ⟨e₁, -⟩ <;>
    rcases requesters_request (s := s) (g := g) g₂ with ⟨e₂, r₂⟩ | ⟨e₂, -⟩ <;>
    rw [e₁] at h₁ <;> rw [e₂] at h₂
    · exact r₁.trans r₂.symm
    · cases h₁
      exact absurd (hinv.id_lt g₂ _ h₂) (Nat.lt_irrefl _)
    · cases h₂
      exact absurd (hinv.id_lt g₁ _ h₁) (Nat.lt_irrefl _)
    · exact hinv.id_unique g₁ g₂ id h₁ h₂
  · intro g' id r h
    rcases requesters_request (s := s) (g := g) g' with ⟨h₁, -⟩ | ⟨h₁, -⟩ <;> rw [h₁] at h
    · cases h
      simp [List.count_append, hnew, Nat.add_comm]
    · have hid : id ≠ s.made.length := (hinv.id_lt g' id (id?_of_left? h)).ne
      rw [sent_request, count_append_singleton_of_ne hid, maxReqRetries_request]
      exact hinv.left_count g' id r h
  · intro id
    by_cases hid : id = s.made.length
    · subst hid
      simp [List.count_append, hnew]
    · rw [sent_request, count_append_singleton_of_ne hid, maxReqRetries_request]
      exact hinv.count_le id

/-- A timeout: the request is sent again with one retry less, or given up on after its last
send. -/
theorem respTimeout (hinv : RetryInv s) {id r : Nat} (hg : s.requesters g = .waiting id r) :
    RetryInv (s.respTimeout g id r) := by
  have hc := hinv.left_count g id r (by simp [hg, Requester.left?])
  have hid : (s.requesters g).id? = some id := by simp [hg, Requester.id?]
  unfold Requests.respTimeout
  split
  · rename_i hr
    -- the goroutines keep their requests; one send more for `id`, which no other goroutine has
    have e (g' : Nat) : ((s.setRequester g (.waiting id (r - 1))).requesters g').id? =
        (s.requesters g').id? := by
      rcases requesters_setRequester (s := s) (g := g) (q := .waiting id (r - 1)) g' with
        ⟨h₁, rfl⟩ | ⟨h₁, -⟩ <;> rw [h₁]
      simp [hg, Requester.id?]
    have hself : (s.sent ++ [id]).count id = s.sent.count id + 1 := by
      simp [List.count_append]
    constructor
    · intro x h
      simp only [List.mem_append, List.mem_singleton] at h
      rcases h with h | rfl
      · exact hinv.sent_lt x h
      · exact hinv.id_lt g x hid
    · intro g' x h
      exact hinv.id_lt g' x (e g' ▸ h)
    · intro g₁ g₂ x h₁ h₂
      exact hinv.id_unique g₁ g₂ x (e g₁ ▸ h₁) (e g₂ ▸ h₂)
    · intro g' x r' h
      show (s.sent ++ [id]).count x + r' = s.maxReqRetries.toNat + 1
      rcases requesters_setRequester (s := s) (g := g) (q := .waiting id (r - 1)) g' with
        ⟨h₁, rfl⟩ | ⟨h₁, hg'⟩ <;> rw [h₁] at h
      · cases h
        omega
      · have hx : x ≠ id := fun e => hg' (hinv.id_unique g' g id (e ▸ id?_of_left? h) hid)
        rw [count_append_singleton_of_ne hx]
        exact hinv.left_count g' x r' h
    · intro x
      show (s.sent ++ [id]).count x ≤ s.maxReqRetries.toNat + 1
      by_cases hx : x = id
      · subst hx
        omega
      · rw [count_append_singleton_of_ne hx]
        exact hinv.count_le x
  · -- no retry left: the request has had all its sends
    rename_i hr
    obtain rfl : r = 0 := by omega
    exact hinv.setRequester (by simpa [Requester.id?] using hid)
      (by simp [hg, Requester.left?])

end RetryInv

/-- Every step keeps the invariant. -/
theorem ReqStep.retryInv (hstep : ReqStep s s') (hinv : RetryInv s) : RetryInv s' := by
  cases hstep with
  | request g _ h => subst h; exact hinv.request
  | respTimeout g id r hg h => subst h; exact hinv.respTimeout hg
  | shutdownDone g id r hg h =>
    subst h
    exact hinv.setRequester (by simp [hg, Requester.id?]) (by simp [Requester.left?])
  | deliver g id r seq hg _ h =>
    subst h
    exact (hinv.setRequester (q := .returned id (some seq) false) (by simp [hg, Requester.id?])
      (by simp [Requester.left?])).of_frame rfl rfl rfl (fun _ _ h => h) (fun _ _ h => h)
  | next g id reply hg h =>
    subst h
    exact hinv.setRequester (by simp [Requester.id?]) (by simp [Requester.left?])
  | response seq _ h =>
    subst h
    exact hinv.of_frame (by simp) (by simp) (by simp) (by simp) (by simp)
  | close h =>
    subst h
    exact hinv.of_frame rfl rfl rfl (fun _ _ h => h) (fun _ _ h => h)

end Requests

/-- The states of a connection's requests, from one with nothing sent. -/
inductive RequestsReachable : Requests → Prop
  | init (maxReqRetries : UInt8) : RequestsReachable (Requests.init maxReqRetries)
  | step {s s' : Requests} (e : ReqEvent) :
      RequestsReachable s → s.step e = some s' → RequestsReachable s'

theorem RequestsReachable.run {s s' : Requests} (hs : RequestsReachable s) {es : List ReqEvent}
    (h : s.run es = some s') : RequestsReachable s' := by
  induction es generalizing s with
  | nil => cases h; exact hs
  | cons e es ih =>
    obtain ⟨s₁, h₁, h⟩ := Option.bind_eq_some_iff.mp h
    exact ih (hs.step e h₁) h

theorem RequestsReachable.retryInv {s : Requests} (hs : RequestsReachable s) :
    Requests.RetryInv s := by
  induction hs with
  | init maxReqRetries => exact Requests.retryInv_init maxReqRetries
  | step e _ h ih => exact (Requests.step_reqStep h).retryInv ih

/-- **No request is sent more than `maxReqRetries + 1` times.** -/
theorem sends_le {s : Requests} (hs : RequestsReachable s) (id : Nat) :
    s.sent.count id ≤ s.maxReqRetries.toNat + 1 ∧
      ∀ g, s.requesters g = .returned id none true → s.sent.count id = s.maxReqRetries.toNat + 1 := by
  have hinv := hs.retryInv
  refine ⟨hinv.count_le id, fun g hg => ?_⟩
  simpa using hinv.left_count g id 0 (by simp [hg, Requester.left?])

/-- One request made with the default `maxReqRetries` of the configuration. -/
theorem sends_le_request :
    ((Requests.init 5).request 0).sent.count 0 ≤ (5 : UInt8).toNat + 1 ∧
      ∀ g, ((Requests.init 5).request 0).requesters g = .returned 0 none true →
        ((Requests.init 5).request 0).sent.count 0 = (5 : UInt8).toNat + 1 :=
  sends_le (.step (.request 0) (.init 5) rfl) 0

namespace Requests

/-! ### A reply that nobody receives -/

variable {s s' : Requests} {g : Nat} {id : Nat} {seq : UInt32}

theorem requesters_respTimeout {r : Nat} :
    (s.respTimeout g id r).requesters =
      (s.setRequester g (if 0 < r then .waiting id (r - 1) else .returned id none true)).requesters := by
  unfold respTimeout
  split <;> simp_all

/-- The timeouts of a request with `r` retries left: `r` more sends, then `nil, true`. Nothing
else moves. -/
theorem run_respTimeout : ∀ (r : Nat) (s : Requests), s.requesters g = .waiting id r →
    ∃ s', s.run (List.replicate (r + 1) (.respTimeout g)) = some s' ∧
      s'.requesters g = .returned id none true ∧
      (∀ g', g' ≠ g → s'.requesters g' = s.requesters g') ∧
      s'.reader = s.reader ∧ s'.pendingReqs = s.pendingReqs ∧ s'.made = s.made
  | 0, s, hg => by
    have h₁ : s.step (.respTimeout g) = some (s.respTimeout g id 0) := by simp [step, hg]
    refine ⟨_, (run_cons_of_step h₁ []).trans run_nil, ?_, fun g' h => ?_, by simp, by simp,
      by simp⟩
    · simp [requesters_respTimeout]
    · simp [requesters_respTimeout, requesters_setRequester_of_ne h]
  | r + 1, s, hg => by
    have h₁ : s.step (.respTimeout g) = some (s.respTimeout g id (r + 1)) := by simp [step, hg]
    obtain ⟨s', hrun, hg', hother, hreader, hpend, hmade⟩ :=
      run_respTimeout r (s.respTimeout g id (r + 1)) (by simp [requesters_respTimeout])
    refine ⟨s', by rw [List.replicate_succ, run_cons_of_step h₁]; exact hrun, hg',
      fun g' h => ?_, by simpa using hreader, by simpa using hpend, by simpa using hmade⟩
    rw [hother g' h, requesters_respTimeout, requesters_setRequester_of_ne h]

/-- The reader is at `req.reply <- msg` for request `id`, which has been made and which no
goroutine waits for. -/
structure Blocked (s : Requests) (id : Nat) (seq : UInt32) : Prop where
  reader : s.reader = .replying id seq
  made : id < s.made.length
  not_waiting : ∀ g r, s.requesters g ≠ .waiting id r

/-- A goroutine that moves to somewhere other than waiting for `id`. -/
theorem Blocked.setRequester (hb : Blocked s id seq) {q : Requester}
    (hq : ∀ r, q ≠ .waiting id r) : Blocked (s.setRequester g q) id seq where
  reader := hb.reader
  made := hb.made
  not_waiting g' r := by
    rcases requesters_setRequester (s := s) (g := g) (q := q) g' with ⟨h₁, -⟩ | ⟨h₁, -⟩ <;> rw [h₁]
    · exact hq r
    · exact hb.not_waiting g' r

/-- **The reader stays blocked.** No step hands the reply over: the only receiver would be a
goroutine waiting for `id`, and a new request never has that number. -/
theorem ReqStep.blocked (hstep : ReqStep s s') (hb : Blocked s id seq) : Blocked s' id seq := by
  cases hstep with
  | request g _ h =>
    subst h
    have h₁ := hb.setRequester (g := g) (q := .waiting s.made.length s.maxReqRetries.toNat)
      (fun r e => by cases e; exact absurd hb.made (Nat.lt_irrefl _))
    exact ⟨h₁.reader, by simpa using Nat.lt_succ_of_lt hb.made, h₁.not_waiting⟩
  | respTimeout g id' r hg h =>
    subst h
    have hne : id' ≠ id := fun e => hb.not_waiting g r (e ▸ hg)
    have h₁ := hb.setRequester (g := g)
      (q := if 0 < r then .waiting id' (r - 1) else .returned id' none true)
      (fun r' e => by split at e <;> cases e; exact hne rfl)
    exact ⟨by simpa using hb.reader, by simpa using hb.made,
      fun g' r' => by rw [requesters_respTimeout]; exact h₁.not_waiting g' r'⟩
  | shutdownDone g id' r _ h =>
    subst h
    exact hb.setRequester (fun r e => by cases e)
  | deliver g id' r seq' hg hr h =>
    -- the reply of `id'` is the one being handed over, so `g` would be waiting for `id`
    obtain ⟨rfl, -⟩ : id' = id ∧ seq' = seq := by
      have := hb.reader.symm.trans hr
      simp only [Reader.replying.injEq] at this
      exact ⟨this.1.symm, this.2.symm⟩
    exact absurd hg (hb.not_waiting g r)
  | next g id' reply _ h =>
    subst h
    exact hb.setRequester (fun r e => by cases e)
  | response seq' hr _ =>
    rw [hb.reader] at hr
    cases hr
  | close h =>
    subst h
    exact ⟨hb.reader, hb.made, hb.not_waiting⟩

theorem run_blocked (hb : Blocked s id seq) {es : List ReqEvent} (h : s.run es = some s') :
    Blocked s' id seq := by
  induction es generalizing s with
  | nil => cases h; exact hb
  | cons e es ih =>
    obtain ⟨s₁, h₁, h⟩ := Option.bind_eq_some_iff.mp h
    exact ih ((step_reqStep h₁).blocked hb) h

end Requests

/-- **A late response blocks the reader for good**: a request that gives up can still be answered,
and the reader then waits on its `reply` in every later run. -/
theorem late_response_blocks_reader {s : Requests} (hs : RequestsReachable s) {g id r : Nat}
    (hg : s.requesters g = .waiting id r) (hread : s.reader = .reading) {seq : UInt32}
    (hpend : s.pendingReqs.lookup seq = some id) :
    ∃ s', s.run (List.replicate (r + 1) (.respTimeout g) ++ [.response seq]) = some s' ∧
      s'.requesters g = .returned id none true ∧
      ∀ es s'', s'.run es = some s'' → s''.reader = .replying id seq := by
  have hinv := hs.retryInv
  have hid : (s.requesters g).id? = some id := by simp [hg, Requester.id?]
  obtain ⟨s₁, h₁, hg₁, hother, hreader, hpend₁, hmade⟩ := Requests.run_respTimeout r s hg
  -- the response finds its request still stored
  have h₂ : s₁.step (.response seq) = some { s₁ with reader := .replying id seq } := by
    simp [Requests.step, Requests.response, hreader, hread, hpend₁, hpend]
  -- no goroutine other than `g` waits for `id`, and `g` has given up
  have hb : Requests.Blocked { s₁ with reader := .replying id seq } id seq := by
    refine ⟨rfl, hmade ▸ hinv.id_lt g id hid, fun g' r' h => ?_⟩
    by_cases hg' : g' = g
    · subst hg'
      rw [show s₁.requesters g' = _ from hg₁] at h
      cases h
    · rw [show s₁.requesters g' = s.requesters g' from hother g' hg'] at h
      exact hg' (hinv.id_unique g' g id (by simp [h, Requester.id?]) hid)
  exact ⟨_, Requests.run_append_of_eq h₁ ((Requests.run_cons_of_step h₂ []).trans Requests.run_nil),
    hg₁, fun es s'' h => (Requests.run_blocked hb h).reader⟩

/-- With the default `maxReqRetries`, the first request times out six times and its response
then comes in. -/
theorem late_response_blocks_reader_default :
    ∃ s', ((Requests.init 5).request 0).run
        (List.replicate 6 (.respTimeout 0) ++ [.response 1]) = some s' ∧
      s'.requesters 0 = .returned 0 none true ∧
      ∀ es s'', s'.run es = some s'' → s''.reader = .replying 0 1 :=
  late_response_blocks_reader (.step (.request 0) (.init 5) rfl) rfl rfl rfl

end Pfcpiface
