import Mathlib

/-!
# Go channels

A buffered channel `make(chan α, n)` holds up to `n` values that were sent and not yet received,
oldest first, and whether it has been closed. Its operations, as the Go specification gives them:

* `Chan.send`, `ch <- a`: `a` goes after the values already there; the send blocks while the
  buffer is full, and panics on a closed channel;
* `Chan.recv`, `a, ok := <-ch`: the oldest value; on an empty channel the receive blocks while it
  is open, and gives the zero value with `ok = false` once it is closed. A `for a := range ch`
  loop receives until that happens; a `select` with a `default` case takes the `default` when the
  receive would block;
* `Chan.close`, `close(ch)`, which panics on a closed channel; `len(ch)` is the buffer's length.

Each operation is a function of the channel: `none` when the goroutine blocks, the panic as an
error. The lemmas say what each one does to the buffer and to `closed`, so that a model of
goroutines over channels never unfolds them.
-/

namespace Go

/-- The run-time panics of the channel operations. -/
inductive ChanPanic where
  /-- `send on closed channel` -/
  | sendOnClosed
  /-- `close of closed channel` -/
  | closeOfClosed
  deriving DecidableEq, Repr

/-- A buffered channel: the values sent and not yet received, oldest first, never more than its
capacity. -/
structure Chan (α : Type) where
  buf : List α
  cap : Nat
  closed : Bool
  buf_le : buf.length ≤ cap

namespace Chan

variable {α : Type}

/-- `make(chan α, cap)` -/
def make (cap : Nat) : Chan α := ⟨[], cap, false, Nat.zero_le cap⟩

/-- `ch <- a` -/
def send (ch : Chan α) (a : α) : Option (Except ChanPanic (Chan α)) :=
  if ch.closed then some (.error .sendOnClosed)
  else if h : ch.buf.length < ch.cap then
    some (.ok ⟨ch.buf ++ [a], ch.cap, false, by simpa using h⟩)
  else none

/-- `a, ok := <-ch`: `some (some a, ch')` for a value, `some (none, ch)` for `ok = false`. -/
def recv (ch : Chan α) : Option (Option α × Chan α) :=
  match ch with
  | ⟨a :: rest, cap, closed, h⟩ => some (some a, ⟨rest, cap, closed, by simp at h; omega⟩)
  | ⟨[], _, closed, _⟩ => if closed then some (none, ch) else none

/-- `close(ch)` -/
def close (ch : Chan α) : Except ChanPanic (Chan α) :=
  if ch.closed then .error .closeOfClosed else .ok { ch with closed := true }

@[simp] theorem buf_make (cap : Nat) : (make cap : Chan α).buf = [] := rfl
@[simp] theorem cap_make (cap : Nat) : (make cap : Chan α).cap = cap := rfl
@[simp] theorem closed_make (cap : Nat) : (make cap : Chan α).closed = false := rfl

theorem send_of_closed (ch : Chan α) (a : α) (h : ch.closed = true) :
    ch.send a = some (.error .sendOnClosed) := by
  simp [send, h]

/-- A send on an open channel with room puts the value last. -/
theorem send_of_lt (ch : Chan α) (a : α) (hopen : ch.closed = false) (h : ch.buf.length < ch.cap) :
    ∃ ch', ch.send a = some (.ok ch') ∧ ch'.buf = ch.buf ++ [a] ∧ ch'.cap = ch.cap ∧
      ch'.closed = false :=
  ⟨⟨ch.buf ++ [a], ch.cap, false, by simpa using h⟩, by simp [send, hopen, h], rfl, rfl, rfl⟩

theorem send_eq_ok {ch ch' : Chan α} {a : α} (h : ch.send a = some (.ok ch')) :
    ch'.buf = ch.buf ++ [a] ∧ ch'.cap = ch.cap ∧ ch.closed = false ∧ ch'.closed = false := by
  unfold send at h
  split at h
  · cases h
  · split at h
    · cases h
      exact ⟨rfl, rfl, by simpa using ‹¬ch.closed = true›, rfl⟩
    · cases h

theorem recv_of_cons {ch : Chan α} {a : α} {rest : List α} (h : ch.buf = a :: rest) :
    ∃ ch', ch.recv = some (some a, ch') ∧ ch'.buf = rest ∧ ch'.cap = ch.cap ∧
      ch'.closed = ch.closed := by
  obtain ⟨buf, cap, closed, hle⟩ := ch
  subst h
  exact ⟨_, rfl, rfl, rfl, rfl⟩

/-- An empty open channel blocks a receive. -/
theorem recv_of_nil_open {ch : Chan α} (h : ch.buf = []) (hopen : ch.closed = false) :
    ch.recv = none := by
  obtain ⟨buf, cap, closed, hle⟩ := ch
  subst h
  simp [recv, show closed = false from hopen]

/-- What a receive that does not block does: the oldest value out, or `ok = false` on an empty
closed channel, which it leaves as it is. -/
theorem recv_cases {ch ch' : Chan α} {o : Option α} (h : ch.recv = some (o, ch')) :
    (∃ a, o = some a ∧ ch.buf = a :: ch'.buf ∧ ch'.cap = ch.cap ∧ ch'.closed = ch.closed) ∨
      (o = none ∧ ch.buf = [] ∧ ch.closed = true ∧ ch' = ch) := by
  obtain ⟨buf, cap, closed, hle⟩ := ch
  cases buf with
  | cons a rest =>
    simp only [recv, Option.some.injEq, Prod.mk.injEq] at h
    obtain ⟨rfl, rfl⟩ := h
    exact .inl ⟨a, rfl, rfl, rfl, rfl⟩
  | nil =>
    simp only [recv] at h
    split at h
    · simp only [Option.some.injEq, Prod.mk.injEq] at h
      obtain ⟨rfl, rfl⟩ := h
      exact .inr ⟨rfl, rfl, ‹_›, rfl⟩
    · cases h

theorem close_eq_ok {ch ch' : Chan α} (h : ch.close = .ok ch') :
    ch'.buf = ch.buf ∧ ch'.cap = ch.cap ∧ ch.closed = false ∧ ch'.closed = true := by
  unfold close at h
  split at h
  · cases h
  · cases h
    exact ⟨rfl, rfl, by simpa using ‹¬ch.closed = true›, rfl⟩

end Chan

end Go
