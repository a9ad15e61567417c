import OmecUpf.Lib.Go

/-!
# Go functions that change what their pointers reach

A Go function with pointer arguments (a receiver `p *Pdr`, an `upf *Upf`) changes what they
point to, and may return an `error` or panic. It is modelled in `Mut σ ε α`: from the state `σ`
that its pointers reach, it panics, or it ends with a result or an error together with the
state it leaves. An error does not undo the changes made before it, as in Go; a caller that
drops the receiver on an error (`var p Pdr; if err := p.parsePDR(...); err != nil { return }`)
still sees the changes to the rest.

* `Mut`, `Mut.exec`, `Mut.ofAbort` (a panic), `Mut.ofExcept` (a returned error),
  `Mut.ofFallible` (both).
* `Mut.focus`: code that reaches only part of the state, with its errors mapped.
* `Mut.withLocal`: a fresh local variable whose address is passed to the code.
* `exec_bind`, `exec_tryCatch` and the simp set of `exec`; **`exec_bind_eq_ok`**: a sequence that
  succeeded went through a success of its first part.
-/

namespace Go

/-- Code that changes a state `σ`, and returns an `α` or an error `ε`, or panics. -/
abbrev Mut (σ ε α : Type) := ExceptT ε (StateT σ (Except Abort)) α

namespace Mut

variable {σ τ ε ε' α β : Type}

/-- Run from a state: a panic, or the result or error with the state left. -/
def exec (x : Mut σ ε α) (s : σ) : Except Abort (Except ε α × σ) := x.run.run s

/-- A computation that may panic and changes nothing. -/
def ofAbort (x : Except Abort α) : Mut σ ε α := ExceptT.lift (StateT.lift x)

/-- A returned error, `if err != nil { return err }`. -/
def ofExcept (x : Except ε α) : Mut σ ε α := ExceptT.mk (pure x)

/-- Code that may panic and return an error, and changes nothing. -/
def ofFallible (x : Fallible ε α) : Mut σ ε α := ExceptT.mk fun s => x.run.map (·, s)

/-- Code over the part `get s` of the state, which `put` writes back also after an error. -/
def focus (get : σ → τ) (put : σ → τ → σ) (onError : ε → ε') (x : Mut τ ε α) : Mut σ ε' α :=
  ExceptT.mk fun s => (x.exec (get s)).map fun r => (r.1.mapError onError, put s r.2)

/-- `var a T; f(&a, ...)`: code over a fresh local `a` and the state; the local's final value
is returned with the result, and dropped with an error. -/
def withLocal (a : τ) (x : Mut (τ × σ) ε α) : Mut σ ε (α × τ) :=
  ExceptT.mk fun s => (x.exec (a, s)).map fun r => (r.1.map (·, r.2.1), r.2.2)

@[simp] theorem exec_pure (a : α) (s : σ) : (pure a : Mut σ ε α).exec s = .ok (.ok a, s) := rfl

@[simp] theorem exec_throw (e : ε) (s : σ) : (throw e : Mut σ ε α).exec s = .ok (.error e, s) :=
  rfl

@[simp] theorem exec_get (s : σ) : (get : Mut σ ε σ).exec s = .ok (.ok s, s) := rfl

@[simp] theorem exec_set (s s' : σ) : (set s' : Mut σ ε PUnit).exec s = .ok (.ok ⟨⟩, s') := rfl

@[simp] theorem exec_modify (f : σ → σ) (s : σ) :
    (modify f : Mut σ ε PUnit).exec s = .ok (.ok ⟨⟩, f s) := rfl

@[simp] theorem exec_ofAbort (x : Except Abort α) (s : σ) :
    (ofAbort x : Mut σ ε α).exec s = x.map fun a => (.ok a, s) := by
  cases x <;> rfl

@[simp] theorem exec_ofExcept (x : Except ε α) (s : σ) :
    (ofExcept x : Mut σ ε α).exec s = .ok (x, s) := rfl

@[simp] theorem exec_ofFallible (x : Fallible ε α) (s : σ) :
    (ofFallible x : Mut σ ε α).exec s = x.run.map (·, s) := rfl

theorem exec_bind (x : Mut σ ε α) (f : α → Mut σ ε β) (s : σ) :
    (x >>= f).exec s = match x.exec s with
      | .error a => .error a
      | .ok (.error e, s') => .ok (.error e, s')
      | .ok (.ok a, s') => (f a).exec s' := by
  unfold exec
  rw [ExceptT.run_bind, StateT.run_bind]
  rcases x.run.run s with a | ⟨e | a, s'⟩ <;> rfl

theorem exec_tryCatch (x : Mut σ ε α) (h : ε → Mut σ ε α) (s : σ) :
    (tryCatch x h).exec s = match x.exec s with
      | .error a => .error a
      | .ok (.error e, s') => (h e).exec s'
      | .ok (.ok a, s') => .ok (.ok a, s') := by
  unfold exec
  show (x.run.run s >>= fun r => _) = _
  rcases x.run.run s with a | ⟨e | a, s'⟩ <;> rfl

@[simp] theorem exec_focus (get : σ → τ) (put : σ → τ → σ) (onError : ε → ε') (x : Mut τ ε α)
    (s : σ) : (focus get put onError x).exec s =
      (x.exec (get s)).map fun r => (r.1.mapError onError, put s r.2) := rfl

@[simp] theorem exec_withLocal (a : τ) (x : Mut (τ × σ) ε α) (s : σ) :
    (withLocal a x).exec s = (x.exec (a, s)).map fun r => (r.1.map (·, r.2.1), r.2.2) := rfl

/-- **Inversion of a sequence.** A sequence that returned went through a return of its first
part. -/
theorem exec_bind_eq_ok {x : Mut σ ε α} {f : α → Mut σ ε β} {s s'' : σ} {b : β} :
    (x >>= f).exec s = .ok (.ok b, s'') ↔
      ∃ a s', x.exec s = .ok (.ok a, s') ∧ (f a).exec s' = .ok (.ok b, s'') := by
  rw [exec_bind]
  constructor
  · intro h
    rcases hx : x.exec s with a | ⟨e | a, s'⟩ <;> rw [hx] at h
    · cases h
    · cases h
    · exact ⟨a, s', rfl, h⟩
  · rintro ⟨a, s', hx, h⟩
    rw [hx]
    exact h

end Mut

end Go
