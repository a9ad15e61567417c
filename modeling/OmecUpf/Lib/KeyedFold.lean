import Mathlib

/-!
# Tables of running aggregates

A table that keeps, for each key, a running aggregate of the records seen for that key (a
count, a sum, the last value seen) is the fold of those records. The table of aggregates is
`summarize step init a`, where `a` keeps the records of each key as a list, oldest first: the
same keys in the same order, and at `k` the records of `k` folded by `step` from `init`.

The two things such a table does, taking one more record for a key and being reset, commute
with `summarize`; so a machine that updates aggregates in place refines one that keeps every
record, and whatever it reports is the fold of the records it was given.

* `summarize`, `entries_summarize`, `lookup_summarize`, `keys_summarize`;
* `recordIn`: one more record at the end of the list of its key;
* `summarize_empty`, `summarize_insert`, `summarize_recordIn`.
-/

namespace KeyedFold

variable {κ σ ρ : Type*}

section

variable (step : σ → ρ → σ) (init : σ)

/-- One entry of the table of aggregates: the records of a key, folded. -/
def foldEntry (e : Σ _ : κ, List ρ) : Σ _ : κ, σ := ⟨e.1, e.2.foldl step init⟩

/-- The table of aggregates: the value at `k` is `step` folded over the records of `k`. -/
def summarize (a : AList (fun _ : κ => List ρ)) : AList (fun _ : κ => σ) where
  entries := a.entries.map (foldEntry step init)
  nodupKeys := by
    have hkeys : (a.entries.map (foldEntry step init)).keys = a.entries.keys := by
      simp [List.keys, Function.comp_def, foldEntry]
    simpa [List.NodupKeys, hkeys] using a.nodupKeys

@[simp] theorem entries_summarize (a : AList (fun _ : κ => List ρ)) :
    (summarize step init a).entries = a.entries.map (foldEntry step init) := rfl

@[simp] theorem keys_summarize (a : AList (fun _ : κ => List ρ)) :
    (summarize step init a).keys = a.keys := by
  simp [AList.keys, List.keys, Function.comp_def, foldEntry]

@[simp] theorem summarize_empty : summarize step init (∅ : AList (fun _ : κ => List ρ)) = ∅ :=
  AList.ext rfl

@[simp] theorem foldEntry_mk (k : κ) (rs : List ρ) :
    foldEntry step init ⟨k, rs⟩ = ⟨k, rs.foldl step init⟩ := rfl

variable [DecidableEq κ]

theorem dlookup_map_foldEntry (k : κ) :
    ∀ l : List (Σ _ : κ, List ρ),
      (l.map (foldEntry step init)).dlookup k = (l.dlookup k).map (List.foldl step init)
  | [] => rfl
  | ⟨k', rs⟩ :: l => by
    rw [List.map_cons, foldEntry_mk]
    by_cases h : k = k'
    · subst h
      rw [List.dlookup_cons_eq, List.dlookup_cons_eq, Option.map_some]
    · rw [List.dlookup_cons_ne _ _ h, List.dlookup_cons_ne _ _ h, dlookup_map_foldEntry k l]

@[simp] theorem lookup_summarize (a : AList (fun _ : κ => List ρ)) (k : κ) :
    (summarize step init a).lookup k = (a.lookup k).map (List.foldl step init) :=
  dlookup_map_foldEntry step init k a.entries

/-- Erasing a key and folding the entries can be done in either order. -/
theorem kerase_map_foldEntry (k : κ) :
    ∀ l : List (Σ _ : κ, List ρ),
      (l.map (foldEntry step init)).kerase k = (l.kerase k).map (foldEntry step init)
  | [] => rfl
  | ⟨k', rs⟩ :: l => by
    rw [List.map_cons, foldEntry_mk]
    by_cases h : k = k'
    · rw [List.kerase_cons_eq h, List.kerase_cons_eq h]
    · rw [List.kerase_cons_ne h, List.kerase_cons_ne h, List.map_cons, foldEntry_mk,
        kerase_map_foldEntry k l]

theorem summarize_insert (a : AList (fun _ : κ => List ρ)) (k : κ) (rs : List ρ) :
    summarize step init (a.insert k rs) = (summarize step init a).insert k (rs.foldl step init) := by
  apply AList.ext
  simp only [entries_summarize, AList.entries_insert, List.map_cons, kerase_map_foldEntry]
  rfl

end

variable [DecidableEq κ]

/-- One more record for `k`, after those already kept for it. -/
def recordIn (k : κ) (r : ρ) (a : AList (fun _ : κ => List ρ)) : AList (fun _ : κ => List ρ) :=
  a.insert k ((a.lookup k).getD [] ++ [r])

@[simp] theorem lookup_recordIn_self (k : κ) (r : ρ) (a : AList (fun _ : κ => List ρ)) :
    (recordIn k r a).lookup k = some ((a.lookup k).getD [] ++ [r]) :=
  AList.lookup_insert a

@[simp] theorem lookup_recordIn_ne {k k' : κ} (h : k' ≠ k) (r : ρ) (a : AList (fun _ : κ => List ρ)) :
    (recordIn k r a).lookup k' = a.lookup k' :=
  AList.lookup_insert_ne h

/-- Taking one record into the table of aggregates: `step` at its key, from `init` when the key
is new. -/
theorem summarize_recordIn (step : σ → ρ → σ) (init : σ) (k : κ) (r : ρ)
    (a : AList (fun _ : κ => List ρ)) :
    summarize step init (recordIn k r a) =
      (summarize step init a).insert k (step (((summarize step init a).lookup k).getD init) r) := by
  rw [recordIn, summarize_insert, lookup_summarize, List.foldl_append, List.foldl_cons,
    List.foldl_nil]
  cases a.lookup k <;> rfl

end KeyedFold
