import Mathlib

/-!
# The downlink data notifier

`downlinkDataNotifier` (`notifier.go`) rate-limits the Downlink Data Notifications of the
agent: `Notify(fseid)` sends the F-SEID on its channel when `shouldNotify` lets it, that is for
the first call of an F-SEID, or when `notificationInterval` has passed since the last
notification of that F-SEID. `state` holds, for each F-SEID, the time of its last
notification, in one map shared by all of them.

`time.Now()` is the time of the call, in nanoseconds, and `time.Since(t)` is the call's time
minus `t`. A run is a sequence of calls `(fseid, time)` from `NewDownlinkDataNotifier`; what a
call sends is `some fseid`, or `none` when `Notify` returns early.

* `DownlinkDataNotifier`, `shouldNotify`, `notify`, `run`; `run_append`, `getElem?_run`.
* `notifiedTimes`: the times of the notifications of an F-SEID in a run; `lookup_run`: the
  state of an F-SEID is the time of the last of them.
* `getElem?_run_new`: a call notifies exactly when it is the first of its F-SEID, or the last
  notification of that F-SEID is at least `notificationInterval` old.
* `notifiedTimes_pairwise`: with times that do not decrease, any two notifications of an
  F-SEID are at least `notificationInterval` apart.
* `outputsOf_run_filter`: the calls of other F-SEIDs change nothing of what the calls of an
  F-SEID send.
* **`notify_rate_limited`**: the three together, from `NewDownlinkDataNotifier` with calls at
  times that do not decrease: the notifier rate-limits each F-SEID on its own.
-/

namespace Pfcpiface

/-- `downlinkDataNotifier`: `notificationInterval`, a `time.Duration` in nanoseconds, and
`state`, the time of the last notification of each F-SEID. -/
structure DownlinkDataNotifier where
  notificationInterval : Int
  state : AList (fun _ : UInt64 => Nat) := ∅

/-- `NewDownlinkDataNotifier(notifyChan, notificationInterval)`. -/
def NewDownlinkDataNotifier (notificationInterval : Int) : DownlinkDataNotifier :=
  { notificationInterval }

namespace DownlinkDataNotifier

/-- `shouldNotify(fseid)`, called at time `now`. -/
def shouldNotify (n : DownlinkDataNotifier) (fseid : UInt64) (now : Nat) :
    Bool × DownlinkDataNotifier :=
  match n.state.lookup fseid with
  | none => (true, { n with state := n.state.insert fseid now })
  | some lastTimestamp =>
    if n.notificationInterval ≤ (now : Int) - lastTimestamp then
      (true, { n with state := n.state.insert fseid now })
    else (false, n)

/-- `Notify(fseid)`, called at time `now`: the F-SEID it sends on `notifyChan`, if any. -/
def notify (n : DownlinkDataNotifier) (fseid : UInt64) (now : Nat) :
    Option UInt64 × DownlinkDataNotifier :=
  let (ok, n) := n.shouldNotify fseid now
  if ok then (some fseid, n) else (none, n)

/-- A sequence of calls `(fseid, time)`: what each one sends, and the notifier after them. -/
def run (n : DownlinkDataNotifier) : List (UInt64 × Nat) → List (Option UInt64) × DownlinkDataNotifier
  | [] => ([], n)
  | c :: calls =>
    let (o, n) := n.notify c.1 c.2
    let (os, n) := run n calls
    (o :: os, n)

/-! ## One call -/

/-- Whether a call for `fseid` at `now` notifies: the F-SEID has no last notification, or the
last one is at least `notificationInterval` old. -/
def Notifies (n : DownlinkDataNotifier) (fseid : UInt64) (now : Nat) : Prop :=
  ∀ last ∈ n.state.lookup fseid, n.notificationInterval ≤ (now : Int) - last

instance (n : DownlinkDataNotifier) (fseid : UInt64) (now : Nat) :
    Decidable (n.Notifies fseid now) := by
  unfold Notifies
  infer_instance

theorem notify_eq (n : DownlinkDataNotifier) (fseid : UInt64) (now : Nat) :
    n.notify fseid now =
      if n.Notifies fseid now then (some fseid, { n with state := n.state.insert fseid now })
      else (none, n) := by
  unfold notify shouldNotify Notifies
  rcases Option.eq_none_or_eq_some (n.state.lookup fseid) with h | ⟨last, h⟩
  · simp [h]
  · by_cases hi : n.notificationInterval ≤ (now : Int) - last <;> simp [h, hi]

@[simp] theorem notificationInterval_notify (n : DownlinkDataNotifier) (fseid : UInt64)
    (now : Nat) : (n.notify fseid now).2.notificationInterval = n.notificationInterval := by
  rw [notify_eq]
  split_ifs <;> rfl

/-- A call changes the state of its own F-SEID only, and only when it notifies. -/
theorem lookup_notify (n : DownlinkDataNotifier) (g f : UInt64) (now : Nat) :
    (n.notify g now).2.state.lookup f =
      if g = f ∧ n.Notifies g now then some now else n.state.lookup f := by
  rw [notify_eq]
  by_cases hn : n.Notifies g now
  · by_cases hg : g = f
    · subst hg
      simp [hn]
    · simp [hn, hg, AList.lookup_insert_ne (Ne.symm hg)]
  · simp [hn]

/-- Whether a call notifies reads the state of its own F-SEID only. -/
theorem notifies_congr {n m : DownlinkDataNotifier} {f : UInt64} (now : Nat)
    (hi : n.notificationInterval = m.notificationInterval)
    (hl : n.state.lookup f = m.state.lookup f) : n.Notifies f now ↔ m.Notifies f now := by
  unfold Notifies
  rw [hi, hl]

/-! ## Runs -/

theorem run_append (n : DownlinkDataNotifier) (l₁ l₂ : List (UInt64 × Nat)) :
    n.run (l₁ ++ l₂) =
      ((n.run l₁).1 ++ ((n.run l₁).2.run l₂).1, ((n.run l₁).2.run l₂).2) := by
  induction l₁ generalizing n with
  | nil => rfl
  | cons c l₁ ih => simp [run, ih]

theorem run_snoc (n : DownlinkDataNotifier) (calls : List (UInt64 × Nat)) (c : UInt64 × Nat) :
    n.run (calls ++ [c]) =
      ((n.run calls).1 ++ [((n.run calls).2.notify c.1 c.2).1],
        ((n.run calls).2.notify c.1 c.2).2) := by
  rw [run_append]
  rfl

@[simp] theorem length_run (n : DownlinkDataNotifier) (calls : List (UInt64 × Nat)) :
    (n.run calls).1.length = calls.length := by
  induction calls generalizing n with
  | nil => rfl
  | cons c calls ih => simp [run, ih]

@[simp] theorem notificationInterval_run (n : DownlinkDataNotifier)
    (calls : List (UInt64 × Nat)) :
    (n.run calls).2.notificationInterval = n.notificationInterval := by
  induction calls generalizing n with
  | nil => rfl
  | cons c calls ih => simp [run, ih]

/-- What the call after a prefix of `i` calls sends. -/
theorem getElem?_run_append_cons (n : DownlinkDataNotifier) (l r : List (UInt64 × Nat))
    (c : UInt64 × Nat) {i : Nat} (hi : l.length = i) :
    (n.run (l ++ c :: r)).1[i]? = some ((n.run l).2.notify c.1 c.2).1 := by
  rw [run_append, List.getElem?_append_right (by simp [hi])]
  simp [hi, run]

/-! ## The notifications of a run -/

/-- The times of the calls for `f` that notify in a run from `n`. -/
def notifiedTimes (n : DownlinkDataNotifier) (calls : List (UInt64 × Nat)) (f : UInt64) :
    List Nat :=
  ((calls.zip (n.run calls).1).filter fun p => decide (p.1.1 = f) && p.2.isSome).map
    fun p => p.1.2

theorem notifiedTimes_snoc (n : DownlinkDataNotifier) (calls : List (UInt64 × Nat))
    (g : UInt64) (t : Nat) (f : UInt64) :
    notifiedTimes n (calls ++ [(g, t)]) f =
      notifiedTimes n calls f ++ if g = f ∧ (n.run calls).2.Notifies g t then [t] else [] := by
  unfold notifiedTimes
  rw [run_snoc, List.zip_append (by simp)]
  by_cases hg : g = f
  · subst hg
    by_cases hn : (n.run calls).2.Notifies g t <;> simp [notify_eq, hn]
  · simp [hg]

theorem notifiedTimes_sublist (n : DownlinkDataNotifier) (calls : List (UInt64 × Nat))
    (f : UInt64) : (notifiedTimes n calls f).Sublist (calls.map Prod.snd) := by
  have hzip : (calls.zip (n.run calls).1).map (fun p => p.1.2) = calls.map Prod.snd := by
    show (calls.zip (n.run calls).1).map (Prod.snd ∘ Prod.fst) = _
    rw [← List.map_map, List.map_fst_zip (by simp)]
  rw [notifiedTimes, ← hzip]
  exact List.filter_sublist.map _

/-- **The state is the last notification.** After a run, the state of `f` is the time of the
last call for `f` that notified, or what it was before the run if none did. -/
theorem lookup_run (n : DownlinkDataNotifier) (calls : List (UInt64 × Nat)) (f : UInt64) :
    (n.run calls).2.state.lookup f = (notifiedTimes n calls f).getLast?.or (n.state.lookup f) := by
  induction calls using List.reverseRecOn with
  | nil => rfl
  | append_singleton calls c ih =>
    obtain ⟨g, t⟩ := c
    rw [run_snoc, lookup_notify, notifiedTimes_snoc]
    by_cases h : g = f ∧ (n.run calls).2.Notifies g t
    · obtain ⟨rfl, hn⟩ := h
      simp [hn]
    · simp [h, ih]

@[simp] theorem notificationInterval_new (interval : Int) :
    (NewDownlinkDataNotifier interval).notificationInterval = interval := rfl

@[simp] theorem lookup_new (interval : Int) (f : UInt64) :
    (NewDownlinkDataNotifier interval).state.lookup f = none := rfl

/-- From `NewDownlinkDataNotifier`, the first call of an F-SEID notifies: no call for `f`
notifies exactly when there is no call for `f`. -/
theorem notifiedTimes_new_eq_nil_iff (interval : Int) (calls : List (UInt64 × Nat))
    (f : UInt64) :
    notifiedTimes (NewDownlinkDataNotifier interval) calls f = [] ↔ ∀ c ∈ calls, c.1 ≠ f := by
  induction calls using List.reverseRecOn with
  | nil => simp [notifiedTimes, run]
  | append_singleton calls c ih =>
    obtain ⟨g, t⟩ := c
    rw [notifiedTimes_snoc, List.forall_mem_append, List.forall_mem_singleton]
    by_cases hg : g = f
    · subst hg
      -- the call for `g` notifies when no earlier one did
      have hfirst : notifiedTimes (NewDownlinkDataNotifier interval) calls g = [] →
          ((NewDownlinkDataNotifier interval).run calls).2.Notifies g t := by
        intro hnil
        unfold Notifies
        rw [lookup_run, hnil]
        simp
      by_cases hnil : notifiedTimes (NewDownlinkDataNotifier interval) calls g = []
      · simp [hfirst hnil]
      · simp [hnil]
    · rw [if_neg (fun h => hg h.1), List.append_nil, ih]
      exact (and_iff_left hg).symm

/-- Whether a call notifies after a run from `NewDownlinkDataNotifier`, said of the calls of
the run: it is the first call of its F-SEID, or the last notification of that F-SEID is at least
`notificationInterval` before it. -/
theorem notifies_run_new_iff (interval : Int) (calls : List (UInt64 × Nat)) (f : UInt64)
    (t : Nat) :
    ((NewDownlinkDataNotifier interval).run calls).2.Notifies f t ↔
      (∀ c ∈ calls, c.1 ≠ f) ∨
        ∃ last, (notifiedTimes (NewDownlinkDataNotifier interval) calls f).getLast? = some last ∧
          interval ≤ (t : Int) - last := by
  unfold Notifies
  rw [lookup_run, notificationInterval_run, notificationInterval_new, lookup_new,
    ← notifiedTimes_new_eq_nil_iff interval]
  cases h : (notifiedTimes (NewDownlinkDataNotifier interval) calls f).getLast? with
  | none => simp [List.getLast?_eq_none_iff.mp h]
  | some last =>
    have hne : notifiedTimes (NewDownlinkDataNotifier interval) calls f ≠ [] := by
      intro hnil
      simp [hnil] at h
    simp [hne]

/-! ## What a run of calls sends -/

/-- What call `i` of a run sends: `Notify` after the calls before it. -/
theorem getElem?_run (n : DownlinkDataNotifier) (calls : List (UInt64 × Nat)) (i : Nat)
    (hi : i < calls.length) :
    (n.run calls).1[i]? = some ((n.run (calls.take i)).2.notify calls[i].1 calls[i].2).1 := by
  have hsplit : calls = calls.take i ++ calls[i] :: calls.drop (i + 1) := by
    rw [← List.drop_eq_getElem_cons hi, List.take_append_drop]
  conv_lhs => rw [hsplit]
  exact getElem?_run_append_cons _ _ _ _ (List.length_take_of_le (Nat.le_of_lt hi))

/-- **A call notifies when it is the first of its F-SEID, or when the interval has passed.** -/
theorem getElem?_run_new (interval : Int) (calls : List (UInt64 × Nat)) (i : Nat)
    (hi : i < calls.length) :
    (((NewDownlinkDataNotifier interval).run calls).1[i]? = some (some calls[i].1) ↔
      (∀ c ∈ calls.take i, c.1 ≠ calls[i].1) ∨
        ∃ last, (notifiedTimes (NewDownlinkDataNotifier interval) (calls.take i)
          calls[i].1).getLast? = some last ∧ interval ≤ (calls[i].2 : Int) - last) ∧
    (¬ ((∀ c ∈ calls.take i, c.1 ≠ calls[i].1) ∨
        ∃ last, (notifiedTimes (NewDownlinkDataNotifier interval) (calls.take i)
          calls[i].1).getLast? = some last ∧ interval ≤ (calls[i].2 : Int) - last) →
      ((NewDownlinkDataNotifier interval).run calls).1[i]? = some none) := by
  rw [getElem?_run _ _ _ hi, notify_eq, ← notifies_run_new_iff]
  by_cases h : ((NewDownlinkDataNotifier interval).run (calls.take i)).2.Notifies calls[i].1
    calls[i].2 <;> simp [h]

/-- **Notifications of one F-SEID are `notificationInterval` apart.** From
`NewDownlinkDataNotifier`, with calls at times that do not decrease, any two notifications of an
F-SEID are at least `interval` apart. -/
theorem notifiedTimes_pairwise (interval : Int) (calls : List (UInt64 × Nat))
    (hsorted : (calls.map Prod.snd).Pairwise (· ≤ ·)) (f : UInt64) :
    (notifiedTimes (NewDownlinkDataNotifier interval) calls f).Pairwise
      fun (a b : Nat) => interval ≤ (b : Int) - a := by
  induction calls using List.reverseRecOn with
  | nil => simp [notifiedTimes, run]
  | append_singleton calls c ih =>
    obtain ⟨g, t⟩ := c
    rw [List.map_append, List.pairwise_append] at hsorted
    rw [notifiedTimes_snoc]
    by_cases h : g = f ∧ ((NewDownlinkDataNotifier interval).run calls).2.Notifies g t
    · obtain ⟨rfl, hn⟩ := h
      rw [if_pos ⟨rfl, hn⟩, List.pairwise_append]
      refine ⟨ih hsorted.1, List.pairwise_singleton _ _, ?_⟩
      intro a ha b hb
      rw [List.mem_singleton] at hb
      rw [hb]
      -- `a` is no later than the last notification of `g`, which is `interval` before `t`
      have hne := List.ne_nil_of_mem ha
      have hlast : a ≤ (notifiedTimes (NewDownlinkDataNotifier interval) calls g).getLast hne :=
        (hsorted.1.sublist (notifiedTimes_sublist _ calls g)).rel_getLast ha
      have hint : interval ≤ (t : Int) -
          (notifiedTimes (NewDownlinkDataNotifier interval) calls g).getLast hne := by
        unfold Notifies at hn
        rw [lookup_run, List.getLast?_eq_some_getLast hne] at hn
        simpa using hn _ rfl
      omega
    · rw [if_neg h, List.append_nil]
      exact ih hsorted.1

/-- What the calls for `f` send in a run from `n`, in order. -/
def outputsOf (n : DownlinkDataNotifier) (calls : List (UInt64 × Nat)) (f : UInt64) :
    List (Option UInt64) :=
  ((calls.zip (n.run calls).1).filter fun p => decide (p.1.1 = f)).map Prod.snd

theorem outputsOf_snoc (n : DownlinkDataNotifier) (calls : List (UInt64 × Nat)) (g : UInt64)
    (t : Nat) (f : UInt64) :
    outputsOf n (calls ++ [(g, t)]) f =
      outputsOf n calls f ++ if g = f then [((n.run calls).2.notify g t).1] else [] := by
  unfold outputsOf
  rw [run_snoc, List.zip_append (by simp)]
  by_cases hg : g = f <;> simp [hg]

/-- Two notifiers that agree on `f` send the same for a call for `f`, and agree on `f` after. -/
theorem notify_congr {n m : DownlinkDataNotifier} {f : UInt64} (now : Nat)
    (hi : n.notificationInterval = m.notificationInterval)
    (hl : n.state.lookup f = m.state.lookup f) :
    (n.notify f now).1 = (m.notify f now).1 ∧
      (n.notify f now).2.state.lookup f = (m.notify f now).2.state.lookup f := by
  have hn := notifies_congr now hi hl
  rw [lookup_notify, lookup_notify, notify_eq, notify_eq]
  by_cases h : n.Notifies f now
  · simp [h, hn.mp h]
  · simp [h, mt hn.mpr h, hl]

/-- Two notifiers that agree on `f` send the same for the calls for `f` of a run as for these
calls alone, and agree on `f` after them: the calls for other F-SEIDs are not seen. -/
theorem outputsOf_run_filter_of_lookup {n m : DownlinkDataNotifier} {f : UInt64}
    (hi : n.notificationInterval = m.notificationInterval)
    (hl : n.state.lookup f = m.state.lookup f) (calls : List (UInt64 × Nat)) :
    outputsOf n calls f = (m.run (calls.filter fun c => c.1 = f)).1 ∧
      (n.run calls).2.state.lookup f = (m.run (calls.filter fun c => c.1 = f)).2.state.lookup f := by
  induction calls using List.reverseRecOn with
  | nil => exact ⟨rfl, hl⟩
  | append_singleton calls c ih =>
    obtain ⟨g, t⟩ := c
    obtain ⟨ho, hs⟩ := ih
    rw [outputsOf_snoc, run_snoc, List.filter_append]
    by_cases hg : g = f
    · subst hg
      -- both runs make the call for `g`, from states that agree on `g`
      have hc := notify_congr t (by simp [hi]) hs
      simp [run_snoc, ho, hc]
    · simp [hg, ho, lookup_notify, hs]

/-- **Other F-SEIDs do not interfere.** From `NewDownlinkDataNotifier`, the calls for `f` send
what they send when they are the only calls. -/
theorem outputsOf_run_filter (interval : Int) (calls : List (UInt64 × Nat)) (f : UInt64) :
    outputsOf (NewDownlinkDataNotifier interval) calls f =
      ((NewDownlinkDataNotifier interval).run (calls.filter fun c => c.1 = f)).1 :=
  (outputsOf_run_filter_of_lookup rfl rfl calls).1

/-- **The notifier rate-limits each F-SEID on its own.** -/
theorem notify_rate_limited (interval : Int) (calls : List (UInt64 × Nat))
    (hsorted : (calls.map Prod.snd).Pairwise (· ≤ ·)) :
    (∀ i (hi : i < calls.length),
      (((NewDownlinkDataNotifier interval).run calls).1[i]? = some (some calls[i].1) ↔
        (∀ c ∈ calls.take i, c.1 ≠ calls[i].1) ∨
          ∃ last, (notifiedTimes (NewDownlinkDataNotifier interval) (calls.take i)
            calls[i].1).getLast? = some last ∧ interval ≤ (calls[i].2 : Int) - last) ∧
      (¬ ((∀ c ∈ calls.take i, c.1 ≠ calls[i].1) ∨
          ∃ last, (notifiedTimes (NewDownlinkDataNotifier interval) (calls.take i)
            calls[i].1).getLast? = some last ∧ interval ≤ (calls[i].2 : Int) - last) →
        ((NewDownlinkDataNotifier interval).run calls).1[i]? = some none)) ∧
    (∀ f, (notifiedTimes (NewDownlinkDataNotifier interval) calls f).Pairwise
      fun (a b : Nat) => interval ≤ (b : Int) - a) ∧
    (∀ f, outputsOf (NewDownlinkDataNotifier interval) calls f =
      ((NewDownlinkDataNotifier interval).run (calls.filter fun c => c.1 = f)).1) :=
  ⟨getElem?_run_new interval calls, notifiedTimes_pairwise interval calls hsorted,
    outputsOf_run_filter interval calls⟩

theorem notify_rate_limited_spaced :
    ([((1 : UInt64), 0), (2, 5), (1, 7), (1, 12)].map Prod.snd).Pairwise (· ≤ ·) ∧
      (notifiedTimes (NewDownlinkDataNotifier 10) [(1, 0), (2, 5), (1, 7), (1, 12)] 1).Pairwise
        fun (a b : Nat) => (10 : Int) ≤ (b : Int) - a :=
  ⟨by decide, (notify_rate_limited 10 [(1, 0), (2, 5), (1, 7), (1, 12)] (by decide)).2.1 1⟩

example : ((NewDownlinkDataNotifier 10).run [(1, 0), (2, 5), (1, 7), (1, 12)]).1 =
    [some 1, some 2, none, some 1] := by decide

end DownlinkDataNotifier

end Pfcpiface
