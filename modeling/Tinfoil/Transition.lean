import Mathlib.Data.List.Induction
import Mathlib.Data.Set.Subsingleton
import Mathlib.Logic.Function.Basic
import Mathlib.Tactic.Ring

/-! # Runs of a deterministic labelled transition system

A system is a partial step function `step : σ → α → Option σ`: the action list
of a run is its schedule, and a schedule that takes a disabled action has no
final state.

* `exec` — the final state of a schedule; `exec_append` splits a run in two.
* `exec_invariant` — what every step preserves, every run preserves; `exec_history` is the
  same for an invariant that speaks of the schedule taken so far.
* `exec_established` — a predicate that is false before a run and true after it
  has a last step that made it true.
* `StepAt` and `moments` — the steps of a run, each named by what came before it; `StepAt.order`
  compares two of them, and `moments_subsingleton` says when there is at most one of a kind.
* `changes` and `counter_frozen` — a wrapping 64-bit counter that moves by one
  whenever it moves shows the same value at the two ends of a run with fewer
  than `2^64` moves only when it never moved; `frozen_between` draws the
  consequence for everything that only moves together with the counter.
-/

namespace Transition

variable {σ α : Type*} (step : σ → α → Option σ)

/-- The state reached by a schedule, `none` when some action is not enabled. -/
def exec : σ → List α → Option σ
  | state, [] => some state
  | state, action :: rest => (step state action).bind fun next => exec next rest

@[simp] theorem exec_nil (state : σ) : exec step state [] = some state := rfl

theorem exec_cons (state : σ) (action : α) (rest : List α) :
    exec step state (action :: rest) = (step state action).bind fun next => exec step next rest :=
  rfl

@[simp] theorem exec_singleton (state : σ) (action : α) :
    exec step state [action] = step state action := by
  simp [exec]

theorem exec_append (state : σ) (first second : List α) :
    exec step state (first ++ second) =
      (exec step state first).bind fun middle => exec step middle second := by
  induction first generalizing state with
  | nil => rfl
  | cons action rest ih => cases h : step state action <;> simp [exec_cons, h, ih]

variable {step}

theorem exec_append_some {state final : σ} {first second : List α} :
    exec step state (first ++ second) = some final ↔
      ∃ middle, exec step state first = some middle ∧ exec step middle second = some final := by
  rw [exec_append, Option.bind_eq_some_iff]

theorem exec_cons_some {state final : σ} {action : α} {rest : List α} :
    exec step state (action :: rest) = some final ↔
      ∃ next, step state action = some next ∧ exec step next rest = some final := by
  rw [exec_cons, Option.bind_eq_some_iff]

theorem exec_trans {state middle final : σ} {first second : List α}
    (left : exec step state first = some middle) (right : exec step middle second = some final) :
    exec step state (first ++ second) = some final :=
  exec_append_some.mpr ⟨middle, left, right⟩

theorem exec_snoc {state middle final : σ} {actions : List α} {action : α}
    (left : exec step state actions = some middle) (right : step middle action = some final) :
    exec step state (actions ++ [action]) = some final :=
  exec_trans left (by simpa using right)

/-! ## Invariants -/

theorem exec_invariant {P : σ → Prop}
    (preserved : ∀ state action next, P state → step state action = some next → P next)
    {state final : σ} {actions : List α} (initially : P state)
    (run : exec step state actions = some final) : P final := by
  induction actions generalizing state with
  | nil => cases run; exact initially
  | cons action rest ih =>
    obtain ⟨next, taken, remaining⟩ := exec_cons_some.mp run
    exact ih (preserved state action next initially taken) remaining

/-- An invariant that may mention the schedule taken so far. -/
theorem exec_history {P : List α → σ → Prop} {start final : σ} {actions : List α}
    (initially : P [] start)
    (preserved : ∀ before action state next, exec step start before = some state →
      before ++ [action] <+: actions → P before state → step state action = some next →
        P (before ++ [action]) next)
    (run : exec step start actions = some final) : P actions final := by
  induction actions using List.reverseRecOn generalizing final with
  | nil => cases run; exact initially
  | append_singleton before action ih =>
    obtain ⟨state, reached, taken⟩ := exec_append_some.mp run
    rw [exec_singleton] at taken
    refine preserved before action state final reached (List.prefix_refl _) ?_ taken
    refine ih (fun first act source next left part holds => ?_) reached
    exact preserved first act source next left (part.trans (List.prefix_append _ _)) holds

/-- The last step that made `P` true, with the run around it. -/
theorem exec_established {P : σ → Prop} {state final : σ} {actions : List α}
    (initially : ¬ P state) (ultimately : P final) (run : exec step state actions = some final) :
    ∃ before action after source target, actions = before ++ action :: after ∧
      exec step state before = some source ∧ ¬ P source ∧
      step source action = some target ∧ P target ∧ exec step target after = some final := by
  induction actions generalizing state with
  | nil => cases run; exact absurd ultimately initially
  | cons action rest ih =>
    obtain ⟨next, taken, remaining⟩ := exec_cons_some.mp run
    by_cases holds : P next
    · exact ⟨[], action, rest, state, next, rfl, rfl, initially, taken, holds, remaining⟩
    · obtain ⟨before, act, after, source, target, rfl, reached, no, step', yes, tail⟩ :=
        ih holds remaining
      exact ⟨action :: before, act, after, source, target, rfl,
        exec_cons_some.mpr ⟨next, taken, reached⟩, no, step', yes, tail⟩

/-! ## Steps of a run -/

variable {start source source' target target' : σ} {schedule before before' : List α} {action action' : α}

variable (step) in
/-- After `before` the schedule goes from `source` to `target`. -/
structure StepAt (start : σ) (schedule before : List α) (source : σ) (action : α) (target : σ) : Prop where
  reached : exec step start before = some source
  taken : step source action = some target
  part : before ++ [action] <+: schedule

theorem StepAt.unique (first : StepAt step start schedule before source action target)
    (second : StepAt step start schedule before' source' action' target')
    (same : before ++ [action] = before' ++ [action']) :
    before = before' ∧ action = action' ∧ source = source' ∧ target = target' := by
  obtain ⟨rfl, last⟩ := List.append_inj' same rfl
  cases last
  cases first.reached.symm.trans second.reached
  exact ⟨rfl, rfl, rfl, Option.some.inj (first.taken.symm.trans second.taken)⟩

/-- Two steps of one run are the same step, or one comes before the other. -/
theorem StepAt.order (first : StepAt step start schedule before source action target)
    (second : StepAt step start schedule before' source' action' target') :
    (before = before' ∧ action = action' ∧ source = source' ∧ target = target') ∨
      (∃ between, before' = before ++ action :: between ∧ exec step target between = some source') ∨
      ∃ between, before = before' ++ action' :: between ∧ exec step target' between = some source := by
  -- The run after the earlier step is the rest of the run to the later one.
  have later {before before' source source' target target' action action'} {rest : List α}
      (first : StepAt step start schedule before source action target)
      (second : StepAt step start schedule before' source' action' target')
      (whole : before ++ [action] ++ rest = before' ++ [action']) (proper : rest ≠ []) :
      ∃ between, before' = before ++ action :: between ∧ exec step target between = some source' := by
    obtain ⟨between, last, rfl⟩ : ∃ between last, rest = between ++ [last] :=
      ⟨_, _, (List.dropLast_concat_getLast proper).symm⟩
    rw [← List.append_assoc] at whole
    obtain ⟨same, -⟩ := List.append_inj' whole rfl
    refine ⟨between, by rw [← same, List.append_assoc]; rfl, ?_⟩
    have reached := second.reached
    rw [← same, exec_append, exec_snoc first.reached first.taken] at reached
    exact reached
  rcases List.prefix_or_prefix_of_prefix first.part second.part with ⟨rest, whole⟩ | ⟨rest, whole⟩
  · by_cases proper : rest = []
    · rw [proper, List.append_nil] at whole
      exact .inl (first.unique second whole)
    · exact .inr (.inl (later first second whole proper))
  · by_cases proper : rest = []
    · rw [proper, List.append_nil] at whole
      exact .inl (first.unique second whole.symm)
    · exact .inr (.inr (later second first whole proper))

theorem StepAt.action_unique (first : StepAt step start schedule before source action target)
    (second : StepAt step start schedule before source' action' target') : action = action' := by
  obtain ⟨-, same, -, -⟩ | ⟨between, longer, -⟩ | ⟨between, longer, -⟩ := first.order second
  · exact same
  all_goals
    have lengths := congrArg List.length longer
    simp at lengths

variable (step) in
/-- The moments of a run at which a step of some kind is taken. -/
def moments (start : σ) (schedule : List α) (kind : σ → α → σ → Prop) : Set (List α) :=
  {before | ∃ source action target, StepAt step start schedule before source action target ∧
    kind source action target}

/-- A kind of step that is never taken again is taken at most once. -/
theorem moments_subsingleton {kind : σ → α → σ → Prop}
    (never : ∀ {before between source source' target target' action action'},
      StepAt step start schedule before source action target → kind source action target →
      exec step target between = some source' →
      StepAt step start schedule (before ++ action :: between) source' action' target' →
      ¬ kind source' action' target') :
    (moments step start schedule kind).Subsingleton := by
  rintro before ⟨source, action, target, first, holds⟩ before' ⟨source', action', target', second, holds'⟩
  rcases first.order second with ⟨same, -⟩ | ⟨between, rfl, rest⟩ | ⟨between, rfl, rest⟩
  · exact same
  · exact absurd holds' (never first holds rest second)
  · exact absurd holds (never second holds' rest first)

/-! ## Wrapping counters -/

variable {β : Type*} [DecidableEq β] (step) (observe : σ → β)

def changes : σ → List α → Nat
  | _, [] => 0
  | state, action :: rest =>
    match step state action with
    | none => 0
    | some next => (if observe next = observe state then 0 else 1) + changes next rest

variable {step observe}

theorem changes_append {state middle : σ} {first second : List α}
    (run : exec step state first = some middle) :
    changes step observe state (first ++ second) =
      changes step observe state first + changes step observe middle second := by
  induction first generalizing state with
  | nil => cases run; simp [changes]
  | cons action rest ih =>
    obtain ⟨next, taken, remaining⟩ := exec_cons_some.mp run
    simp [changes, taken, ih remaining, Nat.add_assoc]

/-- `counter` moves by one, modulo `2^64`, in every step that moves it. -/
def Counts (step : σ → α → Option σ) (counter : σ → UInt64) : Prop :=
  ∀ state action next, step state action = some next →
    counter next = counter state ∨ counter next = counter state + 1

theorem counter_eq_changes {counter : σ → UInt64} (counts : Counts step counter)
    {state final : σ} {actions : List α} (run : exec step state actions = some final) :
    counter final = counter state + UInt64.ofNat (changes step counter state actions) := by
  induction actions generalizing state with
  | nil => cases run; simp [changes]
  | cons action rest ih =>
    obtain ⟨next, taken, remaining⟩ := exec_cons_some.mp run
    rw [ih remaining]
    by_cases same : counter next = counter state
    · simp [changes, taken, same]
    · have moved := (counts state action next taken).resolve_left same
      simp only [changes, taken, same, if_false, UInt64.ofNat_add]
      rw [moved, UInt64.add_assoc]
      rfl

/-- A counter that shows one value at both ends of a short run never moved. -/
theorem counter_frozen {counter : σ → UInt64} (counts : Counts step counter)
    {state final : σ} {actions : List α} (run : exec step state actions = some final)
    (few : changes step counter state actions < 2 ^ 64) (same : counter final = counter state) :
    changes step counter state actions = 0 := by
  have total := counter_eq_changes counts run
  rw [same] at total
  have zero : UInt64.ofNat (changes step counter state actions) = 0 := by
    have shifted : counter state + 0 =
        counter state + UInt64.ofNat (changes step counter state actions) := by
      rw [UInt64.add_zero]; exact total
    exact ((UInt64.add_right_inj (counter state)).mp shifted).symm
  have value := congrArg UInt64.toNat zero
  simp only [UInt64.toNat_ofNat', UInt64.toNat_zero] at value
  omega

/-- What only changes together with the observation is the same all along a run without
changes. -/
theorem view_of_no_changes {γ : Type*} {view : σ → γ}
    (determined : ∀ state action next, step state action = some next →
      observe next = observe state → view next = view state)
    {state final : σ} {actions : List α} (run : exec step state actions = some final)
    (quiet : changes step observe state actions = 0) : view final = view state := by
  induction actions generalizing state with
  | nil => cases run; rfl
  | cons action rest ih =>
    obtain ⟨next, taken, remaining⟩ := exec_cons_some.mp run
    simp only [changes, taken, Nat.add_eq_zero_iff, ite_eq_left_iff, Nat.one_ne_zero,
      imp_false, Decidable.not_not] at quiet
    exact (ih remaining quiet.2).trans (determined state action next taken quiet.1)

/-- Between two points of a short run that show one counter value nothing happened that the
counter counts: every state in between has the same view. -/
theorem frozen_between {γ : Type*} {counter : σ → UInt64} {view : σ → γ}
    (counts : Counts step counter)
    (determined : ∀ state action next, step state action = some next →
      counter next = counter state → view next = view state)
    {start state middle final : σ} {before first second : List α}
    (reached : exec step start before = some state)
    (left : exec step state first = some middle) (right : exec step middle second = some final)
    (few : changes step counter start (before ++ (first ++ second)) < 2 ^ 64)
    (same : counter final = counter state) :
    view middle = view state ∧ view final = view state := by
  rw [changes_append reached] at few
  have quiet := counter_frozen counts (exec_trans left right) (by omega) same
  rw [changes_append left, Nat.add_eq_zero_iff] at quiet
  have leftView := view_of_no_changes determined left quiet.1
  exact ⟨leftView, (view_of_no_changes determined right quiet.2).trans leftView⟩

end Transition
