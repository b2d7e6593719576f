import Tinfoil.Ehbp.Steps

/-! # What a run of the proxy remembers

The run lemmas behind the ordering results.  A request's locals are read in one state and
used in a later one; `seen_origin`, `sealed_origin` and `reject_origin` find that earlier
state again, and `frozen` says that two states of a short run with one generation have one
channel.  Together they give `reject_is_current`: a reject that takes effect rejects the very
state its request was sealed under.
-/

namespace Tinfoil.Ehbp

open Tinfoil.Attestation Transition

variable {library : Library}

abbrev Runs (library : Library) (start : ProxyState) (schedule : List Action)
    (final : ProxyState) : Prop :=
  exec (step library) start schedule = some final

abbrev generationChanges (library : Library) (start : ProxyState) (schedule : List Action) : Nat :=
  changes (step library) generationOf start schedule

theorem runs_bound {start final : ProxyState} {schedule : List Action} (bound : start.Bound)
    (run : Runs library start schedule final) : final.Bound :=
  exec_invariant (fun _ _ _ => step_bound) bound run

/-- Two states of a short run with one generation have one channel, and so has every state
between them. -/
theorem frozen {start state middle final : ProxyState} {before first second : List Action}
    (reached : Runs library start before state) (left : Runs library state first middle)
    (right : Runs library middle second final)
    (few : generationChanges library start (before ++ (first ++ second)) < 2 ^ 64)
    (same : final.channel.generation = state.channel.generation) :
    middle.channel = state.channel ∧ final.channel = state.channel :=
  frozen_between generation_counts (fun _ _ _ taken same => channel_of_generation taken same)
    reached left right few same

theorem few_before {start state : ProxyState} {before : List Action} {bound : Nat}
    (reached : Runs library start before state) (after : List Action)
    (few : generationChanges library start (before ++ after) < bound) :
    generationChanges library start before < bound := by
  rw [generationChanges, changes_append reached] at few
  exact Nat.lt_of_le_of_lt (Nat.le_add_right _ _) few

/-! ## Locals do not change -/

theorem request_invariant {P : Request → Prop} {id : Nat}
    (preserved : ∀ {state target action source result},
      Progress library state id action target source result → P source → P result)
    {source final : ProxyState} {schedule : List Action}
    (run : Runs library source schedule final) (initially : P (source.request id)) :
    P (final.request id) := by
  have invariant : ∀ state action next, P (state.request id) →
      step library state action = some next → P (next.request id) := by
    intro state action next holds taken
    rcases step_request taken id with same | progress
    · rw [same]; exact holds
    · exact preserved progress holds
  exact exec_invariant (P := fun state => P (state.request id)) invariant initially run

/-- A local that every move keeps until the request is gone has one value along a run. -/
theorem local_unchanged {α : Type} {read : Request → Option α} {Gone : Request → Prop} {id : Nat}
    (stable : ∀ {state target action source result value},
      Progress library state id action target source result → read source = some value →
        read result = some value ∨ Gone result)
    (gone : ∀ {state target action source result},
      Progress library state id action target source result → Gone source → Gone result)
    (empty : ∀ request, Gone request → read request = none)
    {source final : ProxyState} {schedule : List Action}
    (run : Runs library source schedule final) {value later : α}
    (carried : read (source.request id) = some value)
    (still : read (final.request id) = some later) : later = value := by
  have kept : read (final.request id) = some value ∨ Gone (final.request id) :=
    request_invariant (P := fun request => read request = some value ∨ Gone request)
      (fun progress holds => holds.elim (stable progress) fun past => .inr (gone progress past))
      run (.inl carried)
  rcases kept with kept | past
  · rw [kept] at still
    exact (Option.some.inj still).symm
  · rw [empty _ past] at still
    cases still

theorem seen_unchanged {source final : ProxyState} {schedule : List Action} {id : Nat}
    {seen later : UInt64} (run : Runs library source schedule final)
    (carried : (source.request id).seen? = some seen)
    (still : (final.request id).seen? = some later) : later = seen := by
  refine local_unchanged (fun progress => progress.seen_stable)
    (fun progress past => absurd past progress.not_finished) ?_ run carried still
  rintro request ⟨outcome, rfl⟩
  rfl

theorem sealed_unchanged {source final : ProxyState} {schedule : List Action} {id : Nat}
    {client later : Client} (run : Runs library source schedule final)
    (carried : (source.request id).sealed? = some client)
    (still : (final.request id).sealed? = some later) : later = client := by
  refine local_unchanged (fun progress => progress.sealed_stable)
    (fun progress past => absurd past progress.not_finished) ?_ run carried still
  rintro request ⟨outcome, rfl⟩
  rfl

/-- Past the refresh: nothing brings a pending reject back. -/
def Request.Past (request : Request) : Prop :=
  request.reject? = none ∧ (request.Finished ∨ (∃ seen sealed, request = .retrying seen sealed) ∨
    (∃ seen sealed, request = .rebuilt seen sealed) ∨
    ∃ seen sealed retry, request = .retried seen sealed retry)

theorem Progress.past {state target : ProxyState} {id : Nat} {action : Action}
    {source result : Request} (progress : Progress library state id action target source result)
    (past : source.Past) : result.Past := by
  cases progress <;> simp_all [Request.Past, Request.Finished, Request.reject?]

theorem past_forever {source final : ProxyState} {schedule : List Action} {id : Nat}
    (run : Runs library source schedule final) (past : (source.request id).Past) :
    (final.request id).Past :=
  request_invariant (fun progress => progress.past) run past

theorem reject_unchanged {source final : ProxyState} {schedule : List Action} {id : Nat}
    {reject later : UInt64} (run : Runs library source schedule final)
    (carried : (source.request id).reject? = some reject)
    (still : (final.request id).reject? = some later) : later = reject := by
  refine local_unchanged ?_ (fun progress => progress.past) (fun _ past => past.1) run carried still
  intro _ _ _ _ result _ progress holds
  rcases progress.reject_stable holds with same | ⟨outcome, rfl⟩ | ⟨seen, sealed, rfl⟩
  · exact .inl same
  · exact .inr ⟨rfl, .inl ⟨outcome, rfl⟩⟩
  · exact .inr ⟨rfl, .inr (.inl ⟨seen, sealed, rfl⟩)⟩

/-! ## Where the locals come from -/

theorem progress_of_ne {state target : ProxyState} {action : Action} {id : Nat}
    (taken : step library state action = some target)
    (moved : target.request id ≠ state.request id) :
    Progress library state id action target (state.request id) (target.request id) :=
  (step_request taken id).resolve_left moved

theorem seen_origin {start final : ProxyState} {schedule : List Action} {id : Nat} {seen : UInt64}
    (idle : start.request id = .idle) (run : Runs library start schedule final)
    (carried : (final.request id).seen? = some seen) :
    ∃ before after reader, schedule = before ++ after ∧ Runs library start before reader ∧
      Runs library reader after final ∧ reader.channel.generation = seen ∧
      (reader.request id).sealed? = none := by
  obtain ⟨before, action, after, source, reader, rfl, reached, fresh, taken, holds, rest⟩ :=
    exec_established (P := fun state => (state.request id).seen? = some seen)
      (by rw [idle]; simp [Request.seen?]) carried run
  have moved : reader.request id ≠ source.request id := fun same => fresh (same ▸ holds)
  obtain ⟨read, quiet, unsealed⟩ := (progress_of_ne taken moved).seen_read fresh holds
  exact ⟨before ++ [action], after, reader, by simp, exec_snoc reached taken, rest,
    by rw [quiet, read], unsealed⟩

theorem sealed_origin {source final : ProxyState} {schedule : List Action} {id : Nat}
    {client : Client} (unsealed : (source.request id).sealed? = none)
    (run : Runs library source schedule final)
    (carried : (final.request id).sealed? = some client) :
    ∃ before after sent, schedule = before ++ after ∧ Runs library source before sent ∧
      Runs library sent after final ∧ sent.channel.client = some client := by
  obtain ⟨before, action, after, state, sent, rfl, reached, fresh, taken, holds, rest⟩ :=
    exec_established (P := fun state => (state.request id).sealed? = some client)
      (by rw [unsealed]; simp) carried run
  have moved : sent.request id ≠ state.request id := fun same => fresh (same ▸ holds)
  obtain ⟨active, quiet, -⟩ := (progress_of_ne taken moved).sealed_sent fresh holds
  exact ⟨before ++ [action], after, sent, by simp, exec_snoc reached taken, rest,
    by rw [quiet, active]⟩

/-- A pending refresh was begun by an effective reject of its own request. -/
theorem reject_origin {start final : ProxyState} {schedule : List Action} {id : Nat}
    {reject : UInt64} (none : (start.request id).reject? = none)
    (run : Runs library start schedule final) (carried : (final.request id).reject? = some reject) :
    ∃ before after source rejected seen sealed, schedule = before ++ .reject id :: after ∧
      Runs library start before source ∧ source.request id = .locked seen sealed ∧
      source.channel.generation = seen ∧ step library source (.reject id) = some rejected ∧
      rejected.channel = source.channel.reject ∧ rejected.channel.generation = reject ∧
      Runs library rejected after final := by
  obtain ⟨before, action, after, source, rejected, rfl, reached, fresh, taken, holds, rest⟩ :=
    exec_established (P := fun state => (state.request id).reject? = some reject)
      (by rw [none]; simp) carried run
  have moved : rejected.request id ≠ source.request id := fun same => fresh (same ▸ holds)
  obtain ⟨rfl, closed, generation, current, seen, sealed, locked⟩ :=
    (progress_of_ne taken moved).reject_origin fresh holds
  rw [locked] at current
  exact ⟨before, after, source, rejected, seen, sealed, rfl, reached, locked,
    (Option.some.inj current).symm, taken, closed, generation, rest⟩

/-- A reject that takes effect finds the client its request was sealed with still active:
the channel has not changed since the request read the generation. -/
theorem reject_is_current {start source : ProxyState} {schedule : List Action} {id : Nat}
    {seen : UInt64} {sealed : Client} (idle : start.request id = .idle)
    (run : Runs library start schedule source)
    (few : generationChanges library start schedule < 2 ^ 64)
    (locked : source.request id = .locked seen sealed)
    (current : source.channel.generation = seen) : source.channel.client = some sealed := by
  obtain ⟨before, after, reader, rfl, reached, rest, read, unsealed⟩ :=
    seen_origin idle run (by rw [locked]; rfl : (source.request id).seen? = some seen)
  obtain ⟨first, second, sent, rfl, left, right, active⟩ :=
    sealed_origin unsealed rest (by rw [locked]; rfl : (source.request id).sealed? = some sealed)
  obtain ⟨atSend, atReject⟩ := frozen reached left right few (current.trans read.symm)
  rw [atReject, ← atSend, active]

end Tinfoil.Ehbp
