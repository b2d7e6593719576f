import Tinfoil.Transition
import Tinfoil.UserCacheSecret.Inject

/-! # One source for both request paths

The typed requests, with all their attempts, and the relaxed ones read the secret through one cell, and the source in
the cell can be replaced at any time.  `one_secret_per_source` says which secret an attempt carries.
-/

namespace Tinfoil.UserCacheSecret

open Json Transition

/-! ## Requests -/

inductive Body where
  | bytes (raw : Bytes)
  | stream
  deriving DecidableEq

/-- A built request, as far as the secret depends on it. -/
structure Request where
  method : String
  path : String
  body : Option Body
  /-- An explicit `Content-Length`. -/
  contentLength : Option Nat
  deriving DecidableEq

def userCacheSecretPaths : List String := ["/chat/completions", "/completions", "/responses"]

section Requests

variable (toJson : String → Option Bytes)

def Request.eligibleBody (request : Request) : Option Bytes :=
  if request.method ≠ "POST" then none
  else if ¬ userCacheSecretPaths.any (fun path => path.toList.isSuffixOf request.path.toList) then none
  else
    match request.body with
    | some (.bytes raw) => if raw = [] then none else some raw
    | _ => none

def provisionRequest (request : Request) (secret : String) : Request :=
  match request.eligibleBody.bind fun raw => injectUserCacheSecret toJson raw secret with
  | none => request
  | some injected =>
    { request with
      contentLength := request.contentLength.map fun _ => injected.length
      body := some (.bytes injected) }

/-- What a caller asks for.  The factory of a typed request builds it anew for every attempt. -/
inductive Caller where
  | typed (request : Request)
  | relaxed (body : Value)

inductive Wire where
  | request (request : Request)
  | body (value : Value)

def provision (source : UserCacheSecret) : Caller → Wire
  | .typed request =>
    .request (match source.get with
      | none => request
      | some secret => provisionRequest toJson request secret)
  | .relaxed body => .body (provisionValue body source)

/-- The source is asked for its secret.  For a relaxed body that carries a value of its own, it is not. -/
def Caller.asks : Caller → Bool
  | .typed _ => true
  | .relaxed (.object map) => !(map.lookup userCacheSecretField).any fun existing => existing.asStr ≠ some ""
  | .relaxed _ => false

theorem provision_of_not_asks {caller : Caller} (silent : caller.asks = false) (source source' : UserCacheSecret) :
    provision toJson source caller = provision toJson source' caller := by
  cases caller with
  | typed request => cases silent
  | relaxed body =>
    cases body with
    | object map =>
      have carried : ((map.lookup userCacheSecretField).any fun existing => existing.asStr ≠ some "") = true := by
        simpa [Caller.asks] using silent
      rw [provision, provision, provisionValue, provisionValue, if_pos carried, if_pos carried]
    | _ => rfl

end Requests

/-! ## The cell -/

/-- A source, with what the resolution of a deferred one gave, once there is one. -/
inductive Source where
  | deferred (resolved : Option String)
  | explicit (secret : String)
  deriving DecidableEq

namespace Source

/-- `UserCacheSecret::explicit` -/
def new (secret : String) : Source := if secret = "" then deferred none else explicit secret

/-- What the source is, if it is resolved now. -/
def settle (resolution : String) : Source → UserCacheSecret
  | deferred resolved => .deferred (resolved.getD resolution)
  | explicit secret => .explicit secret

/-- `get_or_init` -/
def resolve (resolution : String) : Source → Source
  | deferred resolved => deferred (some (resolved.getD resolution))
  | explicit secret => explicit secret

@[simp] theorem settle_resolve (source : Source) (resolution other : String) :
    (source.resolve resolution).settle other = source.settle resolution := by
  cases source <;> rfl

end Source

inductive Attempt where
  | idle
  /-- It has a snapshot of the source, by its place. -/
  | holding (caller : Caller) (source : Nat)
  | sent (caller : Caller) (source : Nat) (wire : Wire)

def Attempt.place? : Attempt → Option Nat
  | .idle => none
  | .holding _ place | .sent _ place _ => some place

/-- All sources that were ever in the cell, the one that is there now, and the attempts. -/
structure Shared where
  sources : List Source
  current : Nat
  attempts : Nat → Attempt

namespace Shared

inductive Action where
  /-- `with_user_cache_secret` -/
  | replace (secret : String)
  | snapshot (id : Nat) (caller : Caller)
  /-- The environment and the files have the given secret, in case they are asked. -/
  | send (id : Nat) (resolution : String)

def setAttempt (shared : Shared) (id : Nat) (attempt : Attempt) : Shared :=
  { shared with attempts := fun other => if other = id then attempt else shared.attempts other }

@[simp] theorem setAttempt_sources (shared : Shared) (id : Nat) (attempt : Attempt) :
    (shared.setAttempt id attempt).sources = shared.sources := rfl

@[simp] theorem setAttempt_current (shared : Shared) (id : Nat) (attempt : Attempt) :
    (shared.setAttempt id attempt).current = shared.current := rfl

def initial : Shared where
  sources := [.deferred none]
  current := 0
  attempts _ := .idle

variable (toJson : String → Option Bytes)

def step (shared : Shared) : Action → Option Shared
  | .replace secret =>
    some { shared with sources := shared.sources ++ [.new secret], current := shared.sources.length }
  | .snapshot id caller =>
    match shared.attempts id with
    | .idle => some (shared.setAttempt id (.holding caller shared.current))
    | _ => none
  | .send id resolution =>
    match shared.attempts id with
    | .holding caller place =>
      shared.sources[place]?.map fun source =>
        { shared.setAttempt id (.sent caller place (provision toJson (source.settle resolution) caller)) with
          sources :=
            if caller.asks then shared.sources.set place (source.resolve resolution) else shared.sources }
    | _ => none

abbrev Runs (start : Shared) (schedule : List Action) (final : Shared) : Prop :=
  exec (step toJson) start schedule = some final

/-! ## What a step does -/

variable {toJson}

def Kept (source source' : Source) : Prop := source' = source ∨ ∃ resolution, source' = source.resolve resolution

/-- What an attempt sent is what its source gives, however it may still be resolved. -/
def Given (toJson : String → Option Bytes) (source : Source) (caller : Caller) (wire : Wire) : Prop :=
  ∀ resolution, wire = provision toJson (source.settle resolution) caller

theorem Given.kept {source source' : Source} {caller : Caller} {wire : Wire} (given : Given toJson source caller wire)
    (kept : Kept source source') : Given toJson source' caller wire := by
  intro resolution
  obtain rfl | ⟨first, rfl⟩ := kept
  · exact given resolution
  · rw [Source.settle_resolve]
    exact given first

def Settled (toJson : String → Option Bytes) (shared : Shared) : Prop :=
  ∀ id caller place wire, shared.attempts id = .sent caller place wire →
    ∃ source, shared.sources[place]? = some source ∧ Given toJson source caller wire

theorem step_sources {shared target : Shared} {action : Action} (taken : step toJson shared action = some target)
    {place : Nat} {source : Source} (found : shared.sources[place]? = some source) :
    ∃ source', target.sources[place]? = some source' ∧ Kept source source' := by
  cases action with
  | replace secret =>
    cases taken
    have inside := (List.getElem?_eq_some_iff.mp found).1
    exact ⟨source, by rw [List.getElem?_append_left inside, found], .inl rfl⟩
  | snapshot id caller =>
    simp only [step] at taken
    split at taken <;> cases taken
    exact ⟨source, found, .inl rfl⟩
  | send id resolution =>
    simp only [step] at taken
    split at taken
    · rename_i caller held holding
      obtain ⟨asked, inPlace, rfl⟩ := Option.map_eq_some_iff.mp taken
      by_cases asks : caller.asks
      · by_cases same : held = place
        · subst same
          obtain rfl := Option.some.inj (found.symm.trans inPlace)
          have inside := (List.getElem?_eq_some_iff.mp found).1
          exact ⟨_, by simp [asks, inside], .inr ⟨resolution, rfl⟩⟩
        · exact ⟨source, by simp [asks, same, found], .inl rfl⟩
      · exact ⟨source, by simp [asks, found], .inl rfl⟩
    · cases taken

theorem step_settled {shared target : Shared} {action : Action} (settled : Settled toJson shared)
    (taken : step toJson shared action = some target) : Settled toJson target := by
  intro id caller place wire sent
  -- An attempt that was sent before has the source that it had, or one that is resolved since.
  have before (old : shared.attempts id = .sent caller place wire) :
      ∃ source, target.sources[place]? = some source ∧ Given toJson source caller wire := by
    obtain ⟨source, found, given⟩ := settled id caller place wire old
    obtain ⟨source', found', kept⟩ := step_sources taken found
    exact ⟨source', found', given.kept kept⟩
  cases action with
  | replace secret =>
    cases taken
    exact before sent
  | snapshot other asking =>
    simp only [step] at taken
    split at taken <;> cases taken
    by_cases own : id = other
    · simp [setAttempt, own] at sent
    · exact before (by simpa [setAttempt, own] using sent)
  | send other resolution =>
    simp only [step] at taken
    split at taken
    · rename_i asking held holding
      obtain ⟨source, found, rfl⟩ := Option.map_eq_some_iff.mp taken
      by_cases own : id = other
      · simp only [setAttempt, own, if_true, Attempt.sent.injEq] at sent
        obtain ⟨rfl, rfl, rfl⟩ := sent
        by_cases asks : asking.asks
        · have inside := (List.getElem?_eq_some_iff.mp found).1
          refine ⟨source.resolve resolution, by simp [asks, inside], fun later => ?_⟩
          rw [Source.settle_resolve]
        · have silent : asking.asks = false := by simpa using asks
          exact ⟨source, by simp [asks, found], fun later => provision_of_not_asks toJson silent _ _⟩
      · exact before (by simpa [setAttempt, own] using sent)
    · cases taken

/-! ## Runs -/

theorem runs_settled {schedule : List Action} {final : Shared} (run : Runs toJson initial schedule final) :
    Settled toJson final :=
  exec_invariant (fun _ _ _ settled taken => step_settled settled taken) (fun _ _ _ _ sent => by cases sent) run

theorem runs_explicit {start final : Shared} {schedule : List Action} {place : Nat} {secret : String}
    (run : Runs toJson start schedule final) (found : start.sources[place]? = some (.explicit secret)) :
    final.sources[place]? = some (.explicit secret) := by
  refine exec_invariant (P := fun shared => shared.sources[place]? = some (.explicit secret)) ?_ found run
  intro shared action target found taken
  obtain ⟨source', found', rfl | ⟨resolution, rfl⟩⟩ := step_sources taken found
  · exact found'
  · exact found'

theorem step_fresh {shared target : Shared} {action : Action} {place : Nat} {id : Nat}
    (kept : ∀ secret, action ≠ .replace secret) (current : shared.current = place)
    (fresh : ∀ source, (shared.attempts id).place? = some source → source = place)
    (taken : step toJson shared action = some target) :
    target.current = place ∧ ∀ source, (target.attempts id).place? = some source → source = place := by
  cases action with
  | replace secret => exact absurd rfl (kept secret)
  | snapshot other caller =>
    simp only [step] at taken
    split at taken <;> cases taken
    refine ⟨current, fun source held => ?_⟩
    by_cases own : id = other
    · simp only [setAttempt, own, if_true, Attempt.place?, Option.some.injEq] at held
      exact held.symm.trans current
    · exact fresh source (by simpa [setAttempt, own] using held)
  | send other resolution =>
    simp only [step] at taken
    split at taken
    · rename_i caller held holding
      obtain ⟨source, -, rfl⟩ := Option.map_eq_some_iff.mp taken
      refine ⟨current, fun source held => ?_⟩
      by_cases own : id = other
      · refine fresh source ?_
        rw [own, holding]
        simpa [setAttempt, own, Attempt.place?] using held
      · exact fresh source (by simpa [setAttempt, own] using held)
    · cases taken

theorem runs_fresh {start final : Shared} {schedule : List Action} {id : Nat}
    (kept : ∀ action ∈ schedule, ∀ secret, action ≠ .replace secret) (idle : start.attempts id = .idle)
    (run : Runs toJson start schedule final) :
    ∀ source, (final.attempts id).place? = some source → source = start.current := by
  have all : final.current = start.current ∧
      ∀ source, (final.attempts id).place? = some source → source = start.current := by
    refine exec_history (P := fun _ shared => shared.current = start.current ∧
      ∀ source, (shared.attempts id).place? = some source → source = start.current) ⟨rfl, ?_⟩ ?_ run
    · rw [idle]
      exact fun source none => by cases none
    · rintro before action shared target reached ⟨after, rfl⟩ ⟨current, fresh⟩ taken
      exact step_fresh (kept action (by simp)) current fresh taken
  exact all.2

/-- All attempts under one source, of typed and of relaxed requests, carry one secret, which is the one that it holds.
After a source is replaced, and until the next one is, every attempt that begins takes the new one, also for a request
that was begun before; a secret given by the caller is then the one that they carry. -/
theorem one_secret_per_source {schedule : List Action} {final : Shared} (run : Runs toJson initial schedule final) :
    (∃ settled : Nat → UserCacheSecret, ∀ id caller place wire, final.attempts id = .sent caller place wire →
      wire = provision toJson (settled place) caller) ∧
    ∀ before secret after middle, schedule = before ++ .replace secret :: after → Runs toJson initial before middle →
      (∀ action ∈ after, ∀ secret, action ≠ .replace secret) →
      ∀ id caller place wire, middle.attempts id = .idle → final.attempts id = .sent caller place wire →
        place = middle.sources.length ∧ (secret ≠ "" → wire = provision toJson (.explicit secret) caller) := by
  have settled := runs_settled run
  refine ⟨⟨fun place => (final.sources[place]?.getD (.deferred none)).settle "", ?_⟩, ?_⟩
  · intro id caller place wire sent
    obtain ⟨source, found, given⟩ := settled id caller place wire sent
    have same : (final.sources[place]?.getD (.deferred none)).settle "" = source.settle "" := by
      rw [found, Option.getD_some]
    exact (given "").trans (by rw [← same])
  · rintro before secret after middle rfl reached kept id caller place wire idle sent
    obtain ⟨middle', reached', rest⟩ := exec_append_some.mp run
    obtain rfl := Option.some.inj (reached.symm.trans reached')
    obtain ⟨target, replaced, rest⟩ := exec_cons_some.mp rest
    cases replaced
    have unbegun : Shared.attempts
        { middle with sources := middle.sources ++ [.new secret], current := middle.sources.length } id = .idle := idle
    -- A request that had not begun takes the source that is current when it does.
    have fresh : place = middle.sources.length := runs_fresh kept unbegun rest place (by rw [sent]; rfl)
    refine ⟨fresh, fun present => ?_⟩
    have there : (middle.sources ++ [Source.new secret])[middle.sources.length]? = some (.explicit secret) := by
      simp [Source.new, present]
    have still := runs_explicit rest there
    obtain ⟨source, found, given⟩ := settled id caller place wire sent
    rw [fresh, still] at found
    cases found
    exact given ""

def sampleTyped : Caller := .typed ⟨"POST", "/v1/chat/completions", some (.bytes [0x7B, 0x7D]), some 2⟩

/-- The second attempt of the typed request, and the relaxed one, begin after the secret was given. -/
def sampleSchedule : List Action :=
  [.snapshot 0 sampleTyped, .send 0 "generated", .replace "s", .snapshot 1 sampleTyped,
    .snapshot 2 (.relaxed (.object [])), .send 2 "generated", .send 1 "generated"]

theorem given_secret_carried :
    let toJson (text : String) := some (writeString text)
    ∃ final, Runs toJson initial sampleSchedule final ∧
      final.attempts 1 = .sent sampleTyped 1 (provision toJson (.explicit "s") sampleTyped) ∧
      final.attempts 2 = .sent (.relaxed (.object [])) 1 (provision toJson (.explicit "s") (.relaxed (.object []))) := by
  intro toJson
  obtain ⟨final, run, ⟨wire, typed⟩, wire', relaxed⟩ : ∃ final, Runs toJson initial sampleSchedule final ∧
      (∃ wire, final.attempts 1 = .sent sampleTyped 1 wire) ∧
      ∃ wire, final.attempts 2 = .sent (.relaxed (.object [])) 1 wire := ⟨_, rfl, ⟨_, rfl⟩, _, rfl⟩
  have carried := (one_secret_per_source run).2 (sampleSchedule.take 2) "s" (sampleSchedule.drop 3) _ rfl rfl
    (by simp [sampleSchedule])
  have first := (carried 1 _ _ _ rfl typed).2 (by decide)
  have second := (carried 2 _ _ _ rfl relaxed).2 (by decide)
  exact ⟨final, run, typed.trans (by rw [first]), relaxed.trans (by rw [second])⟩

end Shared

end Tinfoil.UserCacheSecret
