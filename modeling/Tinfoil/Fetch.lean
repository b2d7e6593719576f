import Mathlib.Algebra.GroupWithZero.Nat
import Tinfoil.Basic
import Tinfoil.Retry
import Tinfoil.Text

/-! # Fetching with retries

Every request that is not pinned goes through `fetch_with_retry`.  `fetch_with_retry_exact` says which answer it gives,
and how long it waits.
-/

namespace Tinfoil.Fetch

/-- A response, as far as the retries read it. -/
structure Response (Rest : Type) where
  status : UInt16
  /-- The first `Retry-After` header. -/
  retryAfter : Option Bytes
  rest : Rest

def maxRetries : Nat := 2

/-- In milliseconds, as every delay. -/
def initialBackoffMs : UInt64 := 500

def maxRetryAfterMs : UInt64 := 10000

/-- `HeaderValue::to_str`: visible ASCII, spaces and tabs. -/
def headerToStr (value : Bytes) : Option (List Char) :=
  if value.all fun octet => octet = 9 || (32 ≤ octet && octet < 127) then
    some (value.map fun octet => Char.ofNat octet.toNat)
  else none

def saturatingMul (left right : UInt64) : UInt64 :=
  if left.toNat * right.toNat < UInt64.size then left * right else .ofNat (UInt64.size - 1)

section

variable {Rest : Type}

def parseRetryAfter (response : Response Rest) : Option UInt64 := do
  let header ← response.retryAfter
  let value ← headerToStr header
  let seconds ← parseU64 (String.ofList (Text.trim value))
  let millis := saturatingMul seconds 1000
  return if millis ≤ maxRetryAfterMs then millis else maxRetryAfterMs

/-- A server error, or `429 Too Many Requests`. -/
def isRetried (response : Response Rest) : Bool :=
  (500 ≤ response.status && response.status < 600) || response.status = 429

def backoff (attempt : Nat) : UInt64 := initialBackoffMs * 2 ^ attempt

/-- The wait after an attempt, which the last one has none of. -/
def pause {α : Type} (attempt : Nat) (retryAfter : Option UInt64) (after : α × List UInt64) : α × List UInt64 :=
  if attempt < maxRetries then (after.1, retryAfter.getD (backoff attempt) :: after.2) else after

/-- What the loop returns, and the delays between the attempts. -/
def attempts (send : Nat → Except String (Response Rest)) :
    List Nat → Option (Response Rest) → Option String → Checked String (Response Rest) × List UInt64
  | [], some lastResponse, _ => (.ok lastResponse, [])
  | [], none, some lastErr => (.error (.error lastErr), [])
  | [], none, none => (.error .panic, [])
  | attempt :: rest, _, _ =>
    match send attempt with
    | .ok response =>
      if isRetried response then
        pause attempt (parseRetryAfter response) (attempts send rest (some response) none)
      else (.ok response, [])
    | .error error => pause attempt none (attempts send rest none (some error))

/-- `send` answers the attempts. -/
def fetchWithRetry (build : Except String Unit) (send : Nat → Except String (Response Rest)) :
    Checked String (Response Rest) × List UInt64 :=
  match build with
  | .error error => (.error (.error error), [])
  | .ok () => attempts send (List.range (maxRetries + 1)) none none

/-! ## The attempt that counts -/

/-- Network errors are retried too. -/
def again : Except String (Response Rest) → Bool
  | .ok response => isRetried response
  | .error _ => true

def delay (send : Nat → Except String (Response Rest)) (attempt : Nat) : UInt64 :=
  (match send attempt with
    | .ok response => parseRetryAfter response
    | .error _ => none).getD (backoff attempt)

theorem attempts_cons (send : Nat → Except String (Response Rest)) (attempt : Nat) (rest : List Nat)
    (lastResponse : Option (Response Rest)) (lastErr : Option String) :
    attempts send (attempt :: rest) lastResponse lastErr =
      if again (send attempt) then
        pause attempt ((send attempt).toOption.bind parseRetryAfter)
          (attempts send rest (send attempt).toOption
            (match send attempt with | .ok _ => none | .error error => some error))
      else (liftM (send attempt), []) := by
  cases answer : send attempt with
  | ok response =>
    simp only [attempts, answer, again]
    rfl
  | error error =>
    simp only [attempts, answer, again, if_true]
    rfl

theorem delay_eq (send : Nat → Except String (Response Rest)) (attempt : Nat) :
    delay send attempt = ((send attempt).toOption.bind parseRetryAfter).getD (backoff attempt) := by
  cases answer : send attempt <;> simp [delay, answer, Except.toOption]

theorem attempts_eq (send : Nat → Except String (Response Rest)) {more attempt : Nat}
    (allowed : attempt + more = maxRetries) (lastResponse : Option (Response Rest)) (lastErr : Option String) :
    attempts send (List.range' attempt (more + 1)) lastResponse lastErr =
      (liftM (send (Retry.last again send more attempt)),
        (List.range' attempt (Retry.last again send more attempt - attempt)).map (delay send)) := by
  induction more generalizing attempt lastResponse lastErr with
  | zero =>
    have noPause : ¬ attempt < maxRetries := by omega
    rw [List.range'_succ, attempts_cons]
    simp only [Retry.last, Nat.sub_self, List.range'_zero, List.map_nil, pause, if_neg noPause]
    -- The last answer is returned in either case.
    cases send attempt <;> simp [attempts, Except.toOption, liftM, monadLift, MonadLift.monadLift, Checked.fail]
  | succ more ih =>
    rw [List.range'_succ, attempts_cons, Retry.last]
    split
    · have later := (Retry.last_bounds again send more (attempt + 1)).1
      have count : Retry.last again send more (attempt + 1) - attempt =
          Retry.last again send more (attempt + 1) - (attempt + 1) + 1 := by omega
      rw [ih (by omega), pause, if_pos (by omega), count, List.range'_succ, List.map_cons, delay_eq]
    · rw [Nat.sub_self]
      rfl

theorem delay_le {send : Nat → Except String (Response Rest)} {attempt : Nat} (early : attempt < maxRetries) :
    (delay send attempt).toNat ≤ 10000 := by
  have asked {response : Response Rest} {millis : UInt64} (header : parseRetryAfter response = some millis) :
      millis.toNat ≤ 10000 := by
    simp only [parseRetryAfter, bind, Option.bind_eq_some_iff, pure, Option.some.injEq] at header
    obtain ⟨_, -, _, -, seconds, -, rfl⟩ := header
    split
    · exact UInt64.le_iff_toNat_le.mp ‹_›
    · decide
  have small : (backoff attempt).toNat ≤ 10000 := by
    have all : ∀ attempt : Fin maxRetries, (backoff attempt).toNat ≤ 10000 := by decide
    exact all ⟨attempt, early⟩
  rw [delay_eq]
  cases found : (send attempt).toOption.bind parseRetryAfter with
  | none => exact small
  | some millis =>
    obtain ⟨response, -, header⟩ := Option.bind_eq_some_iff.mp found
    exact asked header

/-- Without a client the call fails at once.  With one it sends at most three requests and never falls through without
an answer to return.  It gives the first answer that is not to be retried, or else the third; before every further
request it waits what the server asks for or the backoff, and all in all at most twenty seconds. -/
theorem fetch_with_retry_exact (build : Except String Unit) (send : Nat → Except String (Response Rest)) :
    (∀ error, build = .error error → fetchWithRetry build send = (.error (.error error), [])) ∧
    (build = .ok () → ∃ attempt, attempt ≤ maxRetries ∧
      fetchWithRetry build send = (liftM (send attempt), (List.range attempt).map (delay send)) ∧
      (∀ earlier, earlier < attempt → again (send earlier) = true) ∧
      (again (send attempt) = true → attempt = maxRetries) ∧
      (((List.range attempt).map (delay send)).map UInt64.toNat).sum ≤ 20000 ∧
      ((∀ earlier response, send earlier = .ok response → response.retryAfter = none) →
        (List.range attempt).map (delay send) = [500, 1000].take attempt)) := by
  constructor
  · rintro error rfl
    rfl
  rintro rfl
  have bounds := Retry.last_bounds again send maxRetries 0
  have spec := Retry.last_spec again send maxRetries 0
  have result := attempts_eq send (Nat.zero_add maxRetries) none none
  -- From here on only the number of the last request matters.
  generalize Retry.last again send maxRetries 0 = attempt at bounds spec result
  rw [Nat.zero_add] at bounds spec
  refine ⟨attempt, bounds.2, ?_, fun earlier => spec.1 earlier (Nat.zero_le earlier), spec.2, ?_, ?_⟩
  · rw [Nat.sub_zero, ← List.range_eq_range', ← List.range_eq_range'] at result
    exact result
  · have first : (delay send 0).toNat ≤ 10000 := delay_le (by decide)
    have second : (delay send 1).toNat ≤ 10000 := delay_le (by decide)
    have few : attempt ≤ 2 := bounds.2
    obtain rfl | rfl | rfl : attempt = 0 ∨ attempt = 1 ∨ attempt = 2 := by omega
    · simp
    · simp [List.range_succ]
      omega
    · simp [List.range_succ]
      omega
  · intro silent
    have backoffs : (List.range attempt).map (delay send) = (List.range attempt).map backoff := by
      refine List.map_congr_left fun earlier _ => ?_
      rw [delay_eq]
      cases answer : send earlier with
      | ok response => simp [Except.toOption, parseRetryAfter, silent earlier response answer]
      | error error => rfl
    -- At most two backoffs are ever waited.
    have all : ∀ attempt : Fin 3, (List.range attempt).map backoff = [500, 1000].take attempt := by decide
    rw [backoffs]
    exact all ⟨attempt, Nat.lt_succ_of_le bounds.2⟩

end

end Tinfoil.Fetch
