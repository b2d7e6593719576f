import Tinfoil.Client.Attest
import Tinfoil.Client.Published

/-! # Finding a router

A default client is that of the first router that verifies, or else that of the default router.
`default_client_exact` says which one that is, and that its enclave runs the code.
-/

namespace Tinfoil.Client

open Attestation (AttestationError)
open Transition

def routerUrl : String := "https://atc.tinfoil.sh/routers?platform=snp"

def defaultRouter : String := "inference.tinfoil.sh"

def defaultRepo : String := "tinfoilsh/confidential-model-router"

/-- An answer of the discovery service, after the retries. -/
structure RoutersResponse where
  success : Bool
  status : String
  routers : Except String (List String)

def fetchRouters (fetchWithRetry : (url : String) → Except String RoutersResponse) : Except Error (List String) :=
  match fetchWithRetry routerUrl with
  | .error error => .error (.network ("Failed to fetch routers: " ++ error))
  | .ok response =>
    if ¬ response.success then .error (.network ("Router discovery failed: HTTP " ++ response.status))
    else
      match response.routers with
      | .error error => .error (.network ("Failed to parse routers: " ++ error))
      | .ok routers => .ok routers

/-- What one attempt to verify a router meets. -/
structure Attempt where
  env : Environment
  outside : Outside
  verifiedAt : String

/-- A new client without a proxy, after its `verify`. -/
def verifyNew (attempt : Attempt) (host repo : String) : Checked AttestationError SecureClient := do
  let attested ← (verifyAttestation attempt.outside host repo none).1
  let pinned ← sdk (createHostBoundPinnedClient attempt.env attested.verification.tlsPublicKeyFp)
  let groundTruth := buildGroundTruth attempt.env repo attested attempt.verifiedAt
  return { SecureClient.new repo none with pinnedClient := some pinned, groundTruth := some groundTruth }

/-- `world` is met attempt after attempt. -/
def tryRouters (world : Nat → Attempt) : Nat → List String → Checked AttestationError (String × SecureClient)
  | next, [] => do
    let client ← verifyNew (world next) defaultRouter defaultRepo
    return (defaultRouter, client)
  | next, router :: rest =>
    match verifyNew (world next) router defaultRepo with
    | .ok client => .ok (router, client)
    -- Only errors are caught.
    | .error .panic => .error .panic
    | .error (.error _) => tryRouters world (next + 1) rest

/-- With the host of the client. -/
def newDefaultClient (fetchWithRetry : (url : String) → Except String RoutersResponse) (world : Nat → Attempt) :
    Checked AttestationError (String × SecureClient) :=
  match fetchRouters fetchWithRetry with
  | .ok routers => tryRouters world 0 routers
  | .error _ => tryRouters world 0 []

/-! ## One router -/

theorem verifyNew_ok {attempt : Attempt} {host repo : String} {client : SecureClient} :
    verifyNew attempt host repo = .ok client ↔
      ∃ attested, Attests attempt.outside host repo none attested ∧
        createHostBoundPinnedClient attempt.env attested.verification.tlsPublicKeyFp =
          .ok ⟨attested.verification.tlsPublicKeyFp⟩ ∧
        client = { SecureClient.new repo none with
          pinnedClient := some ⟨attested.verification.tlsPublicKeyFp⟩
          groundTruth := some (buildGroundTruth attempt.env repo attested attempt.verifiedAt) } := by
  simp only [verifyNew, bind_ok, verifyAttestation_ok, sdk_ok, pure, Except.pure, Except.ok.injEq]
  constructor
  · rintro ⟨attested, attests, pinned, built, rfl⟩
    obtain ⟨fingerprint⟩ := pinned
    obtain rfl : fingerprint = attested.verification.tlsPublicKeyFp := createHostBoundPinnedClient_ok built
    exact ⟨attested, attests, built, rfl⟩
  · rintro ⟨attested, attests, built, rfl⟩
    exact ⟨attested, attests, _, built, rfl⟩

theorem verifyNew_runs {attempt : Attempt} {host repo : String} {client : SecureClient}
    (verified : verifyNew attempt host repo = .ok client) :
    ∃ attested final, Attests attempt.outside host repo none attested ∧
      Runs attempt.env (.unverified repo none)
        [.start, .clear, .answer (.ok attested) attempt.verifiedAt, .assign] final ∧
      final.secure = client := by
  obtain ⟨attested, attests, built, rfl⟩ := verifyNew_ok.mp verified
  -- Nothing is there that the steps before the answer could clear.
  have answered : ClientState.attested attempt.env { ClientState.unverified repo none with verify := .attesting }
      attempt.verifiedAt (.ok attested) =
        { ClientState.unverified repo none with
          verify := .installed ⟨attested.verification.tlsPublicKeyFp⟩
            (buildGroundTruth attempt.env repo attested attempt.verifiedAt) } := by
    simp only [ClientState.attested, built]
    rfl
  refine ⟨attested, ClientState.assigned (ClientState.unverified repo none) ⟨attested.verification.tlsPublicKeyFp⟩
    (buildGroundTruth attempt.env repo attested attempt.verifiedAt), attests, ?_, rfl⟩
  have started : exec (step attempt.env) (ClientState.unverified repo none)
      [.start, .clear, .answer (.ok attested) attempt.verifiedAt, .assign] =
        exec (step attempt.env) (ClientState.attested attempt.env
          { ClientState.unverified repo none with verify := .attesting } attempt.verifiedAt (.ok attested)) [.assign] := rfl
  rw [Runs, started, answered]
  rfl

/-! ## All routers -/

def candidates (fetchWithRetry : (url : String) → Except String RoutersResponse) : List String :=
  (fetchRouters fetchWithRetry).toOption.getD [] ++ [defaultRouter]

/-- None of the routers verifies, each with an error of its own. -/
def Failed (world : Nat → Attempt) (next : Nat) (routers : List String) : Prop :=
  ∀ index router, routers[index]? = some router →
    ∃ error, verifyNew (world (next + index)) router defaultRepo = .error (.error error)

theorem failed_cons {world : Nat → Attempt} {next : Nat} {router : String} {rest : List String} :
    Failed world next (router :: rest) ↔
      (∃ error, verifyNew (world next) router defaultRepo = .error (.error error)) ∧ Failed world (next + 1) rest := by
  constructor
  · intro failed
    refine ⟨failed 0 router rfl, fun index router' listed => ?_⟩
    rw [Nat.add_assoc, Nat.add_comm 1]
    exact failed (index + 1) router' listed
  · rintro ⟨first, later⟩ index router' listed
    cases index with
    | zero =>
      cases listed
      exact first
    | succ index =>
      have failed := later index router' listed
      rwa [Nat.add_assoc, Nat.add_comm 1] at failed

/-- The host is the first of the routers that verifies, and this is its client. -/
def FirstVerified (world : Nat → Attempt) (next : Nat) (routers : List String) (host : String) (client : SecureClient) :
    Prop :=
  ∃ before after, routers = before ++ host :: after ∧ Failed world next before ∧
    verifyNew (world (next + before.length)) host defaultRepo = .ok client

theorem firstVerified_cons {world : Nat → Attempt} {next : Nat} {router host : String} {rest : List String}
    {client : SecureClient} :
    FirstVerified world next (router :: rest) host client ↔
      (router = host ∧ verifyNew (world next) host defaultRepo = .ok client) ∨
        ((∃ error, verifyNew (world next) router defaultRepo = .error (.error error)) ∧
          FirstVerified world (next + 1) rest host client) := by
  constructor
  · rintro ⟨before, after, listed, failed, verified⟩
    cases before with
    | nil => exact .inl ⟨(List.cons.inj listed).1, verified⟩
    | cons first before =>
      obtain ⟨rfl, rfl⟩ := List.cons.inj listed
      obtain ⟨error, failed⟩ := failed_cons.mp failed
      rw [List.length_cons, Nat.add_comm before.length, ← Nat.add_assoc] at verified
      exact .inr ⟨error, before, after, rfl, failed, verified⟩
  · rintro (⟨rfl, verified⟩ | ⟨error, before, after, rfl, failed, verified⟩)
    · exact ⟨[], rest, rfl, fun _ _ none => by simp at none, verified⟩
    · refine ⟨router :: before, after, rfl, failed_cons.mpr ⟨error, failed⟩, ?_⟩
      rw [List.length_cons, Nat.add_comm before.length, ← Nat.add_assoc]
      exact verified

theorem not_firstVerified_nil {world : Nat → Attempt} {next : Nat} {host : String} {client : SecureClient} :
    ¬ FirstVerified world next [] host client := by
  rintro ⟨before, after, listed, -⟩
  cases before <;> cases listed

theorem tryRouters_ok {world : Nat → Attempt} {next : Nat} {routers : List String} {host : String}
    {client : SecureClient} :
    tryRouters world next routers = .ok (host, client) ↔
      FirstVerified world next (routers ++ [defaultRouter]) host client := by
  induction routers generalizing next with
  | nil =>
    simp only [tryRouters, bind_ok, pure, Except.pure, Except.ok.injEq, Prod.mk.injEq, List.nil_append,
      firstVerified_cons, not_firstVerified_nil, and_false, or_false]
    constructor
    · rintro ⟨_, verified, rfl, rfl⟩
      exact ⟨rfl, verified⟩
    · rintro ⟨rfl, verified⟩
      exact ⟨_, verified, rfl, rfl⟩
  | cons router rest ih =>
    rw [tryRouters, List.cons_append, firstVerified_cons, ← ih]
    cases tried : verifyNew (world next) router defaultRepo with
    | ok found =>
      simp only [Except.ok.injEq, Prod.mk.injEq, reduceCtorEq, exists_false, false_and, or_false]
      constructor
      · rintro ⟨rfl, rfl⟩
        exact ⟨rfl, tried⟩
      · rintro ⟨rfl, verified⟩
        exact ⟨rfl, Except.ok.inj (tried.symm.trans verified)⟩
    | error failure =>
      have other : ¬ (router = host ∧ verifyNew (world next) host defaultRepo = .ok client) := by
        rintro ⟨rfl, verified⟩
        cases tried.symm.trans verified
      -- An error leads to the next router, a panic ends the search.
      cases failure with
      | panic => simp [other]
      | error error => simp [other]

theorem tryRouters_error {world : Nat → Attempt} {next : Nat} {routers : List String} {error : AttestationError} :
    tryRouters world next routers = .error (.error error) ↔
      Failed world next routers ∧
        verifyNew (world (next + routers.length)) defaultRouter defaultRepo = .error (.error error) := by
  induction routers generalizing next with
  | nil =>
    have none : Failed world next [] := fun _ _ none => by simp at none
    simp only [tryRouters, none, true_and, List.length_nil, Nat.add_zero]
    cases verifyNew (world next) defaultRouter defaultRepo <;> simp [bind, Except.bind, pure, Except.pure]
  | cons router rest ih =>
    rw [tryRouters, failed_cons, List.length_cons, Nat.add_comm rest.length, ← Nat.add_assoc]
    cases verifyNew (world next) router defaultRepo with
    | ok client => simp
    | error failure =>
      cases failure with
      | panic => simp
      | error error => simp [ih]

/-- A default client is that of the first of the discovered routers that verifies, or of the default router if none
does; there is none exactly if they all fail.  Its host ran the code of the latest release, and the client is verified
and pinned to the key of that enclave. -/
theorem default_client_exact (fetchWithRetry : (url : String) → Except String RoutersResponse) (world : Nat → Attempt) :
    (∀ host client, newDefaultClient fetchWithRetry world = .ok (host, client) ↔
      FirstVerified world 0 (candidates fetchWithRetry) host client) ∧
    (∀ error, newDefaultClient fetchWithRetry world = .error (.error error) ↔
      Failed world 0 (candidates fetchWithRetry).dropLast ∧
        verifyNew (world (candidates fetchWithRetry).dropLast.length) defaultRouter defaultRepo =
          .error (.error error)) ∧
    ∀ host client, newDefaultClient fetchWithRetry world = .ok (host, client) →
      client.isVerified = true ∧ ∃ attempt attested, Attests (world attempt).outside host defaultRepo none attested ∧
        client.pinnedClient = some ⟨attested.verification.tlsPublicKeyFp⟩ ∧
        client.currentGroundTruth =
          some (buildGroundTruth (world attempt).env defaultRepo attested (world attempt).verifiedAt) := by
  have routers : newDefaultClient fetchWithRetry world =
      tryRouters world 0 ((fetchRouters fetchWithRetry).toOption.getD []) := by
    rw [newDefaultClient]
    cases fetchRouters fetchWithRetry <;> rfl
  have exact (host : String) (client : SecureClient) : newDefaultClient fetchWithRetry world = .ok (host, client) ↔
      FirstVerified world 0 (candidates fetchWithRetry) host client := by
    rw [routers, tryRouters_ok, candidates]
  refine ⟨exact, fun error => ?_, fun host client made => ?_⟩
  · rw [routers, tryRouters_error, candidates, List.dropLast_concat, Nat.zero_add]
  · obtain ⟨before, -, -, -, verified⟩ := (exact host client).mp made
    obtain ⟨attested, attests, -, rfl⟩ := verifyNew_ok.mp verified
    exact ⟨rfl, _, attested, attests, rfl, rfl⟩

end Tinfoil.Client
