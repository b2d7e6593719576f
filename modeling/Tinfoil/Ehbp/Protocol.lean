import Tinfoil.Transition
import Tinfoil.Ehbp.Channel

/-! # Clones of one EHBP proxy

Every clone of an `EhbpProxy` shares one channel cell, one refresher cell and one refresh
lock.  `ProxyState` is that shared state with the program counter of every request that was
ever started on a clone; an `Action` is one critical section, one completed await or one
dropped future, and `step` says what it does.  Requests are numbered: a number is one call of
`send_replayable` or of `EhbpTransport::call`, and it is never started twice.

A request goes through these points.  `send_replayable` reads the generation and then builds;
`EhbpTransport::call` builds and then reads it.

    idle → built → ready        EhbpTransport::call
    idle → generationRead → ready        send_replayable
    ready → waiting → mismatched → locked → rejected → refreshing → committing → retrying
                                  locked → retrying        (stale generation)
    retrying → rebuilt → retried → finished
-/

namespace Tinfoil.Ehbp

open Tinfoil.Attestation

/-- The answer to one sealed attempt. -/
inductive Response where
  | success
  | keyMismatch (title : String)
  | failure (error : Error)
  deriving DecidableEq

/-- How a request ended; `cancelled` is a future dropped at an await. -/
inductive Outcome where
  | ok
  | error (error : Error)
  | cancelled
  deriving DecidableEq

/-- Where a request stands, with its locals: `seen` is the generation it reports to
`refresh_after_mismatch`, `sealed` the client its first attempt used, `reject` the generation
its own reject installed. -/
inductive Request where
  | idle
  | built
  | generationRead (seen : UInt64)
  | ready (seen : UInt64)
  | waiting (seen : UInt64) (sealed : Client)
  | mismatched (seen : UInt64) (sealed : Client)
  | locked (seen : UInt64) (sealed : Client)
  | rejected (seen : UInt64) (sealed : Client) (reject : UInt64)
  | refreshing (seen : UInt64) (sealed : Client) (reject : UInt64)
  | committing (seen : UInt64) (sealed : Client) (reject : UInt64) (fresh : Client)
      (refreshed : RefreshedState)
  | retrying (seen : UInt64) (sealed : Client)
  | rebuilt (seen : UInt64) (sealed : Client)
  | retried (seen : UInt64) (sealed retry : Client)
  | finished (outcome : Outcome)
  deriving DecidableEq

/-- Who holds the refresh lock: a request inside `refresh_after_mismatch`, or
`SecureClient::verify` through `lock_refresh`. -/
inductive LockHolder where
  | request (id : Nat)
  | verify
  deriving DecidableEq

structure ProxyState where
  channel : EhbpChannel
  /-- A refresher has been set. -/
  refresher : Bool
  refreshLock : Option LockHolder
  request : Nat → Request

inductive Action where
  | rekey (key : String)
  | installVerifiedState (key : String) (groundTruth : GroundTruth)
  | revoke
  | setRefresher
  | lockRefresh
  | unlockRefresh
  | build (id : Nat)
  | readGeneration (id : Nat)
  | send (id : Nat)
  | respond (id : Nat) (response : Response)
  | lock (id : Nat)
  | reject (id : Nat)
  | callRefresher (id : Nat)
  | refresherReturns (id : Nat) (result : Except Error RefreshedState)
  | commit (id : Nat)
  | rebuild (id : Nat)
  | sendRetry (id : Nat)
  | respondRetry (id : Nat) (response : Response)
  | fail (id : Nat) (error : Error)
  | cancel (id : Nat)

namespace ProxyState

def setRequest (state : ProxyState) (id : Nat) (request : Request) : ProxyState :=
  { state with request := Function.update state.request id request }

/-- Leave `refresh_after_mismatch`: the guard is dropped. -/
def release (state : ProxyState) (id : Nat) (request : Request) : ProxyState :=
  { state.setRequest id request with refreshLock := none }

end ProxyState

open ProxyState

def Response.outcome : Response → Outcome
  | .success => .ok
  | .keyMismatch title => .error (.ehbpKeyMismatch title)
  | .failure error => .error error

def revokedError : Error :=
  .ehbp "EHBP transport has been revoked; re-run verify() before sending requests"

def noRefresherError : Error :=
  .ehbpKeyMismatch "EHBP key rotated; re-run verify() before retrying the request"

def rejectedKeyError : Error :=
  .ehbpKeyMismatch "attestation returned the previously rejected HPKE key"

/-- `install_state`: the channel changes only when the library accepts the key. -/
def installState (library : Library) (state : ProxyState) (refreshed : RefreshedState) :
    ProxyState :=
  match library.withPublicKeyHex refreshed.hpkePublicKey with
  | .error _ => state
  | .ok client => { state with channel := state.channel.setActive client refreshed }

/-- `reject_if_generation` inside `refresh_after_mismatch`.  A stale report returns `Ok(())`. -/
def rejectIfGeneration (state : ProxyState) (id : Nat) (seen : UInt64) (sealed : Client) :
    ProxyState :=
  if state.channel.generation ≠ seen then
    state.release id (.retrying seen sealed)
  else
    { state.setRequest id (.rejected seen sealed state.channel.reject.generation) with
      channel := state.channel.reject }

/-- The refresher's answer, and the client built from it; every `?` here drops the guard. -/
def refreshedWith (library : Library) (state : ProxyState) (id : Nat) (seen : UInt64)
    (sealed : Client) (reject : UInt64) : Except Error RefreshedState → ProxyState
  | .error error => state.release id (.finished (.error error))
  | .ok refreshed =>
    match library.withPublicKeyHex refreshed.hpkePublicKey with
    | .error error => state.release id (.finished (.error (mapEhbpError error)))
    | .ok fresh => state.setRequest id (.committing seen sealed reject fresh refreshed)

/-- The last critical section of `refresh_after_mismatch`. -/
def commitRefresh (state : ProxyState) (id : Nat) (seen : UInt64) (sealed : Client)
    (reject : UInt64) (fresh : Client) (refreshed : RefreshedState) : ProxyState :=
  if state.channel.generation ≠ reject then
    state.release id (.retrying seen sealed)
  else if state.channel.rejectedPublicKey = some refreshed.hpkePublicKey then
    { state.release id (.finished (.error rejectedKeyError)) with channel := state.channel.clear }
  else
    { state.release id (.retrying seen sealed) with
      channel := state.channel.setActive fresh refreshed }

/-- Dropping the future of a request.  It holds the refresh lock exactly while it awaits the
refresher. -/
def cancelRequest (state : ProxyState) (id : Nat) : Option ProxyState :=
  match state.request id with
  | .waiting .. | .mismatched .. | .retrying .. | .retried .. =>
    some (state.setRequest id (.finished .cancelled))
  | .refreshing .. => some (state.release id (.finished .cancelled))
  | _ => none

/-- Errors that end a request outside the refresh: building it, or the checks of `send` before
it takes the channel. -/
def failRequest (state : ProxyState) (id : Nat) (error : Error) : Option ProxyState :=
  match state.request id with
  | .idle | .generationRead .. | .ready .. | .retrying .. | .rebuilt .. =>
    some (state.setRequest id (.finished (.error error)))
  | _ => none

def step (library : Library) (state : ProxyState) : Action → Option ProxyState
  | .rekey key => some (installState library state (.ofKey key))
  | .installVerifiedState key groundTruth => some (installState library state ⟨key, some groundTruth⟩)
  | .revoke => some { state with channel := state.channel.clear }
  | .setRefresher => some { state with refresher := true }
  | .lockRefresh =>
    match state.refreshLock with
    | none => some { state with refreshLock := some .verify }
    | some _ => none
  | .unlockRefresh =>
    match state.refreshLock with
    | some .verify => some { state with refreshLock := none }
    | _ => none
  | .build id =>
    match state.request id with
    | .idle => some (state.setRequest id .built)
    | .generationRead seen => some (state.setRequest id (.ready seen))
    | _ => none
  | .readGeneration id =>
    match state.request id with
    | .idle => some (state.setRequest id (.generationRead state.channel.generation))
    | .built => some (state.setRequest id (.ready state.channel.generation))
    | _ => none
  | .send id =>
    -- The client is taken from the channel here, and kept for the attempt.
    match state.request id with
    | .ready seen =>
      match state.channel.client with
      | none => some (state.setRequest id (.finished (.error revokedError)))
      | some client => some (state.setRequest id (.waiting seen client))
    | _ => none
  | .respond id response =>
    match state.request id with
    | .waiting seen sealed =>
      match response with
      | .keyMismatch _ => some (state.setRequest id (.mismatched seen sealed))
      | .success | .failure _ => some (state.setRequest id (.finished response.outcome))
    | _ => none
  | .lock id =>
    -- Only a free lock is taken: a request waits for the one before it.
    match state.request id, state.refreshLock with
    | .mismatched seen sealed, none =>
      some { state.setRequest id (.locked seen sealed) with refreshLock := some (.request id) }
    | _, _ => none
  | .reject id =>
    match state.request id with
    | .locked seen sealed => some (rejectIfGeneration state id seen sealed)
    | _ => none
  | .callRefresher id =>
    match state.request id with
    | .rejected seen sealed reject =>
      if state.refresher then some (state.setRequest id (.refreshing seen sealed reject))
      else some (state.release id (.finished (.error noRefresherError)))
    | _ => none
  | .refresherReturns id result =>
    match state.request id with
    | .refreshing seen sealed reject =>
      some (refreshedWith library state id seen sealed reject result)
    | _ => none
  | .commit id =>
    match state.request id with
    | .committing seen sealed reject fresh refreshed =>
      some (commitRefresh state id seen sealed reject fresh refreshed)
    | _ => none
  | .rebuild id =>
    match state.request id with
    | .retrying seen sealed => some (state.setRequest id (.rebuilt seen sealed))
    | _ => none
  | .sendRetry id =>
    -- The retry takes the client that is active by now, whatever the refresh brought.
    match state.request id with
    | .rebuilt seen sealed =>
      match state.channel.client with
      | none => some (state.setRequest id (.finished (.error revokedError)))
      | some client => some (state.setRequest id (.retried seen sealed client))
    | _ => none
  | .respondRetry id response =>
    -- A second mismatch is an answer like any other.
    match state.request id with
    | .retried .. => some (state.setRequest id (.finished response.outcome))
    | _ => none
  | .fail id error => failRequest state id error
  | .cancel id => cancelRequest state id

/-- `EhbpProxy::new` on a usable proxy URL: an empty channel, rekeyed. -/
def EhbpProxy.new (library : Library) (key : String) : Except Error ProxyState :=
  match library.withPublicKeyHex key with
  | .error error => .error (mapEhbpError error)
  | .ok client => .ok
    { channel := EhbpChannel.empty.setActive client (.ofKey key)
      refresher := false
      refreshLock := none
      request := fun _ => .idle }

end Tinfoil.Ehbp
