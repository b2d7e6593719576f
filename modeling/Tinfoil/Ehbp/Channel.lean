import Tinfoil.Attestation.Types

/-! # The EHBP sealing channel

`EhbpChannel` is the shared cell behind every clone of an `EhbpProxy`: the client that seals
requests, the key it is bound to, the last rejected key, the ground truth of the installed
key and the generation that numbers the changes.  The three operations on it are
`setActive`, `clear` and `reject`; each of them is one critical section of the source.

`Trust` is what the channel means: open under one key, or closed, perhaps with a key that
must not come back.  `EhbpChannel.trust_setActive`, `trust_clear` and `trust_reject` say
that the operations implement the three moves of that abstract machine, and
`EhbpChannel.WellFormed` is the invariant under which the four fields have one reading.
-/

namespace Tinfoil.Ehbp

open Tinfoil.Attestation

/-- Errors of the `tinfoil_ehbp` library that `map_ehbp_error` tells apart. -/
inductive LibraryError where
  | keyConfigMismatch (title : String)
  | http (inner : String)
  | other (rendered : String)
  deriving DecidableEq, Repr

def mapEhbpError : LibraryError → Error
  | .keyConfigMismatch title => .ehbpKeyMismatch title
  | .http inner => .http inner
  | .other rendered => .ehbp rendered

/-- The `tinfoil_ehbp` client: it seals every request to the key it was built for. -/
structure Client where
  publicKey : String
  deriving DecidableEq, Repr

/-- What the library does with a hex key: `none` when it is usable. -/
structure Library where
  keyError : String → Option LibraryError

/-- `tinfoil_ehbp::Client::with_public_key_hex_and_http_client`. -/
def Library.withPublicKeyHex (library : Library) (key : String) : Except LibraryError Client :=
  match library.keyError key with
  | none => .ok ⟨key⟩
  | some error => .error error

theorem Library.withPublicKeyHex_key {library : Library} {key : String} {client : Client}
    (built : library.withPublicKeyHex key = .ok client) : client.publicKey = key := by
  unfold withPublicKeyHex at built
  split at built <;> cases built
  rfl

structure RefreshedState where
  hpkePublicKey : String
  groundTruth : Option GroundTruth
  deriving DecidableEq, Repr

/-- `impl From<String> for RefreshedState`. -/
def RefreshedState.ofKey (key : String) : RefreshedState := ⟨key, none⟩

structure EhbpChannel where
  client : Option Client
  publicKey : Option String
  rejectedPublicKey : Option String
  groundTruth : Option GroundTruth
  generation : UInt64
  deriving DecidableEq, Repr

namespace EhbpChannel

def empty : EhbpChannel := ⟨none, none, none, none, 0⟩

def setActive (channel : EhbpChannel) (client : Client) (refreshed : RefreshedState) :
    EhbpChannel where
  client := some client
  publicKey := some refreshed.hpkePublicKey
  rejectedPublicKey := none
  groundTruth := refreshed.groundTruth
  generation := channel.generation + 1

def clear (channel : EhbpChannel) : EhbpChannel where
  client := none
  publicKey := none
  rejectedPublicKey := none
  groundTruth := none
  generation := channel.generation + 1

def reject (channel : EhbpChannel) : EhbpChannel :=
  { channel.clear with rejectedPublicKey := channel.publicKey }

@[simp] theorem setActive_client (channel : EhbpChannel) (client : Client)
    (refreshed : RefreshedState) : (channel.setActive client refreshed).client = some client := rfl

@[simp] theorem setActive_publicKey (channel : EhbpChannel) (client : Client)
    (refreshed : RefreshedState) :
    (channel.setActive client refreshed).publicKey = some refreshed.hpkePublicKey := rfl

@[simp] theorem setActive_generation (channel : EhbpChannel) (client : Client)
    (refreshed : RefreshedState) :
    (channel.setActive client refreshed).generation = channel.generation + 1 := rfl

@[simp] theorem clear_client (channel : EhbpChannel) : channel.clear.client = none := rfl

@[simp] theorem clear_generation (channel : EhbpChannel) :
    channel.clear.generation = channel.generation + 1 := rfl

@[simp] theorem reject_client (channel : EhbpChannel) : channel.reject.client = none := rfl

@[simp] theorem reject_rejectedPublicKey (channel : EhbpChannel) :
    channel.reject.rejectedPublicKey = channel.publicKey := rfl

@[simp] theorem reject_generation (channel : EhbpChannel) :
    channel.reject.generation = channel.generation + 1 := rfl

theorem generation_ne (generation : UInt64) : generation + 1 ≠ generation := by
  intro same
  have zero : generation + 1 = generation + 0 := by rw [same, UInt64.add_zero]
  exact absurd ((UInt64.add_right_inj generation).mp zero) (by decide)

/-! ## One reading of the four fields -/

/-- The client is there exactly when the key is, and is bound to it; a rejected key is
recorded, and a ground truth dropped, only while no client is active. -/
structure WellFormed (channel : EhbpChannel) : Prop where
  bound : channel.publicKey = channel.client.map Client.publicKey
  rejected : channel.client.isSome → channel.rejectedPublicKey = none
  ground : channel.groundTruth.isSome → channel.client.isSome

theorem empty_wellFormed : empty.WellFormed := ⟨rfl, fun _ => rfl, nofun⟩

theorem setActive_wellFormed {channel : EhbpChannel} {client : Client} {refreshed : RefreshedState}
    (bound : client.publicKey = refreshed.hpkePublicKey) :
    (channel.setActive client refreshed).WellFormed :=
  ⟨by simp [bound], fun _ => rfl, fun _ => rfl⟩

theorem clear_wellFormed (channel : EhbpChannel) : channel.clear.WellFormed :=
  ⟨rfl, fun _ => rfl, nofun⟩

theorem reject_wellFormed (channel : EhbpChannel) : channel.reject.WellFormed :=
  ⟨rfl, nofun, nofun⟩

/-! ## The abstract trust state -/

/-- Closed, with the key that was rejected last if that is why; or sealing to one key. -/
inductive Trust where
  | closed (rejected : Option String)
  | sealing (key : String) (groundTruth : Option GroundTruth)
  deriving DecidableEq

def trust (channel : EhbpChannel) : Trust :=
  match channel.client with
  | none => .closed channel.rejectedPublicKey
  | some client => .sealing client.publicKey channel.groundTruth

def Trust.reject : Trust → Trust
  | .closed _ => .closed none
  | .sealing key _ => .closed (some key)

theorem trust_setActive {channel : EhbpChannel} {client : Client} {refreshed : RefreshedState}
    (bound : client.publicKey = refreshed.hpkePublicKey) :
    (channel.setActive client refreshed).trust =
      .sealing refreshed.hpkePublicKey refreshed.groundTruth := by
  simp [trust, setActive, bound]

theorem trust_clear (channel : EhbpChannel) : channel.clear.trust = .closed none := rfl

theorem trust_reject {channel : EhbpChannel} (wellFormed : channel.WellFormed) :
    channel.reject.trust = channel.trust.reject := by
  have bound := wellFormed.bound
  cases active : channel.client with
  | none => simp_all [trust, Trust.reject]
  | some client => simp_all [trust, Trust.reject]

end EhbpChannel

end Tinfoil.Ehbp
