import Tinfoil.Ehbp.TrustOrdering

/-! # The ground truth next to the key

A channel and a refresh under way carry a ground truth together with the key it was attested
for.  As long as everything that comes into the proxy from outside names its own key, every
state of the proxy does (`step_published`).
-/

namespace Tinfoil.Ehbp

open Tinfoil.Attestation Transition

variable {library : Library}

/-- The ground truth is that of the key it comes with. -/
def RefreshedState.Named (refreshed : RefreshedState) : Prop :=
  ∀ groundTruth, refreshed.groundTruth = some groundTruth →
    groundTruth.hpkePublicKey = some refreshed.hpkePublicKey

def Action.brought? : Action → Option RefreshedState
  | .refresherReturns _ (.ok refreshed) => some refreshed
  | action => action.install?

/-- The channel keeps its one reading, and every ground truth in the proxy is that of the key
it is stored with. -/
structure ProxyState.Published (state : ProxyState) : Prop where
  bound : state.Bound
  named : ∀ groundTruth, state.channel.groundTruth = some groundTruth →
    groundTruth.hpkePublicKey = state.channel.publicKey
  pending : ∀ id seen sealed reject fresh refreshed,
    state.request id = .committing seen sealed reject fresh refreshed → refreshed.Named

theorem new_published {key : String} {proxy : ProxyState}
    (built : EhbpProxy.new library key = .ok proxy) : proxy.Published := by
  have fresh := EhbpProxy.new_fresh built
  refine ⟨⟨fresh.channel, ?_⟩, ?_, ?_⟩
  · intro id seen sealed reject client refreshed pending
    rw [fresh.idle id] at pending
    cases pending
  · intro groundTruth shown
    unfold EhbpProxy.new at built
    split at built <;> cases built
    cases shown
  · intro id seen sealed reject client refreshed pending
    rw [fresh.idle id] at pending
    cases pending

theorem step_published {state target : ProxyState} {action : Action} (published : state.Published)
    (outside : ∀ refreshed, action.brought? = some refreshed → refreshed.Named)
    (taken : step library state action = some target) : target.Published := by
  refine ⟨step_bound published.bound taken, ?_, ?_⟩
  · intro groundTruth shown
    rcases step_channel taken with same | change
    · rw [same] at shown ⊢
      exact published.named groundTruth shown
    · cases change with
      | install asked _ after =>
        rw [after] at shown ⊢
        apply outside _ _ groundTruth shown
        cases action <;> first | exact asked | cases asked
      | revoke after | reject _ _ after | refuse _ _ _ after =>
        -- A closed channel shows nothing.
        rw [after] at shown
        cases shown
      | commit before _ _ after =>
        rw [after] at shown ⊢
        exact published.pending _ _ _ _ _ _ before groundTruth shown
  · intro id seen sealed reject fresh refreshed pending
    rcases step_request taken id with same | progress
    · exact published.pending id _ _ _ _ _ (same ▸ pending)
    · -- Only the refresher's answer makes a request ready to commit.
      generalize state.request id = source at progress
      rw [pending] at progress
      cases progress with
      | refreshed built => exact outside refreshed rfl

/-- What brings nothing in from outside needs no check. -/
theorem step_keeps_published {state target : ProxyState} {action : Action}
    (published : state.Published) (inside : action.brought? = none)
    (taken : step library state action = some target) : target.Published := by
  apply step_published published ?_ taken
  intro refreshed brought
  rw [inside] at brought
  cases brought

end Tinfoil.Ehbp
