import LicoMesh.ToolGrants.OwnerCompletion

namespace LicoMesh.ToolGrants

open Library

variable {owner : Owner} {key : String}

def Store.pendingTargets (store : Store) (key : String) : List Target :=
  (store.targets key).filter fun target => !target.accounted

def Finishes (owner : Owner) (key : String) (world : GrantWorld) : Prop :=
  ∀ job, world.shared.job key = some job → job.owner = owner →
    ∃ calls steps, ∀ enough, steps ≤ enough → ∀ request cursor batches,
      request.owner = owner → request.idempotencyKey = key → calls ≤ batches.length →
      Suits request job (world.shared.pendingTargets key) cursor batches →
      ∃ receipt, furtherCalls enough request world cursor batches = some receipt ∧
        receipt.complete = true

theorem Invariant.finishes (invariant : Invariant owner key world) : Finishes owner key world := by
  intro job present own
  obtain ⟨owned, found, accounted, pending, retiring, _⟩ := invariant.retired ⟨job, present, own⟩
  cases retiring.present.symm.trans present
  refine ⟨owned.length + 3, 4 * owned.length + 6, ?_⟩
  intro steps enough request cursor batches isOwner isKey many suits
  unfold Store.pendingTargets at suits
  rw [retiring.ledger.filter_pending] at suits
  exact retiring.furtherCalls invariant.sound isKey isOwner enough (by omega) suits

def AnswersHold (owner : Owner) (key : String) (world : GrantWorld) : Prop :=
  ∀ call ∈ world.agents, ∀ request receipt,
    call.command = .revokeGrantsByPluginOwner request → request.owner = owner →
    request.idempotencyKey = key → call.point.receipt = some receipt →
    receipt.complete = true → Completed owner world.shared receipt

theorem run_retires {pluginId generation : String} {events : List Event}
    (permitted : EachCommand step (Permitted (.plugin pluginId generation) key) ⟨{}, []⟩ events) :
    (∀ later, EachCommand step (Permitted (.plugin pluginId generation) key) (run events) later →
        Opened (.plugin pluginId generation) key (run events).shared →
        Silent (.plugin pluginId generation) (run events).shared
          (runAll step (run events) later).shared) ∧
      AnswersHold (.plugin pluginId generation) key (run events) ∧
      Finishes (.plugin pluginId generation) key (run events) := by
  have isPlugin : Owner.plugin pluginId generation ≠ .core "core-platform" := nofun
  have invariant := run_invariant isPlugin permitted
  refine ⟨fun later permittedLater opened => invariant.silent opened permittedLater, ?_,
    invariant.finishes⟩
  intro call isIn request receipt isCommand isOwner isKey isReceipt complete
  exact invariant.completed isIn isCommand isOwner isKey isReceipt complete

instance : DecidablePred (OneKey owner key) := fun event =>
  match event with
  | .call (.revokeGrantsByPluginOwner request) =>
    inferInstanceAs (Decidable (request.owner = owner → request.idempotencyKey = key))
  | .call (.createGrant _) | .call (.updateGrant _ _) | .call (.rotateGrantToken _)
  | .call (.revokeGrant _) | .call (.deleteGrant _) | .call (.authorizeRequest _)
  | .proceed _ _ | .registerPluginGrantOwner _ _ | .wait _ | .crash => .isTrue trivial

instance (store : Store) : DecidablePred (IsFirst owner key store) := fun _ =>
  inferInstanceAs (Decidable (_ ∧ _ ∧ _))

instance (world : GrantWorld) : DecidablePred (Undisturbed owner key world) := fun event =>
  match event with
  | .proceed index _ =>
    inferInstanceAs (Decidable (
      ∀ call ∈ world.agents[index]?, IsFirst owner key world.shared call →
      ∀ other ∈ world.agents, ∀ issue ∈ other.point.issueAhead,
        issue.id ∉ world.shared.ownedGrantIds owner))
  | .call _ | .registerPluginGrantOwner _ _ | .wait _ | .crash => .isTrue trivial

instance (world : GrantWorld) (event : Event) : Decidable (Permitted owner key world event) :=
  decidable_of_iff (OneKey owner key event ∧ Undisturbed owner key world event)
    ⟨fun facts => ⟨facts.1, facts.2⟩, fun permitted => ⟨permitted.oneKey, permitted.undisturbed⟩⟩

def pluginGrant (id : GrantId) : Event :=
  .call (.createGrant { id := id, capabilities := ["cap:tool:*"], tools := [.plugin "p"] })

def retireCall (cursor : Option GrantId) (batchSize : Int) : Event :=
  .call (.revokeGrantsByPluginOwner {
    pluginId := "p", generation := "g", idempotencyKey := "k", cursor := cursor,
    batchSize := batchSize })

def proceedTimes (index count : Nat) : List Event := List.replicate count (.proceed index .ok)

/-- Two grants; the first call fails at the key of the second, and the third completes. -/
def retirement : List Event :=
  [.registerPluginGrantOwner "p" "g", pluginGrant "a", pluginGrant "b"] ++ proceedTimes 0 5 ++
    proceedTimes 1 5 ++ [retireCall none 64] ++ proceedTimes 2 5 ++ [.proceed 2 (.failed false)] ++
    [retireCall none 2] ++ proceedTimes 3 7 ++ [retireCall (some "b") 1] ++ proceedTimes 4 4

theorem run_retires_sample : (∃ call ∈ (run retirement).agents, ∃ receipt ∈ call.point.receipt,
      receipt = ⟨true, 2, 2, 0, none⟩) ∧
      AnswersHold (.plugin "p" "g") "k" (run retirement) ∧
      Finishes (.plugin "p" "g") "k" (run retirement) := by
  have permitted : EachCommand step (Permitted (.plugin "p" "g") "k") ⟨{}, []⟩ retirement := by
    decide +kernel
  exact ⟨by decide +kernel, (run_retires permitted).2⟩

/-- The rotation of a grant waits for its new key while the grant is retired; it binds the key, and
the retirement is completed. -/
def retirementDuringRotation : List Event :=
  [.registerPluginGrantOwner "p" "g", pluginGrant "a"] ++ proceedTimes 0 5 ++
    [.call (.rotateGrantToken "a")] ++ proceedTimes 1 4 ++ [retireCall none 64] ++
    proceedTimes 2 6 ++ proceedTimes 1 2 ++ [retireCall (some "a") 64] ++ proceedTimes 3 4

/-- Every call succeeds, and the retirement answers complete with a key and a binding valid. -/
theorem credential_outlives_retirement :
    EachCommand step (fun _ => OneKey (.plugin "p" "g") "k") ⟨{}, []⟩ retirementDuringRotation ∧
      ¬ AnswersHold (.plugin "p" "g") "k" (run retirementDuringRotation) := by
  refine ⟨by decide +kernel, fun holds => ?_⟩
  have live : ∃ capabilityKey ∈ (run retirementDuringRotation).shared.keys "a",
      capabilityKey.valid = true := by decide +kernel
  have owned : "a" ∈ (run retirementDuringRotation).shared.ownedGrantIds (.plugin "p" "g") := by
    decide +kernel
  have answered : ⟨.revokeGrantsByPluginOwner {
      pluginId := "p", generation := "g", idempotencyKey := "k", cursor := some "a",
      batchSize := 64 }, .ended (.receipt ⟨true, 1, 1, 0, none⟩)⟩ ∈
      (run retirementDuringRotation).agents := by decide +kernel
  obtain ⟨capabilityKey, isIn, isValid⟩ := live
  have completed := holds _ answered _ _ rfl rfl rfl rfl rfl
  exact nomatch (completed.keys "a" owned capabilityKey isIn).symm.trans isValid

end LicoMesh.ToolGrants
