import LicoMesh.ToolGrants.OwnerRetirement

namespace LicoMesh.ToolGrants

open Library

/-! What holds of an owner from the first accepted call on, and once a call has answered that the
retirement is complete. -/

variable {owner : Owner} {key : String} {store after : Store} {next : Point} {id : GrantId}
  {owned : List GrantId} {job : Job} {accounted pending : List Target} {call : Call}
  {world : GrantWorld}

structure Logs (store after : Store) : Prop where
  accepted : after.accepted = store.accepted ∨ ∃ entry,
    after.accepted = entry :: store.accepted ∧ store.ownersActive entry.owners = true
  created : after.created = store.created ∨ ∃ entry,
    after.created = entry :: store.created ∧ store.ownersActive entry.owners = true

theorem Logs.of_eq (accepted : after.accepted = store.accepted)
    (created : after.created = store.created) : Logs store after :=
  ⟨.inl accepted, .inl created⟩

theorem startCommand_logs
    (done : startCommand store command = some (after, next)) : Logs store after := by
  cases command with
  | createGrant input => rw [(startCreate_some done).1]; exact .of_eq rfl rfl
  | updateGrant id patch =>
    rcases startUpdate_some done with ⟨same, _⟩ | ⟨_, existing, owners, updates⟩
    · rw [same]; exact .of_eq rfl rfl
    · rw [updates.after_eq]; exact .of_eq rfl rfl
  | rotateGrantToken id => rw [(startRotate_some done).1]; exact .of_eq rfl rfl
  | revokeGrant id | deleteGrant id =>
    rcases startRevoke_some done with ⟨same, _⟩ | ⟨_, _, _, same, _⟩
    all_goals rw [same]; exact .of_eq rfl rfl
  | revokeGrantsByPluginOwner request =>
    cases (startRetire_some done).1 <;> exact .of_eq rfl rfl
  | authorizeRequest request => rw [(startAuthorize_some done).1]; exact .of_eq rfl rfl

theorem perform_logs (known : ∀ id, (store.grant id).isSome → id ∈ store.grantIds)
    (done : perform store call.command call.point = some (after, next)) : Logs store after := by
  obtain ⟨command, point⟩ := call
  cases point with
  | starting => exact startCommand_logs done
  | cascading sequel =>
    obtain ⟨revoked, isRevoked, same⟩ := Option.map_eq_some_iff.mp done
    cases same
    rw [(revokeDescendantRows_some isRevoked).2.2, Store.revokeGrants_eq known]
    exact .of_eq rfl rfl
  | persisting issue token =>
    obtain ⟨written, isWritten, same⟩ := Option.map_eq_some_iff.mp done
    cases same
    obtain ⟨active, ⟨_, rfl⟩ | ⟨_, rfl⟩⟩ := persistIssue_some isWritten
    · exact .of_eq rfl rfl
    · exact ⟨.inl rfl, .inr ⟨_, rfl, active⟩⟩
  | announcing again answer =>
    cases again with
    | true => cases done; exact .of_eq rfl rfl
    | false => cases done; cases answer <;> exact .of_eq rfl rfl
  | retiringKeys request second targets =>
    cases targets with
    | nil => cases (finishRound_some done).1 <;> exact .of_eq rfl rfl
    | cons target rest =>
      cases done
      unfold Store.invalidateTargetKey
      split <;> exact .of_eq rfl rfl
  | retiringBinding request second target rest =>
    cases done
    unfold Store.invalidateTargetBinding
    split <;> exact .of_eq rfl rfl
  | staging request =>
    obtain ⟨job, present, result⟩ := stageOrComplete_some done
    cases result with
    | completes => exact .of_eq rfl rfl
    | stages _ staged =>
      rw [(stageTargets_some known staged).same]
      exact .of_eq rfl rfl
  | verifying request id grant parent =>
    rw [(verifyRequest_eq (Option.some.inj done)).1]
    exact .of_eq rfl rfl
  | deciding request id grant parent =>
    rcases decideRequest_eq (Option.some.inj done) with ⟨same, _⟩ | ⟨_, accepts⟩
    · rw [same]; exact .of_eq rfl rfl
    · have active : store.ownersActive (store.owners id) = true :=
        (of_decide_eq_true accepts.active).2
      obtain ⟨row, same, _⟩ := accepts.after_eq
      rw [same]
      split <;> exact ⟨.inr ⟨_, rfl, active⟩, .inl rfl⟩
  | _ => cases done; exact .of_eq rfl rfl

theorem step_logs (sound : world.shared.Sound) (event : Event) :
    Logs world.shared (step world event).shared := by
  cases event with
  | call | wait | crash => exact .of_eq rfl rfl
  | registerPluginGrantOwner pluginId generation =>
    unfold step
    dsimp only
    cases done : world.shared.registerPluginGrantOwner pluginId generation with
    | none => exact .of_eq rfl rfl
    | some after => cases registerPluginGrantOwner_some done <;> exact .of_eq rfl rfl
  | proceed index reply =>
    unfold step
    dsimp only
    cases isCall : world.agents[index]? with
    | none => exact .of_eq rfl rfl
    | some call =>
      dsimp only
      have cases := proceeds world.shared call reply
      revert cases
      generalize call.proceed world.shared reply = result
      intro cases
      cases cases with
      | stuck => exact .of_eq rfl rfl
      | done performed | cut performed =>
        exact perform_logs (fun id => (sound.known id).mpr) performed

def Silent (owner : Owner) (before after : Store) : Prop :=
  (∃ more, after.accepted = more ++ before.accepted ∧ ∀ entry ∈ more, owner ∉ entry.owners) ∧
    ∃ more, after.created = more ++ before.created ∧ ∀ entry ∈ more, owner ∉ entry.owners

theorem Silent.refl (store : Store) : Silent owner store store :=
  ⟨⟨[], rfl, (fun _ isIn => nomatch isIn)⟩, [], rfl, fun _ isIn => nomatch isIn⟩

theorem Silent.trans (first : Silent owner store middle)
    (second : Silent owner middle after) : Silent owner store after := by
  obtain ⟨⟨accepted, acceptedSame, notAccepted⟩, created, createdSame, notCreated⟩ := first
  obtain ⟨⟨accepted', acceptedSame', notAccepted'⟩, created', createdSame', notCreated'⟩ := second
  refine ⟨⟨accepted' ++ accepted, by rw [acceptedSame', acceptedSame, List.append_assoc], ?_⟩,
    created' ++ created, by rw [createdSame', createdSame, List.append_assoc], ?_⟩
  · exact fun entry isIn => (List.mem_append.mp isIn).elim (notAccepted' entry) (notAccepted entry)
  · exact fun entry isIn => (List.mem_append.mp isIn).elim (notCreated' entry) (notCreated entry)

theorem Logs.silent (logs : Logs store after)
    (inactive : store.authorityState owner ≠ some .active) : Silent owner store after := by
  refine ⟨?_, ?_⟩
  · rcases logs.accepted with same | ⟨entry, same, active⟩
    · exact ⟨[], same, fun _ isIn => nomatch isIn⟩
    · refine ⟨[entry], same, fun other isIn => ?_⟩
      rw [List.mem_singleton.mp isIn]
      exact ownersActive_not_mem active inactive
  · rcases logs.created with same | ⟨entry, same, active⟩
    · exact ⟨[], same, fun _ isIn => nomatch isIn⟩
    · refine ⟨[entry], same, fun other isIn => ?_⟩
      rw [List.mem_singleton.mp isIn]
      exact ownersActive_not_mem active inactive

def Opened (owner : Owner) (key : String) (store : Store) : Prop :=
  ∃ job, store.job key = some job ∧ job.owner = owner

theorem Invariant.retired (invariant : Invariant owner key world)
    (opened : Opened owner key world.shared) : Retired owner key world := by
  rcases invariant.phase with waiting | retired
  · obtain ⟨job, present, own⟩ := opened
    exact absurd own (waiting.job job present)
  · exact retired

theorem step_jobsStay (sound : world.shared.Sound) (event : Event) :
    JobsStay world.shared (step world event).shared := by
  cases event with
  | call | wait | crash => exact .of_eq rfl
  | registerPluginGrantOwner pluginId generation =>
    unfold step
    dsimp only
    cases done : world.shared.registerPluginGrantOwner pluginId generation with
    | none => exact .of_eq rfl
    | some after => cases registerPluginGrantOwner_some done <;> exact .of_eq rfl
  | proceed index reply =>
    unfold step
    dsimp only
    cases isCall : world.agents[index]? with
    | none => exact .of_eq rfl
    | some call =>
      dsimp only
      have cases := proceeds world.shared call reply
      revert cases
      generalize call.proceed world.shared reply = result
      intro cases
      cases cases with
      | stuck => exact .of_eq rfl
      | done performed | cut performed =>
        exact (perform_touches (fun id => (sound.known id).mpr) performed).jobs

theorem Invariant.silent (invariant : Invariant owner key world)
    (opened : Opened owner key world.shared)
    (permitted : EachCommand ToolGrants.step (Permitted owner key) world later) :
    Silent owner world.shared (runAll ToolGrants.step world later).shared := by
  induction later generalizing world with
  | nil => exact .refl _
  | cons event rest induction =>
    obtain ⟨owned, job, accounted, pending, retiring, _⟩ := invariant.retired opened
    have first := (step_logs invariant.sound event).silent retiring.inactive
    obtain ⟨job, present, own⟩ := opened
    obtain ⟨jobLater, presentLater, ownLater⟩ := step_jobsStay invariant.sound event _ job present
    exact first.trans
      (induction (invariant.step permitted.1)
        ⟨jobLater, presentLater, ownLater.trans own⟩ permitted.2)

structure Completed (owner : Owner) (store : Store) (receipt : Receipt) : Prop where
  terminal : ∀ id ∈ store.ownedGrantIds owner, store.Terminal id
  keys : ∀ id ∈ store.ownedGrantIds owner, store.KeysInvalid id
  bindings : ∀ id ∈ store.ownedGrantIds owner, store.BindingsInvalid id
  processed : receipt.processedCount = (store.ownedGrantIds owner).length
  counts : receipt.revokedCount + receipt.alreadyRevokedCount = receipt.processedCount
  once : (store.ownedGrantIds owner).Nodup

theorem Retiring.completed (retiring : Retiring owner key owned store job accounted pending)
    (sound : store.Sound) (complete : job.complete = true) : Completed owner store job.receipt := by
  have all := retiring.ledger.complete complete
  have target : ∀ id ∈ store.ownedGrantIds owner, ∃ target ∈ accounted, target.grantId = id := by
    intro id isIn
    rw [retiring.isOwned, ← all] at isIn
    exact List.mem_map.mp isIn
  refine ⟨fun id isIn => ?_, fun id isIn => ?_, fun id isIn => ?_, ?_, ?_, ?_⟩
  · obtain ⟨target, isAccounted, rfl⟩ := target id isIn
    exact retiring.ledger.terminal target (List.mem_append_left _ isAccounted)
  · obtain ⟨target, isAccounted, rfl⟩ := target id isIn
    exact retiring.ledger.keysOut target (List.mem_append_left _ isAccounted)
      (retiring.ledger.isAccounted target isAccounted).2.1
  · obtain ⟨target, isAccounted, rfl⟩ := target id isIn
    exact retiring.ledger.bindingsOut target (List.mem_append_left _ isAccounted)
      (retiring.ledger.isAccounted target isAccounted).2.2
  · rw [retiring.isOwned, ← all, grantIdsOf, List.length_map]
    exact retiring.ledger.processed
  · exact retiring.ledger.counts.trans retiring.ledger.processed.symm
  · exact (sound.ascending.filter _).imp fun less => less.ne

theorem Invariant.completed (invariant : Invariant owner key world) (isIn : call ∈ world.agents)
    (isCommand : call.command = .revokeGrantsByPluginOwner request)
    (isOwner : request.owner = owner)
    (isKey : request.idempotencyKey = key) (isReceipt : call.point.receipt = some receipt)
    (complete : receipt.complete = true) : Completed owner world.shared receipt := by
  obtain ⟨index, isCall⟩ := List.mem_iff_getElem?.mp isIn
  obtain ⟨job, present, own⟩ :=
    (invariant.fits index call isCall).told request receipt isCommand isReceipt
  obtain ⟨owned, found, accounted, pending, retiring, told⟩ :=
    invariant.retired ⟨job, isKey ▸ present, own.trans isOwner⟩
  obtain ⟨isComplete, rfl⟩ :=
    (told index call isCall).answer request receipt isCommand isOwner isKey isReceipt complete
  exact retiring.completed invariant.sound isComplete

end LicoMesh.ToolGrants
