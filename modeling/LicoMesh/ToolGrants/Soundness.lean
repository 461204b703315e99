import LicoMesh.ToolGrants.RetireSteps

namespace LicoMesh.ToolGrants

open Library Option

variable {request : RetireRequest} {store after : Store} {next : Point} {id : GrantId}
  {key : String}

namespace Store

theorem Sound.elsewhere (sound : store.Sound) (ids : after.grantIds = store.grantIds)
    (grant : after.grant = store.grant) (owners : after.owners = store.owners)
    (job : after.job = store.job) (targets : after.targets = store.targets) : after.Sound :=
  sound.of_tables ids (fun id => by rw [grant]) owners (by rw [job, targets]; exact sound.unopened)

theorem Sound.setJob (sound : store.Sound) {job : Job} : (store.setJob key job).Sound := by
  refine sound.of_tables rfl (fun _ => Iff.rfl) rfl fun other absent => ?_
  refine sound.unopened other ?_
  rw [setJob_job] at absent
  by_cases same : other = key
  · rw [same, setAt_self] at absent
    exact nomatch absent
  · rwa [setAt_of_ne same] at absent

theorem Sound.updateTarget (sound : store.Sound) : (store.updateTarget key id update).Sound := by
  refine sound.of_tables rfl (fun _ => Iff.rfl) rfl fun other absent => ?_
  have empty := sound.unopened other absent
  rw [updateTarget_targets]
  by_cases same : other = key
  · rw [same] at empty ⊢
    rw [setAt_self, empty]
    rfl
  · rwa [setAt_of_ne same]

end Store

theorem Opens.sound (opens : Opens store request after) (sound : store.Sound) : after.Sound := by
  cases opens with
  | opened => exact sound
  | retired => exact sound.setJob
  | active =>
    have changed : (store.setAuthority request.owner .retiring).Sound :=
      sound.elsewhere rfl rfl rfl rfl rfl
    exact changed.setJob

theorem Stages.sound (stages : Stages store after key rows)
    (sound : store.Sound) (present : store.job key ≠ none) : after.Sound := by
  have ids : after.grantIds = store.grantIds := by rw [stages.same]
  have owners : after.owners = store.owners := by rw [stages.same]
  have job : after.job = store.job := by rw [stages.same]
  refine sound.of_tables ids (fun id => by rw [stages.isSome id]) owners fun other absent => ?_
  rw [job] at absent
  by_cases same : other = key
  · exact absurd (same ▸ absent) present
  · rw [stages.others other same]
    exact sound.unopened other absent

def Job.account (job : Job) (pending : List Target) (last : Target) : Job :=
  { job with
    ownerCursorGrantId := some last.grantId
    cursorToken := some last.grantId
    processedCount := job.processedCount + pending.length
    revokedCount := job.revokedCount + pending.countP (·.newlyRevoked)
    alreadyRevokedCount :=
      job.alreadyRevokedCount + (pending.length - pending.countP (·.newlyRevoked)) }

inductive Finalizes (store : Store) (key : String) : Store → Prop
  | waits {target : Target} (isIn : target ∈ store.targets key) (pending : target.accounted = false)
      (live : target.capabilityInvalidated = false ∨ target.bindingInvalidated = false) :
      Finalizes store key store
  | nothing (empty : (store.targets key).filter (fun target => !target.accounted) = []) :
      Finalizes store key store
  | accounts {pending : List Target} {last : Target} {job : Job}
      (pending_eq : (store.targets key).filter (fun target => !target.accounted) = pending)
      (last_eq : pending.getLast? = some last)
      (out : ∀ target ∈ pending,
        target.capabilityInvalidated = true ∧ target.bindingInvalidated = true)
      (present : store.job key = some job) : Finalizes store key { store with
        job := setAt store.job key (some (job.account pending last))
        targets := setAt store.targets key ((store.targets key).map fun target =>
          { target with accounted := true }) }

theorem finalizeTargets_some (done : store.finalizeTargets key = some after) :
    Finalizes store key after := by
  unfold Store.finalizeTargets at done
  dsimp only at done
  split_ifs at done with live
  · cases done
    obtain ⟨target, isPending, isLive⟩ := List.any_eq_true.mp live
    obtain ⟨isIn, pending⟩ := List.mem_filter.mp isPending
    refine .waits isIn (by simpa using pending) ?_
    simpa using isLive
  · have out : ∀ target ∈ (store.targets key).filter (fun target => !target.accounted),
        target.capabilityInvalidated = true ∧ target.bindingInvalidated = true := by
      intro target isIn
      have notLive := fun isLive => live (List.any_eq_true.mpr ⟨target, isIn, isLive⟩)
      simpa using notLive
    split at done
    · next empty =>
        cases done
        exact .nothing (List.getLast?_eq_none_iff.mp empty)
    · next last found =>
        obtain ⟨job, present, rfl⟩ := map_eq_some_iff.mp done
        exact .accounts rfl found out present

theorem Finalizes.sound (finalizes : Finalizes store key after) (sound : store.Sound) :
    after.Sound := by
  cases finalizes with
  | waits => exact sound
  | nothing => exact sound
  | accounts _ _ _ present =>
    refine sound.of_tables rfl (fun _ => Iff.rfl) rfl fun other absent => ?_
    dsimp only at absent ⊢
    by_cases same : other = key
    · rw [same, setAt_self] at absent
      exact nomatch absent
    · rw [setAt_of_ne same] at absent ⊢
      exact sound.unopened other absent

inductive StagesOrCompletes (store : Store) (request : RetireRequest) (job : Job) :
    Store → Point → Prop
  | completes
      (empty : store.ownerRows request.owner job.ownerCursorGrantId request.limit = [])
      (retiring : store.authorityState request.owner = some .retiring) :
      StagesOrCompletes store request job
        ((store.setAuthority request.owner .retired).setJob request.idempotencyKey
          { job with complete := true, cursorToken := none })
        (.announcing false (.receipt
          ({ job with complete := true, cursorToken := none } : Job).receipt))
  | stages {after : Store}
      (more : store.ownerRows request.owner job.ownerCursorGrantId request.limit ≠ [])
      (staged : store.stageTargets request.idempotencyKey
        (store.ownerRows request.owner job.ownerCursorGrantId request.limit) = some after) :
      StagesOrCompletes store request job after (.retiringKeys request true
        (after.revocationTargets request.idempotencyKey request.limit))

theorem stageOrComplete_some (done : stageOrComplete store request = some (after, next)) :
    ∃ job, store.job request.idempotencyKey = some job ∧
      StagesOrCompletes store request job after next := by
  obtain ⟨job, present, rest⟩ := bind_eq_some_iff.mp done
  refine ⟨job, present, ?_⟩
  split at rest
  · next empty =>
      split_ifs at rest with retiring
      cases rest
      exact .completes empty retiring
  · next rows more =>
      obtain ⟨staged, isStaged, same⟩ := map_eq_some_iff.mp rest
      cases same
      exact .stages more isStaged

theorem finishRound_some (done : finishRound store request second = some (after, next)) :
    Finalizes store request.idempotencyKey after ∧
      ((second = true ∧ ∃ job, after.job request.idempotencyKey = some job ∧
          next = .ended (.receipt job.receipt)) ∨
        (second = false ∧ next = .staging request)) := by
  obtain ⟨finalized, isFinal, rest⟩ := bind_eq_some_iff.mp done
  split_ifs at rest with isSecond
  · obtain ⟨job, present, same⟩ := map_eq_some_iff.mp rest
    cases same
    exact ⟨finalizeTargets_some isFinal, .inl ⟨isSecond, job, present, rfl⟩⟩
  · cases rest
    exact ⟨finalizeTargets_some isFinal, .inr ⟨Bool.eq_false_of_not_eq_true isSecond, rfl⟩⟩

theorem startCommand_sound (sound : store.Sound)
    (done : startCommand store command = some (after, next)) : after.Sound := by
  cases command with
  | createGrant input => exact (startCreate_some done).1 ▸ sound
  | updateGrant id patch =>
    rcases startUpdate_some done with ⟨same, _⟩ | ⟨_, existing, owners, updates⟩
    · exact same ▸ sound
    · rw [updates.after_eq]
      have upserted : (store.upsertGrant id (patch.apply existing store.clock)).Sound :=
        sound.upsertGrant
      exact upserted.setOwners _ (mem_insertKey.mpr (.inl rfl))
  | rotateGrantToken id => exact (startRotate_some done).1 ▸ sound
  | revokeGrant id =>
    rcases startRevoke_some done with ⟨same, _⟩ | ⟨_, _, _, same, _⟩
    · exact same ▸ sound
    · exact same ▸ sound.upsertGrant
  | deleteGrant id =>
    rcases startRevoke_some done with ⟨same, _⟩ | ⟨_, _, _, same, _⟩
    · exact same ▸ sound
    · exact same ▸ sound.upsertGrant
  | revokeGrantsByPluginOwner request => exact (startRetire_some done).1.sound sound
  | authorizeRequest request => exact (startAuthorize_some done).1 ▸ sound

theorem persistIssue_sound (sound : store.Sound)
    (done : persistIssue store issue token = some after) : after.Sound := by
  rcases (persistIssue_some done).2 with ⟨_, rfl⟩ | ⟨_, rfl⟩
  · exact sound.upsertGrant
  · have upserted : (store.upsertGrant issue.id { issue.grant with tokenHash := token }).Sound :=
      sound.upsertGrant
    have owned := upserted.setOwners issue.owners (mem_insertKey.mpr (.inl rfl))
    exact owned.elsewhere rfl rfl rfl rfl rfl

theorem Accepts.sound (accepts : Accepts store after id recordUse)
    (sound : store.Sound) : after.Sound := by
  obtain ⟨row, rfl, _⟩ := accepts.after_eq
  have logged : Store.Sound
      { store with accepted := ⟨id, store.owners id, recordUse⟩ :: store.accepted } :=
    sound.elsewhere rfl rfl rfl rfl rfl
  split
  · exact logged.upsertGrant
  · exact logged

theorem perform_sound (sound : store.Sound)
    (done : perform store command point = some (after, next)) : after.Sound := by
  cases point with
  | starting => exact startCommand_sound sound done
  | cascading sequel =>
    obtain ⟨revoked, isRevoked, same⟩ := map_eq_some_iff.mp done
    cases same
    exact (revokeDescendantRows_some isRevoked).2.2 ▸ sound.revokeGrants _
  | invalidatingKey => cases done; exact sound.elsewhere rfl rfl rfl rfl rfl
  | invalidatingBinding => cases done; exact sound.elsewhere rfl rfl rfl rfl rfl
  | notifying => cases done; exact sound
  | issuing => cases done; exact sound.elsewhere rfl rfl rfl rfl rfl
  | binding => cases done; exact sound.elsewhere rfl rfl rfl rfl rfl
  | persisting issue token =>
    obtain ⟨written, isWritten, same⟩ := map_eq_some_iff.mp done
    cases same
    exact persistIssue_sound sound isWritten
  | rollingBack => cases done; exact sound.elsewhere rfl rfl rfl rfl rfl
  | announcing again answer =>
    cases again with
    | true => cases done; exact sound
    | false =>
      cases done
      cases answer <;> exact sound.elsewhere rfl rfl rfl rfl rfl
  | retiringKeys request second targets =>
    cases targets with
    | nil => exact (finishRound_some done).1.sound sound
    | cons target rest =>
      cases done
      unfold Store.invalidateTargetKey
      split
      · exact sound
      · have invalidated : (store.invalidateCredential target.grantId).Sound :=
          sound.elsewhere rfl rfl rfl rfl rfl
        exact invalidated.updateTarget
  | retiringBinding request second target rest =>
    cases done
    unfold Store.invalidateTargetBinding
    split
    · exact sound
    · have invalidated : (store.invalidateBinding target.grantId).Sound :=
        sound.elsewhere rfl rfl rfl rfl rfl
      exact invalidated.updateTarget
  | staging request =>
    obtain ⟨job, present, result⟩ := stageOrComplete_some done
    cases result with
    | completes =>
      have changed : (store.setAuthority request.owner .retired).Sound :=
        sound.elsewhere rfl rfl rfl rfl rfl
      exact changed.setJob
    | stages _ staged =>
      have stages := stageTargets_some (fun id => (sound.known id).mpr) staged
      exact stages.sound sound (by rw [present]; exact some_ne_none job)
  | verifying request id grant parent =>
    exact (verifyRequest_eq (some.inj done)).1 ▸ sound
  | deciding request id grant parent =>
    rcases decideRequest_eq (some.inj done) with ⟨same, _⟩ | ⟨_, accepts⟩
    · exact same ▸ sound
    · exact accepts.sound sound
  | ended => cases done; exact sound

end LicoMesh.ToolGrants
