import LicoMesh.ToolGrants.Accounting

namespace LicoMesh.ToolGrants

open Store

variable {request : RetireRequest} {owner : Owner} {key : String} {store after : Store}
  {next : Point} {id : GrantId} {job : Job} {call : Call}

def JobsStay (before after : Store) : Prop :=
  ∀ key job, before.job key = some job →
    ∃ later, after.job key = some later ∧ later.owner = job.owner

theorem JobsStay.of_eq (same : after.job = store.job) : JobsStay store after :=
  fun _ job present => ⟨job, by rw [same]; exact present, rfl⟩

theorem JobsStay.setJob (sameOwner : ∀ job, store.job key = some job →
    later.owner = job.owner) : JobsStay store (store.setJob key later) := by
  intro other job present
  rw [setJob_job]
  by_cases same : other = key
  · rw [same, setAt_self]
    exact ⟨later, rfl, sameOwner job (same ▸ present)⟩
  · rw [setAt_of_ne same]
    exact ⟨job, present, rfl⟩

theorem Opens.jobsStay (opens : Opens store request after) : JobsStay store after := by
  cases opens with
  | opened => exact .of_eq rfl
  | retired absent => exact .setJob fun job present => nomatch absent.symm.trans present
  | active absent =>
    have stays : JobsStay (store.setAuthority request.owner .retiring)
        ((store.setAuthority request.owner .retiring).setJob request.idempotencyKey
          { pluginId := request.pluginId, ownerGeneration := request.generation }) :=
      .setJob fun job present => nomatch absent.symm.trans present
    exact stays

theorem Finalizes.jobsStay (finalizes : Finalizes store key after) : JobsStay store after := by
  cases finalizes with
  | waits => exact .of_eq rfl
  | nothing => exact .of_eq rfl
  | @accounts pending last job _ _ _ present =>
    have stays : JobsStay store (store.setJob key (job.account pending last)) :=
      .setJob fun other isJob => by
        cases present.symm.trans isJob
        rfl
    exact stays

/-- Only the start of a retirement opens a job, and only a retirement moves an authority. -/
structure Touches (store after : Store) (call : Call) : Prop where
  jobs : JobsStay store after
  opened : ∀ key job, store.job key = none → after.job key = some job →
    ∃ request, call = ⟨.revokeGrantsByPluginOwner request, .starting⟩ ∧
      request.idempotencyKey = key ∧ request.owner = job.owner
  authority : ∀ owner, (∀ request, call.request = some request → request.owner ≠ owner) →
    after.authorityState owner = store.authorityState owner

theorem Touches.of_eq (jobs : after.job = store.job)
    (authorities : after.authorities = store.authorities) : Touches store after call where
  jobs := .of_eq jobs
  opened key job absent present := by
    rw [jobs, absent] at present
    exact nomatch present
  authority owner _ := by
    unfold authorityState
    rw [authorities]

theorem Opens.touches (opens : Opens store request after) :
    Touches store after ⟨.revokeGrantsByPluginOwner request, .starting⟩ where
  jobs := opens.jobsStay
  opened key job absent present := by
    refine ⟨request, rfl, ?_⟩
    cases opens with
    | opened => exact nomatch absent.symm.trans present
    | retired | active =>
      rw [setJob_job] at present
      by_cases same : key = request.idempotencyKey
      · rw [same, setAt_self] at present
        cases present
        exact ⟨same.symm, rfl⟩
      · rw [setAt_of_ne same] at present
        exact nomatch absent.symm.trans present
  authority owner foreign := by
    have apart := foreign request rfl
    cases opens with
    | opened => rfl
    | retired => rfl
    | active => exact (authorityState_setAuthority).trans (if_neg apart.symm)

theorem startCommand_touches (done : startCommand store command = some (after, next)) :
    Touches store after ⟨command, .starting⟩ := by
  cases command with
  | createGrant input => rw [(startCreate_some done).1]; exact .of_eq rfl rfl
  | updateGrant id patch =>
    rcases startUpdate_some done with ⟨same, _⟩ | ⟨_, existing, owners, updates⟩
    · rw [same]; exact .of_eq rfl rfl
    · rw [updates.after_eq]; exact .of_eq rfl rfl
  | rotateGrantToken id => rw [(startRotate_some done).1]; exact .of_eq rfl rfl
  | revokeGrant id | deleteGrant id =>
    rcases startRevoke_some done with ⟨same, _⟩ | ⟨_, _, _, same, _⟩
    all_goals rw [same]; exact .of_eq rfl rfl
  | revokeGrantsByPluginOwner request => exact (startRetire_some done).1.touches
  | authorizeRequest request => rw [(startAuthorize_some done).1]; exact .of_eq rfl rfl

theorem Finalizes.touches (finalizes : Finalizes store key after) : Touches store after call where
  jobs := finalizes.jobsStay
  opened other job absent present := by
    cases finalizes with
    | waits => exact nomatch absent.symm.trans present
    | nothing => exact nomatch absent.symm.trans present
    | accounts _ _ _ found =>
      dsimp only at present
      by_cases same : other = key
      · rw [same] at absent
        exact nomatch absent.symm.trans found
      · rw [setAt_of_ne same] at present
        exact nomatch absent.symm.trans present
  authority owner _ := by
    cases finalizes with
    | waits => rfl
    | nothing => rfl
    | accounts => rfl

theorem perform_touches (known : ∀ id, (store.grant id).isSome → id ∈ store.grantIds)
    (done : perform store call.command call.point = some (after, next)) :
    Touches store after call := by
  obtain ⟨command, point⟩ := call
  cases point with
  | starting => exact startCommand_touches done
  | cascading sequel =>
    obtain ⟨revoked, isRevoked, same⟩ := Option.map_eq_some_iff.mp done
    cases same
    rw [(revokeDescendantRows_some isRevoked).2.2, revokeGrants_eq known]
    exact .of_eq rfl rfl
  | invalidatingKey => cases done; exact .of_eq rfl rfl
  | invalidatingBinding => cases done; exact .of_eq rfl rfl
  | notifying => cases done; exact .of_eq rfl rfl
  | issuing issue => cases done; exact .of_eq rfl rfl
  | binding issue => cases done; exact .of_eq rfl rfl
  | persisting issue token =>
    obtain ⟨written, isWritten, same⟩ := Option.map_eq_some_iff.mp done
    cases same
    rcases (persistIssue_some isWritten).2 with ⟨_, rfl⟩ | ⟨_, rfl⟩
    all_goals exact .of_eq rfl rfl
  | rollingBack => cases done; exact .of_eq rfl rfl
  | announcing again answer =>
    cases again with
    | true => cases done; exact .of_eq rfl rfl
    | false => cases done; cases answer <;> exact .of_eq rfl rfl
  | retiringKeys request second targets =>
    cases targets with
    | nil => exact (finishRound_some done).1.touches
    | cons target rest =>
      cases done
      unfold invalidateTargetKey
      split <;> exact .of_eq rfl rfl
  | retiringBinding request second target rest =>
    cases done
    unfold invalidateTargetBinding
    split <;> exact .of_eq rfl rfl
  | staging request =>
    obtain ⟨job, present, result⟩ := stageOrComplete_some done
    cases result with
    | completes =>
      refine ⟨?_, fun key other absent found => ?_, fun owner foreign => ?_⟩
      · have stays : JobsStay (store.setAuthority request.owner .retired)
            ((store.setAuthority request.owner .retired).setJob request.idempotencyKey
              { job with complete := true, cursorToken := none }) :=
          .setJob fun other isJob => by
            cases present.symm.trans isJob
            rfl
        exact stays
      · rw [setJob_job] at found
        by_cases same : key = request.idempotencyKey
        · rw [same] at absent
          exact nomatch absent.symm.trans present
        · rw [setAt_of_ne same] at found
          exact nomatch absent.symm.trans found
      · exact (authorityState_setAuthority).trans (if_neg (foreign request rfl).symm)
    | stages _ staged =>
      rw [(stageTargets_some known staged).same]
      exact .of_eq rfl rfl
  | verifying request id grant parent =>
    rw [(verifyRequest_eq (Option.some.inj done)).1]
    exact .of_eq rfl rfl
  | deciding request id grant parent =>
    rcases decideRequest_eq (Option.some.inj done) with ⟨same, _⟩ | ⟨_, accepts⟩
    · rw [same]; exact .of_eq rfl rfl
    · obtain ⟨row, same, _⟩ := accepts.after_eq
      rw [same]
      split <;> exact .of_eq rfl rfl
  | ended => cases done; exact .of_eq rfl rfl

end LicoMesh.ToolGrants
