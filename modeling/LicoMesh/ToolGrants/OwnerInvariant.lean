import LicoMesh.ToolGrants.OwnerRuns

namespace LicoMesh.ToolGrants

open Option

/-! The state of an owner under retirement, and how the steps of all calls keep it. -/

variable {owner : Owner} {key : String} {store after : Store} {next : Point} {id : GrantId}
  {job : Job} {call : Call}

def Point.receipt : Point → Option Receipt
  | .announcing _ (.receipt receipt) => some receipt
  | .ended (.receipt receipt) => some receipt
  | _ => none

structure Fits (owner : Owner) (key : String) (store : Store) (call : Call) : Prop where
  oneKey : ∀ request, call.request = some request → request.owner = owner →
    request.idempotencyKey = key
  own : ∀ request, call.request = some request → call.command = .revokeGrantsByPluginOwner request
  opened : ∀ request, call.point.request = some request →
    ∃ job, store.job request.idempotencyKey = some job ∧ job.owner = request.owner
  told : ∀ request receipt, call.command = .revokeGrantsByPluginOwner request →
    call.point.receipt = some receipt →
    ∃ job, store.job request.idempotencyKey = some job ∧ job.owner = request.owner

theorem Fits.stays (fits : Fits owner key store call) (jobs : JobsStay store after) :
    Fits owner key after call where
  oneKey := fits.oneKey
  own := fits.own
  opened request isRequest := by
    obtain ⟨job, present, same⟩ := fits.opened request isRequest
    obtain ⟨later, presentLater, sameLater⟩ := jobs _ job present
    exact ⟨later, presentLater, sameLater.trans same⟩
  told request receipt isCommand isReceipt := by
    obtain ⟨job, present, same⟩ := fits.told request receipt isCommand isReceipt
    obtain ⟨later, presentLater, sameLater⟩ := jobs _ job present
    exact ⟨later, presentLater, sameLater.trans same⟩

structure Carries (store after : Store) (call : Call) (next : Point) : Prop where
  moved : next ≠ .starting
  request : ∀ request, next.request = some request → call.request = some request ∧
    ∃ job, after.job request.idempotencyKey = some job ∧ job.owner = request.owner
  issue : ∀ issue, next.issueAhead = some issue → call.point.issueAhead = some issue ∨
    store.grant issue.id = none ∨ store.grantOwnersAreActive issue.id = true
  receipt : ∀ receipt, next.receipt = some receipt → call.point.receipt = some receipt ∨
    ∃ request job, call.request = some request ∧
      after.job request.idempotencyKey = some job ∧ job.owner = request.owner ∧
      receipt = job.receipt

theorem Carries.nothing (moved : next ≠ .starting) (request : next.request = none)
    (issue : next.issueAhead = none)
    (receipt : next.receipt = none) : Carries store after call next where
  moved := moved
  request _ isRequest := nomatch request.symm.trans isRequest
  issue _ isIssue := nomatch issue.symm.trans isIssue
  receipt _ isReceipt := nomatch receipt.symm.trans isReceipt

theorem Carries.sameIssue (moved : next ≠ .starting) (request : next.request = none)
    (issue : ∀ issue, next.issueAhead = some issue → call.point.issueAhead = some issue)
    (receipt : next.receipt = none) : Carries store after call next where
  moved := moved
  request _ isRequest := nomatch request.symm.trans isRequest
  issue ahead isAhead := .inl (issue ahead isAhead)
  receipt _ isReceipt := nomatch receipt.symm.trans isReceipt

theorem next_ne_starting (sequel : Sequel) : sequel.next ≠ .starting := by
  cases sequel <;> nofun

variable (ids : List GrantId) (sequel : Sequel)
include sequel

include ids in
theorem invalidateNext_ne_starting : invalidateNext ids sequel ≠ .starting := by
  cases ids with
  | nil => exact next_ne_starting sequel
  | cons => nofun

theorem request_next : sequel.next.request = none := by cases sequel <;> rfl

theorem receipt_next : sequel.next.receipt = none := by cases sequel <;> rfl

theorem issueAhead_next : sequel.next.issueAhead = sequel.issue := by
  cases sequel <;> rfl

omit sequel

include ids sequel

theorem request_invalidateNext : (invalidateNext ids sequel).request = none := by
  cases ids with
  | nil => exact request_next sequel
  | cons => rfl

theorem receipt_invalidateNext : (invalidateNext ids sequel).receipt = none := by
  cases ids with
  | nil => exact receipt_next sequel
  | cons => rfl

theorem issueAhead_invalidateNext : (invalidateNext ids sequel).issueAhead = sequel.issue := by
  cases ids with
  | nil => exact issueAhead_next sequel
  | cons => rfl

omit sequel ids

theorem startRetire_carries (done : startRetire store request = some (after, next)) :
    Carries store after ⟨.revokeGrantsByPluginOwner request, .starting⟩ next := by
  obtain ⟨_, job, present, begins⟩ := startRetire_some done
  cases begins with
  | refused => exact .nothing nofun rfl rfl rfl
  | answered own =>
    refine ⟨nofun, (fun _ isRequest => nomatch isRequest), (fun _ isIssue => nomatch isIssue),
      fun receipt isReceipt => .inr ⟨request, job, rfl, present, ?_, ?_⟩⟩
    · exact congrArg₂ Owner.plugin own.1 own.2
    · exact (some.inj isReceipt).symm
  | goesOn own =>
    refine ⟨nofun, fun other isRequest => ?_, (fun _ isIssue => nomatch isIssue),
      (fun _ isReceipt => nomatch isReceipt)⟩
    cases isRequest
    exact ⟨rfl, job, present, congrArg₂ Owner.plugin own.1 own.2⟩

theorem startCommand_carries (done : startCommand store command = some (after, next)) :
    Carries store after ⟨command, .starting⟩ next := by
  cases command with
  | createGrant input =>
    obtain ⟨_, _, absent, owners, _, rfl⟩ := startCreate_some done
    refine ⟨nofun, (fun _ isRequest => nomatch isRequest), fun issue isIssue => .inr (.inl ?_),
      (fun _ isReceipt => nomatch isReceipt)⟩
    cases isIssue
    exact absent
  | updateGrant id patch =>
    rcases startUpdate_some done with ⟨_, rfl⟩ | ⟨rfl, _⟩
    · exact .nothing nofun rfl rfl rfl
    · exact .nothing nofun rfl rfl rfl
  | rotateGrantToken id =>
    rcases (startRotate_some done).2 with rfl | ⟨existing, _, _, active, rfl⟩
    · exact .nothing nofun rfl rfl rfl
    · refine ⟨nofun, (fun _ isRequest => nomatch isRequest), fun issue isIssue => .inr (.inr ?_),
        (fun _ isReceipt => nomatch isReceipt)⟩
      cases isIssue
      exact active
  | revokeGrant id | deleteGrant id =>
    rcases startRevoke_some done with ⟨_, rfl | ⟨_, _, _, rfl | rfl⟩⟩ | ⟨_, _, _, _, rfl⟩
    all_goals exact .nothing nofun rfl rfl rfl
  | revokeGrantsByPluginOwner request => exact startRetire_carries done
  | authorizeRequest request =>
    rcases (startAuthorize_some done).2 with rfl | ⟨_, _, _, _, _, rfl⟩
    · exact .nothing nofun rfl rfl rfl
    · exact .nothing nofun rfl rfl rfl

theorem perform_carries (fits : Fits owner key store call)
    (done : perform store call.command call.point = some (after, next))
    (jobs : JobsStay store after) : Carries store after call next := by
  obtain ⟨command, point⟩ := call
  have carried : ∀ request, Point.request point = some request →
      (⟨command, point⟩ : Call).request = some request ∧
      ∃ job, after.job request.idempotencyKey = some job ∧ job.owner = request.owner := by
    intro request isRequest
    obtain ⟨job, present, same⟩ := fits.opened request isRequest
    obtain ⟨later, presentLater, sameLater⟩ := jobs _ job present
    cases point with
    | retiringKeys | retiringBinding | staging =>
      exact ⟨isRequest, later, presentLater, sameLater.trans same⟩
    | _ => exact nomatch isRequest
  cases point with
  | starting => exact startCommand_carries done
  | cascading sequel =>
    obtain ⟨revoked, isRevoked, same⟩ := map_eq_some_iff.mp done
    cases same
    refine .sameIssue (invalidateNext_ne_starting _ sequel) (request_invalidateNext _ sequel)
      (fun issue isAhead => ?_)
      (receipt_invalidateNext _ sequel)
    rwa [issueAhead_invalidateNext] at isAhead
  | invalidatingKey id rest sequel =>
    cases done
    exact .sameIssue nofun rfl (fun _ isAhead => isAhead) rfl
  | invalidatingBinding id rest sequel =>
    cases done
    split
    · refine .sameIssue (next_ne_starting sequel) (request_next sequel)
        (fun issue isAhead => ?_) (receipt_next sequel)
      rwa [issueAhead_next] at isAhead
    · exact .sameIssue nofun rfl (fun _ isAhead => isAhead) rfl
  | notifying rest sequel =>
    cases done
    refine .sameIssue (invalidateNext_ne_starting _ sequel) (request_invalidateNext _ sequel)
      (fun issue isAhead => ?_)
      (receipt_invalidateNext _ sequel)
    rwa [issueAhead_invalidateNext] at isAhead
  | issuing issue => cases done; exact .sameIssue nofun rfl (fun _ isAhead => isAhead) rfl
  | binding issue => cases done; exact .sameIssue nofun rfl (fun _ isAhead => isAhead) rfl
  | persisting issue token =>
    obtain ⟨written, isWritten, same⟩ := map_eq_some_iff.mp done
    cases same
    exact .nothing nofun rfl rfl rfl
  | rollingBack => cases done; exact .nothing nofun rfl rfl rfl
  | announcing again answer =>
    cases again with
    | true =>
      cases done
      refine ⟨nofun, (fun _ isRequest => nomatch isRequest), (fun _ isIssue => nomatch isIssue),
        fun receipt isReceipt => .inl ?_⟩
      cases answer <;> exact isReceipt
    | false =>
      cases done
      refine ⟨nofun, (fun _ isRequest => nomatch isRequest), (fun _ isIssue => nomatch isIssue),
        fun receipt isReceipt => .inl ?_⟩
      cases answer <;> exact isReceipt
  | retiringKeys request second targets =>
    cases targets with
    | nil =>
      obtain ⟨_, ⟨_, job, present, rfl⟩ | ⟨_, rfl⟩⟩ := finishRound_some done
      · refine ⟨nofun, (fun _ isRequest => nomatch isRequest),
        (fun _ isIssue => nomatch isIssue),
          fun receipt isReceipt => .inr ⟨request, job, rfl, present, ?_, ?_⟩⟩
        · obtain ⟨_, later, presentLater, same⟩ := carried request rfl
          cases present.symm.trans presentLater
          exact same
        · exact (some.inj isReceipt).symm
      · exact ⟨nofun, carried, (fun _ isIssue => nomatch isIssue),
        (fun _ isReceipt => nomatch isReceipt)⟩
    | cons target rest =>
      cases done
      exact ⟨nofun, carried, (fun _ isIssue => nomatch isIssue),
        (fun _ isReceipt => nomatch isReceipt)⟩
  | retiringBinding request second target rest =>
    cases done
    exact ⟨nofun, carried, (fun _ isIssue => nomatch isIssue),
      (fun _ isReceipt => nomatch isReceipt)⟩
  | staging request =>
    obtain ⟨job, present, result⟩ := stageOrComplete_some done
    cases result with
    | completes =>
      refine ⟨nofun, (fun _ isRequest => nomatch isRequest), (fun _ isIssue => nomatch isIssue),
        fun receipt isReceipt => .inr ⟨request,
          { job with complete := true, cursorToken := none }, rfl, setAt_self _ _ _, ?_, ?_⟩⟩
      · obtain ⟨opened, isOpened, same⟩ := fits.opened request rfl
        cases present.symm.trans isOpened
        exact same
      · exact (some.inj isReceipt).symm
    | stages =>
      exact ⟨nofun, carried, (fun _ isIssue => nomatch isIssue),
        (fun _ isReceipt => nomatch isReceipt)⟩
  | verifying request id grant parent =>
    rcases (verifyRequest_eq (some.inj done)).2 with rfl | rfl
    · exact .nothing nofun rfl rfl rfl
    · exact .nothing nofun rfl rfl rfl
  | deciding request id grant parent =>
    rcases decideRequest_eq (some.inj done) with ⟨_, rfl⟩ | ⟨rfl, _⟩
    · exact .nothing nofun rfl rfl rfl
    · exact .nothing nofun rfl rfl rfl
  | ended answer =>
    cases done
    refine ⟨nofun, (fun _ isRequest => nomatch isRequest), (fun _ isIssue => nomatch isIssue),
      fun receipt isReceipt => .inl isReceipt⟩

theorem onFailure_request (point : Point) : point.onFailure.request = none := by
  cases point <;> rfl

theorem onFailure_issueAhead (point : Point) : point.onFailure.issueAhead = none := by
  cases point <;> rfl

theorem onFailure_receipt {point : Point}
    (isReceipt : point.onFailure.receipt = some receipt) : point.receipt = some receipt := by
  cases point <;> first | exact isReceipt | exact nomatch isReceipt

end LicoMesh.ToolGrants
