import LicoMesh.ToolGrants.OwnerInvariant

namespace LicoMesh.ToolGrants

variable {request : RetireRequest} {owner : Owner} {key : String} {store after : Store}
  {next : Point} {id : GrantId} {owned : List GrantId} {job : Job} {accounted pending : List Target}
  {call : Call}

structure Retiring (owner : Owner) (key : String) (owned : List GrantId) (store : Store) (job : Job)
    (accounted pending : List Target) : Prop where
  isOwned : store.ownedGrantIds owner = owned
  present : store.job key = some job
  own : job.owner = owner
  retiring : job.complete = false → store.authorityState owner = some .retiring
  retired : job.complete = true → store.authorityState owner = some .retired
  ledger : Ledger key owned store job accounted pending

variable (retiring : Retiring owner key owned store job accounted pending)
include retiring

theorem Retiring.inactive : store.authorityState owner ≠ some .active := by
  intro active
  cases complete : job.complete with
  | false => exact nomatch (retiring.retiring complete).symm.trans active
  | true => exact nomatch (retiring.retired complete).symm.trans active

theorem Retiring.keeps (keeps : Keeps owner key store after) :
    Retiring owner key owned after job accounted pending where
  isOwned := keeps.owned.trans retiring.isOwned
  present := keeps.job.trans retiring.present
  own := retiring.own
  retiring isPending := keeps.authority.trans (retiring.retiring isPending)
  retired complete := keeps.authority.trans (retiring.retired complete)
  ledger := retiring.ledger.keeps retiring.isOwned keeps

omit retiring

def GoesOn (owner : Owner) (key : String) (owned : List GrantId) (job : Job) (after : Store) :
    Prop :=
  ∃ later accounted pending, Retiring owner key owned after later accounted pending ∧
    (job.complete = true → later = job)

include retiring

theorem Retiring.goesOn : GoesOn owner key owned job store :=
  ⟨job, accounted, pending, retiring, fun _ => rfl⟩

theorem Retiring.finalizes
    (finalizes : Finalizes store key after) : GoesOn owner key owned job after := by
  cases finalizes with
  | waits => exact retiring.goesOn
  | nothing => exact retiring.goesOn
  | accounts pending_eq isLast out present =>
    rw [retiring.ledger.filter_pending] at pending_eq
    cases pending_eq
    cases retiring.present.symm.trans present
    have isPending : job.complete = false := by
      refine Bool.eq_false_of_not_eq_true fun complete => ?_
      rw [retiring.ledger.pending_eq_nil complete] at isLast
      exact nomatch isLast
    refine ⟨_, _, _, ⟨retiring.isOwned, setAt_self _ _ _, retiring.own,
      fun _ => retiring.retiring isPending,
      (fun complete => nomatch isPending.symm.trans complete),
      retiring.ledger.account isLast out⟩, fun complete => ?_⟩
    exact nomatch isPending.symm.trans complete

theorem Retiring.stagesOrCompletes (sound : store.Sound) (isKey : request.idempotencyKey = key)
    (isOwner : request.owner = owner) (result : StagesOrCompletes store request job after next) :
    GoesOn owner key owned job after := by
  subst isKey isOwner
  obtain ⟨later, behind⟩ := retiring.ledger.later
  have rows := retiring.ledger.ownerRows sound retiring.isOwned behind request.limit
  have positive : request.limit ≠ 0 := by
    unfold RetireRequest.limit
    split <;> omega
  cases result with
  | completes empty isRetiring =>
    rw [rows, List.take_eq_nil_iff] at empty
    have all : owned = grantIdsOf accounted := by
      rw [behind, empty.resolve_left positive, List.append_nil]
    have changed : (store.setAuthority request.owner .retired).authorityState request.owner =
        some .retired := by
      rw [authorityState_setAuthority, if_pos rfl, isRetiring]
      rfl
    refine ⟨{ job with complete := true, cursorToken := none }, accounted, pending,
      ⟨retiring.isOwned, setAt_self _ _ _, retiring.own, (fun isPending => nomatch isPending),
        fun _ => changed, { retiring.ledger.completes all with }⟩, fun complete => ?_⟩
    exact nomatch (retiring.retired complete).symm.trans isRetiring
  | stages more staged =>
    have stages := stageTargets_some (fun id => (sound.known id).mpr) staged
    rw [rows] at stages
    obtain ⟨fresh, ledger, _, _⟩ := retiring.ledger.stages sound retiring.isOwned behind stages
    have authorities : after.authorities = store.authorities := by rw [stages.same]
    refine ⟨job, accounted, pending ++ fresh,
      ⟨?_, ?_, retiring.own, fun isPending => ?_, ?_, ledger⟩,
      fun _ => rfl⟩
    · rw [← retiring.isOwned, stages.same]
      rfl
    · rw [stages.same]
      exact retiring.present
    · unfold Store.authorityState
      rw [authorities]
      exact retiring.retiring isPending
    · intro complete
      unfold Store.authorityState
      rw [authorities]
      exact retiring.retired complete

theorem Retiring.markedKey (live : target.capabilityInvalidated = false) :
    Retiring owner key owned (store.invalidateTargetKey key target) job
      (accounted.map (markKey target)) (pending.map (markKey target)) := by
  refine ⟨?_, ?_, retiring.own, ?_, ?_, retiring.ledger.invalidateTargetKey retiring.isOwned live⟩
  all_goals
    unfold Store.invalidateTargetKey
    rw [live]
  · exact retiring.isOwned
  · exact retiring.present
  · exact retiring.retiring
  · exact retiring.retired

theorem Retiring.invalidateTargetKey (target : Target) : ∃ accounted pending,
      Retiring owner key owned (store.invalidateTargetKey key target) job accounted pending := by
  cases live : target.capabilityInvalidated with
  | true =>
    unfold Store.invalidateTargetKey
    rw [live]
    exact ⟨accounted, pending, retiring⟩
  | false => exact ⟨_, _, retiring.markedKey live⟩

theorem Retiring.markedBinding (live : target.bindingInvalidated = false) :
    Retiring owner key owned (store.invalidateTargetBinding key target) job
      (accounted.map (markBinding target)) (pending.map (markBinding target)) := by
  refine ⟨?_, ?_, retiring.own, ?_, ?_,
    retiring.ledger.invalidateTargetBinding retiring.isOwned live⟩
  all_goals
    unfold Store.invalidateTargetBinding
    rw [live]
  · exact retiring.isOwned
  · exact retiring.present
  · exact retiring.retiring
  · exact retiring.retired

theorem Retiring.invalidateTargetBinding (target : Target) : ∃ accounted pending,
      Retiring owner key owned (store.invalidateTargetBinding key target) job accounted
        pending := by
  cases live : target.bindingInvalidated with
  | true =>
    unfold Store.invalidateTargetBinding
    rw [live]
    exact ⟨accounted, pending, retiring⟩
  | false => exact ⟨_, _, retiring.markedBinding live⟩

theorem Retiring.performOwn (sound : store.Sound) (fits : Fits owner key store call)
    (isRequest : call.request = some request) (isKey : request.idempotencyKey = key)
    (done : perform store call.command call.point = some (after, next)) :
    GoesOn owner key owned job after := by
  have isOwner : call.point.request = some request → request.owner = owner := by
    intro isRequest
    obtain ⟨found, present, same⟩ := fits.opened request isRequest
    rw [isKey, retiring.present] at present
    cases present
    exact same.symm.trans retiring.own
  have isCommand := fits.own request isRequest
  obtain ⟨command, point⟩ := call
  subst isCommand
  cases point with
  | starting =>
    obtain ⟨opens, _⟩ := startRetire_some done
    cases opens with
    | opened => exact retiring.goesOn
    | retired absent | active absent =>
      rw [isKey] at absent
      exact nomatch absent.symm.trans retiring.present
  | retiringKeys read second targets =>
    cases isRequest
    cases targets with
    | nil => exact retiring.finalizes (isKey ▸ (finishRound_some done).1)
    | cons target rest =>
      cases done
      obtain ⟨accounted, pending, later⟩ := retiring.invalidateTargetKey target
      rw [isKey]
      exact later.goesOn
  | retiringBinding read second target rest =>
    cases isRequest
    cases done
    obtain ⟨accounted, pending, later⟩ := retiring.invalidateTargetBinding target
    rw [isKey]
    exact later.goesOn
  | staging read =>
    cases isRequest
    obtain ⟨found, present, result⟩ := stageOrComplete_some done
    rw [isKey, retiring.present] at present
    cases present
    exact retiring.stagesOrCompletes sound isKey (isOwner rfl) result
  | _ => exact nomatch isRequest

theorem Retiring.perform (sound : store.Sound) (fits : Fits owner key store call)
    (quiet : ∀ issue, call.point.issueAhead = some issue → issue.id ∉ owned)
    (done : perform store call.command call.point = some (after, next)) :
    GoesOn owner key owned job after := by
  by_cases foreign : ∀ request, call.request = some request → request.idempotencyKey ≠ key
  · refine (retiring.keeps (perform_keeps sound retiring.inactive ?_ ?_ done)).goesOn
    · rw [retiring.isOwned]
      exact quiet
    · intro request isRequest
      refine ⟨foreign request isRequest, fun isOwner => ?_⟩
      exact foreign request isRequest (fits.oneKey request isRequest isOwner)
  · push Not at foreign
    obtain ⟨request, isRequest, isKey⟩ := foreign
    exact retiring.performOwn sound fits isRequest isKey done

omit retiring

structure Waiting (owner : Owner) (key : String) (store : Store) : Prop where
  job : ∀ job, store.job key = some job → job.owner ≠ owner
  authority : store.authorityState owner = none ∨ store.authorityState owner = some .active

def IsFirst (owner : Owner) (key : String) (store : Store) (call : Call) : Prop :=
  call.point = .starting ∧ store.job key = none ∧
    ∃ request ∈ call.request, request.owner = owner ∧ request.idempotencyKey = key

theorem Waiting.perform (waiting : Waiting owner key store) (sound : store.Sound)
    (fits : Fits owner key store call)
    (done : perform store call.command call.point = some (after, next)) :
    Waiting owner key after ∨ (IsFirst owner key store call ∧
        ∃ job, Retiring owner key (store.ownedGrantIds owner) after job [] []) := by
  have touches := perform_touches (fun id => (sound.known id).mpr) done
  by_cases foreign : ∀ request, call.request = some request → request.owner ≠ owner
  · refine .inl ⟨fun job present => ?_, ?_⟩
    · cases before : store.job key with
      | some old =>
        obtain ⟨later, isLater, same⟩ := touches.jobs key old before
        rw [present] at isLater
        cases isLater
        rw [same]
        exact waiting.job old before
      | none =>
        obtain ⟨request, rfl, _, same⟩ := touches.opened key job before present
        exact same ▸ foreign request rfl
    · rw [touches.authority owner foreign]
      exact waiting.authority
  · push Not at foreign
    obtain ⟨request, isRequest, isOwner⟩ := foreign
    have isKey := fits.oneKey request isRequest isOwner
    have isCommand := fits.own request isRequest
    have notOpened : call.point.request ≠ some request := by
      intro isOpen
      obtain ⟨job, present, same⟩ := fits.opened request isOpen
      rw [isKey] at present
      exact waiting.job job present (same.trans isOwner)
    obtain ⟨command, point⟩ := call
    subst isCommand
    cases point with
    | starting =>
      obtain ⟨opens, _⟩ := startRetire_some done
      cases opens with
      | opened => exact .inl waiting
      | retired _ state =>
        rw [isOwner] at state
        rcases waiting.authority with none | active
        · exact nomatch none.symm.trans state
        · exact nomatch active.symm.trans state
      | active absent state =>
        rw [isKey] at absent
        refine .inr ⟨⟨rfl, absent, request, rfl, isOwner, isKey⟩,
          { pluginId := request.pluginId, ownerGeneration := request.generation },
          rfl, ?_, isOwner, fun _ => ?_, (fun complete => nomatch complete), ?_⟩
        · rw [isKey]
          exact setAt_self _ _ _
        · have changed : (store.setAuthority request.owner .retiring).authorityState owner =
              some .retiring := by
            rw [authorityState_setAuthority, if_pos isOwner.symm, ← isOwner, state]
            rfl
          exact changed
        · exact .opened
            { pluginId := request.pluginId, ownerGeneration := request.generation }
            (sound.unopened key absent)
    | retiringKeys | retiringBinding | staging => exact absurd isRequest notOpened
    | _ => exact nomatch isRequest

end LicoMesh.ToolGrants
