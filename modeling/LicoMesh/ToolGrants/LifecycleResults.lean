import LicoMesh.ToolGrants.LifecycleLimits
import LicoMesh.ToolGrants.RetirementRuns

namespace LicoMesh.ToolGrants

open Library

/-! What the lifecycle of the grants promises, in every run that leaves no command while it owes
something. -/

variable {store : Store} {id : GrantId} {grant : Grant} {token : Token} {world : GrantWorld}
  {opened left : List GrantId} {sequel : Sequel} {point : Point}

def LastTokenServes (store : Store) (id : GrantId) (grant : Grant) : Prop :=
  ∃ token, store.returned id = some token ∧
    (∀ parent capability request, holdsCapability grant.capabilities capability = true →
      (∀ above ∈ parent, holdsCapability above.capabilities capability = true) →
      grant.context.admits request = true →
      store.capabilityCheck token id grant parent capability request = true) ∧
    ∀ other, other ≠ token → ∀ parent capability request,
      store.capabilityCheck other id grant parent capability request = false

theorem KeyFor.verifies (key : KeyFor store id grant token)
    (live : isExpired grant.expiresAt store.clock = false)
    (holds : holdsCapability grant.capabilities capability = true) :
    verifyKey (store.keys id) token capability store.clock = true := by
  obtain ⟨capabilityKey, isIn, isToken, isValid, outlasts, covers⟩ := key.isValid
  refine List.any_eq_true.mpr ⟨capabilityKey, isIn, ?_⟩
  rw [decide_eq_true_eq]
  exact ⟨isToken, isValid, outlasts _ live, covers capability holds⟩

theorem KeyFor.refuses (key : KeyFor store id grant token) (apart : other ≠ token)
    (capability : String) : verifyKey (store.keys id) other capability store.clock = false := by
  refine List.any_eq_false.mpr fun capabilityKey isIn verified => ?_
  rw [decide_eq_true_eq] at verified
  exact apart (verified.1.symm.trans (key.isOnly capabilityKey isIn verified.2.1))

theorem BindingFor.verifies (binding : BindingFor store id grant token)
    (live : isExpired grant.expiresAt store.clock = false)
    (admits : grant.context.admits request = true) :
    verifyBinding (store.bindings id) token request store.clock = true := by
  obtain ⟨found, isIn, isToken, isValid, outlasts, covers⟩ := binding.isValid
  unfold verifyBinding
  rw [decide_eq_true_eq]
  refine .inr (List.any_eq_true.mpr ⟨found, List.mem_filter.mpr ⟨isIn, ?_⟩, ?_⟩)
  · exact decide_eq_true isToken
  · rw [decide_eq_true_eq]
    exact ⟨isValid, outlasts _ live, covers request admits⟩

theorem Settled.serves (settled : Settled store id) (present : store.grant id = some grant)
    (isLive : grant.terminal = false) (live : isExpired grant.expiresAt store.clock = false) :
    LastTokenServes store id grant := by
  cases settled with
  | lapsed facts =>
    rw [Grant.terminal, (facts grant present).1] at isLive
    cases isLive
  | live row token isRow _ returned key binding =>
    rw [present] at isRow
    cases isRow
    refine ⟨token, returned, fun parent capability request holds above admits => ?_,
      fun other apart parent capability request => ?_⟩
    · unfold Store.capabilityCheck
      rw [decide_eq_true_eq]
      refine ⟨key.verifies live holds, ?_, admits, binding.verifies live admits⟩
      cases parent with
      | none => rfl
      | some parent => exact above parent rfl
    · unfold Store.capabilityCheck
      rw [decide_eq_false_iff_not]
      intro checked
      cases (key.refuses apart capability).symm.trans checked.1

theorem Cleaning.settled_live (cleaning : Cleaning store opened left sequel)
    (present : store.grant id = some grant) (isLive : grant.terminal = false)
    (apart : sequel.issues ≠ some id) : Settled store id := by
  refine cleaning.settled id (fun isLeft => ?_) fun isOwn => ?_
  · exact nomatch ((cleaning.revoked id isLeft).terminal present).symm.trans isLive
  · have own := cleaning.own
    cases sequel with
    | update => exact nomatch isOwn
    | rotate issue => exact apart (congrArg some (List.mem_singleton.mp isOwn).symm)
    | revoke grantId =>
      have same := List.mem_singleton.mp isOwn
      exact nomatch (Store.Revoked.terminal (same ▸ own) present).symm.trans isLive

theorem At.settled_live (holds : At store point) (isOf : point.IsOf command)
    (present : store.grant id = some grant) (isLive : grant.terminal = false)
    (apart : command.issues ≠ some id) : Settled store id := by
  have other : ∀ {issue : Issue}, command.issues = some issue.id → id ≠ issue.id :=
    fun issues same => apart (by rw [issues, same])
  cases point with
  | starting => exact holds.settled id
  | cascading => exact holds.1.settled_live present isLive (isOf.1 ▸ apart)
  | invalidatingKey | notifying =>
    obtain ⟨left, _, cleaning, _⟩ := holds
    exact cleaning.settled_live present isLive (isOf.1 ▸ apart)
  | invalidatingBinding =>
    obtain ⟨_, ⟨left, _, cleaning, _⟩ | ⟨_, _, cleaning⟩⟩ := holds
    · exact cleaning.settled_live present isLive (isOf.1 ▸ apart)
    · exact cleaning.settled_live present isLive (isOf.1 ▸ apart)
  | issuing | binding | persisting => exact holds.1.others id (other isOf.1)
  | announcing again answer =>
    cases answer with
    | granted grantId =>
      exact holds.others id fun same => apart (by rw [isOf.1, same])
    | failed | missing | done | receipt | accepted | denied => exact holds.settled id
  | ended => exact holds.settled id
  | rollingBack | retiringKeys | retiringBinding | staging | verifying | deciding =>
    exact False.elim holds

def Unissued (world : GrantWorld) (id : GrantId) : Prop :=
  ∀ call ∈ world.agents, call.command.issues = some id → call.isResting = true

def TokensHold (world : GrantWorld) : Prop :=
  ∀ id grant, world.shared.grant id = some grant → grant.terminal = false →
    isExpired grant.expiresAt world.shared.clock = false → Unissued world id →
    LastTokenServes world.shared id grant

/-- A key or a binding that is valid belongs to a grant that is live and to the token returned last
for it. -/
def NothingLeft (store : Store) : Prop :=
  ∀ id, (∀ capabilityKey ∈ store.keys id, capabilityKey.valid = true →
      store.returned id = some capabilityKey.token ∧
        ∃ grant, store.grant id = some grant ∧ grant.terminal = false) ∧
    ∀ binding ∈ store.bindings id, binding.valid = true → store.returned id = some binding.token ∧
        ∃ grant, store.grant id = some grant ∧ grant.terminal = false

/-- What has been revoked without an error is revoked with all that is delegated from it. -/
def RevocationsHold (world : GrantWorld) : Prop :=
  ∀ call ∈ world.agents, ∀ id, call.command.revokes = some id → call.point = .ended .done →
    ∀ other ∈ id :: world.shared.delegatedDescendants id,
      world.shared.Revoked other ∧ world.shared.KeysInvalid other ∧
        world.shared.BindingsInvalid other

def Resting (world : GrantWorld) : Prop := ∀ call ∈ world.agents, call.isResting = true

def UsesHold (store : Store) (id : GrantId) : Prop :=
  ∀ grant, store.grant id = some grant → grant.maxUses ≠ 0 → store.acceptedUses id ≤ grant.maxUses

theorem Orderly.tokensHold (orderly : Orderly world) : TokensHold world := by
  intro id grant present isLive live unissued
  refine Settled.serves ?_ present isLive live
  cases orderly.phase with
  | resting _ idle => exact idle.settled id
  | running index call running =>
    refine running.holds.settled_live running.isOf present isLive fun issues => ?_
    have resting := unissued call (List.mem_of_getElem? running.isCall) issues
    exact nomatch resting.symm.trans running.isRunning

theorem Orderly.idle (orderly : Orderly world) (resting : Resting world) : Idle world.shared := by
  cases orderly.phase with
  | resting _ idle => exact idle
  | running index call running =>
    have rests := resting call (List.mem_of_getElem? running.isCall)
    exact nomatch rests.symm.trans running.isRunning

theorem Idle.nothingLeft (idle : Idle store) : NothingLeft store := by
  intro id
  cases idle.settled id with
  | live grant token present isLive returned key binding =>
    refine ⟨fun capabilityKey isIn isValid => ⟨?_, grant, present, isLive⟩,
      fun found isIn isValid => ⟨?_, grant, present, isLive⟩⟩
    · rw [returned, key.isOnly capabilityKey isIn isValid]
    · rw [returned, binding.isOnly found isIn isValid]
  | lapsed _ keys bindings =>
    exact ⟨(fun capabilityKey isIn isValid => nomatch (keys _ isIn).symm.trans isValid),
      fun binding isIn isValid => nomatch (bindings _ isIn).symm.trans isValid⟩

theorem Idle.descendants (idle : Idle store) (revoked : store.Revoked id) :
    ∀ other ∈ store.delegatedDescendants id, store.Revoked other := by
  refine Store.delegatedDescendants_induction revoked fun node child isRevoked isChild => ?_
  obtain ⟨_, row, present, delegated, isParent⟩ := Store.mem_childrenOf.mp isChild
  obtain ⟨above, isAbove, facts⟩ := isRevoked
  refine (idle.settled child).revoked present ?_
  exact idle.closed.below child row present delegated above (by rw [isParent, isAbove])
    (Store.Revoked.terminal ⟨above, isAbove, facts⟩ isAbove) List.not_mem_nil

theorem Idle.credentials (idle : Idle store) (revoked : store.Revoked id) :
    store.KeysInvalid id ∧ store.BindingsInvalid id := by
  cases idle.settled id with
  | live row token present isLive =>
    exact nomatch (revoked.terminal present).symm.trans isLive
  | lapsed _ keys bindings => exact ⟨keys, bindings⟩

theorem Orderly.revocationsHold (orderly : Orderly world) (resting : Resting world) :
    RevocationsHold world := by
  intro call isIn id isRevoked isDone other isBelow
  have idle := orderly.idle resting
  obtain ⟨index, isCall⟩ := List.mem_iff_getElem?.mp isIn
  have root := (orderly.known index call isCall).answered id isRevoked (by rw [isDone]; rfl)
  have revoked : world.shared.Revoked other := by
    rcases List.mem_cons.mp isBelow with same | isBelow
    · exact same ▸ root
    · exact idle.descendants root other isBelow
  exact ⟨revoked, idle.credentials revoked⟩

theorem grants_lifecycle {events : List Event} (allowed : EachCommand step Allowed ⟨{}, []⟩ events) :
    TokensHold (run events) ∧
      (Resting (run events) → NothingLeft (run events).shared ∧ RevocationsHold (run events)) ∧
      (∀ later, EachCommand step Allowed (run events) later →
        ∀ id, (run events).shared.Revoked id → (runAll step (run events) later).shared.Revoked id) ∧
      ∀ id, EachCommand step (Limited id) ⟨{}, []⟩ events → UsesHold (run events).shared id := by
  have orderly : Orderly (run events) := orderly_empty.run allowed
  refine ⟨orderly.tokensHold, fun resting => ?_, fun later allowedLater id was => ?_,
    fun id limited => ?_⟩
  · exact ⟨(orderly.idle resting).nothingLeft, orderly.revocationsHold resting⟩
  · exact orderly.revoked allowedLater was
  · have spending : Spending id (run events) :=
      spending_empty.run orderly_empty allowed limited
    exact spending.counts.within

instance (world : GrantWorld) : DecidablePred (OneAtATime world) := fun event =>
  match event with
  | .call _ => inferInstanceAs (Decidable (_ ∨ _))
  | .proceed _ _ | .registerPluginGrantOwner _ _ | .wait _ | .crash => .isTrue trivial

instance (world : GrantWorld) : DecidablePred (Finished world) := fun event =>
  match event with
  | .proceed index reply =>
    inferInstanceAs (Decidable (∀ call ∈ world.agents[index]?,
      call.isSpared world.shared reply = true))
  | .crash => inferInstanceAs (Decidable (∀ call ∈ world.agents, call.point.owes = false))
  | .call _ | .registerPluginGrantOwner _ _ | .wait _ => .isTrue trivial

instance : (time limit : Option Nat) → Decidable (notLater time limit)
  | _, none => .isTrue trivial
  | none, some _ => .isFalse fun holds => holds
  | some _, some _ => inferInstanceAs (Decidable (_ ≤ _))

instance (existing updated : Grant) : Decidable (Narrows existing updated) :=
  decidable_of_iff
    ((∀ capability ∈ updated.capabilities,
        holdsCapability existing.capabilities capability = true) ∧
      existing.context.admits updated.context = true ∧
      notLater updated.expiresAt existing.expiresAt)
    ⟨fun facts => ⟨facts.1, facts.2.1, facts.2.2⟩,
      fun narrows => ⟨narrows.capabilities, narrows.context, narrows.expiresAt⟩⟩

instance (store : Store) (grant : Grant) : Decidable (UnderLive store grant) :=
  inferInstanceAs (Decidable (_ → ∀ parent ∈ store.grant grant.parentGrantId, _))

instance (store : Store) (command : Command) : Decidable (Modest store command) :=
  match command with
  | .createGrant _ => inferInstanceAs (Decidable (_ ∧ _))
  | .updateGrant id _ =>
    inferInstanceAs (Decidable (∀ existing ∈ store.grant id, _ → _ ∧ _ ∧ _))
  | .rotateGrantToken _ | .revokeGrant _ | .deleteGrant _ | .revokeGrantsByPluginOwner _
  | .authorizeRequest _ => .isTrue trivial

instance (world : GrantWorld) : DecidablePred (Suited world) := fun event =>
  match event with
  | .proceed index _ =>
    inferInstanceAs (Decidable (∀ call ∈ world.agents[index]?, call.point = .starting →
      Modest world.shared call.command))
  | .call _ | .registerPluginGrantOwner _ _ | .wait _ | .crash => .isTrue trivial

instance (world : GrantWorld) (event : Event) : Decidable (Allowed world event) :=
  decidable_of_iff (OneAtATime world event ∧ Finished world event ∧ Suited world event)
    ⟨fun facts => ⟨facts.1, facts.2.1, facts.2.2⟩,
      fun allowed => ⟨allowed.oneAtATime, allowed.finished, allowed.suited⟩⟩

def coreGrant (id : GrantId) (parent : Option GrantId) : Event :=
  .call (.createGrant {
    id := id, delegated := parent.isSome, parentGrantId := parent.getD "",
    capabilities := ["cap:tool:a"] })

/-- A grant and its child; a rotation that fails before it has invalidated the old token and one
that goes through, a failed update and the revocation of both. -/
def lifecycle : List Event :=
  [coreGrant "a" none] ++ proceedTimes 0 5 ++ [coreGrant "b" (some "a")] ++ proceedTimes 1 5 ++
    [.call (.updateGrant "b" { maxUses := some 3 })] ++ proceedTimes 2 1 ++
    [.proceed 2 (.failed false), .call (.rotateGrantToken "b"), .proceed 3 .ok,
      .proceed 3 (.failed true), .call (.rotateGrantToken "b")] ++ proceedTimes 4 8 ++
    [.call (.deleteGrant "a")] ++ proceedTimes 5 10

theorem grants_lifecycle_sample :
    (run lifecycle).shared.returned "b" = some 2 ∧ (run lifecycle).shared.Revoked "b" ∧
      TokensHold (run lifecycle) ∧
      (Resting (run lifecycle) → NothingLeft (run lifecycle).shared ∧
        RevocationsHold (run lifecycle)) := by
  have allowed : EachCommand step Allowed ⟨{}, []⟩ lifecycle := by decide +kernel
  have revoked : ∃ grant ∈ (run lifecycle).shared.grant "b",
      grant.revokedAt.isSome = true ∧ grant.enabled = false := by decide +kernel
  obtain ⟨grant, present, facts⟩ := revoked
  have holds := grants_lifecycle allowed
  exact ⟨by decide +kernel, ⟨grant, present, facts⟩, holds.1, holds.2.1⟩

def repeatedRevocation : List Event :=
  [coreGrant "a" none] ++ proceedTimes 0 5 ++ [.call (.revokeGrant "a")] ++ proceedTimes 1 2 ++
    [.proceed 1 (.failed false), .call (.revokeGrant "a"), .proceed 2 .ok]

/-- The repeated revocation returns without an error, and the key is valid. -/
theorem revocation_never_finished : EachCommand step OneAtATime ⟨{}, []⟩ repeatedRevocation ∧
      Resting (run repeatedRevocation) ∧ ¬ RevocationsHold (run repeatedRevocation) := by
  have resting : ∀ call ∈ (run repeatedRevocation).agents, call.isResting = true := by
    decide +kernel
  refine ⟨by decide +kernel, resting, fun holds => ?_⟩
  have answered : (⟨.revokeGrant "a", .ended .done⟩ : Call) ∈ (run repeatedRevocation).agents := by
    decide +kernel
  have live : ∃ capabilityKey ∈ (run repeatedRevocation).shared.keys "a",
      capabilityKey.valid = true := by decide +kernel
  obtain ⟨capabilityKey, isIn, isValid⟩ := live
  have revoked := holds _ answered "a" rfl rfl "a" List.mem_cons_self
  exact nomatch (revoked.2.1 capabilityKey isIn).symm.trans isValid

end LicoMesh.ToolGrants
