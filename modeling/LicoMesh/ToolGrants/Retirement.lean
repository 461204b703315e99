import LicoMesh.ToolGrants.Soundness

namespace LicoMesh.ToolGrants

open Library

variable {grant : Grant} {other : String}

def Store.KeysInvalid (store : Store) (id : GrantId) : Prop :=
  ∀ capabilityKey ∈ store.keys id, capabilityKey.valid = false

def Store.BindingsInvalid (store : Store) (id : GrantId) : Prop :=
  ∀ binding ∈ store.bindings id, binding.valid = false

def Store.Terminal (store : Store) (id : GrantId) : Prop :=
  ∃ grant, store.grant id = some grant ∧ grant.terminal = true

structure Keeps (owner : Owner) (key : String) (before after : Store) : Prop where
  owned : after.ownedGrantIds owner = before.ownedGrantIds owner
  authority : after.authorityState owner = before.authorityState owner
  job : after.job key = before.job key
  targets : after.targets key = before.targets key
  terminal : ∀ id ∈ before.ownedGrantIds owner, before.Terminal id → after.Terminal id
  keys : ∀ id ∈ before.ownedGrantIds owner, before.KeysInvalid id → after.KeysInvalid id
  bindings : ∀ id ∈ before.ownedGrantIds owner, before.BindingsInvalid id → after.BindingsInvalid id

variable {owner : Owner} {key : String} {store middle after : Store} {next : Point} {id : GrantId}

theorem invalid_invalidateKeys (keys : List CapabilityKey) :
    ∀ capabilityKey ∈ invalidateKeys keys, capabilityKey.valid = false := by
  intro capabilityKey isIn
  obtain ⟨old, _, rfl⟩ := List.mem_map.mp isIn
  rfl

theorem invalid_invalidateBindings (bindings : List Binding) :
    ∀ binding ∈ invalidateBindings bindings, binding.valid = false := by
  intro binding isIn
  obtain ⟨old, _, rfl⟩ := List.mem_map.mp isIn
  rfl

theorem keysInvalid_self : (store.invalidateCredential id).KeysInvalid id := by
  rw [Store.KeysInvalid, Store.invalidateCredential_keys, setAt_self]
  exact invalid_invalidateKeys _

theorem bindingsInvalid_self : (store.invalidateBinding id).BindingsInvalid id := by
  rw [Store.BindingsInvalid, Store.invalidateBinding_bindings, setAt_self]
  exact invalid_invalidateBindings _

namespace Keeps

theorem refl (store : Store) : Keeps owner key store store :=
  ⟨rfl, rfl, rfl, rfl, fun _ _ => id, fun _ _ => id, fun _ _ => id⟩

theorem of_eq (same : after = store) : Keeps owner key store after := same ▸ refl _

theorem trans (first : Keeps owner key store middle) (second : Keeps owner key middle after) :
    Keeps owner key store after where
  owned := second.owned.trans first.owned
  authority := second.authority.trans first.authority
  job := second.job.trans first.job
  targets := second.targets.trans first.targets
  terminal id isOwned was := second.terminal id (first.owned ▸ isOwned)
    (first.terminal id isOwned was)
  keys id isOwned was := second.keys id (first.owned ▸ isOwned) (first.keys id isOwned was)
  bindings id isOwned was :=
    second.bindings id (first.owned ▸ isOwned) (first.bindings id isOwned was)

theorem credentials (after : Store) (same : after = { store with
      keys := after.keys, bindings := after.bindings, clock := after.clock, drawn := after.drawn,
      returned := after.returned, accepted := after.accepted, created := after.created })
    (keys : ∀ id ∈ store.ownedGrantIds owner, store.KeysInvalid id → after.KeysInvalid id)
    (bindings : ∀ id ∈ store.ownedGrantIds owner, store.BindingsInvalid id →
      after.BindingsInvalid id) : Keeps owner key store after where
  owned := by rw [same]; rfl
  authority := by rw [same]; rfl
  job := by rw [same]
  targets := by rw [same]
  terminal id _ := by
    rintro ⟨grant, present, terminal⟩
    exact ⟨grant, by rw [same]; exact present, terminal⟩
  keys := keys
  bindings := bindings

theorem invalidateCredential : Keeps owner key store (store.invalidateCredential id) := by
  refine credentials _ rfl (fun other _ was => ?_) fun _ _ was => was
  unfold Store.KeysInvalid
  rw [Store.invalidateCredential_keys]
  by_cases same : other = id
  · rw [same, setAt_self]
    exact invalid_invalidateKeys _
  · rw [setAt_of_ne same]
    exact was

theorem invalidateBinding : Keeps owner key store (store.invalidateBinding id) := by
  refine credentials _ rfl (fun _ _ was => was) fun other _ was => ?_
  unfold Store.BindingsInvalid
  rw [Store.invalidateBinding_bindings]
  by_cases same : other = id
  · rw [same, setAt_self]
    exact invalid_invalidateBindings _
  · rw [setAt_of_ne same]
    exact was

theorem issueKey (foreign : id ∉ store.ownedGrantIds owner) :
    Keeps owner key store (store.issueKey id grant) := by
  refine credentials _ rfl (fun other isOwned was => ?_) fun _ _ was => was
  have apart : other ≠ id := fun same => foreign (same ▸ isOwned)
  unfold Store.KeysInvalid
  rw [Store.issueKey_keys, setAt_of_ne apart]
  exact was

theorem bindKey (foreign : id ∉ store.ownedGrantIds owner) :
    Keeps owner key store (store.bindKey id token grant) := by
  refine credentials _ rfl (fun _ _ was => was) fun other isOwned was => ?_
  have apart : other ≠ id := fun same => foreign (same ▸ isOwned)
  unfold Store.BindingsInvalid
  rw [Store.bindKey_bindings, setAt_of_ne apart]
  exact was

theorem ownedGrantIds_upsertGrant (sound : store.Sound) :
    (store.upsertGrant id grant).ownedGrantIds owner = store.ownedGrantIds owner := by
  unfold Store.ownedGrantIds
  change (insertKey id store.grantIds).filter (fun id => owner ∈ store.owners id) = _
  by_cases present : id ∈ store.grantIds
  · unfold insertKey
    rw [if_pos present]
  · refine filter_insertKey (decide_eq_false fun isOwner => present ?_)
    exact sound.owned id fun empty => by rw [empty] at isOwner; exact nomatch isOwner

theorem upsertGrant (sound : store.Sound)
    (terminal : id ∈ store.ownedGrantIds owner → store.Terminal id → grant.terminal = true) :
    Keeps owner key store (store.upsertGrant id grant) where
  owned := ownedGrantIds_upsertGrant sound
  authority := rfl
  job := rfl
  targets := rfl
  terminal other isOwned was := by
    unfold Store.Terminal
    rw [Store.upsertGrant_grant]
    by_cases same : other = id
    · rw [same, setAt_self]
      exact ⟨grant, rfl, terminal (same ▸ isOwned) (same ▸ was)⟩
    · rw [setAt_of_ne same]
      exact was
  keys _ _ was := was
  bindings _ _ was := was

theorem setOwners (before : owner ∉ store.owners id) (now : owner ∉ owners) :
    Keeps owner key store { store with owners := setAt store.owners id owners } where
  owned := by
    refine List.filter_congr fun other _ => decide_eq_decide.mpr ?_
    change owner ∈ setAt store.owners id owners other ↔ _
    by_cases same : other = id
    · rw [same, setAt_self]
      exact iff_of_false now before
    · rw [setAt_of_ne same]
  authority := rfl
  job := rfl
  targets := rfl
  terminal _ _ was := was
  keys _ _ was := was
  bindings _ _ was := was

theorem revokeGrants (sound : store.Sound) (ids : List GrantId) :
    Keeps owner key store (store.revokeGrants ids) := by
  rw [Store.revokeGrants_eq fun id => (sound.known id).mpr]
  refine ⟨rfl, rfl, rfl, rfl, fun id _ was => ?_, fun _ _ was => was, fun _ _ was => was⟩
  obtain ⟨grant, present, terminal⟩ := was
  unfold Store.Terminal
  dsimp only
  split
  · exact ⟨grant.revoke store.clock, by rw [present]; rfl, rfl⟩
  · exact ⟨grant, present, terminal⟩

theorem setJob {job : Job} (apart : other ≠ key) : Keeps owner key store (store.setJob other job) :=
  ⟨rfl, rfl, setAt_of_ne apart.symm, rfl, fun _ _ was => was, fun _ _ was => was,
    fun _ _ was => was⟩

theorem setAuthority {other : Owner} (apart : owner ≠ other) :
    Keeps owner key store (store.setAuthority other state) :=
  ⟨rfl, by rw [authorityState_setAuthority, if_neg apart], rfl, rfl, fun _ _ was => was,
    fun _ _ was => was, fun _ _ was => was⟩

theorem updateTarget (apart : other ≠ key) :
    Keeps owner key store (store.updateTarget other id update) :=
  ⟨rfl, rfl, rfl, setAt_of_ne apart.symm, fun _ _ was => was, fun _ _ was => was,
    fun _ _ was => was⟩

theorem stages (apart : other ≠ key)
    (stages : Stages store after other rows) : Keeps owner key store after where
  owned := by rw [stages.same]; rfl
  authority := by rw [stages.same]; rfl
  job := by rw [stages.same]
  targets := stages.others key apart.symm
  terminal id _ := by
    rintro ⟨grant, present, terminal⟩
    exact stages.terminal present terminal
  keys id _ was := by
    rw [stages.same]
    exact was
  bindings id _ was := by
    rw [stages.same]
    exact was

theorem finalizes (apart : other ≠ key) (finalizes : Finalizes store other after) :
    Keeps owner key store after := by
  cases finalizes with
  | waits => exact refl store
  | nothing => exact refl store
  | accounts =>
    exact ⟨rfl, rfl, setAt_of_ne apart.symm, setAt_of_ne apart.symm, fun _ _ was => was,
      fun _ _ was => was, fun _ _ was => was⟩

end Keeps

def Sequel.issue : Sequel → Option Issue
  | .rotate issue => some issue
  | _ => none

def Point.issueAhead : Point → Option Issue
  | .cascading sequel => sequel.issue
  | .invalidatingKey _ _ sequel => sequel.issue
  | .invalidatingBinding _ _ sequel => sequel.issue
  | .notifying _ sequel => sequel.issue
  | .issuing issue => some issue
  | .binding issue _ => some issue
  | .persisting issue _ => some issue
  | _ => none

def Point.request : Point → Option RetireRequest
  | .retiringKeys request _ _ => some request
  | .retiringBinding request _ _ _ => some request
  | .staging request => some request
  | _ => none

def Call.request (call : Call) : Option RetireRequest :=
  match call.point with
  | .starting =>
    match call.command with
    | .revokeGrantsByPluginOwner request => some request
    | _ => none
  | point => point.request

theorem mem_ownedGrantIds : id ∈ store.ownedGrantIds owner ↔
    id ∈ store.grantIds ∧ owner ∈ store.owners id := by
  unfold Store.ownedGrantIds
  rw [List.mem_filter, decide_eq_true_eq]

theorem Opens.keeps (opens : Opens store request after)
    (foreign : request.idempotencyKey ≠ key ∧ request.owner ≠ owner) :
    Keeps owner key store after := by
  cases opens with
  | opened => exact .refl store
  | retired => exact .setJob foreign.1
  | active => exact (Keeps.setAuthority foreign.2.symm).trans (.setJob foreign.1)

section

variable (sound : store.Sound) (inactive : store.authorityState owner ≠ some .active)
include sound inactive

theorem startCommand_keeps (foreign : ∀ request, command = .revokeGrantsByPluginOwner request →
      request.idempotencyKey ≠ key ∧ request.owner ≠ owner)
    (done : startCommand store command = some (after, next)) : Keeps owner key store after := by
  cases command with
  | createGrant input => exact .of_eq (startCreate_some done).1
  | updateGrant id patch =>
    rcases startUpdate_some done with ⟨same, _⟩ | ⟨_, existing, owners, updates⟩
    · exact .of_eq same
    · rw [updates.after_eq]
      have notBefore := grantOwnersActive_not_mem updates.wereActive inactive
      have notNow := ownersActive_not_mem updates.active inactive
      refine (Keeps.upsertGrant sound fun isOwned => ?_).trans (.setOwners notBefore notNow)
      exact absurd (mem_ownedGrantIds.mp isOwned).2 notBefore
  | rotateGrantToken id => exact .of_eq (startRotate_some done).1
  | revokeGrant id =>
    rcases startRevoke_some done with ⟨same, _⟩ | ⟨_, _, _, same, _⟩
    · exact .of_eq same
    · exact same ▸ .upsertGrant sound fun _ _ => rfl
  | deleteGrant id =>
    rcases startRevoke_some done with ⟨same, _⟩ | ⟨_, _, _, same, _⟩
    · exact .of_eq same
    · exact same ▸ .upsertGrant sound fun _ _ => rfl
  | revokeGrantsByPluginOwner request => exact (startRetire_some done).1.keeps (foreign request rfl)
  | authorizeRequest request => exact .of_eq (startAuthorize_some done).1

theorem persistIssue_keeps (quiet : issue.id ∉ store.ownedGrantIds owner)
    (done : persistIssue store issue token = some after) : Keeps owner key store after := by
  obtain ⟨active, written⟩ := persistIssue_some done
  rcases written with ⟨_, rfl⟩ | ⟨_, rfl⟩
  · exact .upsertGrant sound fun isOwned => absurd isOwned quiet
  · have notBefore : owner ∉ store.owners issue.id := by
      intro isIn
      refine quiet (mem_ownedGrantIds.mpr ⟨sound.owned issue.id fun empty => ?_, isIn⟩)
      rw [empty] at isIn
      exact nomatch isIn
    have upserted : Keeps owner key store
        (store.upsertGrant issue.id { issue.grant with tokenHash := token }) :=
      .upsertGrant sound fun isOwned => absurd isOwned quiet
    have owned := upserted.trans (.setOwners notBefore (ownersActive_not_mem active inactive))
    exact owned.trans (.credentials _ rfl (fun _ _ was => was) fun _ _ was => was)

end

theorem Accepts.keeps (accepts : Accepts store after id recordUse) (sound : store.Sound)
    (inactive : store.authorityState owner ≠ some .active) : Keeps owner key store after := by
  obtain ⟨row, rfl, _⟩ := accepts.after_eq
  have logged : Keeps owner key store
      { store with accepted := ⟨id, store.owners id, recordUse⟩ :: store.accepted } :=
    .credentials _ rfl (fun _ _ was => was) fun _ _ was => was
  split
  · have loggedSound : Store.Sound
        { store with accepted := ⟨id, store.owners id, recordUse⟩ :: store.accepted } :=
      sound.elsewhere rfl rfl rfl rfl rfl
    refine logged.trans (.upsertGrant loggedSound fun isOwned => ?_)
    exact absurd (mem_ownedGrantIds.mp isOwned).2
      (grantOwnersActive_not_mem accepts.active inactive)
  · exact logged

theorem returnAnswer_keeps (answer : Answer) : Keeps owner key store (returnAnswer store answer) :=
    by
  cases answer <;> exact .credentials _ rfl (fun _ _ was => was) fun _ _ was => was

theorem perform_keeps (sound : store.Sound) {call : Call}
    (inactive : store.authorityState owner ≠ some .active)
    (quiet : ∀ issue, call.point.issueAhead = some issue → issue.id ∉ store.ownedGrantIds owner)
    (foreign : ∀ request, call.request = some request →
      request.idempotencyKey ≠ key ∧ request.owner ≠ owner)
    (done : perform store call.command call.point = some (after, next)) :
    Keeps owner key store after := by
  obtain ⟨command, point⟩ := call
  dsimp only at quiet done
  cases point with
  | starting =>
    refine startCommand_keeps sound inactive (fun request same => foreign request ?_) done
    rw [same]
    rfl
  | cascading sequel =>
    obtain ⟨revoked, isRevoked, same⟩ := Option.map_eq_some_iff.mp done
    cases same
    exact (revokeDescendantRows_some isRevoked).2.2 ▸ .revokeGrants sound _
  | invalidatingKey => cases done; exact .invalidateCredential
  | invalidatingBinding => cases done; exact .invalidateBinding
  | notifying => cases done; exact .refl store
  | issuing issue => cases done; exact .issueKey (quiet issue rfl)
  | binding issue => cases done; exact .bindKey (quiet issue rfl)
  | persisting issue token =>
    obtain ⟨written, isWritten, same⟩ := Option.map_eq_some_iff.mp done
    cases same
    exact persistIssue_keeps sound inactive (quiet issue rfl) isWritten
  | rollingBack => cases done; exact .invalidateCredential
  | announcing again answer =>
    cases again with
    | true => cases done; exact .refl store
    | false => cases done; exact returnAnswer_keeps answer
  | retiringKeys request second targets =>
    have apart := (foreign request rfl).1
    cases targets with
    | nil => exact .finalizes apart (finishRound_some done).1
    | cons target rest =>
      cases done
      unfold Store.invalidateTargetKey
      split
      · exact .refl store
      · exact Keeps.invalidateCredential.trans (.updateTarget apart)
  | retiringBinding request second target rest =>
    cases done
    unfold Store.invalidateTargetBinding
    split
    · exact .refl store
    · exact Keeps.invalidateBinding.trans (.updateTarget (foreign request rfl).1)
  | staging request =>
    obtain ⟨job, present, result⟩ := stageOrComplete_some done
    cases result with
    | completes =>
      exact (Keeps.setAuthority (foreign request rfl).2.symm).trans
        (.setJob (foreign request rfl).1)
    | stages _ staged =>
      exact .stages (foreign request rfl).1
        (stageTargets_some (fun id => (sound.known id).mpr) staged)
  | verifying request id grant parent =>
    exact .of_eq (verifyRequest_eq (Option.some.inj done)).1
  | deciding request id grant parent =>
    rcases decideRequest_eq (Option.some.inj done) with ⟨same, _⟩ | ⟨_, accepts⟩
    · exact .of_eq same
    · exact accepts.keeps sound inactive
  | ended => cases done; exact .refl store

end LicoMesh.ToolGrants
