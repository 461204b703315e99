import LicoMesh.ToolGrants.Lifecycle

namespace LicoMesh.ToolGrants

open Store

/-! What the writes of the lifecycle commands do to settled grants and to the grants below them. -/

variable {store after : Store} {id other : GrantId} {grant row : Grant} {token : Token}
  {opened : List GrantId}

theorem Outlasts.refl (time : Option Nat) : Outlasts time time := fun _ => id

theorem Outlasts.trans (one : Outlasts first second)
    (two : Outlasts second third) : Outlasts first third :=
  fun now live => one now (two now live)

theorem outlasts_of_notLater (sooner : notLater time limit) : Outlasts limit time := by
  intro now live
  cases limit with
  | none => rfl
  | some limit =>
    cases time with
    | none => exact absurd sooner id
    | some time =>
      simp only [isExpired, decide_eq_false_iff_not] at live ⊢
      exact fun expired => live (Nat.le_trans sooner expired)

theorem holdsCapability_of_all (all : ∀ held ∈ narrow, holdsCapability wide held = true)
    (holds : holdsCapability narrow capability = true) :
    holdsCapability wide capability = true := by
  simp only [holdsCapability, decide_eq_true_eq] at all holds ⊢
  rcases holds with isIn | isIn | isIn
  · exact all capability isIn
  · rcases all _ isIn with held | held | held
    · exact .inr (.inl held)
    · exact .inr (.inl held)
    · exact .inr (.inr held)
  · rcases all _ isIn with held | held | held
    · exact .inr (.inr held)
    · exact .inr (.inl held)
    · exact .inr (.inr held)

theorem admits_of_admits {bound narrower request : Context} (within : bound.admits narrower = true)
    (admits : narrower.admits request = true) : bound.admits request = true := by
  have field : ∀ {wide narrow asked : String}, (wide = "" ∨ wide = narrow) →
      (narrow = "" ∨ narrow = asked) → (wide = "" ∨ wide = asked) := by
    rintro wide narrow asked (none | rfl) second
    · exact .inl none
    · exact second
  simp only [Context.admits, decide_eq_true_eq] at within admits ⊢
  exact ⟨field within.1 admits.1, field within.2.1 admits.2.1, field within.2.2 admits.2.2⟩

variable (key : KeyFor store id grant token)

include key in
theorem KeyFor.congr (same : after.keys id = store.keys id) : KeyFor after id grant token where
  isValid := by rw [same]; exact key.isValid
  isOnly := by rw [same]; exact key.isOnly

variable (binding : BindingFor store id grant token)

include binding in
theorem BindingFor.congr
    (same : after.bindings id = store.bindings id) : BindingFor after id grant token where
  isValid := by rw [same]; exact binding.isValid
  isOnly := by rw [same]; exact binding.isOnly

include key in
theorem KeyFor.narrow (narrows : Narrows grant row) : KeyFor store id row token where
  isValid := by
    obtain ⟨capabilityKey, isIn, isToken, isValid, outlasts, holds⟩ := key.isValid
    exact ⟨capabilityKey, isIn, isToken, isValid,
      outlasts.trans (outlasts_of_notLater narrows.expiresAt),
      fun capability held => holds capability (holdsCapability_of_all narrows.capabilities held)⟩
  isOnly := key.isOnly

include binding in
theorem BindingFor.narrow (narrows : Narrows grant row) : BindingFor store id row token where
  isValid := by
    obtain ⟨found, isIn, isToken, isValid, outlasts, admits⟩ := binding.isValid
    exact ⟨found, isIn, isToken, isValid,
      outlasts.trans (outlasts_of_notLater narrows.expiresAt),
      fun request admitted => admits request (admits_of_admits narrows.context admitted)⟩
  isOnly := binding.isOnly

include key in
theorem KeyFor.like (capabilities : row.capabilities = grant.capabilities)
    (expiresAt : row.expiresAt = grant.expiresAt) : KeyFor store id row token where
  isValid := by rw [capabilities, expiresAt]; exact key.isValid
  isOnly := key.isOnly

include binding in
theorem BindingFor.like
    (context : row.context = grant.context) (expiresAt : row.expiresAt = grant.expiresAt) :
    BindingFor store id row token where
  isValid := by rw [context, expiresAt]; exact binding.isValid
  isOnly := binding.isOnly

theorem keyFor_issueKey : KeyFor (store.issueKey id grant) id grant store.drawn where
  isValid := by
    rw [issueKey_keys, setAt_self]
    exact ⟨_, List.mem_append_right _ (List.mem_singleton_self _), rfl, rfl, .refl _,
      fun _ holds => holds⟩
  isOnly capabilityKey isIn isValid := by
    rw [issueKey_keys, setAt_self] at isIn
    rcases List.mem_append.mp isIn with isOld | isNew
    · exact nomatch (invalid_invalidateKeys _ _ isOld).symm.trans isValid
    · rw [List.mem_singleton.mp isNew]

theorem bindingFor_bindKey : BindingFor (store.bindKey id token grant) id grant token where
  isValid := by
    rw [bindKey_bindings, setAt_self]
    exact ⟨_, List.mem_append_right _ (List.mem_singleton_self _), rfl, rfl, .refl _,
      fun _ admits => admits⟩
  isOnly binding isIn isValid := by
    rw [bindKey_bindings, setAt_self] at isIn
    rcases List.mem_append.mp isIn with isOld | isNew
    · exact nomatch (invalid_invalidateBindings _ _ isOld).symm.trans isValid
    · rw [List.mem_singleton.mp isNew]

theorem keysInvalid_congr (invalid : store.KeysInvalid id)
    (same : after.keys id = store.keys id) : after.KeysInvalid id := by
  rw [KeysInvalid, same]
  exact invalid

theorem bindingsInvalid_congr (invalid : store.BindingsInvalid id)
    (same : after.bindings id = store.bindings id) : after.BindingsInvalid id := by
  rw [BindingsInvalid, same]
  exact invalid

theorem Settled.congr (settled : Settled store id) (grant : after.grant id = store.grant id)
    (returned : after.returned id = store.returned id) (keys : after.keys id = store.keys id)
    (bindings : after.bindings id = store.bindings id) : Settled after id := by
  cases settled with
  | live row token present isLive isReturned key binding =>
    exact .live row token (grant.trans present) isLive (returned.trans isReturned)
      (key.congr keys) (binding.congr bindings)
  | lapsed row invalidKeys invalidBindings =>
    exact .lapsed (by rw [grant]; exact row) (keysInvalid_congr invalidKeys keys)
      (bindingsInvalid_congr invalidBindings bindings)

theorem Store.Revoked.lapsed (revoked : store.Revoked id) (keys : store.KeysInvalid id)
    (bindings : store.BindingsInvalid id) : Settled store id := by
  obtain ⟨row, present, facts⟩ := revoked
  refine .lapsed (fun grant isRow => ?_) keys bindings
  rw [present] at isRow
  cases isRow
  exact facts

theorem Store.Revoked.terminal (revoked : store.Revoked id) (present : store.grant id = some row) :
    row.terminal = true := by
  obtain ⟨found, isRow, revokedAt, _⟩ := revoked
  rw [present] at isRow
  cases isRow
  rw [Grant.terminal, revokedAt]
  rfl

theorem Store.Revoked.congr (revoked : store.Revoked id)
    (grant : after.grant id = store.grant id) : after.Revoked id := by
  obtain ⟨row, present, facts⟩ := revoked
  exact ⟨row, grant.trans present, facts⟩

theorem Settled.revoked (settled : Settled store id) (present : store.grant id = some row)
    (terminal : row.terminal = true) : store.Revoked id := by
  cases settled with
  | live found _ isRow isLive =>
    rw [present] at isRow
    cases isRow
    exact nomatch terminal.symm.trans isLive
  | lapsed facts => exact ⟨row, present, facts row present⟩

theorem Settled.absent (settled : Settled store id) (absent : store.grant id = none) :
    store.KeysInvalid id ∧ store.BindingsInvalid id := by
  cases settled with
  | live _ _ present => exact nomatch absent.symm.trans present
  | lapsed _ keys bindings => exact ⟨keys, bindings⟩

theorem Closed.congr (closed : Closed store opened) (same : after.grant = store.grant) :
    Closed after opened where
  linked := by rw [same]; exact closed.linked
  below := by rw [same]; exact closed.below

theorem Closed.write (closed : Closed store opened) (rows : after.grant = setAt store.grant id row)
    (isLive : row.terminal = false) (linked : row.delegated = true → row.parentGrantId ≠ "")
    (underLive : UnderLive store row) : Closed after opened where
  linked other found present delegated := by
    rw [rows] at present
    by_cases same : other = id
    · rw [same, setAt_self] at present
      cases present
      exact linked delegated
    · rw [setAt_of_ne same] at present
      exact closed.linked other found present delegated
  below other found present delegated parent isParent terminal notOpened := by
    rw [rows] at present isParent
    have isOld : found.parentGrantId ≠ id := by
      intro same
      rw [same, setAt_self] at isParent
      cases isParent
      exact nomatch terminal.symm.trans isLive
    rw [setAt_of_ne isOld] at isParent
    by_cases same : other = id
    · rw [same, setAt_self] at present
      cases present
      exact nomatch terminal.symm.trans (underLive delegated parent isParent)
    · rw [setAt_of_ne same] at present
      exact closed.below other found present delegated parent isParent terminal notOpened

theorem Closed.revoke (closed : Closed store []) (present : store.grant id = some row)
    (rows : after.grant = setAt store.grant id (row.revoke now)) : Closed after [id] where
  linked other found isFound delegated := by
    rw [rows] at isFound
    by_cases same : other = id
    · rw [same, setAt_self] at isFound
      cases isFound
      exact closed.linked id row present delegated
    · rw [setAt_of_ne same] at isFound
      exact closed.linked other found isFound delegated
  below other found isFound delegated parent isParent terminal notOpened := by
    rw [rows] at isFound isParent
    have isOld : found.parentGrantId ≠ id := fun same => notOpened (List.mem_singleton.mpr same)
    rw [setAt_of_ne isOld] at isParent
    by_cases same : other = id
    · rw [same, setAt_self] at isFound
      cases isFound
      exact terminal_revoke row now
    · rw [setAt_of_ne same] at isFound
      exact closed.below other found isFound delegated parent isParent terminal List.not_mem_nil

theorem Closed.cascade (closed : Closed store opened) (sound : store.Sound)
    (isOpened : ∀ other ∈ opened, other = id) (present : store.grant id = some row)
    (acyclic : id ∉ store.delegatedDescendants id) :
    Closed (store.revokeGrants (store.delegatedDescendants id)) [] := by
  rw [revokeGrants_eq fun other => (sound.known other).mpr]
  refine ⟨fun other found isFound delegated => ?_,
    fun other found isFound delegated parent isParent terminal _ => ?_⟩
  · dsimp only at isFound
    split at isFound
    · obtain ⟨before, isBefore, rfl⟩ := Option.map_eq_some_iff.mp isFound
      exact closed.linked other before isBefore delegated
    · exact closed.linked other found isFound delegated
  · dsimp only at isFound isParent
    split at isFound
    · obtain ⟨before, _, rfl⟩ := Option.map_eq_some_iff.mp isFound
      exact terminal_revoke before store.clock
    · next spared =>
        have isChild : other ∈ store.childrenOf found.parentGrantId :=
          mem_childrenOf.mpr ⟨sound.mem isFound, found, isFound, delegated, rfl⟩
        split at isParent
        · next isBelow =>
            exact absurd (delegatedDescendants_closed (sound.mem present) acyclic isBelow
              isChild) spared
        · refine closed.below other found isFound delegated parent isParent terminal ?_
          intro isOpen
          have isRoot := isOpened _ isOpen
          have linked := closed.linked other found isFound delegated
          rw [isRoot] at isChild linked
          exact spared (delegatedDescendants_first linked isChild)

end LicoMesh.ToolGrants
