import LicoMesh.ConsoleAuth.DeferredRuns

namespace LicoMesh.ConsoleAuth

open Library List

variable {session : SessionRow} {store : Store} {user : UserRow} {operation : Operation}
  {input : ConsoleInput} {approval : ApprovalFacts} {source : DurableAuthoritySource}
  {authorities : List DeferredAuthorityRow} {console : World}

/-- A session that is there after a command is new or was there before, under the same id and
user; its token is new or its expiry is the one it had. -/
def Continues (before : List SessionRow) (drawn : Nat) (session : SessionRow) : Prop :=
  drawn ≤ session.sessionId ∨
    ∃ old ∈ before, session.sessionId = old.sessionId ∧ session.userId = old.userId ∧
      session.createdAt = old.createdAt ∧
      (session.tokenHash = old.tokenHash ∧ session.expiresAt = old.expiresAt ∨
        drawn ≤ session.tokenHash)

structure Evolves (before after : Store) : Prop where
  drawn : before.drawn ≤ after.drawn
  sessions : ∀ session ∈ after.sessions, Continues before.sessions before.drawn session
  users : ∀ {userId user}, before.users userId = some user →
    ∃ next, after.users userId = some next ∧ next.createdAt = user.createdAt ∧
      next.userId = user.userId
  unknown : ∀ {userId}, before.users userId = none → after.users userId = none

theorem Continues.same (isIn : session ∈ before) : Continues before drawn session :=
  .inr ⟨session, isIn, rfl, rfl, rfl, .inl ⟨rfl, rfl⟩⟩

theorem Evolves.refl (store : Store) : Evolves store store where
  drawn := Nat.le_refl _
  sessions := fun _ isIn => .same isIn
  users := fun present => ⟨_, present, rfl, rfl⟩
  unknown := id

theorem Evolves.trans (left : Evolves first middle)
    (right : Evolves middle last) : Evolves first last where
  drawn := Nat.le_trans left.drawn right.drawn
  sessions := fun session isIn => by
    have grows := left.drawn
    rcases right.sessions session isIn with isNew | ⟨between, isBetween, sameId, sameUser,
      sameTime, token⟩
    · exact .inl (Nat.le_trans grows isNew)
    · rcases left.sessions between isBetween with isNew | ⟨old, isOld, oldId, oldUser, oldTime,
        oldToken⟩
      · exact .inl (sameId ▸ isNew)
      · refine .inr ⟨old, isOld, sameId.trans oldId, sameUser.trans oldUser,
          sameTime.trans oldTime, ?_⟩
        rcases token with ⟨sameToken, sameEnd⟩ | isNew
        · rcases oldToken with ⟨oldToken, oldEnd⟩ | isNew
          · exact .inl ⟨sameToken.trans oldToken, sameEnd.trans oldEnd⟩
          · exact .inr (sameToken ▸ isNew)
        · exact .inr (Nat.le_trans grows isNew)
  users := fun present => by
    obtain ⟨next, isNext, sameTime, sameId⟩ := left.users present
    obtain ⟨later, isLater, laterTime, laterId⟩ := right.users isNext
    exact ⟨later, isLater, laterTime.trans sameTime, laterId.trans sameId⟩
  unknown := fun absent => right.unknown (left.unknown absent)

theorem Evolves.filter (store : Store) (p : SessionRow → Bool) :
    Evolves store { store with sessions := store.sessions.filter p } where
  drawn := Nat.le_refl _
  sessions := fun _ isIn => .same (mem_filter.mp isIn).1
  users := fun present => ⟨_, present, rfl, rfl⟩
  unknown := id

theorem Evolves.setUser {next : UserRow}
    (present : store.users userId = some user) (sameTime : next.createdAt = user.createdAt)
    (sameId : next.userId = user.userId) : Evolves store (store.setUser userId next) where
  drawn := Nat.le_refl _
  sessions := fun _ isIn => .same isIn
  users := fun {other row} isRow => by
    rcases Decidable.em (other = userId) with rfl | differs
    · rw [present] at isRow
      cases isRow
      exact ⟨next, store.setUser_self _ _, sameTime, sameId⟩
    · exact ⟨row, (store.setUser_other next differs).trans isRow, rfl, rfl⟩
  unknown := fun {other} absent => by
    rcases Decidable.em (other = userId) with rfl | differs
    · exact nomatch present.symm.trans absent
    · exact (store.setUser_other next differs).trans absent

theorem sessionFromToken_evolves (store : Store) (token now : Nat) :
    Evolves store (sessionFromToken store token now).1 := by
  unfold sessionFromToken
  split
  · exact .refl store
  · split_ifs
    · exact .refl store
    · exact .filter store _
    · refine ⟨Nat.le_refl _, fun session isIn => ?_, fun present => ⟨_, present, rfl, rfl⟩,
        id⟩
      obtain ⟨old, isOld, rfl⟩ := mem_map.mp isIn
      refine .inr ⟨old, isOld, ?_⟩
      split_ifs <;> exact ⟨rfl, rfl, rfl, .inl ⟨rfl, rfl⟩⟩
    · exact .refl store

theorem rotateSession_evolves (store : Store) (token now rotatedAt expiresAt : Nat) :
    Evolves store (rotateSession store token now rotatedAt expiresAt) := by
  have checks := sessionFromToken_evolves store token now
  have sameDrawn : (sessionFromToken store token now).1.drawn = store.drawn := by
    unfold sessionFromToken
    split
    · rfl
    · split_ifs <;> rfl
  unfold rotateSession
  split
  · next checked same =>
      rw [same] at checks
      exact checks
  · next checked session same =>
      rw [same] at checks sameDrawn
      refine checks.trans ⟨?_, fun row isIn => ?_, fun present => ⟨_, present, rfl, rfl⟩, id⟩
      · exact Nat.le_of_eq sameDrawn |>.trans (Nat.le_succ _)
      · obtain ⟨old, isOld, rfl⟩ := mem_map.mp isIn
        refine .inr ⟨old, isOld, ?_⟩
        split_ifs
        · exact ⟨rfl, rfl, rfl, .inr (Nat.le_of_eq sameDrawn)⟩
        · exact ⟨rfl, rfl, rfl, .inl ⟨rfl, rfl⟩⟩

theorem commitUpdate_evolves (store : Store) (userId : String) (patch : UserPatch)
    (credential : Option PasswordHash) (now : Nat) :
    Evolves store (commitUpdate store userId patch credential now) := by
  rcases commitUpdate_cases store userId patch credential now with
    ⟨-, same⟩ | ⟨current, present, same⟩
  · rw [same]
    exact .refl store
  · rw [same]
    have sets : Evolves store
        (store.setUser userId (patchUser current patch credential now)) :=
      .setUser present rfl rfl
    split_ifs
    · exact sets.trans (.filter _ _)
    · exact sets

theorem failLogin_evolves (store : Store) (checked : UserRow) (failedAt lockedUntil : Nat) :
    Evolves store (failLogin store checked failedAt lockedUntil) := by
  unfold failLogin
  split
  · exact .refl store
  · next row settled => exact .setUser (settles_some settled).1 rfl rfl

theorem commitSuccessfulLogin_evolves (store : Store) (checked : UserRow)
    (createdAt expiresAt : Nat) :
    Evolves store (commitSuccessfulLogin store checked createdAt expiresAt).1 := by
  unfold commitSuccessfulLogin
  split
  · exact .refl store
  · next row settled =>
      have sets : Evolves store
          (store.setUser checked.userId (completeSuccessfulLogin row createdAt)) :=
        .setUser (settles_some settled).1 rfl rfl
      refine sets.trans ⟨Nat.le_succ _, fun session isIn => ?_,
        fun present => ⟨_, present, rfl, rfl⟩, id⟩
      rcases mem_append.mp isIn with isOld | isNew
      · exact .same isOld
      · rw [mem_singleton.mp isNew]
        exact .inl (Nat.le_refl _)

theorem settleLogin_evolves (w : World) (userRow : UserRow) (password : String) (now later : Nat) :
    Evolves w.store (w.settleLogin userRow password now later).store := by
  unfold World.settleLogin
  split_ifs
  · have commits :=
      commitSuccessfulLogin_evolves w.store userRow now (later + SESSION_TTL_MS)
    split
    · next same =>
        rw [same] at commits
        exact commits
    · next same _ =>
        rw [same] at commits
        exact commits
  · exact failLogin_evolves ..

theorem World.apply_evolves (w : World) (step : Step) : Evolves w.store (w.apply step).store := by
  unfold apply
  cases step.command with
  | login username password =>
    dsimp only
    split <;> exact .refl w.store
  | settle index =>
    dsimp only
    split
    · next checked password present =>
        exact settleLogin_evolves { w with
          clock := w.clock + step.wait + step.pause
          calls := w.calls.set index .ended } _ _ _ _
    · exact .refl w.store
  | updateUser userId patch password =>
    dsimp only
    split
    · exact .refl w.store
    · exact commitUpdate_evolves ..
    · split <;> exact .refl w.store
  | commitUpdate index salt =>
    dsimp only
    split
    · exact commitUpdate_evolves ..
    · exact .refl w.store
  | logout token => exact .filter w.store _
  | rotateSession token => exact rotateSession_evolves ..
  | sessionFromToken token => exact sessionFromToken_evolves ..

/-- A session that was removed never returns, under its id or under its token. -/
theorem run_evolves (w : World) (steps : List Step) :
    Evolves w.store (runAll .apply w steps).store := by
  have keeps : ∀ (later : World) step, Evolves w.store later.store →
      Evolves w.store (later.apply step).store :=
    fun later step evolved => evolved.trans (later.apply_evolves step)
  exact runAll_invariant keeps (.refl w.store) steps

theorem World.apply_clock (w : World) (step : Step) : w.clock ≤ (w.apply step).clock := by
  have grows : w.clock ≤ w.clock + step.wait + step.pause := by omega
  unfold apply settleLogin
  cases step.command <;> dsimp only <;> repeat' (first | exact grows | split)

/-- The facts of a capture, which nothing changes. -/
structure Issued.Sound (i : Issued) : Prop where
  operation : i.row.operationId = i.operation.id
  request : i.row.requestDigest = deferredRequestDigest i.operation.id i.input
  sessionId : i.row.sessionId = i.source.session.sessionId
  expires : i.row.expiresAt ≤ i.source.session.expiresAt
  named : i.source.user.userId ≠ "" ∧ i.source.user.tenantId ≠ "" ∧ i.source.user.orgId ≠ "" ∧
    i.source.user.roleId ≠ ""
  enabled : i.source.user.enabled = true
  binding : protectedSinkAuthorityFromSource i.source i.operation i.input (some i.request)
    i.decision i.policy = some i.binding
  approval : ∃ approval, operationApprovalAuthorityFacts i.operation i.input (some i.request) =
    some approval ∧ i.row.approvalIntentDigest = durableApprovalIntentFacts approval

structure RowOf (i : Issued) (revoked : List Nat) (row : DeferredAuthorityRow) : Prop where
  same : row = { i.row with revokedAt := row.revokedAt, reasonCode := row.reasonCode }
  revoked : row.revokedAt.isSome = true ↔ i.row.authorityRef ∈ revoked

structure Stands (w : DeferredWorld) (i : Issued) : Prop where
  sound : i.Sound
  drawn : i.row.authorityRef < w.drawn
  rows : ∀ row ∈ w.authorities, row.authorityRef = i.row.authorityRef → RowOf i w.revoked row
  present : (∃ row ∈ w.authorities, row.authorityRef = i.row.authorityRef) ∨
    i.row.authorityRef ∈ w.revoked ∨ i.row.expiresAt ≤ w.console.clock ∨
    ∀ session ∈ w.console.store.sessions, session.sessionId ≠ i.source.session.sessionId
  token : i.source.session.tokenHash < w.console.store.drawn
  known : i.source.session.sessionId < w.console.store.drawn
  session : ∀ session ∈ w.console.store.sessions, session.sessionId = i.source.session.sessionId →
      session.userId = i.source.user.userId ∧ session.createdAt = i.source.session.createdAt ∧
      (session.tokenHash = i.source.session.tokenHash →
        session.expiresAt = i.source.session.expiresAt)
  user : ∃ user, w.console.store.users i.source.user.userId = some user ∧
    user.createdAt = i.source.user.createdAt ∧ user.userId = i.source.user.userId

structure DeferredSound (w : DeferredWorld) : Prop where
  console : Sound w.console
  users : ∀ {userId user}, w.console.store.users userId = some user → user.userId = userId
  drawn : ∀ row ∈ w.authorities, row.authorityRef < w.drawn
  known : ∀ authorityRef ∈ w.revoked, authorityRef < w.drawn
  issued : ∀ i ∈ w.issued, Stands w i

variable {w : DeferredWorld} {i : Issued} {now : Nat} {decision : Decision}

theorem approval_without_request
    (approved : operationApprovalAuthorityFacts operation input (some request) = some approval)
    (confirmed : confirmedWithoutRequest operation input) :
    ∃ without, operationApprovalAuthorityFacts operation input none = some without ∧
      durableApprovalIntentFacts without = durableApprovalIntentFacts approval := by
  unfold operationApprovalAuthorityFacts at approved ⊢
  split_ifs at approved ⊢ with unnamed independent unconfirmed
  · cases approved
    exact ⟨_, rfl, rfl⟩
  · have flags : input.confirm = true ∨ input.nestedSafetyConfirm = true ∨
        input.safetyConfirm = true := confirmed.resolve_left unconfirmed
    dsimp only at approved ⊢
    split_ifs at approved with byRequest
    cases approved
    have here : ([input.confirm, input.nestedSafetyConfirm, input.safetyConfirm, false,
        false] : List Bool).any id = true := by
      rcases flags with flag | flag | flag <;> simp [flag]
    refine ⟨_, if_pos here, ?_⟩
    simp only [durableApprovalIntentFacts, ApprovalIntent.mk.injEq, true_and, and_true]
    exact congrArg (_ || ·) (here.trans byRequest.symm)

theorem confirmed_of_approval
    (approved : operationApprovalAuthorityFacts operation input none = some approval) :
    confirmedWithoutRequest operation input := by
  unfold operationApprovalAuthorityFacts at approved
  split_ifs at approved with unnamed independent unconfirmed
  · exact .inl unconfirmed
  · dsimp only at approved
    split_ifs at approved with flags
    refine .inr ?_
    simpa using flags

theorem risk_injective (left : operationRiskAuthorityFacts operation first = some risk)
    (right : operationRiskAuthorityFacts operation second = some risk) : first = second := by
  unfold operationRiskAuthorityFacts at left right
  split_ifs at left right with leftFails rightFails
  push Not at leftFails rightFails
  have same := (Option.some.inj left).trans (Option.some.inj right).symm
  cases first
  cases second
  simp_all

theorem authority_some :
    protectedSinkAuthorityFromSource source operation input request decision policy =
        some authority ↔
      ∃ approval risk, operationApprovalAuthorityFacts operation input request = some approval ∧
        operationRiskAuthorityFacts operation decision = some risk ∧ authority = {
          subject := ⟨source.user, source.user.userId, source.user.tenantId⟩
          context := ⟨durableApprovalIntentFacts approval, (source.session, source.user), policy,
            risk, source.session.createdAt, source.session.sessionId, source.session.tokenHash,
            source.user⟩ } := by
  unfold protectedSinkAuthorityFromSource
  constructor
  · intro isAuthority
    split at isAuthority
    · next approval risk isApproval isRisk =>
        exact ⟨approval, risk, isApproval, isRisk, (Option.some.inj isAuthority).symm⟩
    · exact nomatch isAuthority
  · rintro ⟨approval, risk, isApproval, isRisk, rfl⟩
    rw [isApproval, isRisk]

/-- The source that a user and a role give, where their facts are those of a source. -/
theorem source_of_same (stands : Stands w i) (same : SameUser user role i.source.user)
    (isSession : sessionFacts session = i.source.session)
    (created : user.createdAt = i.source.user.createdAt)
    (isUser : user.userId = i.source.user.userId)
    (updated : user.updatedAt = i.source.user.updatedAt) :
    durableSessionAuthoritySource session user role = some i.source := by
  obtain ⟨named, tenant, organization, roleNamed⟩ := stands.sound.named
  have present : ¬(user.userId = "" ∨ user.profile.tenantId = "" ∨ user.profile.orgId = "" ∨
      user.roleId = "" ∨ user.enabled = false ∨ role.roleId ≠ user.roleId ∨
      role.enabled = false) := by
    rw [isUser, same.tenantId, same.orgId, same.roleId, same.enabled, same.sameRole.1,
      same.sameRole.2]
    simp [named, tenant, organization, roleNamed]
  have isFacts : userFacts user role = i.source.user := by
    unfold userFacts
    rw [same.dataClasses, same.egress, same.workspaces, same.attributes, created,
      same.departmentIds, same.orgId, same.roleId, same.roleScopes, same.teamIds, same.tenantId,
      updated, isUser, ← stands.sound.enabled]
  unfold durableSessionAuthoritySource
  rw [if_neg present, isSession, isFacts]

theorem same_of_source (isSource : durableSessionAuthoritySource session user role = some source) :
    sessionFacts session = source.session ∧ SameUser user role source.user ∧
      user.updatedAt = source.user.updatedAt := by
  unfold durableSessionAuthoritySource at isSource
  split_ifs at isSource with absent
  push Not at absent
  obtain ⟨-, -, -, -, enabled, isRole, roleEnabled⟩ := absent
  cases isSource
  refine ⟨rfl, ⟨Bool.eq_true_of_not_eq_false enabled, rfl, ⟨isRole,
    Bool.eq_true_of_not_eq_false roleEnabled⟩, rfl, rfl, rfl, rfl, rfl, rfl, rfl, rfl, rfl⟩, rfl⟩

theorem currentDeferredSession_some
    (current : currentDeferredSession store roles sessionId now = some source) :
    ∃ session ∈ store.sessions, session.sessionId = sessionId ∧ now < session.expiresAt ∧
      ∃ user, store.users session.userId = some user ∧
        durableSessionAuthoritySource session user (resolveRole roles user.roleId) =
          some source := by
  unfold currentDeferredSession at current
  split at current
  · exact nomatch current
  · next session found =>
      have chosen := find?_some found
      split at current
      · exact nomatch current
      · next user present =>
          split_ifs at current with dead
          push Not at dead
          exact ⟨session, mem_of_find?_eq_some found, of_decide_eq_true chosen, dead.2, user,
            present, current⟩

theorem find_session (sound : SessionsSound sessions drawn) (isIn : session ∈ sessions) :
    sessions.find? (·.sessionId = session.sessionId) = some session := by
  cases found : sessions.find? (·.sessionId = session.sessionId) with
  | none =>
    have misses := find?_eq_none.mp found session isIn
    exact absurd (decide_eq_true rfl) misses
  | some other =>
    have chosen := find?_some found
    rw [sound.ids other (mem_of_find?_eq_some found) session isIn (of_decide_eq_true chosen)]

theorem Stands.lives (stands : Stands w i)
    (allowed : (w.revalidate i now decision).isAllowed = true) :
    Lives w i now decision ∧ Undisturbed w i decision := by
  obtain ⟨bound, risk, isBound, isRisk, isBinding⟩ := authority_some.mp stands.sound.binding
  unfold DeferredWorld.revalidate revalidateDeferredProtectedSinkAuthority at allowed
  split at allowed
  · exact nomatch allowed
  · next row found =>
      have chosen := find?_some found
      have isRow := stands.rows row (mem_of_find?_eq_some found)
        (of_decide_eq_true chosen)
      have sameRow := isRow.same
      split_ifs at allowed with refused
      · exact nomatch allowed
      push Not at refused
      obtain ⟨-, -, -, unrevoked, unexpired⟩ := refused
      split at allowed
      · exact nomatch allowed
      · next current isCurrent =>
          split_ifs at allowed with differs
          · exact nomatch allowed
          push Not at differs
          obtain ⟨source, isSource, evaluated⟩ := Option.bind_eq_some_iff.mp isCurrent
          unfold evaluateDeferredCurrentAuthority at evaluated
          split_ifs at evaluated with denied
          split at evaluated
          · next authority without isAuthority isWithout =>
              cases evaluated
              obtain ⟨again, sameRisk, -, isSameRisk, isSame⟩ := authority_some.mp isAuthority
              have same : authority = i.binding := differs.2
              rw [isSame, isBinding] at same
              simp only [Authority.mk.injEq, AuthorityContext.mk.injEq, Prod.mk.injEq] at same
              obtain ⟨-, -, ⟨sameSession, sameUser⟩, samePolicy, riskSame, -⟩ := same
              obtain ⟨session, isIn, isId, -, user, present, made⟩ :=
                currentDeferredSession_some isSource
              obtain ⟨isFacts, sameAs, updated⟩ := same_of_source made
              rw [sameSession] at isFacts
              have isToken := congrArg SessionFacts.tokenHash isFacts
              have isSessionId := congrArg SessionFacts.sessionId isFacts
              have isOwner := (stands.session session isIn isSessionId).1
              rw [isOwner] at present
              rw [sameUser] at sameAs updated
              refine ⟨⟨?_, ?_, ⟨session, isIn, isSessionId, isToken⟩, ⟨user, present, sameAs⟩,
                samePolicy, Bool.eq_true_of_not_eq_false denied⟩,
                ⟨⟨user, present, updated⟩, confirmed_of_approval isWithout, ?_⟩⟩
              · exact fun isRevoked => unrevoked (isRow.revoked.mpr isRevoked)
              · rw [sameRow] at unexpired
                exact unexpired
              · rw [riskSame] at isSameRisk
                exact risk_injective isSameRisk isRisk
          · exact nomatch evaluated
theorem Stands.row (stands : Stands w i) (after : w.console.clock ≤ now)
    (lives : Lives w i now decision) :
    ∃ row, w.authorities.find? (·.authorityRef = i.row.authorityRef) = some row ∧
      RowOf i w.revoked row ∧ row.revokedAt.isSome = false := by
  obtain ⟨session, isIn, isId, -⟩ := lives.session
  have there : ∃ row ∈ w.authorities, row.authorityRef = i.row.authorityRef := by
    rcases stands.present with there | revoked | expired | gone
    · exact there
    · exact absurd revoked lives.unrevoked
    · have := lives.unexpired
      omega
    · exact absurd isId (gone session isIn)
  cases found : w.authorities.find? (·.authorityRef = i.row.authorityRef) with
  | none =>
    obtain ⟨row, isRow, isRef⟩ := there
    exact absurd (decide_eq_true isRef) (find?_eq_none.mp found row isRow)
  | some row =>
    have chosen := find?_some found
    have isRow := stands.rows row (mem_of_find?_eq_some found) (of_decide_eq_true chosen)
    exact ⟨row, rfl, isRow, Bool.eq_false_iff.mpr fun isRevoked =>
      lives.unrevoked (isRow.revoked.mp isRevoked)⟩

variable (sound : DeferredSound w)

include sound in
theorem Stands.allowed (stands : Stands w i)
    (after : w.console.clock ≤ now) (lives : Lives w i now decision)
    (undisturbed : Undisturbed w i decision) : (w.revalidate i now decision).isAllowed = true := by
  obtain ⟨approval, isApproval, isDigest⟩ := stands.sound.approval
  obtain ⟨bound, risk, isBound, isRisk, isBinding⟩ := authority_some.mp stands.sound.binding
  cases isApproval.symm.trans isBound
  obtain ⟨session, isIn, isId, isToken⟩ := lives.session
  obtain ⟨user, isUser, same⟩ := lives.user
  obtain ⟨updatedUser, isUpdated, updated⟩ := undisturbed.user
  cases isUser.symm.trans isUpdated
  obtain ⟨owner, created, expires⟩ := stands.session session isIn isId
  obtain ⟨createdUser, isCreated, createdAt, userId⟩ := stands.user
  cases isUser.symm.trans isCreated
  obtain ⟨row, found, isRow, unrevoked⟩ := stands.row after lives
  have sameRow := isRow.same
  have operationId : row.operationId = i.operation.id := by
    rw [sameRow]
    exact stands.sound.operation
  have request : row.requestDigest = i.row.requestDigest := by rw [sameRow]
  have ends : row.expiresAt = i.row.expiresAt := by rw [sameRow]
  have digest : row.approvalIntentDigest = durableApprovalIntentFacts approval := by
    rw [sameRow]
    exact isDigest
  have sessionId : row.sessionId = session.sessionId := by
    rw [sameRow, isId]
    exact stands.sound.sessionId
  have refused : ¬(row.operationId ≠ i.operation.id ∨
      row.requestDigest ≠ i.row.requestDigest ∨
      row.requestDigest ≠ deferredRequestDigest i.operation.id i.input ∨
      row.revokedAt.isSome = true ∨ row.expiresAt ≤ now) := by
    have unexpired := lives.unexpired
    rw [request, stands.sound.request, unrevoked, ends]
    simp [operationId, unexpired]
  have isFacts : sessionFacts session = i.source.session := by
    unfold sessionFacts
    rw [created, expires isToken, isId, isToken]
  have alive : ¬(user.enabled = false ∨ session.expiresAt ≤ now) := by
    have within := stands.sound.expires
    rw [expires isToken, same.enabled]
    simp only [Bool.true_eq_false, false_or]
    omega
  have current : currentDeferredSession w.console.store w.roles row.sessionId now =
      some i.source := by
    unfold currentDeferredSession
    rw [sessionId, find_session sound.console.sessions isIn]
    dsimp only
    rw [owner, isUser]
    dsimp only
    rw [if_neg alive]
    exact source_of_same stands same isFacts createdAt userId updated
  obtain ⟨without, isWithout, sameIntent⟩ :=
    approval_without_request isApproval undisturbed.confirmed
  have authority : protectedSinkAuthorityFromSource i.source i.operation i.input none
      decision w.policy = some i.binding := by
    refine authority_some.mpr ⟨without, risk, isWithout, ?_, ?_⟩
    · rw [undisturbed.grounds]
      exact isRisk
    · rw [isBinding, sameIntent, lives.policy]
  unfold DeferredWorld.revalidate revalidateDeferredProtectedSinkAuthority
  rw [found]
  dsimp only
  rw [if_neg refused, current, Option.bind_some]
  unfold evaluateDeferredCurrentAuthority
  rw [lives.authorized, if_neg nofun, authority, isWithout]
  dsimp only
  rw [if_neg]
  · rfl
  · rw [sameIntent, digest]
    simp

theorem mem_cascade : row ∈ cascade store authorities ↔
      row ∈ authorities ∧ ∃ session ∈ store.sessions, session.sessionId = row.sessionId := by
  unfold cascade
  rw [mem_filter, any_eq_true]
  simp only [decide_eq_true_eq]

theorem Stands.withConsole (stands : Stands w i) (evolves : Evolves w.console.store console.store)
    (grows : w.console.clock ≤ console.clock) : Stands (w.withConsole console) i where
  sound := stands.sound
  drawn := stands.drawn
  rows := fun row isIn => stands.rows row (mem_cascade.mp isIn).1
  present := by
    rcases stands.present with ⟨row, isIn, isRef⟩ | revoked | expired | gone
    · have isRow := (stands.rows row isIn isRef).same
      have ofRow : row.sessionId = i.source.session.sessionId := by
        rw [isRow]
        exact stands.sound.sessionId
      rcases Classical.em (∃ session ∈ console.store.sessions,
          session.sessionId = row.sessionId) with left | removed
      · exact .inl ⟨row, mem_cascade.mpr ⟨isIn, left⟩, isRef⟩
      · refine .inr (.inr (.inr fun session isSession isId => removed ?_))
        exact ⟨session, isSession, isId.trans ofRow.symm⟩
    · exact .inr (.inl revoked)
    · exact .inr (.inr (.inl (Nat.le_trans expired grows)))
    · refine .inr (.inr (.inr fun session isSession isId => ?_))
      have known := stands.known
      rcases evolves.sessions session isSession with isNew | ⟨old, isOld, sameId, -⟩
      · omega
      · exact gone old isOld (sameId.symm.trans isId)
  token := Nat.lt_of_lt_of_le stands.token evolves.drawn
  known := Nat.lt_of_lt_of_le stands.known evolves.drawn
  session := fun session isIn isId => by
    have known := stands.known
    have token := stands.token
    rcases evolves.sessions session isIn with isNew | ⟨old, isOld, sameId, sameUser, sameTime,
      sameToken⟩
    · omega
    · obtain ⟨owner, created, expires⟩ := stands.session old isOld (sameId.symm.trans isId)
      refine ⟨sameUser.trans owner, sameTime.trans created, fun isToken => ?_⟩
      rcases sameToken with ⟨sameToken, sameEnd⟩ | isNew
      · exact sameEnd.trans (expires (sameToken.symm.trans isToken))
      · omega
  user := by
    obtain ⟨user, present, created, userId⟩ := stands.user
    obtain ⟨next, isNext, sameTime, sameId⟩ := evolves.users present
    exact ⟨next, isNext, sameTime.trans created, sameId.trans userId⟩

include sound

theorem DeferredSound.withConsole (isSound : Sound console)
    (evolves : Evolves w.console.store console.store) (grows : w.console.clock ≤ console.clock) :
    DeferredSound (w.withConsole console) where
  console := isSound
  users := fun {userId user} present => by
    cases before : w.console.store.users userId with
    | none => exact nomatch (evolves.unknown before).symm.trans present
    | some old =>
      obtain ⟨next, isNext, -, sameId⟩ := evolves.users before
      cases isNext.symm.trans present
      exact sameId.trans (sound.users before)
  drawn := fun row isIn => sound.drawn row (mem_cascade.mp isIn).1
  known := sound.known
  issued := fun i isIn => (sound.issued i isIn).withConsole evolves grows

theorem DeferredSound.settings (grows : w.console.clock ≤ clock) (roles : Roles)
    (policy : PolicyRevision) (captures : List (Option Capture)) : DeferredSound { w with
      roles := roles
      policy := policy
      captures := captures
      console := { w.console with clock := clock } } where
  console := sound.console.later grows
  users := sound.users
  drawn := sound.drawn
  known := sound.known
  issued := fun i isIn =>
    have stands := sound.issued i isIn
    { stands with
      present := stands.present.imp id (.imp id (.imp (Nat.le_trans · grows) id)) }

omit sound

theorem mem_revoke
    (isIn : row ∈ revokeDeferredProtectedSinkAuthority authorities authorityRef now reason) :
    ∃ old ∈ authorities, row.authorityRef = old.authorityRef ∧
      row = { old with revokedAt := row.revokedAt, reasonCode := row.reasonCode } ∧
      (row.revokedAt.isSome = true ↔
        old.revokedAt.isSome = true ∨ old.authorityRef = authorityRef) := by
  obtain ⟨old, isOld, rfl⟩ := mem_map.mp isIn
  refine ⟨old, isOld, ?_⟩
  split_ifs with revokes
  · exact ⟨rfl, rfl, ⟨fun _ => .inr revokes.1, fun _ => rfl⟩⟩
  · refine ⟨rfl, rfl, ⟨.inl, ?_⟩⟩
    rintro (isRevoked | isRef)
    · exact isRevoked
    · have already : old.revokedAt ≠ none := fun isNone => revokes ⟨isRef, isNone⟩
      exact Option.isSome_iff_ne_none.mpr already

theorem revoke_refs (isIn : old ∈ authorities) (authorityRef time : Nat) (reason : String) :
    ∃ row ∈ revokeDeferredProtectedSinkAuthority authorities authorityRef time reason,
      row.authorityRef = old.authorityRef := by
  refine ⟨_, mem_map.mpr ⟨old, isIn, rfl⟩, ?_⟩
  split_ifs <;> rfl

include sound in
theorem DeferredSound.revokes (authorityRef time : Nat) (reason : String) : DeferredSound { w with
      authorities := revokeDeferredProtectedSinkAuthority w.authorities authorityRef time reason
      revoked := if w.authorities.any (·.authorityRef = authorityRef) then
        authorityRef :: w.revoked else w.revoked } where
  console := sound.console
  users := sound.users
  drawn := fun row isIn => by
    obtain ⟨old, isOld, sameRef, -⟩ := mem_revoke isIn
    exact sameRef ▸ sound.drawn old isOld
  known := fun other isIn => by
    dsimp only at isIn
    split_ifs at isIn with isThere
    · rcases mem_cons.mp isIn with rfl | isOld
      · obtain ⟨row, isRow, isRef⟩ := any_eq_true.mp isThere
        exact of_decide_eq_true isRef ▸ sound.drawn row isRow
      · exact sound.known other isOld
    · exact sound.known other isIn
  issued := fun i isIn => by
    have stands := sound.issued i isIn
    exact { stands with
      rows := fun row isRow isRef => by
        obtain ⟨old, isOld, sameRef, same, revoked⟩ := mem_revoke isRow
        have before := stands.rows old isOld (sameRef.symm.trans isRef)
        refine ⟨?_, ?_⟩
        · rw [same, before.same]
        · rw [revoked, before.revoked]
          dsimp only
          split_ifs with isThere
          · rw [mem_cons, or_comm, sameRef.symm.trans isRef]
          · constructor
            · rintro (isRevoked | named)
              · exact isRevoked
              · refine absurd (any_eq_true.mpr ⟨old, isOld, ?_⟩) isThere
                exact decide_eq_true named
            · exact .inl
      present := by
        rcases stands.present with ⟨row, isRow, isRef⟩ | revoked | rest
        · obtain ⟨next, isNext, sameRef⟩ := revoke_refs isRow authorityRef time reason
          exact .inl ⟨next, isNext, sameRef.trans isRef⟩
        · refine .inr (.inl ?_)
          split_ifs
          · exact mem_cons_of_mem _ revoked
          · exact revoked
        · exact .inr (.inr rest) }

theorem readSession_some
    (read : readSession store roles token now = (checked, some (some source))) :
    Evolves store checked ∧ ∃ row ∈ store.sessions, ∃ user, store.users row.userId = some user ∧
        durableSessionAuthoritySource row user (resolveRole roles user.roleId) = some source := by
  have evolves := sessionFromToken_evolves store token now
  unfold readSession at read
  split at read
  · exact nomatch (Prod.mk.inj read).2
  · next first row accepted =>
      obtain ⟨rfl, made⟩ := Prod.mk.inj read
      rw [accepted] at evolves
      obtain ⟨user, present, isSource⟩ := Option.map_eq_some_iff.mp made
      have isIn := (sessionFromToken_some (congrArg Prod.snd accepted)).1
      exact ⟨evolves, row, isIn, user, present, isSource⟩

theorem readSession_store (store : Store) (roles : Roles) (token now : Nat) :
    (readSession store roles token now).1 = (sessionFromToken store token now).1 := by
  unfold readSession
  split
  · next same => rw [same]
  · next same => rw [same]

include sound in
theorem DeferredSound.reads (token time : Nat) (grows : w.console.clock ≤ clock) :
    DeferredSound (w.withConsole { w.console with
      clock := clock
      store := (readSession w.console.store w.roles token time).1 }) := by
  rw [readSession_store]
  obtain ⟨sessions, same, kept⟩ := sessionFromToken_kept sound.console.sessions token time
  refine sound.withConsole ?_ (sessionFromToken_evolves ..) grows
  rw [same]
  exact (sound.console.later grows).kept kept (Nat.le_refl _)

structure Captured (w : DeferredWorld) (source : DurableAuthoritySource) : Prop where
  named : source.user.userId ≠ "" ∧ source.user.tenantId ≠ "" ∧ source.user.orgId ≠ "" ∧
    source.user.roleId ≠ ""
  enabled : source.user.enabled = true
  token : source.session.tokenHash < w.console.store.drawn
  known : source.session.sessionId < w.console.store.drawn
  session : ∀ session ∈ w.console.store.sessions, session.sessionId = source.session.sessionId →
      session.userId = source.user.userId ∧ session.createdAt = source.session.createdAt ∧
      (session.tokenHash = source.session.tokenHash → session.expiresAt = source.session.expiresAt)
  user : ∃ user, w.console.store.users source.user.userId = some user ∧
    user.createdAt = source.user.createdAt ∧ user.userId = source.user.userId

include sound

theorem captured_of_read
    (read : readSession w.console.store w.roles token now = (checked, some (some source))) :
    Captured (w.withConsole { w.console with store := checked }) source := by
  obtain ⟨evolves, row, isIn, user, present, made⟩ := readSession_some read
  have known := sound.console.sessions.drawn row isIn
  have isOwner := sound.users present
  have grows := evolves.drawn
  unfold durableSessionAuthoritySource at made
  split_ifs at made with absent
  push Not at absent
  obtain ⟨named, tenant, organization, roleNamed, enabled, -, -⟩ := absent
  cases made
  refine ⟨⟨named, tenant, organization, roleNamed⟩, rfl, Nat.lt_of_lt_of_le known.2 grows,
    Nat.lt_of_lt_of_le known.1 grows, fun session isSession isId => ?_, ?_⟩
  · rcases evolves.sessions session isSession with isNew | ⟨old, isOld, sameId, sameUser,
      sameTime, sameToken⟩
    · have := known.1
      have same : session.sessionId = row.sessionId := isId
      omega
    · have isRow : old = row :=
        sound.console.sessions.ids old isOld row isIn (sameId.symm.trans isId)
      subst isRow
      refine ⟨sameUser.trans isOwner.symm, sameTime, fun isToken => ?_⟩
      rcases sameToken with ⟨-, sameEnd⟩ | isNew
      · exact sameEnd
      · have := known.2
        have same : session.tokenHash = old.tokenHash := isToken
        omega
  · rw [← isOwner] at present
    obtain ⟨next, isNext, sameTime, sameId⟩ := evolves.users present
    exact ⟨next, isNext, sameTime, sameId⟩

theorem DeferredSound.issue (captured : Captured w source) (after : now ≤ w.console.clock)
    (isApproval : operationApprovalAuthorityFacts capture.operation capture.input
      (some capture.request) = some approval)
    (isBinding : protectedSinkAuthorityFromSource source capture.operation capture.input
      (some capture.request) decision w.policy = some binding) :
    DeferredSound (w.issue capture source decision approval binding now) where
  console := sound.console
  users := sound.users
  drawn := fun row isIn => by
    rcases mem_append.mp isIn with isOld | isNew
    · exact Nat.lt_succ_of_lt (sound.drawn row (mem_filter.mp isOld).1)
    · rw [mem_singleton.mp isNew]
      exact Nat.lt_succ_self _
  known := fun other isIn => Nat.lt_succ_of_lt (sound.known other isIn)
  issued := fun i isIn => by
    rcases mem_cons.mp isIn with rfl | isOld
    · exact {
        sound := ⟨rfl, rfl, rfl, Nat.min_le_left _ _, captured.named, captured.enabled,
          isBinding, approval, isApproval, rfl⟩
        drawn := Nat.lt_succ_self _
        rows := fun row isRow isRef => by
          rcases mem_append.mp isRow with isOld | isNew
          · have := sound.drawn row (mem_filter.mp isOld).1
            have same : row.authorityRef = w.drawn := isRef
            omega
          · rw [mem_singleton.mp isNew]
            exact ⟨rfl, nofun, fun isRevoked =>
              absurd (sound.known _ isRevoked) (Nat.lt_irrefl _)⟩
        present := .inl ⟨_, mem_append_right _ (mem_singleton.mpr rfl), rfl⟩
        token := captured.token
        known := captured.known
        session := captured.session
        user := captured.user }
    · have stands := sound.issued i isOld
      exact { stands with
        drawn := Nat.lt_succ_of_lt stands.drawn
        rows := fun row isRow isRef => by
          rcases mem_append.mp isRow with isBefore | isNew
          · exact stands.rows row (mem_filter.mp isBefore).1 isRef
          · have := stands.drawn
            rw [mem_singleton.mp isNew] at isRef
            have same : w.drawn = i.row.authorityRef := isRef
            omega
        present := by
          rcases stands.present with ⟨row, isRow, isRef⟩ | rest
          · have isRowOf := stands.rows row isRow isRef
            have ends : row.expiresAt = i.row.expiresAt := by rw [isRowOf.same]
            rcases Classical.em (now < row.expiresAt ∧ row.revokedAt = none) with kept | removed
            · exact .inl ⟨row, mem_append_left _
                (mem_filter.mpr ⟨isRow, decide_eq_true kept⟩), isRef⟩
            · refine .inr ?_
              rcases Nat.lt_or_ge now row.expiresAt with unexpired | expired
              · have isRevoked : row.revokedAt ≠ none := fun isNone =>
                  removed ⟨unexpired, isNone⟩
                exact .inl (isRowOf.revoked.mp (Option.isSome_iff_ne_none.mpr isRevoked))
              · exact .inr (.inl (ends ▸ Nat.le_trans expired after))
          · exact .inr rest }

theorem DeferredSound.finish (capture : Capture) (time : Nat) (after : now ≤ w.console.clock) :
    DeferredSound (w.finish capture decision time now) := by
  have checked : DeferredSound (w.withConsole { w.console with
      store := (readSession w.console.store w.roles capture.token time).1 }) :=
    sound.reads capture.token time (Nat.le_refl _)
  unfold DeferredWorld.finish
  split_ifs
  · exact sound
  · split
    · next store source read =>
        rw [read] at checked
        dsimp only
        split_ifs
        · exact checked
        · split
          · next approval binding isApproval isBinding =>
              exact checked.issue (captured_of_read sound read) after isApproval isBinding
          · exact checked
    · next read =>
        rw [read] at checked
        exact checked

omit sound

theorem Sound.revokeSession (sound : Sound console) (sessionId clock : Nat)
    (grows : console.clock ≤ clock) : Sound { console with
      clock := clock
      store := { console.store with
        sessions := console.store.sessions.filter (·.sessionId ≠ sessionId) } } :=
  (sound.later grows).kept (sound.sessions.filter _) (Nat.le_refl _)

include sound in
theorem DeferredSound.apply (step : DeferredStep) : DeferredSound (w.apply step) := by
  have grows : w.console.clock ≤ w.console.clock + step.wait + step.pause := by omega
  unfold DeferredWorld.apply
  cases step.command with
  | console command =>
    exact sound.withConsole (sound.console.apply _) (w.console.apply_evolves _)
      (w.console.apply_clock _)
  | revokeSession sessionId =>
    exact sound.withConsole (sound.console.revokeSession sessionId _ grows)
      (.filter w.console.store _) grows
  | govern roles policy => exact sound.settings grows roles policy w.captures
  | capture token authSession operation input request sameOrigin csrf =>
    have read := sound.reads token (w.console.clock + step.wait) grows
    dsimp only
    split_ifs
    · exact sound.settings grows w.roles w.policy w.captures
    · split
      · next store same =>
          rw [same] at read
          exact read
      · next store session same =>
          rw [same] at read
          exact read.settings (Nat.le_refl _) _ _ _
  | finishCapture index decision =>
    have later := sound.settings grows w.roles w.policy
    dsimp only
    split
    · next capture present =>
        exact (later (w.captures.set index none)).finish capture _ (Nat.le_refl _)
    · exact later w.captures
  | revoke authorityRef reason =>
    exact (sound.settings grows w.roles w.policy w.captures).revokes authorityRef _ reason

section

variable (userIds : String → Option String) (users : String → Option UserRow) (roles : Roles)
  (policy : PolicyRevision)
include userIds users roles policy

theorem deferredSound_initial : DeferredSound (.initial userIds users roles policy) where
  console := sound_initial userIds users
  users := fun {userId user} present => by
    obtain ⟨row, -, rfl⟩ := Option.map_eq_some_iff.mp present
    rfl
  drawn := fun _ isIn => absurd isIn not_mem_nil
  known := fun _ isIn => absurd isIn not_mem_nil
  issued := fun _ isIn => absurd isIn not_mem_nil

theorem deferredSound_run (steps : List DeferredStep) :
    DeferredSound (.run userIds users roles policy steps) :=
  runAll_invariant (fun _ step sound => sound.apply step)
    (deferredSound_initial userIds users roles policy) steps

end

/-- After any run, a captured authority is allowed exactly while it lives, for the presentations
at which a living authority has not been disturbed, and for no others. -/
theorem run_revalidates (userIds : String → Option String) (users : String → Option UserRow)
    (roles : Roles) (policy : PolicyRevision) (steps : List DeferredStep) (i : Issued)
    (isIssued : i ∈ (DeferredWorld.run userIds users roles policy steps).issued) (wait : Nat)
    (decision : Decision) :
    let w := DeferredWorld.run userIds users roles policy steps
    let now := w.console.clock + wait
    ((w.revalidate i now decision).isAllowed = true ↔ Lives w i now decision) ↔
      (Lives w i now decision → Undisturbed w i decision) := by
  intro w now
  have sound := deferredSound_run userIds users roles policy steps
  have stands := sound.issued i isIssued
  constructor
  · intro same lives
    exact (stands.lives (same.mpr lives)).2
  · intro undisturbed
    constructor
    · exact fun allowed => (stands.lives allowed).1
    · intro lives
      exact stands.allowed sound (Nat.le_add_right _ _) lives (undisturbed lives)

def sampleUsers : String → Option UserRow := fun userId =>
  if userId = "ada" then
    some {
      userId := "ada"
      roleId := "owner"
      passwordHash := ⟨"right", "salt"⟩
      salt := "salt"
      profile := { orgId := "root" } }
  else none

def sampleRoles : Roles where
  named := fun roleId => if roleId = "owner" then some ⟨"owner", ["jobs:write"], true⟩ else none
  viewer := ⟨"viewer", [], true⟩

def sampleOperation : Operation where
  id := "jobs.upload_workspace_materialize"
  risk := "repair_write"
  approvalScope := "workspace:write"
  requiresConfirmation := true

def sampleDecision : Decision where
  allowed := true
  action := "write"
  effect := "allow"
  reasonCode := "allowed"
  operationId := "jobs.upload_workspace_materialize"
  risk := "repair_write"

def sampleSource : DurableAuthoritySource where
  session := ⟨0, SESSION_TTL_MS, 0, 0⟩
  user := {
    allowedDataClasses := []
    allowedEgress := []
    allowedWorkspaceIds := []
    attributes := "\x7b\x7d"
    createdAt := 0
    departmentIds := []
    orgId := "root"
    roleId := "owner"
    roleScopes := ["jobs:write"]
    teamIds := []
    tenantId := "default"
    updatedAt := 0
    userId := "ada" }

def sampleCapture : List DeferredStep := [
  { command := .console (.login "ada" "right") },
  { command := .console (.settle 0) },
  { command := .capture 0 (some sampleSource) sampleOperation { safetyConfirm := true } {} true
      true },
  { command := .finishCapture 0 sampleDecision }]

def sampleAttack : List DeferredStep := [
  { command := .console (.login "ada" "guess"), wait := 1 },
  { command := .console (.settle 1) }]

def samplePolicy : PolicyRevision where
  revision := 1
  updatedAt := 0

def sampleIntent : ApprovalIntent where
  approvalScope := "workspace:write"
  confirmed := true
  operationId := "jobs.upload_workspace_materialize"
  requiresConfirmation := true
  risk := "repair_write"
  state := "confirmed"

def sampleRun (steps : List DeferredStep) : DeferredWorld :=
  .run some sampleUsers sampleRoles samplePolicy steps

def sampleIssued : Issued where
  row := {
    authorityRef := 0
    sessionId := 0
    operationId := "jobs.upload_workspace_materialize"
    requestDigest := ("jobs.upload_workspace_materialize", { safetyConfirm := true })
    approvalIntentDigest := sampleIntent
    issuedAt := 0
    expiresAt := SESSION_TTL_MS }
  source := sampleSource
  operation := sampleOperation
  input := { safetyConfirm := true }
  request := {}
  decision := sampleDecision
  policy := samplePolicy
  binding := {
    subject := ⟨sampleSource.user, "ada", "default"⟩
    context := {
      approvalRevision := sampleIntent
      grantRevision := (sampleSource.session, sampleSource.user)
      policyRevision := samplePolicy
      riskRevision := (operationRiskAuthorityFacts sampleOperation sampleDecision).get rfl
      workloadGeneration := (0, 0, 0, sampleSource.user) } }

def sampleAttacked : UserRow where
  userId := "ada"
  roleId := "owner"
  passwordHash := ⟨"right", "salt"⟩
  salt := "salt"
  profile := { orgId := "root" }
  updatedAt := 1
  failedAttempts := 1

theorem sampleAttacked_same :
    SameUser sampleAttacked (resolveRole sampleRoles "owner") sampleSource.user where
  enabled := rfl
  roleId := rfl
  sameRole := by decide +kernel
  roleScopes := by decide +kernel
  tenantId := rfl
  orgId := rfl
  teamIds := rfl
  departmentIds := rfl
  attributes := rfl
  workspaces := rfl
  dataClasses := rfl
  egress := rfl

theorem wrong_password_ends_authority :
    sampleIssued ∈ (sampleRun (sampleCapture ++ sampleAttack)).issued ∧
      Lives (sampleRun (sampleCapture ++ sampleAttack)) sampleIssued 1 sampleDecision ∧
      (sampleRun (sampleCapture ++ sampleAttack)).revalidate sampleIssued 1 sampleDecision =
        .changed :=
  ⟨by decide +kernel, {
    unrevoked := by decide +kernel
    unexpired := by decide +kernel
    session := by decide +kernel
    user := ⟨sampleAttacked, by decide +kernel, sampleAttacked_same⟩
    policy := rfl
    authorized := rfl }, by decide +kernel⟩

theorem run_revalidates_sample :
    ((sampleRun sampleCapture).revalidate sampleIssued 1 sampleDecision).isAllowed = true ↔
      Lives (sampleRun sampleCapture) sampleIssued 1 sampleDecision :=
  (run_revalidates some sampleUsers sampleRoles samplePolicy sampleCapture sampleIssued
    (by decide +kernel) 1 sampleDecision).mpr fun _ =>
      ⟨⟨{ sampleAttacked with updatedAt := 0, failedAttempts := 0 }, by decide +kernel, rfl⟩,
        Or.inr (Or.inr (Or.inr rfl)), rfl⟩

end LicoMesh.ConsoleAuth
