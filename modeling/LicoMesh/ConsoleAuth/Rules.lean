import LicoMesh.ConsoleAuth.Logins

namespace LicoMesh.ConsoleAuth

open Library List

variable {history : List Entry} {checked account : UserRow} {w : World} {userId : String}
  {now ending : Nat}

structure AccountSound (history : List Entry) (account : UserRow) (clock : Nat) : Prop where
  counted : account.failedAttempts = tally history
  locked : ∀ after failedAt before, history = after ++ .failure failedAt :: before →
    LOGIN_MAX_ATTEMPTS ≤ tally before + 1 →
    (failedAt + LOGIN_LOCKOUT_MS ≤ account.lockedUntil ∨ failedAt + LOGIN_LOCKOUT_MS ≤ clock) ∧
      ∀ createdAt, .success createdAt ∈ after → failedAt + LOGIN_LOCKOUT_MS ≤ createdAt

theorem AccountSound.later (sound : AccountSound history account clock) (after : clock ≤ ending) :
    AccountSound history account ending where
  counted := sound.counted
  locked := fun newer failedAt before isHistory reached =>
    have facts := sound.locked newer failedAt before isHistory reached
    ⟨facts.1.imp_right fun lapsed => Nat.le_trans lapsed after, facts.2⟩

theorem AccountSound.same (sound : AccountSound history account clock)
    (failedAttempts : updated.failedAttempts = account.failedAttempts)
    (lockedUntil : updated.lockedUntil = account.lockedUntil) :
    AccountSound history updated clock where
  counted := failedAttempts.trans sound.counted
  locked := by
    rw [lockedUntil]
    exact sound.locked

section

variable (sound : AccountSound history account now) (unlocked : account.lockedUntil ≤ now)
include sound unlocked

theorem AccountSound.succeeded :
    AccountSound (.success now :: history) (completeSuccessfulLogin account now) now where
  counted := rfl
  locked := fun after failedAt before isHistory reached => by
    cases after with
    | nil => exact nomatch isHistory
    | cons first rest =>
      obtain ⟨rfl, isRest⟩ := cons.inj isHistory
      obtain ⟨lasting, kept⟩ := sound.locked rest failedAt before isRest reached
      have lapsed : failedAt + LOGIN_LOCKOUT_MS ≤ now :=
        lasting.elim (fun locked => Nat.le_trans locked unlocked) id
      refine ⟨.inr lapsed, fun createdAt isIn => ?_⟩
      rcases mem_cons.mp isIn with same | isOld
      · cases same
        exact lapsed
      · exact kept createdAt isOld

theorem AccountSound.failed (lasts : now + LOGIN_LOCKOUT_MS ≤ lockedUntil) :
    AccountSound (.failure now :: history) (recordFailedLogin account now lockedUntil) now where
  counted := by
    unfold recordFailedLogin tally
    rw [sound.counted]
  locked := fun after failedAt before isHistory reached => by
    cases after with
    | nil =>
      obtain ⟨same, rfl⟩ := cons.inj isHistory
      cases same
      refine ⟨.inl ?_, fun createdAt isIn => absurd isIn not_mem_nil⟩
      unfold recordFailedLogin
      dsimp only
      rw [sound.counted, if_pos reached]
      exact lasts
    | cons first rest =>
      obtain ⟨rfl, isRest⟩ := cons.inj isHistory
      obtain ⟨lasting, kept⟩ := sound.locked rest failedAt before isRest reached
      have lapsed : failedAt + LOGIN_LOCKOUT_MS ≤ now :=
        lasting.elim (fun locked => Nat.le_trans locked unlocked) id
      refine ⟨.inr lapsed, fun createdAt isIn => ?_⟩
      rcases mem_cons.mp isIn with same | isOld
      · exact nomatch same
      · exact kept createdAt isOld

end

structure Sound (w : World) : Prop where
  accounts : ∀ userId account, w.store.users userId = some account →
    AccountSound (w.history userId) account w.clock
  unknown : ∀ userId, w.store.users userId = none → w.history userId = []
  sessions : SessionsSound w.store.sessions w.store.drawn
  created : ∀ c ∈ w.creations, c.account.enabled = true ∧ c.account.lockedUntil ≤ c.createdAt ∧
    c.account.passwordHash = ⟨c.password, c.account.salt⟩ ∧
    .success c.createdAt ∈ w.history c.userId ∧ c.sessionId < w.store.drawn
  distinct : ∀ first ∈ w.creations, ∀ second ∈ w.creations,
    first.sessionId = second.sessionId → first = second
  origin : ∀ session ∈ w.store.sessions, ∃ c ∈ w.creations, c.sessionId = session.sessionId ∧
    c.userId = session.userId ∧ c.changes = w.changes c.userId
  loggedOut : ∀ session ∈ w.store.sessions, session.sessionId ∉ w.loggedOut
  known : ∀ sessionId ∈ w.loggedOut, sessionId < w.store.drawn

variable (sound : Sound w)
include sound

theorem Sound.later (after : w.clock ≤ ending) : Sound { w with clock := ending } :=
  { sound with
    accounts := fun userId account present => (sound.accounts userId account present).later after }

theorem Sound.calls (calls : List Pending) : Sound { w with calls := calls } := { sound with }

variable (present : w.store.users userId = some account) {history : String → List Entry}

include present in
theorem Sound.setUser (own : AccountSound (history userId) updated w.clock)
    (others : ∀ other, other ≠ userId → history other = w.history other)
    (grows : ∀ other entry, entry ∈ w.history other → entry ∈ history other) :
    Sound { w with store := w.store.setUser userId updated, history := history } where
  accounts := fun other found isFound => by
    by_cases same : other = userId
    · subst same
      have isUpdated : updated = found :=
        Option.some.inj ((Store.setUser_self ..).symm.trans isFound)
      rw [← isUpdated]
      exact own
    · have before := sound.accounts other found
        ((Store.setUser_other _ _ same).symm.trans isFound)
      exact (congrArg (AccountSound · found w.clock) (others other same)).mpr before
  unknown := fun other absent => by
    have differs : other ≠ userId := fun same => by
      subst same
      exact nomatch (Store.setUser_self ..).symm.trans absent
    exact (others other differs).trans
      (sound.unknown other ((Store.setUser_other _ _ differs).symm.trans absent))
  sessions := sound.sessions
  created := fun c isIn =>
    have facts := sound.created c isIn
    ⟨facts.1, facts.2.1, facts.2.2.1, grows _ _ facts.2.2.2.1, facts.2.2.2.2⟩
  distinct := sound.distinct
  origin := sound.origin
  loggedOut := sound.loggedOut
  known := sound.known

theorem Sound.kept {sessions : List SessionRow}
    (kept : Kept w.store.sessions drawn sessions) (after : w.store.drawn ≤ drawn) :
    Sound { w with store := { w.store with sessions := sessions, drawn := drawn } } where
  accounts := sound.accounts
  unknown := sound.unknown
  sessions := kept.sound
  created := fun c isIn =>
    have facts := sound.created c isIn
    ⟨facts.1, facts.2.1, facts.2.2.1, facts.2.2.2.1, Nat.lt_of_lt_of_le facts.2.2.2.2 after⟩
  distinct := sound.distinct
  origin := fun session isIn => by
    obtain ⟨old, isOld, sameId, sameUser⟩ := kept.same session isIn
    obtain ⟨c, isCreation, isId, isUser, unchanged⟩ := sound.origin old isOld
    exact ⟨c, isCreation, isId.trans sameId.symm, isUser.trans sameUser.symm, unchanged⟩
  loggedOut := fun session isIn => by
    obtain ⟨old, isOld, sameId, -⟩ := kept.same session isIn
    rw [sameId]
    exact sound.loggedOut old isOld
  known := fun sessionId isIn => Nat.lt_of_lt_of_le (sound.known sessionId isIn) after

omit sound

theorem note_self (history : String → List Entry) (userId : String) (entry : Entry) :
    note history userId entry userId = entry :: history userId :=
  Function.update_self ..

theorem note_other (history : String → List Entry) (entry : Entry)
    (differs : other ≠ userId) : note history userId entry other = history other :=
  Function.update_of_ne differs ..

theorem mem_note (isIn : found ∈ history other) : found ∈ note history userId entry other := by
  by_cases same : other = userId
  · subst same
    rw [note_self]
    exact mem_cons_of_mem _ isIn
  · rw [note_other _ _ same]
    exact isIn

theorem inForce_eq_true (holds : inForce row checked now = true) :
    row.enabled = true ∧ row.passwordHash = checked.passwordHash ∧ row.salt = checked.salt ∧
      row.lockedUntil ≤ now := of_decide_eq_true holds

theorem settles_some (settled : settles store checked now = some account) :
    store.users checked.userId = some account ∧ inForce account checked now = true := by
  unfold settles at settled
  split at settled
  · exact nomatch settled
  · next row present =>
      split_ifs at settled with holds
      cases settled
      exact ⟨present, holds⟩

include sound present

theorem Sound.failed (unlocked : account.lockedUntil ≤ w.clock)
    (lasts : w.clock + LOGIN_LOCKOUT_MS ≤ lockedUntil) : Sound { w with
      store := w.store.setUser userId (recordFailedLogin account w.clock lockedUntil)
      history := note w.history userId (.failure w.clock) } := by
  refine sound.setUser present ?_ (fun other differs => note_other _ _ differs)
    (fun other entry isIn => mem_note isIn)
  rw [note_self]
  exact (sound.accounts userId account present).failed unlocked lasts

theorem Sound.created_session
    (enabled : account.enabled = true) (unlocked : account.lockedUntil ≤ w.clock)
    (right : account.passwordHash = ⟨password, account.salt⟩) (expiresAt : Nat) : Sound { w with
      store := { w.store.setUser userId (completeSuccessfulLogin account w.clock) with
        sessions := w.store.sessions ++
          [⟨w.store.drawn, userId, w.store.drawn, w.clock, w.clock, expiresAt⟩]
        drawn := w.store.drawn + 1 }
      history := note w.history userId (.success w.clock)
      creations := w.creations ++
        [⟨w.store.drawn, userId, password, w.clock, account, w.changes userId⟩] } := by
  have next : Sound { w with
      store := w.store.setUser userId (completeSuccessfulLogin account w.clock)
      history := note w.history userId (.success w.clock) } := by
    refine sound.setUser present ?_ (fun other differs => note_other _ _ differs)
      (fun other entry isIn => mem_note isIn)
    rw [note_self]
    exact (sound.accounts userId account present).succeeded unlocked
  exact {
    accounts := next.accounts
    unknown := next.unknown
    sessions := {
      ids := fun first isFirst second isSecond same => by
        rcases mem_append.mp isFirst with isFirst | isFirst <;>
          rcases mem_append.mp isSecond with isSecond | isSecond
        · exact sound.sessions.ids first isFirst second isSecond same
        · have := (sound.sessions.drawn first isFirst).1
          rw [mem_singleton.mp isSecond] at same
          dsimp only at same
          omega
        · have := (sound.sessions.drawn second isSecond).1
          rw [mem_singleton.mp isFirst] at same
          dsimp only at same
          omega
        · rw [mem_singleton.mp isFirst, mem_singleton.mp isSecond]
      tokens := fun first isFirst second isSecond same => by
        rcases mem_append.mp isFirst with isFirst | isFirst <;>
          rcases mem_append.mp isSecond with isSecond | isSecond
        · exact sound.sessions.tokens first isFirst second isSecond same
        · have := (sound.sessions.drawn first isFirst).2
          rw [mem_singleton.mp isSecond] at same
          dsimp only at same
          omega
        · have := (sound.sessions.drawn second isSecond).2
          rw [mem_singleton.mp isFirst] at same
          dsimp only at same
          omega
        · rw [mem_singleton.mp isFirst, mem_singleton.mp isSecond]
      drawn := fun session isIn => by
        rcases mem_append.mp isIn with isOld | isNew
        · have := sound.sessions.drawn session isOld
          exact ⟨Nat.lt_succ_of_lt this.1, Nat.lt_succ_of_lt this.2⟩
        · rw [mem_singleton.mp isNew]
          exact ⟨Nat.lt_succ_self _, Nat.lt_succ_self _⟩ }
    created := fun c isIn => by
      rcases mem_append.mp isIn with isOld | isNew
      · have facts := next.created c isOld
        exact ⟨facts.1, facts.2.1, facts.2.2.1, facts.2.2.2.1, Nat.lt_succ_of_lt facts.2.2.2.2⟩
      · rw [mem_singleton.mp isNew]
        refine ⟨enabled, unlocked, right, ?_, Nat.lt_succ_self _⟩
        dsimp only
        rw [note_self]
        exact mem_cons_self
    distinct := fun first isFirst second isSecond same => by
      rcases mem_append.mp isFirst with isFirst | isFirst <;>
        rcases mem_append.mp isSecond with isSecond | isSecond
      · exact sound.distinct first isFirst second isSecond same
      · have := (sound.created first isFirst).2.2.2.2
        rw [mem_singleton.mp isSecond] at same
        dsimp only at same
        omega
      · have := (sound.created second isSecond).2.2.2.2
        rw [mem_singleton.mp isFirst] at same
        dsimp only at same
        omega
      · rw [mem_singleton.mp isFirst, mem_singleton.mp isSecond]
    origin := fun session isIn => by
      rcases mem_append.mp isIn with isOld | isNew
      · obtain ⟨c, isCreation, facts⟩ := sound.origin session isOld
        exact ⟨c, mem_append_left _ isCreation, facts⟩
      · rw [mem_singleton.mp isNew]
        exact ⟨_, mem_append_right _ (mem_singleton.mpr rfl), rfl, rfl, rfl⟩
    loggedOut := fun session isIn => by
      rcases mem_append.mp isIn with isOld | isNew
      · exact sound.loggedOut session isOld
      · rw [mem_singleton.mp isNew]
        exact fun isLoggedOut => Nat.lt_irrefl _ (sound.known _ isLoggedOut)
    known := fun sessionId isIn => Nat.lt_succ_of_lt (sound.known sessionId isIn) }

omit present sound

theorem commitUpdate_cases (store : Store) (userId : String) (patch : UserPatch)
    (credential : Option PasswordHash) (now : Nat) :
    (store.users userId = none ∧ commitUpdate store userId patch credential now = store) ∨
    ∃ current, store.users userId = some current ∧ commitUpdate store userId patch credential now =
        { store.setUser userId (patchUser current patch credential now) with
          sessions := if credential.isSome then store.sessions.filter (·.userId ≠ userId)
          else store.sessions } := by
  unfold commitUpdate
  split
  · next absent => exact .inl ⟨absent, rfl⟩
  · next current present =>
      refine .inr ⟨current, present, ?_⟩
      split_ifs <;> rfl

include sound

theorem Sound.updated (patch : UserPatch) :
    Sound { w with store := commitUpdate w.store userId patch none now } := by
  rcases commitUpdate_cases w.store userId patch none now with
    ⟨-, same⟩ | ⟨current, present, same⟩
  · rw [same]
    exact sound
  · rw [same]
    exact sound.setUser present ((sound.accounts userId current present).same rfl rfl)
      (fun _ _ => rfl) (fun _ _ isIn => isIn)

theorem Sound.rekeyed (patch : UserPatch) (credential : PasswordHash) : Sound { w with
      store := commitUpdate w.store userId patch (some credential) now
      changes := if (w.store.users userId).isSome then
        Function.update w.changes userId (w.changes userId + 1) else w.changes } := by
  rcases commitUpdate_cases w.store userId patch (some credential) now with
    ⟨absent, same⟩ | ⟨current, present, same⟩
  · rw [same, absent, if_neg nofun]
    exact sound
  · rw [same, present, if_pos (show (some current).isSome = true from rfl)]
    have own : AccountSound (w.history userId) (patchUser current patch (some credential) now)
        w.clock := (sound.accounts userId current present).same rfl rfl
    have next := sound.setUser present own (fun _ _ => rfl) (fun _ _ isIn => isIn)
    have kept := next.kept (next.sessions.filter (·.userId ≠ userId)) (Nat.le_refl _)
    exact { kept with
      origin := fun session isIn => by
        obtain ⟨isOld, differs⟩ := mem_filter.mp isIn
        obtain ⟨c, isCreation, isId, isUser, unchanged⟩ := sound.origin session isOld
        refine ⟨c, isCreation, isId, isUser, ?_⟩
        have other : c.userId ≠ userId := isUser ▸ of_decide_eq_true differs
        exact unchanged.trans (Function.update_of_ne other ..).symm }

theorem Sound.loggedOutToken (token : Nat) : Sound { w with
      store := logout w.store token
      loggedOut := (w.store.sessions.filter (·.tokenHash = token)).map (·.sessionId) ++
        w.loggedOut } := by
  have kept := sound.kept (sound.sessions.filter (·.tokenHash ≠ token)) (Nat.le_refl _)
  exact { kept with
    loggedOut := fun session isIn isLoggedOut => by
      obtain ⟨isOld, differs⟩ := mem_filter.mp isIn
      rcases mem_append.mp isLoggedOut with isNew | isKnown
      · obtain ⟨other, isOther, sameId⟩ := mem_map.mp isNew
        obtain ⟨otherIn, sameToken⟩ := mem_filter.mp isOther
        have same := sound.sessions.ids other otherIn session isOld sameId
        rw [same] at sameToken
        exact of_decide_eq_true differs (of_decide_eq_true sameToken)
      · exact sound.loggedOut session isOld isKnown
    known := fun sessionId isIn => by
      rcases mem_append.mp isIn with isNew | isKnown
      · obtain ⟨other, isOther, rfl⟩ := mem_map.mp isNew
        exact (sound.sessions.drawn other (mem_filter.mp isOther).1).1
      · exact sound.known sessionId isKnown }

theorem Sound.settled (checked : UserRow) (password : String) {later : Nat}
    (after : w.clock ≤ later) :
    Sound (({ w with clock := later } : World).settleLogin checked password w.clock later) := by
  unfold World.settleLogin commitSuccessfulLogin failLogin
  cases settled : settles w.store checked w.clock with
  | none =>
    split_ifs
    · exact sound.later after
    · exact sound.later after
  | some account =>
    obtain ⟨present, holds⟩ := settles_some settled
    obtain ⟨enabled, sameHash, sameSalt, unlocked⟩ := inForce_eq_true holds
    split_ifs with verified
    · have right : account.passwordHash = ⟨password, account.salt⟩ := by
        rw [sameHash, sameSalt]
        exact (of_decide_eq_true verified).symm
      exact (sound.created_session present enabled unlocked right
        (later + SESSION_TTL_MS)).later after
    · exact (sound.failed present unlocked (Nat.add_le_add_right after _)).later after

theorem Sound.apply (step : Step) : Sound (w.apply step) := by
  have toNow : w.clock ≤ w.clock + step.wait := Nat.le_add_right _ _
  have pause : w.clock + step.wait ≤ w.clock + step.wait + step.pause := Nat.le_add_right _ _
  have atNow := sound.later toNow
  have atEnd := atNow.later pause
  unfold World.apply
  cases step.command with
  | login username password =>
    dsimp only
    split
    · exact atEnd
    · exact atEnd.calls _
  | settle index =>
    dsimp only
    split
    · next checked password present =>
        exact (atNow.calls (w.calls.set index .ended)).settled checked password pause
    · exact atEnd
  | updateUser userId patch password =>
    dsimp only
    split
    · exact atEnd
    · exact atEnd.updated patch
    · split
      · exact atEnd
      · exact atEnd.calls _
  | commitUpdate index salt =>
    dsimp only
    split
    · exact (atEnd.rekeyed _ _).calls _
    · exact atEnd
  | logout token => exact atEnd.loggedOutToken token
  | rotateSession token =>
    dsimp only
    obtain ⟨sessions, drawn, same, kept, grows⟩ := rotateSession_kept sound.sessions token
      (w.clock + step.wait) (w.clock + step.wait + step.pause)
      (w.clock + step.wait + step.pause + SESSION_TTL_MS)
    rw [same]
    exact atEnd.kept kept grows
  | sessionFromToken token =>
    dsimp only
    obtain ⟨sessions, same, kept⟩ := sessionFromToken_kept sound.sessions token
      (w.clock + step.wait)
    rw [same]
    exact atEnd.kept kept (Nat.le_refl _)

omit sound

theorem sound_initial (userIds : String → Option String) (users : String → Option UserRow) :
    Sound (.initial userIds users) where
  accounts := fun userId account present => by
    obtain ⟨row, -, rfl⟩ := Option.map_eq_some_iff.mp present
    refine ⟨rfl, fun after failedAt before isHistory _ => ?_⟩
    have none : [] = after ++ .failure failedAt :: before := isHistory
    exact absurd none.symm (by simp)
  unknown := fun _ _ => rfl
  sessions := ⟨fun _ isIn => absurd isIn not_mem_nil, fun _ isIn => absurd isIn not_mem_nil,
    fun _ isIn => absurd isIn not_mem_nil⟩
  created := fun _ isIn => absurd isIn not_mem_nil
  distinct := fun _ isIn => absurd isIn not_mem_nil
  origin := fun _ isIn => absurd isIn not_mem_nil
  loggedOut := fun _ isIn => absurd isIn not_mem_nil
  known := fun _ isIn => absurd isIn not_mem_nil

structure Rules (w : World) : Prop where
  created : ∀ c ∈ w.creations, c.account.enabled = true ∧ c.account.lockedUntil ≤ c.createdAt ∧
    c.account.passwordHash = ⟨c.password, c.account.salt⟩ ∧
    .success c.createdAt ∈ w.history c.userId
  noted : ∀ index checked password account wait pause,
    w.calls[index]? = some (.checking checked password) →
    verifyPassword password checked.salt checked.passwordHash = false →
    w.store.users checked.userId = some account → account.enabled = true →
    account.passwordHash = checked.passwordHash → account.salt = checked.salt →
    account.lockedUntil ≤ w.clock + wait →
    (w.apply ⟨.settle index, wait, pause⟩).history checked.userId =
        .failure (w.clock + wait) :: w.history checked.userId ∧
      (w.apply ⟨.settle index, wait, pause⟩).calls[index]? = some .ended
  counted : ∀ userId account, w.store.users userId = some account →
    account.failedAttempts = tally (w.history userId)
  /-- After the last attempt that is allowed no login succeeds before the lockout is over. -/
  locked : ∀ userId after failedAt before, w.history userId = after ++ .failure failedAt :: before →
    LOGIN_MAX_ATTEMPTS ≤ tally before + 1 →
    ∀ createdAt, .success createdAt ∈ after → failedAt + LOGIN_LOCKOUT_MS ≤ createdAt
  accepted : ∀ token now session, (sessionFromToken w.store token now).2 = some session →
    (∃ user, w.store.users session.userId = some user ∧ user.enabled = true) ∧
    session.sessionId ∉ w.loggedOut ∧
    (∃ c ∈ w.creations, c.sessionId = session.sessionId) ∧
    ∀ c ∈ w.creations, c.sessionId = session.sessionId →
      c.userId = session.userId ∧ c.changes = w.changes c.userId
  oneToken : ∀ first second now later session other,
    (sessionFromToken w.store first now).2 = some session →
    (sessionFromToken w.store second later).2 = some other →
    session.sessionId = other.sessionId → first = second

theorem settle_noted (present : w.calls[index]? = some (.checking checked password))
    (wrong : verifyPassword password checked.salt checked.passwordHash = false)
    (settled : settles w.store checked (w.clock + wait) = some account) :
    (w.apply ⟨.settle index, wait, pause⟩).history checked.userId =
        .failure (w.clock + wait) :: w.history checked.userId ∧
      (w.apply ⟨.settle index, wait, pause⟩).calls[index]? = some .ended := by
  obtain ⟨bound, -⟩ := List.getElem?_eq_some_iff.mp present
  have next : w.apply ⟨.settle index, wait, pause⟩ =
      ({ w with clock := w.clock + wait + pause, calls := w.calls.set index .ended } :
        World).settleLogin checked password (w.clock + wait) (w.clock + wait + pause) := by
    unfold World.apply
    dsimp only
    rw [present]
  rw [next]
  unfold World.settleLogin
  rw [wrong, if_neg nofun]
  rw [settled]
  exact ⟨note_self .., getElem?_set_self bound⟩

include sound in
theorem Sound.rules : Rules w where
  created := fun c isIn =>
    have facts := sound.created c isIn
    ⟨facts.1, facts.2.1, facts.2.2.1, facts.2.2.2.1⟩
  noted := fun index checked password account wait pause present wrong isAccount enabled hash salt
      unlocked => by
    refine settle_noted present wrong (?_ : _ = some account)
    unfold settles
    rw [isAccount]
    exact if_pos (decide_eq_true ⟨enabled, hash, salt, unlocked⟩)
  counted := fun userId account present => (sound.accounts userId account present).counted
  locked := fun userId after failedAt before isHistory reached => by
    cases present : w.store.users userId with
    | none =>
      rw [sound.unknown userId present] at isHistory
      exact absurd isHistory.symm (by simp)
    | some account =>
      exact ((sound.accounts userId account present).locked after failedAt before isHistory
        reached).2
  accepted := fun token now session accepted => by
    obtain ⟨isIn, -, enabled⟩ := sessionFromToken_some accepted
    obtain ⟨c, isCreation, isId, isUser, unchanged⟩ := sound.origin session isIn
    refine ⟨enabled, sound.loggedOut session isIn, ⟨c, isCreation, isId⟩, ?_⟩
    intro found isFound sameId
    rw [sound.distinct found isFound c isCreation (sameId.trans isId.symm)]
    exact ⟨isUser, unchanged⟩
  oneToken := fun first second now later session other acceptedFirst acceptedSecond same => by
    obtain ⟨isFirst, firstToken, -⟩ := sessionFromToken_some acceptedFirst
    obtain ⟨isSecond, secondToken, -⟩ := sessionFromToken_some acceptedSecond
    rw [← firstToken, ← secondToken, sound.sessions.ids session isFirst other isSecond same]

/-- The rules hold in every state that interleaved logins, updates and session commands reach. -/
theorem run_rules (userIds : String → Option String) (users : String → Option UserRow)
    (steps : List Step) : Rules (World.run userIds users steps) :=
  (runAll_invariant (fun _ step sound => sound.apply step) (sound_initial userIds users)
    steps).rules

end LicoMesh.ConsoleAuth
