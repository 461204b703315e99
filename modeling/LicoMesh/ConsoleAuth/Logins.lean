import LicoMesh.ConsoleAuth.Accounts
import LicoMesh.Library.Path

namespace LicoMesh.ConsoleAuth

open Library List

/-! Interleaved logins, user updates and session commands. A login is suspended while it derives
the key of its password, an update while it hashes the new one. -/

variable {session : SessionRow} {drawn : Nat} {sessions : List SessionRow} {store : Store}

inductive Pending
  | checking (userRow : UserRow) (password : String)
  | hashing (userId : String) (patch : UserPatch) (password : String)
  | ended

/-- What has happened to an account: a failed login that was checked against the password still
in force while the account was enabled and not locked, or a login that created a session. -/
inductive Entry
  | failure (failedAt : Nat)
  | success (createdAt : Nat)

/-- The failures since the last success or lock; the newest entry comes first. -/
def tally : List Entry → Nat
  | [] => 0
  | .success _ :: _ => 0
  | .failure _ :: before => if LOGIN_MAX_ATTEMPTS ≤ tally before + 1 then 0 else tally before + 1

/-- The creation of a session: the password of its login, the account as it was then, and how
often the password of the user had been changed before. -/
structure Creation where
  sessionId : Nat
  userId : String
  password : String
  createdAt : Nat
  account : UserRow
  changes : Nat
  deriving DecidableEq

structure World where
  store : Store
  clock : Nat := 0
  calls : List Pending := []
  history : String → List Entry := fun _ => []
  creations : List Creation := []
  changes : String → Nat := fun _ => 0
  loggedOut : List Nat := []

inductive Command
  | login (username password : String)
  | settle (index : Nat)
  | updateUser (userId : String) (patch : UserPatch) (password : Option String)
  | commitUpdate (index : Nat) (salt : String)
  | logout (token : Nat)
  | rotateSession (token : Nat)
  | sessionFromToken (token : Nat)

/-- A command with how far the clock moves before it and between its readings. -/
structure Step where
  command : Command
  wait : Nat := 0
  pause : Nat := 0

def note (history : String → List Entry) (userId : String) (entry : Entry) : String → List Entry :=
  Function.update history userId (entry :: history userId)

def World.settleLogin (w : World) (userRow : UserRow) (password : String) (now later : Nat) :
    World :=
  if verifyPassword password userRow.salt userRow.passwordHash then
    match settles w.store userRow now,
        commitSuccessfulLogin w.store userRow now (later + SESSION_TTL_MS) with
    | some account, (store, some session) =>
      { w with
        store := store
        history := note w.history userRow.userId (.success now)
        creations := w.creations ++ [{
          sessionId := session.sessionId
          userId := userRow.userId
          password := password
          createdAt := now
          account := account
          changes := w.changes userRow.userId }] }
    | _, (store, _) => { w with store := store }
  else
    { w with
      store := failLogin w.store userRow now (later + LOGIN_LOCKOUT_MS)
      history := match settles w.store userRow now with
        | some _ => note w.history userRow.userId (.failure now)
        | none => w.history }

def World.apply (w : World) (step : Step) : World :=
  let now := w.clock + step.wait
  let later := now + step.pause
  let w := { w with clock := later }
  match step.command with
  | .login username password =>
    match readLogin w.store username now with
    | none => w
    | some userRow => { w with calls := w.calls ++ [.checking userRow password] }
  | .settle index =>
    match w.calls[index]? with
    | some (.checking userRow password) =>
      { w with calls := w.calls.set index .ended }.settleLogin userRow password now later
    | _ => w
  | .updateUser userId patch password =>
    match w.store.users userId, password with
    | none, _ => w
    | some _, none => { w with store := commitUpdate w.store userId patch none now }
    | some _, some password =>
      match normalizePassword password with
      | none => w
      | some password => { w with calls := w.calls ++ [.hashing userId patch password] }
  | .commitUpdate index salt =>
    match w.calls[index]? with
    | some (.hashing userId patch password) =>
      { w with
        calls := w.calls.set index .ended
        store := commitUpdate w.store userId patch (some ⟨password, salt⟩) now
        changes := if (w.store.users userId).isSome then
          Function.update w.changes userId (w.changes userId + 1) else w.changes }
    | _ => w
  | .logout token =>
    { w with
      store := logout w.store token
      loggedOut := (w.store.sessions.filter (·.tokenHash = token)).map (·.sessionId) ++
        w.loggedOut }
  | .rotateSession token =>
    { w with store := rotateSession w.store token now later (later + SESSION_TTL_MS) }
  | .sessionFromToken token => { w with store := (sessionFromToken w.store token now).1 }

def World.initial (userIds : String → Option String) (users : String → Option UserRow) : World where
  store := {
    userIds := userIds
    users := fun userId => (users userId).map fun row =>
      { row with userId := userId, failedAttempts := 0, lockedUntil := 0 } }

def World.run (userIds : String → Option String) (users : String → Option UserRow)
    (steps : List Step) : World :=
  runAll .apply (.initial userIds users) steps

structure SessionsSound (sessions : List SessionRow) (drawn : Nat) : Prop where
  ids : ∀ first ∈ sessions, ∀ second ∈ sessions, first.sessionId = second.sessionId → first = second
  tokens : ∀ first ∈ sessions, ∀ second ∈ sessions,
    first.tokenHash = second.tokenHash → first = second
  drawn : ∀ session ∈ sessions, session.sessionId < drawn ∧ session.tokenHash < drawn

structure Kept (before : List SessionRow) (drawn : Nat) (sessions : List SessionRow) : Prop where
  sound : SessionsSound sessions drawn
  same : ∀ session ∈ sessions, ∃ old ∈ before,
    session.sessionId = old.sessionId ∧ session.userId = old.userId

theorem Kept.trans
    (left : Kept first drawn middle) (right : Kept middle later last) : Kept first later last where
  sound := right.sound
  same := fun session isIn => by
    obtain ⟨between, isBetween, sameId, sameUser⟩ := right.same session isIn
    obtain ⟨old, isOld, oldId, oldUser⟩ := left.same between isBetween
    exact ⟨old, isOld, sameId.trans oldId, sameUser.trans oldUser⟩

variable (sound : SessionsSound sessions drawn)
include sound

theorem SessionsSound.kept : Kept sessions drawn sessions :=
  ⟨sound, fun session isIn => ⟨session, isIn, rfl, rfl⟩⟩

theorem SessionsSound.filter (p : SessionRow → Bool) : Kept sessions drawn (sessions.filter p) where
  sound := {
    ids := fun first isFirst second isSecond =>
      sound.ids first (mem_filter.mp isFirst).1 second (mem_filter.mp isSecond).1
    tokens := fun first isFirst second isSecond =>
      sound.tokens first (mem_filter.mp isFirst).1 second (mem_filter.mp isSecond).1
    drawn := fun session isIn => sound.drawn session (mem_filter.mp isIn).1 }
  same := fun session isIn => ⟨session, (mem_filter.mp isIn).1, rfl, rfl⟩

theorem SessionsSound.map (after : drawn ≤ later)
    (ids : ∀ session, (f session).sessionId = session.sessionId)
    (users : ∀ session, (f session).userId = session.userId)
    (tokens : ∀ first ∈ sessions, ∀ second ∈ sessions,
      (f first).tokenHash = (f second).tokenHash → first = second)
    (bounded : ∀ session ∈ sessions, (f session).tokenHash < later) :
    Kept sessions later (sessions.map f) where
  sound := {
    ids := by
      intro first isFirst second isSecond same
      obtain ⟨a, isA, rfl⟩ := mem_map.mp isFirst
      obtain ⟨b, isB, rfl⟩ := mem_map.mp isSecond
      rw [ids, ids] at same
      rw [sound.ids a isA b isB same]
    tokens := by
      intro first isFirst second isSecond same
      obtain ⟨a, isA, rfl⟩ := mem_map.mp isFirst
      obtain ⟨b, isB, rfl⟩ := mem_map.mp isSecond
      rw [tokens a isA b isB same]
    drawn := by
      intro session isIn
      obtain ⟨a, isA, rfl⟩ := mem_map.mp isIn
      rw [ids]
      exact ⟨Nat.lt_of_lt_of_le (sound.drawn a isA).1 after, bounded a isA⟩ }
  same := by
    intro session isIn
    obtain ⟨a, isA, rfl⟩ := mem_map.mp isIn
    exact ⟨a, isA, ids a, users a⟩

omit sound

theorem getSessionByTokenHash_some
    (found : getSessionByTokenHash store token = some (session, user)) : session ∈ store.sessions ∧
      session.tokenHash = token ∧ store.users session.userId = some user := by
  unfold getSessionByTokenHash at found
  split at found
  · exact nomatch found
  · next row isRow =>
      obtain ⟨owner, isOwner, same⟩ := Option.map_eq_some_iff.mp found
      cases same
      have chosen := find?_some isRow
      exact ⟨mem_of_find?_eq_some isRow, of_decide_eq_true chosen, isOwner⟩

theorem sessionFromToken_kept (sound : SessionsSound store.sessions store.drawn) (token now : Nat) :
    ∃ sessions, (sessionFromToken store token now).1 = { store with sessions := sessions } ∧
      Kept store.sessions store.drawn sessions := by
  unfold sessionFromToken
  split
  · exact ⟨store.sessions, rfl, sound.kept⟩
  · next session user found =>
      split_ifs
      · exact ⟨store.sessions, rfl, sound.kept⟩
      · exact ⟨_, rfl, sound.filter _⟩
      · refine ⟨_, rfl, sound.map (Nat.le_refl _) ?_ ?_ ?_ ?_⟩
        · intro row
          split_ifs <;> rfl
        · intro row
          split_ifs <;> rfl
        · intro first isFirst second isSecond same
          refine sound.tokens first isFirst second isSecond ?_
          split_ifs at same <;> exact same
        · intro row isRow
          have := (sound.drawn row isRow).2
          split_ifs <;> exact this
      · exact ⟨store.sessions, rfl, sound.kept⟩

theorem sessionFromToken_some (accepted : (sessionFromToken store token now).2 = some session) :
    session ∈ store.sessions ∧ session.tokenHash = token ∧
      ∃ user, store.users session.userId = some user ∧ user.enabled = true := by
  unfold sessionFromToken at accepted
  split at accepted
  · exact nomatch accepted
  · next row user found =>
      obtain ⟨isIn, token, isUser⟩ := getSessionByTokenHash_some found
      split_ifs at accepted with disabled lapsed
      all_goals
        cases accepted
        exact ⟨isIn, token, user, isUser, Bool.not_eq_false _ ▸ disabled⟩

theorem rotateSession_kept (sound : SessionsSound store.sessions store.drawn)
    (token now rotatedAt expiresAt : Nat) :
    ∃ sessions drawn, rotateSession store token now rotatedAt expiresAt =
        { store with sessions := sessions, drawn := drawn } ∧
      Kept store.sessions drawn sessions ∧ store.drawn ≤ drawn := by
  unfold rotateSession
  obtain ⟨sessions, isChecked, kept⟩ := sessionFromToken_kept sound token now
  split
  · next checked same =>
      rw [same] at isChecked
      exact ⟨sessions, store.drawn, isChecked, kept, Nat.le_refl _⟩
  · next checked session same =>
      rw [same] at isChecked
      subst isChecked
      refine ⟨_, store.drawn + 1, rfl, kept.trans (kept.sound.map (Nat.le_succ _) ?_ ?_ ?_ ?_),
        Nat.le_succ _⟩
      · intro row
        split_ifs <;> rfl
      · intro row
        split_ifs <;> rfl
      · intro first isFirst second isSecond sameToken
        have firstDrawn := (kept.sound.drawn first isFirst).2
        have secondDrawn := (kept.sound.drawn second isSecond).2
        split_ifs at sameToken with isFirstRow isSecondRow isSecondRow
        · exact kept.sound.ids first isFirst second isSecond (isFirstRow.trans isSecondRow.symm)
        · dsimp only at sameToken
          omega
        · dsimp only at sameToken
          omega
        · exact kept.sound.tokens first isFirst second isSecond sameToken
      · intro row isRow
        have := (kept.sound.drawn row isRow).2
        split_ifs
        · exact Nat.lt_succ_self _
        · exact Nat.lt_succ_of_lt this

end LicoMesh.ConsoleAuth
