import Mathlib.Data.List.Basic

namespace LicoMesh.ConsoleAuth

/-! The users and sessions of the console, and the statements of its login, session and user
commands. Times are in milliseconds, and an empty time is zero. -/

def LOGIN_MAX_ATTEMPTS : Nat := 10

def LOGIN_LOCKOUT_MS : Nat := 1000 * 60 * 15

def SESSION_TTL_MS : Nat := 1000 * 60 * 60 * 12

def SESSION_INACTIVITY_TTL_MS : Nat := 1000 * 60 * 60 * 2

def SESSION_ACTIVITY_WRITE_INTERVAL_MS : Nat := 1000 * 60

/-- The derived key of a password stands as what it is derived from. -/
structure PasswordHash where
  password : String
  salt : String
  deriving DecidableEq

/-- What `updateUser` may set besides the role, the enabled flag and the password. -/
structure Profile where
  displayName : String := ""
  tenantId : String := "default"
  orgId : String := ""
  teamIds : List String := []
  departmentIds : List String := []
  allowedWorkspaceIds : List String := []
  allowedDataClasses : List String := []
  allowedEgress : List String := []
  attributes : String := "\x7b\x7d"
  deriving DecidableEq

structure UserRow where
  userId : String
  roleId : String := "viewer"
  enabled : Bool := true
  passwordHash : PasswordHash
  salt : String
  profile : Profile := {}
  createdAt : Nat := 0
  updatedAt : Nat := 0
  lastLoginAt : Nat := 0
  failedAttempts : Nat := 0
  lockedUntil : Nat := 0
  deriving DecidableEq

/-- A session row; the hash of a token stands as the token. -/
structure SessionRow where
  sessionId : Nat
  userId : String
  tokenHash : Nat
  createdAt : Nat
  lastSeenAt : Nat
  expiresAt : Nat
  deriving DecidableEq

structure Store where
  userIds : String → Option String
  users : String → Option UserRow
  sessions : List SessionRow := []
  /-- How many tokens and session ids have been drawn. -/
  drawn : Nat := 0

def Store.setUser (store : Store) (userId : String) (row : UserRow) : Store :=
  { store with users := Function.update store.users userId (some row) }

@[simp] theorem Store.setUser_self (store : Store) (userId : String) (row : UserRow) :
    (store.setUser userId row).users userId = some row :=
  Function.update_self ..

theorem Store.setUser_other (store : Store) (row : UserRow)
    (differs : other ≠ userId) : (store.setUser userId row).users other = store.users other :=
  Function.update_of_ne differs ..

def verifyPassword (password salt : String) (passwordHash : PasswordHash) : Bool :=
  .mk password salt = passwordHash

/-- The guard that the settling statements share: the row read before the derivation is still in
force, on an account that is enabled and not locked. -/
def inForce (row checked : UserRow) (now : Nat) : Bool :=
  row.enabled ∧ row.passwordHash = checked.passwordHash ∧ row.salt = checked.salt ∧
    row.lockedUntil ≤ now

def recordFailedLogin (row : UserRow) (failedAt lockedUntil : Nat) : UserRow :=
  { row with
    failedAttempts :=
      if LOGIN_MAX_ATTEMPTS ≤ row.failedAttempts + 1 then 0 else row.failedAttempts + 1
    lockedUntil := if LOGIN_MAX_ATTEMPTS ≤ row.failedAttempts + 1 then lockedUntil else 0
    updatedAt := failedAt }

def completeSuccessfulLogin (row : UserRow) (createdAt : Nat) : UserRow :=
  { row with
    lastLoginAt := createdAt
    updatedAt := createdAt
    failedAttempts := 0
    lockedUntil := 0 }

/-- The row that a login reads; nothing when it answers at once that the name or the password is
wrong, or that the account is locked. -/
def readLogin (store : Store) (username : String) (now : Nat) : Option UserRow :=
  match (store.userIds username).bind store.users with
  | none => none
  | some row => if row.enabled = false ∨ now < row.lockedUntil then none else some row

def settles (store : Store) (checked : UserRow) (now : Nat) : Option UserRow :=
  match store.users checked.userId with
  | none => none
  | some row => if inForce row checked now then some row else none

def failLogin (store : Store) (checked : UserRow) (failedAt lockedUntil : Nat) : Store :=
  match settles store checked failedAt with
  | none => store
  | some row => store.setUser checked.userId (recordFailedLogin row failedAt lockedUntil)

def commitSuccessfulLogin (store : Store) (checked : UserRow) (createdAt expiresAt : Nat) :
    Store × Option SessionRow :=
  match settles store checked createdAt with
  | none => (store, none)
  | some row =>
    let session : SessionRow := {
      sessionId := store.drawn
      userId := checked.userId
      tokenHash := store.drawn
      createdAt := createdAt
      lastSeenAt := createdAt
      expiresAt := expiresAt }
    ({ store.setUser checked.userId (completeSuccessfulLogin row createdAt) with
        sessions := store.sessions ++ [session]
        drawn := store.drawn + 1 }, some session)

def getSessionByTokenHash (store : Store) (token : Nat) : Option (SessionRow × UserRow) :=
  match store.sessions.find? (·.tokenHash = token) with
  | none => none
  | some session => (store.users session.userId).map fun user => (session, user)

def sessionFromToken (store : Store) (token : Nat) (now : Nat) : Store × Option SessionRow :=
  match getSessionByTokenHash store token with
  | none => (store, none)
  | some (session, user) =>
    if user.enabled = false then (store, none)
    else if session.expiresAt ≤ now ∨
        (user.roleId ≠ "owner" ∧ SESSION_INACTIVITY_TTL_MS < now - session.lastSeenAt) then
      ({ store with sessions := store.sessions.filter (· ≠ session) }, none)
    else if SESSION_ACTIVITY_WRITE_INTERVAL_MS ≤ now - session.lastSeenAt then
      ({ store with
          sessions := store.sessions.map fun row =>
            if row = session then { row with lastSeenAt := now } else row }, some session)
    else (store, some session)

def logout (store : Store) (token : Nat) : Store :=
  { store with sessions := store.sessions.filter (·.tokenHash ≠ token) }

def rotateSession (store : Store) (token : Nat) (now rotatedAt expiresAt : Nat) : Store :=
  match sessionFromToken store token now with
  | (checked, none) => checked
  | (checked, some session) =>
    { checked with
      sessions := checked.sessions.map fun row =>
        if row.sessionId = session.sessionId then
          { row with tokenHash := store.drawn, lastSeenAt := rotatedAt, expiresAt := expiresAt }
        else row
      drawn := store.drawn + 1 }

structure UserPatch where
  roleId : Option String := none
  enabled : Option Bool := none
  profile : Profile → Profile := id

def normalizePassword (password : String) : Option String :=
  if password.length < 10 ∨ 256 < password.length then none else some password

def patchUser (current : UserRow) (patch : UserPatch) (credential : Option PasswordHash)
    (now : Nat) : UserRow :=
  { current with
    profile := patch.profile current.profile
    roleId := patch.roleId.getD current.roleId
    enabled := patch.enabled.getD current.enabled
    passwordHash := credential.getD current.passwordHash
    salt := (credential.map (·.salt)).getD current.salt
    updatedAt := now }

/-- The transaction of `updateUser`; with a new credential it removes the user's sessions. -/
def commitUpdate (store : Store) (userId : String) (patch : UserPatch)
    (credential : Option PasswordHash) (now : Nat) : Store :=
  match store.users userId with
  | none => store
  | some current =>
    let updated := store.setUser userId (patchUser current patch credential now)
    if credential.isSome then
      { updated with sessions := store.sessions.filter (·.userId ≠ userId) }
    else updated

end LicoMesh.ConsoleAuth
