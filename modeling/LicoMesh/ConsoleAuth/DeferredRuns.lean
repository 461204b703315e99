import LicoMesh.ConsoleAuth.DeferredAuthority
import LicoMesh.ConsoleAuth.Rules

namespace LicoMesh.ConsoleAuth

open Library

/-! Console commands and deferred authorities on one database. A capture is suspended while the
engine evaluates its operation. -/

/-- A capture whose operation is being evaluated, with the session and the policy revision that
it read before. -/
structure Capture where
  token : Nat
  authSession : Option DurableAuthoritySource
  operation : Operation
  input : ConsoleInput
  request : Headers
  csrf : Bool
  session : Option DurableAuthoritySource
  policyBefore : PolicyRevision

structure Issued where
  row : DeferredAuthorityRow
  source : DurableAuthoritySource
  operation : Operation
  input : ConsoleInput
  request : Headers
  decision : Decision
  policy : PolicyRevision
  binding : Authority
  deriving DecidableEq

structure DeferredWorld where
  console : World
  roles : Roles
  policy : PolicyRevision
  authorities : List DeferredAuthorityRow := []
  captures : List (Option Capture) := []
  drawn : Nat := 0
  issued : List Issued := []
  revoked : List Nat := []

inductive DeferredCommand
  | console (command : Command)
  | revokeSession (sessionId : Nat)
  | govern (roles : Roles) (policy : PolicyRevision)
  | capture (token : Nat) (authSession : Option DurableAuthoritySource) (operation : Operation)
      (input : ConsoleInput) (request : Headers) (sameOrigin csrf : Bool)
  | finishCapture (index : Nat) (decision : Decision)
  | revoke (authorityRef : Nat) (reason : String)

/-- A command with how far the clock moves before it and between its readings. -/
structure DeferredStep where
  command : DeferredCommand
  wait : Nat := 0
  pause : Nat := 0

def cascade (store : Store) (authorities : List DeferredAuthorityRow) : List DeferredAuthorityRow :=
  authorities.filter fun row => store.sessions.any (·.sessionId = row.sessionId)

def DeferredWorld.withConsole (w : DeferredWorld) (console : World) : DeferredWorld :=
  { w with console := console, authorities := cascade console.store w.authorities }

def readSession (store : Store) (roles : Roles) (token now : Nat) :
    Store × Option (Option DurableAuthoritySource) :=
  match sessionFromToken store token now with
  | (checked, none) => (checked, none)
  | (checked, some row) =>
    (checked, (store.users row.userId).map fun user =>
      durableSessionAuthoritySource row user (resolveRole roles user.roleId))

def DeferredWorld.issue (w : DeferredWorld) (capture : Capture) (source : DurableAuthoritySource)
    (decision : Decision) (approval : ApprovalFacts) (binding : Authority) (now : Nat) :
    DeferredWorld :=
  let row : DeferredAuthorityRow := {
    authorityRef := w.drawn
    sessionId := source.session.sessionId
    operationId := capture.operation.id
    requestDigest := deferredRequestDigest capture.operation.id capture.input
    approvalIntentDigest := durableApprovalIntentFacts approval
    issuedAt := now
    expiresAt := min source.session.expiresAt (now + SESSION_TTL_MS) }
  { w with
    authorities :=
      w.authorities.filter (fun row => now < row.expiresAt ∧ row.revokedAt = none) ++ [row]
    drawn := w.drawn + 1
    issued := {
      row := row
      source := source
      operation := capture.operation
      input := capture.input
      request := capture.request
      decision := decision
      policy := w.policy
      binding := binding } :: w.issued }

def DeferredWorld.finish (w : DeferredWorld) (capture : Capture) (decision : Decision)
    (now later : Nat) : DeferredWorld :=
  if w.policy ≠ capture.policyBefore ∨ decision.allowed = false ∨ capture.csrf = false then w
  else
    match readSession w.console.store w.roles capture.token now with
    | (store, some (some source)) =>
      let w := w.withConsole { w.console with store := store }
      if capture.session ≠ some source ∨ capture.authSession ≠ some source then w
      else
        match operationApprovalAuthorityFacts capture.operation capture.input
            (some capture.request),
          protectedSinkAuthorityFromSource source capture.operation capture.input
            (some capture.request) decision w.policy with
        | some approval, some binding => w.issue capture source decision approval binding later
        | _, _ => w
    | (store, _) => w.withConsole { w.console with store := store }

def DeferredWorld.apply (w : DeferredWorld) (step : DeferredStep) : DeferredWorld :=
  let now := w.console.clock + step.wait
  let later := now + step.pause
  match step.command with
  | .console command => w.withConsole (w.console.apply ⟨command, step.wait, step.pause⟩)
  | .revokeSession sessionId =>
    w.withConsole { w.console with
      clock := later
      store := { w.console.store with
        sessions := w.console.store.sessions.filter (·.sessionId ≠ sessionId) } }
  | .govern roles policy =>
    { w with roles := roles, policy := policy, console := { w.console with clock := later } }
  | .capture token authSession operation input request sameOrigin csrf =>
    if operation.id ≠ "jobs.upload_workspace_materialize" ∨ sameOrigin = false then
      { w with console := { w.console with clock := later } }
    else
      match readSession w.console.store w.roles token now with
      | (store, none) => w.withConsole { w.console with clock := later, store := store }
      | (store, some session) =>
        let w := w.withConsole { w.console with clock := later, store := store }
        { w with
          captures := w.captures ++ [some {
            token := token
            authSession := authSession
            operation := operation
            input := input
            request := request
            csrf := csrf
            session := session
            policyBefore := w.policy }] }
  | .finishCapture index decision =>
    let w := { w with console := { w.console with clock := later } }
    match w.captures[index]? with
    | some (some capture) =>
      { w with captures := w.captures.set index none }.finish capture decision now later
    | _ => w
  | .revoke authorityRef reason =>
    { w with
      console := { w.console with clock := later }
      authorities :=
        revokeDeferredProtectedSinkAuthority w.authorities authorityRef later reason
      revoked := if w.authorities.any (·.authorityRef = authorityRef) then
        authorityRef :: w.revoked else w.revoked }

def DeferredWorld.initial (userIds : String → Option String) (users : String → Option UserRow)
    (roles : Roles) (policy : PolicyRevision) : DeferredWorld where
  console := .initial userIds users
  roles := roles
  policy := policy

def DeferredWorld.run (userIds : String → Option String) (users : String → Option UserRow)
    (roles : Roles) (policy : PolicyRevision) (steps : List DeferredStep) : DeferredWorld :=
  runAll .apply (.initial userIds users roles policy) steps

/-- The answer to the presentation of a captured authority with its own digests. -/
def DeferredWorld.revalidate (w : DeferredWorld) (issued : Issued) (now : Nat)
    (decision : Decision) : Revalidation :=
  revalidateDeferredProtectedSinkAuthority w.console.store w.roles w.policy w.authorities now
    issued.row.authorityRef issued.operation issued.input issued.row.requestDigest issued.binding
    decision

def Revalidation.isAllowed : Revalidation → Bool
  | .allowed _ => true
  | _ => false

structure SameUser (user : UserRow) (role : Role) (facts : UserFacts) : Prop where
  enabled : user.enabled = true
  roleId : user.roleId = facts.roleId
  sameRole : role.roleId = facts.roleId ∧ role.enabled = true
  roleScopes : stableStrings role.scopes = facts.roleScopes
  tenantId : user.profile.tenantId = facts.tenantId
  orgId : user.profile.orgId = facts.orgId
  teamIds : stableStrings user.profile.teamIds = facts.teamIds
  departmentIds : stableStrings user.profile.departmentIds = facts.departmentIds
  attributes : user.profile.attributes = facts.attributes
  workspaces : stableStrings user.profile.allowedWorkspaceIds = facts.allowedWorkspaceIds
  dataClasses : stableStrings user.profile.allowedDataClasses = facts.allowedDataClasses
  egress : stableStrings user.profile.allowedEgress = facts.allowedEgress

structure Lives (w : DeferredWorld) (issued : Issued) (now : Nat) (decision : Decision) : Prop where
  unrevoked : issued.row.authorityRef ∉ w.revoked
  unexpired : now < issued.row.expiresAt
  session : ∃ session ∈ w.console.store.sessions,
    session.sessionId = issued.source.session.sessionId ∧
      session.tokenHash = issued.source.session.tokenHash
  user : ∃ user, w.console.store.users issued.source.user.userId = some user ∧
    SameUser user (resolveRole w.roles user.roleId) issued.source.user
  policy : w.policy = issued.policy
  authorized : decision.allowed = true

def confirmedWithoutRequest (operation : Operation) (input : ConsoleInput) : Prop :=
  operation.requiresConfirmation = false ∨ input.confirm = true ∨
    input.nestedSafetyConfirm = true ∨ input.safetyConfirm = true

/-- The row of the user carries the time it carried at the capture, the confirmation stands
without the request, and the engine gives the same grounds without it. -/
structure Undisturbed (w : DeferredWorld) (issued : Issued) (decision : Decision) : Prop where
  user : ∃ user, w.console.store.users issued.source.user.userId = some user ∧
    user.updatedAt = issued.source.user.updatedAt
  confirmed : confirmedWithoutRequest issued.operation issued.input
  grounds : decision = issued.decision

end LicoMesh.ConsoleAuth
