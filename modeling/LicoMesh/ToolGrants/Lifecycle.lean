import LicoMesh.ToolGrants.Retirement

namespace LicoMesh.ToolGrants

/-! The lifecycle commands of the grants, one at a time: what a command owes while it runs, and what
holds of the tables between its steps. -/

def Command.isLifecycle : Command → Bool
  | .createGrant _ | .updateGrant _ _ | .rotateGrantToken _ | .revokeGrant _ | .deleteGrant _ =>
    true
  | .revokeGrantsByPluginOwner _ | .authorizeRequest _ => false

def Command.isAuthorization : Command → Bool
  | .authorizeRequest _ => true
  | _ => false

def Command.issues : Command → Option GrantId
  | .createGrant input => some input.id
  | .rotateGrantToken id => some id
  | _ => none

def Command.revokes : Command → Option GrantId
  | .revokeGrant id | .deleteGrant id => some id
  | _ => none

def Sequel.issues : Sequel → Option GrantId
  | .rotate issue => some issue.id
  | _ => none

def Sequel.revokes : Sequel → Option GrantId
  | .revoke id _ => some id
  | _ => none

def Point.isEnded : Point → Bool
  | .ended _ => true
  | _ => false

def Call.isResting (call : Call) : Bool := !call.command.isLifecycle || call.point.isEnded

/-- The call cannot be left here: it has revoked grants whose credentials are still valid, or there
is no valid token of its grant that has been returned. -/
def Point.owes : Point → Bool
  | .cascading (.revoke _ _) => true
  | .invalidatingKey _ rest (.rotate _) => rest ≠ []
  | .invalidatingKey _ _ _ => true
  | .invalidatingBinding _ _ _ => true
  | .notifying rest (.update _) => rest ≠ []
  | .notifying rest (.rotate issue) => rest ≠ [issue.id]
  | .notifying _ (.revoke _ _) => true
  | .issuing issue => issue.rotation
  | .binding _ _ | .persisting _ _ | .rollingBack _ => true
  | .announcing _ (.granted _ _) => true
  | _ => false

/-- A step that breaks off, by a failure or by an error of its own, leaves nothing owed. -/
def Call.isSpared (store : Store) (call : Call) (reply : Reply) : Bool :=
  match perform store call.command call.point, reply with
  | some _, .ok => true
  | some (_, next), .failed true => !next.owes
  | _, _ => !call.point.owes

def notLater : Option Nat → Option Nat → Prop
  | _, none => True
  | none, some _ => False
  | some time, some limit => time ≤ limit

structure Narrows (existing updated : Grant) : Prop where
  capabilities : ∀ capability ∈ updated.capabilities,
    holdsCapability existing.capabilities capability = true
  context : existing.context.admits updated.context = true
  expiresAt : notLater updated.expiresAt existing.expiresAt

def UnderLive (store : Store) (grant : Grant) : Prop :=
  grant.delegated = true → ∀ parent ∈ store.grant grant.parentGrantId, parent.terminal = false

/-- A grant is created enabled, and an update neither disables it nor widens it. -/
def Modest (store : Store) : Command → Prop
  | .createGrant input =>
    (input.grant store.clock).terminal = false ∧ UnderLive store (input.grant store.clock)
  | .updateGrant id patch => ∀ existing ∈ store.grant id, existing.terminal = false →
      (patch.apply existing store.clock).terminal = false ∧
        UnderLive store (patch.apply existing store.clock) ∧
        Narrows existing (patch.apply existing store.clock)
  | _ => True

def Outlasts (time limit : Option Nat) : Prop :=
  ∀ now, isExpired limit now = false → isExpired time now = false

structure KeyFor (store : Store) (id : GrantId) (grant : Grant) (token : Token) : Prop where
  isValid : ∃ capabilityKey ∈ store.keys id, capabilityKey.token = token ∧
    capabilityKey.valid = true ∧ Outlasts capabilityKey.expiresAt grant.expiresAt ∧
    ∀ capability, holdsCapability grant.capabilities capability = true →
      holdsCapability capabilityKey.capabilities capability = true
  isOnly : ∀ capabilityKey ∈ store.keys id, capabilityKey.valid = true → capabilityKey.token = token

structure BindingFor (store : Store) (id : GrantId) (grant : Grant) (token : Token) : Prop where
  isValid : ∃ binding ∈ store.bindings id, binding.token = token ∧
    binding.valid = true ∧ Outlasts binding.expiresAt grant.expiresAt ∧
    ∀ request, grant.context.admits request = true → binding.context.admits request = true
  isOnly : ∀ binding ∈ store.bindings id, binding.valid = true → binding.token = token

def Store.Revoked (store : Store) (id : GrantId) : Prop :=
  ∃ grant, store.grant id = some grant ∧ grant.revokedAt.isSome = true ∧ grant.enabled = false

/-- The grant is live with the credential of the token that was returned last, or it is revoked, or
has never been, and is without any. -/
inductive Settled (store : Store) (id : GrantId) : Prop
  | live (grant : Grant) (token : Token) (present : store.grant id = some grant)
      (isLive : grant.terminal = false) (returned : store.returned id = some token)
      (key : KeyFor store id grant token) (binding : BindingFor store id grant token)
  | lapsed (row : ∀ grant, store.grant id = some grant →
        grant.revokedAt.isSome = true ∧ grant.enabled = false)
      (keys : store.KeysInvalid id) (bindings : store.BindingsInvalid id)

structure Closed (store : Store) (opened : List GrantId) : Prop where
  linked : ∀ id grant, store.grant id = some grant → grant.delegated = true →
    grant.parentGrantId ≠ ""
  below : ∀ id grant, store.grant id = some grant → grant.delegated = true →
    ∀ parent, store.grant grant.parentGrantId = some parent → parent.terminal = true →
      grant.parentGrantId ∉ opened → grant.terminal = true

structure Idle (store : Store) : Prop where
  settled : ∀ id, Settled store id
  closed : Closed store []

/-- The row of the grant stands as it will be written again. -/
structure Rotates (store : Store) (issue : Issue) (row : Grant) : Prop where
  present : store.grant issue.id = some row
  isLive : row.terminal = false
  delegated : row.delegated = issue.grant.delegated
  parentGrantId : row.parentGrantId = issue.grant.parentGrantId

structure Creates (store : Store) (issue : Issue) : Prop where
  absent : store.grant issue.id = none
  isLive : issue.grant.terminal = false
  linked : issue.grant.delegated = true → issue.grant.parentGrantId ≠ ""
  underLive : UnderLive store issue.grant

def Sequel.Own (store : Store) : Sequel → Prop
  | .update id => ∃ row, store.grant id = some row
  | .rotate issue => issue.rotation = true ∧ ∃ row, Rotates store issue row
  | .revoke id _ => store.Revoked id

/-- A rotation has not touched the old credential. -/
def Sequel.Fresh (store : Store) : Sequel → Prop
  | .rotate issue => Settled store issue.id
  | _ => True

structure Cleaning (store : Store) (opened left : List GrantId) (sequel : Sequel) : Prop where
  closed : Closed store opened
  settled : ∀ other, other ∉ left → other ∉ sequel.own → Settled store other
  revoked : ∀ other ∈ left, store.Revoked other
  apart : ∀ other ∈ left, other ∉ sequel.own
  own : sequel.Own store

structure Issuing (store : Store) (issue : Issue) : Prop where
  closed : Closed store []
  others : ∀ other, other ≠ issue.id → Settled store other
  row : (issue.rotation = true ∧ ∃ row, Rotates store issue row) ∨
    (issue.rotation = false ∧ Creates store issue)

structure Issued (store : Store) (id : GrantId) (token : Token) : Prop where
  closed : Closed store []
  others : ∀ other, other ≠ id → Settled store other
  row : ∃ grant, store.grant id = some grant ∧ grant.terminal = false ∧
    KeyFor store id grant token ∧ BindingFor store id grant token

def Point.IsOf (command : Command) : Point → Prop
  | .cascading sequel | .invalidatingKey _ _ sequel | .invalidatingBinding _ _ sequel
  | .notifying _ sequel =>
    command.issues = sequel.issues ∧ command.revokes = sequel.revokes
  | .issuing issue | .binding issue _ | .persisting issue _ =>
    command.issues = some issue.id ∧ command.revokes = none
  | .announcing _ (.granted id _) => command.issues = some id ∧ command.revokes = none
  | _ => True

def At (store : Store) : Point → Prop
  | .starting => Idle store
  | .cascading sequel =>
    Cleaning store sequel.revokes.toList [] sequel ∧ sequel.Fresh store
  | .invalidatingKey id rest sequel =>
    ∃ left, id :: rest = left ++ sequel.own ∧ Cleaning store [] left sequel ∧ sequel.Fresh store
  | .invalidatingBinding id rest sequel =>
    store.KeysInvalid id ∧
      ((∃ left, rest = left ++ sequel.own ∧ Cleaning store [] (id :: left) sequel ∧
          sequel.Fresh store) ∨
        (rest = [] ∧ sequel.own = [id] ∧ Cleaning store [] [] sequel))
  | .notifying rest sequel =>
    ∃ left, rest = left ++ sequel.own ∧ Cleaning store [] left sequel ∧ sequel.Fresh store
  | .issuing issue =>
    Issuing store issue ∧ store.KeysInvalid issue.id ∧ store.BindingsInvalid issue.id
  | .binding issue token =>
    Issuing store issue ∧ KeyFor store issue.id issue.grant token ∧
      store.BindingsInvalid issue.id
  | .persisting issue token =>
    Issuing store issue ∧ KeyFor store issue.id issue.grant token ∧
      BindingFor store issue.id issue.grant token
  | .announcing _ (.granted id token) => Issued store id token
  | .announcing _ _ | .ended _ => Idle store
  | .rollingBack _ | .retiringKeys _ _ _ | .retiringBinding _ _ _ _ | .staging _
  | .verifying _ _ _ _ | .deciding _ _ _ _ => False

end LicoMesh.ToolGrants
