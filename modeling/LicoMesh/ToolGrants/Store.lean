import LicoMesh.Library.OrderedKeys
import Mathlib.Data.String.Basic

namespace LicoMesh.ToolGrants

open Library

/-! The grant tables, with the capability key kernel and the binding guard as the grant store sees
them. An empty text of the tables that stands for nothing is `none`. -/

abbrev GrantId := String

abbrev Token := Nat

structure Context where
  agentId : String := ""
  userId : String := ""
  clientId : String := ""
  deriving DecidableEq

/-- A field that is bound has to be presented; see `bindingContextMismatch`. -/
def Context.admits (bound request : Context) : Bool :=
  (bound.userId = "" ∨ bound.userId = request.userId) ∧
    (bound.agentId = "" ∨ bound.agentId = request.agentId) ∧
    (bound.clientId = "" ∨ bound.clientId = request.clientId)

def isExpired (expiresAt : Option Nat) (now : Nat) : Bool :=
  match expiresAt with
  | none => false
  | some time => time ≤ now

structure CapabilityKey where
  token : Token
  capabilities : List String
  expiresAt : Option Nat
  valid : Bool := true

structure Binding where
  token : Token
  context : Context
  expiresAt : Option Nat
  valid : Bool := true

def invalidateKeys (keys : List CapabilityKey) : List CapabilityKey :=
  keys.map fun key => { key with valid := false }

def invalidateBindings (bindings : List Binding) : List Binding :=
  bindings.map fun binding => { binding with valid := false }

/-- `requiredCapability` is a `cap:tool:…` capability. -/
def holdsCapability (capabilities : List String) (requiredCapability : String) : Bool :=
  requiredCapability ∈ capabilities ∨ "cap:*" ∈ capabilities ∨ "cap:tool:*" ∈ capabilities

/-- `verify` on the keys of the credential. -/
def verifyKey (keys : List CapabilityKey) (token : Token) (requiredCapability : String)
    (now : Nat) : Bool :=
  keys.any fun key => key.token = token ∧ key.valid ∧ isExpired key.expiresAt now = false ∧
    holdsCapability key.capabilities requiredCapability

def verifyBinding (bindings : List Binding) (token : Token) (request : Context) (now : Nat) :
    Bool :=
  let records := bindings.filter (·.token = token)
  records = [] ∨ records.any fun binding =>
    binding.valid ∧ isExpired binding.expiresAt now = false ∧ binding.context.admits request

inductive Owner
  | core (id : String)
  | plugin (id generation : String)
  deriving DecidableEq

inductive AuthorityState
  | active
  | retiring
  | retired
  deriving DecidableEq

structure Authority where
  owner : Owner
  state : AuthorityState

structure Grant where
  /-- The type is `delegated-mcp-child`. -/
  delegated : Bool := false
  parentGrantId : GrantId := ""
  enabled : Bool := true
  revokedAt : Option Nat := none
  expiresAt : Option Nat := none
  maxUses : Nat := 0
  useCount : Nat := 0
  tokenHash : Token := 0
  updatedAt : Nat := 0
  context : Context := {}
  /-- What `resolveGrantCapabilities` gives for the grant. -/
  capabilities : List String := []
  deriving DecidableEq

def Grant.terminal (grant : Grant) : Bool := grant.revokedAt.isSome || !grant.enabled

def Grant.revoke (grant : Grant) (now : Nat) : Grant :=
  { grant with enabled := false, revokedAt := some (grant.revokedAt.getD now), updatedAt := now }

structure Target where
  grantId : GrantId
  capabilityInvalidated : Bool := false
  bindingInvalidated : Bool := false
  newlyRevoked : Bool
  accounted : Bool := false
  deriving DecidableEq

/-- Of a job that is complete the cursor token is empty; a cursor token is the digest of the last
grant that is accounted for. -/
structure Job where
  pluginId : String
  ownerGeneration : String
  complete : Bool := false
  ownerCursorGrantId : Option GrantId := none
  cursorToken : Option GrantId := none
  processedCount : Nat := 0
  revokedCount : Nat := 0
  alreadyRevokedCount : Nat := 0

structure Accepted where
  grantId : GrantId
  owners : List Owner
  recordUse : Bool

structure Created where
  grantId : GrantId
  owners : List Owner

structure Store where
  grantIds : List GrantId := []
  grant : GrantId → Option Grant := fun _ => none
  owners : GrantId → List Owner := fun _ => []
  authorities : List Authority := [⟨.core "core-platform", .active⟩]
  job : String → Option Job := fun _ => none
  targets : String → List Target := fun _ => []
  keys : GrantId → List CapabilityKey := fun _ => []
  bindings : GrantId → List Binding := fun _ => []
  clock : Nat := 0
  drawn : Nat := 0
  /-- The token that `createGrant` or `rotateGrantToken` has returned last. -/
  returned : GrantId → Option Token := fun _ => none
  accepted : List Accepted := []
  created : List Created := []

def setAt {α β : Type} [DecidableEq α] (f : α → β) (key : α) (value : β) : α → β :=
  fun other => if other = key then value else f other

@[simp] theorem setAt_self [DecidableEq α] (f : α → β) (key : α) (value : β) :
    setAt f key value key = value := if_pos rfl

theorem setAt_of_ne {α β : Type} [DecidableEq α] {f : α → β} {key other : α} {value : β}
    (apart : other ≠ key) : setAt f key value other = f other := if_neg apart

namespace Store

@[simps] def upsertGrant (store : Store) (id : GrantId) (grant : Grant) : Store :=
  { store with
    grantIds := insertKey id store.grantIds
    grant := setAt store.grant id (some grant) }

def authorityState (store : Store) (owner : Owner) : Option AuthorityState :=
  (store.authorities.find? (·.owner = owner)).map (·.state)

/-- Every owner is active; see `assertGrantOwnersActive`. -/
def ownersActive (store : Store) (owners : List Owner) : Bool :=
  owners.all fun owner => store.authorityState owner = some .active

/-- See `grantOwnersAreActive`. -/
def grantOwnersAreActive (store : Store) (id : GrantId) : Bool :=
  store.owners id ≠ [] ∧ store.ownersActive (store.owners id)

@[simps] def setAuthority (store : Store) (owner : Owner) (state : AuthorityState) : Store :=
  { store with
    authorities := store.authorities.map fun authority =>
      if authority.owner = owner then { authority with state := state } else authority }

def generationIn (store : Store) (pluginId : String) (state : AuthorityState) : Option String :=
  store.authorities.findSome? fun authority =>
    match authority.owner with
    | .core _ => none
    | .plugin id generation =>
      if id = pluginId ∧ authority.state = state then some generation else none

/-- `none` where it throws. -/
def registerPluginGrantOwner (store : Store) (pluginId generation : String) : Option Store :=
  let owner := .plugin pluginId generation
  match store.authorityState owner with
  | some .active => some store
  | some .retiring | some .retired => none
  | none =>
    if (store.generationIn pluginId .active).isSome ∨
        (store.generationIn pluginId .retiring).isSome then none
    else some { store with authorities := store.authorities ++ [⟨owner, .active⟩] }

def childrenOf (store : Store) (parentGrantId : GrantId) : List GrantId :=
  store.grantIds.filter fun id =>
    match store.grant id with
    | none => false
    | some grant => grant.delegated ∧ grant.parentGrantId = parentGrantId

def descendantsFrom (store : Store) : Nat → List GrantId → List GrantId
  | 0, _ => []
  | depth + 1, parents =>
    let children := parents.flatMap store.childrenOf
    children ++ store.descendantsFrom depth children

def delegatedDescendants (store : Store) (parentGrantId : GrantId) : List GrantId :=
  if parentGrantId = "" then [] else store.descendantsFrom store.grantIds.length [parentGrantId]

def revokeGrants (store : Store) (ids : List GrantId) : Store :=
  ids.foldl (fun store id =>
    match store.grant id with
    | none => store
    | some grant => store.upsertGrant id (grant.revoke store.clock)) store

/-- The transaction of `revokeDelegatedDescendants`; `none` where it throws on a cycle. -/
def revokeDescendantRows (store : Store) (parentGrantId : GrantId) :
    Option (Store × List GrantId) :=
  let descendants := store.delegatedDescendants parentGrantId
  if parentGrantId ∈ descendants then none
  else some (store.revokeGrants descendants, descendants)

@[simps] def invalidateCredential (store : Store) (id : GrantId) : Store :=
  { store with keys := setAt store.keys id (invalidateKeys (store.keys id)) }

/-- `invalidateCapabilityKeyBinding`. -/
@[simps] def invalidateBinding (store : Store) (id : GrantId) : Store :=
  { store with bindings := setAt store.bindings id (invalidateBindings (store.bindings id)) }

/-- `issue` with `replaceCredential`: the key has the token that is drawn. -/
@[simps] def issueKey (store : Store) (id : GrantId) (grant : Grant) : Store :=
  { store with
    keys := setAt store.keys id (invalidateKeys (store.keys id) ++
      [{ token := store.drawn, capabilities := grant.capabilities, expiresAt := grant.expiresAt }])
    drawn := store.drawn + 1 }

/-- `bindCapabilityKey` with `replaceCredential`. -/
@[simps] def bindKey (store : Store) (id : GrantId) (token : Token) (grant : Grant) : Store :=
  { store with
    bindings := setAt store.bindings id (invalidateBindings (store.bindings id) ++
      [{ token := token, context := grant.context, expiresAt := grant.expiresAt }]) }

/-- The capability check of `authorizeOpaqueToolCapability`, without the dynamic capability. -/
def capabilityCheck (store : Store) (token : Token) (id : GrantId) (grant : Grant)
    (parent : Option Grant) (requiredCapability : String) (request : Context) : Bool :=
  verifyKey (store.keys id) token requiredCapability store.clock ∧
    (parent.all fun parent => holdsCapability parent.capabilities requiredCapability) ∧
    grant.context.admits request ∧ verifyBinding (store.bindings id) token request store.clock

end Store

end LicoMesh.ToolGrants
