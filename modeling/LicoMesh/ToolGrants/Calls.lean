import LicoMesh.ToolGrants.Store
import LicoMesh.Library.Path

namespace LicoMesh.ToolGrants

open Library

/-! The commands of the grant store. A call is suspended wherever it awaits the key provider, the
binding guard or a listener, and it may fail there, as it may at each of its transactions. -/

inductive ToolOwner
  | core (id : String)
  | plugin (id : String)
  deriving DecidableEq

/-- A normalized grant request; `tools` are the owners of the tools that it selects. -/
structure GrantInput where
  id : GrantId
  delegated : Bool := false
  parentGrantId : GrantId := ""
  enabled : Bool := true
  revokedAt : Option Nat := none
  expiresAt : Option Nat := none
  maxUses : Nat := 0
  useCount : Nat := 0
  context : Context := {}
  capabilities : List String
  tools : List ToolOwner := []
  deriving DecidableEq

structure GrantPatch where
  delegated : Option Bool := none
  parentGrantId : Option GrantId := none
  enabled : Option Bool := none
  expiresAt : Option (Option Nat) := none
  maxUses : Option Nat := none
  context : Option Context := none
  capabilities : Option (List String) := none
  tools : List ToolOwner := []
  deriving DecidableEq

structure RetireRequest where
  pluginId : String
  generation : String
  idempotencyKey : String
  cursor : Option GrantId := none
  batchSize : Int := 64
  deriving DecidableEq

structure AuthorizationRequest where
  token : Token
  /-- The execute capability of the tool, when the request names one. -/
  requiredCapability : Option String := none
  context : Context := {}
  recordUse : Bool := true
  deriving DecidableEq

inductive Command
  | createGrant (input : GrantInput)
  | updateGrant (id : GrantId) (patch : GrantPatch)
  | rotateGrantToken (id : GrantId)
  | revokeGrant (id : GrantId)
  | deleteGrant (id : GrantId)
  | revokeGrantsByPluginOwner (request : RetireRequest)
  | authorizeRequest (request : AuthorizationRequest)
  deriving DecidableEq

structure Receipt where
  complete : Bool
  processedCount : Nat
  revokedCount : Nat
  alreadyRevokedCount : Nat
  cursor : Option GrantId
  deriving DecidableEq

inductive Answer
  | failed
  | missing
  | done
  | granted (id : GrantId) (token : Token)
  | receipt (receipt : Receipt)
  | accepted
  | denied
  deriving DecidableEq

structure Issue where
  id : GrantId
  grant : Grant
  owners : List Owner
  rotation : Bool
  deriving DecidableEq

/-- What follows the cascade over the delegated grants. -/
inductive Sequel
  | update (id : GrantId)
  | rotate (issue : Issue)
  | revoke (id : GrantId) (delete : Bool)
  deriving DecidableEq

def Sequel.grantId : Sequel → GrantId
  | .update id => id
  | .rotate issue => issue.id
  | .revoke id _ => id

def Sequel.own : Sequel → List GrantId
  | .update _ => []
  | .rotate issue => [issue.id]
  | .revoke id _ => [id]

inductive Point
  | starting
  | cascading (sequel : Sequel)
  | invalidatingKey (id : GrantId) (rest : List GrantId) (sequel : Sequel)
  | invalidatingBinding (id : GrantId) (rest : List GrantId) (sequel : Sequel)
  | notifying (rest : List GrantId) (sequel : Sequel)
  | issuing (issue : Issue)
  | binding (issue : Issue) (token : Token)
  | persisting (issue : Issue) (token : Token)
  | rollingBack (id : GrantId)
  | announcing (again : Bool) (answer : Answer)
  | retiringKeys (request : RetireRequest) (second : Bool) (targets : List Target)
  | retiringBinding (request : RetireRequest) (second : Bool) (target : Target)
      (rest : List Target)
  | staging (request : RetireRequest)
  | verifying (request : AuthorizationRequest) (id : GrantId) (grant : Grant)
      (parent : Option (GrantId × Grant))
  | deciding (request : AuthorizationRequest) (id : GrantId) (grant : Grant)
      (parent : Option (GrantId × Grant))
  | ended (answer : Answer)
  deriving DecidableEq

def Sequel.next : Sequel → Point
  | .update _ => .announcing false .done
  | .rotate issue => .issuing issue
  | .revoke _ delete => .announcing delete .done

def invalidateNext (ids : List GrantId) (sequel : Sequel) : Point :=
  match ids with
  | [] => sequel.next
  | id :: rest => .invalidatingKey id rest sequel

namespace Store

def closedOwner (store : Store) : ToolOwner → Option Owner
  | .core id => some (.core id)
  | .plugin id => (store.generationIn id .active).map (.plugin id)

def resolveGrantOwners (store : Store) (delegated : Bool) (parentGrantId : GrantId)
    (tools : List ToolOwner) : Option (List Owner) :=
  if delegated then
    if parentGrantId ≠ "" ∧ (store.grant parentGrantId).isSome ∧
        store.owners parentGrantId ≠ [] then
      some (store.owners parentGrantId)
    else none
  else
    (tools.mapM store.closedOwner).map fun owners =>
      if owners = [] then [.core "core-platform"] else owners.eraseDups

def replaceGrantOwners (store : Store) (id : GrantId) (owners : List Owner) : Option Store :=
  if store.ownersActive owners then some { store with owners := setAt store.owners id owners }
  else none

end Store

def GrantInput.grant (input : GrantInput) (now : Nat) : Grant where
  delegated := input.delegated
  parentGrantId := if input.delegated then input.parentGrantId else ""
  enabled := input.enabled
  revokedAt := input.revokedAt
  expiresAt := input.expiresAt
  maxUses := input.maxUses
  useCount := input.useCount
  updatedAt := now
  context := input.context
  capabilities := input.capabilities

def GrantPatch.apply (patch : GrantPatch) (existing : Grant) (now : Nat) : Grant :=
  let delegated := patch.delegated.getD existing.delegated
  { existing with
    delegated := delegated
    parentGrantId := if delegated then patch.parentGrantId.getD existing.parentGrantId else ""
    enabled := patch.enabled.getD existing.enabled
    expiresAt := patch.expiresAt.getD existing.expiresAt
    maxUses := patch.maxUses.getD existing.maxUses
    updatedAt := now
    context := patch.context.getD existing.context
    capabilities := patch.capabilities.getD existing.capabilities }

/-- How a synchronous stretch ends: `none` where it throws without having changed anything. -/
abbrev Outcome := Option (Store × Point)

def startCreate (store : Store) (input : GrantInput) : Outcome :=
  let grant := input.grant store.clock
  if grant.capabilities = [] then none
  else if (store.grant input.id).isSome then none
  else
    match store.resolveGrantOwners grant.delegated grant.parentGrantId input.tools with
    | none => none
    | some owners => some (store, .issuing ⟨input.id, grant, owners, false⟩)

def startUpdate (store : Store) (id : GrantId) (patch : GrantPatch) : Outcome :=
  match store.grant id with
  | none => some (store, .ended .missing)
  | some existing =>
    if existing.terminal then none
    else
      let updated := patch.apply existing store.clock
      match store.resolveGrantOwners updated.delegated updated.parentGrantId patch.tools with
      | none => none
      | some owners =>
        if store.grantOwnersAreActive id = false then none
        else
          ((store.upsertGrant id updated).replaceGrantOwners id owners).map fun store =>
            (store, .cascading (.update id))

def startRotate (store : Store) (id : GrantId) : Outcome :=
  match store.grant id with
  | none => some (store, .ended .missing)
  | some existing =>
    if existing.terminal then none
    else if store.grantOwnersAreActive id = false then none
    else some (store, .cascading (.rotate ⟨id, existing, store.owners id, true⟩))

def startRevoke (store : Store) (id : GrantId) (delete : Bool) : Outcome :=
  match store.grant id with
  | none => some (store, .ended .missing)
  | some existing =>
    if existing.terminal then
      some (store, if delete then .announcing false .done else .ended .done)
    else some (store.upsertGrant id (existing.revoke store.clock), .cascading (.revoke id delete))

/-- The transaction that ends `createGrant` or `rotateGrantToken`. -/
def persistIssue (store : Store) (issue : Issue) (token : Token) : Option Store :=
  if issue.rotation then
    if store.ownersActive issue.owners then
      some (store.upsertGrant issue.id { issue.grant with
        enabled := true
        revokedAt := none
        tokenHash := token
        updatedAt := store.clock })
    else none
  else
    ((store.upsertGrant issue.id { issue.grant with tokenHash := token }).replaceGrantOwners
      issue.id issue.owners).map fun store =>
        { store with created := ⟨issue.id, issue.owners⟩ :: store.created }

def RetireRequest.owner (request : RetireRequest) : Owner :=
  .plugin request.pluginId request.generation

def Job.owner (job : Job) : Owner := .plugin job.pluginId job.ownerGeneration

/-- `Math.max(1, Math.min(256, batchSize || 64))`. -/
def RetireRequest.limit (request : RetireRequest) : Nat :=
  if request.batchSize = 0 then 64 else (max 1 (min 256 request.batchSize)).toNat

def Job.receipt (job : Job) : Receipt where
  complete := job.complete
  processedCount := job.processedCount
  revokedCount := job.revokedCount
  alreadyRevokedCount := job.alreadyRevokedCount
  cursor := if job.complete then none else job.cursorToken

namespace Store

@[simps] def setJob (store : Store) (key : String) (job : Job) : Store :=
  { store with job := setAt store.job key (some job) }

def openJob (store : Store) (request : RetireRequest) : Option Store :=
  match store.job request.idempotencyKey with
  | some _ => some store
  | none =>
    match store.authorityState request.owner with
    | some .retired =>
      some (store.setJob request.idempotencyKey
        { pluginId := request.pluginId, ownerGeneration := request.generation,
          complete := true })
    | some .active =>
      some ((store.setAuthority request.owner .retiring).setJob request.idempotencyKey
        { pluginId := request.pluginId, ownerGeneration := request.generation })
    | some .retiring | none => none

/-- The targets that `invalidateOwnerRevocationTargets` takes on. -/
def revocationTargets (store : Store) (key : String) (limit : Nat) : List Target :=
  ((store.targets key).filter fun target => !target.accounted).take limit

@[simps] def updateTarget (store : Store) (key : String) (id : GrantId)
    (update : Target → Target) : Store :=
  { store with
    targets := setAt store.targets key ((store.targets key).map fun target =>
      if target.grantId = id then update target else target) }

def invalidateTargetKey (store : Store) (key : String) (target : Target) : Store :=
  if target.capabilityInvalidated then store
  else
    (store.invalidateCredential target.grantId).updateTarget key target.grantId fun target =>
      { target with capabilityInvalidated := true }

def invalidateTargetBinding (store : Store) (key : String) (target : Target) : Store :=
  if target.bindingInvalidated then store
  else
    (store.invalidateBinding target.grantId).updateTarget key target.grantId fun target =>
      { target with bindingInvalidated := true }

/-- `none` where it throws: the job of the targets is missing. -/
def finalizeTargets (store : Store) (key : String) : Option Store :=
  let pending := (store.targets key).filter fun target => !target.accounted
  if pending.any fun target => !target.capabilityInvalidated || !target.bindingInvalidated then
    some store
  else
    match pending.getLast? with
    | none => some store
    | some last =>
      (store.job key).map fun job =>
        let newlyRevoked := pending.countP (·.newlyRevoked)
        { store with
          job := setAt store.job key (some { job with
            ownerCursorGrantId := some last.grantId
            cursorToken := some last.grantId
            processedCount := job.processedCount + pending.length
            revokedCount := job.revokedCount + newlyRevoked
            alreadyRevokedCount := job.alreadyRevokedCount + (pending.length - newlyRevoked) })
          targets := setAt store.targets key ((store.targets key).map fun target =>
            { target with accounted := true }) }

def ownedGrantIds (store : Store) (owner : Owner) : List GrantId :=
  store.grantIds.filter fun id => owner ∈ store.owners id

def ownerRows (store : Store) (owner : Owner) (cursor : Option GrantId) (limit : Nat) :
    List GrantId :=
  ((store.ownedGrantIds owner).filter (isAfter cursor)).take limit

end Store

/-- `INSERT … ON CONFLICT DO NOTHING`, in the order of the grants. -/
def insertTarget (target : Target) : List Target → List Target
  | [] => [target]
  | first :: rest =>
    if target.grantId < first.grantId then target :: first :: rest
    else if target.grantId = first.grantId then first :: rest
    else first :: insertTarget target rest

namespace Store

def stageTarget (store : Store) (key : String) (id : GrantId) : Option Store :=
  (store.grant id).map fun grant =>
    let staged := if grant.terminal then store else store.upsertGrant id (grant.revoke store.clock)
    { staged with
      targets := setAt staged.targets key
        (insertTarget { grantId := id, newlyRevoked := !grant.terminal } (staged.targets key)) }

def stageTargets (store : Store) (key : String) : List GrantId → Option Store
  | [] => some store
  | id :: rest => (store.stageTarget key id).bind fun store => store.stageTargets key rest

end Store

def startRetire (store : Store) (request : RetireRequest) : Outcome :=
  let key := request.idempotencyKey
  if store.authorityState request.owner = none then none
  else
    (store.openJob request).bind fun store =>
      (store.job key).map fun job =>
        if job.pluginId ≠ request.pluginId ∨ job.ownerGeneration ≠ request.generation then
          (store, .ended .failed)
        else if request.cursor ≠ none ∧ request.cursor ≠ job.cursorToken then
          (store, .ended .failed)
        else if job.complete then (store, .ended (.receipt job.receipt))
        else if request.cursor = none ∧ job.cursorToken ≠ none then
          (store, .ended (.receipt job.receipt))
        else (store, .retiringKeys request false (store.revocationTargets key request.limit))

def finishRound (store : Store) (request : RetireRequest) (second : Bool) : Outcome :=
  (store.finalizeTargets request.idempotencyKey).bind fun store =>
    if second then
      (store.job request.idempotencyKey).map fun job => (store, .ended (.receipt job.receipt))
    else some (store, .staging request)

def stageOrComplete (store : Store) (request : RetireRequest) : Outcome :=
  let key := request.idempotencyKey
  (store.job key).bind fun job =>
    match store.ownerRows request.owner job.ownerCursorGrantId request.limit with
    | [] =>
      if store.authorityState request.owner = some .retiring then
        let completed := { job with complete := true, cursorToken := none }
        some ((store.setAuthority request.owner .retired).setJob key completed,
          .announcing false (.receipt completed.receipt))
      else none
    | rows =>
      (store.stageTargets key rows).map fun store =>
        (store, .retiringKeys request true (store.revocationTargets key request.limit))

/-- What `evaluateAuthorizationPolicy` asks of the grant's own limits. -/
def Grant.withinLimits (grant : Grant) (now : Nat) : Bool :=
  isExpired grant.expiresAt now = false ∧ (grant.maxUses = 0 ∨ grant.useCount < grant.maxUses)

def Store.findByToken (store : Store) (token : Token) : Option GrantId :=
  store.grantIds.find? fun id =>
    match store.grant id with
    | none => false
    | some grant => grant.terminal = false ∧ grant.tokenHash = token

/-- See `activeDelegatedParent`; `none` where the parent is not active. -/
def Store.activeDelegatedParent (store : Store) (grant : Grant) :
    Option (Option (GrantId × Grant)) :=
  if grant.delegated = false then some none
  else
    match store.grant grant.parentGrantId with
    | none => none
    | some parent =>
      if parent.terminal ∨ isExpired parent.expiresAt store.clock then none
      else some (some (grant.parentGrantId, parent))

def startAuthorize (store : Store) (request : AuthorizationRequest) : Outcome :=
  match store.findByToken request.token with
  | none => some (store, .ended .denied)
  | some id =>
    (store.grant id).map fun grant =>
      if store.grantOwnersAreActive id = false then (store, .ended .denied)
      else
        match store.activeDelegatedParent grant with
        | none => (store, .ended .denied)
        | some parent => (store, .verifying request id grant parent)

def verifyRequest (store : Store) (request : AuthorizationRequest) (id : GrantId) (grant : Grant)
    (parent : Option (GrantId × Grant)) : Store × Point :=
  match request.requiredCapability with
  | none => (store, .deciding request id grant parent)
  | some capability =>
    if store.capabilityCheck request.token id grant (parent.map (·.2)) capability
        request.context then
      (store, .deciding request id grant parent)
    else (store, .ended .denied)

/-- The condition of the statement that consumes a use. -/
def Store.consumable (store : Store) (id : GrantId) (grant : Grant)
    (parent : Option (GrantId × Grant)) : Bool :=
  ((store.grant id).any fun row =>
      row.tokenHash = grant.tokenHash ∧ row.updatedAt = grant.updatedAt ∧ row.terminal = false ∧
        row.withinLimits store.clock) ∧
    store.grantOwnersAreActive id ∧
    parent.all fun parent =>
      ((store.grant parent.1).any fun row =>
        row.updatedAt = parent.2.updatedAt ∧ row.terminal = false ∧
          isExpired row.expiresAt store.clock = false) ∧
      store.grantOwnersAreActive parent.1

/-- See `finishGrantAuthorization`. -/
def decideRequest (store : Store) (request : AuthorizationRequest) (id : GrantId) (grant : Grant)
    (parent : Option (GrantId × Grant)) : Store × Point :=
  let accepted := { store with
    accepted := ⟨id, store.owners id, request.recordUse⟩ :: store.accepted }
  if grant.withinLimits store.clock = false ∨
      parent.any (fun parent => !parent.2.withinLimits store.clock) then
    (store, .ended .denied)
  else if request.recordUse = false then
    if store.grantOwnersAreActive id ∧ parent.all fun parent => store.grantOwnersAreActive parent.1
    then (accepted, .ended .accepted)
    else (store, .ended .denied)
  else if store.consumable id grant parent then
    match store.grant id with
    | none => (store, .ended .denied)
    | some row =>
      (accepted.upsertGrant id { row with useCount := row.useCount + 1 }, .ended .accepted)
  else (store, .ended .denied)

def startCommand (store : Store) : Command → Outcome
  | .createGrant input => startCreate store input
  | .updateGrant id patch => startUpdate store id patch
  | .rotateGrantToken id => startRotate store id
  | .revokeGrant id => startRevoke store id false
  | .deleteGrant id => startRevoke store id true
  | .revokeGrantsByPluginOwner request => startRetire store request
  | .authorizeRequest request => startAuthorize store request

def returnAnswer (store : Store) : Answer → Store
  | .granted id token => { store with returned := setAt store.returned id (some token) }
  | _ => store

def perform (store : Store) (command : Command) : Point → Outcome
  | .starting => startCommand store command
  | .cascading sequel =>
    (store.revokeDescendantRows sequel.grantId).map fun revoked =>
      (revoked.1, invalidateNext (revoked.2 ++ sequel.own) sequel)
  | .invalidatingKey id rest sequel =>
    some (store.invalidateCredential id, .invalidatingBinding id rest sequel)
  | .invalidatingBinding id rest sequel =>
    some (store.invalidateBinding id,
      if rest = [] ∧ sequel.own ≠ [] then sequel.next else .notifying rest sequel)
  | .notifying rest sequel => some (store, invalidateNext rest sequel)
  | .issuing issue => some (store.issueKey issue.id issue.grant, .binding issue store.drawn)
  | .binding issue token =>
    some (store.bindKey issue.id token issue.grant, .persisting issue token)
  | .persisting issue token =>
    (persistIssue store issue token).map fun store =>
      (store, .announcing false (.granted issue.id token))
  | .rollingBack id => some (store.invalidateCredential id, .ended .failed)
  | .announcing true answer => some (store, .announcing false answer)
  | .announcing false answer => some (returnAnswer store answer, .ended answer)
  | .retiringKeys request second [] => finishRound store request second
  | .retiringKeys request second (target :: rest) =>
    some (store.invalidateTargetKey request.idempotencyKey target,
      .retiringBinding request second target rest)
  | .retiringBinding request second target rest =>
    some (store.invalidateTargetBinding request.idempotencyKey target,
      .retiringKeys request second rest)
  | .staging request => stageOrComplete store request
  | .verifying request id grant parent => some (verifyRequest store request id grant parent)
  | .deciding request id grant parent => some (decideRequest store request id grant parent)
  | .ended answer => some (store, .ended answer)

/-- Where a call goes on that fails: only a lost persistence is rolled back. -/
def Point.onFailure : Point → Point
  | .persisting issue _ => .rollingBack issue.id
  | .ended answer => .ended answer
  | _ => .ended .failed

/-- How a step ends: it fails with its effect or without. -/
inductive Reply
  | ok
  | failed (effect : Bool)

structure Call where
  command : Command
  point : Point
  deriving DecidableEq

def Call.proceed (store : Store) (call : Call) (reply : Reply) : Store × Call :=
  match perform store call.command call.point with
  | none => (store, { call with point := call.point.onFailure })
  | some (after, next) =>
    match reply with
    | .ok => (after, { call with point := next })
    | .failed effect =>
      (if effect then after else store, { call with point := call.point.onFailure })

abbrev GrantWorld := World Store Call

inductive Event
  | call (command : Command)
  | proceed (index : Nat) (reply : Reply)
  | registerPluginGrantOwner (pluginId generation : String)
  | wait (duration : Nat)
  | crash

def step (world : GrantWorld) : Event → GrantWorld
  | .call command => world.spawn ⟨command, .starting⟩
  | .proceed index reply =>
    match world.agents[index]? with
    | none => world
    | some call =>
      let (store, call) := call.proceed world.shared reply
      world.update index store call
  | .registerPluginGrantOwner pluginId generation =>
    match world.shared.registerPluginGrantOwner pluginId generation with
    | none => world
    | some store => { world with shared := store }
  | .wait duration =>
    { world with shared := { world.shared with clock := world.shared.clock + duration } }
  | .crash => { world with agents := [] }

def run (events : List Event) : GrantWorld := runAll step ⟨{}, []⟩ events

end LicoMesh.ToolGrants
