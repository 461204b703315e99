import LicoMesh.EffectCommands.Contract

namespace LicoMesh.CoreChangeSets

open WorkQueue EffectCommands

/-! The wire contract of Change Sets: operations, their rebasing and the checks on answers. -/

namespace ServiceCollaborationLimits

def maxIdentityBytes : Nat := 128
def maxHandleBytes : Nat := 64
def maxUriBytes : Nat := 256
def maxOperationsPerChangeSet : Nat := 64
def maxEntitiesPerWorkingSet : Nat := 256
def maxResourceLinks : Nat := 64
def maxDeltaPage : Nat := 32
def maxHistoryEntries : Nat := 32
def maxResultFacts : Nat := 32
def maxConflicts : Nat := 16
def maxInvalidations : Nat := 16
def maxSnapshotBytes : Nat := 65536
def maxTailOps : Nat := 32
def minHandleChars : Nat := 8

end ServiceCollaborationLimits

def maxSafeInteger : Nat := 9007199254740991

def boundedText (maxBytes : Nat) (value : String) : String :=
  if Json.byteLength (toText value).toList ≤ maxBytes then toText value else ""

def opaqueId (value : String) : Bool :=
  isIdentity (boundedText ServiceCollaborationLimits.maxIdentityBytes value).toList

def handleToken (value : String) : Bool :=
  let normalized := boundedText ServiceCollaborationLimits.maxHandleBytes value
  ServiceCollaborationLimits.minHandleChars ≤ normalized.length &&
    normalized.toList.all fun c => c.isAlphanum || c = '_' || c = '-'

def resourceUriPrefix : String := "meshrix://collaboration/"

def isUriPath (path : List Char) : Bool :=
  (path.splitOn '/').all fun segment => segment ≠ [] && segment.all isIdentityChar

/-- Whether the text is the URI of a collaboration resource. -/
def resourceUri (value : String) : Bool :=
  let normalized := (boundedText ServiceCollaborationLimits.maxUriBytes value).toList
  resourceUriPrefix.toList.isPrefixOf normalized &&
    isUriPath (normalized.drop resourceUriPrefix.length)

inductive OperationType
  | insert
  | update
  | delete
  | move
  | retain
  deriving DecidableEq

def OperationType.isUnrebaseable : OperationType → Bool
  | .move => true
  | _ => false

/-- An operation that `parseOperation` has accepted. -/
structure Operation where
  opId : String
  type : OperationType
  entityId : String
  index : Nat
  relevantIndexes : List Nat
  payloadDigest : String

structure ConflictFact where
  code : String
  entityId : String
  head : Nat

def conflictCodes : List String :=
  ["conflict.concurrent_edit", "conflict.stale_baseline", "conflict.unrebasable_operation",
    "conflict.authorization_changed", "conflict.cursor_expired", "conflict.budget_exceeded",
    "conflict.overload", "conflict.resync_required", "conflict.effect_uncertain",
    "conflict.effect_not_retryable", "conflict.second_core_generation",
    "conflict.unknown_required_field", "conflict.index_collision"]

/-- A Change Set that `parseChangeSet` has accepted. -/
structure ChangeSet where
  changeId : String
  baselineHead : Nat
  operations : List Operation
  attributionRef : String
  nonempty : operations ≠ []
  bounded : operations.length ≤ ServiceCollaborationLimits.maxOperationsPerChangeSet
  distinct : (operations.map Operation.opId).Nodup

def transformRelevantOperation (current other : Operation) : Except ConflictFact Operation :=
  let conflict := fun code => .error (.mk code current.entityId 0)
  if current.entityId ≠ other.entityId then .ok current
  else if current.type.isUnrebaseable || other.type.isUnrebaseable then
    conflict "conflict.unrebasable_operation"
  else if current.type = .update ∧ other.type = .update ∧ current.index = other.index then
    conflict "conflict.concurrent_edit"
  else if current.type = .delete ∧ other.type = .delete ∧ current.index = other.index then
    .ok { current with type := .retain }
  else
    let index :=
      if other.type = .insert ∧ other.index ≤ current.index then current.index + 1
      else if other.type = .delete ∧ other.index < current.index then current.index - 1
      else current.index
    if other.type = .delete ∧ other.index = index ∧ current.type ≠ .delete then
      conflict "conflict.index_collision"
    else if maxSafeInteger < index then conflict "conflict.index_collision"
    else .ok { current with index := index }

def rebaseOperation (relevant : List Operation) (local_ : Operation) :
    Except ConflictFact Operation :=
  relevant.foldlM transformRelevantOperation local_

def relevantOperations (locals remotes : List Operation) : List Operation :=
  remotes.filter fun remote => remote.entityId ∈ locals.map Operation.entityId

structure Rebased where
  rebasedOperations : List Operation
  conflicts : List ConflictFact

def rebaseOperations (locals remotes : List Operation) : Rebased :=
  let results := locals.map (rebaseOperation (relevantOperations locals remotes))
  { rebasedOperations := results.filterMap Except.toOption
    conflicts := results.filterMap fun
      | .ok _ => none
      | .error conflict => some conflict }

structure ResultFact where
  code : String
  entityId : String

structure InvalidationFact where
  code : String
  resourceUri : String

structure Acknowledge where
  workingSetId : String
  assignedHead : Nat
  changedEntityIds : List String
  resultFacts : List ResultFact
  conflicts : List ConflictFact
  invalidations : List InvalidationFact

def ConflictFact.isAccepted (conflict : ConflictFact) : Bool :=
  conflictCodes.contains conflict.code && opaqueId conflict.entityId

/-- `parseAcknowledge`. -/
def Acknowledge.isAccepted (acknowledge : Acknowledge) : Bool :=
  opaqueId acknowledge.workingSetId &&
    acknowledge.changedEntityIds.length ≤ ServiceCollaborationLimits.maxEntitiesPerWorkingSet &&
    acknowledge.changedEntityIds.all opaqueId && acknowledge.changedEntityIds.Nodup &&
    acknowledge.resultFacts.length ≤ ServiceCollaborationLimits.maxResultFacts &&
    (acknowledge.resultFacts.all fun fact => opaqueId fact.entityId) &&
    acknowledge.conflicts.length ≤ ServiceCollaborationLimits.maxConflicts &&
    acknowledge.conflicts.all ConflictFact.isAccepted &&
    acknowledge.invalidations.length ≤ ServiceCollaborationLimits.maxInvalidations &&
    (acknowledge.invalidations.all fun fact => resourceUri fact.resourceUri)

end LicoMesh.CoreChangeSets
