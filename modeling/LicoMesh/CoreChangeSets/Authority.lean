import LicoMesh.CoreChangeSets.Contract

namespace LicoMesh.CoreChangeSets

open ServiceCollaborationLimits

open WorkQueue

/-! The Core Change Set authority. Every call runs to its end before the next one begins, since none
of them waits. -/

structure AuthorizationState where
  principalRef : String
  grantRef : String
  resourceRef : String
  policyRef : String
  audienceRef : String
  requestRef : String
  generation : Int
  revoked : Bool

structure OperationLogEntry where
  head : Nat
  opIndex : Nat
  operation : Operation

structure HistoryEntry where
  head : Nat
  changeId : String
  entityIds : List String

structure SnapshotRecord where
  snapshotSeq : Nat
  head : Nat
  entityIds : List String
  resourceUris : List String

def SnapshotRecord.byteLength (snapshot : SnapshotRecord) : Nat :=
  let json : Json := .obj
    [("snapshotId", .str ("snap.ccs." ++ toString snapshot.snapshotSeq)),
      ("head", .num (toString snapshot.head)),
      ("entityIds", .arr (snapshot.entityIds.map .str)),
      ("resourceUris", .arr (snapshot.resourceUris.map .str)), ("byteLength", .num "0")]
  Json.byteLength json.render

structure CommittedChange where
  head : Nat
  changeId : String
  operations : List Operation
  acknowledgement : Acknowledge

/-- A `Map` is a function here; a missing entity log is an empty one. -/
structure WorkingSet where
  workingSetId : String
  head : Nat
  entityIds : List String
  handles : List (String × String)
  opsByEntity : String → List OperationLogEntry
  opsByHead : Nat → Option (List OperationLogEntry)
  historyByHead : Nat → Option HistoryEntry
  historyHeads : List Nat
  changeResults : String → Option Acknowledge
  snapshotsByHead : Nat → Option SnapshotRecord
  snapshotHeads : List Nat
  /-- The head of every recorded cursor `cur.ccs.n`, by its number. -/
  cursors : Nat → Option Nat
  subscriberById : List (Nat × String)
  auth : AuthorizationState
  /-- Every change set applied since the set was opened, the last one first. No call reads it. -/
  committed : List CommittedChange

def resourceUriFor (workingSetId entityId : String) : String :=
  resourceUriPrefix ++ workingSetId ++ "/" ++ entityId

/-- The distinct texts that are not blank, in order, without padding. -/
def uniqueStrings (values : List String) : List String :=
  ((values.map toText).filter fun value => value ≠ "").foldl
    (fun found value => if value ∈ found then found else found ++ [value]) []

structure Limits where
  maxEntitiesPerWorkingSet : Int := maxEntitiesPerWorkingSet
  maxResultFacts : Int := maxResultFacts
  maxInvalidations : Int := maxInvalidations
  maxHistoryEntries : Int := maxHistoryEntries
  maxDeltaPage : Int := maxDeltaPage
  maxTailOps : Int := maxTailOps

/-- Facts that a client presents; a missing text is empty. -/
structure AuthorityLookup where
  principalRef : String := ""
  grantRef : String := ""
  resourceRef : String := ""
  policyRef : String := ""
  generation : Option Int := none
  handle : String := ""

inductive AuthorizationDecision
  | ok
  | denied (code : String)
  deriving DecidableEq

structure Options where
  limits : Limits
  defaultAuth : AuthorizationState
  resolver : Option (AuthorityLookup → AuthorizationState → Option AuthorizationDecision)

def orDefault (value fallback : String) : String :=
  if value = "" then fallback else value

def currentDecision (lookup : AuthorityLookup) (auth : AuthorizationState) :
    AuthorizationDecision :=
  if auth.revoked then .denied "conflict.authorization_changed"
  else if orDefault lookup.principalRef auth.principalRef = auth.principalRef ∧
      orDefault lookup.grantRef auth.grantRef = auth.grantRef ∧
      orDefault lookup.resourceRef auth.resourceRef = auth.resourceRef ∧
      orDefault lookup.policyRef auth.policyRef = auth.policyRef ∧
      lookup.generation.getD auth.generation = auth.generation then .ok
  else .denied "conflict.authorization_changed"

def Options.resolveAuthorization (options : Options) (lookup : AuthorityLookup)
    (auth : AuthorizationState) : Option AuthorizationDecision :=
  match options.resolver with
  | none => some (currentDecision lookup auth)
  | some resolver =>
    (resolver lookup auth).map fun
      | .ok => .ok
      | .denied code => .denied (orDefault code "conflict.authorization_changed")

namespace WorkingSet

variable (set : WorkingSet)

def entityIdForHandle (handle : String) : String :=
  ((set.handles.reverse.find? fun entry => entry.1 = handle).map Prod.snd).getD ""

def earliestCausalHead : Nat :=
  match set.historyHeads with
  | [] => 0
  | oldest :: _ => oldest - 1

def forgetHead (oldest : Nat) : WorkingSet :=
  { set with
    historyByHead := fun head => if head = oldest then none else set.historyByHead head
    opsByHead := fun head => if head = oldest then none else set.opsByHead head
    opsByEntity := fun entityId =>
      (set.opsByEntity entityId).filter fun entry => entry.head ≠ oldest }

def forgetSnapshot (oldest : Nat) : WorkingSet :=
  { set with
    snapshotsByHead := fun head => if head = oldest then none else set.snapshotsByHead head }

def dropHistory (maxHistoryEntries : Int) : WorkingSet → List Nat → WorkingSet
  | set, [] => { set with historyHeads := [] }
  | set, oldest :: rest =>
    if maxHistoryEntries < (oldest :: rest).length then
      dropHistory maxHistoryEntries (set.forgetHead oldest) rest
    else { set with historyHeads := oldest :: rest }

def dropSnapshots (maxHistoryEntries : Int) : WorkingSet → List Nat → WorkingSet
  | set, [] => { set with snapshotHeads := [] }
  | set, oldest :: rest =>
    if maxHistoryEntries < (oldest :: rest).length then
      dropSnapshots maxHistoryEntries (set.forgetSnapshot oldest) rest
    else { set with snapshotHeads := oldest :: rest }

def dropOldest (maxHistoryEntries : Int) : WorkingSet :=
  let trimmed := dropHistory maxHistoryEntries set set.historyHeads
  dropSnapshots maxHistoryEntries trimmed trimmed.snapshotHeads

def mintSnapshot (snapshotSeq : Nat) : SnapshotRecord where
  snapshotSeq := snapshotSeq
  head := set.head
  entityIds := set.entityIds
  resourceUris := set.entityIds.map (resourceUriFor set.workingSetId)

def commitSnapshot (snapshotSeq : Nat) : WorkingSet :=
  { set with
    snapshotsByHead := fun head =>
      if head = set.head then some (set.mintSnapshot snapshotSeq) else set.snapshotsByHead head
    snapshotHeads := set.snapshotHeads ++ [set.head] }

def recordCursor (cursorSeq : Nat) : WorkingSet :=
  { set with
    cursors := fun token => if token = cursorSeq then some set.head else set.cursors token }

def relevantInterveningOperations (entityIds : List String) (baselineHead : Int) : List Operation :=
  let collected := entityIds.flatMap fun entityId =>
    (set.opsByEntity entityId).reverse.takeWhile fun entry => baselineHead < entry.head
  let sorted := collected.mergeSort fun left right =>
    left.head < right.head || (left.head = right.head && left.opIndex ≤ right.opIndex)
  sorted.map OperationLogEntry.operation

def logEntries (assignedHead : Nat) (operations : List Operation) : List OperationLogEntry :=
  operations.mapIdx fun opIndex operation => ⟨assignedHead, opIndex, operation⟩

def appendOperations (operations : List Operation) (assignedHead : Nat) : WorkingSet :=
  let entries := logEntries assignedHead operations
  { set with
    opsByEntity := fun entityId =>
      set.opsByEntity entityId ++ entries.filter fun entry => entry.operation.entityId = entityId
    opsByHead := fun head => if head = assignedHead then some entries else set.opsByHead head }

def applyOperations (operations : List Operation) (assignedHead : Nat) : Except String WorkingSet :=
  match operations.find? fun operation => operation.entityId ∉ set.entityIds with
  | some operation => .error operation.entityId
  | none => .ok (set.appendOperations operations assignedHead)

end WorkingSet

structure CommitRequest where
  workingSetId : String
  handle : String
  changeSet : Option ChangeSet

/-- What becomes of a commit; a new set replaces the old one when its acknowledgement satisfies the
wire contract. -/
inductive CommitOutcome
  | failed
  | answered (acknowledgement : Acknowledge)
  | committed (workingSet : WorkingSet) (acknowledgement : Acknowledge)

/-- A message that the wire contract refuses is an error. -/
def CommitOutcome.answer (acknowledgement : Acknowledge) : CommitOutcome :=
  if acknowledgement.isAccepted then .answered acknowledgement else .failed

namespace WorkingSet

variable (set : WorkingSet)

def conflictAcknowledge (conflicts : List ConflictFact) : Acknowledge where
  workingSetId := set.workingSetId
  assignedHead := set.head
  changedEntityIds := []
  resultFacts := []
  conflicts := conflicts.map fun conflict => { conflict with head := set.head }
  invalidations := []

def denyAcknowledge (code entityId : String) : CommitOutcome :=
  .answer (set.conflictAcknowledge [⟨code, entityId, set.head⟩])

def cleanAcknowledge : CommitOutcome := .answer (set.conflictAcknowledge [])

def appliedAcknowledge (assignedHead : Nat) (changed : List String) : Acknowledge where
  workingSetId := set.workingSetId
  assignedHead := assignedHead
  changedEntityIds := changed
  resultFacts := changed.map fun entityId => ⟨"applied", entityId⟩
  conflicts := []
  invalidations := changed.map fun entityId =>
    ⟨"resource_changed", resourceUriFor set.workingSetId entityId⟩

def rebasedOperations (changeSet : ChangeSet) (changedIds : List String) : Rebased :=
  if changeSet.baselineHead < set.head then
    rebaseOperations changeSet.operations
      (set.relevantInterveningOperations changedIds changeSet.baselineHead)
  else ⟨changeSet.operations, []⟩

def advanceHead (limits : Limits) (cursorSeq snapshotSeq : Nat) (changeId : String)
    (operations : List Operation) (appended : WorkingSet) : WorkingSet × Acknowledge :=
  let assignedHead := set.head + 1
  let changed := uniqueStrings (operations.map Operation.entityId)
  let acknowledgement := set.appliedAcknowledge assignedHead changed
  let advanced := { appended with
    head := assignedHead
    historyByHead := fun head =>
      if head = assignedHead then some ⟨assignedHead, changeId, changed⟩
      else appended.historyByHead head
    historyHeads := appended.historyHeads ++ [assignedHead] }
  let trimmed := ((advanced.recordCursor cursorSeq).commitSnapshot snapshotSeq).dropOldest
    limits.maxHistoryEntries
  ({ trimmed with
      changeResults := fun id =>
        if id = changeId then some acknowledgement else trimmed.changeResults id
      committed := ⟨assignedHead, changeId, operations, acknowledgement⟩ :: trimmed.committed },
    acknowledgement)

def commitChangeSet (limits : Limits) (cursorSeq snapshotSeq : Nat) (entityId : String)
    (changeSet : ChangeSet) : CommitOutcome :=
  match set.changeResults changeSet.changeId with
  | some prior => .answered prior
  | none =>
    let changedIds := uniqueStrings (changeSet.operations.map Operation.entityId)
    if changedIds.any fun id => id ∉ set.entityIds then
      set.denyAcknowledge "conflict.unknown_required_field" entityId
    else if limits.maxResultFacts < changedIds.length ∨
        limits.maxInvalidations < changedIds.length then
      set.denyAcknowledge "conflict.budget_exceeded" entityId
    else if set.head < changeSet.baselineHead then
      set.denyAcknowledge "conflict.stale_baseline" entityId
    else if changeSet.baselineHead < set.earliestCausalHead then
      set.denyAcknowledge "conflict.stale_baseline" entityId
    else
      let rebased := set.rebasedOperations changeSet changedIds
      if rebased.conflicts ≠ [] then .answer (set.conflictAcknowledge rebased.conflicts)
      else
        match set.applyOperations rebased.rebasedOperations (set.head + 1) with
        | .error missing => set.denyAcknowledge "conflict.unknown_required_field" missing
        | .ok appended =>
          let (advanced, acknowledgement) := set.advanceHead limits cursorSeq snapshotSeq
            changeSet.changeId rebased.rebasedOperations appended
          .committed advanced acknowledgement

def commit (options : Options) (cursorSeq snapshotSeq : Nat) (request : CommitRequest)
    (lookup : AuthorityLookup) : CommitOutcome :=
  let entityId := set.entityIdForHandle request.handle
  match options.resolveAuthorization { lookup with handle := request.handle } set.auth with
  | none => .failed
  | some (.denied code) => set.denyAcknowledge code (orDefault entityId "ent.denied")
  | some .ok =>
    if entityId = "" then
      set.denyAcknowledge "conflict.authorization_changed" "ent.denied"
    else
      match request.changeSet with
      | none => set.cleanAcknowledge
      | some changeSet =>
        set.commitChangeSet options.limits cursorSeq snapshotSeq entityId changeSet

end WorkingSet

/-- The text of a cursor: `cur.ccs.n`, or any other one. -/
inductive CursorToken
  | minted (cursorSeq : Nat)
  | other (text : String)
  deriving DecidableEq

inductive CursorState
  | valid
  | expired
  deriving DecidableEq

structure Cursor where
  token : CursorToken
  indexedHead : Nat
  cursorState : CursorState

def minCursorChars : Nat := 8
def maxCursorBytes : Nat := 128

def Cursor.isAccepted (cursor : Cursor) : Bool :=
  match cursor.token with
  | .minted _ => true
  | .other text =>
    let normalized := boundedText maxCursorBytes text
    minCursorChars ≤ normalized.length && normalized.toList.all EffectCommands.isIdentityChar

def CursorToken.orDefault (token fallback : CursorToken) : CursorToken :=
  if token = .other "" then fallback else token

inductive ResyncOutcome
  | delta (deltas : List OperationLogEntry)
  | snapshotTail (snapshot : SnapshotRecord) (tail : List OperationLogEntry)
  | cancelled

structure ResyncResponse where
  workingSetId : String
  outcome : ResyncOutcome
  head : Nat
  cursor : Cursor

/-- `orderDeltas`. -/
def orderedDeltas (deltas : List OperationLogEntry) : Bool :=
  deltas.length ≤ maxDeltaPage && deltas.IsChain fun previous current =>
      previous.head < current.head ∨
        previous.head = current.head ∧ previous.opIndex < current.opIndex

/-- `parseSnapshot`. -/
def SnapshotRecord.isAccepted (snapshot : SnapshotRecord) : Bool :=
  snapshot.entityIds ≠ [] && snapshot.entityIds.length ≤ maxEntitiesPerWorkingSet &&
    snapshot.entityIds.all opaqueId && snapshot.entityIds.Nodup && snapshot.resourceUris ≠ [] &&
    snapshot.resourceUris.length ≤ maxResourceLinks &&
    snapshot.resourceUris.all resourceUri && snapshot.resourceUris.Nodup &&
    snapshot.byteLength ≤ maxSnapshotBytes

/-- `parseResyncResponse`. -/
def ResyncResponse.isAccepted (response : ResyncResponse) : Bool :=
  opaqueId response.workingSetId && response.cursor.isAccepted &&
    match response.outcome with
    | .delta deltas => orderedDeltas deltas && response.cursor.cursorState = .valid
    | .snapshotTail snapshot tail =>
      snapshot.isAccepted && tail.length ≤ maxTailOps &&
        response.cursor.cursorState = .expired
    | .cancelled => response.cursor.cursorState = .valid

def takePage (limit : Int) : Nat → List OperationLogEntry → List OperationLogEntry
  | _, [] => []
  | taken, entry :: rest =>
    entry :: if limit ≤ (taken + 1 : Nat) then [] else takePage limit (taken + 1) rest

namespace WorkingSet

variable (set : WorkingSet)

def cursorRecord (cursor : Cursor) : CursorState × Nat :=
  match cursor.token with
  | .other _ => (.expired, cursor.indexedHead)
  | .minted cursorSeq =>
    match set.cursors cursorSeq with
    | none => (.expired, cursor.indexedHead)
    | some indexedHead =>
      if indexedHead < set.earliestCausalHead ∧ indexedHead ≠ set.head then
        (.expired, indexedHead)
      else (.valid, indexedHead)

def logAt (head : Nat) : List OperationLogEntry := (set.opsByHead head).getD []

def retainedAfter (fromHead : Nat) : List OperationLogEntry :=
  (set.historyHeads.filter fun head => fromHead < head).flatMap set.logAt

def deltasFrom (limits : Limits) (fromHead : Nat) : List OperationLogEntry :=
  takePage limits.maxDeltaPage 0 (set.retainedAfter fromHead)

def tailFrom (limits : Limits) : List OperationLogEntry → List Nat → List OperationLogEntry
  | tail, [] => tail
  | tail, head :: rest =>
    let longer := tail ++ takePage limits.maxTailOps tail.length (set.logAt head)
    if limits.maxTailOps ≤ longer.length then longer else tailFrom limits longer rest

def resyncResponse (limits : Limits) (cursorSeq snapshotSeq : Nat) (cursor : Cursor) :
    ResyncResponse :=
  match set.cursorRecord cursor with
  | (.valid, indexedHead) =>
    ⟨set.workingSetId, .delta (set.deltasFrom limits indexedHead), set.head,
      ⟨.minted cursorSeq, set.head, .valid⟩⟩
  | (.expired, indexedHead) =>
    let snapshot := (set.snapshotsByHead (set.snapshotHeads.head?.getD set.head)).getD
      (set.mintSnapshot snapshotSeq)
    let heads := set.historyHeads.filter fun head => snapshot.head < head
    ⟨set.workingSetId, .snapshotTail snapshot (set.tailFrom limits [] heads), set.head,
      ⟨cursor.token.orDefault (.other ("cur.expired." ++ set.workingSetId)), indexedHead,
        .expired⟩⟩

end WorkingSet

structure EntitySpec where
  entityId : String
  handle : String

/-- What an open overrides; a missing text is empty. -/
structure AuthorizationInput where
  principalRef : String := ""
  grantRef : String := ""
  resourceRef : String := ""
  policyRef : String := ""
  audienceRef : String := ""
  requestRef : String := ""
  generation : Option Int := none
  revoked : Bool := false

structure OpenInput where
  workingSetId : String
  entities : List EntitySpec
  authorization : AuthorizationInput
  lookup : AuthorityLookup

def AuthorizationInput.state (input : AuthorizationInput) (fallback : AuthorizationState) :
    AuthorizationState where
  principalRef := orDefault input.principalRef fallback.principalRef
  grantRef := orDefault input.grantRef fallback.grantRef
  resourceRef := orDefault input.resourceRef fallback.resourceRef
  policyRef := orDefault input.policyRef fallback.policyRef
  audienceRef := orDefault input.audienceRef fallback.audienceRef
  requestRef := orDefault input.requestRef fallback.requestRef
  generation := input.generation.getD fallback.generation
  revoked := input.revoked || fallback.revoked

namespace OpenInput

variable (input : OpenInput)

def id : String := toText input.workingSetId

def entityIds : List String := uniqueStrings (input.entities.map EntitySpec.entityId)

def handles : List (String × String) :=
  input.entities.mapIdx fun index spec =>
    (orDefault spec.handle ("hdl_ccs_" ++ toString (index + 1)), input.entityIds.getD index "")

def isBounded (limits : Limits) : Bool :=
  input.id ≠ "" && input.entities ≠ [] &&
    input.entities.length ≤ limits.maxEntitiesPerWorkingSet &&
    input.entityIds.length = input.entities.length

/-- `parseOpenResponse` of the answer. -/
def isAccepted : Bool :=
  opaqueId input.id && input.entityIds ≠ [] && input.entityIds.length ≤ maxEntitiesPerWorkingSet &&
    input.entityIds.all opaqueId && input.entityIds.Nodup &&
    (input.handles.all fun entry => handleToken entry.1) &&
    (input.handles.map fun entry => toText entry.1).Nodup &&
    input.entityIds.length ≤ maxResourceLinks &&
    (input.entityIds.all fun entityId => resourceUri (resourceUriFor input.id entityId)) &&
    (input.entityIds.map (resourceUriFor input.id)).Nodup

def workingSet (defaultAuth : AuthorizationState) (cursorSeq snapshotSeq : Nat) : WorkingSet :=
  let fresh : WorkingSet :=
    { workingSetId := input.id
      head := 0
      entityIds := input.entityIds
      handles := input.handles
      opsByEntity := fun _ => []
      opsByHead := fun _ => none
      historyByHead := fun _ => none
      historyHeads := []
      changeResults := fun _ => none
      snapshotsByHead := fun _ => none
      snapshotHeads := []
      cursors := fun _ => none
      subscriberById := []
      auth := input.authorization.state defaultAuth
      committed := [] }
  (fresh.recordCursor cursorSeq).commitSnapshot snapshotSeq

end OpenInput

inductive Call
  | open (input : OpenInput)
  /-- A request that the wire contract refuses is none. -/
  | commitTurn (request : Option CommitRequest) (lookup : AuthorityLookup)
  /-- Operations that the wire contract refuses are none. -/
  | rebase (workingSetId handle : String) (operations : Option (List Operation))
      (baselineHead : Int) (lookup : AuthorityLookup)
  | resync (workingSetId : String) (cursor : Cursor) (lookup : AuthorityLookup)
  | subscribe (workingSetId resourceUri : String) (lookup : AuthorityLookup)
  | revoke (workingSetId : String)
  | advanceGeneration (workingSetId : String)
  | notificationFor (workingSetId entityId : String)

structure RebaseResponse where
  workingSetId : String
  head : Nat
  rebasedOperations : List Operation
  conflicts : List ConflictFact
  cursor : Cursor

def RebaseResponse.isAccepted (response : RebaseResponse) : Bool :=
  opaqueId response.workingSetId && response.rebasedOperations.length ≤ maxOperationsPerChangeSet &&
    response.conflicts.length ≤ maxConflicts && response.conflicts.all ConflictFact.isAccepted

inductive Answer
  | threw
  | opened (cursor : Cursor)
  | acknowledged (acknowledgement : Acknowledge)
  /-- The acknowledgement of a change set that was applied just now. -/
  | committed (acknowledgement : Acknowledge)
  | rebased (response : RebaseResponse)
  | resynced (response : ResyncResponse)
  | subscribed (subscriberSeq : Nat)
  | refused (code : String)
  | done
  | notified (cursor : Cursor)

structure IssuedCursor where
  workingSetId : String
  cursorSeq : Nat
  indexedHead : Nat
  deriving DecidableEq

structure Authority where
  workingSets : String → Option WorkingSet
  cursorSeq : Nat
  snapshotSeq : Nat
  subscriberSeq : Nat
  /-- The cursors that open, resync and notifications have handed out as valid. No call reads it. -/
  issued : List IssuedCursor

namespace Authority

variable (options : Options) (authority : Authority)

def setWorkingSet (id : String) (set : Option WorkingSet) : Authority :=
  { authority with
    workingSets := fun other => if other = id then set else authority.workingSets other }

/-- The next cursor number, for a cursor that is handed out. -/
def issue (id : String) (indexedHead : Nat) : Authority :=
  { authority with
    cursorSeq := authority.cursorSeq + 1
    issued := ⟨id, authority.cursorSeq + 1, indexedHead⟩ :: authority.issued }

def skipCursor : Authority := { authority with cursorSeq := authority.cursorSeq + 1 }

def skipSnapshot : Authority := { authority with snapshotSeq := authority.snapshotSeq + 1 }

variable (id : String)
include id

variable (set : Option WorkingSet)
include set

theorem workingSets_setWorkingSet : (authority.setWorkingSet id set).workingSets =
      fun other => if other = id then set else authority.workingSets other := rfl

@[simp] theorem issued_setWorkingSet :
    (authority.setWorkingSet id set).issued = authority.issued := rfl

@[simp] theorem cursorSeq_setWorkingSet :
    (authority.setWorkingSet id set).cursorSeq = authority.cursorSeq := rfl

omit set id

@[simp] theorem issued_skipCursor : authority.skipCursor.issued = authority.issued := rfl

@[simp] theorem cursorSeq_skipCursor :
    authority.skipCursor.cursorSeq = authority.cursorSeq + 1 := rfl

@[simp] theorem workingSets_skipCursor :
    authority.skipCursor.workingSets = authority.workingSets := rfl

@[simp] theorem issued_skipSnapshot : authority.skipSnapshot.issued = authority.issued := rfl

@[simp] theorem cursorSeq_skipSnapshot :
    authority.skipSnapshot.cursorSeq = authority.cursorSeq := rfl

@[simp] theorem workingSets_skipSnapshot :
    authority.skipSnapshot.workingSets = authority.workingSets := rfl

include id

@[simp] theorem issued_issue (head : Nat) : (authority.issue id head).issued =
      ⟨id, authority.cursorSeq + 1, head⟩ :: authority.issued := rfl

@[simp] theorem cursorSeq_issue (head : Nat) :
    (authority.issue id head).cursorSeq = authority.cursorSeq + 1 := rfl

@[simp] theorem workingSets_issue (head : Nat) :
    (authority.issue id head).workingSets = authority.workingSets := rfl

include set

theorem workingSets_opened : (authority.skipSnapshot.setWorkingSet id set).skipCursor.workingSets =
      (authority.setWorkingSet id set).workingSets := by
  simp only [workingSets_skipCursor, workingSets_setWorkingSet, workingSets_skipSnapshot]

theorem workingSets_issued (head : Nat) :
    ((authority.skipSnapshot.setWorkingSet id set).issue id head).workingSets =
      (authority.setWorkingSet id set).workingSets := by
  simp only [workingSets_issue, workingSets_setWorkingSet, workingSets_skipSnapshot]

omit set id

def openWorkingSet (input : OpenInput) : Authority × Answer :=
  if input.isBounded options.limits then
    let set := input.workingSet options.defaultAuth (authority.cursorSeq + 1)
      (authority.snapshotSeq + 1)
    -- The set is in the map before the answer and the authorization are checked.
    let written := authority.skipSnapshot.setWorkingSet input.id (some set)
    if input.isAccepted then
      match options.resolveAuthorization input.lookup set.auth with
      | none => (written.skipCursor, .threw)
      | some (.denied _) => (written.skipCursor.setWorkingSet input.id none, .threw)
      | some .ok =>
        (written.issue input.id 0, .opened ⟨.minted (authority.cursorSeq + 1), 0, .valid⟩)
    else (written.skipCursor, .threw)
  else (authority, .threw)

def commitTurn (request : CommitRequest) (lookup : AuthorityLookup) (live : WorkingSet) :
    Authority × Answer :=
  match live.commit options (authority.cursorSeq + 1) (authority.snapshotSeq + 1) request lookup with
  | .failed => (authority, .threw)
  | .answered acknowledgement => (authority, .acknowledged acknowledgement)
  | .committed advanced acknowledgement =>
    let counted := authority.skipCursor.skipSnapshot
    if acknowledgement.isAccepted then
      (counted.setWorkingSet advanced.workingSetId (some advanced), .committed acknowledgement)
    else (counted, .threw)

def rebase (handle : String) (operations : Option (List Operation)) (baselineHead : Int)
    (lookup : AuthorityLookup) (set : WorkingSet) : Authority × Answer :=
  let answer := fun (next : Authority) (response : RebaseResponse) =>
    (next, if response.isAccepted then .rebased response else .threw)
  match options.resolveAuthorization lookup set.auth with
  | none => (authority, .threw)
  | some (.denied code) =>
    let entityId := orDefault (set.entityIdForHandle handle) "ent.denied"
    answer authority ⟨set.workingSetId, set.head, [], [⟨code, entityId, set.head⟩],
      ⟨.minted (max 1 authority.cursorSeq), set.head, .valid⟩⟩
  | some .ok =>
    match operations with
    | none => (authority, .threw)
    | some operations =>
      let entityIds := uniqueStrings (operations.map Operation.entityId)
      let rebased := rebaseOperations operations
        (if baselineHead < set.head then
          set.relevantInterveningOperations entityIds baselineHead else [])
      answer authority.skipCursor ⟨set.workingSetId, set.head,
        if rebased.conflicts = [] then rebased.rebasedOperations else [],
        rebased.conflicts.map fun conflict => { conflict with head := set.head },
        ⟨.minted (authority.cursorSeq + 1), set.head, .valid⟩⟩

def resync (cursor : Cursor) (lookup : AuthorityLookup) (set : WorkingSet) : Authority × Answer :=
  match options.resolveAuthorization lookup set.auth with
  | none => (authority, .threw)
  | some (.denied _) =>
    let response : ResyncResponse := ⟨set.workingSetId, .cancelled, set.head,
      ⟨cursor.token.orDefault (.minted (max 1 authority.cursorSeq)), set.head, .valid⟩⟩
    (authority, if response.isAccepted then .resynced response else .threw)
  | some .ok =>
    let response := set.resyncResponse options.limits (authority.cursorSeq + 1)
      (authority.snapshotSeq + 1) cursor
    match response.cursor.cursorState, response.isAccepted with
    | .valid, true => (authority.issue set.workingSetId set.head, .resynced response)
    | .valid, false => (authority.skipCursor, .threw)
    | .expired, true => (authority, .resynced response)
    | .expired, false => (authority, .threw)

def subscribe (id uri : String) (lookup : AuthorityLookup) (set : WorkingSet) :
    Authority × Answer :=
  match options.resolveAuthorization lookup set.auth with
  | none => (authority, .threw)
  | some (.denied code) => (authority, .refused code)
  | some .ok =>
    if uri ∈ set.entityIds.map (resourceUriFor set.workingSetId) then
      let subscriberSeq := authority.subscriberSeq + 1
      let next := { set with subscriberById := set.subscriberById ++ [(subscriberSeq, uri)] }
      ({ authority with subscriberSeq := subscriberSeq }.setWorkingSet id (some next),
        .subscribed subscriberSeq)
    else (authority, .refused "conflict.unknown_required_field")

def setAuth (id : String) (auth : AuthorizationState) (set : WorkingSet) : Authority × Answer :=
  (authority.setWorkingSet id (some { set with auth := auth }), .done)

/-- `parseResourceUpdatedNotification` refuses a URI that is none. -/
def notificationFor (workingSetId entityId : String) (set : WorkingSet) : Authority × Answer :=
  if resourceUri (resourceUriFor workingSetId entityId) then
    (authority.issue set.workingSetId set.head,
      .notified ⟨.minted (authority.cursorSeq + 1), set.head, .valid⟩)
  else (authority.skipCursor, .threw)

def withWorkingSet (id : String) (task : WorkingSet → Authority × Answer) : Authority × Answer :=
  match authority.workingSets id with
  | none => (authority, .threw)
  | some set => task set

def perform : Call → Authority × Answer
  | .open input => authority.openWorkingSet options input
  | .commitTurn none _ => (authority, .threw)
  | .commitTurn (some request) lookup =>
    authority.withWorkingSet request.workingSetId (authority.commitTurn options request lookup)
  | .rebase id handle operations baselineHead lookup =>
    authority.withWorkingSet id (authority.rebase options handle operations baselineHead lookup)
  | .resync id cursor lookup => authority.withWorkingSet id (authority.resync options cursor lookup)
  | .subscribe id uri lookup =>
    authority.withWorkingSet id (authority.subscribe options id uri lookup)
  | .revoke id =>
    authority.withWorkingSet id fun set =>
      authority.setAuth id { set.auth with revoked := true } set
  | .advanceGeneration id =>
    authority.withWorkingSet id fun set =>
      authority.setAuth id { set.auth with generation := set.auth.generation + 1 } set
  | .notificationFor id entityId =>
    authority.withWorkingSet id (authority.notificationFor id entityId)

end Authority

def initial : Authority := ⟨fun _ => none, 0, 0, 0, []⟩

def step (options : Options) (authority : Authority) (call : Call) : Authority :=
  (authority.perform options call).1

abbrev run (options : Options) (calls : List Call) : Authority :=
  Library.runAll (step options) initial calls

end LicoMesh.CoreChangeSets
