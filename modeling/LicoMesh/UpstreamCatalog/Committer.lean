import LicoMesh.UpstreamCatalog.Projections

namespace LicoMesh.UpstreamCatalog

/-! Committing manifest snapshots to the gateway registry and to the permission platform, and
publishing what was committed. Calls on one committer run one after the other. -/

structure Registry where
  sourceRevision : Int
  sourceDigest : String
  serviceEntries : List (String × ServiceEntry)

structure GatewayDiff where
  setRevision : Int
  setDigest : String
  added : List String
  updated : List String
  removed : List String

/-- `indexed` is whether the public tools of the services can be indexed. -/
def replaceFromManifestSnapshot (env : CatalogEnv) (registry : Registry) (snapshot : Snapshot)
    (indexed : Bool) : Option (Registry × GatewayDiff) :=
  let entries := snapshot.serviceEntries
  let projectedIds := (publishedOperations env snapshot).map CatalogOperation.id
  if (entries.map Prod.fst).Nodup ∧ projectedIds.Nodup ∧ indexed = true then
    some (⟨snapshot.setRevision, snapshot.setDigest, entries⟩,
      { setRevision := snapshot.setRevision
        setDigest := snapshot.setDigest
        added := (entries.map (·.1)).filter fun serviceId =>
          (registry.serviceEntries.lookup serviceId).isNone
        updated := (entries.filter fun (serviceId, entry) =>
          (registry.serviceEntries.lookup serviceId).any fun existing =>
            existing.manifestDigest ≠ entry.manifestDigest ||
              existing.serviceRevision ≠ entry.serviceRevision).map (·.1)
        removed := (registry.serviceEntries.map (·.1)).filter fun serviceId =>
          (entries.lookup serviceId).isNone })
  else none

structure Platform where
  sourceRevision : Int
  sourceDigest : String
  operations : List CatalogOperation

/-- `applied` is whether the layers could be applied; they are kept when not. -/
def replaceUpstreamOperations (platform : Platform) (projection : OperationProjection)
    (applied : Bool) : Option Platform :=
  if projection.sourceRevision < 0 ∨ projection.sourceRevision < platform.sourceRevision then none
  else if projection.sourceRevision = platform.sourceRevision then
    if projection.sourceDigest ≠ platform.sourceDigest then none else some platform
  else if applied then
    some ⟨projection.sourceRevision, projection.sourceDigest, projection.operations⟩
  else none

structure CatalogFacts where
  sourceRevision : Int
  sourceDigest : String
  catalogFingerprint : String
  affectedOperationIds : List String
  deriving DecidableEq

structure AffectedOperation where
  operationId : String
  toolId : String
  serviceId : String
  operationKey : String

structure CatalogEvent where
  sourceRevision : Int
  sourceDigest : String
  catalogFingerprint : String
  affectedOperations : List AffectedOperation
  added : List String
  updated : List String
  removed : List String

structure AudienceEventFacts where
  audienceRevision : Nat
  projectionDigest : AudienceFacts
  affectedPartitions : List String
  deriving DecidableEq

structure AudienceEvent where
  sourceRevision : Int
  sourceDigest : String
  catalogFingerprint : String
  audienceRevision : Nat
  projectionDigest : AudienceFacts
  affectedPartitions : List String

def createAudiencePublicationEvent (projection : AudienceProjection) : AudienceEvent where
  sourceRevision := projection.sourceRevision
  sourceDigest := projection.sourceDigest
  catalogFingerprint := projection.catalogFingerprint
  audienceRevision := projection.audienceRevision
  projectionDigest := projection.projectionDigest
  affectedPartitions := projection.affectedPartitions

def AudienceEvent.facts (event : AudienceEvent) : AudienceEventFacts :=
  ⟨event.audienceRevision, event.projectionDigest, event.affectedPartitions⟩

abbrev PublicationKey := Int × String

def publicationKey (snapshot : Snapshot) : PublicationKey :=
  (snapshot.setRevision, snapshot.setDigest)

structure PendingPublication where
  key : PublicationKey
  snapshot : Snapshot
  projection : OperationProjection
  gatewayDiff : GatewayDiff
  audienceProjection : AudienceProjection
  catalogFingerprint : String

/-- A committer with the registry and the platform that it writes. `accepted`, `catalogEvents` and
`audienceEvents` record what happened: the snapshots taken over and the events published. -/
structure Committer where
  registry : Registry
  platform : Platform
  lastCommittedKey : Option PublicationKey
  lastPublishedEventDigest : Option CatalogFacts
  lastAudienceEventDigest : Option AudienceEventFacts
  lastAudienceAdmissionDigest : Option AudienceEventFacts
  lastAudienceProjection : Option AudienceProjection
  lastSnapshot : Option Snapshot
  lastOperationProjection : Option OperationProjection
  pendingPublication : Option PendingPublication
  accepted : List Snapshot
  catalogEvents : List CatalogEvent
  audienceEvents : List AudienceEvent

def initialRegistry (serviceEntries : List (String × ServiceEntry)) : Registry :=
  ⟨0, "", serviceEntries⟩

def initialPlatform : Platform := ⟨-1, "", []⟩

def initialCommitter (serviceEntries : List (String × ServiceEntry)) : Committer where
  registry := initialRegistry serviceEntries
  platform := initialPlatform
  lastCommittedKey := none
  lastPublishedEventDigest := none
  lastAudienceEventDigest := none
  lastAudienceAdmissionDigest := none
  lastAudienceProjection := none
  lastSnapshot := none
  lastOperationProjection := none
  pendingPublication := none
  accepted := []
  catalogEvents := []
  audienceEvents := []

/-- Whether the event bus takes each event, and `onAudiencePublished` the audience. -/
structure Channel where
  catalogPublished : Bool
  audiencePublished : Bool
  audienceAdmitted : Bool

namespace PendingPublication

variable (pending : PendingPublication)

def event : CatalogEvent where
  sourceRevision := pending.snapshot.setRevision
  sourceDigest := pending.snapshot.setDigest
  catalogFingerprint := pending.catalogFingerprint
  affectedOperations := pending.projection.operations.map fun operation =>
    ⟨operation.id, operation.toolId, operation.serviceId, operation.operationKey⟩
  added := pending.gatewayDiff.added
  updated := pending.gatewayDiff.updated
  removed := pending.gatewayDiff.removed

def facts : CatalogFacts :=
  ⟨pending.snapshot.setRevision, pending.snapshot.setDigest, pending.catalogFingerprint,
    pending.projection.operations.map (·.id)⟩

end PendingPublication

def emitCatalogPublicationEvent (s : Committer) (pending : PendingPublication)
    (published : Bool) : Option Committer :=
  if s.lastPublishedEventDigest = some pending.facts then some s
  else if published then
    some { s with
      catalogEvents := s.catalogEvents ++ [pending.event]
      lastPublishedEventDigest := some pending.facts }
  else none

/-- Whether the event was emitted; `none` when it was refused by the bus or by the admission. -/
def emitAudiencePublicationEvent (s : Committer) (audience : AudienceProjection)
    (channel : Channel) : Committer × Option Bool :=
  if audience.replayed then (s, some false)
  else
    let event := createAudiencePublicationEvent audience
    let eventReplayed := decide (s.lastAudienceEventDigest = some event.facts)
    if !eventReplayed && !channel.audiencePublished then (s, none)
    else
      let s := if eventReplayed then s else
        { s with
          audienceEvents := s.audienceEvents ++ [event]
          lastAudienceEventDigest := some event.facts }
      if s.lastAudienceAdmissionDigest ≠ some event.facts ∧ ¬channel.audienceAdmitted then (s, none)
      else ({ s with lastAudienceAdmissionDigest := some event.facts }, some !eventReplayed)

inductive Finished
  | failed
  | nothing
  | completed (key : PublicationKey)

def Finished.key : Finished → Option PublicationKey
  | .completed key => some key
  | _ => none

def completePublication (s : Committer) (pending : PendingPublication) : Committer :=
  { s with
    lastCommittedKey := some pending.key
    lastAudienceProjection := some pending.audienceProjection
    lastSnapshot := some pending.snapshot
    lastOperationProjection := some pending.projection
    pendingPublication := none }

def finishPendingPublication (s : Committer) (channel : Channel) : Committer × Finished :=
  match s.pendingPublication with
  | none => (s, .nothing)
  | some pending =>
    match emitCatalogPublicationEvent s pending channel.catalogPublished with
    | none => (s, .failed)
    | some announced =>
      match emitAudiencePublicationEvent announced pending.audienceProjection channel with
      | (emitted, none) => (emitted, .failed)
      | (emitted, some _) => (completePublication emitted pending, .completed pending.key)

/-- Where a call fails. Only a `publication` fails after its own snapshot was finalized; a refresh
fails in its `audiencePublication`. -/
inductive Failure
  | projection
  | pendingPublication
  | revisionConflict
  | registryReplacement
  | revisionDisagreement
  | platformUnavailable
  | platformReplacement
  | catalogIncomplete
  | audience
  | finalization
  | publication
  | audiencePublication

inductive Outcome
  | failed (failure : Failure)
  | committed
  | unchanged
  | stale (authoritativeRevision : Int)
  | unavailable
  | refreshed (emitted : Bool) (audienceRevision : Nat)

/-- The registry and the platform come back as they were captured; without a platform nothing of
it had changed. -/
def rollbackPair (s prior : Committer) : Committer :=
  { s with
    registry := prior.registry
    platform := prior.platform
    lastAudienceProjection := prior.lastAudienceProjection }

def compileCurrentAudience (env : CatalogEnv) (s : Committer) (snapshot : Snapshot)
    (sources : AudienceSources) : Option AudienceProjection :=
  compileAudienceProjection env snapshot (sources.baseOperations ++ s.platform.operations) sources
    s.lastAudienceProjection

/-- What the collaborators answer to a commit: `pending` to the publication it finds, `own` to the
one it makes. -/
structure CommitAnswers where
  pending : Channel
  indexed : Bool
  platformAvailable : Bool
  applied : Bool
  catalogFingerprint : String
  catalogOperationIds : List String
  sources : AudienceSources
  finalized : Bool
  own : Channel

def replacePair (env : CatalogEnv) (prior : Committer) (snapshot : Snapshot)
    (projection : OperationProjection) (answers : CommitAnswers) : Committer × Option Failure :=
  match replaceFromManifestSnapshot env prior.registry snapshot answers.indexed with
  | none => (prior, some .registryReplacement)
  | some (registry, gatewayDiff) =>
    let s := { prior with registry := registry }
    if gatewayDiff.setRevision ≠ projection.sourceRevision ∨
        gatewayDiff.setDigest ≠ projection.sourceDigest then
      (rollbackPair s prior, some .revisionDisagreement)
    else if ¬answers.platformAvailable then (rollbackPair s prior, some .platformUnavailable)
    else match replaceUpstreamOperations s.platform projection answers.applied with
      | none => (rollbackPair s prior, some .platformReplacement)
      | some platform =>
        let s := { s with platform := platform }
        if projection.operations.any fun operation =>
            operation.id ∉ answers.catalogOperationIds then
          (rollbackPair s prior, some .catalogIncomplete)
        else match compileCurrentAudience env s snapshot answers.sources with
          | none => (rollbackPair s prior, some .audience)
          | some audience =>
            if ¬answers.finalized then (rollbackPair s prior, some .finalization)
            else
              let pending : PendingPublication :=
                { key := publicationKey snapshot
                  snapshot := snapshot
                  projection := projection
                  gatewayDiff := gatewayDiff
                  audienceProjection := audience
                  catalogFingerprint := answers.catalogFingerprint }
              ({ s with
                pendingPublication := some pending
                accepted := s.accepted ++ [snapshot] }, none)

def commitManifestSnapshotNow (env : CatalogEnv) (s : Committer) (snapshot : Snapshot)
    (answers : CommitAnswers) : Committer × Outcome :=
  match compileUpstreamOperationProjection env snapshot with
  | none => (s, .failed .projection)
  | some projection =>
    let nextKey := publicationKey snapshot
    match finishPendingPublication s answers.pending with
    | (s, .failed) => (s, .failed .pendingPublication)
    | (s, finished) =>
      if finished.key = some nextKey then (s, .committed)
      else if s.lastCommittedKey = some nextKey then (s, .unchanged)
      else if s.registry.sourceRevision = snapshot.setRevision ∧
          s.registry.sourceDigest ≠ "" ∧ s.registry.sourceDigest ≠ snapshot.setDigest then
        (s, .failed .revisionConflict)
      else if snapshot.setRevision < s.registry.sourceRevision then
        (s, .stale s.registry.sourceRevision)
      else match replacePair env s snapshot projection answers with
        | (s, some failure) => (s, .failed failure)
        | (s, none) =>
          match finishPendingPublication s answers.own with
          | (s, .failed) => (s, .failed .publication)
          | (s, _) => (s, .committed)

structure RefreshAnswers where
  pending : Channel
  platformAvailable : Bool
  sources : AudienceSources
  own : Channel

def refreshAudienceProjectionNow (env : CatalogEnv) (s : Committer)
    (answers : RefreshAnswers) : Committer × Outcome :=
  match finishPendingPublication s answers.pending with
  | (s, .failed) => (s, .failed .pendingPublication)
  | (s, _) =>
    match s.lastSnapshot, s.lastOperationProjection, answers.platformAvailable with
    | some snapshot, some _, true =>
      match compileCurrentAudience env s snapshot answers.sources with
      | none => (s, .failed .audience)
      | some audience =>
        match emitAudiencePublicationEvent s audience answers.own with
        | (s, none) => (s, .failed .audiencePublication)
        | (s, some emitted) =>
          ({ s with lastAudienceProjection := some audience },
            .refreshed emitted audience.audienceRevision)
    | _, _, _ => (s, .unavailable)

inductive Call
  | commit (snapshot : Snapshot) (answers : CommitAnswers)
  | refresh (answers : RefreshAnswers)

def settle (env : CatalogEnv) (s : Committer) : Call → Committer × Outcome
  | .commit snapshot answers => commitManifestSnapshotNow env s snapshot answers
  | .refresh answers => refreshAudienceProjectionNow env s answers

def settleAll (env : CatalogEnv) (s : Committer) (calls : List Call) : Committer :=
  calls.foldl (fun s call => (settle env s call).1) s

end LicoMesh.UpstreamCatalog
