import LicoMesh.UpstreamCatalog.Publications

namespace LicoMesh.UpstreamCatalog

open Library.VersionFeed List Committer

variable {platform : Platform} {projection : OperationProjection} {applied : Bool}
  {env : CatalogEnv} {services : List (String × ServiceEntry)} {s : Committer}

def acceptSnapshot (s : Committer) (snapshot : Snapshot) (platform : Platform)
    (pending : PendingPublication) : Committer :=
  { s with
    registry := ⟨snapshot.setRevision, snapshot.setDigest, snapshot.serviceEntries⟩
    platform := platform
    pendingPublication := some pending
    accepted := s.accepted ++ [snapshot] }

theorem replacePair_cases (env : CatalogEnv) (s : Committer) (snapshot : Snapshot)
    (projection : OperationProjection) (answers : CommitAnswers) :
    (∃ failure, replacePair env s snapshot projection answers = (s, some failure)) ∨
    ∃ platform pending,
      replaceUpstreamOperations s.platform projection answers.applied = some platform ∧
      pending.key = publicationKey snapshot ∧ pending.snapshot = snapshot ∧
      pending.projection = projection ∧
      Succeeds s.lastAudienceProjection pending.audienceProjection ∧
      replacePair env s snapshot projection answers =
        (acceptSnapshot s snapshot platform pending, none) := by
  unfold replacePair
  split
  next => exact .inl ⟨_, rfl⟩
  next registry gatewayDiff replaced =>
    obtain ⟨-, isReplaced⟩ := Option.ite_none_right_eq_some.mp replaced
    obtain ⟨rfl, rfl⟩ := Prod.mk.inj (Option.some.inj isReplaced)
    dsimp only
    split
    next => exact .inl ⟨_, rfl⟩
    next =>
      split
      next => exact .inl ⟨_, rfl⟩
      next =>
        split
        next => exact .inl ⟨_, rfl⟩
        next platform isPlatform =>
          split
          next => exact .inl ⟨_, rfl⟩
          next =>
            split
            next => exact .inl ⟨_, rfl⟩
            next audience isAudience =>
              split
              next => exact .inl ⟨_, rfl⟩
              next =>
                refine .inr ⟨platform, _, isPlatform, rfl, rfl, rfl, ?_, rfl⟩
                exact compileAudienceProjection_succeeds isAudience

theorem replaceUpstreamOperations_cases {next : Platform}
    (replaced : replaceUpstreamOperations platform projection applied = some next) :
    0 ≤ projection.sourceRevision ∧ ((projection.sourceRevision = platform.sourceRevision ∧
        projection.sourceDigest = platform.sourceDigest) ∨
      (platform.sourceRevision < projection.sourceRevision ∧
        next = ⟨projection.sourceRevision, projection.sourceDigest, projection.operations⟩)) := by
  simp only [replaceUpstreamOperations] at replaced
  split_ifs at replaced with backward same conflict isApplied
  · exact ⟨by omega, .inl ⟨same, not_not.mp conflict⟩⟩
  · exact ⟨by omega, Or.inr ⟨by omega, (Option.some.inj replaced).symm⟩⟩

section

variable (settled : Settled env services s) (isIdle : s.pendingPublication = none)
  (compiled : compileUpstreamOperationProjection env snapshot = some projection)
  (fresh : s.lastCommittedKey ≠ some (publicationKey snapshot))
  (replaced : replaceUpstreamOperations s.platform projection applied = some platform)
include settled isIdle compiled fresh replaced

theorem Settled.newer : (∀ earlier ∈ s.accepted, earlier.setRevision < snapshot.setRevision) ∧
      platform = ⟨snapshot.setRevision, snapshot.setDigest, projection.operations⟩ := by
  obtain ⟨sourceRevision, sourceDigest⟩ := compileUpstreamOperationProjection_source compiled
  obtain ⟨natural, outcome⟩ := replaceUpstreamOperations_cases replaced
  rw [sourceRevision, sourceDigest] at outcome
  have same := settled.sameRevision
  have latest := settled.latest
  simp only [SameRevision, acceptedSnapshot, isIdle] at same latest
  cases isLast : s.lastSnapshot with
  | none =>
    rw [isLast] at same latest
    rw [getLast?_eq_none_iff.mp latest]
    rw [same.2] at outcome
    rcases outcome with ⟨equal, -⟩ | ⟨-, applied⟩
    · rw [sourceRevision, equal] at natural
      exact absurd natural (by decide)
    · exact ⟨fun _ mem => (by cases mem), applied⟩
  | some last =>
    rw [isLast] at same latest
    obtain ⟨-, _, -, isPlatform⟩ := same
    rw [isPlatform] at outcome
    rcases outcome with ⟨equalRevision, equalDigest⟩ | ⟨newer, applied⟩
    · refine absurd ?_ fresh
      rw [settled.committedKey, isLast]
      exact congrArg some (Prod.ext equalRevision.symm equalDigest.symm)
    · refine ⟨?_, applied⟩
      obtain ⟨init, accepted⟩ := getLast?_eq_some_iff.mp latest
      have increasing := settled.increasing
      rw [accepted, map_append, pairwise_append] at increasing
      intro earlier mem
      rw [accepted] at mem
      rcases mem_append.mp mem with before | isLatest
      · exact (increasing.2.2 _ (mem_map_of_mem before) _ (mem_singleton_self _)).trans
          newer
      · exact mem_singleton.mp isLatest ▸ newer

theorem Settled.accept
    (key : pending.key = publicationKey snapshot) (isSnapshot : pending.snapshot = snapshot) :
    Settled env services (acceptSnapshot s snapshot platform pending) := by
  obtain ⟨newer, isPlatform⟩ := settled.newer isIdle compiled fresh replaced
  have announced : s.announcedKeys = s.acceptedKeys := by
    have announced := settled.announced
    simp only [Announced, isIdle] at announced
    exact announced
  have unpublished : s.lastPublishedEventDigest ≠ some pending.facts := by
    intro isFacts
    have out := settled.published _ isFacts
    rw [announced] at out
    obtain ⟨earlier, mem, sameKey⟩ := mem_map.mp out
    have sameRevision : earlier.setRevision = pending.snapshot.setRevision :=
      congrArg Prod.fst sameKey
    exact absurd sameRevision (isSnapshot ▸ (newer earlier mem).ne)
  constructor
  case sameRevision =>
    simp only [SameRevision, acceptedSnapshot, acceptSnapshot, isSnapshot]
    exact ⟨trivial, projection, compiled, isPlatform⟩
  case committedKey => exact settled.committedKey
  case pendingKey =>
    rintro _ ⟨⟩
    rw [key, isSnapshot]
  case latest =>
    simp only [acceptedSnapshot, acceptSnapshot, isSnapshot, getLast?_concat]
  case increasing =>
    simp only [acceptSnapshot, map_append, pairwise_append, map_singleton]
    refine ⟨settled.increasing, pairwise_singleton _ _, ?_⟩
    intro revision mem later isLater
    obtain ⟨earlier, hmem, rfl⟩ := mem_map.mp mem
    exact mem_singleton.mp isLater ▸ newer earlier hmem
  case announced =>
    refine .inr ⟨unpublished, ?_⟩
    simp only [acceptedKeys, acceptSnapshot, map_append, map_singleton, dropLast_concat]
    exact announced
  case published => exact settled.published

end

theorem AudienceFeed.follow (feed : AudienceFeed s) (isIdle : s.pendingPublication = none)
    (succeeds : Succeeds s.lastAudienceProjection audience) :
    Upto AudienceEvent.audienceRevision AudienceEvent.projectionDigest s.audienceEvents
      audience.audienceRevision (some audience.projectionDigest) := by
  unfold AudienceFeed at feed
  simp only [acceptedAudience, isIdle] at feed
  cases isReplayed : audience.replayed with
  | true =>
    obtain ⟨prior, isPrior, sameRevision, sameDigest⟩ := succeeds.replay isReplayed
    rw [isPrior] at feed
    rw [sameRevision, sameDigest]
    exact feed
  | false =>
    refine feed.advance ?_ _
    rw [succeeds.advance isReplayed]
    exact Nat.lt_succ_self _

end LicoMesh.UpstreamCatalog
