import LicoMesh.UpstreamCatalog.Revisions

namespace LicoMesh.UpstreamCatalog

open Library.VersionFeed

variable {env : CatalogEnv} {services : List (String × ServiceEntry)} {s : Committer}

theorem commitManifestSnapshotNow_cases (env : CatalogEnv) (s : Committer) (snapshot : Snapshot)
    (answers : CommitAnswers) :
    let finished := (finishPendingPublication s answers.pending).1
    let result := commitManifestSnapshotNow env s snapshot answers
    (∃ failure, result = (s, .failed failure)) ∨
    (∃ failure, result = (finished, .failed failure)) ∨
    (finished.pendingPublication = none ∧ result.1 = finished) ∨
    ∃ projection platform pending, finished.pendingPublication = none ∧
      compileUpstreamOperationProjection env snapshot = some projection ∧
      finished.lastCommittedKey ≠ some (publicationKey snapshot) ∧
      replaceUpstreamOperations finished.platform projection answers.applied = some platform ∧
      pending.key = publicationKey snapshot ∧ pending.snapshot = snapshot ∧
      Succeeds finished.lastAudienceProjection pending.audienceProjection ∧
      ∃ published, published = finishPendingPublication
          (acceptSnapshot finished snapshot platform pending) answers.own ∧
        ((published.2 = .failed ∧ result = (published.1, .failed .publication)) ∨
          (published.1.pendingPublication = none ∧ result = (published.1, .committed))) := by
  intro finished result
  have isResult : commitManifestSnapshotNow env s snapshot answers = result := rfl
  unfold commitManifestSnapshotNow at isResult
  split at isResult
  next => exact .inl ⟨_, isResult.symm⟩
  next projection compiled =>
    have done := finishPendingPublication_done s answers.pending
    split at isResult
    next failedState failed =>
      refine .inr (.inl ⟨.pendingPublication, ?_⟩)
      rw [← isResult, show finished = failedState by simp only [finished, failed]]
    next idle outcome notFailed isFinished =>
      rw [isFinished] at done
      have isIdle : finished = idle := by simp only [finished, isFinished]
      have noPending : finished.pendingPublication = none := isIdle ▸ done.resolve_left notFailed
      rw [← isIdle] at isResult
      dsimp only at isResult
      split_ifs at isResult with completed unchanged
      · exact .inr (.inr (.inl ⟨noPending, by rw [← isResult]⟩))
      · exact .inr (.inr (.inl ⟨noPending, by rw [← isResult]⟩))
      · exact .inr (.inl ⟨_, isResult.symm⟩)
      · exact .inr (.inr (.inl ⟨noPending, by rw [← isResult]⟩))
      · rcases replacePair_cases env finished snapshot projection answers with
          ⟨failure, refused⟩ | ⟨platform, pending, replaced, key, isSnapshot, -, succeeds,
            accepted⟩
        · rw [refused] at isResult
          exact .inr (.inl ⟨failure, isResult.symm⟩)
        · rw [accepted] at isResult
          refine .inr (.inr (.inr ⟨projection, platform, pending, noPending, compiled,
            unchanged, replaced, key, isSnapshot, succeeds, _, rfl, ?_⟩))
          dsimp only at isResult
          have published := finishPendingPublication_done
            (acceptSnapshot finished snapshot platform pending) answers.own
          split at isResult
          next failed => exact .inl (by rw [failed]; exact ⟨rfl, isResult.symm⟩)
          next notFailed isPublished =>
            rw [isPublished] at published ⊢
            exact .inr ⟨published.resolve_left notFailed, isResult.symm⟩

theorem refreshAudienceProjectionNow_cases (env : CatalogEnv) (s : Committer)
    (answers : RefreshAnswers) :
    let finished := (finishPendingPublication s answers.pending).1
    let result := refreshAudienceProjectionNow env s answers
    (∃ failure, result = (finished, .failed failure)) ∨
    (finished.pendingPublication = none ∧ result = (finished, .unavailable)) ∨
    ∃ audience emitted, finished.pendingPublication = none ∧
      Succeeds finished.lastAudienceProjection audience ∧
      emitted = emitAudiencePublicationEvent finished audience answers.own ∧
      ((emitted.2 = none ∧ result = (emitted.1, .failed .audiencePublication)) ∨
        ∃ isEmitted, result = ({ emitted.1 with lastAudienceProjection := some audience },
          .refreshed isEmitted audience.audienceRevision)) := by
  intro finished result
  have isResult : refreshAudienceProjectionNow env s answers = result := rfl
  unfold refreshAudienceProjectionNow at isResult
  have done := finishPendingPublication_done s answers.pending
  split at isResult
  next failedState failed =>
    refine .inl ⟨.pendingPublication, ?_⟩
    rw [← isResult, show finished = failedState by simp only [finished, failed]]
  next idle outcome notFailed isFinished =>
    rw [isFinished] at done
    have isIdle : finished = idle := by simp only [finished, isFinished]
    have noPending : finished.pendingPublication = none := isIdle ▸ done.resolve_left notFailed
    rw [← isIdle] at isResult
    split at isResult
    next =>
      split at isResult
      next => exact .inl ⟨_, isResult.symm⟩
      next audience compiled =>
        refine .inr (.inr ⟨audience, _, noPending,
          compileAudienceProjection_succeeds compiled, rfl, ?_⟩)
        split at isResult
        next refused => exact .inl (by rw [refused]; exact ⟨rfl, isResult.symm⟩)
        next isEmitted emission => exact .inr (by rw [emission]; exact ⟨_, isResult.symm⟩)
    next => exact .inr (.inl ⟨noPending, isResult.symm⟩)

theorem Keeps.trans (first : Keeps s middle) (second : Keeps middle next)
    (isIdle : middle.pendingPublication = none) : Keeps s next where
  registry := second.registry.trans first.registry
  platform := second.platform.trans first.platform
  accepted := second.accepted.trans first.accepted
  acceptedSnapshot := second.acceptedSnapshot.trans first.acceptedSnapshot
  acceptedAudience := second.acceptedAudience.trans first.acceptedAudience
  lastAudienceProjection := fun wasIdle =>
    (second.lastAudienceProjection isIdle).trans (first.lastAudienceProjection wasIdle)

/-- How a call ends: what a failure before the acceptance of a snapshot leaves alone, and what is
announced after a success. -/
structure CallSettles (s : Committer) (result : Committer × Outcome) : Prop where
  kept : ∀ failure, result.2 = .failed failure → failure ≠ .publication → Keeps s result.1
  announced : (∀ failure, result.2 ≠ .failed failure) →
    result.1.announcedKeys = result.1.acceptedKeys
  extended : s.accepted <+: result.1.accepted

variable (settled : Settled env services s)

include settled in
theorem Settled.announced_of_idle
    (isIdle : s.pendingPublication = none) : s.announcedKeys = s.acceptedKeys := by
  have announced := settled.announced
  simp only [Announced, isIdle] at announced
  exact announced

theorem CallSettles.of_keeps (keeps : Keeps s result.1)
    (announced : (∀ failure, result.2 ≠ .failed failure) →
      result.1.announcedKeys = result.1.acceptedKeys) : CallSettles s result :=
  ⟨fun _ _ _ => keeps, announced, keeps.accepted ▸ List.prefix_rfl⟩

include settled

theorem Settled.commit (snapshot : Snapshot) (answers : CommitAnswers) :
    Settled env services (commitManifestSnapshotNow env s snapshot answers).1 ∧
      CallSettles s (commitManifestSnapshotNow env s snapshot answers) := by
  have keeps := finishPendingPublication_keeps s answers.pending
  have finished := settled.finish answers.pending
  rcases commitManifestSnapshotNow_cases env s snapshot answers with
    ⟨failure, result⟩ | ⟨failure, result⟩ | ⟨isIdle, result⟩ |
    ⟨projection, platform, pending, isIdle, compiled, fresh, replaced, key, isSnapshot, succeeds,
      _, rfl, outcome⟩
  · rw [result]
    exact ⟨settled, .of_keeps (.refl s) fun success => absurd rfl (success failure)⟩
  · rw [result]
    exact ⟨finished, .of_keeps keeps fun success => absurd rfl (success failure)⟩
  · refine ⟨result ▸ finished, .of_keeps (result ▸ keeps) fun _ => ?_⟩
    rw [result]
    exact finished.announced_of_idle isIdle
  · have accepted := finished.accept isIdle compiled fresh replaced key isSnapshot
    have published := accepted.finish answers.own
    have more := (finishPendingPublication_keeps
      (acceptSnapshot (finishPendingPublication s answers.pending).1 snapshot platform pending)
      answers.own).accepted
    have extended : s.accepted <+: (finishPendingPublication (acceptSnapshot
        (finishPendingPublication s answers.pending).1 snapshot platform pending)
        answers.own).1.accepted := by
      rw [more]
      exact keeps.accepted ▸ List.prefix_append _ _
    rcases outcome with ⟨-, result⟩ | ⟨idle, result⟩
    · rw [result]
      refine ⟨published, ?_, fun success => absurd rfl (success .publication), extended⟩
      rintro failure ⟨⟩ other
      exact absurd rfl other
    · rw [result]
      exact ⟨published, nofun, fun _ => published.announced_of_idle idle, extended⟩

theorem Settled.refresh (answers : RefreshAnswers) :
    Settled env services (refreshAudienceProjectionNow env s answers).1 ∧
      CallSettles s (refreshAudienceProjectionNow env s answers) := by
  have keeps := finishPendingPublication_keeps s answers.pending
  have finished := settled.finish answers.pending
  rcases refreshAudienceProjectionNow_cases env s answers with
    ⟨failure, result⟩ | ⟨isIdle, result⟩ | ⟨audience, _, isIdle, -, rfl, outcome⟩
  · rw [result]
    exact ⟨finished, .of_keeps keeps fun success => absurd rfl (success failure)⟩
  · rw [result]
    exact ⟨finished, .of_keeps keeps fun _ => finished.announced_of_idle isIdle⟩
  · have frame := emitAudiencePublicationEvent_frame
      (finishPendingPublication s answers.pending).1 audience answers.own
    have emitted : Settled env services (emitAudiencePublicationEvent
        (finishPendingPublication s answers.pending).1 audience answers.own).1 :=
      finished.congr (by rw [frame])
    rcases outcome with ⟨-, result⟩ | ⟨isEmitted, result⟩
    · rw [result]
      refine ⟨emitted, .of_keeps (keeps.trans ?_ isIdle) fun success => absurd rfl (success _)⟩
      rw [frame]
      exact ⟨rfl, rfl, rfl, rfl, rfl, fun _ => rfl⟩
    · rw [result]
      have refreshed : Settled env services { (emitAudiencePublicationEvent
          (finishPendingPublication s answers.pending).1 audience answers.own).1 with
            lastAudienceProjection := some audience } := emitted.congr rfl
      refine ⟨refreshed, nofun, fun _ => refreshed.announced_of_idle ?_, ?_⟩
      · rw [frame]; exact isIdle
      · rw [frame]; exact keeps.accepted ▸ List.prefix_rfl

omit settled

/-- `onAudiencePublished` takes the audience that a refresh has just published. -/
def Call.Admitted : Call → Prop
  | .commit .. => True
  | .refresh answers => answers.own.audiencePublished = true → answers.own.audienceAdmitted = true

theorem AudienceFeed.commit (feed : AudienceFeed s) (snapshot : Snapshot)
    (answers : CommitAnswers) :
    AudienceFeed (commitManifestSnapshotNow env s snapshot answers).1 := by
  have finished := feed.finish answers.pending
  rcases commitManifestSnapshotNow_cases env s snapshot answers with
    ⟨failure, result⟩ | ⟨failure, result⟩ | ⟨isIdle, result⟩ |
    ⟨projection, platform, pending, isIdle, compiled, fresh, replaced, key, isSnapshot, succeeds,
      _, rfl, outcome⟩
  · rw [result]; exact feed
  · rw [result]; exact finished
  · rw [result]; exact finished
  · have accepted : AudienceFeed (acceptSnapshot (finishPendingPublication s answers.pending).1
        snapshot platform pending) := finished.follow isIdle succeeds
    rcases outcome with ⟨-, result⟩ | ⟨-, result⟩
    · rw [result]; exact accepted.finish answers.own
    · rw [result]; exact accepted.finish answers.own

theorem AudienceFeed.refresh (feed : AudienceFeed s) (answers : RefreshAnswers)
    (admitted : Call.Admitted (.refresh answers)) :
    AudienceFeed (refreshAudienceProjectionNow env s answers).1 := by
  have finished := feed.finish answers.pending
  rcases refreshAudienceProjectionNow_cases env s answers with
    ⟨failure, result⟩ | ⟨isIdle, result⟩ | ⟨audience, emitted, isIdle, succeeds, isEmission,
      outcome⟩
  · rw [result]; exact finished
  · rw [result]; exact finished
  · rcases outcome with ⟨refused, result⟩ | ⟨isEmitted, result⟩
    · rw [result]
      have unchanged : emitted.1 = (finishPendingPublication s answers.pending).1 :=
        emitAudiencePublicationEvent_refused admitted (by rw [← isEmission, ← refused])
      rw [unchanged]
      exact finished
    · rw [result]
      have frame := emitAudiencePublicationEvent_frame
        (finishPendingPublication s answers.pending).1 audience answers.own
      have events := emitAudiencePublicationEvent_events
        (finishPendingPublication s answers.pending).1 audience answers.own
      rw [← isEmission] at frame events
      have follows := finished.follow isIdle succeeds
      have idle : emitted.1.pendingPublication = none := by rw [frame]; exact isIdle
      simp only [idle]
      rcases events with same | more
      · rw [same]; exact follows
      · rw [more]; exact follows.publish rfl rfl

theorem Settled.initial (env : CatalogEnv) (services : List (String × ServiceEntry)) :
    Settled env services (initialCommitter services) :=
  ⟨⟨rfl, rfl⟩, rfl, fun _ isPending => absurd isPending.symm (Option.some_ne_none _), rfl,
    List.Pairwise.nil, rfl, fun _ published => absurd published.symm (Option.some_ne_none _)⟩

include settled in
theorem Settled.run (calls : List Call) : Settled env services (settleAll env s calls) := by
  induction calls generalizing s with
  | nil => exact settled
  | cons call rest ih =>
    cases call with
    | commit snapshot answers => exact ih (settled.commit snapshot answers).1
    | refresh answers => exact ih (settled.refresh answers).1

theorem AudienceFeed.run (feed : AudienceFeed s) (calls : List Call)
    (admitted : ∀ call ∈ calls, call.Admitted) : AudienceFeed (settleAll env s calls) := by
  induction calls generalizing s with
  | nil => exact feed
  | cons call rest ih =>
    obtain ⟨first, others⟩ := List.forall_mem_cons.mp admitted
    cases call with
    | commit snapshot answers => exact ih (feed.commit snapshot answers) others
    | refresh answers => exact ih (feed.refresh answers first) others

structure Published (env : CatalogEnv) (services : List (String × ServiceEntry)) (s : Committer) :
    Prop where
  sameRevision : SameRevision env services s
  sourceRevisions : (s.accepted.map (·.setRevision)).Pairwise (· ≤ ·)
  announcedOnce : s.announcedKeys.Nodup ∧ s.announcedKeys <+: s.acceptedKeys
  audienceRevisions : (s.audienceEvents.map (·.audienceRevision)).Pairwise (· ≤ ·)
  audienceContents : ∀ left ∈ s.audienceEvents, ∀ right ∈ s.audienceEvents,
    left.audienceRevision = right.audienceRevision → left.projectionDigest = right.projectionDigest

include settled

theorem Settled.acceptedKeys_nodup : s.acceptedKeys.Nodup := by
  have distinct : (s.acceptedKeys.map Prod.fst).Nodup := by
    rw [Committer.acceptedKeys, List.map_map]
    exact settled.increasing.imp fun less => less.ne
  exact distinct.of_map

theorem Settled.announced_prefix : s.announcedKeys <+: s.acceptedKeys := by
  have announced := settled.announced
  unfold Announced at announced
  split at announced
  next => exact announced ▸ List.prefix_rfl
  next =>
    rcases announced with ⟨-, all⟩ | ⟨-, allButLast⟩
    · exact all ▸ List.prefix_rfl
    · exact allButLast ▸ List.dropLast_prefix _

theorem Settled.publishes (feed : AudienceFeed s) : Published env services s where
  sameRevision := settled.sameRevision
  sourceRevisions := settled.increasing.imp Int.le_of_lt
  announcedOnce :=
    ⟨settled.announced_prefix.sublist.nodup settled.acceptedKeys_nodup, settled.announced_prefix⟩
  audienceRevisions := feed.ordered.versions
  audienceContents := fun _ hleft _ hright same => feed.ordered.content_eq hleft hright same

omit settled

/-- However the audiences fare, snapshots are accepted at increasing revisions and announced in that
order, the last one too once nothing is pending. -/
theorem run_announces (env : CatalogEnv) (services : List (String × ServiceEntry))
    (calls : List Call) :
    let s := settleAll env (initialCommitter services) calls
    SameRevision env services s ∧ (s.accepted.map (·.setRevision)).Pairwise (· < ·) ∧
      s.announcedKeys <+: s.acceptedKeys ∧
      (s.pendingPublication = none → s.announcedKeys = s.acceptedKeys) :=
  have settled := (Settled.initial env services).run calls
  ⟨settled.sameRevision, settled.increasing, settled.announced_prefix, settled.announced_of_idle⟩

/-- When the admission of a refreshed audience never fails, every run of calls leaves the catalog
published, and every call settles. -/
theorem run_published (env : CatalogEnv) (services : List (String × ServiceEntry))
    (calls : List Call) (admitted : ∀ call ∈ calls, call.Admitted) :
    Published env services (settleAll env (initialCommitter services) calls) ∧
      ∀ call, CallSettles (settleAll env (initialCommitter services) calls)
        (settle env (settleAll env (initialCommitter services) calls) call) := by
  have settled := (Settled.initial env services).run calls
  have feed : AudienceFeed (initialCommitter services) := Upto.nil
  refine ⟨settled.publishes (feed.run calls admitted), fun call => ?_⟩
  cases call with
  | commit snapshot answers => exact (settled.commit snapshot answers).2
  | refresh answers => exact (settled.refresh answers).2

def sampleEnv : CatalogEnv where
  hash := id
  localeAtMost := fun left right => decide (left ≤ right)
  fingerprintDigest := fun id _ _ => id
  partitionDigest := fun grantId _ => grantId
  serverIdentity := "meshrix"
  discovers := fun _ _ _ _ _ => ⟨true, .allowed⟩
  executes := fun _ _ _ _ _ => ⟨true, .allowed⟩

def sampleSources (policyRevision : Nat) : AudienceSources :=
  { catalogFingerprint := "catalog"
    baseOperations := []
    grants := some []
    tagStore := none
    policyRevision := policyRevision
    tagRevision := 0 }

def sampleCommit : Call :=
  .commit ⟨1, "first", []⟩
    { pending := ⟨true, true, true⟩
      indexed := true
      platformAvailable := true
      applied := true
      catalogFingerprint := "catalog"
      catalogOperationIds := []
      sources := sampleSources 0
      finalized := true
      own := ⟨true, true, true⟩ }

def sampleRefresh (policyRevision : Nat) (admitted : Bool) : Call :=
  .refresh
    { pending := ⟨true, true, true⟩
      platformAvailable := true
      sources := sampleSources policyRevision
      own := ⟨true, true, admitted⟩ }

theorem run_published_sample : Published sampleEnv [] (settleAll sampleEnv (initialCommitter [])
      [sampleCommit, sampleRefresh 1 true, sampleRefresh 2 true]) :=
  (run_published sampleEnv [] [sampleCommit, sampleRefresh 1 true, sampleRefresh 2 true]
    (List.forall_mem_cons.mpr ⟨trivial, List.forall_mem_cons.mpr ⟨fun _ => rfl,
      List.forall_mem_singleton.mpr fun _ => rfl⟩⟩)).1

/-- The second refresh publishes another audience under the revision of the first one. -/
theorem refreshed_revision_reused :
    ¬ Published sampleEnv [] (settleAll sampleEnv (initialCommitter [])
      [sampleCommit, sampleRefresh 1 false, sampleRefresh 2 true]) := by
  intro published
  have contents := published.audienceContents
  revert contents
  decide +kernel

end LicoMesh.UpstreamCatalog
