import LicoMesh.ServiceManifest.Runs

namespace LicoMesh.ServiceManifest

open Library Transaction Database WorkQueue

variable {later db : Database} {row : RequestRow} {env : ManifestEnv}
  {context : ManifestTransactionContext} {input : ManifestCommitInput} {clock : CommitClock}

theorem requests_pruneVersions (rows : List VersionRow) (db : Database) :
    (rows.foldl pruneVersion db).requests = db.requests ∧
      (rows.foldl pruneVersion db).nextSequence = db.nextSequence ∧
        (rows.foldl pruneVersion db).services = db.services ∧
          (rows.foldl pruneVersion db).metadata = db.metadata := by
  induction rows generalizing db with
  | nil => exact ⟨rfl, rfl, rfl, rfl⟩
  | cons row rest induction =>
    obtain ⟨requests, sequence, services, metadata⟩ := induction (db.pruneVersion row)
    obtain ⟨sameRequests, sameSequence⟩ := requests_pruneVersion db row
    exact ⟨requests.trans sameRequests, sequence.trans sameSequence,
      services.trans (services_pruneVersion db row),
      metadata.trans (metadata_pruneVersion db row)⟩

structure Sound (db : Database) : Prop where
  versioned : Versioned db
  counted : Counted db

theorem sound_initial (emptySetDigest : Sha256Digest) : Sound (.initial emptySetDigest) :=
  ⟨versioned_initial emptySetDigest, counted_initial emptySetDigest⟩

theorem Sound.step (sound : Sound db) (call : Call) : Sound (db.step env call) := by
  cases call with
  | commitManifest context input clock =>
    cases outcome : db.commit env context input clock with
    | error error =>
      rw [(step_commit_error outcome).1]
      exact sound
    | ok result =>
      obtain ⟨row, -, -, -, -, same⟩ | ⟨admitted, written, pruned, applied⟩ := commit_cases outcome
      · rw [same]
        exact sound
      · exact ⟨applied.versioned sound.versioned, applied.counted sound.counted⟩
  | acknowledgePublished context pointer =>
    obtain same | acknowledged := step_acknowledge env db context pointer
    · rw [same]
      exact sound
    · rw [acknowledged]
      exact ⟨sound.versioned.acknowledge _, sound.counted.acknowledge _⟩

theorem Sound.run (sound : Sound db) (calls : List Call) : Sound (db.run env calls) := by
  refine runAll_invariant ?_ sound calls
  intro _ call holds
  exact step holds call

structure Succeeds (db later : Database) : Prop where
  nextSequence : db.nextSequence ≤ later.nextSequence
  requests : ∀ row ∈ later.requests.rows, row ∈ db.requests.rows ∨ db.nextSequence ≤ row.sequence
  candidate : db.metadata.candidate.setRevision ≤ later.metadata.candidate.setRevision
  services : later.metadata.candidate.setRevision = db.metadata.candidate.setRevision →
    later.services = db.services

theorem Succeeds.refl (db : Database) : Succeeds db db where
  nextSequence := le_refl _
  requests _ member := .inl member
  candidate := le_refl _
  services _ := rfl

theorem Succeeds.trans (first : Succeeds db middle)
    (second : Succeeds middle later) : Succeeds db later where
  nextSequence := first.nextSequence.trans second.nextSequence
  requests := by
    intro row member
    obtain kept | new := second.requests row member
    · exact first.requests row kept
    · exact .inr (first.nextSequence.trans new)
  candidate := first.candidate.trans second.candidate
  services := by
    intro same
    have before := first.candidate
    have after := second.candidate
    rw [second.services (by omega), first.services (by omega)]

theorem Applied.services
    (applied : Applied env db context input clock result admitted written pruned)
    (unchanged : result.changed = false) :
    (db.step env (.commitManifest context input clock)).services = db.services := by
  have same : admitted.unchanged input = true := by simpa [applied.returned] using unchanged
  rw [applied.next, (sameManifests_insertRequest ..).services,
    applied.prunes.sameManifests.services, applied.unchanged same]

theorem Sound.succeeds (sound : Sound db) (call : Call) : Succeeds db (db.step env call) := by
  cases call with
  | commitManifest context input clock =>
    cases outcome : db.commit env context input clock with
    | error error =>
      rw [(step_commit_error outcome).1]
      exact .refl db
    | ok result =>
      obtain ⟨row, -, -, -, -, same⟩ | ⟨admitted, written, pruned, applied⟩ := commit_cases outcome
      · rw [same]
        exact .refl db
      · have candidate := applied.candidate
        refine ⟨?_, ?_, ?_, ?_⟩
        · rw [applied.nextSequence]
          omega
        · intro row member
          obtain kept | ⟨own, -⟩ := applied.rows sound.counted member
          · exact .inl kept
          · exact .inr own.ge
        · omega
        · intro same
          apply applied.services
          cases changed : result.changed with
          | false => rfl
          | true =>
            rw [changed, if_pos rfl] at candidate
            omega
  | acknowledgePublished context pointer =>
    obtain same | acknowledged := step_acknowledge env db context pointer
    · rw [same]
      exact .refl db
    · obtain ⟨requests, sequence, services, metadata⟩ := requests_pruneVersions
        (db.obsoleteVersions db.metadata.candidate.setRevision context.budget.maxCleanupEntries)
        (db.setPublished db.metadata.candidate)
      rw [acknowledged]
      refine ⟨sequence.ge, ?_, ?_, fun _ => services⟩
      · intro row member
        rw [requests] at member
        exact .inl member
      · rw [metadata]
        exact le_refl _

theorem Sound.succeeds_run (sound : Sound db) (calls : List Call) :
    Succeeds db (db.run env calls) := by
  induction calls generalizing db with
  | nil => exact .refl db
  | cons call rest induction => exact (sound.succeeds call).trans (induction (sound.step call))

theorem assigned_cases (env : ManifestEnv) (db : Database) (call : Call) :
    (db.assigned env call = none ∧ (db.step env call).metadata.candidate.setRevision =
      db.metadata.candidate.setRevision) ∨
    db.assigned env call = some (db.metadata.candidate.setRevision + 1) ∧
      (db.step env call).metadata.candidate.setRevision =
        db.metadata.candidate.setRevision + 1 := by
  cases call with
  | commitManifest context input clock =>
    cases outcome : db.commit env context input clock with
    | error error =>
      refine .inl ⟨?_, ?_⟩
      · simp [assigned, outcome]
      · rw [(step_commit_error outcome).1]
    | ok result =>
      obtain ⟨row, -, -, -, rfl, same⟩ | ⟨admitted, written, pruned, applied⟩ :=
        commit_cases outcome
      · refine .inl ⟨?_, ?_⟩
        · simp [assigned, outcome]
        · rw [same]
      · have candidate := applied.candidate
        cases changed : result.changed with
        | false =>
          refine .inl ⟨?_, ?_⟩
          · simp [assigned, outcome, changed]
          · simpa [changed] using candidate
        | true =>
          have differs : admitted.unchanged input = false := by
            simpa [applied.returned] using changed
          have revision : result.outcome.setRevision =
              db.metadata.candidate.setRevision + 1 := by
            rw [applied.returned]
            exact applied.admits.setRevision_changed differs
          refine .inr ⟨?_, ?_⟩
          · simp [assigned, outcome, changed, revision]
          · simpa [changed] using candidate
  | acknowledgePublished context pointer =>
    refine .inl ⟨rfl, ?_⟩
    obtain same | acknowledged := step_acknowledge env db context pointer
    · rw [same]
    · rw [acknowledged, (requests_pruneVersions _ _).2.2.2]
      rfl

theorem Sound.assignedRevisions (sound : Sound db) (calls : List Call) :
    db.assignedRevisions env calls = List.range' (db.metadata.candidate.setRevision + 1)
        ((db.run env calls).metadata.candidate.setRevision -
          db.metadata.candidate.setRevision) := by
  induction calls generalizing db with
  | nil => simp [Database.assignedRevisions]
  | cons call rest induction =>
    have next : Sound (db.step env call) := sound.step call
    have later : Succeeds (db.step env call) ((db.step env call).run env rest) :=
      next.succeeds_run rest
    have tail := induction next
    rw [Database.assignedRevisions, tail]
    obtain ⟨none, same⟩ | ⟨some, next⟩ := assigned_cases env db call
    · rw [none, same]
      rfl
    · have grows := later.candidate
      rw [next] at grows ⊢
      have count : (db.run env (call :: rest)).metadata.candidate.setRevision -
          db.metadata.candidate.setRevision =
            ((db.step env call).run env rest).metadata.candidate.setRevision -
              (db.metadata.candidate.setRevision + 1) + 1 := by
        simp only [Database.run, runAll_cons] at grows ⊢
        omega
      rw [some, count, List.range'_succ]
      rfl

theorem check_eq (context : ManifestTransactionContext) (session : Session) :
    context.check session = if context.interrupts session.checks then .error .interrupted
      else .ok ((), { session with checks := session.checks + 1 }) := by
  cases interrupted : context.interrupts session.checks with
  | true => simp [ManifestTransactionContext.check, interrupted, bind, StateT.bind, get, getThe,
      MonadStateOf.get, StateT.get, Except.bind, pure, Except.pure, throw, throwThe,
      MonadExceptOf.throw, StateT.lift]
  | false => simp [ManifestTransactionContext.check, interrupted, bind, StateT.bind, get, getThe,
      MonadStateOf.get, StateT.get, Except.bind, pure, Except.pure, set, MonadStateOf.set,
      stateT_set]

theorem Counted.requestOf (counted : Counted db) (member : row ∈ db.requests.rows) :
    db.requestOf row.outcome.requestDigest = some row := by
  cases found : db.requestOf row.outcome.requestDigest with
  | none =>
    have differs := List.find?_eq_none.mp found row member
    exact absurd (by simp) differs
  | some other =>
    have present := List.mem_of_find?_eq_some found
    have same : other.outcome.requestDigest = row.outcome.requestDigest := by
      simpa using List.find?_some found
    rw [List.inj_on_of_nodup_map counted.digests present member same]

theorem Counted.commit_known (counted : Counted db) (member : row ∈ db.requests.rows)
    (same : row.outcome.requestDigest = input.requestDigest) :
    db.commit env context input clock = .error .interrupted ∨ db.commit env context input clock =
        if requestMatches row.outcome input then
          .ok { outcome := row.outcome, replayed := true, changed := false }
        else .error .replayConflict := by
  have found : db.requestOf input.requestDigest = some row := same ▸ counted.requestOf member
  have evaluated : commitManifest env context input clock { db := db } =
      if context.interrupts 0 then .error .interrupted
      else if context.interrupts 1 then .error .interrupted
      else if requestMatches row.outcome input then
        .ok ({ outcome := row.outcome, replayed := true, changed := false },
          { db := db, checks := 2 })
      else .error .replayConflict := by
    simp only [commitManifest, bind, StateT.bind, check_eq]
    cases context.interrupts 0 with
    | true => simp [Except.bind]
    | false =>
      cases second : context.interrupts 1 with
      | true => simp [second, Except.bind]
      | false =>
        cases matching : requestMatches row.outcome input with
        | true => simp [second, Except.bind, get, getThe, MonadStateOf.get, StateT.get,
            pure, Except.pure, found, require, matching, stateT_pure, StateT.bind, bind]
        | false => simp [second, Except.bind, get, getThe, MonadStateOf.get, StateT.get,
            pure, Except.pure, found, require, matching, throw, throwThe, MonadExceptOf.throw,
            StateT.lift, StateT.bind, bind]
  unfold Database.commit
  rw [evaluated]
  split
  · exact .inl rfl
  · split
    · exact .inl rfl
    · refine .inr ?_
      split <;> rfl

/-- The row that records an applied commit is still there. -/
def Retained (db later : Database) : Prop :=
  ∃ row ∈ later.requests.rows, row.sequence = db.nextSequence

theorem requestMatches_self (env : ManifestEnv) (input : ManifestCommitInput)
    (serviceRevision setRevision : Nat) (setDigest : Sha256Digest) :
    requestMatches (requestOutcome env input serviceRevision setRevision setDigest) input = true := by
  simp [requestMatches, requestOutcome]

namespace Applied

variable {result : ManifestCommitResult} {admitted : Admitted} {written pruned : Database}

section

variable (applied : Applied env db context input clock result admitted written pruned)
include applied

theorem service :
    (db.step env (.commitManifest context input clock)).services.find? input.serviceId =
      some ⟨input.serviceId, admitted.serviceRevision input, input.manifestDigest⟩ := by
  rw [applied.next, (sameManifests_insertRequest ..).services,
    applied.prunes.sameManifests.services]
  cases unchanged : admitted.unchanged input with
  | false =>
    rw [(applied.changed unchanged).services, Table.find?_set]
    exact if_pos rfl
  | true =>
    rw [applied.unchanged unchanged]
    have digest : admitted.existingService.map (·.manifestDigest) = some input.manifestDigest :=
      by simpa [Admitted.unchanged] using unchanged
    obtain ⟨row, existing, same⟩ := Option.map_eq_some_iff.mp digest
    have found : db.services.find? input.serviceId = some row :=
      applied.admits.existingService ▸ existing
    have key : row.serviceId = input.serviceId := db.services.key_of_find? found
    rw [found, ← same, ← key, Admitted.serviceRevision, if_pos unchanged,
      Admitted.actualServiceRevision, existing]
    rfl

theorem serviceRevision : admitted.serviceRevision input =
      db.serviceRevision input.serviceId + if result.changed then 1 else 0 := by
  have actual : admitted.actualServiceRevision = db.serviceRevision input.serviceId := by
    rw [Admitted.actualServiceRevision, applied.admits.existingService]
    rfl
  rw [applied.returned, Admitted.serviceRevision, actual]
  cases admitted.unchanged input <;> rfl

theorem setRevision : result.outcome.setRevision =
      (db.step env (.commitManifest context input clock)).metadata.candidate.setRevision := by
  rw [applied.candidate, applied.returned]
  cases unchanged : admitted.unchanged input with
  | true => simp [requestOutcome, Admitted.setRevision, unchanged, applied.admits.candidate]
  | false => simp [requestOutcome, Admitted.setRevision, unchanged, applied.admits.candidate]

theorem retained (sound : Sound db)
    (succeeds : Succeeds (db.step env (.commitManifest context input clock)) later)
    (member : row ∈ later.requests.rows) (sequence : row.sequence = db.nextSequence) :
    row.outcome = result.outcome := by
  obtain kept | new := succeeds.requests row member
  · obtain before | ⟨-, same⟩ := applied.rows sound.counted kept
    · have below := sound.counted.sequences row before
      omega
    · exact same
  · rw [applied.nextSequence] at new
    omega

theorem changes_once (succeeds : Succeeds (db.step env (.commitManifest context input clock)) later)
    (ok : later.commit env other input time = .ok again) : again.changed = false := by
  obtain ⟨row, -, -, -, rfl, -⟩ | ⟨admitted', written', pruned', second⟩ := commit_cases ok
  · rfl
  · have first := applied.admits.setRevision
    have current := second.admits.setRevision
    have grows := succeeds.candidate
    have candidate := applied.candidate
    have kept : later.services.find? input.serviceId =
        some ⟨input.serviceId, admitted.serviceRevision input, input.manifestDigest⟩ := by
      rw [succeeds.services (by omega)]
      exact applied.service
    have unchanged : admitted'.unchanged input = true := by
      simp [Admitted.unchanged, second.admits.existingService, kept]
    rw [second.returned, unchanged]
    rfl

end

end Applied

structure ComparesAndSets (env : ManifestEnv) (db : Database)
    (context : ManifestTransactionContext) (input : ManifestCommitInput) (clock : CommitClock) :
    Prop where
  failed : ∀ error, db.commit env context input clock = .error error →
    db.step env (.commitManifest context input clock) = db ∧
      (db.requestOf input.requestDigest = none → ExpectsCurrent db input → error.OfResources)
  replayed : ∀ result, db.commit env context input clock = .ok result → result.replayed = true →
    db.step env (.commitManifest context input clock) = db ∧ result.changed = false ∧
      ∃ row ∈ db.requests.rows, row.outcome.requestDigest = input.requestDigest ∧
        row.outcome = result.outcome
  applied : ∀ result, db.commit env context input clock = .ok result → result.replayed = false →
    ExpectsCurrent db input ∧
      (∀ row ∈ db.requests.rows, row.outcome.requestDigest ≠ input.requestDigest) ∧
        (db.step env (.commitManifest context input clock)).services.find? input.serviceId =
          some ⟨input.serviceId, result.outcome.serviceRevision, input.manifestDigest⟩ ∧
        result.outcome.serviceRevision =
          db.serviceRevision input.serviceId + (if result.changed then 1 else 0) ∧
        result.outcome.setRevision =
          db.metadata.candidate.setRevision + (if result.changed then 1 else 0)
  repeated : ∀ result, db.commit env context input clock = .ok result → result.replayed = false →
    ∀ calls, let later := (db.step env (.commitManifest context input clock)).run env calls
      (Retained db later → ∀ context' input' clock', input'.requestDigest = input.requestDigest →
          later.commit env context' input' clock' = .error .interrupted ∨
            later.commit env context' input' clock' =
              if requestMatches result.outcome input' then
                .ok { outcome := result.outcome, replayed := true, changed := false }
              else .error .replayConflict) ∧ requestMatches result.outcome input = true ∧
      ∀ context' clock' again, later.commit env context' input clock' = .ok again →
        again.changed = false

theorem Sound.comparesAndSets (sound : Sound db) (context : ManifestTransactionContext)
    (input : ManifestCommitInput) (clock : CommitClock) :
    ComparesAndSets env db context input clock := by
  constructor
  · intro error failed
    obtain ⟨same, raised⟩ := step_commit_error failed
    refine ⟨same, ?_⟩
    intro unknown expects
    exact raises_commitManifest sound.versioned unknown expects error raised
  · intro result ok replayed
    obtain ⟨row, member, digest, -, rfl, same⟩ | ⟨admitted, written, pruned, applied⟩ :=
      commit_cases ok
    · exact ⟨same, rfl, row, member, digest, rfl⟩
    · rw [applied.returned] at replayed
      cases replayed
  · intro result ok new
    obtain ⟨row, -, -, -, rfl, -⟩ | ⟨admitted, written, pruned, applied⟩ := commit_cases ok
    · cases new
    · have revision : result.outcome.serviceRevision = admitted.serviceRevision input := by
        rw [applied.returned]
        rfl
      refine ⟨applied.admits.expectsCurrent, applied.unknown, ?_, ?_, ?_⟩
      · rw [revision]
        exact applied.service
      · rw [revision]
        exact applied.serviceRevision
      · rw [applied.setRevision]
        exact applied.candidate
  · intro result ok new calls
    obtain ⟨row, -, -, -, rfl, -⟩ | ⟨admitted, written, pruned, applied⟩ := commit_cases ok
    · cases new
    · have next : Sound (db.step env (.commitManifest context input clock)) := sound.step _
      have succeeds : Succeeds (db.step env (.commitManifest context input clock))
          ((db.step env (.commitManifest context input clock)).run env calls) :=
        next.succeeds_run calls
      have matching : requestMatches result.outcome input = true := by
        rw [applied.returned]
        exact requestMatches_self ..
      refine ⟨?_, matching, ?_⟩
      · rintro ⟨row, member, sequence⟩ context' input' clock' digest
        have same := applied.retained sound succeeds member sequence
        have key : row.outcome.requestDigest = input'.requestDigest := by
          rw [same, digest, applied.returned]
          rfl
        rw [← same]
        exact (next.run calls).counted.commit_known member key
      · intro context' clock' again answer
        exact applied.changes_once succeeds answer

def emptySetDigest : Sha256Digest :=
  digestOfHex "4f53cda18c2baa0c0354bb5f9a3ecbe5ed12ab4d8e11ba873c2f11161202b945"

/-- No decision of the store depends on the digests it computes. -/
def sampleEnv : ManifestEnv where
  sha256 := fun _ => emptySetDigest

def sampleContext (maxServices : Nat) : ManifestTransactionContext where
  budget :=
    { maxServices := maxServices
      maxRequestRecords := 1
      maxRequestBytes := 4096
      maxReadBytes := 4096
      maxWriteBytes := 4096
      maxCleanupEntries := 4 }
  interrupts := fun _ => false

def sampleClock : CommitClock := ⟨0, 0⟩

def firstManifest : ManifestCommitInput where
  serviceId := "svc"
  expectedServiceRevision := 0
  expectedSetRevision := 0
  manifestBytes := "\x7b\x7d".toUTF8.data.toList
  manifestDigest := digestOfHex "44136fa355b3678a1146ad16f7e8649e94fb4fc21fe77e8310c060f61caaff8a"
  requestDigest := digestOfHex "82f3e9c695dc6b8d1b11818d5701919e286de8d47f7c3eb3100c485f79e57828"

def sameManifest : ManifestCommitInput :=
  { firstManifest with
    expectedServiceRevision := 1
    expectedSetRevision := 1
    requestDigest := digestOfHex "db77fd01af957221a4989b64b3770a83a3c56068405b9f0e9408feae57fd17e4" }

def thirdRequest : Sha256Digest :=
  digestOfHex "e49d63b2a8a78f048bafc4b4590029603a5a4165ee8bf98af15d62f24cd83479"

def answers (db : Database) : List ManifestCommitInput → List (Except ManifestError Bool)
  | [] => []
  | input :: rest =>
    match commitManifest sampleEnv (sampleContext 1) input sampleClock { db := db } with
    | .ok (result, next) => .ok result.replayed :: answers next.db rest
    | .error error => .error error :: answers db rest

end LicoMesh.ServiceManifest
