import Mathlib.Data.List.Infix
import LicoMesh.ServiceManifest.Visibility

namespace LicoMesh.ServiceManifest

open Library Transaction List WorkQueue

variable {kind : ServiceManifestKind}

inductive ServiceManifestKind
  | candidate
  | published

structure ManifestSnapshotState where
  pointer : ManifestPointer
  entries : List SnapshotEntry

def Database.pointer (db : Database) : ServiceManifestKind → ManifestPointer
  | .candidate => db.metadata.candidate
  | .published => db.metadata.published

open Database

/-- The rows of the join, `ORDER BY v.service_id`. -/
def Database.snapshotRows (db : Database) (revision : Nat) : List (VersionRow × BlobRow) :=
  ((db.visibleVersions revision).filterMap fun row =>
    (db.blobs.find? row.manifestDigest).map fun blob => (row, blob)).insertionSort
      fun a b => a.1.serviceId ≤ b.1.serviceId

section Reading

variable (sha256ManifestBytes : List UInt8 → Sha256Digest) (context : ManifestTransactionContext)

/-- `total` is what `consumeRead` has counted. -/
def readEntries : Nat → List (VersionRow × BlobRow) → Action (List SnapshotEntry)
  | _, [] => pure []
  | total, (row, blob) :: rest => do
      context.check
      require (total + blob.bytes.length ≤ context.budget.maxReadBytes) .budgetExceeded
      require (blob.bytes.length = blob.byteSize &&
        sha256ManifestBytes blob.bytes = row.manifestDigest) .contentInvalid
      let entries ← readEntries (total + blob.bytes.length) rest
      return row.entry blob :: entries

/-- `opened` is the database when the metadata is read (`none`: there is no file yet), the
session's is the one the rows are read from. -/
def readSnapshot (emptySetDigest : Sha256Digest) (kind : ServiceManifestKind)
    (opened : Option Database) : Action ManifestSnapshotState := do
  context.check
  match opened with
  | none => return { pointer := ⟨0, emptySetDigest⟩, entries := [] }
  | some db =>
    let pointer ← .check (pointerFromMeta (db.pointer kind))
    if pointer.setRevision = 0 then return { pointer := pointer, entries := [] }
    else
      let session ← get
      let rows := session.db.snapshotRows pointer.setRevision
      require (rows.length ≤ context.budget.maxServices) .budgetExceeded
      let entries ← readEntries sha256ManifestBytes context 0 rows
      return { pointer := pointer, entries := entries }

end Reading

variable {sha256ManifestBytes : List UInt8 → Sha256Digest} {context : ManifestTransactionContext}
  {session next : Session} {env : ManifestEnv} {db : Database} {revision : Nat}

theorem readEntries_commits
    (commits : (readEntries sha256ManifestBytes context total rows).Commits session entries
      next) : entries = rows.map fun row => row.1.entry row.2 := by
  induction rows generalizing total session entries next with
  | nil =>
    obtain ⟨rfl, -⟩ := commits_pure.mp commits
    rfl
  | cons row rest induction =>
    simp only [readEntries, commits_bind, commits_require, commits_pure] at commits
    obtain ⟨_, _, -, _, _, ⟨-, rfl⟩, _, _, ⟨-, rfl⟩, tail, _, read, rfl, -⟩ := commits
    rw [map_cons, induction read]

theorem mem_snapshotRows :
    (row, blob) ∈ db.snapshotRows revision ↔ (row ∈ db.versions.rows ∧ row.VisibleAt revision) ∧
      db.blobs.find? row.manifestDigest = some blob := by
  unfold snapshotRows
  rw [mem_insertionSort, mem_filterMap]
  constructor
  · rintro ⟨v, member, found⟩
    obtain ⟨stored, lookup, same⟩ := Option.map_eq_some_iff.mp found
    cases same
    exact ⟨mem_visibleVersions.mp member, lookup⟩
  · rintro ⟨member, lookup⟩
    exact ⟨row, mem_visibleVersions.mpr member, by simp [lookup]⟩

variable {snapshot : ManifestSnapshotState}

theorem readSnapshot_commits {emptySetDigest : Sha256Digest} (versioned : Versioned session.db)
    (commits : (readSnapshot sha256ManifestBytes context emptySetDigest kind (some db)).Commits
      session snapshot next) :
    snapshot.pointer = db.pointer kind ∧ ∀ entry, entry ∈ snapshot.entries ↔
      VisibleEntry session.db snapshot.pointer.setRevision entry := by
  simp only [readSnapshot, commits_bind, commits_check] at commits
  obtain ⟨_, checked, check, pointer, _, ⟨read, rfl⟩, commits⟩ := commits
  have same : checked.db = session.db := db_of_check check
  have held := pointerFromMeta_ok read
  split at commits
  · rename_i zero
    obtain ⟨rfl, -⟩ := commits_pure.mp commits
    refine ⟨held.symm, ?_⟩
    intro entry
    constructor
    · exact fun member => absurd member not_mem_nil
    · rintro ⟨v, member, ⟨starts, -⟩, -⟩
      have bounds := versioned.assigned v member
      dsimp only at starts
      omega
  · simp only [commits_bind, commits_get, commits_require, commits_pure] at commits
    obtain ⟨_, _, ⟨rfl, rfl⟩, _, _, ⟨-, rfl⟩, entries, _, reading, rfl, -⟩ := commits
    refine ⟨held.symm, ?_⟩
    intro entry
    rw [readEntries_commits reading, same, mem_map]
    constructor
    · rintro ⟨⟨row, blob⟩, member, rfl⟩
      obtain ⟨⟨present, visible⟩, found⟩ := mem_snapshotRows.mp member
      exact ⟨row, present, visible, blob, found, rfl⟩
    · rintro ⟨row, present, visible, blob, found, rfl⟩
      exact ⟨(row, blob), mem_snapshotRows.mpr ⟨⟨present, visible⟩, found⟩, rfl⟩

def IsOfRevision (env : ManifestEnv) (emptySetDigest : Sha256Digest) (before : List Call)
    (snapshot : ManifestSnapshotState) : Prop :=
  ∃ earlier, earlier <+: before ∧
    ((initial emptySetDigest).run env earlier).metadata.candidate.setRevision =
      snapshot.pointer.setRevision ∧
    ∀ entry, entry ∈ snapshot.entries ↔ ListedEntry ((initial emptySetDigest).run env earlier) entry

theorem visible_pointer (sound : Sound start) (later : List Call)
    (assigned : start.metadata.candidate.setRevision =
      ((start.run env later).pointer kind).setRevision) :
    VisibleEntry (start.run env later) ((start.run env later).pointer kind).setRevision entry ↔
      ListedEntry start entry := by
  have whole : Sound (start.run env later) := sound.run later
  have shows : Shows start.metadata.candidate.setRevision (ListedEntry start)
      (start.run env later) := sound.shows.run sound later
  rw [← assigned]
  apply shows.visible
  rw [assigned]
  cases kind with
  | candidate => exact whole.versioned.published_le
  | published => exact le_refl _

theorem pointer_le (versioned : Versioned db) (kind : ServiceManifestKind) :
    (db.pointer kind).setRevision ≤ db.metadata.candidate.setRevision := by
  cases kind with
  | candidate => exact le_refl _
  | published => exact versioned.published_le

/-- The metadata are read from the state after `before`, or there was no file yet. -/
def Opens (env : ManifestEnv) (emptySetDigest : Sha256Digest) (before : List Call)
    (opened : Option Database) : Prop :=
  opened = some ((initial emptySetDigest).run env before) ∨ before = [] ∧ opened = none

theorem snapshot_visible {emptySetDigest : Sha256Digest} {before between : List Call}
    {opened : Option Database} (opens : Opens env emptySetDigest before opened)
    (commits : (readSnapshot sha256ManifestBytes context emptySetDigest kind opened).Commits
      { db := ((initial emptySetDigest).run env before).run env between }
      snapshot next) : snapshot.pointer.setRevision =
        (((initial emptySetDigest).run env before).pointer kind).setRevision ∧
      ∀ entry, entry ∈ snapshot.entries ↔
        VisibleEntry (((initial emptySetDigest).run env before).run env between)
          snapshot.pointer.setRevision entry := by
  have sound : Sound ((initial emptySetDigest).run env before) :=
    (sound_initial emptySetDigest).run before
  have last : Sound (((initial emptySetDigest).run env before).run env between) := sound.run between
  obtain rfl | ⟨rfl, rfl⟩ := opens
  · obtain ⟨pointer, entries⟩ := readSnapshot_commits last.versioned commits
    exact ⟨by rw [pointer], entries⟩
  · simp only [readSnapshot, commits_bind, commits_pure] at commits
    obtain ⟨_, _, -, rfl, -⟩ := commits
    refine ⟨by cases kind <;> rfl, ?_⟩
    intro entry
    constructor
    · exact fun member => absurd member not_mem_nil
    · rintro ⟨v, member, ⟨starts, -⟩, -⟩
      have bounds := last.versioned.assigned v member
      dsimp only at starts
      omega

/-- A snapshot is that of its revision exactly when no acknowledgement between its two queries
deletes a version that is visible at the revision. -/
theorem snapshot_isOfRevision_iff {emptySetDigest : Sha256Digest} {before between : List Call}
    {kind : ServiceManifestKind} {opened : Option Database} {snapshot : ManifestSnapshotState}
    (opens : Opens env emptySetDigest before opened)
    (commits : (readSnapshot sha256ManifestBytes context emptySetDigest kind opened).Commits
      { db := ((initial emptySetDigest).run env before).run env between }
      snapshot next) :
    IsOfRevision env emptySetDigest before snapshot ↔ EachCommand (step env) (KeepsVisible
        (((initial emptySetDigest).run env before).pointer kind).setRevision)
          ((initial emptySetDigest).run env before) between := by
  have sound : Sound ((initial emptySetDigest).run env before) :=
    (sound_initial emptySetDigest).run before
  have low := pointer_le sound.versioned kind
  obtain ⟨reported, entries⟩ := snapshot_visible opens commits
  rw [run_keeps_visible_iff sound between low, ← reported]
  constructor
  · rintro ⟨earlier, ⟨later, rfl⟩, assigned, listed⟩ entry visible
    have start : Sound ((initial emptySetDigest).run env earlier) :=
      (sound_initial emptySetDigest).run earlier
    rw [run, runAll_append] at visible reported
    rw [← entries, listed]
    rw [reported] at visible assigned
    exact (visible_pointer start later assigned).mp visible
  · intro keeps
    have zero : (initial emptySetDigest).metadata.candidate.setRevision ≤
        snapshot.pointer.setRevision := Nat.zero_le _
    obtain ⟨earlier, later, rfl, assigned⟩ :=
      exists_assigned (initial emptySetDigest) before zero (reported ▸ low)
    have start : Sound ((initial emptySetDigest).run env earlier) :=
      (sound_initial emptySetDigest).run earlier
    refine ⟨earlier, prefix_append earlier later, assigned, ?_⟩
    intro entry
    have listed : VisibleEntry ((initial emptySetDigest).run env (earlier ++ later))
        snapshot.pointer.setRevision entry ↔
          ListedEntry ((initial emptySetDigest).run env earlier) entry := by
      rw [run, runAll_append] at reported ⊢
      rw [reported] at assigned ⊢
      exact visible_pointer start later assigned
    rw [entries, ← listed]
    constructor
    · exact run_visible_of sound between (reported ▸ low)
    · exact keeps entry

def secondManifest : ManifestCommitInput :=
  { sameManifest with
    manifestBytes := "\x7b\"v\":2\x7d".toUTF8.data.toList
    manifestDigest :=
      digestOfHex "2b5442799fccc3af2e7e790017697373913b7afcac933d72fb5876de994f659a" }

def firstPointer : ManifestPointer := ⟨1, emptySetDigest⟩

def secondPointer : ManifestPointer := ⟨2, emptySetDigest⟩

/-- The first manifest is committed and acknowledged. -/
def publishedOnce : List Call :=
  [.commitManifest (sampleContext 1) firstManifest sampleClock,
    .acknowledgePublished (sampleContext 1) firstPointer]

def publishedAgain : List Call :=
  [.commitManifest (sampleContext 1) secondManifest sampleClock,
    .acknowledgePublished (sampleContext 1) secondPointer]

def sampleManifestDigest (bytes : List UInt8) : Sha256Digest :=
  if bytes = firstManifest.manifestBytes then firstManifest.manifestDigest
  else secondManifest.manifestDigest

def samplePublished : Database := (initial emptySetDigest).run sampleEnv publishedOnce

def sampleRead : Action ManifestSnapshotState :=
  readSnapshot sampleManifestDigest (sampleContext 1) emptySetDigest .published
    (some samplePublished)

/-- What a reader of the published manifests sees when `between` runs between its queries. -/
def sampleSnapshot (between : List Call) : Except ManifestError (Nat × List SnapshotEntry) :=
  (sampleRead { db := samplePublished.run sampleEnv between }).map fun answer =>
    (answer.1.pointer.setRevision, answer.1.entries)

theorem exists_of_sampleSnapshot (read : sampleSnapshot between = .ok (revision, entries)) :
    ∃ snapshot next,
      sampleRead.Commits { db := samplePublished.run sampleEnv between } snapshot next ∧
        snapshot.pointer.setRevision = revision ∧ snapshot.entries = entries := by
  unfold sampleSnapshot at read
  cases outcome : sampleRead { db := samplePublished.run sampleEnv between } with
  | error error =>
    rw [outcome] at read
    cases read
  | ok answer =>
    obtain ⟨snapshot, next⟩ := answer
    rw [outcome] at read
    cases read
    exact ⟨snapshot, next, outcome, rfl, rfl⟩

def manifestsAfter (calls : List Call) : Nat × List Sha256Digest × List Sha256Digest :=
  let db := (initial emptySetDigest).run sampleEnv calls
  (db.metadata.candidate.setRevision, db.services.rows.map (·.manifestDigest),
    db.blobs.rows.map (·.digest))

theorem sampleSnapshot_cases : sampleSnapshot publishedAgain = .ok (1, []) ∧
    (sampleSnapshot []).map (·.1) = .ok 1 ∧ publishedOnce.inits.map manifestsAfter =
        [(0, [], []), (1, [firstManifest.manifestDigest], [firstManifest.manifestDigest]),
          (1, [firstManifest.manifestDigest], [firstManifest.manifestDigest])] := by
  decide +kernel

theorem listed_of_manifestsAfter (after : manifestsAfter calls = (revision, [digest], [digest])) :
    ∃ entry, ListedEntry ((initial emptySetDigest).run sampleEnv calls) entry := by
  have services := congrArg (fun triple => triple.2.1) after
  have blobs := congrArg (fun triple => triple.2.2) after
  obtain ⟨service, rest, rows, rfl, -⟩ := map_eq_cons_iff.mp services
  obtain ⟨blob, others, stored, same, -⟩ := map_eq_cons_iff.mp blobs
  have member : blob ∈
      ((initial emptySetDigest).run sampleEnv calls).blobs.rows := by
    rw [stored]
    exact mem_cons_self
  refine ⟨_, service, ?_, blob, ?_, rfl⟩
  · rw [rows]
    exact mem_cons_self
  · rw [← same]
    exact Library.Table.find?_of_mem _ member

theorem snapshot_isOfRevision_iff_sample :
    ∃ snapshot next, sampleRead.Commits { db := samplePublished.run sampleEnv [] } snapshot next ∧
      (IsOfRevision sampleEnv emptySetDigest publishedOnce snapshot ↔
        EachCommand (step sampleEnv) (KeepsVisible
          (samplePublished.pointer .published).setRevision) samplePublished []) := by
  obtain ⟨-, unchanged, -⟩ := sampleSnapshot_cases
  cases read : sampleSnapshot [] with
  | error error =>
    rw [read] at unchanged
    cases unchanged
  | ok answer =>
    obtain ⟨snapshot, next, commits, -⟩ := exists_of_sampleSnapshot read
    exact ⟨snapshot, next, commits, snapshot_isOfRevision_iff (.inl rfl) commits⟩

/-- The version of revision 1 is deleted between the queries. -/
theorem snapshot_torn_by_acknowledgement : ∃ snapshot next,
      sampleRead.Commits { db := samplePublished.run sampleEnv publishedAgain } snapshot next ∧
        ¬IsOfRevision sampleEnv emptySetDigest publishedOnce snapshot := by
  obtain ⟨torn, -, states⟩ := sampleSnapshot_cases
  obtain ⟨snapshot, next, commits, reported, entries⟩ := exists_of_sampleSnapshot torn
  refine ⟨snapshot, next, commits, ?_⟩
  rintro ⟨earlier, initially, assigned, listed⟩
  have state : manifestsAfter earlier ∈ publishedOnce.inits.map manifestsAfter :=
    mem_map_of_mem ((mem_inits _ _).mpr initially)
  rw [states] at state
  have revision : (manifestsAfter earlier).1 = 1 := assigned.trans reported
  have shown : manifestsAfter earlier =
      (1, [firstManifest.manifestDigest], [firstManifest.manifestDigest]) := by
    simp only [mem_cons, not_mem_nil, or_false, or_self] at state
    obtain none | one := state
    · rw [none] at revision
      cases revision
    · exact one
  obtain ⟨entry, present⟩ := listed_of_manifestsAfter shown
  have member := (listed entry).mpr present
  rw [entries] at member
  cases member

end LicoMesh.ServiceManifest
