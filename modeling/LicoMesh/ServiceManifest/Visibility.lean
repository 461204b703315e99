import LicoMesh.ServiceManifest.CompareAndSet

namespace LicoMesh.ServiceManifest

open Library Transaction WorkQueue

variable {db written : Database} {context : ManifestTransactionContext} {clock : CommitClock}
  {result : ManifestCommitResult} {input : ManifestCommitInput} {admitted : Admitted}
  {rows : List VersionRow} {v : VersionRow}

structure SnapshotEntry where
  serviceId : ServiceId
  serviceRevision : Nat
  manifestDigest : Sha256Digest
  manifestBytes : List UInt8
  deriving DecidableEq

def VersionRow.entry (row : VersionRow) (blob : BlobRow) : SnapshotEntry where
  serviceId := row.serviceId
  serviceRevision := row.serviceRevision
  manifestDigest := row.manifestDigest
  manifestBytes := blob.bytes

open VersionRow

def VersionRow.VisibleAt (row : VersionRow) (revision : Nat) : Prop :=
  row.validFromRevision ≤ revision ∧ (row.IsOpen ∨ revision < row.validToRevision)

instance (row : VersionRow) (revision : Nat) : Decidable (row.VisibleAt revision) :=
  inferInstanceAs (Decidable (_ ∧ _))

def VisibleEntry (db : Database) (revision : Nat) (entry : SnapshotEntry) : Prop :=
  ∃ v ∈ db.versions.rows, v.VisibleAt revision ∧
    ∃ blob, db.blobs.find? v.manifestDigest = some blob ∧ entry = v.entry blob

def ListedEntry (db : Database) (entry : SnapshotEntry) : Prop :=
  ∃ service ∈ db.services.rows, ∃ blob, db.blobs.find? service.manifestDigest = some blob ∧
    entry = ⟨service.serviceId, service.serviceRevision, service.manifestDigest, blob.bytes⟩

variable {env : ManifestEnv} {db : Database} {revision : Nat} {entry : SnapshotEntry}

theorem mem_visibleVersions :
    row ∈ db.visibleVersions revision ↔ row ∈ db.versions.rows ∧ row.VisibleAt revision := by
  simp [Database.visibleVersions, VisibleAt, VersionRow.IsOpen]

theorem Versioned.visible_candidate (versioned : Versioned db) :
    VisibleEntry db db.metadata.candidate.setRevision entry ↔ ListedEntry db entry := by
  constructor
  · rintro ⟨v, member, ⟨-, visible⟩, blob, found, rfl⟩
    have isOpen : v.IsOpen := by
      by_contra closed
      have ends := versioned.closed v member closed
      obtain isOpen | later := visible
      · exact closed isOpen
      · omega
    have service := versioned.opened v member isOpen
    exact ⟨_, db.services.mem_of_find? service, blob, found, rfl⟩
  · rintro ⟨service, member, blob, found, rfl⟩
    obtain ⟨v, present, isOpen, same⟩ := versioned.current service member
    have current := versioned.opened v present isOpen
    rw [same, db.services.find?_of_mem member] at current
    have row := Option.some.inj current
    have number : service.serviceRevision = v.serviceRevision :=
      congrArg ServiceRow.serviceRevision row
    have digest : service.manifestDigest = v.manifestDigest :=
      congrArg ServiceRow.manifestDigest row
    rw [digest] at found
    refine ⟨v, present, ⟨(versioned.assigned v present).2, .inl isOpen⟩, blob, found, ?_⟩
    rw [entry, same, number, digest]

theorem SameManifests.visible (same : SameManifests db other) :
    VisibleEntry other revision entry ↔ VisibleEntry db revision entry := by
  simp only [VisibleEntry, same.versions, same.blobs]

theorem visibleAt_supersede (before : revision < admitted.setRevision input) :
    (supersede input admitted u).VisibleAt revision ↔ u.VisibleAt revision := by
  unfold supersede
  split
  · rename_i superseded
    have wasOpen := superseded.2.2
    simp only [VisibleAt, wasOpen, true_or, and_true]
    constructor
    · exact fun visible => visible.1
    · exact fun starts => ⟨starts, .inr before⟩
  · exact Iff.rfl

theorem Published.visible (published : Published db env input admitted written)
    (versioned : Versioned db) (before : revision < admitted.setRevision input) :
    VisibleEntry written revision entry ↔ VisibleEntry db revision entry := by
  have blobs : ∀ u ∈ db.versions.rows,
      written.blobs.find? u.manifestDigest = db.blobs.find? u.manifestDigest := by
    intro u present
    obtain ⟨blob, found⟩ := versioned.blobs u present
    rw [published.blobs, Table.find?_insertOrIgnore]
    split
    · rename_i same
      rw [← same, found]
      rfl
    · rfl
  constructor
  · rintro ⟨v, member, visible, blob, found, rfl⟩
    obtain rfl | ⟨u, present, rfl⟩ := published.mem member
    · have starts := visible.1
      simp only [publishedVersion] at starts
      omega
    · obtain ⟨service, -, number, digest⟩ := supersede_fields input admitted u
      rw [digest, blobs u present] at found
      refine ⟨u, present, (visibleAt_supersede before).mp visible, blob, found, ?_⟩
      simp only [entry, service, number, digest]
  · rintro ⟨u, present, visible, blob, found, rfl⟩
    obtain ⟨service, -, number, digest⟩ := supersede_fields input admitted u
    refine ⟨_, published.mem_old present, (visibleAt_supersede before).mpr visible, blob, ?_, ?_⟩
    · rw [digest, blobs u present]
      exact found
    · simp only [entry, service, number, digest]

variable (applied : Applied env db context input clock result admitted written pruned)

include applied in
theorem Applied.visible
    (versioned : Versioned db) (before : revision ≤ db.metadata.candidate.setRevision) :
    VisibleEntry (db.step env (.commitManifest context input clock)) revision entry ↔
      VisibleEntry db revision entry := by
  rw [applied.next, (sameManifests_insertRequest ..).visible, applied.prunes.sameManifests.visible]
  cases unchanged : admitted.unchanged input with
  | true => rw [applied.unchanged unchanged]
  | false =>
    apply (applied.changed unchanged).visible versioned
    rw [applied.admits.setRevision_changed unchanged]
    omega

theorem mem_pruneVersions : v ∈ (rows.foldl .pruneVersion db).versions.rows ↔
      v ∈ db.versions.rows ∧ ∀ row ∈ rows, v.key ≠ row.key := by
  induction rows generalizing db with
  | nil => simp
  | cons row rest induction =>
    rw [List.foldl_cons, induction, mem_pruneVersion, List.forall_mem_cons, and_assoc]

theorem find?_blobs_pruneVersions (kept : v ∈ (rows.foldl .pruneVersion db).versions.rows)
    (found : db.blobs.find? v.manifestDigest = some blob) :
    (rows.foldl .pruneVersion db).blobs.find? v.manifestDigest = some blob := by
  induction rows generalizing db with
  | nil => exact found
  | cons row rest induction =>
    have left : v ∈ (rest.foldl .pruneVersion (db.pruneVersion row)).versions.rows := kept
    exact induction left (find?_blobs_pruneVersion (mem_pruneVersions.mp left).1 found)

theorem visible_pruneVersions
    (blobs : ∀ v ∈ db.versions.rows, ∃ blob, db.blobs.find? v.manifestDigest = some blob) :
    VisibleEntry (rows.foldl .pruneVersion db) revision entry ↔
      ∃ v ∈ db.versions.rows, (∀ row ∈ rows, v.key ≠ row.key) ∧ v.VisibleAt revision ∧
        ∃ blob, db.blobs.find? v.manifestDigest = some blob ∧ entry = v.entry blob := by
  constructor
  · rintro ⟨v, member, visible, blob, found, rfl⟩
    obtain ⟨present, other⟩ := mem_pruneVersions.mp member
    obtain ⟨stored, before⟩ := blobs v present
    have after := find?_blobs_pruneVersions member before
    obtain rfl : stored = blob := Option.some.inj (after.symm.trans found)
    exact ⟨v, present, other, visible, stored, before, rfl⟩
  · rintro ⟨v, present, other, visible, blob, found, rfl⟩
    have member := mem_pruneVersions.mpr ⟨present, other⟩
    exact ⟨v, member, visible, blob, find?_blobs_pruneVersions member found, rfl⟩

theorem Versioned.visible_acknowledge (versioned : Versioned db) (rows : List VersionRow)
    (pointer : ManifestPointer) :
    VisibleEntry (rows.foldl .pruneVersion (db.setPublished pointer)) revision entry ↔
      ∃ v ∈ db.versions.rows, (∀ row ∈ rows, v.key ≠ row.key) ∧ v.VisibleAt revision ∧
        ∃ blob, db.blobs.find? v.manifestDigest = some blob ∧ entry = v.entry blob :=
  visible_pruneVersions versioned.blobs

theorem Versioned.visible_unique (versioned : Versioned db) (member : v ∈ db.versions.rows)
    (member' : v' ∈ db.versions.rows) (same : v.serviceId = v'.serviceId)
    (visible : v.VisibleAt revision) (visible' : v'.VisibleAt revision) : v = v' := by
  have ends : ∀ {u u' : VersionRow}, u ∈ db.versions.rows → u' ∈ db.versions.rows →
      u.serviceId = u'.serviceId → u.VisibleAt revision → u'.VisibleAt revision →
        ¬u.validFromRevision < u'.validFromRevision := by
    intro u u' inTable inTable' service shown shown' before
    obtain ⟨closed, ended⟩ := versioned.succession u inTable u' inTable' service before
    have starts := shown'.1
    obtain isOpen | later := shown.2
    · exact closed isOpen
    · omega
  have first := ends member member' same visible visible'
  have second := ends member' member same.symm visible' visible
  exact versioned.oneCommit v member v' member' (by omega)

def KeepsVisible (revision : Nat) (db : Database) : Call → Prop
  | .commitManifest _ _ _ => True
  | .acknowledgePublished context pointer =>
    ∀ result next, (acknowledgePublished context pointer).Commits { db := db } result next →
      ∀ row ∈ db.obsoleteVersions pointer.setRevision context.budget.maxCleanupEntries,
        ¬row.VisibleAt revision

theorem acknowledge_cases (env : ManifestEnv) (db : Database) (context : ManifestTransactionContext)
    (pointer : ManifestPointer) : (db.step env (.acknowledgePublished context pointer) = db ∧
      ∀ result next, ¬(acknowledgePublished context pointer).Commits { db := db } result next) ∨
    db.step env (.acknowledgePublished context pointer) =
        (db.obsoleteVersions pointer.setRevision context.budget.maxCleanupEntries).foldl
          .pruneVersion (db.setPublished pointer) ∧
      ∃ result next, (acknowledgePublished context pointer).Commits { db := db } result next := by
  cases outcome : acknowledgePublished context pointer { db := db } with
  | error error =>
    refine .inl ⟨by simp [Database.step, applied, outcome], ?_⟩
    intro result next commits
    exact absurd (outcome.symm.trans commits) (by simp)
  | ok pair =>
    obtain ⟨result, next⟩ := pair
    have commits : (acknowledgePublished context pointer).Commits { db := db } result next :=
      outcome
    refine .inr ⟨?_, result, next, commits⟩
    rw [Database.step, commits.applied_eq]
    exact (acknowledgePublished_commits commits).2.2

theorem step_visible (sound : Sound db) (call : Call)
    (before : revision ≤ db.metadata.candidate.setRevision) :
    (VisibleEntry (db.step env call) revision entry → VisibleEntry db revision entry) ∧
      (KeepsVisible revision db call → VisibleEntry db revision entry →
        VisibleEntry (db.step env call) revision entry) := by
  cases call with
  | commitManifest context input clock =>
    cases outcome : db.commit env context input clock with
    | error error =>
      rw [(step_commit_error outcome).1]
      exact ⟨id, fun _ => id⟩
    | ok result =>
      obtain ⟨row, -, -, -, -, same⟩ | ⟨admitted, written, pruned, applied⟩ := commit_cases outcome
      · rw [same]
        exact ⟨id, fun _ => id⟩
      · rw [applied.visible sound.versioned before]
        exact ⟨id, fun _ => id⟩
  | acknowledgePublished context pointer =>
    obtain ⟨same, -⟩ | ⟨pruned, result, next, commits⟩ := acknowledge_cases env db context pointer
    · rw [same]
      exact ⟨id, fun _ => id⟩
    · rw [pruned, sound.versioned.visible_acknowledge]
      constructor
      · rintro ⟨v, member, -, visible⟩
        exact ⟨v, member, visible⟩
      · rintro keeps ⟨v, member, visible, blob⟩
        refine ⟨v, member, ?_, visible, blob⟩
        intro row obsolete sameKey
        have present := (mem_obsoleteVersions obsolete).1
        have same : v = row := db.versions.eq_of_key_eq member present sameKey
        exact keeps result next commits row obsolete (same ▸ visible)

theorem step_hides (env : ManifestEnv) (sound : Sound db) (call : Call) (deletes : ¬KeepsVisible revision db call) :
    ∃ entry, VisibleEntry db revision entry ∧ ¬VisibleEntry (db.step env call) revision entry := by
  cases call with
  | commitManifest context input clock => exact absurd .intro deletes
  | acknowledgePublished context pointer =>
    simp only [KeepsVisible, not_forall, not_not] at deletes
    obtain ⟨result, next, commits, row, obsolete, visible⟩ := deletes
    have member := (mem_obsoleteVersions obsolete).1
    obtain ⟨blob, found⟩ := sound.versioned.blobs row member
    refine ⟨row.entry blob, ⟨row, member, visible, blob, found, rfl⟩, ?_⟩
    obtain ⟨-, never⟩ | ⟨pruned, -⟩ := acknowledge_cases env db context pointer
    · exact absurd commits (never result next)
    · rw [pruned, sound.versioned.visible_acknowledge]
      rintro ⟨v, member', kept, visible', blob', -, same⟩
      have service : row.serviceId = v.serviceId := congrArg SnapshotEntry.serviceId same
      have unique := sound.versioned.visible_unique member member' service visible visible'
      exact kept row obsolete (unique ▸ rfl)

section

variable (sound : Sound db) (calls : List Call)
  (before : revision ≤ db.metadata.candidate.setRevision)
include sound calls before

theorem run_visible_of :
    VisibleEntry (db.run env calls) revision entry → VisibleEntry db revision entry := by
  induction calls generalizing db with
  | nil => exact id
  | cons call rest induction =>
    intro visible
    have grows : db.metadata.candidate.setRevision ≤
        (db.step env call).metadata.candidate.setRevision := (sound.succeeds call).candidate
    exact (step_visible sound call before).1
      (induction (sound.step call) (before.trans grows) visible)

theorem run_keeps_visible_iff : EachCommand (.step env) (KeepsVisible revision) db calls ↔
      ∀ entry, VisibleEntry db revision entry → VisibleEntry (db.run env calls) revision entry := by
  induction calls generalizing db with
  | nil => exact ⟨fun _ _ => id, fun _ => .intro⟩
  | cons call rest induction =>
    have grows : db.metadata.candidate.setRevision ≤
        (db.step env call).metadata.candidate.setRevision := (sound.succeeds call).candidate
    have next : Sound (db.step env call) := sound.step call
    have tail := induction next (before.trans grows)
    constructor
    · rintro ⟨keeps, each⟩ entry visible
      exact tail.mp each entry ((step_visible sound call before).2 keeps visible)
    · intro shows
      have first : ∀ entry, VisibleEntry db revision entry →
          VisibleEntry (db.step env call) revision entry := fun entry visible =>
        run_visible_of (sound.step call) rest (before.trans grows) (shows entry visible)
      have keeps : KeepsVisible revision db call := by
        by_contra deletes
        obtain ⟨entry, visible, hidden⟩ := step_hides env sound call deletes
        exact hidden (first entry visible)
      refine ⟨keeps, tail.mpr ?_⟩
      intro entry visible
      exact shows entry ((step_visible sound call before).1 visible)

end

structure Shows (revision : Nat) (listed : SnapshotEntry → Prop) (db : Database) : Prop where
  assigned : revision ≤ db.metadata.candidate.setRevision
  visible : db.metadata.published.setRevision ≤ revision →
    ∀ entry, VisibleEntry db revision entry ↔ listed entry

include applied in
theorem Applied.published : (db.step env (.commitManifest context input clock)).metadata.published =
      db.metadata.published := by
  rw [applied.next, (sameManifests_insertRequest ..).published,
    applied.prunes.sameManifests.published]
  cases unchanged : admitted.unchanged input with
  | true => rw [applied.unchanged unchanged]
  | false => exact (applied.changed unchanged).published

theorem step_published (env : ManifestEnv) (db : Database) (call : Call) :
    (db.step env call).metadata.published = db.metadata.published ∧
        (∀ revision, KeepsVisible revision db call) ∨
      (db.step env call).metadata.published = db.metadata.candidate := by
  cases call with
  | commitManifest context input clock =>
    refine .inl ⟨?_, fun _ => .intro⟩
    cases outcome : db.commit env context input clock with
    | error error => rw [(step_commit_error outcome).1]
    | ok result =>
      obtain ⟨row, -, -, -, -, same⟩ | ⟨admitted, written, pruned, applied⟩ := commit_cases outcome
      · rw [same]
      · exact applied.published
  | acknowledgePublished context pointer =>
    obtain ⟨same, never⟩ | ⟨pruned, result, next, commits⟩ :=
      acknowledge_cases env db context pointer
    · refine .inl ⟨by rw [same], ?_⟩
      intro revision result next commits
      exact absurd commits (never result next)
    · refine .inr ?_
      rw [pruned, (requests_pruneVersions _ _).2.2.2, (acknowledgePublished_commits commits).1]
      rfl

theorem keepsVisible_of_published (db : Database) (call : Call)
    (same : revision = db.metadata.candidate.setRevision) : KeepsVisible revision db call := by
  cases call with
  | commitManifest context input clock => exact .intro
  | acknowledgePublished context pointer =>
    intro result next commits row obsolete visible
    obtain ⟨-, closed, ends⟩ := mem_obsoleteVersions obsolete
    rw [← (acknowledgePublished_commits commits).1, ← same] at ends
    obtain isOpen | later := visible.2
    · exact closed isOpen
    · omega

theorem Shows.step {listed : SnapshotEntry → Prop} (shows : Shows revision listed db)
    (sound : Sound db) (call : Call) : Shows revision listed (db.step env call) := by
  have grows : db.metadata.candidate.setRevision ≤
      (db.step env call).metadata.candidate.setRevision := (sound.succeeds call).candidate
  have ordered := sound.versioned.published_le
  refine ⟨shows.assigned.trans grows, ?_⟩
  intro published entry
  have kept : db.metadata.published.setRevision ≤ revision ∧ KeepsVisible revision db call := by
    obtain ⟨same, keeps⟩ | acknowledged := step_published env db call
    · rw [same] at published
      exact ⟨published, keeps revision⟩
    · rw [acknowledged] at published
      exact ⟨ordered.trans published,
        keepsVisible_of_published db call (le_antisymm shows.assigned published)⟩
  rw [← shows.visible kept.1 entry]
  obtain ⟨back, forth⟩ := step_visible sound call shows.assigned
  exact ⟨back, forth kept.2⟩

theorem Shows.run (shows : Shows revision listed db)
    (sound : Sound db) (calls : List Call) : Shows revision listed (db.run env calls) := by
  induction calls generalizing db with
  | nil => exact shows
  | cons call rest induction => exact induction (shows.step sound call) (sound.step call)

theorem Sound.shows (sound : Sound db) :
    Shows db.metadata.candidate.setRevision (ListedEntry db) db where
  assigned := le_refl _
  visible _ _ := sound.versioned.visible_candidate

theorem exists_assigned (db : Database) (calls : List Call)
    (low : db.metadata.candidate.setRevision ≤ revision)
    (high : revision ≤ (db.run env calls).metadata.candidate.setRevision) : ∃ earlier later, calls =
      earlier ++ later ∧ (db.run env earlier).metadata.candidate.setRevision = revision := by
  induction calls generalizing db with
  | nil => exact ⟨[], [], rfl, le_antisymm low high⟩
  | cons call rest induction =>
    by_cases here : db.metadata.candidate.setRevision = revision
    · exact ⟨[], call :: rest, rfl, here⟩
    · have next : (db.step env call).metadata.candidate.setRevision ≤ revision := by
        obtain ⟨-, same⟩ | ⟨-, grows⟩ := assigned_cases env db call
        · omega
        · omega
      obtain ⟨earlier, later, rfl, found⟩ := induction (db.step env call) next high
      exact ⟨call :: earlier, later, rfl, found⟩

end LicoMesh.ServiceManifest
