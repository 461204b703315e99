import LicoMesh.ServiceManifest.Effects

namespace LicoMesh.ServiceManifest

open Library Transaction List Function WorkQueue

variable {db last : Database} {input : ManifestCommitInput} {admitted : Admitted}
  {rows : List VersionRow} {row v u : VersionRow}

structure Versioned (db : Database) : Prop where
  published_le : db.metadata.published.setRevision ≤ db.metadata.candidate.setRevision
  gap : db.metadata.candidate.setRevision ≤
    db.metadata.published.setRevision + maxUnpublishedSetRevisions
  assigned : ∀ v ∈ db.versions.rows,
    1 ≤ v.validFromRevision ∧ v.validFromRevision ≤ db.metadata.candidate.setRevision
  closed : ∀ v ∈ db.versions.rows, ¬v.IsOpen → v.validFromRevision < v.validToRevision ∧
    v.validToRevision ≤ db.metadata.candidate.setRevision
  opened : ∀ v ∈ db.versions.rows, v.IsOpen →
    db.services.find? v.serviceId = some ⟨v.serviceId, v.serviceRevision, v.manifestDigest⟩
  current : ∀ s ∈ db.services.rows, ∃ v ∈ db.versions.rows, v.IsOpen ∧ v.serviceId = s.serviceId
  oneOpen : ∀ v ∈ db.versions.rows, ∀ v' ∈ db.versions.rows, v.IsOpen → v'.IsOpen →
    v.serviceId = v'.serviceId → v = v'
  oneCommit : ∀ v ∈ db.versions.rows, ∀ v' ∈ db.versions.rows,
    v.validFromRevision = v'.validFromRevision → v = v'
  succession : ∀ v ∈ db.versions.rows, ∀ v' ∈ db.versions.rows, v.serviceId = v'.serviceId →
    v.validFromRevision < v'.validFromRevision →
      ¬v.IsOpen ∧ v.validToRevision ≤ v'.validFromRevision
  blobs : ∀ v ∈ db.versions.rows, ∃ blob, db.blobs.find? v.manifestDigest = some blob

structure Counted (db : Database) : Prop where
  services : db.metadata.serviceCount = db.services.rows.length
  requests : db.metadata.requestCount = db.requests.rows.length
  requestBytes : db.metadata.requestBytes = ((db.requests.rows.map (·.recordBytes)).sum : Nat)
  sequences : ∀ r ∈ db.requests.rows, r.sequence < db.nextSequence
  digests : (db.requests.rows.map (·.outcome.requestDigest)).Nodup

theorem versioned_initial (emptySetDigest : Sha256Digest) :
    Versioned (.initial emptySetDigest) := by
  constructor <;> simp [Database.initial, maxUnpublishedSetRevisions]

theorem counted_initial (emptySetDigest : Sha256Digest) : Counted (.initial emptySetDigest) := by
  constructor <;> simp [Database.initial]

structure SameManifests (db other : Database) : Prop where
  candidate : other.metadata.candidate = db.metadata.candidate
  published : other.metadata.published = db.metadata.published
  serviceCount : other.metadata.serviceCount = db.metadata.serviceCount
  services : other.services = db.services
  versions : other.versions = db.versions
  blobs : other.blobs = db.blobs

theorem SameManifests.refl (db : Database) : SameManifests db db := by
  constructor <;> rfl

theorem SameManifests.trans (first : SameManifests db middle)
    (second : SameManifests middle last) : SameManifests db last where
  candidate := second.candidate.trans first.candidate
  published := second.published.trans first.published
  serviceCount := second.serviceCount.trans first.serviceCount
  services := second.services.trans first.services
  versions := second.versions.trans first.versions
  blobs := second.blobs.trans first.blobs

theorem sameManifests_deleteRequest (db : Database) (row : RequestRow) :
    SameManifests db (db.deleteRequest row) := by
  constructor <;> rfl

theorem sameManifests_insertRequest (db : Database) (outcome : ManifestCommitOutcome)
    (createdAtMs : Int) (bytes : Nat) :
    SameManifests db (db.insertRequest outcome createdAtMs bytes) := by
  constructor <;> rfl

variable (pruned : RequestsPruned db last)

include pruned in
theorem RequestsPruned.sameManifests : SameManifests db last := by
  induction pruned with
  | done db => exact .refl db
  | delete member rest induction => exact (sameManifests_deleteRequest _ _).trans induction

theorem Versioned.congr (versioned : Versioned db)
    (same : SameManifests db other) : Versioned other := by
  obtain ⟨candidate, published, -, services, versions, blobs⟩ := same
  constructor
  all_goals simp only [candidate, published, services, versions, blobs]
  · exact versioned.published_le
  · exact versioned.gap
  · exact versioned.assigned
  · exact versioned.closed
  · exact versioned.opened
  · exact versioned.current
  · exact versioned.oneOpen
  · exact versioned.oneCommit
  · exact versioned.succession
  · exact versioned.blobs

theorem deleteWhere_sum {rows : List RequestRow} {row : RequestRow} (member : row ∈ rows)
    (nodup : (rows.map RequestRow.sequence).Nodup) :
    (rows.filter fun other => !decide (other.sequence = row.sequence)).length + 1 = rows.length ∧
      ((rows.filter fun other => !decide (other.sequence = row.sequence)).map
        (·.recordBytes)).sum + row.recordBytes = (rows.map (·.recordBytes)).sum := by
  induction rows with
  | nil => cases member
  | cons head tail induction =>
    rw [map_cons, nodup_cons] at nodup
    obtain rfl | inTail := mem_cons.mp member
    · have kept : (tail.filter fun other => !decide (other.sequence = row.sequence)) = tail := by
        apply filter_eq_self.mpr
        intro other inTail
        have different : other.sequence ≠ row.sequence := fun same =>
          nodup.1 (same ▸ mem_map_of_mem inTail)
        simpa using different
      simp [kept]
      omega
    · have different : head.sequence ≠ row.sequence := fun same =>
        nodup.1 (same ▸ mem_map_of_mem inTail)
      obtain ⟨length, sum⟩ := induction inTail nodup.2
      simp [different, length]
      omega

theorem Counted.deleteRequest (counted : Counted db) {row : RequestRow}
    (member : row ∈ db.requests.rows) : Counted (db.deleteRequest row) := by
  obtain ⟨length, sum⟩ := deleteWhere_sum member db.requests.keysNodup
  constructor
  · exact counted.services
  · simp only [Database.deleteRequest, Table.rows_deleteWhere, counted.requests]
    omega
  · simp only [Database.deleteRequest, Table.rows_deleteWhere, counted.requestBytes]
    omega
  · intro r present
    exact counted.sequences r (mem_filter.mp present).1
  · exact counted.digests.sublist (filter_sublist.map _)

include pruned

theorem RequestsPruned.counted (counted : Counted db) : Counted last := by
  induction pruned with
  | done db => exact counted
  | delete member rest induction => exact induction (counted.deleteRequest member)

theorem RequestsPruned.subset : ∀ r ∈ last.requests.rows, r ∈ db.requests.rows := by
  induction pruned with
  | done db => exact fun _ member => member
  | delete member rest induction => exact fun r present =>
    (mem_filter.mp (induction r present)).1

theorem RequestsPruned.nextSequence : last.nextSequence = db.nextSequence := by
  induction pruned with
  | done db => rfl
  | delete member rest induction => exact induction

omit pruned

theorem rows_insertRequest (counted : Counted db) (outcome : ManifestCommitOutcome)
    (createdAtMs : Int) (bytes : Nat) : (db.insertRequest outcome createdAtMs bytes).requests.rows =
      db.requests.rows ++ [⟨db.nextSequence, outcome, createdAtMs, bytes⟩] := by
  have fresh : db.requests.find? db.nextSequence = none := by
    apply Table.find?_eq_none_iff.mpr
    intro r member
    have below := counted.sequences r member
    omega
  simp only [Database.insertRequest, Table.insertOrIgnore, fresh, dif_pos, Table.rows_insertFresh]

theorem Counted.insertRequest (counted : Counted db) (createdAtMs : Int) (bytes : Nat)
    (unknown : ∀ r ∈ db.requests.rows, r.outcome.requestDigest ≠ outcome.requestDigest) :
    Counted (db.insertRequest outcome createdAtMs bytes) := by
  have rows := rows_insertRequest counted outcome createdAtMs bytes
  constructor
  · exact counted.services
  · rw [rows, length_append]
    simp only [Database.insertRequest, counted.requests]
    simp
  · rw [rows]
    simp only [Database.insertRequest, counted.requestBytes]
    simp
  · intro r present
    rw [rows] at present
    obtain before | new := mem_append.mp present
    · have below := counted.sequences r before
      simp only [Database.insertRequest]
      omega
    · obtain rfl := mem_singleton.mp new
      simp [Database.insertRequest]
  · rw [rows, map_append, nodup_append]
    refine ⟨counted.digests, by simp, ?_⟩
    intro a present b new same
    obtain ⟨r, member, rfl⟩ := mem_map.mp present
    obtain rfl : b = outcome.requestDigest := by simpa using new
    exact unknown r member same

/-- What the compare-and-set has established about a change. -/
structure Admits (db : Database) (input : ManifestCommitInput) (admitted : Admitted) : Prop where
  candidate : admitted.candidate = db.metadata.candidate
  published : admitted.published = db.metadata.published
  existingService : admitted.existingService = db.services.find? input.serviceId
  serviceRevision : input.expectedServiceRevision = admitted.actualServiceRevision
  setRevision : input.expectedSetRevision = db.metadata.candidate.setRevision

theorem compareRevisions_ok (ok : compareRevisions db input = .ok admitted) :
    Admits db input admitted := by
  obtain ⟨candidate, readCandidate, ok⟩ := bind_eq_ok.mp ok
  obtain ⟨published, readPublished, ok⟩ := bind_eq_ok.mp ok
  obtain rfl := pointerFromMeta_ok readCandidate
  obtain rfl := pointerFromMeta_ok readPublished
  dsimp only at ok
  split at ok
  · cases ok
  · rename_i serviceRevision
    split at ok
    · cases ok
    · rename_i setRevision
      cases ok
      exact ⟨rfl, rfl, rfl, not_not.mp serviceRevision, not_not.mp setRevision⟩

theorem checkLimits_ok (ok : checkLimits context db input admitted = .ok ())
    (changed : admitted.unchanged input = false) : admitted.candidate.setRevision <
      admitted.published.setRevision + maxUnpublishedSetRevisions := by
  obtain ⟨_, -, backlog⟩ := bind_eq_ok.mp ok
  unfold checkBacklog at backlog
  split at backlog
  · cases backlog
  · rename_i room
    simp only [changed, Bool.not_false, Bool.true_and, decide_eq_true_eq] at room
    omega

def publishedVersion (input : ManifestCommitInput) (admitted : Admitted) : VersionRow where
  serviceId := input.serviceId
  validFromRevision := admitted.setRevision input
  validToRevision := 0
  serviceRevision := admitted.serviceRevision input
  manifestDigest := input.manifestDigest

def supersede (input : ManifestCommitInput) (admitted : Admitted) (row : VersionRow) : VersionRow :=
  if admitted.existingService.isSome = true ∧ row.serviceId = input.serviceId ∧ row.IsOpen then
    { row with validToRevision := admitted.setRevision input }
  else row

theorem supersede_fields (input : ManifestCommitInput) (admitted : Admitted) (row : VersionRow) :
    (supersede input admitted row).serviceId = row.serviceId ∧
      (supersede input admitted row).validFromRevision = row.validFromRevision ∧
        (supersede input admitted row).serviceRevision = row.serviceRevision ∧
          (supersede input admitted row).manifestDigest = row.manifestDigest := by
  unfold supersede
  split <;> exact ⟨rfl, rfl, rfl, rfl⟩

structure Published (db : Database) (env : ManifestEnv) (input : ManifestCommitInput)
    (admitted : Admitted) (written : Database) : Prop where
  candidate : written.metadata.candidate =
    ⟨admitted.setRevision input, admitted.setDigest env input⟩
  published : written.metadata.published = db.metadata.published
  serviceCount : written.metadata.serviceCount = db.metadata.serviceCount +
    if (db.services.find? input.serviceId).isNone then 1 else 0
  services : written.services =
    db.services.set ⟨input.serviceId, admitted.serviceRevision input, input.manifestDigest⟩
  versions : written.versions.rows =
    db.versions.rows.map (supersede input admitted) ++ [publishedVersion input admitted]
  blobs : written.blobs = db.blobs.insertOrIgnore
      ⟨input.manifestDigest, input.manifestBytes, input.manifestBytes.length⟩
  requests : written.requests = db.requests
  requestCount : written.metadata.requestCount = db.metadata.requestCount
  requestBytes : written.metadata.requestBytes = db.metadata.requestBytes
  nextSequence : written.nextSequence = db.nextSequence

theorem publish_eq (written_eq : db.publish env input admitted = some written) :
    Published db env input admitted written := by
  simp only [Database.publish, Database.insertVersion, Option.map_map] at written_eq
  obtain ⟨versions, inserted, rfl⟩ := Option.map_eq_some_iff.mp written_eq
  have rows := Table.rows_insert? inserted
  have closing : (if admitted.existingService.isSome = true then
      (db.insertBlob input.manifestDigest input.manifestBytes).closeVersions input.serviceId
        (admitted.setRevision input)
      else db.insertBlob input.manifestDigest input.manifestBytes).versions.rows =
        db.versions.rows.map (supersede input admitted) := by
    split
    · rename_i existing
      apply map_congr_left
      intro row _
      simp [supersede, existing]
    · rename_i missing
      have same : supersede input admitted = fun row => row := by
        funext row
        simp [supersede, missing]
      rw [same, map_id']
      rfl
  constructor
  · rfl
  · dsimp only [comp]
    split <;> rfl
  · dsimp only [comp]
    split <;> rfl
  · dsimp only [comp]
    split <;> rfl
  · rw [← closing]
    exact rows
  · dsimp only [comp]
    split <;> rfl
  · dsimp only [comp]
    split <;> rfl
  · dsimp only [comp]
    split <;> rfl
  · dsimp only [comp]
    split <;> rfl
  · dsimp only [comp]
    split <;> rfl

section Publishing

variable {db written : Database} {env : ManifestEnv} {input : ManifestCommitInput}
  {admitted : Admitted}

theorem Admits.setRevision_changed (admits : Admits db input admitted)
    (changed : admitted.unchanged input = false) :
    admitted.setRevision input = db.metadata.candidate.setRevision + 1 := by
  simp [Admitted.setRevision, changed, admits.candidate]

variable (published : Published db env input admitted written)
include published

theorem Published.mem (member : v ∈ written.versions.rows) : v = publishedVersion input admitted ∨
      ∃ u ∈ db.versions.rows, v = supersede input admitted u := by
  rw [published.versions] at member
  obtain before | new := mem_append.mp member
  · obtain ⟨u, present, rfl⟩ := mem_map.mp before
    exact .inr ⟨u, present, rfl⟩
  · exact .inl (mem_singleton.mp new)

theorem Published.mem_new : publishedVersion input admitted ∈ written.versions.rows := by
  rw [published.versions]
  exact mem_append_right _ (mem_singleton_self _)

theorem Published.mem_old
    (member : u ∈ db.versions.rows) : supersede input admitted u ∈ written.versions.rows := by
  rw [published.versions]
  exact mem_append_left _ (mem_map_of_mem member)

omit published

theorem Versioned.open_of_supersede (versioned : Versioned db) (admits : Admits db input admitted)
    (changed : admitted.unchanged input = false) (member : u ∈ db.versions.rows)
    (still : (supersede input admitted u).IsOpen) :
    supersede input admitted u = u ∧ u.IsOpen ∧ u.serviceId ≠ input.serviceId := by
  unfold supersede at still ⊢
  split at still
  · have set : admitted.setRevision input = 0 := still
    rw [admits.setRevision_changed changed] at set
    omega
  · rename_i kept
    rw [if_neg kept]
    refine ⟨rfl, still, ?_⟩
    intro same
    apply kept
    refine ⟨?_, same, still⟩
    rw [admits.existingService, ← same, versioned.opened u member still]
    rfl

theorem supersede_of_closed (notOpen : ¬u.IsOpen) : supersede input admitted u = u := by
  unfold supersede
  rw [if_neg]
  exact fun superseded => notOpen superseded.2.2

section

variable (versioned : Versioned db) (admits : Admits db input admitted)
  (changed : admitted.unchanged input = false)
include versioned admits changed

theorem Versioned.closed_before (member : u ∈ db.versions.rows)
    (same : u.serviceId = input.serviceId) : ¬(supersede input admitted u).IsOpen ∧
      (supersede input admitted u).validToRevision ≤
        (publishedVersion input admitted).validFromRevision := by
  have next := admits.setRevision_changed changed
  by_cases wasOpen : u.IsOpen
  · have existing : admitted.existingService.isSome = true := by
      rw [admits.existingService, ← same, versioned.opened u member wasOpen]
      rfl
    unfold supersede
    rw [if_pos ⟨existing, same, wasOpen⟩]
    refine ⟨?_, le_refl _⟩
    simp only [VersionRow.IsOpen, next]
    omega
  · rw [supersede_of_closed wasOpen]
    refine ⟨wasOpen, ?_⟩
    have closed := versioned.closed u member wasOpen
    simp only [publishedVersion, next]
    omega

theorem Versioned.publish (room : admitted.candidate.setRevision <
      admitted.published.setRevision + maxUnpublishedSetRevisions)
    (published : Published db env input admitted written) : Versioned written := by
  have next := admits.setRevision_changed changed
  have candidate : written.metadata.candidate.setRevision =
      db.metadata.candidate.setRevision + 1 := by
    rw [published.candidate, ← next]
  have old : ∀ u, (supersede input admitted u).serviceId = u.serviceId ∧
      (supersede input admitted u).validFromRevision = u.validFromRevision :=
    fun u => ⟨(supersede_fields input admitted u).1, (supersede_fields input admitted u).2.1⟩
  have services : ∀ k, written.services.find? k = if k = input.serviceId then
      some ⟨input.serviceId, admitted.serviceRevision input, input.manifestDigest⟩
      else db.services.find? k := by
    intro k
    rw [published.services]
    exact Table.find?_set ..
  constructor
  · rw [candidate, published.published]
    have ordered := versioned.published_le
    omega
  · rw [candidate, published.published]
    rw [admits.candidate, admits.published] at room
    omega
  · intro v member
    rw [candidate]
    obtain rfl | ⟨u, present, rfl⟩ := published.mem member
    · simp [publishedVersion, next]
    · rw [(old u).2]
      have bounds := versioned.assigned u present
      omega
  · intro v member notOpen
    obtain rfl | ⟨u, present, rfl⟩ := published.mem member
    · exact absurd rfl notOpen
    · have bounds := versioned.assigned u present
      unfold supersede at notOpen ⊢
      split
      · simp only [next]
        omega
      · rename_i kept
        rw [if_neg kept] at notOpen
        have closed := versioned.closed u present notOpen
        omega
  · intro v member isOpen
    obtain rfl | ⟨u, present, rfl⟩ := published.mem member
    · rw [services]
      exact if_pos rfl
    · obtain ⟨same, wasOpen, other⟩ :=
        versioned.open_of_supersede admits changed present isOpen
      rw [same, services, if_neg other]
      exact versioned.opened u present wasOpen
  · intro s member
    have found := written.services.find?_of_mem member
    rw [services] at found
    split at found
    · rename_i same
      exact ⟨_, published.mem_new, rfl, same.symm⟩
    · rename_i other
      obtain ⟨u, present, wasOpen, same⟩ := versioned.current s (db.services.mem_of_find? found)
      have kept : supersede input admitted u = u := by
        unfold supersede
        rw [if_neg]
        intro superseded
        exact other (same.symm.trans superseded.2.1)
      refine ⟨_, published.mem_old present, ?_, ?_⟩
      · rw [kept]
        exact wasOpen
      · rw [kept]
        exact same
  · intro v member v' member' isOpen isOpen' same
    obtain rfl | ⟨u, present, rfl⟩ := published.mem member
    · obtain rfl | ⟨u', present', rfl⟩ := published.mem member'
      · rfl
      · obtain ⟨kept, -, other⟩ := versioned.open_of_supersede admits changed present' isOpen'
        rw [kept] at same
        exact absurd same.symm other
    · obtain ⟨kept, wasOpen, other⟩ := versioned.open_of_supersede admits changed present isOpen
      rw [kept] at same ⊢
      obtain rfl | ⟨u', present', rfl⟩ := published.mem member'
      · exact absurd same other
      · obtain ⟨kept', wasOpen', -⟩ :=
          versioned.open_of_supersede admits changed present' isOpen'
        rw [kept'] at same ⊢
        exact versioned.oneOpen u present u' present' wasOpen wasOpen' same
  · intro v member v' member' same
    obtain rfl | ⟨u, present, rfl⟩ := published.mem member
    · obtain rfl | ⟨u', present', rfl⟩ := published.mem member'
      · rfl
      · rw [(old u').2] at same
        have bounds := versioned.assigned u' present'
        simp only [publishedVersion, next] at same
        omega
    · obtain rfl | ⟨u', present', rfl⟩ := published.mem member'
      · rw [(old u).2] at same
        have bounds := versioned.assigned u present
        simp only [publishedVersion, next] at same
        omega
      · rw [(old u).2, (old u').2] at same
        rw [versioned.oneCommit u present u' present' same]
  · intro v member v' member' same before
    obtain rfl | ⟨u, present, rfl⟩ := published.mem member
    · obtain rfl | ⟨u', present', rfl⟩ := published.mem member'
      · omega
      · rw [(old u').2] at before
        have bounds := versioned.assigned u' present'
        simp only [publishedVersion, next] at before
        omega
    · obtain rfl | ⟨u', present', rfl⟩ := published.mem member'
      · rw [(old u).1] at same
        exact versioned.closed_before admits changed present same
      · rw [(old u).1, (old u').1] at same
        rw [(old u).2, (old u').2] at before
        obtain ⟨notOpen, ends⟩ := versioned.succession u present u' present' same before
        rw [(old u').2, supersede_of_closed notOpen]
        exact ⟨notOpen, ends⟩
  · intro v member
    rw [published.blobs]
    simp only [Table.find?_insertOrIgnore]
    obtain rfl | ⟨u, present, rfl⟩ := published.mem member
    · exact ⟨_, if_pos rfl⟩
    · rw [(supersede_fields input admitted u).2.2.2]
      split
      · exact ⟨_, rfl⟩
      · exact versioned.blobs u present

end

theorem length_set_services {row : ServiceRow} : ((db.services.set row).rows.length : Int) =
    db.services.rows.length + if (db.services.find? row.serviceId).isNone then 1 else 0 := by
  unfold Table.set Table.joinRow
  split
  · rename_i fresh
    simp [fresh]
  · rename_i present
    obtain ⟨existing, found⟩ := Option.ne_none_iff_exists'.mp present
    simp [found]

theorem Counted.publish (counted : Counted db)
    (published : Published db env input admitted written) : Counted written where
  services := by
    rw [published.serviceCount, published.services, length_set_services, counted.services]
  requests := by
    rw [published.requestCount, published.requests]
    exact counted.requests
  requestBytes := by
    rw [published.requestBytes, published.requests]
    exact counted.requestBytes
  sequences := by
    rw [published.requests, published.nextSequence]
    exact counted.sequences
  digests := by
    rw [published.requests]
    exact counted.digests

end Publishing

theorem rows_pruneVersion (db : Database) (row : VersionRow) :
    (db.pruneVersion row).versions.rows = db.versions.rows.filter fun other =>
      !decide (other.key = row.key) := by
  unfold Database.pruneVersion
  dsimp only
  split <;> rfl

theorem mem_pruneVersion :
    v ∈ (db.pruneVersion row).versions.rows ↔ v ∈ db.versions.rows ∧ v.key ≠ row.key := by
  rw [rows_pruneVersion, mem_filter]
  simp

theorem metadata_pruneVersion (db : Database) (row : VersionRow) :
    (db.pruneVersion row).metadata = db.metadata := by
  unfold Database.pruneVersion
  dsimp only
  split <;> rfl

theorem services_pruneVersion (db : Database) (row : VersionRow) :
    (db.pruneVersion row).services = db.services := by
  unfold Database.pruneVersion
  dsimp only
  split <;> rfl

theorem requests_pruneVersion (db : Database) (row : VersionRow) :
    (db.pruneVersion row).requests = db.requests ∧
      (db.pruneVersion row).nextSequence = db.nextSequence := by
  unfold Database.pruneVersion
  dsimp only
  split <;> exact ⟨rfl, rfl⟩

theorem find?_blobs_pruneVersion (kept : v ∈ (db.pruneVersion row).versions.rows)
    (found : db.blobs.find? v.manifestDigest = some blob) :
    (db.pruneVersion row).blobs.find? v.manifestDigest = some blob := by
  rw [rows_pruneVersion] at kept
  unfold Database.pruneVersion
  dsimp only
  split
  · exact found
  · rename_i unneeded
    apply Table.find?_deleteWhere.mpr
    refine ⟨found, ?_⟩
    have digest : blob.digest = v.manifestDigest := db.blobs.key_of_find? found
    simp only [digest, decide_eq_false_iff_not]
    intro same
    apply unneeded
    exact any_eq_true.mpr ⟨v, kept, by simpa using same⟩

theorem Versioned.pruneVersion (versioned : Versioned db)
    (obsolete : ∀ v ∈ db.versions.rows, v.key = row.key → ¬v.IsOpen) :
    Versioned (db.pruneVersion row) := by
  have kept : ∀ {v}, v ∈ (db.pruneVersion row).versions.rows → v ∈ db.versions.rows :=
    fun member => (mem_pruneVersion.mp member).1
  constructor
  · rw [metadata_pruneVersion]
    exact versioned.published_le
  · rw [metadata_pruneVersion]
    exact versioned.gap
  · intro v member
    rw [metadata_pruneVersion]
    exact versioned.assigned v (kept member)
  · intro v member notOpen
    rw [metadata_pruneVersion]
    exact versioned.closed v (kept member) notOpen
  · intro v member isOpen
    rw [services_pruneVersion]
    exact versioned.opened v (kept member) isOpen
  · intro s member
    rw [services_pruneVersion] at member
    obtain ⟨v, present, isOpen, same⟩ := versioned.current s member
    refine ⟨v, mem_pruneVersion.mpr ⟨present, ?_⟩, isOpen, same⟩
    intro sameKey
    exact obsolete v present sameKey isOpen
  · intro v member v' member'
    exact versioned.oneOpen v (kept member) v' (kept member')
  · intro v member v' member'
    exact versioned.oneCommit v (kept member) v' (kept member')
  · intro v member v' member'
    exact versioned.succession v (kept member) v' (kept member')
  · intro v member
    obtain ⟨blob, found⟩ := versioned.blobs v (kept member)
    exact ⟨blob, find?_blobs_pruneVersion member found⟩

theorem Counted.pruneVersion (counted : Counted db) (row : VersionRow) :
    Counted (db.pruneVersion row) := by
  obtain ⟨requests, nextSequence⟩ := requests_pruneVersion db row
  constructor
  · rw [metadata_pruneVersion, services_pruneVersion]
    exact counted.services
  · rw [metadata_pruneVersion, requests]
    exact counted.requests
  · rw [metadata_pruneVersion, requests]
    exact counted.requestBytes
  · rw [requests, nextSequence]
    exact counted.sequences
  · rw [requests]
    exact counted.digests

theorem Versioned.pruneVersions (versioned : Versioned db)
    (obsolete : ∀ row ∈ rows, ∀ v ∈ db.versions.rows, v.key = row.key → ¬v.IsOpen) :
    Versioned (rows.foldl .pruneVersion db) := by
  induction rows generalizing db with
  | nil => exact versioned
  | cons row rest induction =>
    apply induction (versioned.pruneVersion (obsolete row mem_cons_self))
    intro later member v present
    exact obsolete later (mem_cons_of_mem _ member) v (mem_pruneVersion.mp present).1

theorem Counted.pruneVersions (counted : Counted db) : Counted (rows.foldl .pruneVersion db) := by
  induction rows generalizing db with
  | nil => exact counted
  | cons row rest induction => exact induction (counted.pruneVersion row)

theorem mem_obsoleteVersions (member : row ∈ db.obsoleteVersions setRevision limit) :
    row ∈ db.versions.rows ∧ row.validToRevision ≠ 0 ∧ row.validToRevision ≤ setRevision := by
  have sorted := mem_of_mem_take member
  rw [mem_insertionSort] at sorted
  obtain ⟨present, closed⟩ := mem_filter.mp sorted
  simp only [ne_eq, Bool.and_eq_true, decide_eq_true_eq] at closed
  exact ⟨present, closed.1, closed.2⟩

theorem Versioned.acknowledge (versioned : Versioned db) (limit : Nat) :
    Versioned ((db.obsoleteVersions db.metadata.candidate.setRevision limit).foldl
      .pruneVersion (db.setPublished db.metadata.candidate)) := by
  apply pruneVersions
  · constructor
    · exact le_refl _
    · exact Nat.le_add_right _ _
    · exact versioned.assigned
    · exact versioned.closed
    · exact versioned.opened
    · exact versioned.current
    · exact versioned.oneOpen
    · exact versioned.oneCommit
    · exact versioned.succession
    · exact versioned.blobs
  · intro row member v present sameKey isOpen
    obtain ⟨inTable, closed, -⟩ := mem_obsoleteVersions member
    have same : v = row := db.versions.eq_of_key_eq present inTable sameKey
    exact closed (same ▸ isOpen)

theorem Counted.acknowledge (counted : Counted db) (limit : Nat) :
    Counted ((db.obsoleteVersions db.metadata.candidate.setRevision limit).foldl
      .pruneVersion (db.setPublished db.metadata.candidate)) := by
  apply pruneVersions
  constructor
  · exact counted.services
  · exact counted.requests
  · exact counted.requestBytes
  · exact counted.sequences
  · exact counted.digests

end LicoMesh.ServiceManifest
