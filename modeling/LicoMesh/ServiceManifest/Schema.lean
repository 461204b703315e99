import LicoMesh.Library.TableMerge
import LicoMesh.WorkQueue.Serialization

namespace LicoMesh.ServiceManifest

open Library WorkQueue

abbrev ServiceId := String

structure ManifestPointer where
  setRevision : Nat
  setDigest : Sha256Digest
  deriving DecidableEq

/-- `manifest_authority_meta`; the triggers keep the counts. -/
structure Metadata where
  candidate : ManifestPointer
  published : ManifestPointer
  serviceCount : Int
  requestCount : Int
  requestBytes : Int

structure BlobRow where
  digest : Sha256Digest
  bytes : List UInt8
  byteSize : Nat

structure ServiceRow where
  serviceId : ServiceId
  serviceRevision : Nat
  manifestDigest : Sha256Digest

structure VersionRow where
  serviceId : ServiceId
  validFromRevision : Nat
  validToRevision : Nat
  serviceRevision : Nat
  manifestDigest : Sha256Digest
  deriving DecidableEq

def VersionRow.key (row : VersionRow) : ServiceId × Nat := (row.serviceId, row.validFromRevision)

def VersionRow.IsOpen (row : VersionRow) : Prop := row.validToRevision = 0

instance (row : VersionRow) : Decidable row.IsOpen := inferInstanceAs (Decidable (_ = _))

structure ManifestCommitOutcome where
  requestDigest : Sha256Digest
  serviceId : ServiceId
  manifestDigest : Sha256Digest
  expectedServiceRevision : Nat
  expectedSetRevision : Nat
  serviceRevision : Nat
  setRevision : Nat
  setDigest : Sha256Digest
  receiptRef : String
  deriving DecidableEq

structure RequestRow where
  sequence : Nat
  outcome : ManifestCommitOutcome
  createdAtMs : Int
  recordBytes : Nat

structure Database where
  metadata : Metadata
  blobs : Table Sha256Digest BlobRow BlobRow.digest
  services : Table ServiceId ServiceRow ServiceRow.serviceId
  versions : Table (ServiceId × Nat) VersionRow VersionRow.key
  requests : Table Nat RequestRow RequestRow.sequence
  nextSequence : Nat

/-- The database `createSchema` initializes. -/
def Database.initial (emptySetDigest : Sha256Digest) : Database where
  metadata :=
    { candidate := ⟨0, emptySetDigest⟩
      published := ⟨0, emptySetDigest⟩
      serviceCount := 0
      requestCount := 0
      requestBytes := 0 }
  blobs := .empty
  services := .empty
  versions := .empty
  requests := .empty
  nextSequence := 1

namespace Database

variable (db : Database)

def requestOf (requestDigest : Sha256Digest) : Option RequestRow :=
  db.requests.rows.find? fun row => row.outcome.requestDigest = requestDigest

def oldestRequest (overCapacity : Bool) (cutoff : Int) : Option RequestRow :=
  ((db.requests.rows.filter fun row => overCapacity || row.createdAtMs ≤ cutoff).insertionSort
    fun a b => a.createdAtMs < b.createdAtMs ∨
      a.createdAtMs = b.createdAtMs ∧ a.sequence ≤ b.sequence).head?

def obsoleteVersions (setRevision limit : Nat) : List VersionRow :=
  ((db.versions.rows.filter fun row =>
      row.validToRevision ≠ 0 && row.validToRevision ≤ setRevision).insertionSort
    fun a b => a.validToRevision < b.validToRevision ∨
      a.validToRevision = b.validToRevision ∧ a.serviceId ≤ b.serviceId).take limit

def visibleVersions (revision : Nat) : List VersionRow :=
  db.versions.rows.filter fun row =>
    row.validFromRevision ≤ revision &&
      (row.validToRevision = 0 || revision < row.validToRevision)

def setCandidate (pointer : ManifestPointer) : Database :=
  { db with metadata := { db.metadata with candidate := pointer } }

def setPublished (pointer : ManifestPointer) : Database :=
  { db with metadata := { db.metadata with published := pointer } }

def insertBlob (digest : Sha256Digest) (bytes : List UInt8) : Database :=
  { db with blobs := db.blobs.insertOrIgnore ⟨digest, bytes, bytes.length⟩ }

def deleteBlob (digest : Sha256Digest) : Database :=
  { db with blobs := db.blobs.deleteWhere fun row => row.digest = digest }

/-- `SET valid_to_revision=? WHERE service_id=? AND valid_to_revision=0`. -/
def closeVersions (serviceId : ServiceId) (setRevision : Nat) : Database :=
  { db with
    versions := db.versions.mapRows
      (fun row =>
        if row.serviceId = serviceId ∧ row.IsOpen then { row with validToRevision := setRevision }
        else row)
      (by intro row; split <;> rfl) }

/-- `none` on a primary key conflict. -/
def insertVersion (row : VersionRow) : Option Database :=
  (db.versions.insert? row).map fun versions => { db with versions := versions }

def deleteVersion (row : VersionRow) : Database :=
  { db with versions := db.versions.deleteWhere fun other => other.key = row.key }

/-- The upsert of a service with `manifest_services_insert`. -/
def upsertService (row : ServiceRow) : Database :=
  { db with
    services := db.services.set row
    metadata := { db.metadata with
      serviceCount := db.metadata.serviceCount +
        if (db.services.find? row.serviceId).isNone then 1 else 0 } }

/-- With `manifest_requests_insert`. -/
def insertRequest (outcome : ManifestCommitOutcome) (createdAtMs : Int) (recordBytes : Nat) :
    Database :=
  { db with
    requests := db.requests.insertOrIgnore ⟨db.nextSequence, outcome, createdAtMs, recordBytes⟩
    nextSequence := db.nextSequence + 1
    metadata := { db.metadata with
      requestCount := db.metadata.requestCount + 1
      requestBytes := db.metadata.requestBytes + recordBytes } }

/-- With `manifest_requests_delete`. -/
def deleteRequest (row : RequestRow) : Database :=
  { db with
    requests := db.requests.deleteWhere fun other => other.sequence = row.sequence
    metadata := { db.metadata with
      requestCount := db.metadata.requestCount - 1
      requestBytes := db.metadata.requestBytes - row.recordBytes } }

end Database

end LicoMesh.ServiceManifest
