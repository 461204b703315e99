import LicoMesh.WorkQueue.Policies
import LicoMesh.Library.Crash

namespace LicoMesh.UploadCustody

open Library WorkQueue

/-! Upload custody: the encrypted envelope of an upload, the rows, pending files and stored objects,
and the calls on them. AES-GCM, the MAC and the digests are ideal: a ciphertext keeps what it was
made of. Every write of a program is one durable step. -/

abbrev Bytes := List UInt8

def CHUNK_BYTES : Nat := 64 * 1024

def MAX_UPLOAD_CUSTODY_BYTES : Nat := 512 * 1024 * 1024

def MAX_UPLOAD_CUSTODY_ENVELOPE_BYTES : Nat := MAX_UPLOAD_CUSTODY_BYTES * 2 + 1024 * 1024

def MAX_RECORD_BYTES : Nat := 256 * 1024

/-- `dataKey` is the key that `wrappedKey` wraps for `envelopeId`. -/
structure EnvelopeHeaderBinding where
  envelopeId : Nat
  noncePrefix : Nat
  dataKey : Nat
  deriving DecidableEq

structure EnvelopeHeader extends EnvelopeHeaderBinding where
  headerDigest : Sha256Digest
  deriving DecidableEq

structure Nonce where
  noncePrefix : Nat
  index : Nat
  deriving DecidableEq

structure ChunkAad where
  headerDigest : Sha256Digest
  index : Nat
  plaintextBytes : Nat
  previousFrameDigest : Sha256Digest
  deriving DecidableEq

structure Ciphertext where
  key : Nat
  nonce : Nonce
  aad : ChunkAad
  plaintext : Bytes
  deriving DecidableEq

/-- `decipher.final` fails for another key, nonce or associated data. -/
def Ciphertext.decrypt (ciphertext : Ciphertext) (key : Nat) (nonce : Nonce) (aad : ChunkAad) :
    Option Bytes :=
  if ciphertext.key = key ∧ ciphertext.nonce = nonce ∧ ciphertext.aad = aad then
    some ciphertext.plaintext
  else none

structure EnvelopeChunk where
  index : Nat
  plaintextBytes : Nat
  previousFrameDigest : Sha256Digest
  ciphertext : Ciphertext
  deriving DecidableEq

structure FooterPayload where
  contentDigest : Sha256Digest
  byteCount : Nat
  chunkCount : Nat
  finalFrameDigest : Sha256Digest
  deriving DecidableEq

structure EnvelopeFooter extends FooterPayload where
  footerMac : Sha256Digest
  deriving DecidableEq

inductive EnvelopeRecord
  | header (header : EnvelopeHeader)
  | chunk (frame : EnvelopeChunk)
  | footer (footer : EnvelopeFooter)
  deriving DecidableEq

/-- The digests of the texts that the code hashes. -/
structure CustodyEnv where
  headerDigest : EnvelopeHeaderBinding → Sha256Digest
  frameDigest : EnvelopeChunk → Sha256Digest
  contentDigest : Bytes → Sha256Digest
  envelopeDigest : List EnvelopeRecord → Sha256Digest
  footerMac : Nat → FooterPayload → Sha256Digest

def ZERO_DIGEST : Sha256Digest := ⟨List.replicate 32 0, List.length_replicate⟩

def digestLength : Nat := 64

def decimalLength (number : Nat) : Nat := (Nat.toDigits 10 number).length

def base64Length (bytes : Nat) : Nat := (bytes + 2) / 3 * 4

/-- The header that the local key broker's `wrapKey` leads to, with its line end. -/
def headerBytes : Nat :=
  "\x7b\"type\":\"header\",\"schemaVersion\":\"v0.0.1:execution-sandbox:opaque-custody-envelope-1\",".length +
    "\"envelopeId\":\"env_00000000-0000-0000-0000-000000000000\",\"algorithm\":\"aes-256-gcm\",".length +
    "\"mediaType\":\"application/octet-stream\",\"noncePrefix\":\"\",".length + base64Length 8 +
    "\"wrappedKey\":\x7b\"keyReference\":\"custody-key:local-primary\",\"algorithm\":\"aes-256-gcm\",".length +
    "\"nonce\":\"\",\"ciphertext\":\"\",\"tag\":\"\"\x7d,".length +
    base64Length 12 + base64Length 32 + base64Length 16 +
    "\"headerDigest\":\"\"\x7d\n".length + digestLength

def EnvelopeChunk.byteLength (frame : EnvelopeChunk) : Nat :=
  "\x7b\"type\":\"chunk\",\"index\":".length + decimalLength frame.index +
    ",\"plaintextBytes\":".length + decimalLength frame.plaintextBytes +
    ",\"previousFrameDigest\":\"\"".length + digestLength +
    ",\"ciphertext\":\"\"".length + base64Length frame.ciphertext.plaintext.length +
    ",\"tag\":\"\"\x7d\n".length + base64Length 16

def footerBytes (byteCount chunkCount : Nat) : Nat :=
  "\x7b\"type\":\"footer\",\"contentDigest\":\"\",\"byteCount\":".length + digestLength +
    decimalLength byteCount + ",\"chunkCount\":".length + decimalLength chunkCount +
    ",\"finalFrameDigest\":\"\",\"mediaTypeDigest\":\"\"".length + 2 * digestLength +
    ",\"footerMac\":\"\"\x7d\n".length + digestLength

def EnvelopeRecord.byteLength : EnvelopeRecord → Nat
  | .header _ => headerBytes
  | .chunk frame => frame.byteLength
  | .footer last => footerBytes last.byteCount last.chunkCount

def envelopeBytes (records : List EnvelopeRecord) : Nat :=
  (records.map EnvelopeRecord.byteLength).sum

/-- `jsonRecords` does not throw: its limit leaves the line end out. -/
def withinRecordLimit (records : List EnvelopeRecord) : Bool :=
  records.all fun record => record.byteLength ≤ MAX_RECORD_BYTES + 1

/-- `external` is a failure of the key broker, the file system or the database. -/
inductive CustodyError
  | fileUnsafe
  | stateCorrupt
  | envelopeInvalid
  | missing
  | ownerMismatch
  | idempotencyConflict
  | alreadySealed
  | offsetMismatch (expectedOffset : Nat)
  | sizeExceeded
  | stateConflict
  | incomplete
  | contentDigestMismatch
  | objectConflict
  | readLimitExceeded
  | readDenied
  | authenticationFailed
  | external

/-- The input of `begin` after `normalizeBeginInput`. Its digests are ideal, so it stands for them,
and for the custody reference that they give, too. -/
structure Declaration where
  sessionId : String
  fileIndex : Nat
  expectedContentDigest : Sha256Digest
  expectedByteSize : Nat
  owner : String
  idempotencyKey : String
  indexBounded : fileIndex ≤ 255
  sizeBounded : expectedByteSize ≤ MAX_UPLOAD_CUSTODY_BYTES
  deriving DecidableEq

abbrev CustodyRef := Declaration

abbrev ResourceRef := String × Nat

def Declaration.resourceRef (declaration : Declaration) : ResourceRef :=
  (declaration.sessionId, declaration.fileIndex)

structure PreparedFrame where
  plaintextBytes : Nat
  frameCount : Nat
  ciphertextDigest : Sha256Digest
  deriving DecidableEq

/-- `envelopeDigest` is there when the state is `sealed`. -/
structure CustodyRow where
  custodyRef : CustodyRef
  envelopeDigest : Option Sha256Digest := none
  envelopeId : Nat
  committedPlaintextBytes : Nat
  committedFrameCount : Nat
  committedCiphertextDigest : Sha256Digest
  prepared : Option PreparedFrame := none

def CustodyRow.isStaging (row : CustodyRow) : Bool := row.envelopeDigest.isNone

/-- `partialBytes` of a further record follow the records. -/
structure PendingFile where
  records : List EnvelopeRecord
  partialBytes : Nat

structure SealedArtifact where
  contentDigest : Sha256Digest
  envelopeDigest : Sha256Digest
  plaintextBytes : Nat
  ciphertextBytes : Nat
  chunkCount : Nat

structure CustodyObject where
  row : Option CustodyRow := none
  pending : Option PendingFile := none
  stored : Option (List EnvelopeRecord) := none
  artifact : Option SealedArtifact := none

/-- `resources` is the unique index over the resource bindings, and `drawn` the number of data keys
drawn so far. `encrypted` lists every encryption under a data key. -/
structure Custody where
  objects : CustodyRef → CustodyObject := fun _ => {}
  resources : ResourceRef → Option CustodyRef := fun _ => none
  drawn : Nat := 0
  encrypted : List Ciphertext := []

structure CustodyStatus where
  custodyRef : CustodyRef
  nextOffset : Nat
  committedChunkCount : Nat
  committedEnvelopeDigest : Sha256Digest
  sealed : Option (Nat × Sha256Digest × Sha256Digest)
  replayed : Option Bool := none

def statusFromRow (row : CustodyRow) (replayed : Option Bool := none) : CustodyStatus where
  custodyRef := row.custodyRef
  nextOffset := row.committedPlaintextBytes
  committedChunkCount := row.committedFrameCount
  committedEnvelopeDigest := row.committedCiphertextDigest
  sealed := row.envelopeDigest.map fun digest =>
    (row.custodyRef.expectedByteSize, row.custodyRef.expectedContentDigest, digest)
  replayed := replayed

abbrev CustodyProgram := Program Custody CustodyError

namespace Custody

def update (custody : Custody) (custodyRef : CustodyRef) (object : CustodyObject) : Custody :=
  { custody with objects := Function.update custody.objects custodyRef object }

def change (custodyRef : CustodyRef) (step : CustodyObject → CustodyObject) (custody : Custody) :
    Custody :=
  custody.update custodyRef (step (custody.objects custodyRef))

@[simp] theorem update_self (custody : Custody) (custodyRef : CustodyRef) (object : CustodyObject) :
    (custody.update custodyRef object).objects custodyRef = object :=
  Function.update_self _ _ _

theorem update_of_ne (custody : Custody) (object : CustodyObject) (different : other ≠ custodyRef) :
    (custody.update custodyRef object).objects other = custody.objects other :=
  Function.update_of_ne different _ _

theorem change_update (custody : Custody) (custodyRef : CustodyRef) (object : CustodyObject)
    (step : CustodyObject → CustodyObject) :
    (custody.update custodyRef object).change custodyRef step =
      custody.update custodyRef (step object) := by
  simp [change, update]

def place (custody : Custody) (custodyRef : CustodyRef) (object : CustodyObject)
    (encrypted : List Ciphertext) : Custody :=
  { custody.update custodyRef object with encrypted := encrypted }

section

variable (custody : Custody) (custodyRef : CustodyRef) (object : CustodyObject)
  (encrypted : List Ciphertext)
include custody custodyRef object encrypted

theorem change_place (step : CustodyObject → CustodyObject) :
    (custody.place custodyRef object encrypted).change custodyRef step =
      custody.place custodyRef (step object) encrypted := by
  simp [change, update, place]

@[simp] theorem place_self :
    (custody.place custodyRef object encrypted).objects custodyRef = object :=
  Function.update_self _ _ _

end

end Custody

namespace CustodyObject

variable (object : CustodyObject)

def setRow (step : CustodyRow → CustodyRow) : CustodyObject :=
  { object with row := object.row.map step }

def setPending (step : PendingFile → PendingFile) : CustodyObject :=
  { object with pending := object.pending.map step }

end CustodyObject

open Library.Program (read write require)

def rowForCustody (custodyRef : CustodyRef) : CustodyProgram CustodyRow :=
  read fun custody =>
    match (custody.objects custodyRef).row with
    | some row => .ok row
    | none => .error .missing

def assertOwner (row : CustodyRow) (owner : String) : CustodyProgram Unit :=
  require (fun _ => row.custodyRef.owner = owner) .ownerMismatch

def openPrivatePendingFile (custodyRef : CustodyRef) : CustodyProgram PendingFile :=
  read fun custody =>
    match (custody.objects custodyRef).pending with
    | some file => .ok file
    | none => .error .fileUnsafe

def writePending (custodyRef : CustodyRef) (step : PendingFile → PendingFile) : CustodyProgram Unit :=
  write (.change custodyRef (·.setPending step))

/-- `writeAll` of a record at the end of the file; `partialBytes` are written before the rest. -/
def writeRecord (custodyRef : CustodyRef) (record : EnvelopeRecord) (partialBytes : Nat) :
    CustodyProgram Unit := do
  writePending custodyRef fun file => { file with partialBytes := partialBytes }
  writePending custodyRef fun file => ⟨file.records ++ [record], 0⟩

/-- An `UPDATE` that must change a staging row for which `condition` holds. -/
def updateRow (custodyRef : CustodyRef) (condition : CustodyRow → Bool)
    (step : CustodyRow → CustodyRow) (error : Custody → CustodyError) : CustodyProgram Unit := do
  read fun custody =>
    if (custody.objects custodyRef).row.any fun row => row.isStaging && condition row then .ok ()
    else .error (error custody)
  write (.change custodyRef (·.setRow step))

def validateHeader (env : CustodyEnv) (header : EnvelopeHeader) : Bool :=
  env.headerDigest header.toEnvelopeHeaderBinding = header.headerDigest

/-- The frames up to `goal`: their number and the digest of the last one. -/
def committedFrames (env : CustodyEnv) (goal : Nat) :
    Nat → Sha256Digest → List EnvelopeRecord → Option (Nat × Sha256Digest)
  | count, digest, [] => some (count, digest)
  | count, digest, record :: rest =>
    if count = goal then some (count, digest)
    else match record with
      | .chunk frame =>
        if frame.index = count ∧ frame.previousFrameDigest = digest ∧
            1 ≤ frame.plaintextBytes ∧ frame.plaintextBytes ≤ CHUNK_BYTES then
          committedFrames env goal (count + 1) (env.frameDigest frame) rest
        else none
      | _ => none

def committedHeader (env : CustodyEnv) (row : CustodyRow) :
    List EnvelopeRecord → Except CustodyError EnvelopeHeader
  | [] => .error .stateCorrupt
  | .header header :: rest =>
    if validateHeader env header = true ∧ header.envelopeId = row.envelopeId then
      if committedFrames env row.committedFrameCount 0 ZERO_DIGEST rest =
          some (row.committedFrameCount, row.committedCiphertextDigest) then .ok header
      else .error .stateCorrupt
    else .error .envelopeInvalid
  | _ :: _ => .error .envelopeInvalid

structure RecoveredCustodyRow where
  row : CustodyRow
  header : Option EnvelopeHeader

def clearPrepared (row : CustodyRow) : CustodyProgram Unit :=
  if row.prepared.isSome then
    write (.change row.custodyRef
      (·.setRow fun row => if row.isStaging then { row with prepared := none } else row))
  else pure ()

def recoverStaging (env : CustodyEnv) (row : CustodyRow) : CustodyProgram RecoveredCustodyRow :=
  if row.isStaging then do
    let file ← openPrivatePendingFile row.custodyRef
    let header ← read fun _ => committedHeader env row file.records
    writePending row.custodyRef fun file => ⟨file.records.take (row.committedFrameCount + 1), 0⟩
    clearPrepared row
    read fun custody =>
      match (custody.objects row.custodyRef).row with
      | some recovered =>
        if recovered.isStaging then .ok ⟨recovered, some header⟩ else .error .stateCorrupt
      | none => .error .stateCorrupt
  else pure ⟨row, none⟩

/-- The operation of `begin` that fails, if one does. -/
inductive BeginFailure
  | wrapKey
  | write
  | insert
  | status
  deriving DecidableEq

def failAt (failure : Option BeginFailure) (place : BeginFailure) : CustodyProgram Unit :=
  require (fun _ => failure ≠ some place) .external

def newHeader (env : CustodyEnv) (dataKey noncePrefix : Nat) : EnvelopeHeader :=
  let binding : EnvelopeHeaderBinding := ⟨dataKey, noncePrefix, dataKey⟩
  { toEnvelopeHeaderBinding := binding, headerDigest := env.headerDigest binding }

structure BeginInput where
  custodyRef : CustodyRef
  noncePrefix : Nat
  partialBytes : Nat
  failure : Option BeginFailure

def newRow (custodyRef : CustodyRef) (envelopeId : Nat) : CustodyRow where
  custodyRef := custodyRef
  envelopeId := envelopeId
  committedPlaintextBytes := 0
  committedFrameCount := 0
  committedCiphertextDigest := ZERO_DIGEST

def insertRow (custodyRef : CustodyRef) (envelopeId : Nat) (custody : Custody) : Custody :=
  { custody.change custodyRef fun object =>
      { object with row := some (newRow custodyRef envelopeId) } with
    resources := Function.update custody.resources custodyRef.resourceRef (some custodyRef) }

/-- The data key, the nonce prefix and the envelope id are drawn here; the file is opened with
`O_EXCL`. -/
def createPending (env : CustodyEnv) (input : BeginInput) : CustodyProgram CustodyStatus := do
  failAt input.failure .wrapKey
  require (fun custody => (custody.objects input.custodyRef).pending.isNone) .external
  let dataKey ← read fun custody => .ok custody.drawn
  write (.change input.custodyRef fun object =>
    { object with pending := some ⟨[], input.partialBytes⟩ })
  failAt input.failure .write
  write fun custody =>
    { custody.change input.custodyRef fun object =>
        { object with pending := some ⟨[.header (newHeader env dataKey input.noncePrefix)], 0⟩ } with
      drawn := custody.drawn + 1 }
  failAt input.failure .insert
  require (fun custody => (custody.objects input.custodyRef).row.isNone &&
    (custody.resources input.custodyRef.resourceRef).isNone) .external
  write (insertRow input.custodyRef dataKey)
  failAt input.failure .status
  let row ← rowForCustody input.custodyRef
  pure (statusFromRow row (some false))

def rowForResource (resourceRef : ResourceRef) (custody : Custody) : Option CustodyRow :=
  (custody.resources resourceRef).bind fun custodyRef => (custody.objects custodyRef).row

def removePending (custodyRef : CustodyRef) : CustodyProgram Unit :=
  write (.change custodyRef fun object => { object with pending := none })

/-- The handler of `begin`. -/
def recoverRaced (env : CustodyEnv) (input : BeginInput) (error : CustodyError) :
    CustodyProgram CustodyStatus := do
  let raced ← read fun custody =>
    .ok (rowForResource input.custodyRef.resourceRef custody)
  removePending input.custodyRef
  match raced.filter fun row => row.custodyRef = input.custodyRef with
  | some row => do
      let recovered ← recoverStaging env row
      pure (statusFromRow recovered.row (some true))
  | none => .throw error

def beginLocked (env : CustodyEnv) (input : BeginInput) : CustodyProgram CustodyStatus := do
  let current ← read fun custody =>
    .ok (rowForResource input.custodyRef.resourceRef custody)
  match current with
  | some row => do
      require (fun _ => row.custodyRef = input.custodyRef) .idempotencyConflict
      let recovered ← recoverStaging env row
      pure (statusFromRow recovered.row (some true))
  | none =>
    .tryCatch (createPending env input) (recoverRaced env input)

structure AppendInput where
  custodyRef : CustodyRef
  owner : String
  offset : Nat
  bytes : Bytes

/-- The chunks that `input.subarray` gives, at most `count` of them. -/
def takeChunks : Nat → Bytes → List Bytes
  | 0, _ => []
  | count + 1, bytes =>
    if bytes = [] then []
    else bytes.take CHUNK_BYTES :: takeChunks count (bytes.drop CHUNK_BYTES)

def chunksOf (bytes : Bytes) : List Bytes := takeChunks bytes.length bytes

def nonceFor (header : EnvelopeHeader) (index : Nat) : Nonce := ⟨header.noncePrefix, index⟩

def encryptFrame (header : EnvelopeHeader) (index : Nat) (previousFrameDigest : Sha256Digest)
    (chunk : Bytes) : EnvelopeChunk where
  index := index
  plaintextBytes := chunk.length
  previousFrameDigest := previousFrameDigest
  ciphertext := {
    key := header.dataKey
    nonce := nonceFor header index
    aad := ⟨header.headerDigest, index, chunk.length, previousFrameDigest⟩
    plaintext := chunk }

def appendChunks (env : CustodyEnv) (custodyRef : CustodyRef) (header : EnvelopeHeader)
    (partialBytes : Nat) : List Bytes → Nat → Nat → Sha256Digest → CustodyProgram Unit
  | [], _, _, _ => pure ()
  | chunk :: rest, nextOffset, frameCount, previousFrameDigest => do
      require (fun _ => frameCount ≤ 0xffffffff) .external
      let frame := encryptFrame header frameCount previousFrameDigest chunk
      write fun custody => { custody with encrypted := custody.encrypted ++ [frame.ciphertext] }
      let prepared : PreparedFrame :=
        ⟨nextOffset + chunk.length, frameCount + 1, env.frameDigest frame⟩
      updateRow custodyRef
        (fun row => row.committedPlaintextBytes = nextOffset &&
          row.committedFrameCount = frameCount &&
          row.committedCiphertextDigest = previousFrameDigest && row.prepared.isNone)
        (fun row => { row with prepared := some prepared })
        (fun custody => .offsetMismatch
          (((custody.objects custodyRef).row.map (·.committedPlaintextBytes)).getD 0))
      writeRecord custodyRef (.chunk frame) partialBytes
      updateRow custodyRef
        (fun row => row.committedPlaintextBytes = nextOffset &&
          row.committedFrameCount = frameCount &&
          row.committedCiphertextDigest = previousFrameDigest && row.prepared = some prepared)
        (fun row => { row with
          committedPlaintextBytes := prepared.plaintextBytes
          committedFrameCount := prepared.frameCount
          committedCiphertextDigest := prepared.ciphertextDigest
          prepared := none })
        (fun _ => .stateConflict)
      appendChunks env custodyRef header partialBytes rest prepared.plaintextBytes
        prepared.frameCount prepared.ciphertextDigest

def appendLocked (env : CustodyEnv) (input : AppendInput) (partialBytes : Nat) :
    CustodyProgram CustodyStatus := do
  let row ← rowForCustody input.custodyRef
  assertOwner row input.owner
  let recovered ← recoverStaging env row
  match recovered.header with
  | none => .throw .alreadySealed
  | some header => do
      let row := recovered.row
      require (fun _ => input.offset = row.committedPlaintextBytes)
        (.offsetMismatch row.committedPlaintextBytes)
      require (fun _ => row.committedPlaintextBytes + input.bytes.length ≤
        row.custodyRef.expectedByteSize) .sizeExceeded
      appendChunks env input.custodyRef header partialBytes (chunksOf input.bytes)
        row.committedPlaintextBytes row.committedFrameCount row.committedCiphertextDigest
      let row ← rowForCustody input.custodyRef
      pure (statusFromRow row)

def readChunk (header : EnvelopeHeader) (count : Nat) (previousFrameDigest : Sha256Digest)
    (frame : EnvelopeChunk) : Option Bytes :=
  if frame.index = count ∧ frame.previousFrameDigest = previousFrameDigest ∧
      1 ≤ frame.plaintextBytes ∧ frame.plaintextBytes ≤ CHUNK_BYTES then
    (frame.ciphertext.decrypt header.dataKey (nonceFor header count)
      ⟨header.headerDigest, count, frame.plaintextBytes, previousFrameDigest⟩).filter
        fun plaintext => plaintext.length = frame.plaintextBytes
  else none

structure FramesRead where
  count : Nat
  lastFrameDigest : Sha256Digest
  content : Bytes

def verifyFrames (env : CustodyEnv) (header : EnvelopeHeader) :
    Nat → Sha256Digest → List EnvelopeRecord → Option FramesRead
  | count, digest, [] => some ⟨count, digest, []⟩
  | count, digest, .chunk frame :: rest =>
    (readChunk header count digest frame).bind fun plaintext =>
      (verifyFrames env header (count + 1) (env.frameDigest frame) rest).map fun later =>
        { later with content := plaintext ++ later.content }
  | _, _, _ :: _ => none

def verifyCommittedPlaintext (env : CustodyEnv) (row : CustodyRow) (file : PendingFile) :
    Except CustodyError (EnvelopeHeader × Bytes) :=
  if withinRecordLimit file.records = true ∧ file.partialBytes = 0 then
    match file.records with
    | .header header :: rest =>
      if validateHeader env header = true ∧ header.envelopeId = row.envelopeId then
        match verifyFrames env header 0 ZERO_DIGEST rest with
        | some frames =>
          if frames.count = row.committedFrameCount ∧
              frames.content.length = row.committedPlaintextBytes ∧
              frames.lastFrameDigest = row.committedCiphertextDigest then
            .ok (header, frames.content)
          else .error .envelopeInvalid
        | none => .error .envelopeInvalid
      else .error .envelopeInvalid
    | _ => .error .envelopeInvalid
  else .error .envelopeInvalid

def newFooter (env : CustodyEnv) (row : CustodyRow) (header : EnvelopeHeader) (content : Bytes) :
    EnvelopeFooter :=
  let payload : FooterPayload :=
    ⟨env.contentDigest content, content.length, row.committedFrameCount,
      row.committedCiphertextDigest⟩
  { toFooterPayload := payload, footerMac := env.footerMac header.dataKey payload }

def putObjectsFromFiles (custodyRef : CustodyRef) : CustodyProgram (List EnvelopeRecord) := do
  let file ← openPrivatePendingFile custodyRef
  require (fun custody => ((custody.objects custodyRef).stored.all (· = file.records)))
    .objectConflict
  write (.change custodyRef fun object => { object with stored := some file.records })
  pure file.records

def newArtifact (env : CustodyEnv) (row : CustodyRow) (stored : List EnvelopeRecord) :
    SealedArtifact where
  contentDigest := row.custodyRef.expectedContentDigest
  envelopeDigest := env.envelopeDigest stored
  plaintextBytes := row.custodyRef.expectedByteSize
  ciphertextBytes := envelopeBytes stored
  chunkCount := row.committedFrameCount

def commitSeal (env : CustodyEnv) (row : CustodyRow) (stored : List EnvelopeRecord) :
    CustodyProgram Unit := do
  require (fun custody => ((custody.objects row.custodyRef).artifact.all fun existing =>
    existing.contentDigest = row.custodyRef.expectedContentDigest &&
      existing.envelopeDigest = env.envelopeDigest stored &&
      existing.plaintextBytes = row.custodyRef.expectedByteSize &&
      existing.chunkCount = row.committedFrameCount)) .stateConflict
  write (.change row.custodyRef fun object =>
    { object with
      artifact := some (object.artifact.getD (newArtifact env row stored))
      row := object.row.map fun row =>
        if row.isStaging then { row with envelopeDigest := some (env.envelopeDigest stored) }
        else row })

def sealLocked (env : CustodyEnv) (custodyRef : CustodyRef) (owner : String) (partialBytes : Nat) :
    CustodyProgram CustodyStatus := do
  let row ← rowForCustody custodyRef
  assertOwner row owner
  if row.isStaging then do
    let recovered ← recoverStaging env row
    let row := recovered.row
    require (fun _ => row.committedPlaintextBytes = row.custodyRef.expectedByteSize) .incomplete
    let file ← openPrivatePendingFile custodyRef
    let verified ← read fun _ => verifyCommittedPlaintext env row file
    require (fun _ => env.contentDigest verified.2 = row.custodyRef.expectedContentDigest)
      .contentDigestMismatch
    writeRecord custodyRef (.footer (newFooter env row verified.1 verified.2)) partialBytes
    let stored ← putObjectsFromFiles custodyRef
    commitSeal env row stored
    removePending custodyRef
    let row ← rowForCustody custodyRef
    pure (statusFromRow row (some false))
  else pure (statusFromRow row (some true))

def describeLocked (env : CustodyEnv) (custodyRef : CustodyRef) (owner : String) :
    CustodyProgram CustodyStatus := do
  let row ← rowForCustody custodyRef
  assertOwner row owner
  let recovered ← recoverStaging env row
  pure (statusFromRow recovered.row)

def authenticateFrames (env : CustodyEnv) (header : EnvelopeHeader)
    (maxBytes expectedByteCount : Nat) : Nat → Nat → Sha256Digest → List EnvelopeRecord →
      Except CustodyError (FramesRead × EnvelopeFooter)
  | count, _, digest, [.footer footer] => .ok (⟨count, digest, []⟩, footer)
  | count, byteCount, digest, .chunk frame :: rest =>
    match readChunk header count digest frame with
    | none => .error .envelopeInvalid
    | some plaintext =>
      if maxBytes < byteCount + plaintext.length ∨
          expectedByteCount < byteCount + plaintext.length then
        .error .readLimitExceeded
      else
        match authenticateFrames env header maxBytes expectedByteCount (count + 1)
          (byteCount + plaintext.length) (env.frameDigest frame) rest with
        | .ok (later, footer) =>
          .ok ({ later with content := plaintext ++ later.content }, footer)
        | .error error => .error error
  | _, _, _, _ => .error .envelopeInvalid

/-- The second pass, which gives the content out. -/
def replayFrames (env : CustodyEnv) (header : EnvelopeHeader) (expectedByteCount : Nat)
    (authenticated : EnvelopeFooter) (frameCount : Nat) :
    Nat → Nat → Sha256Digest → List EnvelopeRecord → Except CustodyError FramesRead
  | count, _, digest, [.footer footer] =>
    if count = frameCount ∧ footer = authenticated then .ok ⟨count, digest, []⟩
    else .error .authenticationFailed
  | count, byteCount, digest, .chunk frame :: rest =>
    match readChunk header count digest frame with
    | none => .error .authenticationFailed
    | some plaintext =>
      if expectedByteCount < byteCount + plaintext.length then .error .authenticationFailed
      else
        match replayFrames env header expectedByteCount authenticated frameCount (count + 1)
          (byteCount + plaintext.length) (env.frameDigest frame) rest with
        | .ok later => .ok { later with content := plaintext ++ later.content }
        | .error error => .error error
  | _, _, _, _ => .error .authenticationFailed

structure DecryptInput where
  envelopeId : Nat
  envelopeByteCount : Nat
  byteCount : Nat
  contentDigest : Sha256Digest
  envelopeDigest : Sha256Digest
  maxBytes : Nat

def replayEnvelope (env : CustodyEnv) (expected : DecryptInput) (header : EnvelopeHeader)
    (authenticated : FramesRead) (footer : EnvelopeFooter) (frames : List EnvelopeRecord) :
    Except CustodyError Bytes :=
  if validateHeader env header = true ∧ header.envelopeId = expected.envelopeId then
    match replayFrames env header expected.byteCount footer authenticated.count 0 0 ZERO_DIGEST
      frames with
    | .ok replayed =>
      if replayed.count = authenticated.count ∧
          replayed.content.length = expected.byteCount ∧
          replayed.lastFrameDigest = authenticated.lastFrameDigest then .ok replayed.content
      else .error .authenticationFailed
    | .error error => .error error
  else .error .envelopeInvalid

def isAuthentic (env : CustodyEnv) (expected : DecryptInput) (records : List EnvelopeRecord)
    (header : EnvelopeHeader) (frames : FramesRead) (footer : EnvelopeFooter) : Bool :=
  envelopeBytes records = expected.envelopeByteCount && header.envelopeId = expected.envelopeId &&
    frames.content.length = expected.byteCount && footer.byteCount = expected.byteCount &&
    footer.contentDigest = expected.contentDigest &&
    env.contentDigest frames.content = expected.contentDigest &&
    footer.finalFrameDigest = frames.lastFrameDigest &&
    env.footerMac header.dataKey footer.toFooterPayload = footer.footerMac &&
    env.envelopeDigest records = expected.envelopeDigest

def decryptReadStream (env : CustodyEnv) (records : List EnvelopeRecord)
    (expected : DecryptInput) : Except CustodyError Bytes :=
  if expected.envelopeByteCount < 1 ∨
      MAX_UPLOAD_CUSTODY_ENVELOPE_BYTES < expected.envelopeByteCount then
    .error .authenticationFailed
  else if expected.envelopeByteCount < envelopeBytes records ∨
      withinRecordLimit records = false then .error .envelopeInvalid
  else match records with
    | .header header :: frames =>
      if validateHeader env header = true then
        match authenticateFrames env header expected.maxBytes expected.byteCount 0 0 ZERO_DIGEST
          frames with
        | .ok (authenticated, footer) =>
          if footer.chunkCount = authenticated.count then
            if isAuthentic env expected records header authenticated footer = true then
              replayEnvelope env expected header authenticated footer frames
            else .error .authenticationFailed
          else .error .envelopeInvalid
        | .error error => .error error
      else .error .envelopeInvalid
    | _ => .error .envelopeInvalid

/-- `authorized`: the permit or the reauthorization holds. -/
structure OpenInput where
  custodyRef : CustodyRef
  contentDigest : Sha256Digest
  envelopeDigest : Sha256Digest
  byteCount : Nat
  owner : String
  resourceRef : ResourceRef
  maxBytes : Nat
  authorized : Bool

/-- `open` with its stream read to the end. -/
def openCustody (env : CustodyEnv) (input : OpenInput) (custody : Custody) :
    Except CustodyError Bytes :=
  if input.maxBytes < input.byteCount then .error .readLimitExceeded
  else
    let object := custody.objects input.custodyRef
    match object.row, object.artifact, object.stored with
    | some row, some artifact, some stored =>
      match row.envelopeDigest with
      | none => .error .readDenied
      | some envelopeDigest =>
        if row.custodyRef.expectedContentDigest = input.contentDigest ∧
            envelopeDigest = input.envelopeDigest ∧
            row.custodyRef.expectedByteSize = input.byteCount ∧
            row.custodyRef.owner = input.owner ∧
            row.custodyRef.resourceRef = input.resourceRef ∧ input.authorized = true then
          decryptReadStream env stored {
            envelopeId := row.envelopeId
            envelopeByteCount := artifact.ciphertextBytes
            byteCount := input.byteCount
            contentDigest := input.contentDigest
            envelopeDigest := input.envelopeDigest
            maxBytes := input.maxBytes }
        else .error .readDenied
    | _, _, _ => .error .readDenied

inductive CustodyCall
  | begin (input : BeginInput)
  | append (input : AppendInput) (partialBytes : Nat)
  | seal (custodyRef : CustodyRef) (owner : String) (partialBytes : Nat)
  | describe (custodyRef : CustodyRef) (owner : String)

def CustodyCall.perform (env : CustodyEnv) : CustodyCall → CustodyProgram CustodyStatus
  | .begin input => beginLocked env input
  | .append input partialBytes => appendLocked env input partialBytes
  | .seal custodyRef owner partialBytes => sealLocked env custodyRef owner partialBytes
  | .describe custodyRef owner => describeLocked env custodyRef owner

/-- A call, and the step at which the process dies, the call is aborted or an operation fails. -/
structure CustodyEvent where
  call : CustodyCall
  stop : Option Nat := none

def CustodyEvent.next (env : CustodyEnv) (custody : Custody) (event : CustodyEvent) : Custody :=
  let outcome := event.call.perform env custody
  match event.stop with
  | none => outcome.last
  | some step => outcome.visits[step]?.getD outcome.last

end LicoMesh.UploadCustody
