import LicoMesh.UploadCustody.Effects
import LicoMesh.Library.Path

namespace LicoMesh.UploadCustody

open Library WorkQueue

variable {maxBytes : Nat}

def CustodyObject.recordsOf (object : CustodyObject) (row : CustodyRow) :
    Option (List EnvelopeRecord) :=
  if row.isStaging then object.pending.map (·.records) else object.stored

def committedPlaintext (env : CustodyEnv) (object : CustodyObject) : Option Bytes :=
  object.row.bind fun row => (object.recordsOf row).bind fun records =>
    match records with
    | .header header :: rest =>
      (verifyFrames env header 0 ZERO_DIGEST (rest.take row.committedFrameCount)).map (·.content)
    | _ => none

def Custody.plaintext (env : CustodyEnv) (custody : Custody) (custodyRef : CustodyRef) :
    Option Bytes :=
  committedPlaintext env (custody.objects custodyRef)

def sealedEnvelopeBytes (object : CustodyObject) : Nat :=
  match object.row, object.pending with
  | some row, some file =>
    envelopeBytes (file.records.take (row.committedFrameCount + 1)) +
      footerBytes row.committedPlaintextBytes row.committedFrameCount
  | _, _ => 0

/-- The owner's authorised `open` of a sealed object. -/
def ownerOpen (custodyRef : CustodyRef) (envelopeDigest : Sha256Digest) (maxBytes : Nat) :
    OpenInput where
  custodyRef := custodyRef
  contentDigest := custodyRef.expectedContentDigest
  envelopeDigest := envelopeDigest
  byteCount := custodyRef.expectedByteSize
  owner := custodyRef.owner
  resourceRef := custodyRef.resourceRef
  maxBytes := maxBytes
  authorized := true

/-- Every sealed object has the declared content, and its owner can read it. -/
def ReadsBack (env : CustodyEnv) (custody : Custody) : Prop :=
  ∀ custodyRef row digest, (custody.objects custodyRef).row = some row →
    row.envelopeDigest = some digest →
    ∃ content, custody.plaintext env custodyRef = some content ∧ Complete env custodyRef content ∧
      ∀ maxBytes, custodyRef.expectedByteSize ≤ maxBytes →
        openCustody env (ownerOpen custodyRef digest maxBytes) custody = .ok content

variable {env : CustodyEnv} {custody : Custody} {custodyRef : CustodyRef}
  {object : CustodyObject} {row : CustodyRow} {header : EnvelopeHeader} {chunks : List Bytes}

namespace Committed

variable (holds : Committed env custodyRef row header chunks)

include holds

theorem plaintext_eq (extra : List EnvelopeRecord) (present : object.row = some row)
    (records : object.recordsOf row = some (committedRecords env header chunks ++ extra)) :
    committedPlaintext env object = some chunks.flatten := by
  have frames := verifyFrames_framesOf env header 0 ZERO_DIGEST holds.cut
  have taken : ((framesOf env header 0 ZERO_DIGEST chunks).map EnvelopeRecord.chunk ++ extra).take
      row.committedFrameCount = (framesOf env header 0 ZERO_DIGEST chunks).map .chunk := by
    apply List.take_left'
    rw [List.length_map, length_framesOf, holds.frames]
  unfold committedPlaintext
  rw [present, Option.bind_some, records, Option.bind_some]
  unfold committedRecords
  rw [List.cons_append]
  dsimp only
  rw [taken, frames, Option.map_some]

theorem footerBytes_le : footerBytes chunks.flatten.length row.committedFrameCount ≤
    MAX_RECORD_BYTES + 1 := by
  have limit : MAX_UPLOAD_CUSTODY_BYTES < 10 ^ 10 := by decide
  have size : chunks.flatten.length ≤ MAX_UPLOAD_CUSTODY_BYTES :=
    Nat.le_trans holds.bounded custodyRef.sizeBounded
  have count := holds.length_le
  have sizeDigits : decimalLength chunks.flatten.length ≤ 10 := decimalLength_le (by omega)
  have countDigits : decimalLength row.committedFrameCount ≤ 10 := by
    apply decimalLength_le
    rw [holds.frames]
    omega
  have constants : "\x7b\"type\":\"footer\",\"contentDigest\":\"\",\"byteCount\":".length +
      digestLength + 10 + ",\"chunkCount\":".length + 10 +
      ",\"finalFrameDigest\":\"\",\"mediaTypeDigest\":\"\"".length + 2 * digestLength +
      ",\"footerMac\":\"\"\x7d\n".length + digestLength ≤ MAX_RECORD_BYTES + 1 := by decide
  unfold footerBytes
  omega

theorem withinRecordLimit_sealedRecords :
    withinRecordLimit (sealedRecords env row header chunks) = true := by
  have before := withinRecordLimit_committedRecords holds
  unfold withinRecordLimit at before ⊢
  unfold sealedRecords
  rw [List.all_append, before, Bool.true_and, List.all_cons, List.all_nil, Bool.and_true]
  exact decide_eq_true holds.footerBytes_le

theorem envelopeBytes_sealedRecords : envelopeBytes (sealedRecords env row header chunks) =
      envelopeBytes (committedRecords env header chunks) +
        footerBytes row.committedPlaintextBytes row.committedFrameCount := by
  unfold sealedRecords envelopeBytes
  rw [List.map_append, List.sum_append, List.map_singleton, List.sum_singleton, holds.bytes]
  rfl

end Committed

theorem Staged.plaintext_eq (holds : Staged env custodyRef object row header chunks) :
    committedPlaintext env object = some chunks.flatten := by
  obtain ⟨extra, partialBytes, pending⟩ := holds.pending
  apply holds.toCommitted.plaintext_eq extra holds.present
  unfold CustodyObject.recordsOf
  rw [if_pos holds.staging, pending]
  rfl

theorem Staged.sealedEnvelopeBytes_eq (holds : Staged env custodyRef object row header chunks) :
    sealedEnvelopeBytes object = envelopeBytes (sealedRecords env row header chunks) := by
  obtain ⟨extra, partialBytes, pending⟩ := holds.pending
  unfold sealedEnvelopeBytes
  rw [holds.present, pending]
  dsimp only
  rw [holds.toCommitted.take_committedRecords, holds.toCommitted.envelopeBytes_sealedRecords]

theorem Absent.plaintext_eq (absent : Absent object) : committedPlaintext env object = none := by
  unfold committedPlaintext
  rw [absent.row]
  rfl

theorem Sealed.plaintext_eq (holds : Sealed env custodyRef object row header chunks) :
    committedPlaintext env object = some chunks.flatten := by
  apply holds.toCommitted.plaintext_eq _ holds.present
  unfold CustodyObject.recordsOf
  rw [if_neg (by rw [holds.isStaging]; exact Bool.false_ne_true), holds.stored]
  rfl

theorem Sealed.decrypts (holds : Sealed env custodyRef object row header chunks)
    (short : envelopeBytes (sealedRecords env row header chunks) ≤
      MAX_UPLOAD_CUSTODY_ENVELOPE_BYTES) (budget : custodyRef.expectedByteSize ≤ maxBytes) :
    decryptReadStream env (sealedRecords env row header chunks) {
      envelopeId := row.envelopeId
      envelopeByteCount := envelopeBytes (sealedRecords env row header chunks)
      byteCount := custodyRef.expectedByteSize
      contentDigest := custodyRef.expectedContentDigest
      envelopeDigest := env.envelopeDigest (sealedRecords env row header chunks)
      maxBytes := maxBytes } = .ok chunks.flatten := by
  have size := holds.complete.size
  let footer := newFooter env row header chunks.flatten
  have authenticated := authenticateFrames_framesOf env header 0 ZERO_DIGEST maxBytes
    custodyRef.expectedByteSize 0 holds.cut (by omega) (by omega) footer
  have replayed := replayFrames_framesOf env header 0 ZERO_DIGEST custodyRef.expectedByteSize 0
    (0 + chunks.length) holds.cut (by omega) rfl footer
  have long : ¬ envelopeBytes (sealedRecords env row header chunks) < 1 := by
    have first : 1 ≤ headerBytes := by decide
    unfold sealedRecords committedRecords envelopeBytes
    rw [List.cons_append, List.map_cons, List.sum_cons]
    change ¬ headerBytes + _ < 1
    omega
  have authentic : ∀ expected : DecryptInput,
      expected.envelopeByteCount = envelopeBytes (sealedRecords env row header chunks) →
      expected.envelopeId = row.envelopeId →
      expected.byteCount = custodyRef.expectedByteSize →
      expected.contentDigest = custodyRef.expectedContentDigest →
      expected.envelopeDigest = env.envelopeDigest (sealedRecords env row header chunks) →
      isAuthentic env expected (sealedRecords env row header chunks) header
        ⟨0 + chunks.length, lastDigest env header 0 ZERO_DIGEST chunks, chunks.flatten⟩ footer =
        true := by
    intro expected bytes envelope count digest envelopeDigest
    unfold isAuthentic
    rw [bytes, envelope, count, digest, envelopeDigest]
    simp [footer, newFooter, holds.envelope, size, holds.complete.digest, holds.digest]
  unfold decryptReadStream
  dsimp only
  rw [if_neg (by omega), if_neg (by
    rw [holds.toCommitted.withinRecordLimit_sealedRecords]
    simp)]
  have records : sealedRecords env row header chunks = .header header ::
      ((framesOf env header 0 ZERO_DIGEST chunks).map .chunk ++ [.footer footer]) := rfl
  have counted : footer.chunkCount = 0 + chunks.length := by
    rw [Nat.zero_add, ← holds.frames]
    rfl
  rw [records]
  dsimp only
  rw [← records, if_pos holds.valid, authenticated]
  dsimp only
  rw [if_pos counted, if_pos (authentic _ rfl rfl rfl rfl rfl)]
  unfold replayEnvelope
  rw [if_pos ⟨holds.valid, holds.envelope⟩, replayed]
  dsimp only
  rw [if_pos ⟨rfl, size, rfl⟩]

variable (holds : Sealed env custodyRef (custody.objects custodyRef) row header chunks)
include holds

theorem Sealed.opens (short : envelopeBytes (sealedRecords env row header chunks) ≤
      MAX_UPLOAD_CUSTODY_ENVELOPE_BYTES) (budget : custodyRef.expectedByteSize ≤ maxBytes) :
    openCustody env (ownerOpen custodyRef
      (env.envelopeDigest (sealedRecords env row header chunks)) maxBytes) custody =
        .ok chunks.flatten := by
  unfold openCustody ownerOpen
  dsimp only
  rw [if_neg (by omega), holds.present, holds.artifact, holds.stored]
  dsimp only
  rw [holds.sealed]
  dsimp only
  rw [holds.reference, if_pos ⟨rfl, rfl, rfl, rfl, rfl, rfl⟩]
  exact holds.decrypts short budget

theorem Sealed.too_long (long : MAX_UPLOAD_CUSTODY_ENVELOPE_BYTES <
      envelopeBytes (sealedRecords env row header chunks))
    (budget : custodyRef.expectedByteSize ≤ maxBytes) : openCustody env (ownerOpen custodyRef
      (env.envelopeDigest (sealedRecords env row header chunks)) maxBytes) custody =
        .error .authenticationFailed := by
  unfold openCustody ownerOpen
  dsimp only
  rw [if_neg (by omega), holds.present, holds.artifact, holds.stored]
  dsimp only
  rw [holds.sealed]
  dsimp only
  rw [holds.reference, if_pos ⟨rfl, rfl, rfl, rfl, rfl, rfl⟩]
  exact if_pos (.inr long)

end LicoMesh.UploadCustody
