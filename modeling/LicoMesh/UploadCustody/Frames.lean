import LicoMesh.UploadCustody.Custody
import Mathlib.Data.Nat.Digits.Lemmas

namespace LicoMesh.UploadCustody

open WorkQueue

/-! The frames that chunks of a content become, and what the readers make of them. -/

variable {frame : EnvelopeChunk} {chunk : Bytes} (env : CustodyEnv) (header : EnvelopeHeader)

/-- The frames of chunks that follow `index` frames, the last of which has this digest. -/
def framesOf : Nat → Sha256Digest → List Bytes → List EnvelopeChunk
  | _, _, [] => []
  | index, digest, chunk :: rest =>
    let frame := encryptFrame header index digest chunk
    frame :: framesOf (index + 1) (env.frameDigest frame) rest

def lastDigest : Nat → Sha256Digest → List Bytes → Sha256Digest
  | _, digest, [] => digest
  | index, digest, chunk :: rest =>
    lastDigest (index + 1) (env.frameDigest (encryptFrame header index digest chunk)) rest

def WellCut (chunks : List Bytes) : Prop :=
  ∀ chunk ∈ chunks, 1 ≤ chunk.length ∧ chunk.length ≤ CHUNK_BYTES

variable {env header} {index : Nat} {digest : Sha256Digest} {chunks before after : List Bytes}

theorem framesOf_append : framesOf env header index digest (before ++ after) =
      framesOf env header index digest before ++ framesOf env header (index + before.length)
          (lastDigest env header index digest before) after := by
  induction before generalizing index digest with
  | nil => rfl
  | cons chunk rest induction =>
    rw [List.cons_append, framesOf, induction, framesOf, lastDigest, List.length_cons,
      Nat.add_right_comm index 1, Nat.add_assoc, List.cons_append]

theorem lastDigest_append : lastDigest env header index digest (before ++ after) =
      lastDigest env header (index + before.length)
        (lastDigest env header index digest before) after := by
  induction before generalizing index digest with
  | nil => rfl
  | cons chunk rest induction =>
    rw [List.cons_append, lastDigest, induction, lastDigest, List.length_cons,
      Nat.add_right_comm index 1, Nat.add_assoc]

@[simp] theorem length_framesOf : (framesOf env header index digest chunks).length = chunks.length := by
  induction chunks generalizing index digest with
  | nil => rfl
  | cons chunk rest induction => rw [framesOf, List.length_cons, induction, List.length_cons]

theorem WellCut.tail (cut : WellCut (chunk :: chunks)) : WellCut chunks :=
  fun other member => cut other (List.mem_cons_of_mem _ member)

theorem WellCut.append (left : WellCut before) (right : WellCut after) :
    WellCut (before ++ after) := by
  intro chunk member
  cases List.mem_append.mp member with
  | inl inside => exact left chunk inside
  | inr inside => exact right chunk inside

theorem WellCut.length_le (cut : WellCut chunks) : chunks.length ≤ chunks.flatten.length := by
  induction chunks with
  | nil => exact Nat.le_refl _
  | cons chunk rest induction =>
    have first := (cut chunk List.mem_cons_self).1
    have later := induction cut.tail
    rw [List.length_cons, List.flatten_cons, List.length_append]
    omega

theorem flatten_takeChunks (enough : bytes.length ≤ count) :
    (takeChunks count bytes).flatten = bytes := by
  induction count generalizing bytes with
  | zero =>
    rw [List.eq_nil_of_length_eq_zero (Nat.le_zero.mp enough)]
    rfl
  | succ count induction =>
    rw [takeChunks]
    split
    · rename_i empty
      rw [empty, List.flatten_nil]
    · rename_i some
      have step : 0 < CHUNK_BYTES := by decide
      have rest : (bytes.drop CHUNK_BYTES).length ≤ count := by
        rw [List.length_drop]
        omega
      rw [List.flatten_cons, induction rest, List.take_append_drop]

theorem flatten_chunksOf (bytes : Bytes) : (chunksOf bytes).flatten = bytes :=
  flatten_takeChunks (Nat.le_refl _)

theorem wellCut_takeChunks (count : Nat) (bytes : Bytes) : WellCut (takeChunks count bytes) := by
  induction count generalizing bytes with
  | zero => exact fun chunk member => absurd member List.not_mem_nil
  | succ count induction =>
    rw [takeChunks]
    split
    · exact fun chunk member => absurd member List.not_mem_nil
    · rename_i some
      intro chunk member
      cases List.mem_cons.mp member with
      | inl same =>
        have long := List.length_pos_iff.mpr some
        have step : 0 < CHUNK_BYTES := by decide
        rw [same, List.length_take]
        omega
      | inr inside => exact induction _ chunk inside

theorem wellCut_chunksOf (bytes : Bytes) : WellCut (chunksOf bytes) := wellCut_takeChunks _ bytes

theorem head_chunksOf (cut : chunksOf bytes = chunk :: rest) :
    bytes ≠ [] ∧ chunk = bytes.take CHUNK_BYTES := by
  cases bytes with
  | nil => cases cut
  | cons byte bytes =>
    exact ⟨List.cons_ne_nil _ _, (List.cons.inj cut).1.symm⟩

theorem decrypt_encryptFrame :
    (encryptFrame header index digest chunk).ciphertext.decrypt header.dataKey
      (nonceFor header index) ⟨header.headerDigest, index, chunk.length, digest⟩ = some chunk :=
  if_pos ⟨rfl, rfl, rfl⟩

theorem readChunk_encryptFrame (cut : 1 ≤ chunk.length ∧ chunk.length ≤ CHUNK_BYTES) :
    readChunk header index digest (encryptFrame header index digest chunk) = some chunk := by
  unfold readChunk
  rw [if_pos ⟨rfl, rfl, cut.1, cut.2⟩]
  change Option.filter _ ((encryptFrame header index digest chunk).ciphertext.decrypt _ _
    ⟨header.headerDigest, index, chunk.length, digest⟩) = _
  rw [decrypt_encryptFrame, Option.filter_some]
  exact if_pos (decide_eq_true rfl)

theorem committedFrames_goal (rest : List EnvelopeRecord) :
    committedFrames env index index digest rest = some (index, digest) := by
  cases rest with
  | nil => rfl
  | cons record rest =>
    exact if_pos rfl

variable (env header index digest)

theorem committedFrames_framesOf (cut : WellCut chunks) (rest : List EnvelopeRecord) :
    committedFrames env (index + chunks.length) index digest
        ((framesOf env header index digest chunks).map .chunk ++ rest) =
      some (index + chunks.length, lastDigest env header index digest chunks) := by
  induction chunks generalizing index digest with
  | nil =>
    exact committedFrames_goal rest
  | cons chunk later induction =>
    have fits := cut chunk List.mem_cons_self
    have tail := induction (index + 1)
      (env.frameDigest (encryptFrame header index digest chunk)) cut.tail
    rw [framesOf, List.map_cons, List.cons_append, committedFrames,
      if_neg (by rw [List.length_cons]; omega), if_pos ⟨rfl, rfl, fits.1, fits.2⟩, lastDigest,
      List.length_cons]
    rw [Nat.add_assoc, Nat.add_comm 1] at tail
    exact tail

theorem verifyFrames_framesOf (cut : WellCut chunks) :
    verifyFrames env header index digest ((framesOf env header index digest chunks).map .chunk) =
      some ⟨index + chunks.length, lastDigest env header index digest chunks, chunks.flatten⟩ := by
  induction chunks generalizing index digest with
  | nil => rfl
  | cons chunk rest induction =>
    rw [framesOf, List.map_cons, verifyFrames,
      readChunk_encryptFrame (cut chunk List.mem_cons_self), Option.bind_some,
      induction _ _ cut.tail, Option.map_some, lastDigest, List.length_cons, List.flatten_cons,
      Nat.add_assoc, Nat.add_comm 1]

theorem authenticateFrames_framesOf (maxBytes expected read : Nat) (cut : WellCut chunks)
    (budget : read + chunks.flatten.length ≤ maxBytes)
    (declared : read + chunks.flatten.length ≤ expected) (footer : EnvelopeFooter) :
    authenticateFrames env header maxBytes expected index read digest
        ((framesOf env header index digest chunks).map .chunk ++ [.footer footer]) =
      .ok (⟨index + chunks.length, lastDigest env header index digest chunks, chunks.flatten⟩,
        footer) := by
  induction chunks generalizing index digest read with
  | nil => rfl
  | cons chunk rest induction =>
    rw [List.flatten_cons, List.length_append] at budget declared
    rw [framesOf, List.map_cons, List.cons_append, authenticateFrames,
      readChunk_encryptFrame (cut chunk List.mem_cons_self)]
    dsimp only
    rw [if_neg (by omega), induction _ _ _ cut.tail (by omega) (by omega)]
    rw [lastDigest, List.length_cons, List.flatten_cons, Nat.add_assoc index, Nat.add_comm 1]

theorem replayFrames_framesOf (expected read count : Nat) (cut : WellCut chunks)
    (declared : read + chunks.flatten.length ≤ expected)
    (counted : index + chunks.length = count) (footer : EnvelopeFooter) :
    replayFrames env header expected footer count index read digest
        ((framesOf env header index digest chunks).map .chunk ++ [.footer footer]) =
      .ok ⟨index + chunks.length, lastDigest env header index digest chunks,
        chunks.flatten⟩ := by
  induction chunks generalizing index digest read with
  | nil =>
    rw [framesOf, List.map_nil, List.nil_append, replayFrames, if_pos ⟨counted, rfl⟩]
    rfl
  | cons chunk rest induction =>
    rw [List.flatten_cons, List.length_append] at declared
    rw [List.length_cons] at counted
    rw [framesOf, List.map_cons, List.cons_append, replayFrames,
      readChunk_encryptFrame (cut chunk List.mem_cons_self)]
    dsimp only
    rw [if_neg (by omega), induction _ _ _ cut.tail (by omega) (by omega)]
    rw [lastDigest, List.length_cons, List.flatten_cons, Nat.add_assoc index, Nat.add_comm 1]

variable {env header index digest}

theorem mem_framesOf (member : frame ∈ framesOf env header index digest chunks) :
    ∃ before chunk after, chunks = before ++ chunk :: after ∧
      frame = encryptFrame header (index + before.length)
        (lastDigest env header index digest before) chunk := by
  induction chunks generalizing index digest with
  | nil => cases member
  | cons chunk rest induction =>
    cases List.mem_cons.mp member with
    | inl first => exact ⟨[], chunk, rest, rfl, first⟩
    | inr later =>
      obtain ⟨before, found, after, split, same⟩ := induction later
      refine ⟨chunk :: before, found, after, ?_, ?_⟩
      · rw [split, List.cons_append]
      · rw [same, List.length_cons, lastDigest, Nat.add_assoc, Nat.add_comm 1]

theorem decimalLength_le (small : number < 10 ^ 10) : decimalLength number ≤ 10 :=
  (Nat.length_toDigits_le_iff (by decide) (by decide)).mpr small

theorem byteLength_le_of_mem (cut : WellCut chunks) (small : index + chunks.length ≤ 10 ^ 10)
    (member : frame ∈ framesOf env header index digest chunks) :
    frame.byteLength ≤ MAX_RECORD_BYTES + 1 := by
  obtain ⟨before, chunk, after, split, rfl⟩ := mem_framesOf member
  have fits := (cut chunk (split ▸ List.mem_append_right _ List.mem_cons_self)).2
  rw [split, List.length_append, List.length_cons] at small
  have indexDigits : decimalLength (index + before.length) ≤ 10 := decimalLength_le (by omega)
  have lengthDigits : decimalLength chunk.length ≤ 10 :=
    decimalLength_le (Nat.lt_of_le_of_lt fits (by decide))
  have encoded : base64Length chunk.length ≤ (CHUNK_BYTES + 2) / 3 * 4 :=
    Nat.mul_le_mul_right 4 (Nat.div_le_div_right (Nat.add_le_add_right fits 2))
  have constants : "\x7b\"type\":\"chunk\",\"index\":".length + 10 +
      ",\"plaintextBytes\":".length + 10 + ",\"previousFrameDigest\":\"\"".length +
      digestLength + ",\"ciphertext\":\"\"".length + (CHUNK_BYTES + 2) / 3 * 4 +
      ",\"tag\":\"\"\x7d\n".length + base64Length 16 ≤ MAX_RECORD_BYTES + 1 := by decide
  unfold EnvelopeChunk.byteLength encryptFrame
  dsimp only
  omega

end LicoMesh.UploadCustody
