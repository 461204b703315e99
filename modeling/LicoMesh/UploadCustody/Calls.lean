import LicoMesh.UploadCustody.Contents

namespace LicoMesh.UploadCustody

open Library Program AppendState Custody

variable {α : Type} {rest : CustodyRow → CustodyProgram α} {input : AppendInput}

section Staged

variable {env : CustodyEnv} {custodyRef : CustodyRef} {owner : String} {row : CustodyRow}
  {header : EnvelopeHeader} {chunks : List Bytes} {custody : Custody}
  {done : CustodyStatus → Custody → Prop} {failed : CustodyError → Custody → Prop}
  {crash : Custody → Prop}

def recoveredCustody (env : CustodyEnv) (custody : Custody) (custodyRef : CustodyRef)
    (row : CustodyRow) (header : EnvelopeHeader) (chunks : List Bytes) : Custody :=
  custody.update custodyRef
    (recoveredObject env (custody.objects custodyRef) row header chunks)

theorem custodyOf_recovered : custodyOf env custody custodyRef row.unprepared header chunks
      ⟨[], [], none, [], 0⟩ = recoveredCustody env custody custodyRef row header chunks := by
  unfold custodyOf objectOf recoveredCustody recoveredObject place
  rw [List.append_nil, List.append_nil, List.append_nil]
  change { custody.update custodyRef _ with encrypted := custody.encrypted ++ [] } = _
  rw [List.append_nil]
  rfl

theorem rowForCustody_at {done : α → Custody → Prop}
    (present : (start.objects custodyRef).row = some row)
    (tail : Triple (fun disk => disk = start) (rest row) done failed crash) :
    Triple (fun disk => disk = start) (rowForCustody custodyRef >>= rest) done failed crash := by
  apply triple_read_at row
  · rw [present]
  · exact tail

theorem status_at (present : (start.objects custodyRef).row = some row)
    (ends : done (statusFromRow row replayed) start) : Triple (fun disk => disk = start)
      (rowForCustody custodyRef >>= fun row => .pure (statusFromRow row replayed))
      done failed crash :=
  rowForCustody_at present (triple_pure_at ends)

structure Continues (chunks : List Bytes) (input : AppendInput) : Prop where
  owner : input.custodyRef.owner = input.owner
  offset : input.offset = chunks.flatten.length
  fits : chunks.flatten.length + input.bytes.length ≤ input.custodyRef.expectedByteSize

theorem flatten_prefix_le (split : before ++ after = chunksOf input.bytes) :
    before.flatten.length ≤ input.bytes.length := by
  have whole := congrArg List.length (flatten_chunksOf input.bytes)
  rw [← split, List.flatten_append, List.length_append] at whole
  omega

theorem Continues.small (holds : Committed env input.custodyRef row header chunks)
    (continues : Continues chunks input) :
    row.committedFrameCount + (chunksOf input.bytes).length ≤ 0xffffffff := by
  have before := holds.cut.length_le
  have after := (wellCut_chunksOf input.bytes).length_le
  have size := input.custodyRef.sizeBounded
  have fits := continues.fits
  have limit : MAX_UPLOAD_CUSTODY_BYTES ≤ 0xffffffff := by decide
  rw [flatten_chunksOf] at after
  rw [holds.frames]
  omega

theorem appendLocked_staged (partialBytes : Nat)
    (holds : Staged env input.custodyRef (custody.objects input.custodyRef) row header chunks)
    (kept : ∀ object next, Staged env input.custodyRef object next header chunks →
      crash (custody.update input.custodyRef object))
    (appending : Continues chunks input → ∀ (state : AppendState) later,
      state.done ++ state.ahead ++ later = chunksOf input.bytes → state.ahead.length ≤ 1 →
      crash (state.custodyOf env custody input.custodyRef row.unprepared header chunks))
    (ends : Continues chunks input →
      let state : AppendState := ⟨chunksOf input.bytes, [], none, [], 0⟩
      done (statusFromRow (row.unprepared.advance env header state.done none))
        (state.custodyOf env custody input.custodyRef row.unprepared header chunks))
    (refuses : ¬ Continues chunks input → ∀ error, failed error custody ∧
        failed error (recoveredCustody env custody input.custodyRef row header chunks)) :
    Triple (fun disk => disk = custody) (appendLocked env input partialBytes) done failed
      crash := by
  apply rowForCustody_at holds.present
  by_cases owns : input.custodyRef.owner = input.owner
  swap
  · apply triple_require_error_at
    · rw [holds.reference]
      exact decide_eq_false owns
    · exact (refuses (fun continues => owns continues.owner) _).1
  apply triple_require_at
  · rw [holds.reference]
    exact decide_eq_true owns
  apply triple_bind_at ⟨row.unprepared, some header⟩
    (recoveredCustody env custody input.custodyRef row header chunks)
  · exact recoverStaging_staged holds kept ⟨rfl, rfl⟩
  by_cases offset : input.offset = chunks.flatten.length
  swap
  · apply triple_require_error_at
    · apply decide_eq_false
      change ¬ input.offset = row.committedPlaintextBytes
      rw [holds.bytes]
      exact offset
    · exact (refuses (fun continues => offset continues.offset) _).2
  apply triple_require_at
  · exact decide_eq_true (offset.trans holds.bytes.symm)
  by_cases fits : chunks.flatten.length + input.bytes.length ≤ input.custodyRef.expectedByteSize
  swap
  · apply triple_require_error_at
    · apply decide_eq_false
      change ¬ row.committedPlaintextBytes + _ ≤ row.custodyRef.expectedByteSize
      rw [holds.bytes, holds.reference]
      exact fits
    · exact (refuses (fun continues => fits continues.fits) _).2
  apply triple_require_at
  · apply decide_eq_true
    change row.committedPlaintextBytes + _ ≤ row.custodyRef.expectedByteSize
    rw [holds.bytes, holds.reference]
    exact fits
  have continues : Continues chunks input := ⟨owns, offset, fits⟩
  apply triple_bind_at () (custodyOf env custody input.custodyRef row.unprepared
    header chunks ⟨chunksOf input.bytes, [], none, [], 0⟩)
  · have run := appendChunks_staged failed holds.recovered.toCommitted holds.staging
      partialBytes (chunksOf input.bytes) [] (Continues.small holds.recovered.toCommitted continues)
      (appending continues)
    rw [custodyOf_recovered] at run
    exact run.conseq (fun _ here => here) (fun _ _ last => ⟨rfl, last⟩) (fun _ _ never => never)
      (fun _ visited => visited)
  · exact status_at (place_self _ _ _ _ ▸ rfl) (ends continues)

section

variable (holds : Committed env custodyRef row header chunks)
include holds

theorem Committed.length_le : chunks.length ≤ MAX_UPLOAD_CUSTODY_BYTES := by
  have counted := holds.cut.length_le
  have bounded := holds.bounded
  have size := custodyRef.sizeBounded
  omega

theorem withinRecordLimit_committedRecords :
    withinRecordLimit (committedRecords env header chunks) = true := by
  have short := holds.length_le
  have limit : MAX_UPLOAD_CUSTODY_BYTES ≤ 10 ^ 10 := by decide
  unfold withinRecordLimit committedRecords
  rw [List.all_eq_true]
  intro record member
  apply decide_eq_true
  cases List.mem_cons.mp member with
  | inl first =>
    rw [first]
    exact show headerBytes ≤ MAX_RECORD_BYTES + 1 by decide
  | inr later =>
    obtain ⟨frame, inside, rfl⟩ := List.mem_map.mp later
    exact byteLength_le_of_mem holds.cut (by omega) inside

theorem verifyCommittedPlaintext_eq :
    verifyCommittedPlaintext env row ⟨committedRecords env header chunks, 0⟩ =
      .ok (header, chunks.flatten) := by
  have frames := verifyFrames_framesOf env header 0 ZERO_DIGEST holds.cut
  rw [Nat.zero_add] at frames
  unfold verifyCommittedPlaintext
  rw [if_pos ⟨withinRecordLimit_committedRecords holds, rfl⟩]
  unfold committedRecords
  dsimp only
  rw [if_pos ⟨holds.valid, holds.envelope⟩, frames]
  dsimp only
  rw [if_pos ⟨holds.frames.symm, holds.bytes.symm, holds.digest.symm⟩]

end

def sealingObject (env : CustodyEnv) (object : CustodyObject) (row : CustodyRow)
    (header : EnvelopeHeader) (chunks : List Bytes) (extra : List EnvelopeRecord)
    (partialBytes : Nat) (stored : Option (List EnvelopeRecord)) : CustodyObject :=
  { recoveredObject env object row header chunks with
    pending := some ⟨committedRecords env header chunks ++ extra, partialBytes⟩
    stored := stored }

def sealedObject (env : CustodyEnv) (object : CustodyObject) (row : CustodyRow)
    (header : EnvelopeHeader) (chunks : List Bytes) (pending : Option PendingFile) :
    CustodyObject :=
  let records := sealedRecords env row header chunks
  { object with
    row := some { row.unprepared with envelopeDigest := some (env.envelopeDigest records) }
    pending := pending
    stored := some records
    artifact := some (newArtifact env row records) }

variable (holds : Staged env custodyRef (custody.objects custodyRef) row header chunks)
include holds

theorem Staged.sealing (extra : List EnvelopeRecord) (partialBytes : Nat)
    {stored : Option (List EnvelopeRecord)} (published : ∀ records, stored = some records →
      records = sealedRecords env row header chunks ∧ Complete env custodyRef chunks.flatten) :
    Staged env custodyRef (sealingObject env (custody.objects custodyRef) row header chunks extra
      partialBytes stored) row.unprepared header chunks :=
  { holds.recovered with
    pending := ⟨extra, partialBytes, rfl⟩
    stored := published }

theorem Staged.sealed
    (complete : Complete env custodyRef chunks.flatten) {pending : Option PendingFile}
    (file : ∀ kept ∈ pending, ∃ rest, kept.records = .header header :: rest) : Sealed env custodyRef
      (sealedObject env (custody.objects custodyRef) row header chunks pending)
      { row.unprepared with
        envelopeDigest := some (env.envelopeDigest (sealedRecords env row header chunks)) }
      header chunks where
  toCommitted := ⟨holds.reference, holds.valid, holds.envelope, holds.cut, holds.frames,
    holds.bytes, holds.digest, holds.bounded⟩
  present := rfl
  sealed := rfl
  complete := complete
  stored := rfl
  artifact := rfl
  file := by
    intro first found
    obtain ⟨kept, present, starts⟩ := Option.bind_eq_some_iff.mp found
    obtain ⟨rest, records⟩ := file kept present
    rw [records] at starts
    exact (Option.some.inj starts).symm

omit holds

theorem sealLocked_staged (partialBytes : Nat)
    (holds : Staged env custodyRef (custody.objects custodyRef) row header chunks)
    (kept : ∀ object next, Staged env custodyRef object next header chunks →
      crash (custody.update custodyRef object))
    (seals : custodyRef.owner = owner → Complete env custodyRef chunks.flatten → ∀ object next,
      Sealed env custodyRef object next header chunks → crash (custody.update custodyRef object))
    (ends : custodyRef.owner = owner → Complete env custodyRef chunks.flatten →
      ∀ object next, Sealed env custodyRef object next header chunks →
      done (statusFromRow next (some false)) (custody.update custodyRef object))
    (refuses : ¬ (custodyRef.owner = owner ∧ Complete env custodyRef chunks.flatten) → ∀ error,
      failed error custody ∧
        failed error (recoveredCustody env custody custodyRef row header chunks)) :
    Triple (fun disk => disk = custody) (sealLocked env custodyRef owner partialBytes) done failed
      crash := by
  unfold sealLocked
  apply rowForCustody_at holds.present
  by_cases owns : custodyRef.owner = owner
  swap
  · apply triple_require_error_at
    · rw [holds.reference]
      exact decide_eq_false owns
    · exact (refuses (fun admitted => owns admitted.1) _).1
  apply triple_require_at
  · rw [holds.reference]
    exact decide_eq_true owns
  rw [if_pos holds.staging]
  apply triple_bind_at ⟨row.unprepared, some header⟩
    (recoveredCustody env custody custodyRef row header chunks)
  · exact recoverStaging_staged holds kept ⟨rfl, rfl⟩
  by_cases size : chunks.flatten.length = custodyRef.expectedByteSize
  swap
  · apply triple_require_error_at
    · apply decide_eq_false
      change ¬ row.committedPlaintextBytes = row.custodyRef.expectedByteSize
      rw [holds.bytes, holds.reference]
      exact size
    · exact (refuses (fun admitted => size admitted.2.size) _).2
  apply triple_require_at
  · apply decide_eq_true
    change row.committedPlaintextBytes = row.custodyRef.expectedByteSize
    rw [holds.bytes, holds.reference]
    exact size
  apply triple_read_at ⟨committedRecords env header chunks, 0⟩
  · unfold recoveredCustody
    rw [update_self]
    rfl
  apply triple_read_at (header, chunks.flatten)
  · exact verifyCommittedPlaintext_eq holds.recovered.toCommitted
  by_cases content : env.contentDigest chunks.flatten = custodyRef.expectedContentDigest
  swap
  · apply triple_require_error_at
    · rw [show row.unprepared.custodyRef = custodyRef from holds.reference]
      exact decide_eq_false content
    · exact (refuses (fun admitted => content admitted.2.digest) _).2
  apply triple_require_at
  · rw [show row.unprepared.custodyRef = custodyRef from holds.reference]
    exact decide_eq_true content
  have complete : Complete env custodyRef chunks.flatten := ⟨size, content⟩
  let footer : EnvelopeRecord := .footer (newFooter env row header chunks.flatten)
  have visited : ∀ extra partialBytes stored,
      (∀ records, stored = some records → records = sealedRecords env row header chunks) →
      crash (custody.update custodyRef (sealingObject env (custody.objects custodyRef) row header
        chunks extra partialBytes stored)) := by
    intro extra partialBytes stored published
    apply kept _ row.unprepared
    exact holds.sealing extra partialBytes fun records found =>
      ⟨published records found, complete⟩
  have before : ∀ records, (custody.objects custodyRef).stored = some records →
      records = sealedRecords env row header chunks :=
    fun records found => (holds.stored records found).1
  apply triple_bind_at () (custody.update custodyRef (sealingObject env
    (custody.objects custodyRef) row header chunks [footer] 0 (custody.objects custodyRef).stored))
  · apply writeRecord_at _ (show recoveredCustody env custody custodyRef row header chunks =
      custody.place custodyRef _ custody.encrypted from rfl) rfl rfl
    · have torn := visited [] partialBytes _ before
      unfold sealingObject at torn
      rw [List.append_nil] at torn
      exact torn
    · exact visited _ _ _ before
  apply triple_bind_at (sealedRecords env row header chunks) (custody.update custodyRef
    (sealingObject env (custody.objects custodyRef) row header chunks [footer] 0
      (some (sealedRecords env row header chunks))))
  · unfold putObjectsFromFiles
    apply triple_read_at ⟨sealedRecords env row header chunks, 0⟩
    · rw [update_self]
      rfl
    apply triple_require_at
    · rw [update_self]
      cases published : (custody.objects custodyRef).stored with
      | none => rfl
      | some records =>
        rw [before records published]
        exact decide_eq_true rfl
    apply triple_write_at (custody.update custodyRef (sealingObject env
      (custody.objects custodyRef) row header chunks [footer] 0
        (some (sealedRecords env row header chunks))))
    · exact change_update _ _ _ _
    · apply visited
      intro records found
      exact (Option.some.inj found).symm
    exact triple_pure_at ⟨rfl, rfl⟩
  apply triple_bind_at () (custody.update custodyRef (sealedObject env
    (custody.objects custodyRef) row header chunks
    (some ⟨committedRecords env header chunks ++ [footer], 0⟩)))
  · unfold commitSeal
    have unsealed : ∀ stored, (sealingObject env (custody.objects custodyRef) row header chunks
        [footer] 0 stored).artifact = none := fun _ => holds.artifact
    apply triple_require_at
    · rw [holds.recovered.reference, update_self, unsealed]
      rfl
    apply triple_write_last
    · rw [holds.recovered.reference, change_update, unsealed]
      change custody.update custodyRef { sealingObject env _ row header chunks _ _ _ with
        artifact := _
        row := some (if row.unprepared.isStaging = true then _ else _) } = _
      rw [if_pos holds.recovered.staging]
      rfl
    · exact seals owns complete _ _ (holds.sealed complete (by
        intro kept member
        cases member
        exact ⟨_, rfl⟩))
  apply triple_write_at (custody.update custodyRef (sealedObject env
    (custody.objects custodyRef) row header chunks none))
  · exact change_update _ _ _ _
  · exact seals owns complete _ _ (holds.sealed complete nofun)
  · apply status_at
    · rw [update_self]
      rfl
    · exact ends owns complete _ _ (holds.sealed complete nofun)

include holds in
theorem describeLocked_staged
    (kept : ∀ object next, Staged env custodyRef object next header chunks →
      crash (custody.update custodyRef object))
    (ends : custodyRef.owner = owner → done (statusFromRow row.unprepared)
      (recoveredCustody env custody custodyRef row header chunks))
    (refuses : custodyRef.owner ≠ owner → failed .ownerMismatch custody) :
    Triple (fun disk => disk = custody) (describeLocked env custodyRef owner) done failed
      crash := by
  apply rowForCustody_at holds.present
  by_cases owns : custodyRef.owner = owner
  · apply triple_require_at
    · rw [holds.reference]
      exact decide_eq_true owns
    apply triple_bind_at ⟨row.unprepared, some header⟩
      (recoveredCustody env custody custodyRef row header chunks)
    · exact recoverStaging_staged holds kept ⟨rfl, rfl⟩
    exact triple_pure_at (ends owns)
  · apply triple_require_error_at
    · rw [holds.reference]
      exact decide_eq_false owns
    · exact refuses owns

theorem missing_at {done : α → Custody → Prop} (absent : (custody.objects custodyRef).row = none)
    (refuses : failed .missing custody) :
    Triple (fun disk => disk = custody) (rowForCustody custodyRef >>= rest) done failed crash := by
  apply triple_read_error_at _ refuses
  rw [absent]

theorem owned_at {done : α → Custody → Prop}
    (present : (custody.objects custodyRef).row = some row) (ends : row.custodyRef.owner = owner →
      Triple (fun disk => disk = custody) (rest row) done failed crash)
    (refuses : row.custodyRef.owner ≠ owner → failed .ownerMismatch custody) :
    Triple (fun disk => disk = custody)
      (rowForCustody custodyRef >>= fun row => assertOwner row owner >>= fun _ => rest row)
      done failed crash := by
  apply rowForCustody_at present
  by_cases owns : row.custodyRef.owner = owner
  · apply triple_require_at
    · exact decide_eq_true owns
    · exact ends owns
  · apply triple_require_error_at
    · exact decide_eq_false owns
    · exact refuses owns

variable {rest : RecoveredCustodyRow → CustodyProgram α}

theorem recoverStaging_sealed {done : α → Custody → Prop} (sealed : row.isStaging = false)
    (tail : Triple (fun disk => disk = custody) (rest ⟨row, none⟩) done failed crash) :
    Triple (fun disk => disk = custody) (recoverStaging env row >>= rest) done failed crash := by
  unfold recoverStaging
  rw [if_neg (by rw [sealed]; exact Bool.false_ne_true)]
  exact triple_bind_at _ _ (triple_pure_at ⟨rfl, rfl⟩) tail

theorem recoverStaging_lost {done : α → Custody → Prop}

    (holds : Lost custodyRef (custody.objects custodyRef) row)
    (refuses : failed .fileUnsafe custody) :
    Triple (fun disk => disk = custody) (recoverStaging env row >>= rest) done failed crash := by
  apply triple_bind (fun _ _ => False)
  · unfold recoverStaging
    rw [if_pos holds.staging]
    apply triple_read_error_at _ refuses
    rw [holds.reference, holds.pending]
  · exact fun _ _ never => never.elim

end Staged

end LicoMesh.UploadCustody
