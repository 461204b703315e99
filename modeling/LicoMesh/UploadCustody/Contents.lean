import LicoMesh.UploadCustody.Frames

namespace LicoMesh.UploadCustody

open Library Program

variable {object : CustodyObject} {failed : CustodyError → Custody → Prop} {crash : Custody → Prop}
  {file : PendingFile} {done : List Bytes}

def committedRecords (env : CustodyEnv) (header : EnvelopeHeader) (chunks : List Bytes) :
    List EnvelopeRecord :=
  .header header :: (framesOf env header 0 ZERO_DIGEST chunks).map .chunk

def sealedRecords (env : CustodyEnv) (row : CustodyRow) (header : EnvelopeHeader)
    (chunks : List Bytes) : List EnvelopeRecord :=
  committedRecords env header chunks ++ [.footer (newFooter env row header chunks.flatten)]

def headerOf (object : CustodyObject) : Option EnvelopeHeader :=
  object.pending.bind fun file =>
    match file.records with
    | .header header :: _ => some header
    | _ => none

structure Committed (env : CustodyEnv) (custodyRef : CustodyRef) (row : CustodyRow)
    (header : EnvelopeHeader) (chunks : List Bytes) : Prop where
  reference : row.custodyRef = custodyRef
  valid : validateHeader env header = true
  envelope : header.envelopeId = row.envelopeId
  cut : WellCut chunks
  frames : row.committedFrameCount = chunks.length
  bytes : row.committedPlaintextBytes = chunks.flatten.length
  digest : row.committedCiphertextDigest = lastDigest env header 0 ZERO_DIGEST chunks
  bounded : chunks.flatten.length ≤ custodyRef.expectedByteSize

structure Complete (env : CustodyEnv) (declaration : Declaration) (content : Bytes) : Prop where
  size : content.length = declaration.expectedByteSize
  digest : env.contentDigest content = declaration.expectedContentDigest

structure Staged (env : CustodyEnv) (custodyRef : CustodyRef) (object : CustodyObject)
    (row : CustodyRow) (header : EnvelopeHeader) (chunks : List Bytes) : Prop extends
    Committed env custodyRef row header chunks where
  present : object.row = some row
  staging : row.isStaging = true
  pending : ∃ extra partialBytes,
    object.pending = some ⟨committedRecords env header chunks ++ extra, partialBytes⟩
  stored : ∀ records, object.stored = some records →
    records = sealedRecords env row header chunks ∧ Complete env custodyRef chunks.flatten
  artifact : object.artifact = none

structure Sealed (env : CustodyEnv) (custodyRef : CustodyRef) (object : CustodyObject)
    (row : CustodyRow) (header : EnvelopeHeader) (chunks : List Bytes) : Prop extends
    Committed env custodyRef row header chunks where
  present : object.row = some row
  sealed : row.envelopeDigest = some (env.envelopeDigest (sealedRecords env row header chunks))
  complete : Complete env custodyRef chunks.flatten
  stored : object.stored = some (sealedRecords env row header chunks)
  artifact : object.artifact = some (newArtifact env row (sealedRecords env row header chunks))
  file : ∀ first, headerOf object = some first → first = header

theorem Sealed.isStaging
    (holds : Sealed env custodyRef object row header chunks) : row.isStaging = false := by
  unfold CustodyRow.isStaging
  rw [holds.sealed]
  rfl

structure Lost (custodyRef : CustodyRef) (object : CustodyObject) (row : CustodyRow) : Prop where
  reference : row.custodyRef = custodyRef
  present : object.row = some row
  staging : row.isStaging = true
  pending : object.pending = none

structure Absent (object : CustodyObject) : Prop where
  row : object.row = none
  stored : object.stored = none
  artifact : object.artifact = none

inductive View
  | absent
  | staged (chunks : List Bytes)
  | sealed (chunks : List Bytes)
  | lost

inductive Kept (env : CustodyEnv) (custodyRef : CustodyRef) (object : CustodyObject) : View → Prop
  | absent (holds : Absent object) : Kept env custodyRef object .absent
  | staged {row : CustodyRow} {header : EnvelopeHeader} {chunks : List Bytes}
      (holds : Staged env custodyRef object row header chunks) :
      Kept env custodyRef object (.staged chunks)
  | sealed {row : CustodyRow} {header : EnvelopeHeader} {chunks : List Bytes}
      (holds : Sealed env custodyRef object row header chunks) :
      Kept env custodyRef object (.sealed chunks)
  | lost {row : CustodyRow} (holds : Lost custodyRef object row) : Kept env custodyRef object .lost

variable {env : CustodyEnv} {custodyRef : CustodyRef} {object : CustodyObject} {row : CustodyRow}
  {header : EnvelopeHeader} {chunks : List Bytes} {custody : Custody}

@[simp] theorem length_committedRecords :
    (committedRecords env header chunks).length = chunks.length + 1 := by
  unfold committedRecords
  rw [List.length_cons, List.length_map, length_framesOf]

namespace Committed

variable (holds : Committed env custodyRef row header chunks)

include holds

theorem committedHeader_eq (extra : List EnvelopeRecord) :
    committedHeader env row (committedRecords env header chunks ++ extra) = .ok header := by
  have frames := committedFrames_framesOf env header 0 ZERO_DIGEST holds.cut extra
  rw [Nat.zero_add] at frames
  unfold committedRecords
  rw [List.cons_append, committedHeader, if_pos ⟨holds.valid, holds.envelope⟩, holds.frames,
    holds.digest, if_pos frames]

theorem take_committedRecords (extra : List EnvelopeRecord) :
    (committedRecords env header chunks ++ extra).take (row.committedFrameCount + 1) =
      committedRecords env header chunks := by
  rw [holds.frames]
  exact List.take_left' length_committedRecords

end Committed

def CustodyRow.unprepared (row : CustodyRow) : CustodyRow := { row with prepared := none }

def recoveredObject (env : CustodyEnv) (object : CustodyObject) (row : CustodyRow)
    (header : EnvelopeHeader) (chunks : List Bytes) : CustodyObject :=
  { object with
    row := some row.unprepared
    pending := some ⟨committedRecords env header chunks, 0⟩ }

variable (holds : Staged env custodyRef object row header chunks)
include holds

theorem Staged.recovered :
    Staged env custodyRef (recoveredObject env object row header chunks) row.unprepared header
      chunks where
  toCommitted := ⟨holds.reference, holds.valid, holds.envelope, holds.cut, holds.frames,
    holds.bytes, holds.digest, holds.bounded⟩
  present := rfl
  staging := holds.staging
  pending := ⟨[], 0, by rw [List.append_nil]; rfl⟩
  stored := holds.stored
  artifact := holds.artifact

theorem Staged.withPending (records : file.records = committedRecords env header chunks ++ extra) :
    Staged env custodyRef { object with pending := some file } row header chunks :=
  { holds with pending := ⟨extra, file.partialBytes, by rw [← records]⟩ }

omit holds

theorem change_pending_eq (next : PendingFile)
    (pending : (custody.objects custodyRef).pending = some file) (steps : step file = next) :
    custody.change custodyRef (·.setPending step) =
      custody.update custodyRef { custody.objects custodyRef with pending := some next } := by
  unfold Custody.change CustodyObject.setPending
  dsimp only
  rw [pending, Option.map_some, steps]

include holds in
theorem clearPrepared_recovered
    (kept : crash (custody.update custodyRef (recoveredObject env object row header chunks))) :
    Triple (fun disk => disk = custody.update custodyRef
        { object with pending := some ⟨committedRecords env header chunks, 0⟩ })
      (clearPrepared row)
      (fun cleared disk => cleared = () ∧ disk = custody.update custodyRef
        (recoveredObject env object row header chunks)) failed crash := by
  have cleared : recoveredObject env object row header chunks =
      { object with
        row := some row.unprepared
        pending := some ⟨committedRecords env header chunks, 0⟩ } := rfl
  unfold clearPrepared
  cases prepared : row.prepared with
  | none =>
    apply triple_pure_at
    have same : row.unprepared = row := by
      unfold CustodyRow.unprepared
      rw [← prepared]
    rw [cleared, same, ← holds.present]
    exact ⟨rfl, rfl⟩
  | some frame =>
    apply triple_write_last _ _ kept
    rw [holds.reference, Custody.change_update, cleared]
    unfold CustodyObject.setRow
    rw [holds.present, Option.map_some, if_pos holds.staging]
    rfl

theorem recoverStaging_staged {done : RecoveredCustodyRow → Custody → Prop}
    (holds : Staged env custodyRef (custody.objects custodyRef) row header chunks)
    (kept : ∀ object next, Staged env custodyRef object next header chunks →
      crash (custody.update custodyRef object)) (ends : done ⟨row.unprepared, some header⟩
      (custody.update custodyRef
        (recoveredObject env (custody.objects custodyRef) row header chunks))) :
    Triple (fun disk => disk = custody) (recoverStaging env row) done failed crash := by
  obtain ⟨extra, partialBytes, pending⟩ := holds.pending
  unfold recoverStaging
  rw [if_pos holds.staging, holds.reference]
  apply triple_read_at ⟨committedRecords env header chunks ++ extra, partialBytes⟩
  · rw [pending]
  apply triple_read_at header
  · exact holds.committedHeader_eq extra
  let truncated : PendingFile := ⟨committedRecords env header chunks, 0⟩
  have cut := holds.withPending (show truncated.records = _ from (List.append_nil _).symm)
  have truncates : custody.change custodyRef (·.setPending fun file =>
      ⟨file.records.take (row.committedFrameCount + 1), 0⟩) = _ :=
    change_pending_eq truncated pending (by rw [holds.take_committedRecords])
  apply triple_write_at _ truncates
  · exact kept _ row cut
  refine triple_bind_at () (custody.update custodyRef
    (recoveredObject env (custody.objects custodyRef) row header chunks)) ?_ ?_
  · exact clearPrepared_recovered holds (kept _ row.unprepared holds.recovered)
  · apply triple_read_last _ ends
    rw [Custody.update_self]
    exact if_pos holds.staging

/-- The row after the frames of `done`. -/
def CustodyRow.advance (env : CustodyEnv) (header : EnvelopeHeader) (row : CustodyRow)
    (done : List Bytes) (prepared : Option PreparedFrame) : CustodyRow :=
  { row with
    committedPlaintextBytes := row.committedPlaintextBytes + done.flatten.length
    committedFrameCount := row.committedFrameCount + done.length
    committedCiphertextDigest := lastDigest env header row.committedFrameCount
      row.committedCiphertextDigest done
    prepared := prepared }

def encryptions (env : CustodyEnv) (header : EnvelopeHeader) (row : CustodyRow)
    (chunks : List Bytes) : List Ciphertext :=
  (framesOf env header row.committedFrameCount row.committedCiphertextDigest chunks).map
    (·.ciphertext)

/-- The frame of the chunk that follows `done`. -/
def nextFrame (env : CustodyEnv) (header : EnvelopeHeader) (row : CustodyRow)
    (done : List Bytes) (chunk : Bytes) : EnvelopeChunk :=
  encryptFrame header (row.committedFrameCount + done.length)
    (lastDigest env header row.committedFrameCount row.committedCiphertextDigest done) chunk

/-- An append that has committed `done` and has encrypted `ahead`, too. -/
structure AppendState where
  done : List Bytes
  ahead : List Bytes := []
  prepared : Option PreparedFrame := none
  extra : List EnvelopeRecord := []
  partialBytes : Nat := 0

def AppendState.objectOf (env : CustodyEnv) (object : CustodyObject) (row : CustodyRow)
    (header : EnvelopeHeader) (chunks : List Bytes) (state : AppendState) : CustodyObject :=
  { object with
    row := some (row.advance env header state.done state.prepared)
    pending := some ⟨committedRecords env header (chunks ++ state.done) ++ state.extra,
      state.partialBytes⟩ }

def AppendState.custodyOf (env : CustodyEnv) (custody : Custody) (custodyRef : CustodyRef)
    (row : CustodyRow) (header : EnvelopeHeader) (chunks : List Bytes) (state : AppendState) :
    Custody :=
  custody.place custodyRef (state.objectOf env (custody.objects custodyRef) row header chunks)
    (custody.encrypted ++ encryptions env header row (state.done ++ state.ahead))

theorem encryptions_append : encryptions env header row (before ++ after) =
      encryptions env header row before ++
        encryptions env header (row.advance env header before none) after := by
  unfold encryptions
  rw [framesOf_append, List.map_append]
  rfl

theorem advance_snoc : row.advance env header (done ++ [chunk]) none =
      { row with
        committedPlaintextBytes := row.committedPlaintextBytes + done.flatten.length + chunk.length
        committedFrameCount := row.committedFrameCount + done.length + 1
        committedCiphertextDigest := env.frameDigest (nextFrame env header row done chunk)
        prepared := none } := by
  unfold CustodyRow.advance
  rw [lastDigest_append, List.flatten_append, List.length_append, List.length_append,
    ← Nat.add_assoc, List.flatten_singleton]
  rfl

theorem Committed.advance (holds : Committed env custodyRef row header chunks)
    (cut : WellCut done) (fits : (chunks ++ done).flatten.length ≤ custodyRef.expectedByteSize)
    (prepared : Option PreparedFrame) :
    Committed env custodyRef (row.advance env header done prepared) header (chunks ++ done) where
  reference := holds.reference
  valid := holds.valid
  envelope := holds.envelope
  cut := holds.cut.append cut
  frames := by
    rw [List.length_append, ← holds.frames]
    rfl
  bytes := by
    rw [List.flatten_append, List.length_append, ← holds.bytes]
    rfl
  digest := by
    rw [lastDigest_append, Nat.zero_add, ← holds.digest, ← holds.frames]
    rfl
  bounded := fits

include holds in
theorem Staged.advance {state : AppendState} (cut : WellCut state.done)
    (fits : (chunks ++ state.done).flatten.length ≤ custodyRef.expectedByteSize) :
    Staged env custodyRef (state.objectOf env object row header chunks)
      (row.advance env header state.done state.prepared) header (chunks ++ state.done) where
  toCommitted := holds.toCommitted.advance cut fits state.prepared
  present := rfl
  staging := holds.staging
  pending := ⟨state.extra, state.partialBytes, rfl⟩
  stored := by
    intro records published
    obtain ⟨same, complete⟩ := holds.stored records published
    -- a published object is complete, so nothing has been appended to it
    have nothing : state.done = [] := by
      have size := complete.size
      have length := cut.length_le
      rw [List.flatten_append, List.length_append] at fits
      apply List.eq_nil_of_length_eq_zero
      omega
    rw [nothing, List.append_nil]
    exact ⟨same, complete⟩
  artifact := holds.artifact

theorem Committed.committedRecords_append (holds : Committed env custodyRef row header chunks) :
    committedRecords env header (chunks ++ done ++ [chunk]) =
      committedRecords env header (chunks ++ done) ++
        [.chunk (nextFrame env header row done chunk)] := by
  unfold committedRecords nextFrame
  rw [framesOf_append, List.map_append, lastDigest_append, List.length_append, Nat.zero_add,
    Nat.zero_add, ← holds.digest, ← holds.frames]
  rfl

section Steps

variable {failed : CustodyError → Custody → Prop} {crash : Custody → Prop} {start : Custody}
  {encrypted : List Ciphertext}

section

variable (next : Custody) (here : start = custody.place custodyRef object encrypted)
include next here

theorem updateRow_at (present : object.row = some row) (staging : row.isStaging = true)
    (passes : condition row = true)
    (writes : custody.place custodyRef { object with row := some (step row) } encrypted = next)
    (keeps : crash next) :
    Triple (fun disk => disk = start) (updateRow custodyRef condition step error)
      (fun updated disk => updated = () ∧ disk = next) failed crash := by
  have written : start.change custodyRef (·.setRow step) = next := by
    rw [here, Custody.change_place, ← writes]
    unfold CustodyObject.setRow
    rw [present, Option.map_some]
  apply triple_read_at ()
  · rw [here, Custody.place_self, present, Option.any_some, staging, passes]
    rfl
  exact triple_write_last next written keeps

theorem writeRecord_at (pending : object.pending = some ⟨records, 0⟩)
    (writes : custody.place custodyRef
      { object with pending := some ⟨records ++ [record], 0⟩ } encrypted = next)
    (torn : crash (custody.place custodyRef
      { object with pending := some ⟨records, partialBytes⟩ } encrypted))
    (written : crash next) :
    Triple (fun disk => disk = start) (writeRecord custodyRef record partialBytes)
      (fun done disk => done = () ∧ disk = next) failed crash := by
  apply triple_write_at (custody.place custodyRef
    { object with pending := some ⟨records, partialBytes⟩ } encrypted)
  · rw [here, Custody.change_place]
    unfold CustodyObject.setPending
    rw [pending, Option.map_some]
  · exact torn
  apply triple_write_last next _ written
  rw [← writes]
  exact Custody.change_place _ _ _ _ _

end

end Steps

theorem appendChunks_staged (failed : CustodyError → Custody → Prop)
    (holds : Committed env custodyRef row header chunks) (staging : row.isStaging = true)
    (partialBytes : Nat) (rest done : List Bytes)
    (small : row.committedFrameCount + (done ++ rest).length ≤ 0xffffffff)
    (kept : ∀ (state : AppendState) later, state.done ++ state.ahead ++ later = done ++ rest →
      state.ahead.length ≤ 1 → crash (state.custodyOf env custody custodyRef row header chunks)) :
    Triple (fun disk => disk = AppendState.custodyOf env custody custodyRef row header chunks ⟨done, [], none, [], 0⟩)
      (appendChunks env custodyRef header partialBytes rest
        (row.committedPlaintextBytes + done.flatten.length) (row.committedFrameCount + done.length)
        (lastDigest env header row.committedFrameCount row.committedCiphertextDigest done))
      (fun _ disk => disk = AppendState.custodyOf env custody custodyRef row header chunks ⟨done ++ rest, [], none, [], 0⟩)
      failed crash := by
  induction rest generalizing done with
  | nil =>
    apply triple_pure_at
    rw [List.append_nil]
  | cons chunk rest induction =>
    rw [List.length_append, List.length_cons] at small
    let frame := nextFrame env header row done chunk
    let prepared : PreparedFrame :=
      ⟨row.committedPlaintextBytes + done.flatten.length + chunk.length,
        row.committedFrameCount + done.length + 1, env.frameDigest frame⟩
    have visited : ∀ state : AppendState, state.done = done → state.ahead = [chunk] →
        crash (state.custodyOf env custody custodyRef row header chunks) := by
      intro state same one
      apply kept state rest
      · rw [same, one, List.append_assoc, List.singleton_append]
      · rw [one]
        exact Nat.le_refl 1
    apply triple_require_at
    · exact decide_eq_true (by omega)
    apply triple_write_at (AppendState.custodyOf env custody custodyRef row header chunks
      ⟨done, [chunk], none, [], 0⟩)
    · change custody.place custodyRef _ (custody.encrypted ++
        encryptions env header row (done ++ []) ++ [frame.ciphertext]) = _
      rw [List.append_nil, List.append_assoc]
      unfold AppendState.custodyOf
      rw [encryptions_append]
      rfl
    · exact visited _ rfl rfl
    have current : (row.advance env header done none).isStaging = true := staging
    refine triple_bind_at () (AppendState.custodyOf env custody custodyRef row header chunks
      ⟨done, [chunk], some prepared, [], 0⟩) ?_ ?_
    · apply updateRow_at _ rfl rfl current
      · simp [CustodyRow.advance]
      · rfl
      · exact visited _ rfl rfl
    refine triple_bind_at () (AppendState.custodyOf env custody custodyRef row header chunks
      ⟨done, [chunk], some prepared, [.chunk frame], 0⟩) ?_ ?_
    · apply writeRecord_at _ rfl rfl
      · rw [List.append_nil]
        rfl
      · exact visited ⟨done, [chunk], some prepared, [], partialBytes⟩ rfl rfl
      · exact visited _ rfl rfl
    have committed : AppendState.custodyOf env custody custodyRef row header chunks
        ⟨done ++ [chunk], [], none, [], 0⟩ = custody.place custodyRef
          { custody.objects custodyRef with
            row := some (row.advance env header (done ++ [chunk]) none)
            pending := some ⟨committedRecords env header (chunks ++ done) ++ [.chunk frame], 0⟩ }
          (custody.encrypted ++ encryptions env header row (done ++ [chunk])) := by
      unfold AppendState.custodyOf AppendState.objectOf
      rw [List.append_nil, List.append_nil, ← List.append_assoc, holds.committedRecords_append]
    refine triple_bind_at () (AppendState.custodyOf env custody custodyRef row header chunks
      ⟨done ++ [chunk], [], none, [], 0⟩) ?_ ?_
    · have waiting : (row.advance env header done (some prepared)).isStaging = true := staging
      apply updateRow_at _ rfl rfl waiting
      · simp [CustodyRow.advance, prepared, frame, nextFrame]
      · rw [committed, advance_snoc]
        rfl
      · apply kept _ rest
        · simp
        · exact Nat.zero_le 1
    have tail := induction (done ++ [chunk]) (by simp; omega) (by simpa using kept)
    rw [List.append_assoc, List.singleton_append, lastDigest_append] at tail
    simp only [List.flatten_append, List.flatten_singleton, List.length_append,
      List.length_singleton, ← Nat.add_assoc] at tail
    exact tail

end LicoMesh.UploadCustody
