import LicoMesh.UploadCustody.Reads
import LicoMesh.UploadCustody.Nonces

namespace LicoMesh.UploadCustody

open Library Program Custody List

variable {input : BeginInput} {stop : Option Nat} {call : CustodyCall} {event : CustodyEvent}
  {events : List CustodyEvent} {env : CustodyEnv} {custody next : Custody} {custodyRef : CustodyRef}
  {object : CustodyObject} {row : CustodyRow} {header : EnvelopeHeader} {chunks : List Bytes}

inductive Adds (custodyRef : CustodyRef) (content : Bytes) : CustodyCall → Bytes → Prop
  | nothing {call : CustodyCall} : Adds custodyRef content call []
  | append {input : AppendInput} {partialBytes : Nat} {piece : Bytes}
      (named : input.custodyRef = custodyRef) (owner : custodyRef.owner = input.owner)
      (offset : input.offset = content.length) (taken : piece <+: input.bytes) :
      Adds custodyRef content (.append input partialBytes) piece

def IsComplete (env : CustodyEnv) (custody : Custody) (custodyRef : CustodyRef) : Prop :=
  ∃ content, custody.plaintext env custodyRef = some content ∧ Complete env custodyRef content

def Reports (env : CustodyEnv) (custody : Custody) (status : CustodyStatus) : Prop :=
  ∃ content, custody.plaintext env status.custodyRef = some content ∧
    content.length = status.nextOffset

/-- What a call that succeeds has done: an append has all its bytes committed where the content
ended, and a seal has found the declared content. -/
def Delivers (env : CustodyEnv) (custody : Custody) : CustodyCall → Custody → Prop
  | .append input _, next => ∃ before, custody.plaintext env input.custodyRef = some before ∧
      before.length = input.offset ∧
      next.plaintext env input.custodyRef = some (before ++ input.bytes)
  | .seal custodyRef _ _, _ => IsComplete env custody custodyRef
  | _, _ => True

/-- A seal by the owner fails only without the declared content. -/
def Refuses (env : CustodyEnv) (custody : Custody) : CustodyCall → Prop
  | .seal custodyRef owner _ => custodyRef.owner = owner → ¬ IsComplete env custody custodyRef
  | _ => True

def CustodyEvent.answer (env : CustodyEnv) (custody : Custody) (event : CustodyEvent) :
    Option (Except CustodyError CustodyStatus) :=
  match event.stop with
  | none => some (event.call.perform env custody).result
  | some _ => none

open CustodyEvent

/-- Contents start empty, and no byte of them goes. -/
structure Grows (env : CustodyEnv) (custody : Custody) (call : CustodyCall) (next : Custody) :
    Prop where
  adds : ∀ custodyRef content, custody.plaintext env custodyRef = some content →
    ∃ piece, Adds custodyRef content call piece ∧
      next.plaintext env custodyRef = some (content ++ piece)
  starts : ∀ custodyRef content, custody.plaintext env custodyRef = none →
    next.plaintext env custodyRef = some content → content = []

open Grows

structure Keeps (env : CustodyEnv) (custody : Custody) (event : CustodyEvent) : Prop where
  grows : Grows env custody event.call (event.next env custody)
  rows : ∀ custodyRef row, ((event.next env custody).objects custodyRef).row = some row →
    ∃ content, (event.next env custody).plaintext env custodyRef = some content ∧
      content.length = row.committedPlaintextBytes
  delivers : ∀ status, event.answer env custody = some (.ok status) →
    Reports env (event.next env custody) status ∧
      Delivers env custody event.call (event.next env custody)
  refuses : ∀ error, event.answer env custody = some (.error error) → Refuses env custody event.call
  opens : ReadsBack env (event.next env custody)

/-- A seal does not publish an envelope that is too long for its readers, and `begin` does not fail
between the insertion of its row and the end. -/
def Fits (env : CustodyEnv) (custody : Custody) (event : CustodyEvent) : Prop :=
  match event.call with
  | .begin input => input.failure = some .status →
      rowForResource input.custodyRef.resourceRef custody ≠ none ∨
        (custody.objects input.custodyRef).pending ≠ none
  | .seal custodyRef owner _ => custodyRef.owner = owner → IsComplete env custody custodyRef →
      sealedEnvelopeBytes (custody.objects custodyRef) ≤ MAX_UPLOAD_CUSTODY_ENVELOPE_BYTES
  | _ => True

/-- No row has lost its file, and no sealed envelope is too long for its readers. -/
structure Whole (env : CustodyEnv) (custody : Custody) : Prop extends Sound env custody where
  present : ∀ custodyRef row, ¬ Lost custodyRef (custody.objects custodyRef) row
  short : ∀ custodyRef row records, (custody.objects custodyRef).row = some row →
    row.isStaging = false → (custody.objects custodyRef).stored = some records →
    envelopeBytes records ≤ MAX_UPLOAD_CUSTODY_ENVELOPE_BYTES

theorem whole_empty (env : CustodyEnv) : Whole env {} := ⟨sound_empty env, nofun, nofun⟩

inductive Held (env : CustodyEnv) (custodyRef : CustodyRef) (object : CustodyObject) : Prop
  | absent (holds : Absent object)
  | staged {row : CustodyRow} {header : EnvelopeHeader} {chunks : List Bytes}
      (holds : Staged env custodyRef object row header chunks)
  | sealed {row : CustodyRow} {header : EnvelopeHeader} {chunks : List Bytes}
      (holds : Sealed env custodyRef object row header chunks)
      (short : envelopeBytes (sealedRecords env row header chunks) ≤
        MAX_UPLOAD_CUSTODY_ENVELOPE_BYTES)

variable (whole : Whole env custody)
include whole

theorem Whole.holds (custodyRef : CustodyRef) :
    Held env custodyRef (custody.objects custodyRef) := by
  obtain ⟨view, kept⟩ := whole.kept custodyRef
  cases kept with
  | absent holds => exact .absent holds
  | staged holds => exact .staged holds
  | sealed holds =>
    exact .sealed holds (whole.short custodyRef _ _ holds.present holds.isStaging holds.stored)
  | lost holds => exact absurd holds (whole.present custodyRef _)

variable (present : (custody.objects custodyRef).row = some row)

include present in
theorem Whole.rows : ∃ content, custody.plaintext env custodyRef = some content ∧
      content.length = row.committedPlaintextBytes := by
  cases whole.holds custodyRef with
  | absent holds =>
    rw [holds.row] at present
    cases present
  | staged holds =>
    rw [holds.present] at present
    cases present
    exact ⟨_, holds.plaintext_eq, holds.bytes.symm⟩
  | sealed holds short =>
    rw [holds.present] at present
    cases present
    exact ⟨_, holds.plaintext_eq, holds.bytes.symm⟩

theorem Whole.readsBack : ReadsBack env custody := by
  intro custodyRef row digest present isSealed
  cases whole.holds custodyRef with
  | absent holds =>
    rw [holds.row] at present
    cases present
  | staged holds =>
    rw [holds.present] at present
    cases present
    have staging := holds.staging
    unfold CustodyRow.isStaging at staging
    rw [isSealed] at staging
    cases staging
  | sealed holds short =>
    rw [holds.present] at present
    cases present
    rw [holds.sealed] at isSealed
    cases isSealed
    exact ⟨_, holds.plaintext_eq, holds.complete, fun maxBytes budget =>
      holds.opens short budget⟩

omit whole

theorem Sound.reference (sound : Sound env custody)
    (present : (custody.objects custodyRef).row = some row) : row.custodyRef = custodyRef := by
  obtain ⟨view, kept⟩ := sound.kept custodyRef
  exact kept.reference present

include present in
include whole in
theorem Whole.reports : Reports env custody (statusFromRow row replayed) := by
  obtain ⟨content, reads, length⟩ := whole.rows present
  refine ⟨content, ?_, length⟩
  rw [show (statusFromRow row replayed).custodyRef = custodyRef from whole.reference present]
  exact reads

theorem plaintext_update_of_ne (custody : Custody) (object : CustodyObject)
    (different : other ≠ custodyRef) :
    (custody.update custodyRef object).plaintext env other = custody.plaintext env other := by
  unfold plaintext
  rw [update_of_ne custody object different]

include whole in
theorem Whole.update (sound : Sound env next)
    (objects : next.objects = (custody.update custodyRef object).objects)
    (own : Held env custodyRef object) : Whole env next := by
  refine ⟨sound, ?_, ?_⟩
  · intro other row lost
    rw [objects] at lost
    by_cases same : other = custodyRef
    · rw [same, update_self] at lost
      cases own with
      | absent holds =>
        have present := lost.present
        rw [holds.row] at present
        cases present
      | staged holds =>
        obtain ⟨extra, partialBytes, pending⟩ := holds.pending
        rw [lost.pending] at pending
        cases pending
      | sealed holds short =>
        have present := lost.present
        rw [holds.present] at present
        cases present
        have staging := lost.staging
        rw [holds.isStaging] at staging
        cases staging
    · rw [update_of_ne custody object same] at lost
      exact whole.present other row lost
  · intro other row records present staging stored
    rw [objects] at present stored
    by_cases same : other = custodyRef
    · rw [same, update_self] at present stored
      cases own with
      | absent holds =>
        rw [holds.row] at present
        cases present
      | staged holds =>
        rw [holds.present] at present
        cases present
        rw [holds.staging] at staging
        cases staging
      | sealed holds short =>
        rw [holds.stored] at stored
        cases stored
        exact short
    · rw [update_of_ne custody object same] at present stored
      exact whole.short other row records present staging stored

theorem begunCustody_objects (env : CustodyEnv) (custody : Custody) (input : BeginInput) :
    (begunCustody env custody input).objects = (custody.update input.custodyRef
      ((begunCustody env custody input).objects input.custodyRef)).objects := by
  simp [begunCustody, insertRow, change, withPending, update]

theorem Fits.not_lost (fits : Fits env custody ⟨.begin input, stop⟩)
    (free : custody.resources input.custodyRef.resourceRef = none)
    (unused : (custody.objects input.custodyRef).pending = none) :
    input.failure ≠ some .status := by
  intro failure
  cases fits failure with
  | inl held =>
    apply held
    unfold rowForResource
    rw [free]
    rfl
  | inr file => exact file unused

variable (fits : Fits env custody event)

include fits in
include whole in
theorem Whole.step : Whole env (event.next env custody) := by
  have sound := next_sound whole.toSound event
  have effect := next_effect whole.toSound event
  obtain ⟨call, stop⟩ := event
  revert sound effect
  generalize next env custody ⟨call, stop⟩ = next
  intro sound effect
  cases effect with
  | unchanged => exact whole
  | recovered call before after => exact whole.update sound rfl (.staged after)
  | appended state before continues split one =>
    exact whole.update sound rfl (.staged (before.appended continues split))
  | @sealed _ _ _ _ _ _ _ chunks owns before after =>
    apply whole.update sound rfl
    apply Held.sealed after
    have limit := fits owns ⟨chunks.flatten, before.plaintext_eq, after.complete⟩
    rw [before.sealedEnvelopeBytes_eq, before.toCommitted.envelopeBytes_sealedRecords,
      before.bytes, before.frames] at limit
    rw [after.toCommitted.envelopeBytes_sealedRecords, after.bytes, after.frames]
    exact limit
  | headerless absent none later =>
    exact whole.update sound rfl (.absent (absent.withPending _))
  | drawn absent => exact whole.update sound rfl (.absent (absent.withPending _))
  | inserted absent free =>
    exact whole.update sound (begunCustody_objects env custody _)
      (.staged (begunCustody_staged env absent))
  | lost absent free unused failure => exact absurd failure (Fits.not_lost fits free unused)

variable (objects : next.objects = (custody.update custodyRef object).objects)
include objects

theorem Grows.update (own : ∀ content, custody.plaintext env custodyRef = some content →
      ∃ piece, Adds custodyRef content call piece ∧
        committedPlaintext env object = some (content ++ piece))
    (fresh : ∀ content, custody.plaintext env custodyRef = none →
      committedPlaintext env object = some content → content = []) :
    Grows env custody call next := by
  have plaintext : ∀ other, next.plaintext env other =
      (custody.update custodyRef object).plaintext env other := by
    intro other
    unfold plaintext
    rw [objects]
  have self : (custody.update custodyRef object).plaintext env custodyRef =
      committedPlaintext env object := by
    unfold Custody.plaintext
    rw [update_self]
  refine ⟨?_, ?_⟩
  · intro other content reads
    rw [plaintext]
    by_cases same : other = custodyRef
    · rw [same] at reads ⊢
      rw [self]
      exact own content reads
    · rw [plaintext_update_of_ne custody object same, reads]
      exact ⟨[], .nothing, by rw [append_nil]⟩
  · intro other content before after
    rw [plaintext] at after
    by_cases same : other = custodyRef
    · rw [same] at before after
      rw [self] at after
      exact fresh content before after
    · rw [plaintext_update_of_ne custody object same, before] at after
      cases after

theorem Grows.same (same : committedPlaintext env object = custody.plaintext env custodyRef) :
    Grows env custody call next := by
  apply update objects
  · intro content reads
    rw [same, reads]
    exact ⟨[], .nothing, by rw [append_nil]⟩
  · intro content before after
    rw [same, before] at after
    cases after

omit objects

include fits in
include whole in
theorem Whole.grows : Grows env custody event.call (event.next env custody) := by
  have effect := next_effect whole.toSound event
  obtain ⟨call, stop⟩ := event
  revert effect
  generalize next env custody ⟨call, stop⟩ = next
  intro effect
  cases effect with
  | unchanged =>
    refine ⟨fun other content reads => ⟨[], .nothing, ?_⟩, ?_⟩
    · rw [append_nil]
      exact reads
    · intro other content before after
      rw [before] at after
      cases after
  | recovered call before after =>
    exact same rfl (after.plaintext_eq.trans before.plaintext_eq.symm)
  | @appended input partialBytes row header chunks state before continues split one =>
    have after := before.appended continues split
    have objects : (state.custodyOf env custody input.custodyRef row.unprepared
      header chunks).objects = (custody.update input.custodyRef _).objects := rfl
    apply Grows.update objects
    · intro content reads
      obtain rfl : chunks.flatten = content :=
        Option.some.inj (before.plaintext_eq.symm.trans reads)
      refine ⟨state.done.flatten, ?_, ?_⟩
      · refine .append rfl continues.owner continues.offset ?_
        obtain ⟨later, whole⟩ := split
        rw [← flatten_chunksOf input.bytes, ← whole, append_assoc, flatten_append]
        exact prefix_append _ _
      · rw [after.plaintext_eq, flatten_append]
    · intro content absent
      have reads := before.plaintext_eq.symm.trans absent
      cases reads
  | sealed owns before after =>
    exact same rfl (after.plaintext_eq.trans before.plaintext_eq.symm)
  | headerless absent none later =>
    exact same rfl ((absent.withPending _).plaintext_eq.trans absent.plaintext_eq.symm)
  | drawn absent =>
    exact same rfl ((absent.withPending _).plaintext_eq.trans absent.plaintext_eq.symm)
  | inserted absent free =>
    have staged := begunCustody_staged env absent
    apply Grows.update (begunCustody_objects env custody _)
    · intro content reads
      have missing := absent.plaintext_eq.symm.trans reads
      cases missing
    · intro content _ reads
      exact (Option.some.inj (staged.plaintext_eq.symm.trans reads)).symm
  | lost absent free unused failure => exact absurd failure (Fits.not_lost fits free unused)

def Answered (env : CustodyEnv) (custody : Custody) (call : CustodyCall) (status : CustodyStatus)
    (next : Custody) : Prop :=
  (∃ custodyRef row replayed, (next.objects custodyRef).row = some row ∧
    status = statusFromRow row replayed) ∧ Delivers env custody call next

section Calls

variable {α : Type} {done : α → Custody → Prop} {failed : CustodyError → Custody → Prop}

include whole

include present in
theorem Whole.recoverStaging
    (tail : ∀ recovered disk, (disk.objects custodyRef).row = some recovered.row →
      Triple (fun next => next = disk) (rest recovered) done failed fun _ => True) :
    Triple (fun disk => disk = custody) (recoverStaging env row >>= rest) done failed
      fun _ => True := by
  cases whole.holds custodyRef with
  | absent holds =>
    rw [holds.row] at present
    cases present
  | @staged staged header chunks holds =>
    rw [holds.present] at present
    cases present
    apply triple_bind_at _ _ (recoverStaging_staged holds (fun _ _ _ => trivial) ⟨rfl, rfl⟩)
    apply tail
    rw [update_self]
    rfl
  | sealed holds short =>
    have there := present
    rw [holds.present] at present
    cases present
    exact recoverStaging_sealed holds.isStaging (tail ⟨_, none⟩ _ there)

theorem Whole.beginLocked (fits : Fits env custody ⟨.begin input, stop⟩) :
    Triple (fun disk => disk = custody) (beginLocked env input)
      (Answered env custody (.begin input)) (fun _ _ => True) fun _ => True := by
  apply triple_read_at (rowForResource input.custodyRef.resourceRef custody)
  · rfl
  obtain ⟨row, current, present⟩ | ⟨none, free, absent⟩ :=
    rowForResource_cases whole.toSound input.custodyRef
  · rw [current]
    by_cases same : row.custodyRef = input.custodyRef
    · apply triple_require_at
      · exact decide_eq_true same
      apply whole.recoverStaging present
      intro recovered disk there
      exact triple_pure_at ⟨⟨_, _, _, there, rfl⟩, trivial⟩
    · apply triple_require_error_at
      · exact decide_eq_false same
      · trivial
  · rw [none]
    apply triple_tryCatch (fun _ disk => Caught env custody input disk)
    · apply createPending_at absent free
      · exact ⟨⟨_, _, _, begunCustody_row env custody input, rfl⟩, trivial⟩
      · exact fun _ _ caught => caught
      · exact fun _ _ => trivial
    · intro error disk caught
      apply caught.handled free error
      · exact fun _ _ => trivial
      · exact fun _ _ => trivial
      · exact fun unused failure => absurd failure (Fits.not_lost fits free unused)
      · rfl

theorem Whole.appendLocked (input : AppendInput) (partialBytes : Nat) :
    Triple (fun disk => disk = custody) (appendLocked env input partialBytes)
      (Answered env custody (.append input partialBytes)) (fun _ _ => True) fun _ => True := by
  cases whole.holds input.custodyRef with
  | absent holds => exact missing_at holds.row trivial
  | @staged row header chunks holds =>
    apply appendLocked_staged partialBytes holds
    · exact fun _ _ _ => trivial
    · exact fun _ _ _ _ _ => trivial
    · intro continues state
      have split : state.done ++ state.ahead <+: chunksOf input.bytes :=
        ⟨[], (append_nil _).trans (append_nil _)⟩
      have after := holds.appended continues split
      have object : (state.custodyOf env custody input.custodyRef row.unprepared header
          chunks).objects input.custodyRef = _ := place_self _ _ _ _
      refine ⟨⟨input.custodyRef, _, _, ?_, rfl⟩, chunks.flatten, holds.plaintext_eq,
        continues.offset.symm, ?_⟩
      · rw [object]
        exact after.present
      · unfold plaintext
        rw [object, after.plaintext_eq, flatten_append, flatten_chunksOf]
    · exact fun _ _ => ⟨trivial, trivial⟩
  | sealed holds short =>
    apply owned_at holds.present
    · intro _
      apply recoverStaging_sealed holds.isStaging
      exact triple_throw_at trivial
    · exact fun _ => trivial

theorem Whole.sealLocked (owner : String) (partialBytes : Nat) :
    Triple (fun disk => disk = custody) (sealLocked env custodyRef owner partialBytes)
      (Answered env custody (.seal custodyRef owner partialBytes))
      (fun _ _ => Refuses env custody (.seal custodyRef owner partialBytes)) fun _ => True := by
  cases whole.holds custodyRef with
  | absent holds =>
    apply missing_at holds.row
    rintro _ ⟨content, reads, _⟩
    have missing := holds.plaintext_eq.symm.trans reads
    cases missing
  | @staged row header chunks holds =>
    apply sealLocked_staged partialBytes holds
    · exact fun _ _ _ => trivial
    · exact fun _ _ _ _ _ => trivial
    · intro owns complete object next after
      refine ⟨⟨custodyRef, next, _, ?_, rfl⟩, chunks.flatten, holds.plaintext_eq, complete⟩
      rw [update_self]
      exact after.present
    · intro refused error
      have incomplete : Refuses env custody (.seal custodyRef owner partialBytes) := by
        rintro owns ⟨content, reads, complete⟩
        cases Option.some.inj (holds.plaintext_eq.symm.trans reads)
        exact refused ⟨owns, complete⟩
      exact ⟨incomplete, incomplete⟩
  | sealed holds short =>
    apply owned_at holds.present
    · intro _
      rw [if_neg (by rw [holds.isStaging]; exact Bool.false_ne_true)]
      exact triple_pure_at ⟨⟨custodyRef, _, _, holds.present, rfl⟩, _, holds.plaintext_eq,
        holds.complete⟩
    · intro other owns
      rw [holds.reference] at other
      exact absurd owns other

theorem Whole.describeLocked (owner : String) :
    Triple (fun disk => disk = custody) (describeLocked env custodyRef owner)
      (Answered env custody (.describe custodyRef owner)) (fun _ _ => True) fun _ => True := by
  cases present : (custody.objects custodyRef).row with
  | none => exact missing_at present trivial
  | some row =>
    apply owned_at present
    · intro _
      apply whole.recoverStaging present
      intro recovered disk there
      exact triple_pure_at ⟨⟨_, _, _, there, rfl⟩, trivial⟩
    · exact fun _ => trivial

include fits in
theorem Whole.perform : Triple (fun disk => disk = custody) (event.call.perform env)
      (Answered env custody event.call) (fun _ _ => Refuses env custody event.call)
      fun _ => True := by
  obtain ⟨call, stop⟩ := event
  cases call with
  | begin input => exact whole.beginLocked fits
  | append input partialBytes => exact whole.appendLocked input partialBytes
  | «seal» custodyRef owner partialBytes => exact whole.sealLocked owner partialBytes
  | describe custodyRef owner => exact whole.describeLocked owner

end Calls

include fits in
include whole in
theorem Whole.keeps : Keeps env custody event := by
  have after := whole.step fits
  have ends := (whole.perform fits custody rfl).2
  have answered : ∀ result, event.answer env custody = some result →
      (event.call.perform env custody).result = result ∧
        (event.call.perform env custody).last = event.next env custody := by
    intro result answer
    unfold CustodyEvent.answer at answer
    unfold CustodyEvent.next
    cases stop : event.stop with
    | none =>
      rw [stop] at answer
      exact ⟨Option.some.inj answer, rfl⟩
    | some step =>
      rw [stop] at answer
      cases answer
  refine ⟨whole.grows fits, fun _ _ present => after.rows present, ?_, ?_, after.readsBack⟩
  · intro status answer
    obtain ⟨result, last⟩ := answered _ answer
    rw [result, last] at ends
    obtain ⟨⟨custodyRef, row, replayed, present, rfl⟩, delivers⟩ := ends
    exact ⟨after.reports present, delivers⟩
  · intro error answer
    obtain ⟨result, last⟩ := answered _ answer
    rw [result, last] at ends
    exact ends

/-- A content that is put together from parts of the appends of a run. -/
inductive Assembled (custodyRef : CustodyRef) : List CustodyCall → Bytes → Prop
  | start (calls : List CustodyCall) : Assembled custodyRef calls []
  | step {calls : List CustodyCall} {content : Bytes} {call : CustodyCall} {piece : Bytes}
      (before : Assembled custodyRef calls content) (adds : Adds custodyRef content call piece) :
      Assembled custodyRef (calls ++ [call]) (content ++ piece)

structure KeepsAcknowledged (env : CustodyEnv) (events : List CustodyEvent) : Prop where
  each : EachCommand (CustodyEvent.next env) (Keeps env) {} events
  assembled : ∀ custodyRef content,
    (runAll (CustodyEvent.next env) {} events).plaintext env custodyRef = some content →
    Assembled custodyRef (events.map (·.call)) content
  acknowledged : ∀ earlier event later input partialBytes status,
    events = earlier ++ event :: later → event.call = .append input partialBytes →
    event.answer env (runAll (CustodyEvent.next env) {} earlier) = some (.ok status) →
    ∃ content,
      (runAll (CustodyEvent.next env) {} events).plaintext env input.custodyRef = some content ∧
        (content.drop input.offset).take input.bytes.length = input.bytes

theorem assembled_runAll (earlier : List CustodyCall)
    (each : EachCommand (CustodyEvent.next env) (Keeps env) custody events)
    (before : ∀ content, custody.plaintext env custodyRef = some content →
      Assembled custodyRef earlier content) : ∀ content,
      (runAll (CustodyEvent.next env) custody events).plaintext env custodyRef = some content →
      Assembled custodyRef (earlier ++ events.map (·.call)) content := by
  induction events generalizing custody earlier with
  | nil =>
    rw [map_nil, append_nil]
    exact before
  | cons event rest induction =>
    obtain ⟨keeps, later⟩ := each
    have next := induction (earlier ++ [event.call]) later (by
      intro content reads
      cases reading : custody.plaintext env custodyRef with
      | none =>
        rw [keeps.grows.starts custodyRef content reading reads]
        exact .start _
      | some old =>
        obtain ⟨piece, adds, now⟩ := keeps.grows.adds custodyRef old reading
        cases Option.some.inj (now.symm.trans reads)
        exact .step (before old reading) adds)
    rw [append_assoc] at next
    exact next

theorem plaintext_runAll (each : EachCommand (CustodyEvent.next env) (Keeps env) custody events)
    (reads : custody.plaintext env custodyRef = some content) :
    ∃ later, (runAll (CustodyEvent.next env) custody events).plaintext env custodyRef =
      some (content ++ later) := by
  induction events generalizing custody content with
  | nil => exact ⟨[], by rw [append_nil]; exact reads⟩
  | cons event rest induction =>
    obtain ⟨piece, _, now⟩ := each.1.grows.adds custodyRef content reads
    obtain ⟨later, last⟩ := induction each.2 now
    refine ⟨piece ++ later, ?_⟩
    rw [← append_assoc]
    exact last

theorem keepsAcknowledged_of_each
    (each : EachCommand (CustodyEvent.next env) (Keeps env) {} events) :
    KeepsAcknowledged env events := by
  refine ⟨each, ?_, ?_⟩
  · intro custodyRef
    have before : ∀ content, ({} : Custody).plaintext env custodyRef = some content →
        Assembled custodyRef [] content := nofun
    exact assembled_runAll [] each before
  · rintro earlier event later input partialBytes status rfl append answer
    obtain ⟨_, keeps, after⟩ := EachCommand.append_iff.mp each
    have delivers := (keeps.delivers status answer).2
    rw [append] at delivers
    obtain ⟨before, reads, length, now⟩ := delivers
    obtain ⟨more, last⟩ := plaintext_runAll after now
    refine ⟨_, by rw [runAll_append]; exact last, ?_⟩
    rw [append_assoc, ← length, drop_left, take_left]

/-- In a run that publishes no envelope that is too long, custody keeps the bytes that it
acknowledged and reads back what it sealed. -/
theorem custody_keeps_acknowledged (env : CustodyEnv) {events : List CustodyEvent}
    (fits : EachCommand (CustodyEvent.next env) (Fits env) {} events) :
    KeepsAcknowledged env events := by
  apply keepsAcknowledged_of_each
  suffices each : ∀ custody, Whole env custody →
      EachCommand (CustodyEvent.next env) (Fits env) custody events →
      EachCommand (CustodyEvent.next env) (Keeps env) custody events from
    each {} (whole_empty env) fits
  clear fits
  induction events with
  | nil => exact fun _ _ _ => trivial
  | cons event rest induction =>
    intro custody whole fits
    exact ⟨whole.keeps fits.1, induction _ (whole.step fits.1) fits.2⟩

/-- An upload of two bytes. -/
theorem custody_keeps_acknowledged_sample : KeepsAcknowledged sampleEnv
    [sampleBegin, sampleAppend [1] (some 1), sampleAppend [1, 2] none,
      { call := .seal sampleDeclaration "owner" 0 }] := by
  apply custody_keeps_acknowledged
  refine ⟨nofun, trivial, trivial, ?_, trivial⟩
  intro _ _
  decide +kernel

def fineDeclaration : Declaration :=
  { sampleDeclaration with expectedByteSize := 6000000, sizeBounded := by decide }

def fineBegin : BeginInput := ⟨fineDeclaration, 7, 0, none⟩

def byteAppend (offset : Nat) : CustodyEvent :=
  { call := .append ⟨fineDeclaration, "owner", offset, [0]⟩ 0 }

def fineUpload (bytes : Nat) : List CustodyEvent :=
  { call := .begin fineBegin } :: (range bytes).map byteAppend

theorem append_staged {input : AppendInput} (partialBytes : Nat)
    (holds : Staged env input.custodyRef (custody.objects input.custodyRef) row header chunks)
    (continues : Continues chunks input) :
    ∃ later, Staged env input.custodyRef ((CustodyEvent.next env custody
      { call := .append input partialBytes }).objects input.custodyRef) later header
      (chunks ++ chunksOf input.bytes) := by
  let state : AppendState := ⟨chunksOf input.bytes, [], none, [], 0⟩
  have split : state.done ++ state.ahead <+: chunksOf input.bytes :=
    ⟨[], (append_nil _).trans (append_nil _)⟩
  have after := holds.appended continues split
  have run : Triple (fun disk => disk = custody) (UploadCustody.appendLocked env input partialBytes)
      (fun _ disk => disk =
        state.custodyOf env custody input.custodyRef row.unprepared header chunks)
      (fun _ _ => False) fun _ => True := by
    apply appendLocked_staged partialBytes holds
    · exact fun _ _ _ => trivial
    · exact fun _ _ _ _ _ => trivial
    · exact fun _ => rfl
    · exact fun refused => absurd continues refused
  obtain ⟨_, ends⟩ := run custody rfl
  have last : next env custody { call := .append input partialBytes } =
      state.custodyOf env custody input.custodyRef row.unprepared header chunks := by
    unfold Ends at ends
    split at ends
    · exact ends
    · exact ends.elim
  rw [last]
  have object : (state.custodyOf env custody input.custodyRef row.unprepared header
      chunks).objects input.custodyRef = _ := place_self _ _ _ _
  rw [object]
  exact ⟨_, after⟩

theorem fineUpload_staged (bytes : Nat) (small : bytes ≤ 6000000) :
    ∃ row header, Staged sampleEnv fineDeclaration
      ((runAll (CustodyEvent.next sampleEnv) {} (fineUpload bytes)).objects fineDeclaration) row
      header (replicate bytes [0]) := by
  induction bytes with
  | zero =>
    have absent : Absent (({} : Custody).objects fineBegin.custodyRef) := ⟨rfl, rfl, rfl⟩
    exact ⟨_, _, begunCustody_staged sampleEnv absent⟩
  | succ bytes induction =>
    obtain ⟨row, header, holds⟩ := induction (by omega)
    have split : fineUpload (bytes + 1) = fineUpload bytes ++ [byteAppend bytes] := by
      unfold fineUpload
      rw [range_succ, map_append]
      rfl
    have length : (replicate bytes ([0] : Bytes)).flatten.length = bytes := by simp
    have continues : Continues (replicate bytes [0])
        ⟨fineDeclaration, "owner", bytes, [0]⟩ := by
      refine ⟨rfl, length.symm, ?_⟩
      rw [length]
      exact small
    obtain ⟨later, after⟩ := append_staged 0 holds continues
    rw [split, runAll_append, replicate_succ']
    exact ⟨later, header, after⟩

theorem length_le_envelopeBytes (env : CustodyEnv) (header : EnvelopeHeader) (chunks : List Bytes) :
    182 * chunks.length ≤ envelopeBytes (committedRecords env header chunks) := by
  have frames : ∀ index digest, 182 * chunks.length ≤
      ((framesOf env header index digest chunks).map EnvelopeChunk.byteLength).sum := by
    induction chunks with
    | nil => exact fun _ _ => Nat.zero_le _
    | cons chunk rest induction =>
      intro index digest
      have later := induction (index + 1)
        (env.frameDigest (encryptFrame header index digest chunk))
      have constants : 182 ≤ "\x7b\"type\":\"chunk\",\"index\":".length +
          ",\"plaintextBytes\":".length + ",\"previousFrameDigest\":\"\"".length +
          digestLength + ",\"ciphertext\":\"\"".length +
          ",\"tag\":\"\"\x7d\n".length + base64Length 16 := by decide
      have first : 182 ≤ (encryptFrame header index digest chunk).byteLength := by
        unfold EnvelopeChunk.byteLength
        omega
      rw [framesOf, map_cons, sum_cons, length_cons]
      omega
  unfold committedRecords envelopeBytes
  rw [map_cons, sum_cons, map_map]
  exact Nat.le_trans (frames 0 ZERO_DIGEST) (Nat.le_add_left _ _)

theorem seal_staged (partialBytes : Nat)
    (holds : Staged env custodyRef (custody.objects custodyRef) row header chunks)
    (owns : custodyRef.owner = owner) (complete : Complete env custodyRef chunks.flatten) :
    ∃ later, Sealed env custodyRef ((CustodyEvent.next env custody
      { call := .seal custodyRef owner partialBytes }).objects custodyRef) later header chunks := by
  have run : Triple (fun disk => disk = custody)
      (UploadCustody.sealLocked env custodyRef owner partialBytes)
      (fun _ disk => ∃ later, Sealed env custodyRef (disk.objects custodyRef) later header chunks)
      (fun _ _ => False) fun _ => True := by
    apply sealLocked_staged partialBytes holds
    · exact fun _ _ _ => trivial
    · exact fun _ _ _ _ _ => trivial
    · intro _ _ object next after
      rw [update_self]
      exact ⟨next, after⟩
    · exact fun refused => absurd ⟨owns, complete⟩ refused
  obtain ⟨_, ends⟩ := run custody rfl
  unfold Ends at ends
  split at ends
  · exact ends
  · exact ends.elim

/-- An upload of 6,000,000 bytes in appends of one byte is sealed and cannot be read. -/
theorem fine_upload_unreadable : ¬ KeepsAcknowledged sampleEnv
    (fineUpload 6000000 ++ [{ call := .seal fineDeclaration "owner" 0 }]) := by
  intro keeps
  obtain ⟨row, header, holds⟩ := fineUpload_staged 6000000 (Nat.le_refl _)
  have complete : Complete sampleEnv fineDeclaration
      (replicate 6000000 ([0] : Bytes)).flatten := by
    refine ⟨?_, rfl⟩
    rw [length_flatten, map_replicate, sum_replicate]
    rfl
  have owns : fineDeclaration.owner = "owner" := rfl
  obtain ⟨later, holds⟩ := seal_staged 0 holds owns complete
  have last := (EachCommand.append_iff.mp keeps.each).2.1.opens
  obtain ⟨content, _, _, opens⟩ := last fineDeclaration later _ holds.present holds.sealed
  have long : MAX_UPLOAD_CUSTODY_ENVELOPE_BYTES < envelopeBytes
      (sealedRecords sampleEnv later header (replicate 6000000 [0])) := by
    have frames := length_le_envelopeBytes sampleEnv header
      (replicate 6000000 ([0] : Bytes))
    have limit : MAX_UPLOAD_CUSTODY_ENVELOPE_BYTES < 182 * 6000000 := by decide
    rw [length_replicate] at frames
    rw [holds.toCommitted.envelopeBytes_sealedRecords]
    omega
  have refused := holds.too_long long (Nat.le_refl _)
  rw [opens _ (Nat.le_refl _)] at refused
  cases refused

end LicoMesh.UploadCustody
