import LicoMesh.UploadCustody.Calls

namespace LicoMesh.UploadCustody

open Library Program Option Function

variable {input : BeginInput} {object : CustodyObject} {view : View}

structure Sound (env : CustodyEnv) (custody : Custody) : Prop where
  kept : ∀ custodyRef, ∃ view, Kept env custodyRef (custody.objects custodyRef) view
  indexed : ∀ custodyRef row, (custody.objects custodyRef).row = some row →
    custody.resources custodyRef.resourceRef = some custodyRef
  held : ∀ resourceRef custodyRef, custody.resources resourceRef = some custodyRef →
    (custody.objects custodyRef).row.isSome

def CustodyCall.custodyRef : CustodyCall → CustodyRef
  | .begin input => input.custodyRef
  | .append input _ => input.custodyRef
  | .seal custodyRef _ _ => custodyRef
  | .describe custodyRef _ => custodyRef

def Custody.withPending (custody : Custody) (custodyRef : CustodyRef)
    (pending : Option PendingFile) (drawn : Nat) : Custody :=
  { custody.update custodyRef { custody.objects custodyRef with pending := pending } with
    drawn := drawn }

theorem change_withPending (custody : Custody) (custodyRef : CustodyRef)
    (pending next : Option PendingFile) (drawn : Nat) :
    ((custody.withPending custodyRef pending drawn).change custodyRef fun object =>
      { object with pending := next }) = custody.withPending custodyRef next drawn := by
  simp [Custody.withPending, Custody.change, Custody.update]

/-- The custody after the row of a `begin` is inserted. -/
def begunCustody (env : CustodyEnv) (custody : Custody) (input : BeginInput) : Custody :=
  insertRow input.custodyRef custody.drawn (custody.withPending input.custodyRef
    (some ⟨[.header (newHeader env custody.drawn input.noncePrefix)], 0⟩) (custody.drawn + 1))

inductive Effect (env : CustodyEnv) (custody : Custody) : CustodyCall → Custody → Prop
  | unchanged {call : CustodyCall} : Effect env custody call custody
  | recovered (call : CustodyCall) {object : CustodyObject} {row next : CustodyRow}
      {header : EnvelopeHeader} {chunks : List Bytes}
      (before : Staged env call.custodyRef (custody.objects call.custodyRef) row header chunks)
      (after : Staged env call.custodyRef object next header chunks) :
      Effect env custody call (custody.update call.custodyRef object)
  | appended {input : AppendInput} {partialBytes : Nat} {row : CustodyRow}
      {header : EnvelopeHeader} {chunks : List Bytes} (state : AppendState)
      (before : Staged env input.custodyRef (custody.objects input.custodyRef) row header chunks)
      (continues : Continues chunks input)
      (split : state.done ++ state.ahead <+: chunksOf input.bytes)
      (one : state.ahead.length ≤ 1) : Effect env custody (.append input partialBytes)
        (state.custodyOf env custody input.custodyRef row.unprepared header chunks)
  | sealed {custodyRef : CustodyRef} {owner : String} {partialBytes : Nat}
      {object : CustodyObject} {row next : CustodyRow} {header : EnvelopeHeader}
      {chunks : List Bytes} (owns : custodyRef.owner = owner)
      (before : Staged env custodyRef (custody.objects custodyRef) row header chunks)
      (after : Sealed env custodyRef object next header chunks) :
      Effect env custody (.seal custodyRef owner partialBytes) (custody.update custodyRef object)
  | headerless {input : BeginInput} {pending : Option PendingFile} {drawn : Nat}
      (absent : Absent (custody.objects input.custodyRef))
      (none : headerOf { pending := pending } = none) (later : custody.drawn ≤ drawn) :
      Effect env custody (.begin input) (custody.withPending input.custodyRef pending drawn)
  | drawn {input : BeginInput} (absent : Absent (custody.objects input.custodyRef)) :
      Effect env custody (.begin input) (custody.withPending input.custodyRef
        (some ⟨[.header (newHeader env custody.drawn input.noncePrefix)], 0⟩) (custody.drawn + 1))
  | inserted {input : BeginInput} (absent : Absent (custody.objects input.custodyRef))
      (free : custody.resources input.custodyRef.resourceRef = none) :
      Effect env custody (.begin input) (begunCustody env custody input)
  | lost {input : BeginInput} (absent : Absent (custody.objects input.custodyRef))
      (free : custody.resources input.custodyRef.resourceRef = none)
      (unused : (custody.objects input.custodyRef).pending = none)
      (failure : input.failure = some .status) :
      Effect env custody (.begin input) ((begunCustody env custody input).change input.custodyRef
        fun object => { object with pending := .none })

variable {env : CustodyEnv} {custody : Custody}

section Begin

variable {input : BeginInput} {custodyRef : CustodyRef}

theorem Kept.reference (kept : Kept env custodyRef object view)
    (present : object.row = some row) : row.custodyRef = custodyRef := by
  cases kept with
  | absent holds =>
    rw [holds.row] at present
    cases present
  | staged holds =>
    rw [holds.present] at present
    cases present
    exact holds.reference
  | sealed holds =>
    rw [holds.present] at present
    cases present
    exact holds.reference
  | lost holds =>
    rw [holds.present] at present
    cases present
    exact holds.reference

theorem Kept.absent_of_row (kept : Kept env custodyRef object view) (none : object.row = none) :
    Absent object := by
  cases kept with
  | absent holds => exact holds
  | staged holds =>
    rw [holds.present] at none
    cases none
  | sealed holds =>
    rw [holds.present] at none
    cases none
  | lost holds =>
    rw [holds.present] at none
    cases none

theorem rowForResource_cases (sound : Sound env custody) (custodyRef : CustodyRef) :
    (∃ row, rowForResource custodyRef.resourceRef custody = some row ∧
      (custody.objects row.custodyRef).row = some row) ∨
    (rowForResource custodyRef.resourceRef custody = none ∧
      custody.resources custodyRef.resourceRef = none ∧
      Absent (custody.objects custodyRef)) := by
  unfold rowForResource
  cases held : custody.resources custodyRef.resourceRef with
  | some holder =>
    obtain ⟨row, present⟩ := isSome_iff_exists.mp (sound.held _ _ held)
    obtain ⟨view, kept⟩ := sound.kept holder
    refine .inl ⟨row, present, ?_⟩
    rw [kept.reference present]
    exact present
  | none =>
    refine .inr ⟨rfl, rfl, ?_⟩
    obtain ⟨view, kept⟩ := sound.kept custodyRef
    apply kept.absent_of_row
    cases present : (custody.objects custodyRef).row with
    | none => rfl
    | some row =>
      rw [sound.indexed _ _ present] at held
      cases held

variable {α : Type} {done : α → Custody → Prop} {failed : CustodyError → Custody → Prop}
  {crash : Custody → Prop} {start : Custody}

theorem failAt_at {failure : Option BeginFailure}
    (fails : failure = some place → failed .external start) (goes : failure ≠ some place →
      Triple (fun disk => disk = start) (rest ()) done failed crash) :
    Triple (fun disk => disk = start) (failAt failure place >>= rest) done failed crash := by
  by_cases chosen : failure = some place
  · apply triple_require_error_at
    · exact decide_eq_false (fun other => other chosen)
    · exact fails chosen
  · apply triple_require_at
    · exact decide_eq_true chosen
    · exact goes chosen

theorem begunCustody_row (env : CustodyEnv) (custody : Custody) (input : BeginInput) :
    ((begunCustody env custody input).objects input.custodyRef).row =
      some (newRow input.custodyRef custody.drawn) := by
  simp [begunCustody, insertRow, Custody.change]

/-- Where the handler of `begin` may start. -/
inductive Caught (env : CustodyEnv) (custody : Custody) (input : BeginInput) : Custody → Prop
  | untouched : Caught env custody input custody
  | created : Caught env custody input (custody.withPending input.custodyRef
      (some ⟨[], input.partialBytes⟩) custody.drawn)
  | drawn : Caught env custody input (custody.withPending input.custodyRef
      (some ⟨[.header (newHeader env custody.drawn input.noncePrefix)], 0⟩) (custody.drawn + 1))
  | inserted (unused : (custody.objects input.custodyRef).pending = none)
      (failure : input.failure = some .status) :
      Caught env custody input (begunCustody env custody input)

variable (absent : Absent (custody.objects input.custodyRef))
  (free : custody.resources input.custodyRef.resourceRef = none)
  {done : CustodyStatus → Custody → Prop}

include free in
include absent in
theorem createPending_at
    (ends : done (statusFromRow (newRow input.custodyRef custody.drawn) (some false))
      (begunCustody env custody input))
    (fails : ∀ error disk, Caught env custody input disk → failed error disk)
    (visits : ∀ disk, Effect env custody (.begin input) disk → crash disk) :
    Triple (fun disk => disk = custody) (createPending env input) done failed crash := by
  apply failAt_at
  · exact fun _ => fails _ _ .untouched
  intro _
  by_cases empty : (custody.objects input.custodyRef).pending.isNone = true
  swap
  · apply triple_require_error_at
    · exact eq_false_of_ne_true empty
    · exact fails _ _ .untouched
  apply triple_require_at
  · exact empty
  apply triple_read_at custody.drawn
  · rfl
  apply triple_write_at (custody.withPending input.custodyRef (some ⟨[], input.partialBytes⟩)
    custody.drawn)
  · rfl
  · exact visits _ (.headerless absent rfl (Nat.le_refl _))
  apply failAt_at
  · exact fun _ => fails _ _ .created
  intro _
  apply triple_write_at (custody.withPending input.custodyRef
    (some ⟨[.header (newHeader env custody.drawn input.noncePrefix)], 0⟩) (custody.drawn + 1))
  · simp [Custody.withPending, Custody.change, Custody.update]
  · exact visits _ (.drawn absent)
  apply failAt_at
  · exact fun _ => fails _ _ .drawn
  intro _
  apply triple_require_at
  · simp [Custody.withPending, Custody.update, absent.row, free]
  apply triple_write_at (begunCustody env custody input)
  · rfl
  · exact visits _ (.inserted absent free)
  apply failAt_at
  · exact fun failure => fails _ _ (.inserted (isNone_iff_eq_none.mp empty) failure)
  intro _
  exact status_at (begunCustody_row env custody input) ends

theorem recoverRaced_free (removed : (start.change input.custodyRef fun object =>
      { object with pending := .none }) = custody.withPending input.custodyRef none drawn)
    (free : start.resources input.custodyRef.resourceRef = none) (error : CustodyError)
    (fails : failed error (custody.withPending input.custodyRef none drawn))
    (visits : crash (custody.withPending input.custodyRef none drawn)) :
    Triple (fun disk => disk = start) (recoverRaced env input error) done failed crash := by
  apply triple_read_at none
  · unfold rowForResource
    rw [free]
    rfl
  apply triple_write_at (custody.withPending input.custodyRef none drawn)
  · exact removed
  · exact visits
  exact triple_throw_at fails

theorem Caught.handled (caught : Caught env custody input disk)
    (free : custody.resources input.custodyRef.resourceRef = none) (error : CustodyError)
    (fails : ∀ drawn, custody.drawn ≤ drawn →
      failed error (custody.withPending input.custodyRef none drawn))
    (visits : ∀ drawn, custody.drawn ≤ drawn →
      crash (custody.withPending input.custodyRef none drawn))
    (inserted : (custody.objects input.custodyRef).pending = none → input.failure = some .status →
      Triple (fun start => start = begunCustody env custody input) (recoverRaced env input error)
        done failed crash) :
    Triple (fun start => start = disk) (recoverRaced env input error) done failed crash := by
  cases caught with
  | untouched =>
    exact recoverRaced_free rfl free error (fails _ (Nat.le_refl _)) (visits _ (Nat.le_refl _))
  | created =>
    have removed := change_withPending custody input.custodyRef
      (some ⟨[], input.partialBytes⟩) none custody.drawn
    exact recoverRaced_free removed free error (fails _ (Nat.le_refl _)) (visits _ (Nat.le_refl _))
  | drawn =>
    have removed := change_withPending custody input.custodyRef
      (some ⟨[.header (newHeader env custody.drawn input.noncePrefix)], 0⟩) none
      (custody.drawn + 1)
    exact recoverRaced_free removed free error (fails _ (Nat.le_succ _)) (visits _ (Nat.le_succ _))
  | inserted unused failure => exact inserted unused failure

include absent free

theorem recoverRaced_inserted (unused : (custody.objects input.custodyRef).pending = none)
    (failure : input.failure = some .status) (error : CustodyError) :
    Triple (fun disk => disk = begunCustody env custody input) (recoverRaced env input error)
      (fun _ disk => Effect env custody (.begin input) disk)
      (fun _ disk => Effect env custody (.begin input) disk)
      (fun disk => Effect env custody (.begin input) disk) := by
  have lost : Effect env custody (.begin input)
      ((begunCustody env custody input).change input.custodyRef fun object =>
        { object with pending := .none }) := .lost absent free unused failure
  apply triple_read_at (some (newRow input.custodyRef custody.drawn))
  · simp [rowForResource, begunCustody, insertRow, Custody.change]
  apply triple_write_at _ rfl lost
  have same : decide ((newRow input.custodyRef custody.drawn).custodyRef = input.custodyRef) =
      true := decide_eq_true rfl
  rw [filter_some, if_pos same]
  apply recoverStaging_lost
  · refine ⟨rfl, ?_, rfl, ?_⟩
    · exact (congrArg CustodyObject.row (Custody.update_self _ _ _)).trans
        (begunCustody_row env custody input)
    · exact congrArg CustodyObject.pending (Custody.update_self _ _ _)
  · exact lost

theorem recoverRaced_effects (error : CustodyError) :
    Triple (Caught env custody input) (recoverRaced env input error)
      (fun _ disk => Effect env custody (.begin input) disk)
      (fun _ disk => Effect env custody (.begin input) disk)
      (fun disk => Effect env custody (.begin input) disk) := by
  intro disk caught
  apply caught.handled free error
  · exact fun _ later => .headerless absent rfl later
  · exact fun _ later => .headerless absent rfl later
  · exact fun unused failure => recoverRaced_inserted absent free unused failure error
  · rfl

end Begin

section Calls

variable {row : CustodyRow} {custodyRef : CustodyRef}

theorem recoverStaging_effects (call : CustodyCall) {α : Type}
    {rest : RecoveredCustodyRow → CustodyProgram α}
    (kept : Kept env call.custodyRef (custody.objects call.custodyRef) view)
    (present : (custody.objects call.custodyRef).row = some row)
    (tail : ∀ recovered disk, Effect env custody call disk →
      Triple (fun next => next = disk) (rest recovered)
        (fun _ disk => Effect env custody call disk) (fun _ disk => Effect env custody call disk)
        (fun disk => Effect env custody call disk)) :
    Triple (fun disk => disk = custody) (recoverStaging env row >>= rest)
      (fun _ disk => Effect env custody call disk) (fun _ disk => Effect env custody call disk)
      (fun disk => Effect env custody call disk) := by
  cases kept with
  | absent holds =>
    rw [holds.row] at present
    cases present
  | staged holds =>
    rw [holds.present] at present
    cases present
    apply triple_bind_at _ _ (recoverStaging_staged holds (fun _ _ after => .recovered call holds after)
      ⟨rfl, rfl⟩)
    exact tail _ _ (.recovered call holds holds.recovered)
  | sealed holds =>
    rw [holds.present] at present
    cases present
    exact recoverStaging_sealed holds.isStaging (tail _ _ .unchanged)
  | lost holds =>
    rw [holds.present] at present
    cases present
    exact recoverStaging_lost holds .unchanged

section

variable (sound : Sound env custody)
include sound

theorem beginLocked_effects (input : BeginInput) :
    Triple (fun disk => disk = custody) (beginLocked env input)
      (fun _ disk => Effect env custody (.begin input) disk)
      (fun _ disk => Effect env custody (.begin input) disk)
      (fun disk => Effect env custody (.begin input) disk) := by
  apply triple_read_at (rowForResource input.custodyRef.resourceRef custody)
  · rfl
  obtain ⟨row, current, present⟩ | ⟨none, free, absent⟩ :=
    rowForResource_cases sound input.custodyRef
  · rw [current]
    by_cases same : row.custodyRef = input.custodyRef
    · apply triple_require_at
      · exact decide_eq_true same
      obtain ⟨view, kept⟩ := sound.kept input.custodyRef
      rw [same] at present
      apply recoverStaging_effects (.begin input) kept present
      intro recovered disk effect
      exact triple_pure_at effect
    · apply triple_require_error_at
      · exact decide_eq_false same
      · exact .unchanged
  · rw [none]
    apply triple_tryCatch (fun _ disk => Caught env custody input disk)
    · exact createPending_at absent free (.inserted absent free) (fun _ _ caught => caught)
        fun _ effect => effect
    · exact recoverRaced_effects absent free

theorem appendLocked_effects (input : AppendInput) (partialBytes : Nat) :
    Triple (fun disk => disk = custody) (appendLocked env input partialBytes)
      (fun _ disk => Effect env custody (.append input partialBytes) disk)
      (fun _ disk => Effect env custody (.append input partialBytes) disk)
      (fun disk => Effect env custody (.append input partialBytes) disk) := by
  obtain ⟨view, kept⟩ := sound.kept input.custodyRef
  cases kept with
  | absent holds => exact missing_at holds.row .unchanged
  | staged holds =>
    apply appendLocked_staged partialBytes holds
    · exact fun _ _ after => .recovered (.append input partialBytes) holds after
    · exact fun continues state later split one =>
        .appended state holds continues ⟨later, split⟩ one
    · intro continues
      exact .appended ⟨chunksOf input.bytes, [], none, [], 0⟩ holds continues
        ⟨[], (List.append_nil _).trans (List.append_nil _)⟩ (Nat.zero_le 1)
    · exact fun _ _ => ⟨.unchanged, .recovered (.append input partialBytes) holds
        holds.recovered⟩
  | sealed holds =>
    apply owned_at holds.present
    · intro _
      apply recoverStaging_sealed holds.isStaging
      exact triple_throw_at .unchanged
    · exact fun _ => .unchanged
  | lost holds =>
    apply owned_at holds.present
    · exact fun _ => recoverStaging_lost holds .unchanged
    · exact fun _ => .unchanged

theorem sealLocked_effects (owner : String) (partialBytes : Nat) :
    Triple (fun disk => disk = custody) (sealLocked env custodyRef owner partialBytes)
      (fun _ disk => Effect env custody (.seal custodyRef owner partialBytes) disk)
      (fun _ disk => Effect env custody (.seal custodyRef owner partialBytes) disk)
      (fun disk => Effect env custody (.seal custodyRef owner partialBytes) disk) := by
  obtain ⟨view, kept⟩ := sound.kept custodyRef
  cases kept with
  | absent holds => exact missing_at holds.row .unchanged
  | staged holds =>
    apply sealLocked_staged partialBytes holds
    · exact fun _ _ after =>
        .recovered (.seal custodyRef owner partialBytes) holds after
    · exact fun owns _ _ _ after => .sealed owns holds after
    · exact fun owns _ _ _ after => .sealed owns holds after
    · exact fun _ _ => ⟨.unchanged, .recovered (.seal custodyRef owner partialBytes)
        holds holds.recovered⟩
  | sealed holds =>
    apply owned_at holds.present
    · intro _
      rw [if_neg (by rw [holds.isStaging]; exact Bool.false_ne_true)]
      exact triple_pure_at .unchanged
    · exact fun _ => .unchanged
  | lost holds =>
    apply owned_at holds.present
    · intro _
      rw [if_pos holds.staging]
      exact recoverStaging_lost holds .unchanged
    · exact fun _ => .unchanged

theorem describeLocked_effects (owner : String) :
    Triple (fun disk => disk = custody) (describeLocked env custodyRef owner)
      (fun _ disk => Effect env custody (.describe custodyRef owner) disk)
      (fun _ disk => Effect env custody (.describe custodyRef owner) disk)
      (fun disk => Effect env custody (.describe custodyRef owner) disk) := by
  obtain ⟨view, kept⟩ := sound.kept custodyRef
  cases kept with
  | absent holds => exact missing_at holds.row .unchanged
  | staged holds =>
    apply describeLocked_staged holds
    · exact fun _ _ after => .recovered (.describe custodyRef owner) holds after
    · exact fun _ => .recovered (.describe custodyRef owner) holds holds.recovered
    · exact fun _ => .unchanged
  | sealed holds =>
    apply owned_at holds.present
    · intro _
      apply recoverStaging_sealed holds.isStaging
      exact triple_pure_at .unchanged
    · exact fun _ => .unchanged
  | lost holds =>
    apply owned_at holds.present
    · exact fun _ => recoverStaging_lost holds .unchanged
    · exact fun _ => .unchanged

theorem perform_effects (call : CustodyCall) :
    Triple (fun disk => disk = custody) (call.perform env)
      (fun _ disk => Effect env custody call disk) (fun _ disk => Effect env custody call disk)
      (fun disk => Effect env custody call disk) := by
  cases call with
  | begin input => exact beginLocked_effects sound input
  | append input partialBytes => exact appendLocked_effects sound input partialBytes
  | «seal» custodyRef owner partialBytes => exact sealLocked_effects sound owner partialBytes
  | describe custodyRef owner => exact describeLocked_effects sound owner

theorem next_effect (event : CustodyEvent) :
    Effect env custody event.call (event.next env custody) := by
  obtain ⟨visits, ends⟩ := perform_effects sound event.call custody rfl
  have last : Effect env custody event.call (event.call.perform env custody).last := by
    unfold Ends at ends
    split at ends
    · exact ends
    · exact ends
  unfold CustodyEvent.next
  cases event.stop with
  | none => exact last
  | some step =>
    dsimp only
    cases visited : (event.call.perform env custody).visits[step]? with
    | none => exact last
    | some disk => exact visits disk (List.mem_of_getElem? visited)

end

end Calls

theorem Kept.other {custodyRef other : CustodyRef} (sound : Sound env custody)
    (own : ∃ view, Kept env custodyRef object view) :
    ∃ view, Kept env other ((custody.update custodyRef object).objects other) view := by
  by_cases same : other = custodyRef
  · rw [same, Custody.update_self]
    exact own
  · rw [Custody.update_of_ne custody object same]
    exact sound.kept other

theorem Absent.withPending (absent : Absent object) (pending : Option PendingFile) :
    Absent { object with pending := pending } :=
  ⟨absent.row, absent.stored, absent.artifact⟩

theorem Sound.update (sound : Sound env custody)
    (objects : next.objects = (custody.update custodyRef object).objects)
    (resources : next.resources = custody.resources) (own : ∃ view, Kept env custodyRef object view)
    (rows : object.row.isSome = (custody.objects custodyRef).row.isSome) : Sound env next := by
  have rowsOf : ∀ other, (next.objects other).row.isSome = (custody.objects other).row.isSome := by
    intro other
    rw [objects]
    by_cases same : other = custodyRef
    · rw [same, Custody.update_self, rows]
    · rw [Custody.update_of_ne custody object same]
  refine ⟨?_, ?_, ?_⟩
  · intro other
    rw [objects]
    exact Kept.other sound own
  · intro other row present
    have there := rowsOf other
    rw [present, isSome_some] at there
    obtain ⟨old, found⟩ := isSome_iff_exists.mp there.symm
    rw [resources]
    exact sound.indexed other old found
  · intro resourceRef holder held
    rw [resources] at held
    rw [rowsOf]
    exact sound.held resourceRef holder held

theorem Staged.appended {input : AppendInput} {state : AppendState}
    (before : Staged env input.custodyRef (custody.objects input.custodyRef) row header chunks)
    (continues : Continues chunks input)
    (split : state.done ++ state.ahead <+: chunksOf input.bytes) : Staged env input.custodyRef
      (state.objectOf env (custody.objects input.custodyRef) row.unprepared header chunks)
      (row.unprepared.advance env header state.done state.prepared) header
      (chunks ++ state.done) := by
  obtain ⟨later, whole⟩ := split
  rw [List.append_assoc] at whole
  have cut : WellCut state.done := fun chunk member =>
    wellCut_chunksOf input.bytes chunk (whole ▸ List.mem_append_left _ member)
  refine before.recovered.advance cut ?_
  have taken := flatten_prefix_le whole
  have fits := continues.fits
  rw [List.flatten_append, List.length_append]
  omega

theorem begunCustody_staged (env : CustodyEnv)
    (absent : Absent (custody.objects input.custodyRef)) :
    Staged env input.custodyRef ((begunCustody env custody input).objects input.custodyRef)
      (newRow input.custodyRef custody.drawn) (newHeader env custody.drawn input.noncePrefix)
      [] := by
  have object : (begunCustody env custody input).objects input.custodyRef =
      { custody.objects input.custodyRef with
        row := some (newRow input.custodyRef custody.drawn)
        pending := some ⟨[.header (newHeader env custody.drawn input.noncePrefix)], 0⟩ } := by
    simp [begunCustody, insertRow, Custody.change, Custody.withPending, Custody.update]
  rw [object]
  refine ⟨⟨rfl, decide_eq_true rfl, rfl, fun _ isIn => (by cases isIn), rfl, rfl, rfl, Nat.zero_le _⟩, rfl, rfl,
    ⟨[], 0, rfl⟩, ?_, absent.artifact⟩
  intro records published
  have unpublished : (custody.objects input.custodyRef).stored = some records := published
  rw [absent.stored] at unpublished
  cases unpublished

theorem begunCustody_sound (sound : Sound env custody)
    (absent : Absent (custody.objects input.custodyRef))
    (free : custody.resources input.custodyRef.resourceRef = none) :
    Sound env (begunCustody env custody input) := by
  have staged := begunCustody_staged env absent
  have others : ∀ other, other ≠ input.custodyRef →
      (begunCustody env custody input).objects other = custody.objects other := by
    intro other different
    simp [begunCustody, insertRow, Custody.change, Custody.withPending, Custody.update, different]
  have index : (begunCustody env custody input).resources =
      update custody.resources input.custodyRef.resourceRef (some input.custodyRef) := rfl
  refine ⟨?_, ?_, ?_⟩
  · intro other
    by_cases same : other = input.custodyRef
    · rw [same]
      exact ⟨_, .staged staged⟩
    · rw [others other same]
      exact sound.kept other
  · intro other row present
    rw [index]
    by_cases same : other = input.custodyRef
    · rw [same, update_self]
    · rw [others other same] at present
      have held := sound.indexed other row present
      rw [update_of_ne]
      · exact held
      · intro shared
        rw [shared, free] at held
        cases held
  · intro resourceRef holder held
    rw [index] at held
    by_cases new : resourceRef = input.custodyRef.resourceRef
    · rw [new, update_self] at held
      cases held
      rw [staged.present]
      rfl
    · rw [update_of_ne new] at held
      have there := sound.held resourceRef holder held
      by_cases same : holder = input.custodyRef
      · rw [same, absent.row] at there
        cases there
      · rw [others holder same]
        exact there

theorem Effect.sound {next : Custody} (effect : Effect env custody call next)
    (sound : Sound env custody) : Sound env next := by
  cases effect with
  | unchanged => exact sound
  | recovered call before after =>
    apply sound.update rfl rfl ⟨_, .staged after⟩
    rw [after.present, before.present]
    rfl
  | @appended input _ row header chunks state before continues split one =>
    have after := before.appended continues split
    have objects : (state.custodyOf env custody input.custodyRef row.unprepared header
        chunks).objects = (custody.update input.custodyRef _).objects := rfl
    apply sound.update objects rfl ⟨_, .staged after⟩
    rw [after.present, before.present]
    rfl
  | sealed owns before after =>
    apply sound.update rfl rfl ⟨_, .sealed after⟩
    rw [after.present, before.present]
    rfl
  | headerless absent none later =>
    exact sound.update rfl rfl ⟨_, .absent (absent.withPending _)⟩ rfl
  | drawn absent => exact sound.update rfl rfl ⟨_, .absent (absent.withPending _)⟩ rfl
  | inserted absent free => exact begunCustody_sound sound absent free
  | lost absent free unused failure =>
    have staged := begunCustody_staged env absent
    exact (begunCustody_sound sound absent free).update rfl rfl
      ⟨_, .lost ⟨staged.reference, staged.present, staged.staging, rfl⟩⟩ rfl

theorem sound_empty (env : CustodyEnv) : Sound env {} :=
  ⟨fun _ => ⟨_, .absent ⟨rfl, rfl, rfl⟩⟩, fun _ _ row => absurd row.symm (some_ne_none _),
    fun _ _ held => absurd held.symm (some_ne_none _)⟩

theorem next_sound (sound : Sound env custody) (event : CustodyEvent) :
    Sound env (event.next env custody) :=
  (next_effect sound event).sound sound

end LicoMesh.UploadCustody
