import LicoMesh.ProcessIdentity.Interleaving

namespace LicoMesh.ProcessIdentity

open SameState Phase Option

open Library

variable {env : ServiceEnv} {outcome : WriteOutcome} {holds : State → Prop} {last : Config}
  {phase before : Phase} {decision : Decision}

abbrev Run (env : ServiceEnv) : Config → Config → Prop :=
  Path (Steps env) Config.KeepsLoaded

theorem Run.serial (run : Run env config last) (serial : config.Serial env) : last.Serial env := by
  have keeps : ∀ {config : Config} {event : Event} {next : Config}, config.KeepsLoaded event →
      Steps env config event next → config.Serial env → next.Serial env :=
    fun keeps taken serial => serial.step keeps taken
  exact run.preserves keeps serial

namespace Config

variable {env : ServiceEnv} {config next : Config} {event : Event} {id other : CallId}

/-- What a step makes of a loaded state: it stays, a mutation succeeds it, or a failed save
puts back the state it started from. -/
structure Advances (env : ServiceEnv) (config next : Config) (loaded : SealedRecord) : Prop where
  memory : ∃ after, next.memory = some after ∧
    (after.state = loaded.state ∨ Succeeds env config.now loaded.state after.state ∨
      ∃ id record keyStored decision,
        config.phase id = some (.saving record keyStored (some after) decision))
  rollback : ∀ id record keyStored before decision,
    next.phase id = some (.saving record keyStored (some before) decision) → before = loaded ∨
      ∃ keyStored, config.phase id = some (.saving record keyStored (some before) decision)
  stateFile : next.stateFile = config.stateFile ∨
    ∃ written, next.stateFile = some written ∧ written.state = loaded.state

variable {loaded : SealedRecord}

theorem rollback_of_moved (moved : next.phase id = some phase)
    (others : ∀ other, other ≠ id → next.phase other = config.phase other)
    (holds : ∀ record keyStored before decision,
      phase = .saving record keyStored (some before) decision → before = loaded ∨
        ∃ keyStored, config.phase id = some (.saving record keyStored (some before) decision)) :
    ∀ other record keyStored before decision,
      next.phase other = some (.saving record keyStored (some before) decision) → before = loaded ∨
        ∃ keyStored, config.phase other = some (.saving record keyStored (some before) decision) := by
  intro other record keyStored before decision found
  by_cases same : other = id
  · subst same
    exact holds record keyStored before decision (by simpa [moved] using found)
  · rw [others other same] at found
    exact .inr ⟨keyStored, found⟩

variable (held : config.memory = some loaded)
include held

theorem Advances.of_moved
    (memory : SameState config.memory next.memory) (moved : next.phase id = some phase)
    (others : ∀ other, other ≠ id → next.phase other = config.phase other)
    (idle : ∀ record keyStored rollback decision,
      phase ≠ .saving record keyStored rollback decision)
    (stateFile : next.stateFile = config.stateFile ∨
      ∃ written, next.stateFile = some written ∧ written.state = loaded.state) :
    Advances env config next loaded where
  memory := by
    obtain ⟨after, found, same⟩ := memory loaded held
    exact ⟨after, found, .inl same⟩
  rollback := rollback_of_moved moved others fun _ _ _ _ saving => absurd saving (idle _ _ _ _)
  stateFile := stateFile

theorem advances_openCall (operation : Operation) (program : Program) :
    Advances env config (config.openCall id operation program) loaded := by
  have same : (config.openCall id operation program).memory = config.memory ∧
      (config.openCall id operation program).stateFile = config.stateFile := by
    cases program <;> exact ⟨rfl, rfl⟩
  refine .of_moved held (same.1 ▸ refl _) (phase_openCall operation program)
    (fun _ different => phase_openCall_ne different operation program) ?_ (.inl same.2)
  cases program <;> exact fun _ _ _ _ => Phase.noConfusion

variable (found : config.phase id = some before)
include found

theorem advances_setPhase (idle : ∀ record keyStored rollback decision,
      phase ≠ .saving record keyStored rollback decision) :
    Advances env config (config.setPhase id phase) loaded :=
  .of_moved held (refl _) (phase_setPhase found phase)
    (fun _ different => phase_setPhase_ne different phase) idle (.inl rfl)

theorem advances_runReading (reading : Reading) :
    Advances env config (config.runReading id reading) loaded := by
  cases reading with
  | returns decision => exact advances_setPhase held found fun _ _ _ _ => Phase.noConfusion
  | throws => exact advances_setPhase held found fun _ _ _ _ => Phase.noConfusion
  | awaits resume => exact advances_setPhase held found fun _ _ _ _ => Phase.noConfusion
  | mutates body =>
    exact .of_moved held (refl _) (phase_setPhase found _)
      (fun _ different => phase_setPhase_ne different _) (fun _ _ _ _ => Phase.noConfusion)
      (.inl rfl)

theorem advances_runBody (changes : body.Changes env config.now loaded.state) :
    Advances env config (config.runBody id loaded body) loaded := by
  cases body with
  | returns decision =>
    exact .of_moved held (refl _) (phase_setPhase found _)
      (fun _ different => phase_setPhase_ne different _) (fun _ _ _ _ => Phase.noConfusion)
      (.inl rfl)
  | throws =>
    exact .of_moved held (refl _) (phase_setPhase found _)
      (fun _ different => phase_setPhase_ne different _) (fun _ _ _ _ => Phase.noConfusion)
      (.inl rfl)
  | awaits resume => exact advances_setPhase held found fun _ _ _ _ => Phase.noConfusion
  | saves saved rollsBack decision =>
    refine ⟨⟨_, rfl, .inr (.inl ⟨saved, rollsBack, decision, changes, rfl⟩)⟩,
      rollback_of_moved (phase_setPhase found _)
        (fun _ different => phase_setPhase_ne different _) ?_, .inl rfl⟩
    intro record keyStored before decision saving
    simp only [Phase.saving.injEq] at saving
    refine .inl ?_
    cases rollsBack with
    | false => simp at saving
    | true => simpa using saving.2.2.1.symm

omit found

theorem advances_assign (keeps : config.KeepsLoaded (.assign id freshKey freshIdentity))
    (taken : step env config (.assign id freshKey freshIdentity) = some next) :
    Advances env config next loaded := by
  simp only [step] at taken
  split at taken
  case h_2 => cases taken
  case h_1 key sealed entry found =>
    split at taken
    case h_1 => cases taken
    case h_2 key' failed =>
      cases taken
      refine .of_moved held ?_ (phase_setPhase found .threw)
        (fun _ different => phase_setPhase_ne different _) (fun _ _ _ _ => Phase.noConfusion)
        (.inl rfl)
      intro before present
      exact ⟨{ before with key := key' }, by simp [present], rfl⟩
    case h_3 record opened =>
      have same : SameState config.memory (some record) := fun before present =>
        ⟨record, rfl, keeps.assigned found opened present⟩
      split at taken
      · cases taken
        exact .of_moved held same (phase_setPhase found (.ready entry))
          (fun _ different => phase_setPhase_ne different _) (fun _ _ _ _ => Phase.noConfusion)
          (.inl rfl)
      · cases taken
        exact .of_moved held same (phase_setPhase found (.storing record false entry))
          (fun _ different => phase_setPhase_ne different _) (fun _ _ _ _ => Phase.noConfusion)
          (.inl rfl)

omit held

theorem stateFile_write
    (current : outcome.renames = true → keyStored = true → record.state = loaded.state) :
    (config.write outcome record keyStored).stateFile = config.stateFile ∨
      ∃ written, (config.write outcome record keyStored).stateFile = some written ∧
        written.state = loaded.state := by
  unfold write
  split
  · exact .inl rfl
  · rename_i renames
    split
    · rename_i stored
      exact .inr ⟨record, rfl, current (by simpa using renames) stored⟩
    · exact .inl rfl

section

variable (serial : config.Serial env) (held : config.memory = some loaded)
include serial held

theorem Serial.advances_store (keeps : config.KeepsLoaded (.store id outcome))
    (taken : ProcessIdentity.step env config (.store id outcome) = some next) :
    Advances env config next loaded := by
  simp only [ProcessIdentity.step] at taken
  split at taken
  case h_1 record keyStored entry found =>
    have found' : (config.write outcome record keyStored).phase id =
        some (.storing record keyStored entry) := by rw [phase_write, found]
    have memory : SameState config.memory (config.write outcome record keyStored).memory := by
      rw [memory_write]
      exact refl _
    have others : ∀ (phase : Phase) (other : CallId), other ≠ id →
        ((config.write outcome record keyStored).setPhase id phase).phase other =
          config.phase other := fun phase other different =>
      (phase_setPhase_ne different phase).trans (phase_write ..)
    have current : outcome.renames = true → keyStored = true → record.state = loaded.state := by
      intro renames stored
      subst stored
      exact keeps.stored found renames held
    split at taken
    · cases taken
      exact .of_moved held memory (phase_setPhase found' .threw) (others _)
        (fun _ _ _ _ => Phase.noConfusion) (stateFile_write current)
    split at taken
    · cases taken
      exact .of_moved held memory (phase_setPhase found' (.ready entry)) (others _)
        (fun _ _ _ _ => Phase.noConfusion) (stateFile_write current)
    · cases taken
      exact .of_moved held memory (phase_setPhase found' (.storing record true entry)) (others _)
        (fun _ _ _ _ => Phase.noConfusion) (stateFile_write current)
  case h_2 record keyStored rollback decision found =>
    have found' : (config.write outcome record keyStored).phase id =
        some (.saving record keyStored rollback decision) := by rw [phase_write, found]
    have memory : (config.write outcome record keyStored).memory = some loaded := by
      rw [memory_write, held]
    have others : ∀ (phase : Phase) (other : CallId), other ≠ id →
        ((config.write outcome record keyStored).setPhase id phase).phase other =
          config.phase other := fun phase other different =>
      (phase_setPhase_ne different phase).trans (phase_write ..)
    have current : outcome.renames = true → keyStored = true → record.state = loaded.state := by
      intro _ _
      obtain ⟨⟨before, present, same⟩, -⟩ := serial.sound id _ found
      obtain rfl : loaded = before := by simpa [held] using present
      exact same.symm
    split at taken
    · cases taken
      refine ⟨?_, rollback_of_moved (phase_setPhase found' .threw) (others _)
        (fun _ _ _ _ => Phase.noConfusion), stateFile_write current⟩
      cases rollback with
      | none => exact ⟨loaded, memory, .inl rfl⟩
      | some before => exact ⟨before, rfl, .inr (.inr ⟨id, record, keyStored, decision, found⟩)⟩
    split at taken
    · cases taken
      exact .of_moved held (by rw [held]; exact memory ▸ refl _)
        (phase_setPhase found' (.returned decision)) (others _)
        (fun _ _ _ _ => Phase.noConfusion) (stateFile_write current)
    · cases taken
      refine ⟨⟨loaded, memory, .inl rfl⟩, rollback_of_moved
        (phase_setPhase found' (.saving record true rollback decision)) (others _) ?_,
        stateFile_write current⟩
      intro record' keyStored' before decision' saving
      cases saving
      exact .inr ⟨keyStored, found⟩
  case h_3 => cases taken

theorem Serial.advances
    (keeps : config.KeepsLoaded event) (taken : ProcessIdentity.step env config event = some next) :
    Advances env config next loaded := by
  cases event with
  | tick elapsed =>
    cases taken
    exact ⟨⟨loaded, held, .inl rfl⟩, fun _ _ keyStored _ _ found => .inr ⟨keyStored, found⟩,
      .inl rfl⟩
  | call id operation =>
    simp only [ProcessIdentity.step] at taken
    split at taken
    · cases taken
    · cases taken
      exact advances_openCall held operation _
  | start id =>
    simp only [ProcessIdentity.step] at taken
    split at taken
    case h_2 => cases taken
    case h_1 blockers entry found =>
      repeat' split at taken
      all_goals cases taken
      all_goals exact advances_setPhase held found fun _ _ _ _ => Phase.noConfusion
  | readKey id =>
    simp only [ProcessIdentity.step] at taken
    split at taken
    · rename_i found
      cases taken
      exact advances_setPhase held found fun _ _ _ _ => Phase.noConfusion
    · cases taken
  | readState id =>
    simp only [ProcessIdentity.step] at taken
    split at taken
    · rename_i found
      cases taken
      exact advances_setPhase held found fun _ _ _ _ => Phase.noConfusion
    · cases taken
  | readFails id =>
    simp only [ProcessIdentity.step] at taken
    split at taken
    · rename_i found
      cases taken
      exact .of_moved held (refl _) (phase_setPhase found .threw)
        (fun _ different => phase_setPhase_ne different _) (fun _ _ _ _ => Phase.noConfusion)
        (.inl rfl)
    · cases taken
  | assign id freshKey freshIdentity => exact advances_assign held keeps taken
  | store id outcome => exact serial.advances_store held keeps taken
  | run id =>
    simp only [ProcessIdentity.step] at taken
    split at taken
    case h_1 body before found present =>
      cases taken
      obtain rfl : loaded = before := by simpa [held] using present
      have found' : (config.markRun id).phase id = some (.ready (.mutates body)) := by
        rw [phase_markRun, found]
      have held' : (config.markRun id).memory = some loaded := held
      have advances : Advances env (config.markRun id)
          ((config.markRun id).runBody id loaded (body config.now loaded.state)) loaded :=
        advances_runBody held' found' ((serial.sound id _ found).1 _ _)
      exact ⟨by simpa using advances.memory, by simpa using advances.rollback, advances.stateFile⟩
    case h_2 reading before found present =>
      cases taken
      exact advances_runReading held found _
    case h_3 => cases taken
  | resume id reply =>
    simp only [ProcessIdentity.step] at taken
    split at taken
    case h_1 resume before found present =>
      cases taken
      obtain ⟨memory, present', changes⟩ := serial.sound id _ found
      obtain rfl : loaded = before := by simpa [held] using present
      obtain rfl : loaded = memory := by simpa [held] using present'
      exact advances_runBody held found (changes reply config.now)
    case h_2 resume found =>
      cases taken
      exact advances_runReading held found _
    case h_3 => cases taken

end

structure Within (holds : State → Prop) (config : Config) : Prop where
  memory : ∃ loaded, config.memory = some loaded ∧ holds loaded.state
  rollback : ∀ id record keyStored before decision,
    config.phase id = some (.saving record keyStored (some before) decision) → holds before.state

theorem Advances.within (advances : Advances env config next loaded)
    (held : config.memory = some loaded) (within : config.Within holds)
    (closed : ∀ after, next.memory = some after → Succeeds env config.now loaded.state after.state →
      holds after.state) : next.Within holds := by
  obtain ⟨current, present, holdsCurrent⟩ := within.memory
  obtain rfl : loaded = current := by simpa [held] using present
  constructor
  · obtain ⟨after, found, same | succeeds | rollback⟩ := advances.memory
    · exact ⟨after, found, same ▸ holdsCurrent⟩
    · exact ⟨after, found, closed after found succeeds⟩
    · obtain ⟨id, record, keyStored, decision, saving⟩ := rollback
      exact ⟨after, found, within.rollback id record keyStored after decision saving⟩
  · intro id record keyStored before decision found
    obtain rfl | ⟨keyStored, earlier⟩ := advances.rollback id record keyStored before decision found
    · exact holdsCurrent
    · exact within.rollback id record keyStored before decision earlier

theorem descends_of_run {state : State} (run : Run env config last) (serial : config.Serial env)
    (within : config.Within (Descends env state)) :
    last.Within (Descends env state) ∧ (last.stateFile = config.stateFile ∨
      ∃ written, last.stateFile = some written ∧ Descends env state written.state) := by
  have keeps : ∀ {middle : Config} {event : Event} {next : Config}, middle.KeepsLoaded event →
      Steps env middle event next →
      (middle.Serial env ∧ middle.Within (Descends env state) ∧ (middle.stateFile = config.stateFile ∨
        ∃ written, middle.stateFile = some written ∧ Descends env state written.state)) →
      (next.Serial env ∧ next.Within (Descends env state) ∧ (next.stateFile = config.stateFile ∨
        ∃ written, next.stateFile = some written ∧ Descends env state written.state)) := by
    intro middle event next keeps taken holds
    obtain ⟨serial, within, file⟩ := holds
    obtain ⟨loaded, held, descends⟩ := within.memory
    have advances := serial.advances held keeps taken
    refine ⟨serial.step keeps taken, advances.within held within fun after _ succeeds =>
      descends.tail ⟨_, succeeds⟩, ?_⟩
    obtain kept | ⟨written, found, same⟩ := advances.stateFile
    · rw [kept]
      exact file
    · exact .inr ⟨written, found, same ▸ descends⟩
  exact (run.preserves keeps ⟨serial, within, .inl rfl⟩).2

theorem body_returned {memory : SealedRecord} {body : Body}
    (returned : body.phase memory = .returned decision) : body.memory memory = memory := by
  cases body with
  | saves next rollsBack decision => exact Phase.noConfusion returned
  | _ => rfl

theorem completed (taken : ProcessIdentity.step env config event = some next)
    (found : config.phase id = some phase) (mutation : phase.Queued = true)
    (completes : next.phase id = some (.returned decision)) :
    phase.Waits = false ∧ next.memory = config.memory ∧
      ((∃ record rollback, phase = .saving record true rollback decision ∧
          next.stateFile = some record) ∨
        (∀ record keyStored rollback saved, phase ≠ .saving record keyStored rollback saved) ∧
          config.memory.isSome = true ∧ next.stateFile = config.stateFile) := by
  obtain ⟨call, present, rfl⟩ := calls_of_phase found
  obtain ⟨after, present', returned⟩ := calls_of_phase completes
  have move := callMove_of_step taken id
  rw [present, present'] at move
  cases move with
  | still => simp [returned, Queued] at mutation
  | moves move ran =>
    generalize call.phase = before at move mutation
    cases move with
    | runs held memory stateFile =>
      refine ⟨rfl, ?_, .inr ⟨fun _ _ _ _ => Phase.noConfusion, by simp [held], stateFile⟩⟩
      rw [memory, body_returned returned, held]
    | resumes held memory stateFile =>
      refine ⟨rfl, ?_, .inr ⟨fun _ _ _ _ => Phase.noConfusion, by simp [held], stateFile⟩⟩
      rw [memory, body_returned returned, held]
    | saves memory stored =>
      cases returned
      exact ⟨rfl, memory, .inl ⟨_, _, rfl, stored⟩⟩
    | reads => simp [Queued, Entry.IsMutation] at mutation
    | decides => simp [Queued] at mutation
    | _ => exact Phase.noConfusion returned

theorem Serial.within_of_completed (serial : config.Serial env) (keeps : config.KeepsLoaded event)
    (taken : ProcessIdentity.step env config event = some next)
    (held : config.memory = some loaded) (holdsLoaded : holds loaded.state)
    (found : config.phase id = some phase) (mutation : phase.Queued = true)
    (completes : next.phase id = some (.returned decision)) : next.Within holds := by
  obtain ⟨running, memory, -⟩ := completed taken found mutation completes
  refine ⟨⟨loaded, memory.trans held, holdsLoaded⟩, ?_⟩
  intro other record keyStored previous saved saving
  obtain rfl | ⟨keyStored, earlier⟩ :=
    (serial.advances held keeps taken).rollback other record keyStored previous saved saving
  · exact holdsLoaded
  · have different : other ≠ id := by
      intro same
      subst same
      simp [completes] at saving
    have waits := serial.running_unique found mutation running earlier rfl different
    simp [Waits] at waits

end Config

/-- `runEvents` that stops where a load puts an older state back. -/
def runKept (env : ServiceEnv) : Config → List Event → Option Config
  | config, [] => some config
  | config, event :: rest =>
    if config.keepsLoaded event then
      (step env config event).bind fun next => runKept env next rest
    else none

theorem run_of_runKept
    (finished : runKept env config events = some last) : Run env config last := by
  induction events generalizing config with
  | nil =>
    obtain rfl : config = last := by simpa [runKept] using finished
    exact .refl config
  | cons event rest induction =>
    simp only [runKept] at finished
    split at finished
    · rename_i keeps
      obtain ⟨next, taken, finished⟩ := bind_eq_some_iff.mp finished
      exact .step event keeps taken (induction finished)
    · cases finished

/-- Once a mutation has returned, everything read from memory and everything written to the
state file was made from the state it left. -/
theorem completed_mutation_retained {env : ServiceEnv} {now : Instant} {keyFile : Option SealingKey}
    {stateFile : Option SealedRecord} {config next last : Config} {event : Event} {id : CallId}
    {phase : Phase} {decision : Decision} (before : Run env (.start now keyFile stateFile) config)
    (keeps : config.KeepsLoaded event) (taken : step env config event = some next)
    (found : config.phase id = some phase) (mutation : phase.Queued = true)
    (completes : next.phase id = some (.returned decision)) (after : Run env next last) :
    ∃ done, next.memory = some done ∧
      (∀ record keyStored rollback saved, phase = .saving record keyStored rollback saved →
        next.stateFile = some record ∧ done.state = record.state ∧
          ∃ ranAt state changed rollsBack, Change env ranAt state changed rollsBack decision ∧
            done.state = normalizeState changed) ∧
      (∃ current, last.memory = some current ∧ Descends env done.state current.state) ∧
      (last.stateFile = next.stateFile ∨
        ∃ written, last.stateFile = some written ∧ Descends env done.state written.state) := by
  have serial : config.Serial env := before.serial (.start_config env now keyFile stateFile)
  have sound := serial.sound id phase found
  obtain ⟨-, memory, saved⟩ := Config.completed taken found mutation completes
  obtain ⟨done, held⟩ : ∃ done, config.memory = some done := by
    obtain ⟨record, rollback, same, -⟩ | ⟨-, loaded, -⟩ := saved
    · subst same
      obtain ⟨⟨done, held, -⟩, -⟩ := sound
      exact ⟨done, held⟩
    · exact isSome_iff_exists.mp loaded
  have serial' : next.Serial env := serial.step keeps taken
  have within : next.Within (Descends env done.state) :=
    serial.within_of_completed keeps taken held .refl found mutation completes
  obtain ⟨⟨current, rollback⟩, file⟩ := Config.descends_of_run after serial' within
  refine ⟨done, memory.trans held, ?_, current, file⟩
  intro record keyStored rollback saved' same
  subst same
  obtain ⟨⟨present, held', state⟩, ranAt, previous, changed, rollsBack, change, equal, -⟩ := sound
  obtain rfl : done = present := by simpa [held] using held'
  obtain ⟨written, rollback', same, stateFile⟩ | ⟨other, -⟩ := saved
  · cases same
    exact ⟨stateFile, state, ranAt, previous.state, changed, rollsBack, change, state.trans equal⟩
  · exact absurd rfl (other _ _ _ _)

def retireGeneration (ownerId : String) : Operation :=
  .revokeOwnerProcessBindings
    { ownerId := ownerId, ownerGenerationDigest := sampleGeneration }

def sampleSaving : Option Config :=
  runKept sampleEnv sampleStart
    ([.call 0 (retireGeneration "owner-a")] ++ loadEvents 0 ++ [.run 0, .store 0 .written])

def sampleSaved : Option Config :=
  sampleSaving.bind fun config => step sampleEnv config (.store 0 .written)

def sampleLater : Option Config :=
  sampleSaved.bind fun config => runKept sampleEnv config
    ([.call 1 (retireGeneration "owner-b"), .start 1] ++ saveEvents 1)

theorem completed_mutation_retained_retirement : ∃ saved later done current, sampleSaved =
      some saved ∧ sampleLater = some later ∧ saved.memory = some done ∧ later.memory =
      some current ∧ Descends sampleEnv done.state current.state := by
  obtain ⟨config, saving⟩ : ∃ config, sampleSaving = some config :=
    isSome_iff_exists.mp (by decide +kernel)
  obtain ⟨saved, isSaved⟩ : ∃ saved, sampleSaved = some saved :=
    isSome_iff_exists.mp (by decide +kernel)
  obtain ⟨later, isLater⟩ : ∃ later, sampleLater = some later :=
    isSome_iff_exists.mp (by decide +kernel)
  have taken : step sampleEnv config (.store 0 .written) = some saved := by
    simpa [sampleSaved, saving] using isSaved
  have after : runKept sampleEnv saved
      ([.call 1 (retireGeneration "owner-b"), .start 1] ++ saveEvents 1) = some later := by
    simpa [sampleLater, isSaved] using isLater
  have keeps : sampleSaving.all (·.keepsLoaded (.store 0 .written)) = true := by decide +kernel
  have queued : sampleSaving.all (fun config => (config.phase 0).any Queued) = true := by
    decide +kernel
  have returned : (sampleSaved.bind (·.returned 0)).isSome = true := by decide +kernel
  rw [saving, all_some] at keeps queued
  rw [isSaved, bind_some] at returned
  obtain ⟨phase, found, mutation⟩ := (any_eq_true _ _).mp queued
  obtain ⟨decision, completes⟩ := isSome_iff_exists.mp returned
  obtain ⟨done, held, -, ⟨current, held', descends⟩, -⟩ :=
    completed_mutation_retained (run_of_runKept saving) keeps taken found mutation
      (Config.phase_of_returned completes) (run_of_runKept after)
  exact ⟨saved, later, done, current, isSaved, isLater, held, held', descends⟩

/-- A reader has read the files when a retirement loads, saves and returns. -/
def staleLoadEvents : List Event :=
  [.call 0 (.inspectOwnerProcessBinding {}), .start 0, .readKey 0, .readState 0,
    .call 1 (retireGeneration "owner-a")] ++ loadEvents 1 ++ saveEvents 1

def afterStaleLoadEvents : List Event :=
  [.assign 0 0 sampleIdentity, .call 2 (retireGeneration "owner-b"), .start 2] ++ saveEvents 2

/-- The retirement of `owner-a` returned ok and is missing from memory and from the next save. -/
theorem completed_mutation_lost :
    ((runEvents sampleEnv sampleStart staleLoadEvents).map fun config =>
      ((config.returned 1).map (·.ok), config.state.map (·.IsRetired "owner-a" sampleGeneration))) =
        some (some true, some true) ∧
    ((runEvents sampleEnv sampleStart (staleLoadEvents ++ afterStaleLoadEvents)).map
      fun config => ((config.returned 2).map (·.ok),
        config.state.map (·.IsRetired "owner-a" sampleGeneration),
        config.stateFile.map (·.state.IsRetired "owner-a" sampleGeneration))) =
        some (some true, some false, some false) := by
  decide +kernel

end LicoMesh.ProcessIdentity
