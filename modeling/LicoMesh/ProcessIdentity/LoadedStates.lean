import LicoMesh.ProcessIdentity.CompletedMutations

namespace LicoMesh.ProcessIdentity

variable {record : SealedRecord}

namespace Config

variable {env : ServiceEnv} {config next : Config} {event : Event} {id : CallId}

theorem read_of_step (taken : step env config event = some next)
    (found : next.phase id = some (.reading key (some (some sealed)) entry)) :
    (∃ key entry, config.phase id = some (.reading key (some (some sealed)) entry)) ∨
      config.stateFile = some sealed := by
  obtain ⟨after, present, reading⟩ := calls_of_phase found
  have move := callMove_of_step taken id
  rw [present] at move
  generalize before : config.calls id = call at move
  cases move with
  | still => exact .inl ⟨key, entry, by simp [phase, before, reading]⟩
  | opens operation =>
    cases program : operation.program env <;> simp [program, Program.phase] at reading
  | moves move ran =>
    rename_i call phase ranAt
    have was : config.phase id = some call.phase := by simp [Config.phase, before]
    rw [was]
    generalize call.phase = earlier at move ran
    cases move with
    | readsKey =>
      cases reading
      exact .inl ⟨_, _, rfl⟩
    | readsState =>
      simp only [Phase.reading.injEq, Option.some.injEq] at reading
      exact .inr reading.2.1
    | startsLoad => simp at reading
    | runs =>
      rename_i body loaded _ _ _
      cases answer : body config.now loaded.state <;> simp [answer, Body.phase] at reading
    | resumes =>
      rename_i resume reply loaded _ _ _
      cases answer : resume reply config.now loaded.state <;>
        simp [answer, Body.phase] at reading
    | reads =>
      rename_i body loaded _ _
      cases answer : body config.now loaded.state <;> simp [answer, Reading.phase] at reading
    | decides =>
      rename_i resume reply _
      cases answer : resume reply <;> simp [answer, Reading.phase] at reading
    | _ => exact Phase.noConfusion reading

section

variable (serial : config.Serial env) (unloaded : config.memory = none)
  (taken : ProcessIdentity.step env config event = some next)
include serial unloaded taken

theorem Serial.unloaded_step
    (loads : ∀ id freshKey freshIdentity, event ≠ .assign id freshKey freshIdentity) :
    next.memory = none ∧ next.stateFile = config.stateFile := by
  cases event with
  | tick elapsed =>
    cases taken
    exact ⟨unloaded, rfl⟩
  | call id operation =>
    simp only [ProcessIdentity.step] at taken
    split at taken
    · cases taken
    · cases taken
      cases operation.program env <;> exact ⟨unloaded, rfl⟩
  | assign id freshKey freshIdentity => exact absurd rfl (loads id freshKey freshIdentity)
  | store id outcome =>
    simp only [ProcessIdentity.step] at taken
    split at taken
    case h_1 record keyStored entry found =>
      have sound := serial.sound id _ found
      simp [Phase.Sound, unloaded] at sound
    case h_2 record keyStored rollback decision found =>
      obtain ⟨⟨loaded, held, -⟩, -⟩ := serial.sound id _ found
      simp [unloaded] at held
    case h_3 => cases taken
  | run id =>
    simp only [ProcessIdentity.step, unloaded] at taken
    split at taken <;> simp_all
  | resume id reply =>
    simp only [ProcessIdentity.step, unloaded] at taken
    split at taken
    case h_1 held => cases held
    case h_2 resume found =>
      cases taken
      exact ⟨(memory_runReading _).trans unloaded, by cases resume reply <;> rfl⟩
    case h_3 => cases taken
  | _ =>
    simp only [ProcessIdentity.step] at taken
    repeat' split at taken
    all_goals cases taken
    all_goals exact ⟨unloaded, rfl⟩

theorem Serial.loads_of_none : next.stateFile = config.stateFile ∧ ∀ loaded, next.memory =
      some loaded → (∃ identity, loaded.state = .fresh identity) ∨ ∃ id key sealed entry,
      config.phase id = some (.reading key (some (some sealed)) entry) ∧ loaded.state =
      normalizeState sealed.state := by
  by_cases loads : ∀ id freshKey freshIdentity, event ≠ .assign id freshKey freshIdentity
  · obtain ⟨memory, stateFile⟩ := serial.unloaded_step unloaded taken loads
    refine ⟨stateFile, ?_⟩
    intro loaded held
    rw [memory] at held
    cases held
  · simp only [not_forall, not_not] at loads
    obtain ⟨id, freshKey, freshIdentity, rfl⟩ := loads
    simp only [ProcessIdentity.step] at taken
    split at taken
    case h_2 => cases taken
    case h_1 key sealed entry found =>
      split at taken
      case h_1 => cases taken
      case h_2 key' failed =>
        cases taken
        refine ⟨rfl, ?_⟩
        intro loaded held
        simp [unloaded] at held
      case h_3 record opened =>
        have source : (∃ identity, record.state = .fresh identity) ∨
            ∃ id key sealed entry,
              config.phase id = some (.reading key (some (some sealed)) entry) ∧
                record.state = normalizeState sealed.state := by
          unfold loadedRecord at opened
          split at opened
          · cases opened
            exact .inl ⟨freshIdentity, rfl⟩
          · cases opened
            exact .inl ⟨freshIdentity, rfl⟩
          · split at opened
            · cases opened
              exact .inr ⟨id, _, _, entry, found, rfl⟩
            · cases opened
          · cases opened
        split at taken
        · cases taken
          refine ⟨rfl, ?_⟩
          intro loaded held
          cases held
          exact source
        · cases taken
          refine ⟨rfl, ?_⟩
          intro loaded held
          cases held
          exact source

end

theorem saving_of_step (taken : step env config event = some next)
    (found : next.phase id = some (.saving record keyStored rollback decision)) :
    (∃ keyStored, config.phase id = some (.saving record keyStored rollback decision)) ∨
      config.memory.isSome = true := by
  obtain ⟨after, present, saving⟩ := calls_of_phase found
  have move := callMove_of_step taken id
  rw [present] at move
  generalize before : config.calls id = call at move
  cases move with
  | still => exact .inl ⟨keyStored, by simp [phase, before, saving]⟩
  | opens operation =>
    cases program : operation.program env <;> simp [program, Program.phase] at saving
  | moves move ran =>
    rename_i call phase ranAt
    have was : config.phase id = some call.phase := by simp [Config.phase, before]
    rw [was]
    generalize call.phase = earlier at move ran
    cases move with
    | runs held => exact .inr (by simp [held])
    | resumes held => exact .inr (by simp [held])
    | reads held => exact .inr (by simp [held])
    | savesKey =>
      cases saving
      exact .inl ⟨_, rfl⟩
    | decides =>
      rename_i resume reply _
      cases answer : resume reply <;> simp [answer, Reading.phase] at saving
    | _ => exact Phase.noConfusion saving

theorem Serial.rollback_of_step (serial : config.Serial env) (keeps : config.KeepsLoaded event)
    (taken : ProcessIdentity.step env config event = some next)
    (found : next.phase id = some (.saving record keyStored (some before) decision)) :
    (∃ keyStored, config.phase id = some (.saving record keyStored (some before) decision)) ∨
      config.memory = some before := by
  cases held : config.memory with
  | none =>
    obtain earlier | loaded := saving_of_step taken found
    · exact .inl earlier
    · simp [held] at loaded
  | some loaded =>
    obtain rfl | earlier :=
      (serial.advances held keeps taken).rollback id record keyStored before decision found
    · exact .inr rfl
    · exact .inl earlier

structure Throughout (holds : State → Prop) (config : Config) : Prop where
  memory : ∀ loaded, config.memory = some loaded → holds loaded.state
  rollback : ∀ id record keyStored before decision,
    config.phase id = some (.saving record keyStored (some before) decision) → holds before.state
  stateFile : ∀ sealed, config.stateFile = some sealed → holds (normalizeState sealed.state)
  read : ∀ id key sealed entry, config.phase id = some (.reading key (some (some sealed)) entry) →
    holds (normalizeState sealed.state)

theorem Throughout.step (throughout : config.Throughout holds)
    (serial : config.Serial env) (keeps : config.KeepsLoaded event)
    (taken : step env config event = some next) (fresh : ∀ identity, holds (.fresh identity))
    (normal : ∀ state, holds state → holds (normalizeState state))
    (closed : ∀ loaded after, config.memory = some loaded → next.memory = some after →
      holds loaded.state → Succeeds env config.now loaded.state after.state → holds after.state) :
    next.Throughout holds := by
  have read : ∀ id key sealed entry,
      next.phase id = some (.reading key (some (some sealed)) entry) →
      holds (normalizeState sealed.state) := by
    intro id key sealed entry found
    obtain ⟨key, entry, earlier⟩ | stored := read_of_step taken found
    · exact throughout.read id key sealed entry earlier
    · exact throughout.stateFile sealed stored
  have rollback : ∀ id record keyStored before decision,
      next.phase id = some (.saving record keyStored (some before) decision) →
      holds before.state := by
    intro id record keyStored before decision found
    obtain ⟨keyStored, earlier⟩ | held := serial.rollback_of_step keeps taken found
    · exact throughout.rollback id record keyStored before decision earlier
    · exact throughout.memory before held
  cases held : config.memory with
  | none =>
    obtain ⟨file, loads⟩ := serial.loads_of_none held taken
    refine ⟨?_, rollback, file ▸ throughout.stateFile, read⟩
    · intro loaded present
      obtain ⟨identity, same⟩ | ⟨id, key, sealed, entry, found, same⟩ := loads loaded present
      · rw [same]
        exact fresh identity
      · rw [same]
        exact throughout.read id key sealed entry found
  | some loaded =>
    have advances := serial.advances held keeps taken
    have holdsLoaded := throughout.memory loaded held
    refine ⟨?_, rollback, ?_, read⟩
    · intro after present
      obtain ⟨after', present', advance⟩ := advances.memory
      obtain rfl : after' = after := by simpa [present] using present'.symm
      obtain same | succeeds | ⟨id, record, keyStored, decision, saving⟩ := advance
      · rw [same]
        exact holdsLoaded
      · exact closed loaded after' held present holdsLoaded succeeds
      · exact throughout.rollback id record keyStored after' decision saving
    · intro sealed stored
      obtain kept | ⟨written, found, same⟩ := advances.stateFile
      · exact throughout.stateFile sealed (kept ▸ stored)
      · obtain rfl : written = sealed := by simpa [stored] using found.symm
        rw [same]
        exact normal _ holdsLoaded

theorem Throughout.start_config (now : Instant)
    (keyFile : Option SealingKey) {stateFile : Option SealedRecord}
    (stored : ∀ sealed, stateFile = some sealed → holds (normalizeState sealed.state)) :
    (start now keyFile stateFile).Throughout holds where
  memory := by simp [start]
  rollback := by simp [start, phase]
  stateFile := stored
  read := by simp [start, phase]

end Config

end LicoMesh.ProcessIdentity
