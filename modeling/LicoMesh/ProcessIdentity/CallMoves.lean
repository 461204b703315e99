import LicoMesh.ProcessIdentity.Service

namespace LicoMesh.ProcessIdentity

def Body.phase (memory : SealedRecord) : Body → Phase
  | .returns decision => .returned decision
  | .throws => .threw
  | .awaits resume => .acting resume
  | .saves next rollsBack decision =>
    .saving ⟨memory.key, normalizeState next⟩ false (if rollsBack then some memory else none)
      decision

def Body.memory (memory : SealedRecord) : Body → SealedRecord
  | .saves next _ _ => ⟨memory.key, normalizeState next⟩
  | _ => memory

def Reading.phase (queue : List CallId) : Reading → Phase
  | .returns decision => .returned decision
  | .throws => .threw
  | .awaits resume => .deciding resume
  | .mutates body => .waiting queue (.mutates body)

def Program.phase (queue : List CallId) : Program → Phase
  | .returns decision => .returned decision
  | .reads reading => .waiting queue (.reads reading)
  | .mutates body => .waiting queue (.mutates body)

inductive PhaseMove (config next : Config) : Phase → Phase → Prop
  | skipsLoad {blockers : List CallId} {entry : Entry}
      (free : config.Unblocked blockers = true) (loaded : config.memory.isSome = true)
      (memory : next.memory = config.memory) :
      PhaseMove config next (.waiting blockers entry) (.ready entry)
  | startsLoad {blockers : List CallId} {entry : Entry}
      (free : config.Unblocked blockers = true) (memory : next.memory = config.memory) :
      PhaseMove config next (.waiting blockers entry) (.reading none none entry)
  | readsKey {sealed : Option (Option SealedRecord)} {entry : Entry}
      (memory : next.memory = config.memory) : PhaseMove config next (.reading none sealed entry)
        (.reading (some config.keyFile) sealed entry)
  | readsState {key : Option (Option SealingKey)} {entry : Entry}
      (memory : next.memory = config.memory) : PhaseMove config next (.reading key none entry)
        (.reading key (some config.stateFile) entry)
  | failsRead {key : Option (Option SealingKey)} {sealed : Option (Option SealedRecord)}
      {entry : Entry} (state : next.state = config.state) :
      PhaseMove config next (.reading key sealed entry) .threw
  | loads {key : Option (Option SealingKey)} {sealed : Option (Option SealedRecord)}
      {entry : Entry} {record : SealedRecord} (memory : next.memory = some record) :
      PhaseMove config next (.reading key sealed entry) (.ready entry)
  | loadsFirst {key : Option (Option SealingKey)} {sealed : Option (Option SealedRecord)}
      {entry : Entry} {record : SealedRecord} (memory : next.memory = some record) :
      PhaseMove config next (.reading key sealed entry) (.storing record false entry)
  | storesKey {record : SealedRecord} {entry : Entry} (memory : next.memory = config.memory) :
      PhaseMove config next (.storing record false entry) (.storing record true entry)
  | storesState {record : SealedRecord} {entry : Entry} (memory : next.memory = config.memory) :
      PhaseMove config next (.storing record true entry) (.ready entry)
  | failsStore {record : SealedRecord} {keyStored : Bool} {entry : Entry}
      (memory : next.memory = config.memory) :
      PhaseMove config next (.storing record keyStored entry) .threw
  | runs {body : Instant → State → Body} {loaded : SealedRecord}
      (held : config.memory = some loaded)
      (memory : next.memory = some ((body config.now loaded.state).memory loaded))
      (stateFile : next.stateFile = config.stateFile) :
      PhaseMove config next (.ready (.mutates body))
        ((body config.now loaded.state).phase loaded)
  | resumes {resume : Reply → Instant → State → Body} {reply : Reply} {loaded : SealedRecord}
      (held : config.memory = some loaded)
      (memory : next.memory = some ((resume reply config.now loaded.state).memory loaded))
      (stateFile : next.stateFile = config.stateFile) : PhaseMove config next (.acting resume)
        ((resume reply config.now loaded.state).phase loaded)
  | reads {reading : Instant → State → Reading} {loaded : SealedRecord}
      (held : config.memory = some loaded) (memory : next.memory = config.memory) :
      PhaseMove config next (.ready (.reads reading))
        ((reading config.now loaded.state).phase config.mutationQueue)
  | decides {resume : Reply → Reading} {reply : Reply} (memory : next.memory = config.memory) :
      PhaseMove config next (.deciding resume) ((resume reply).phase config.mutationQueue)
  | savesKey {record : SealedRecord} {rollback : Option SealedRecord} {decision : Decision}
      (memory : next.memory = config.memory) :
      PhaseMove config next (.saving record false rollback decision)
        (.saving record true rollback decision)
  | saves {record : SealedRecord} {rollback : Option SealedRecord} {decision : Decision}
      (memory : next.memory = config.memory) (stored : next.stateFile = some record) :
      PhaseMove config next (.saving record true rollback decision) (.returned decision)
  | failsSave {record : SealedRecord} {keyStored : Bool} {rollback : Option SealedRecord}
      {decision : Decision} (memory : next.memory = rollback.or config.memory) :
      PhaseMove config next (.saving record keyStored rollback decision) .threw

inductive CallMove (env : ServiceEnv) (config next : Config) : Option Call → Option Call → Prop
  | still (call : Option Call) : CallMove env config next call call
  | opens (operation : Operation) (memory : next.memory = config.memory) :
      CallMove env config next none
        (some { operation := operation
                phase := (operation.program env).phase config.mutationQueue })
  | moves {call : Call} {phase : Phase} {ranAt : Option Instant}
      (move : PhaseMove config next call.phase phase)
      (ran : ranAt = match call.phase with
        | .ready (.mutates _) => some config.now
        | _ => call.ranAt) :
      CallMove env config next (some call) (some { call with phase := phase, ranAt := ranAt })

namespace Config

variable {env : ServiceEnv} {config next : Config} {id : CallId}

theorem calls_of_phase {phase : Phase} (found : config.phase id = some phase) :
    ∃ call, config.calls id = some call ∧ call.phase = phase :=
  Option.map_eq_some_iff.mp found

theorem callMove_of_setPhase {before phase : Phase} (found : config.phase id = some before)
    (calls : next.calls = (config.setPhase id phase).calls)
    (idle : ∀ body, before ≠ .ready (.mutates body)) (move : PhaseMove config next before phase)
    (other : CallId) : CallMove env config next (config.calls other) (next.calls other) := by
  obtain ⟨call, present, same⟩ := calls_of_phase found
  by_cases equal : other = id
  · subst equal
    have moved : next.calls other = some { call with phase := phase } := by
      simp [calls, setPhase, present]
    rw [present, moved]
    refine .moves (same ▸ move) ?_
    split
    · rename_i body ready
      exact absurd (same.symm.trans ready) (idle body)
    · rfl
  · have kept : next.calls other = config.calls other := by simp [calls, setPhase, equal]
    rw [kept]
    exact .still _

theorem calls_runBody (loaded : SealedRecord) (body : Body) :
    (config.runBody id loaded body).calls = (config.setPhase id (body.phase loaded)).calls := by
  cases body <;> rfl

theorem memory_runBody (held : config.memory = some loaded)
    (body : Body) : (config.runBody id loaded body).memory = some (body.memory loaded) := by
  cases body <;> simp [runBody, Body.memory, settle, setPhase, held]

theorem stateFile_runBody (loaded : SealedRecord) (body : Body) :
    (config.runBody id loaded body).stateFile = config.stateFile := by
  cases body <;> rfl

theorem calls_runReading (reading : Reading) : (config.runReading id reading).calls =
      (config.setPhase id (reading.phase config.mutationQueue)).calls := by
  cases reading <;> rfl

theorem memory_runReading (reading : Reading) :
    (config.runReading id reading).memory = config.memory := by
  cases reading <;> rfl

theorem write_unchanged (outcome : WriteOutcome) (record : SealedRecord) (keyStored : Bool) :
    (config.write outcome record keyStored).calls = config.calls ∧
      (config.write outcome record keyStored).memory = config.memory ∧
      (config.write outcome record keyStored).mutationQueue = config.mutationQueue := by
  unfold write
  repeat' split
  all_goals exact ⟨rfl, rfl, rfl⟩

end Config

theorem callMove_of_step {event : Event} (taken : step env config event = some next)
    (other : CallId) : CallMove env config next (config.calls other) (next.calls other) := by
  cases event with
  | tick elapsed =>
    cases taken
    exact .still _
  | call id operation =>
    simp only [step] at taken
    split at taken
    case h_1 => cases taken
    case h_2 absent =>
      cases taken
      have memory : (config.openCall id operation (operation.program env)).memory =
          config.memory := by
        cases operation.program env <;> rfl
      have calls : (config.openCall id operation (operation.program env)).calls =
          Function.update config.calls id (some
            { operation := operation
              phase := (operation.program env).phase config.mutationQueue }) := by
        cases operation.program env <;> rfl
      by_cases equal : other = id
      · subst equal
        rw [calls, Function.update_self, absent]
        exact .opens operation memory
      · rw [calls, Function.update_of_ne equal]
        exact .still _
  | start id =>
    simp only [step] at taken
    split at taken
    case h_2 => cases taken
    case h_1 blockers entry found =>
      split at taken
      · cases taken
      rename_i unblocked
      have free : config.Unblocked blockers = true := by simpa using unblocked
      split at taken
      · rename_i loaded
        cases taken
        exact Config.callMove_of_setPhase found rfl (fun _ => Phase.noConfusion)
          (.skipsLoad free loaded rfl) other
      · cases taken
        exact Config.callMove_of_setPhase found rfl (fun _ => Phase.noConfusion)
          (.startsLoad free rfl) other
  | readKey id =>
    simp only [step] at taken
    split at taken
    case h_1 sealed entry found =>
      cases taken
      exact Config.callMove_of_setPhase found rfl (fun _ => Phase.noConfusion) (.readsKey rfl) other
    case h_2 => cases taken
  | readState id =>
    simp only [step] at taken
    split at taken
    case h_1 key entry found =>
      cases taken
      exact Config.callMove_of_setPhase found rfl (fun _ => Phase.noConfusion)
        (.readsState rfl) other
    case h_2 => cases taken
  | readFails id =>
    simp only [step] at taken
    split at taken
    case h_1 key sealed entry found =>
      cases taken
      refine Config.callMove_of_setPhase found ?_ (fun _ => Phase.noConfusion) (.failsRead ?_) other
      · rfl
      · rfl
    case h_2 => cases taken
  | assign id freshKey freshIdentity =>
    simp only [step] at taken
    split at taken
    case h_2 => cases taken
    case h_1 key sealed entry found =>
      split at taken
      case h_1 => cases taken
      case h_2 key' failed =>
        cases taken
        refine Config.callMove_of_setPhase found ?_ (fun _ => Phase.noConfusion) (.failsRead ?_)
          other
        · rfl
        · cases held : config.memory <;> simp [Config.state, Config.settle, Config.setPhase, held]
      case h_3 record opened =>
        split at taken
        · cases taken
          refine Config.callMove_of_setPhase found ?_ (fun _ => Phase.noConfusion)
            (@PhaseMove.loads _ _ _ _ _ record ?_) other
          · rfl
          · rfl
        · cases taken
          refine Config.callMove_of_setPhase found ?_ (fun _ => Phase.noConfusion)
            (@PhaseMove.loadsFirst _ _ _ _ _ record ?_) other
          · rfl
          · rfl
  | store id outcome =>
    simp only [step] at taken
    split at taken
    case h_1 record keyStored entry found =>
      obtain ⟨calls, memory, -⟩ := config.write_unchanged outcome record keyStored
      have phases : ∀ phase : Phase, ((config.write outcome record keyStored).setPhase id
          phase).calls = (config.setPhase id phase).calls := by
        intro phase
        simp only [Config.setPhase, calls]
      split at taken
      · cases taken
        refine Config.callMove_of_setPhase found ?_ (fun _ => Phase.noConfusion) (.failsStore ?_)
          other
        · exact phases .threw
        · exact memory
      split at taken
      · rename_i stored
        cases taken
        subst stored
        exact Config.callMove_of_setPhase found (phases (.ready entry))
          (fun _ => Phase.noConfusion) (.storesState memory) other
      · rename_i stored
        cases taken
        obtain rfl : keyStored = false := by simpa using stored
        exact Config.callMove_of_setPhase found (phases (.storing record true entry))
          (fun _ => Phase.noConfusion) (.storesKey memory) other
    case h_2 record keyStored rollback decision found =>
      obtain ⟨calls, memory, -⟩ := config.write_unchanged outcome record keyStored
      have phases : ∀ phase : Phase, ((config.write outcome record keyStored).setPhase id
          phase).calls = (config.setPhase id phase).calls := by
        intro phase
        simp only [Config.setPhase, calls]
      split at taken
      · cases taken
        refine Config.callMove_of_setPhase found ?_ (fun _ => Phase.noConfusion)
          (.failsSave ?_) other
        · exact phases .threw
        · simp only [Config.failSave, memory]
      rename_i succeeds
      split at taken
      · rename_i stored
        cases taken
        subst stored
        refine Config.callMove_of_setPhase found ?_ (fun _ => Phase.noConfusion)
          (.saves ?_ ?_) other
        · exact phases (.returned decision)
        · exact memory
        · cases outcome with
          | written => rfl
          | failsUnwritten => simp [WriteOutcome.fails] at succeeds
          | failsWritten => simp [WriteOutcome.fails] at succeeds
      · rename_i stored
        cases taken
        obtain rfl : keyStored = false := by simpa using stored
        exact Config.callMove_of_setPhase found (phases (.saving record true rollback decision))
          (fun _ => Phase.noConfusion) (.savesKey memory) other
    case h_3 => cases taken
  | run id =>
    simp only [step] at taken
    split at taken
    case h_1 body loaded found held =>
      cases taken
      obtain ⟨call, present, ready⟩ := Config.calls_of_phase found
      by_cases equal : other = id
      · subst equal
        have moved : ((config.markRun other).runBody other loaded
            (body config.now loaded.state)).calls other =
            some { call with
              phase := (body config.now loaded.state).phase loaded
              ranAt := some config.now } := by
          rw [Config.calls_runBody]
          simp [Config.setPhase, Config.markRun, present]
        have held' : (config.markRun other).memory = some loaded := held
        rw [present, moved]
        refine .moves ?_ (by rw [ready])
        rw [ready]
        exact .runs held (Config.memory_runBody held' _) (Config.stateFile_runBody _ _)
      · have kept : ((config.markRun id).runBody id loaded
            (body config.now loaded.state)).calls other = config.calls other := by
          rw [Config.calls_runBody]
          simp [Config.setPhase, Config.markRun, equal]
        rw [kept]
        exact .still _
    case h_2 reading loaded found held =>
      cases taken
      exact Config.callMove_of_setPhase found (Config.calls_runReading _)
        (fun _ same => nomatch same) (.reads held (Config.memory_runReading _)) other
    case h_3 => cases taken
  | resume id reply =>
    simp only [step] at taken
    split at taken
    case h_1 resume loaded found held =>
      cases taken
      exact Config.callMove_of_setPhase found (Config.calls_runBody _ _)
        (fun _ => Phase.noConfusion)
        (.resumes held (Config.memory_runBody held _) (Config.stateFile_runBody _ _)) other
    case h_2 resume found =>
      cases taken
      exact Config.callMove_of_setPhase found (Config.calls_runReading _)
        (fun _ => Phase.noConfusion) (.decides (Config.memory_runReading _)) other
    case h_3 => cases taken

end LicoMesh.ProcessIdentity
