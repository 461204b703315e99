import Mathlib.Data.List.Pairwise
import LicoMesh.ProcessIdentity.Mutations
import LicoMesh.ProcessIdentity.CallMoves

namespace LicoMesh.ProcessIdentity

variable {freshKey : SealingKey} {freshIdentity : ServerIdentity} {key : Option (Option SealingKey)}
  {sealed : Option (Option SealedRecord)} {loaded : SealedRecord} {entry : Entry}

namespace Config

variable {config : Config} {id other : CallId} {before phase : Phase}

theorem phase_setPhase (found : config.phase id = some before) (phase : Phase) :
    (config.setPhase id phase).phase id = some phase := by
  obtain ⟨call, found, -⟩ := Option.map_eq_some_iff.mp found
  simp [Config.phase, setPhase, found]

theorem phase_setPhase_ne (different : other ≠ id) (phase : Phase) :
    (config.setPhase id phase).phase other = config.phase other := by
  simp [Config.phase, setPhase, different]

@[simp] theorem phase_markRun : (config.markRun id).phase other = config.phase other := by
  by_cases same : other = id
  · subst same
    simp [phase, markRun, Function.comp_def]
  · simp [phase, markRun, same]

@[simp] theorem memory_settle : (config.settle id phase).memory = config.memory := rfl

@[simp] theorem memory_markRun : (config.markRun id).memory = config.memory := rfl

@[simp] theorem now_markRun : (config.markRun id).now = config.now := rfl

@[simp] theorem mutationQueue_markRun :
    (config.markRun id).mutationQueue = config.mutationQueue := rfl

theorem phase_openCall (operation : Operation) (program : Program) :
    (config.openCall id operation program).phase id =
      some (program.phase config.mutationQueue) := by
  cases program <;> simp [openCall, phase, Program.phase]

theorem phase_openCall_ne (different : other ≠ id) (operation : Operation) (program : Program) :
    (config.openCall id operation program).phase other = config.phase other := by
  cases program <;> simp [openCall, phase, different]

section Write

variable (outcome : WriteOutcome) (record : SealedRecord) (keyStored : Bool)

@[simp] theorem phase_write :
    (config.write outcome record keyStored).phase other = config.phase other := by
  unfold write
  repeat' split
  all_goals rfl

@[simp] theorem memory_write : (config.write outcome record keyStored).memory = config.memory := by
  unfold write
  repeat' split
  all_goals rfl

@[simp] theorem mutationQueue_write :
    (config.write outcome record keyStored).mutationQueue = config.mutationQueue := by
  unfold write
  repeat' split
  all_goals rfl

end Write

end Config

def Entry.IsMutation : Entry → Bool
  | .reads _ => false
  | .mutates _ => true

def Entry.Changes (env : ServiceEnv) : Entry → Prop
  | .reads reading => ∀ now state, (reading now state).Changes env
  | .mutates body => ∀ now state, (body now state).Changes env now state

namespace Phase

def Queued : Phase → Bool
  | .waiting _ entry => entry.IsMutation
  | .reading _ _ entry => entry.IsMutation
  | .storing _ _ entry => entry.IsMutation
  | .ready entry => entry.IsMutation
  | .acting _ => true
  | .saving _ _ _ _ => true
  | _ => false

def Waits : Phase → Bool
  | .waiting _ _ => true
  | _ => false

def Sound (env : ServiceEnv) (memory : Option SealedRecord) : Phase → Prop
  | .waiting _ entry => entry.Changes env
  | .reading _ _ entry => entry.Changes env
  | .storing _ _ entry => entry.Changes env ∧ memory.isSome
  | .ready entry => entry.Changes env ∧ memory.isSome
  | .acting resume =>
    ∃ loaded, memory = some loaded ∧
      ∀ reply now, (resume reply now loaded.state).Changes env now loaded.state
  | .deciding resume => ∀ reply, (resume reply).Changes env
  | .saving record _ rollback decision =>
    (∃ loaded, memory = some loaded ∧ loaded.state = record.state) ∧
      ∃ ranAt before saved rollsBack, Change env ranAt before.state saved rollsBack decision ∧
        record.state = normalizeState saved ∧
        rollback = if rollsBack then some before else none
  | _ => True

end Phase

def SameState (memory next : Option SealedRecord) : Prop :=
  ∀ loaded, memory = some loaded → ∃ after, next = some after ∧ after.state = loaded.state

theorem SameState.refl (memory : Option SealedRecord) : SameState memory memory :=
  fun loaded found => ⟨loaded, found, rfl⟩

theorem SameState.isSome (same : SameState memory next) (loaded : memory.isSome) : next.isSome := by
  obtain ⟨record, found⟩ := Option.isSome_iff_exists.mp loaded
  obtain ⟨after, found, -⟩ := same record found
  simp [found]

variable {phase : Phase}

theorem Phase.Sound.sameState (sound : phase.Sound env memory) (same : SameState memory next) :
    phase.Sound env next := by
  cases phase with
  | storing record keyStored entry => exact ⟨sound.1, same.isSome sound.2⟩
  | ready entry => exact ⟨sound.1, same.isSome sound.2⟩
  | acting resume =>
    obtain ⟨loaded, found, changes⟩ := sound
    obtain ⟨after, found, equal⟩ := same loaded found
    exact ⟨after, found, equal ▸ changes⟩
  | saving record keyStored rollback decision =>
    obtain ⟨⟨loaded, found, equal⟩, change⟩ := sound
    obtain ⟨after, found, equal'⟩ := same loaded found
    exact ⟨⟨after, found, equal'.trans equal⟩, change⟩
  | _ => exact sound

theorem Phase.Sound.replaced (sound : phase.Sound env memory)
    (idle : phase.Queued = true → phase.Waits = true) : phase.Sound env (some record) := by
  cases phase with
  | storing => exact ⟨sound.1, rfl⟩
  | ready => exact ⟨sound.1, rfl⟩
  | acting => simp [Queued, Waits] at idle
  | saving => simp [Queued, Waits] at idle
  | _ => exact sound

namespace Config

def BlockedOn (config : Config) (earlier later : CallId) : Prop :=
  ∃ blockers entry, config.phase later = some (.waiting blockers entry) ∧ earlier ∈ blockers

/-- Queued mutations wait for every mutation before them. -/
structure Serial (env : ServiceEnv) (config : Config) : Prop where
  nodup : config.mutationQueue.Nodup
  known : ∀ id ∈ config.mutationQueue, ∃ phase, config.phase id = some phase
  queued : ∀ id phase, config.phase id = some phase →
    (phase.Queued = true ↔ id ∈ config.mutationQueue)
  ordered : config.mutationQueue.Pairwise config.BlockedOn
  sound : ∀ id phase, config.phase id = some phase → phase.Sound env config.memory

variable {env : ServiceEnv} {config next : Config} {id : CallId} {phase : Phase}

theorem Serial.running_unique (serial : config.Serial env)
    (found : config.phase id = some phase) (queued : phase.Queued = true)
    (running : phase.Waits = false) (otherFound : config.phase other = some others)
    (otherQueued : others.Queued = true) (different : other ≠ id) : others.Waits = true := by
  have member := (serial.queued id phase found).mp queued
  have otherMember := (serial.queued other others otherFound).mp otherQueued
  have either : config.mutationQueue.Pairwise fun earlier later =>
      config.BlockedOn earlier later ∨ config.BlockedOn later earlier :=
    serial.ordered.imp .inl
  have symmetric : Std.Symm fun earlier later =>
      config.BlockedOn earlier later ∨ config.BlockedOn later earlier := ⟨fun _ _ => .symm⟩
  cases either.forall member otherMember (Ne.symm different) with
  | inl blocked =>
    obtain ⟨blockers, entry, waits, -⟩ := blocked
    have : others = .waiting blockers entry := by simpa [otherFound] using waits
    simp [this, Phase.Waits]
  | inr blocked =>
    obtain ⟨blockers, entry, waits, -⟩ := blocked
    have : phase = .waiting blockers entry := by simpa [found] using waits
    simp [this, Phase.Waits] at running

structure MovesOnly (config next : Config) (id : CallId) (phase : Phase) : Prop where
  moved : next.phase id = some phase
  others : ∀ other, other ≠ id → next.phase other = config.phase other
  queue : next.mutationQueue =
    if phase.Queued = true then config.mutationQueue else config.mutationQueue.erase id

theorem Serial.move (serial : config.Serial env) (found : config.phase id = some before)
    (free : ∀ blockers entry, before = .waiting blockers entry → config.Unblocked blockers = true)
    (moves : config.MovesOnly next id phase) (stays : phase.Queued = true → before.Queued = true)
    (sound : phase.Sound env next.memory)
    (rest : ∀ other others, other ≠ id → config.phase other = some others →
      others.Sound env next.memory) : next.Serial env := by
  have subset : ∀ other ∈ next.mutationQueue, other ∈ config.mutationQueue := by
    intro other member
    rw [moves.queue] at member
    split at member
    · exact member
    · exact List.mem_of_mem_erase member
  constructor
  · rw [moves.queue]
    split
    · exact serial.nodup
    · exact serial.nodup.erase id
  · intro other member
    by_cases same : other = id
    · exact ⟨phase, same ▸ moves.moved⟩
    · rw [moves.others other same]
      exact serial.known other (subset other member)
  · intro other others otherFound
    by_cases same : other = id
    · subst same
      obtain rfl : phase = others := by simpa [moves.moved] using otherFound
      rw [moves.queue]
      by_cases queued : phase.Queued = true
      · simpa [queued] using (serial.queued other before found).mp (stays queued)
      · simpa [queued] using List.Nodup.not_mem_erase serial.nodup
    · rw [moves.others other same] at otherFound
      rw [serial.queued other others otherFound, moves.queue]
      split
      · rfl
      · exact (List.mem_erase_of_ne same).symm
  · have ordered : next.mutationQueue.Pairwise config.BlockedOn := by
      rw [moves.queue]
      split
      · exact serial.ordered
      · exact serial.ordered.sublist List.erase_sublist
    refine ordered.imp_of_mem ?_
    intro earlier later earlierMember laterMember blocked
    obtain ⟨blockers, entry, waits, member⟩ := blocked
    by_cases same : later = id
    · subst same
      have waiting : before = .waiting blockers entry := by simpa [found] using waits
      have unblocked := free blockers entry waiting
      have absent : earlier ∉ config.mutationQueue := by
        simpa using (List.all_eq_true.mp unblocked) earlier member
      exact absurd (subset earlier earlierMember) absent
    · exact ⟨blockers, entry, by rw [moves.others later same]; exact waits, member⟩
  · intro other others otherFound
    by_cases same : other = id
    · subst same
      obtain rfl : phase = others := by simpa [moves.moved] using otherFound
      exact sound
    · rw [moves.others other same] at otherFound
      exact rest other others same otherFound

theorem Serial.join (serial : config.Serial env) (absent : id ∉ config.mutationQueue)
    (moved : next.phase id = some (.waiting config.mutationQueue entry))
    (others : ∀ other, other ≠ id → next.phase other = config.phase other)
    (queue : next.mutationQueue =
      if entry.IsMutation = true then config.mutationQueue ++ [id] else config.mutationQueue)
    (memory : next.memory = config.memory) (changes : entry.Changes env) : next.Serial env := by
  constructor
  · rw [queue]
    split
    · simpa using serial.nodup.concat absent
    · exact serial.nodup
  · intro other member
    by_cases same : other = id
    · exact ⟨_, same ▸ moved⟩
    · rw [others other same]
      refine serial.known other ?_
      rw [queue] at member
      split at member
      · simpa [same] using member
      · exact member
  · intro other phase found
    by_cases same : other = id
    · subst same
      obtain rfl : .waiting config.mutationQueue entry = phase := by
        simpa [moved] using found
      rw [queue]
      cases mutation : entry.IsMutation <;> simp [Phase.Queued, mutation, absent]
    · rw [others other same] at found
      rw [serial.queued other phase found, queue]
      split <;> simp [same]
  · have kept : config.mutationQueue.Pairwise next.BlockedOn := by
      refine serial.ordered.imp_of_mem ?_
      intro earlier later _ laterMember blocked
      obtain ⟨blockers, entry, waits, member⟩ := blocked
      have different : later ≠ id := fun same => absent (same ▸ laterMember)
      exact ⟨blockers, entry, by rw [others later different]; exact waits, member⟩
    rw [queue]
    split
    · refine List.pairwise_append.mpr ⟨kept, List.pairwise_singleton _ _, ?_⟩
      intro earlier member later isId
      obtain rfl : later = id := by simpa using isId
      exact ⟨config.mutationQueue, entry, moved, member⟩
    · exact kept
  · intro other phase found
    rw [memory]
    by_cases same : other = id
    · subst same
      obtain rfl : .waiting config.mutationQueue entry = phase := by
        simpa [moved] using found
      exact changes
    · rw [others other same] at found
      exact serial.sound other phase found

theorem Serial.movesOnly_setPhase (serial : config.Serial env)
    (found : config.phase id = some before) (same : phase.Queued = before.Queued) :
    config.MovesOnly (config.setPhase id phase) id phase where
  moved := phase_setPhase found phase
  others _ different := phase_setPhase_ne different phase
  queue := by
    split
    · rfl
    · rename_i idle
      rw [same, serial.queued id before found] at idle
      exact (List.erase_of_not_mem idle).symm

theorem movesOnly_settle (found : config.phase id = some before)
    (settled : phase.Queued = false) : config.MovesOnly (config.settle id phase) id phase where
  moved := phase_setPhase found phase
  others _ different := phase_setPhase_ne different phase
  queue := by simp [settled, settle]

end Config

/-- A load that completes brings no other state than the one in memory, and writes no other
one to the state file. -/
def Config.keepsLoaded (config : Config) : Event → Bool
  | .assign id freshKey freshIdentity =>
    match config.phase id, config.memory with
    | some (.reading key sealed _), some loaded =>
      match loadedRecord freshKey freshIdentity key sealed with
      | some (.ok record) => record.state = loaded.state
      | _ => true
    | _, _ => true
  | .store id outcome =>
    match config.phase id, config.memory with
    | some (.storing record true _), some loaded =>
      !outcome.renames || record.state = loaded.state
    | _, _ => true
  | _ => true

abbrev Config.KeepsLoaded (config : Config) (event : Event) : Prop :=
  config.keepsLoaded event = true

variable {config : Config} {id : CallId}

theorem Config.KeepsLoaded.assigned (keeps : config.KeepsLoaded (.assign id freshKey freshIdentity))
    (found : config.phase id = some (.reading key sealed entry))
    (opened : loadedRecord freshKey freshIdentity key sealed = some (.ok record))
    (held : config.memory = some loaded) : record.state = loaded.state := by
  simpa [KeepsLoaded, keepsLoaded, found, opened, held] using keeps

theorem Config.KeepsLoaded.stored (keeps : config.KeepsLoaded (.store id outcome))
    (found : config.phase id = some (.storing record true entry)) (renames : outcome.renames = true)
    (held : config.memory = some loaded) : record.state = loaded.state := by
  simpa [KeepsLoaded, keepsLoaded, found, renames, held] using keeps

theorem Body.sound_phase {memory : SealedRecord} {body : Body}
    (changes : body.Changes env now memory.state) :
    (body.phase memory).Sound env (some (body.memory memory)) := by
  cases body with
  | returns decision => trivial
  | throws => trivial
  | awaits resume => exact ⟨memory, rfl, changes⟩
  | saves next rollsBack decision =>
    exact ⟨⟨_, rfl, rfl⟩, now, memory, next, rollsBack, changes, rfl, rfl⟩

namespace Config

variable {env : ServiceEnv} {config next : Config} {id : CallId} {memory : SealedRecord}

section

variable (serial : config.Serial env)
include serial

section

variable (found : config.phase id = some before)
include found

theorem runBody_movesOnly (queued : before.Queued = true) (body : Body) :
    config.MovesOnly (config.runBody id memory body) id (body.phase memory) := by
  cases body with
  | returns decision => exact movesOnly_settle found rfl
  | throws => exact movesOnly_settle found rfl
  | awaits resume => exact serial.movesOnly_setPhase found queued.symm
  | saves next rollsBack decision =>
    have moves : config.MovesOnly (config.setPhase id
        ((Body.saves next rollsBack decision).phase memory)) id
        ((Body.saves next rollsBack decision).phase memory) :=
      serial.movesOnly_setPhase found queued.symm
    exact ⟨moves.moved, moves.others, moves.queue⟩

theorem Serial.runBody (queued : before.Queued = true) (running : before.Waits = false)
    (loaded : config.memory = some memory) {now : Instant}
    (changes : body.Changes env now memory.state) : (config.runBody id memory body).Serial env := by
  refine serial.move found ?_ (runBody_movesOnly serial found queued body) (fun _ => queued) ?_ ?_
  · intro blockers entry waits
    simp [waits, Phase.Waits] at running
  · rw [memory_runBody loaded]
    exact body.sound_phase changes
  · intro other others different otherFound
    rw [memory_runBody loaded]
    refine (serial.sound other others otherFound).replaced ?_
    intro otherQueued
    exact serial.running_unique found queued running otherFound otherQueued different

theorem Serial.runReading (idle : before.Queued = false) (running : before.Waits = false)
    (changes : reading.Changes env) : (config.runReading id reading).Serial env := by
  have absent : id ∉ config.mutationQueue := by
    rw [← serial.queued id before found, idle]
    exact Bool.false_ne_true
  have set : ∀ phase : Phase, phase.Queued = false → phase.Sound env config.memory →
      (config.setPhase id phase).Serial env := by
    intro phase settled sound
    refine serial.move found ?_ (serial.movesOnly_setPhase found (settled.trans idle.symm))
      (fun queued => absurd (settled.symm.trans queued) Bool.false_ne_true) sound
      (fun other others _ otherFound => serial.sound other others otherFound)
    intro blockers entry waits
    simp [waits, Phase.Waits] at running
  cases reading with
  | returns decision => exact set _ rfl trivial
  | throws => exact set _ rfl trivial
  | awaits resume => exact set _ rfl changes
  | mutates body =>
    have moved : (config.runReading id (.mutates body)).phase id =
        some (.waiting config.mutationQueue (.mutates body)) := phase_setPhase found _
    exact serial.join absent moved (fun _ different => phase_setPhase_ne different _) rfl rfl
      changes

end

theorem Serial.proceed {before phase : Phase} (found : config.phase id = some before)
    (free : ∀ blockers entry, before = .waiting blockers entry → config.Unblocked blockers = true)
    (moves : config.MovesOnly next id phase) (same : phase.Queued = true → before.Queued = true)
    (sound : phase.Sound env next.memory) (memory : SameState config.memory next.memory) :
    next.Serial env :=
  serial.move found free moves same sound fun other others _ otherFound =>
    (serial.sound other others otherFound).sameState memory

theorem Serial.openCall (absent : config.calls id = none) (operation : Operation) :
    (config.openCall id operation (operation.program env)).Serial env := by
  have missing : config.phase id = none := by simp [phase, absent]
  have outside : id ∉ config.mutationQueue := by
    intro member
    obtain ⟨phase, found⟩ := serial.known id member
    simp [missing] at found
  have changes := operation.program_changes env
  have moved : (config.openCall id operation (operation.program env)).phase id =
      some ((operation.program env).phase config.mutationQueue) := phase_openCall operation _
  have others : ∀ other, other ≠ id →
      (config.openCall id operation (operation.program env)).phase other = config.phase other :=
    fun _ different => phase_openCall_ne different operation _
  cases program : operation.program env with
  | returns decision =>
    rw [program] at moved others
    refine ⟨serial.nodup, ?_, ?_, ?_, ?_⟩
    · intro other member
      have different : other ≠ id := fun same => outside (same ▸ member)
      rw [others other different]
      exact serial.known other member
    · intro other phase found
      by_cases same : other = id
      · subst same
        obtain rfl : .returned decision = phase := by simpa [moved, Program.phase] using found
        simpa [Config.openCall, Phase.Queued] using outside
      · rw [others other same] at found
        exact serial.queued other phase found
    · refine serial.ordered.imp_of_mem ?_
      intro earlier later _ member blocked
      have different : later ≠ id := fun same => outside (same ▸ member)
      simpa [BlockedOn, others later different] using blocked
    · intro other phase found
      by_cases same : other = id
      · subst same
        obtain rfl : .returned decision = phase := by simpa [moved, Program.phase] using found
        trivial
      · rw [others other same] at found
        exact serial.sound other phase found
  | reads reading =>
    rw [program] at changes moved others
    exact serial.join outside moved others rfl rfl changes
  | mutates body =>
    rw [program] at changes moved others
    exact serial.join outside moved others rfl rfl changes

theorem Serial.assign (keeps : config.KeepsLoaded (.assign id freshKey freshIdentity))
    (taken : step env config (.assign id freshKey freshIdentity) = some next) :
    next.Serial env := by
  simp only [step] at taken
  split at taken
  case h_2 => cases taken
  case h_1 key sealed entry found =>
    have sound := serial.sound id _ found
    have free : ∀ blockers other, Phase.reading key sealed entry = .waiting blockers other →
        config.Unblocked blockers = true := fun _ _ same => Phase.noConfusion same
    split at taken
    case h_1 => cases taken
    case h_2 key' failed =>
      cases taken
      have settles : config.MovesOnly (config.settle id .threw) id .threw :=
        movesOnly_settle found rfl
      have moves : config.MovesOnly { config.settle id .threw with
          memory := config.memory.map fun loaded => { loaded with key := key' } } id .threw :=
        ⟨settles.moved, settles.others, settles.queue⟩
      refine serial.proceed found free moves (fun queued => by cases queued) trivial ?_
      intro loaded held
      exact ⟨{ loaded with key := key' }, by simp [held], rfl⟩
    case h_3 record opened =>
      have same : SameState config.memory (some record) := fun loaded held =>
        ⟨record, rfl, keeps.assigned found opened held⟩
      split at taken
      · cases taken
        have sets : config.MovesOnly (config.setPhase id (.ready entry)) id (.ready entry) :=
          serial.movesOnly_setPhase found rfl
        have moves : config.MovesOnly { config.setPhase id (.ready entry) with
            memory := some record } id (.ready entry) := ⟨sets.moved, sets.others, sets.queue⟩
        exact serial.proceed found free moves (fun queued => queued) ⟨sound, rfl⟩ same
      · cases taken
        have sets : config.MovesOnly (config.setPhase id (.storing record false entry)) id
            (.storing record false entry) := serial.movesOnly_setPhase found rfl
        have moves : config.MovesOnly { config.setPhase id (.storing record false entry) with
            memory := some record } id (.storing record false entry) :=
          ⟨sets.moved, sets.others, sets.queue⟩
        exact serial.proceed found free moves (fun queued => queued) ⟨sound, rfl⟩ same

theorem Serial.write (outcome : WriteOutcome) (record : SealedRecord) (keyStored : Bool) :
    (config.write outcome record keyStored).Serial env where
  nodup := by simpa using serial.nodup
  known := by simpa using serial.known
  queued := by simpa using serial.queued
  ordered := by
    have same : (config.write outcome record keyStored).BlockedOn = config.BlockedOn := by
      funext earlier later
      simp [BlockedOn]
    rw [same]
    simpa using serial.ordered
  sound := by simpa using serial.sound

theorem Serial.failSave {decision : Decision}
    (found : config.phase id = some (.saving record keyStored rollback decision)) :
    (config.failSave id rollback).Serial env := by
  have settles : config.MovesOnly (config.settle id .threw) id .threw := movesOnly_settle found rfl
  have moves : config.MovesOnly (config.failSave id rollback) id .threw :=
    ⟨settles.moved, settles.others, settles.queue⟩
  refine serial.move found (fun _ _ same => Phase.noConfusion same) moves
    (fun queued => nomatch queued) trivial ?_
  intro other others different otherFound
  obtain ⟨⟨loaded, present, -⟩, -⟩ := serial.sound id _ found
  have held : ∃ after, (config.failSave id rollback).memory = some after := by
    cases rollback with
    | none => exact ⟨loaded, present⟩
    | some before => exact ⟨before, rfl⟩
  obtain ⟨after, held⟩ := held
  rw [held]
  refine (serial.sound other others otherFound).replaced ?_
  intro queued
  exact serial.running_unique found rfl rfl otherFound queued different

theorem Serial.store
    (taken : step env config (.store id outcome) = some next) : next.Serial env := by
  simp only [step] at taken
  split at taken
  case h_1 record keyStored entry found =>
    have written := serial.write outcome record keyStored
    have found' : (config.write outcome record keyStored).phase id =
        some (.storing record keyStored entry) := by rw [phase_write, found]
    have sound := written.sound id _ found'
    have proceed : ∀ {after : Config} {phase : Phase},
        (config.write outcome record keyStored).MovesOnly after id phase →
        (phase.Queued = true → entry.IsMutation = true) →
        phase.Sound env after.memory →
        after.memory = (config.write outcome record keyStored).memory → after.Serial env := by
      intro after phase moves queued holds memory
      exact written.proceed found' (fun _ _ same => Phase.noConfusion same) moves queued holds
        (memory ▸ .refl _)
    split at taken
    · cases taken
      exact proceed (movesOnly_settle found' rfl) (fun queued => by cases queued) trivial rfl
    split at taken
    · cases taken
      exact proceed (written.movesOnly_setPhase found' rfl) (fun queued => queued) sound rfl
    · cases taken
      exact proceed (written.movesOnly_setPhase found' rfl) (fun queued => queued) sound rfl
  case h_2 record keyStored rollback decision found =>
    have written := serial.write outcome record keyStored
    have found' : (config.write outcome record keyStored).phase id =
        some (.saving record keyStored rollback decision) := by rw [phase_write, found]
    have sound := written.sound id _ found'
    have proceed : ∀ {after : Config} {phase : Phase},
        (config.write outcome record keyStored).MovesOnly after id phase →
        phase.Sound env after.memory →
        after.memory = (config.write outcome record keyStored).memory → after.Serial env := by
      intro after phase moves holds memory
      exact written.proceed found' (fun _ _ same => Phase.noConfusion same) moves (fun _ => rfl)
        holds (memory ▸ .refl _)
    split at taken
    · cases taken
      exact written.failSave found'
    split at taken
    · cases taken
      exact proceed (movesOnly_settle found' rfl) trivial rfl
    · cases taken
      exact proceed (written.movesOnly_setPhase found' rfl) sound rfl
  case h_3 => cases taken

theorem Serial.start (taken : step env config (.start id) = some next) : next.Serial env := by
  simp only [step] at taken
  split at taken
  case h_2 => cases taken
  case h_1 blockers entry found =>
    have sound := serial.sound id _ found
    split at taken
    · cases taken
    rename_i unblocked
    have free : ∀ others other, Phase.waiting blockers entry = .waiting others other →
        config.Unblocked others = true := by
      intro others other same
      cases same
      simpa using unblocked
    split at taken
    · rename_i loaded
      cases taken
      exact serial.proceed found free (serial.movesOnly_setPhase found rfl)
        (fun queued => queued) ⟨sound, loaded⟩ (.refl _)
    · cases taken
      exact serial.proceed found free (serial.movesOnly_setPhase found rfl)
        (fun queued => queued) sound (.refl _)

theorem Serial.read (found : config.phase id = some (.reading key sealed entry)) :
    (config.setPhase id (.reading key' sealed' entry)).Serial env :=
  serial.proceed found (fun _ _ same => Phase.noConfusion same)
    (serial.movesOnly_setPhase found rfl) (fun queued => queued)
    (serial.sound id (.reading key sealed entry) found) (.refl _)

theorem Serial.markRun : (config.markRun id).Serial env where
  nodup := serial.nodup
  known := by simpa using serial.known
  queued := by simpa using serial.queued
  ordered := by
    have same : (config.markRun id).BlockedOn = config.BlockedOn := by
      funext earlier later
      simp [BlockedOn]
    rw [same]
    exact serial.ordered
  sound := by simpa using serial.sound

theorem Serial.run (taken : step env config (.run id) = some next) : next.Serial env := by
  simp only [step] at taken
  split at taken
  case h_1 body loaded found held =>
    cases taken
    have sound := serial.sound id _ found
    exact serial.markRun.runBody (by simpa using found) rfl rfl held (sound.1 _ _)
  case h_2 reading loaded found held =>
    cases taken
    have sound := serial.sound id _ found
    exact serial.runReading found rfl rfl (sound.1 _ _)
  case h_3 => cases taken

theorem Serial.resume
    (taken : step env config (.resume id reply) = some next) : next.Serial env := by
  simp only [step] at taken
  split at taken
  case h_1 resume loaded found held =>
    cases taken
    obtain ⟨memory, held', changes⟩ := serial.sound id _ found
    obtain rfl : loaded = memory := by simpa [held] using held'
    exact serial.runBody found rfl rfl held (changes reply config.now)
  case h_2 resume found =>
    cases taken
    exact serial.runReading found rfl rfl (serial.sound id _ found reply)
  case h_3 => cases taken

end

end Config

theorem Config.Serial.step {event : Event}
    (serial : config.Serial env) (keeps : config.KeepsLoaded event)
    (taken : step env config event = some next) : next.Serial env := by
  cases event with
  | tick elapsed =>
    cases taken
    exact ⟨serial.nodup, serial.known, serial.queued, serial.ordered, serial.sound⟩
  | call id operation =>
    simp only [ProcessIdentity.step] at taken
    split at taken
    case h_1 => cases taken
    case h_2 absent =>
      cases taken
      exact serial.openCall absent operation
  | start id => exact serial.start taken
  | readKey id =>
    simp only [ProcessIdentity.step] at taken
    split at taken
    case h_1 sealed entry found =>
      cases taken
      exact serial.read found
    case h_2 => cases taken
  | readState id =>
    simp only [ProcessIdentity.step] at taken
    split at taken
    case h_1 key entry found =>
      cases taken
      exact serial.read found
    case h_2 => cases taken
  | readFails id =>
    simp only [ProcessIdentity.step] at taken
    split at taken
    case h_1 key sealed entry found =>
      cases taken
      exact serial.proceed found (fun _ _ same => Phase.noConfusion same)
        (movesOnly_settle found rfl) (fun queued => by cases queued) trivial (.refl _)
    case h_2 => cases taken
  | assign id freshKey freshIdentity => exact serial.assign keeps taken
  | store id outcome => exact serial.store taken
  | run id => exact serial.run taken
  | resume id reply => exact serial.resume taken

theorem Config.Serial.start_config (env : ServiceEnv) (now : Instant) (keyFile : Option SealingKey)
    (stateFile : Option SealedRecord) : (Config.start now keyFile stateFile).Serial env where
  nodup := List.nodup_nil
  known := by simp [Config.start]
  queued := by simp [Config.start, Config.phase]
  ordered := .nil
  sound := by simp [Config.start, Config.phase]

end LicoMesh.ProcessIdentity
