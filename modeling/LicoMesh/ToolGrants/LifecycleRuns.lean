import LicoMesh.ToolGrants.LifecycleUses
import LicoMesh.ToolGrants.OwnerRetirement

namespace LicoMesh.ToolGrants

open Library List

/-! Runs of the lifecycle commands, one at a time, with authorizations at any time. -/

variable {events : List Event} {shared store after : Store} {index : Nat} {id : GrantId}
  {point next : Point} {call : Call} {reply : Reply} {world : GrantWorld} {event : Event}

/-- A lifecycle command is called when none is running. -/
def OneAtATime (world : GrantWorld) : Event → Prop
  | .call command => command.isAuthorization = true ∨
      (command.isLifecycle = true ∧ ∀ call ∈ world.agents, call.isResting = true)
  | _ => True

def Finished (world : GrantWorld) : Event → Prop
  | .proceed index reply => ∀ call ∈ world.agents[index]?, call.isSpared world.shared reply = true
  | .crash => ∀ call ∈ world.agents, call.point.owes = false
  | _ => True

/-- What is asked of a command is asked where it begins. -/
def Suited (world : GrantWorld) : Event → Prop
  | .proceed index _ => ∀ call ∈ world.agents[index]?, call.point = .starting →
      Modest world.shared call.command
  | _ => True

structure Allowed (world : GrantWorld) (event : Event) : Prop where
  oneAtATime : OneAtATime world event
  finished : Finished world event
  suited : Suited world event

inductive Breaks (store : Store) (call : Call) : Store × Call → Prop
  | done {after : Store} {next : Point}
      (performed : perform store call.command call.point = some (after, next)) :
      Breaks store call (after, { call with point := next })
  | stuck (owes : call.point.owes = false) :
      Breaks store call (store, { call with point := call.point.onFailure })
  | cut {after : Store} {next : Point}
      (performed : perform store call.command call.point = some (after, next))
      (owes : next.owes = false) :
      Breaks store call (after, { call with point := call.point.onFailure })

theorem Call.breaks (spared : call.isSpared store reply = true) :
    Breaks store call (call.proceed store reply) := by
  unfold isSpared at spared
  unfold proceed
  cases performed : perform store call.command call.point with
  | none =>
    rw [performed] at spared
    exact .stuck (Bool.not_eq_eq_eq_not.mp spared)
  | some result =>
    rw [performed] at spared
    cases reply with
    | ok => exact .done performed
    | failed effect =>
      cases effect with
      | true => exact .cut performed (Bool.not_eq_eq_eq_not.mp spared)
      | false => exact .stuck (Bool.not_eq_eq_eq_not.mp spared)

theorem isEnded_onFailure (store : Store) (owes : point.owes = false ∨
    ∃ command after next, perform store command point = some (after, next) ∧ next.owes = false) :
    point.onFailure.isEnded = true := by
  cases point with
  | persisting issue token =>
    rcases owes with owes | ⟨command, after, next, performed, owes⟩
    · exact nomatch owes
    · obtain ⟨_, _, same⟩ := Option.map_eq_some_iff.mp performed
      cases same
      exact nomatch owes
  | _ => rfl

theorem isDone_onFailure (done : point.onFailure.isDone = true) :
    point.isDone = true ∧ point.onFailure = point := by
  cases point with
  | ended => exact ⟨done, rfl⟩
  | _ => exact nomatch done

theorem At.perform (sound : store.Sound) (isLifecycle : call.command.isLifecycle = true)
    (holds : At store call.point) (isOf : call.point.IsOf call.command)
    (modest : call.point = .starting → Modest store call.command)
    (answered : ∀ id, call.command.revokes = some id → call.point.isDone = true → store.Revoked id)
    (done : perform store call.command call.point = some (after, next)) :
    Goes store after call.command next := by
  obtain ⟨command, point⟩ := call
  cases point with
  | starting =>
    have modest := modest rfl
    cases command with
    | createGrant input => exact Idle.startCreate holds modest done
    | updateGrant id patch => exact Idle.startUpdate holds modest done
    | rotateGrantToken id => exact Idle.startRotate holds done
    | revokeGrant id => exact Idle.startRevoke holds rfl rfl done
    | deleteGrant id => exact Idle.startRevoke holds rfl rfl done
    | revokeGrantsByPluginOwner | authorizeRequest => exact nomatch isLifecycle
  | cascading => exact cascading sound holds isOf.1 isOf.2 done
  | invalidatingKey => exact invalidatingKey holds isOf.1 isOf.2 done
  | invalidatingBinding => exact invalidatingBinding holds isOf.1 isOf.2 done
  | notifying => exact notifying holds isOf.1 isOf.2 done
  | issuing => exact issuing holds isOf done
  | binding => exact binding holds isOf done
  | persisting => exact persisting holds isOf done
  | announcing => exact announcing holds isOf answered done
  | ended =>
    cases done
    exact ⟨holds, trivial, fun _ was => was, answered⟩
  | rollingBack | retiringKeys | retiringBinding | staging | verifying | deciding =>
    exact absurd holds id

theorem At.idle (holds : At store point) (owes : point.owes = false) : Idle store := by
  have fresh : ∀ {issue : Issue}, Cleaning store [] [] (.rotate issue) →
      Settled store issue.id → Idle store := by
    intro issue cleaning settled
    refine ⟨fun other => ?_, cleaning.closed⟩
    by_cases same : other = issue.id
    · exact same ▸ settled
    · exact cleaning.settled other not_mem_nil fun isIn => same (mem_singleton.mp isIn)
  cases point with
  | starting => exact holds
  | cascading sequel =>
    cases sequel with
    | update => exact holds.1.idle
    | rotate => exact fresh holds.1 holds.2
    | revoke => exact nomatch owes
  | invalidatingKey id rest sequel =>
    obtain ⟨left, listed, cleaning, settled⟩ := holds
    cases sequel with
    | update | revoke => exact nomatch owes
    | rotate issue =>
      have none : rest = [] := of_not_not (decide_eq_false_iff_not.mp owes)
      subst none
      cases left with
      | nil => exact fresh cleaning settled
      | cons first left => exact absurd (congrArg length listed) (by simp [Sequel.own])
  | notifying rest sequel =>
    obtain ⟨left, listed, cleaning, settled⟩ := holds
    cases sequel with
    | revoke => exact nomatch owes
    | update =>
      have none : rest = [] := of_not_not (decide_eq_false_iff_not.mp owes)
      rw [none] at listed
      obtain rfl := (append_eq_nil_iff.mp listed.symm).1
      exact cleaning.idle
    | rotate issue =>
      have single : rest = [issue.id] := of_not_not (decide_eq_false_iff_not.mp owes)
      rw [single] at listed
      cases left with
      | nil => exact fresh cleaning settled
      | cons first left => exact absurd (congrArg length listed) (by simp [Sequel.own])
  | issuing issue =>
    obtain ⟨issuing, keys, bindings⟩ := holds
    rcases issuing.row with ⟨rotation, _⟩ | ⟨_, creates⟩
    · exact nomatch rotation.symm.trans owes
    · refine ⟨fun other => ?_, issuing.closed⟩
      by_cases same : other = issue.id
      · rw [same]
        exact .lapsed (fun _ present => nomatch creates.absent.symm.trans present) keys bindings
      · exact issuing.others other same
  | announcing again answer =>
    cases answer with
    | granted => exact nomatch owes
    | failed | missing | done | receipt | accepted | denied => exact holds
  | ended => exact holds
  | invalidatingBinding | binding | persisting => exact nomatch owes
  | rollingBack | retiringKeys | retiringBinding | staging | verifying | deciding =>
    exact absurd holds id

structure Known (store : Store) (call : Call) : Prop where
  kind : call.command.isLifecycle = true ∨
    ((∃ request, call.command = .authorizeRequest request) ∧ call.point.isAuthorizing = true)
  answered : ∀ id, call.command.revokes = some id → call.point.isDone = true → store.Revoked id

variable (known : Known store call)
include known

theorem Known.later (revoked : ∀ id, store.Revoked id → after.Revoked id) : Known after call where
  kind := known.kind
  answered id isRevoked done := revoked id (known.answered id isRevoked done)

theorem Known.onFailure : Known store { call with point := call.point.onFailure } where
  kind := known.kind.imp id fun facts => ⟨facts.1, by
    obtain ⟨command, point⟩ := call
    have isAuthorizing := facts.2
    cases point with
    | starting | verifying | deciding | ended => rfl
    | _ => exact nomatch isAuthorizing⟩
  answered id isRevoked done := known.answered id isRevoked (isDone_onFailure done).1

omit known

structure Running (world : GrantWorld) (index : Nat) (call : Call) : Prop where
  isCall : world.agents[index]? = some call
  isRunning : call.isResting = false
  others : ∀ other found, other ≠ index → world.agents[other]? = some found → found.isResting = true
  isOf : call.point.IsOf call.command
  holds : At world.shared call.point

inductive Phase (world : GrantWorld) : Prop
  | resting (all : ∀ call ∈ world.agents, call.isResting = true) (idle : Idle world.shared)
  | running (index : Nat) (call : Call) (running : Running world index call)

structure Orderly (world : GrantWorld) : Prop where
  sound : world.shared.Sound
  known : world.Holds fun store _ call => Known store call
  phase : Phase world

theorem resting_lifecycle (isLifecycle : call.command.isLifecycle = true)
    (resting : call.isResting = true) : call.point.isEnded = true := by
  rw [Call.isResting, isLifecycle] at resting
  exact resting

theorem resting_of_ended (ended : point.isEnded = true) (command : Command) :
    (Call.mk command point).isResting = true := by
  rw [Call.isResting, ended, Bool.or_true]

theorem Phase.beside (phase : Phase world) (alike : Alike world.shared shared)
    (running : ∀ (index : Nat) (call : Call), world.agents[index]? = some call →
      call.isResting = false → agents[index]? = some call)
    (resting : ∀ (index : Nat) (found : Call), agents[index]? = some found →
      found.isResting = true ∨ world.agents[index]? = some found) : Phase ⟨shared, agents⟩ := by
  cases phase with
  | resting all idle =>
    refine .resting (fun found isIn => ?_) (alike.idle idle)
    obtain ⟨index, isFound⟩ := mem_iff_getElem?.mp isIn
    rcases resting index found isFound with resting | isOld
    · exact resting
    · exact all found (mem_of_getElem? isOld)
  | running index call isRun =>
    refine .running index call ⟨running index call isRun.isCall isRun.isRunning,
      isRun.isRunning, fun other found apart isFound => ?_, isRun.isOf, alike.holds isRun.holds⟩
    rcases resting other found isFound with resting | isOld
    · exact resting
    · exact isRun.others other found apart isOld

theorem Phase.beside_update (phase : Phase world) (isCall : world.agents[index]? = some call)
    (resting : call.isResting = true) (still : later.isResting = true)
    (alike : Alike world.shared shared) : Phase (world.update index shared later) := by
  refine phase.beside alike (fun other found isFound isRunning => ?_) fun other found isFound => ?_
  · have apart : other ≠ index := by
      rintro rfl
      rw [isCall] at isFound
      cases isFound
      exact nomatch resting.symm.trans isRunning
    change (world.update index shared later).agents[other]? = some found
    rw [World.getElem?_update isCall, if_neg apart, isFound]
  · change (world.update index shared later).agents[other]? = some found at isFound
    rw [World.getElem?_update isCall] at isFound
    split at isFound
    · cases isFound
      exact .inl still
    · exact .inr isFound

theorem Running.goes (running : Running world index call)
    (isLifecycle : call.command.isLifecycle = true)
    (goes : Goes world.shared after call.command next) :
    Phase (world.update index after { call with point := next }) := by
  have others : ∀ other found, other ≠ index →
      (world.update index after { call with point := next }).agents[other]? = some found →
        found.isResting = true := by
    intro other found apart isFound
    rw [World.getElem?_update running.isCall, if_neg apart] at isFound
    exact running.others other found apart isFound
  have isCall : (world.update index after { call with point := next }).agents[index]? =
      some { call with point := next } := by
    rw [World.getElem?_update running.isCall, if_pos rfl]
  cases ended : next.isEnded with
  | false =>
    refine .running index { call with point := next } ⟨isCall, ?_, others, goes.isOf, goes.holds⟩
    rw [Call.isResting, isLifecycle, ended]
    rfl
  | true =>
    cases next with
    | ended answer =>
      refine .resting (fun found isIn => ?_) goes.holds
      obtain ⟨other, isFound⟩ := mem_iff_getElem?.mp isIn
      by_cases same : other = index
      · rw [same, isCall] at isFound
        cases isFound
        exact resting_of_ended rfl _
      · exact others other found same isFound
    | _ => exact nomatch ended

theorem Running.breaks (running : Running world index call) (idle : Idle after)
    (ended : call.point.onFailure.isEnded = true) :
    Phase (world.update index after { call with point := call.point.onFailure }) := by
  refine .resting (fun found isIn => ?_) idle
  obtain ⟨other, isFound⟩ := mem_iff_getElem?.mp isIn
  rw [World.getElem?_update running.isCall] at isFound
  split at isFound
  · cases isFound
    exact resting_of_ended ended _
  · next apart => exact running.others other found apart isFound

theorem isLifecycle_of_running (running : call.isResting = false) :
    call.command.isLifecycle = true := by
  rw [Call.isResting, Bool.or_eq_false_iff] at running
  exact Bool.not_eq_eq_eq_not.mp running.1

include known

theorem Known.beside (resting : call.isResting = true)
    (done : perform store call.command call.point = some (after, next)) :
    Alike store after ∧ Call.isResting { call with point := next } = true ∧
      Known after { call with point := next } := by
  obtain ⟨command, point⟩ := call
  rcases known.kind with isLifecycle | ⟨⟨request, isCommand⟩, isAuthorizing⟩
  · have ended := resting_lifecycle isLifecycle resting
    cases point with
    | ended answer =>
      cases done
      exact ⟨.refl _, resting, known⟩
    | _ => exact nomatch ended
  · dsimp only at isCommand isAuthorizing done
    subst isCommand
    obtain ⟨alike, still⟩ := authorization_alike isAuthorizing done
    exact ⟨alike, rfl, .inr ⟨⟨request, rfl⟩, still⟩, fun _ isRevoked => nomatch isRevoked⟩

theorem resting_onFailure (resting : call.isResting = true) :
    Call.isResting { call with point := call.point.onFailure } = true := by
  obtain ⟨command, point⟩ := call
  rcases known.kind with isLifecycle | ⟨⟨request, rfl⟩, _⟩
  · have ended := resting_lifecycle isLifecycle resting
    cases point with
    | ended => exact resting
    | _ => exact nomatch ended
  · rfl

omit known

theorem Orderly.proceed (orderly : Orderly world) (allowed : Allowed world (.proceed index reply)) :
    Orderly (step world (.proceed index reply)) ∧
      ∀ id, world.shared.Revoked id → (step world (.proceed index reply)).shared.Revoked id := by
  unfold step
  dsimp only
  cases isCall : world.agents[index]? with
  | none => exact ⟨orderly, fun _ was => was⟩
  | some call =>
    dsimp only
    have known := orderly.known index call isCall
    have breaks := Call.breaks (allowed.finished call isCall)
    have modest := allowed.suited call isCall
    revert breaks
    generalize call.proceed world.shared reply = result
    intro breaks
    cases resting : call.isResting with
    | true =>
      cases breaks with
      | done performed =>
        obtain ⟨alike, still, knownNow⟩ := known.beside resting performed
        exact ⟨⟨perform_sound orderly.sound performed,
          orderly.known.update isCall knownNow fun _ _ _ _ was =>
            was.later fun _ => alike.revoked,
          orderly.phase.beside_update isCall resting still alike⟩, fun _ => alike.revoked⟩
      | stuck =>
        exact ⟨⟨orderly.sound,
          orderly.known.update isCall known.onFailure fun _ _ _ _ was => was,
          orderly.phase.beside_update isCall resting (resting_onFailure known resting)
            (.refl _)⟩, fun _ was => was⟩
      | cut performed =>
        obtain ⟨alike, _, _⟩ := known.beside resting performed
        have later := known.later fun _ => alike.revoked
        exact ⟨⟨perform_sound orderly.sound performed,
          orderly.known.update isCall later.onFailure fun _ _ _ _ was =>
            was.later fun _ => alike.revoked,
          orderly.phase.beside_update isCall resting (resting_onFailure known resting)
            alike⟩, fun _ => alike.revoked⟩
    | false =>
      have isLifecycle := isLifecycle_of_running resting
      have running : Running world index call := by
        cases orderly.phase with
        | resting all =>
          exact nomatch (all call (mem_of_getElem? isCall)).symm.trans resting
        | running other found isRun =>
          by_cases same : index = other
          · subst same
            rw [isRun.isCall] at isCall
            cases isCall
            exact isRun
          · exact nomatch (isRun.others index call same isCall).symm.trans resting
      cases breaks with
      | done performed =>
        have goes := running.holds.perform orderly.sound isLifecycle running.isOf modest
          known.answered performed
        exact ⟨⟨perform_sound orderly.sound performed,
          orderly.known.update isCall ⟨.inl isLifecycle, goes.answered⟩
            fun _ _ _ _ was => was.later goes.revoked,
          running.goes isLifecycle goes⟩, goes.revoked⟩
      | stuck owes =>
        exact ⟨⟨orderly.sound,
          orderly.known.update isCall known.onFailure fun _ _ _ _ was => was,
          running.breaks (running.holds.idle owes)
            (isEnded_onFailure world.shared (.inl owes))⟩, fun _ was => was⟩
      | cut performed owes =>
        have goes := running.holds.perform orderly.sound isLifecycle running.isOf modest
          known.answered performed
        exact ⟨⟨perform_sound orderly.sound performed,
          orderly.known.update isCall (known.later goes.revoked).onFailure
            fun _ _ _ _ was => was.later goes.revoked,
          running.breaks (goes.holds.idle owes)
            (isEnded_onFailure world.shared (.inr ⟨_, _, _, performed, owes⟩))⟩, goes.revoked⟩

theorem Phase.called (phase : Phase world)
    (allowed : OneAtATime world (.call command)) : Phase (world.spawn ⟨command, .starting⟩) := by
  rcases allowed with isAuthorization | ⟨isLifecycle, all⟩
  · have resting : Call.isResting ⟨command, .starting⟩ = true := by
      cases command with
      | authorizeRequest => rfl
      | _ => exact nomatch isAuthorization
    refine phase.beside (.refl _) (fun index call isCall _ => ?_) fun index found isFound => ?_
    · obtain ⟨bound, _⟩ := List.getElem?_eq_some_iff.mp isCall
      rw [getElem?_append_left bound, isCall]
    · change (world.spawn _).agents[index]? = some found at isFound
      rcases World.getElem?_spawn isFound with isOld | ⟨_, rfl⟩
      · exact .inr isOld
      · exact .inl resting
  · have idle : Idle world.shared := by
      cases phase with
      | resting _ idle => exact idle
      | running index call isRun =>
        exact nomatch (all call (mem_of_getElem? isRun.isCall)).symm.trans isRun.isRunning
    refine .running world.agents.length ⟨command, .starting⟩ ⟨?_, ?_, ?_, trivial, idle⟩
    · exact getElem?_concat_length
    · rw [Call.isResting, isLifecycle]
      rfl
    · intro other found apart isFound
      rcases World.getElem?_spawn isFound with isOld | ⟨same, _⟩
      · exact all found (mem_of_getElem? isOld)
      · exact absurd same apart

theorem Phase.elsewhere (phase : Phase world) (alike : Alike world.shared shared) :
    Phase ⟨shared, world.agents⟩ :=
  phase.beside alike (fun _ _ isCall _ => isCall) fun _ _ isFound => .inr isFound

theorem Orderly.step (orderly : Orderly world) (allowed : Allowed world event) :
    Orderly (ToolGrants.step world event) ∧
      ∀ id, world.shared.Revoked id → (ToolGrants.step world event).shared.Revoked id := by
  cases event with
  | proceed index reply => exact orderly.proceed allowed
  | call command =>
    have known : Known world.shared ⟨command, .starting⟩ := by
      refine ⟨?_, fun _ _ done => nomatch done⟩
      rcases allowed.oneAtATime with isAuthorization | ⟨isLifecycle, _⟩
      · cases command with
        | authorizeRequest request => exact .inr ⟨⟨request, rfl⟩, rfl⟩
        | _ => exact nomatch isAuthorization
      · exact .inl isLifecycle
    exact ⟨⟨orderly.sound, orderly.known.spawn known, orderly.phase.called allowed.oneAtATime⟩,
      fun _ was => was⟩
  | registerPluginGrantOwner pluginId generation =>
    unfold ToolGrants.step
    dsimp only
    split
    · exact ⟨orderly, fun _ was => was⟩
    · next after registered =>
        have alike : Alike world.shared after ∧ after.Sound := by
          cases registerPluginGrantOwner_some registered with
          | known => exact ⟨.refl _, orderly.sound⟩
          | fresh =>
            exact ⟨.of_rows rfl rfl rfl rfl, orderly.sound.elsewhere rfl rfl rfl rfl rfl⟩
        exact ⟨⟨alike.2, orderly.known.interfere fun _ _ _ was =>
          was.later fun _ => alike.1.revoked, orderly.phase.elsewhere alike.1⟩,
          fun _ => alike.1.revoked⟩
  | wait duration =>
    have alike : Alike world.shared
        { world.shared with clock := world.shared.clock + duration } :=
      .of_rows rfl rfl rfl rfl
    exact ⟨⟨orderly.sound.elsewhere rfl rfl rfl rfl rfl,
      orderly.known.interfere fun _ _ _ was => was.later fun _ => alike.revoked,
      orderly.phase.elsewhere alike⟩, fun _ => alike.revoked⟩
  | crash =>
    have idle : Idle world.shared := by
      cases orderly.phase with
      | resting _ idle => exact idle
      | running index call isRun =>
        exact isRun.holds.idle (allowed.finished call (mem_of_getElem? isRun.isCall))
    exact ⟨⟨orderly.sound, (fun _ _ isCall => nomatch isCall),
      .resting (fun _ isIn => absurd isIn not_mem_nil) idle⟩, fun _ was => was⟩

theorem idle_empty : Idle {} where
  settled _ := .lapsed (fun _ present => nomatch present)
    (fun _ isIn => absurd isIn not_mem_nil) fun _ isIn => absurd isIn not_mem_nil
  closed := ⟨(fun _ _ present => nomatch present), fun _ _ present => nomatch present⟩

theorem orderly_empty : Orderly ⟨{}, []⟩ where
  sound := Store.sound_empty
  known _ _ isCall := nomatch isCall
  phase := .resting (fun _ isIn => absurd isIn not_mem_nil) idle_empty

section

variable (orderly : Orderly world) (allowed : EachCommand ToolGrants.step Allowed world events)
include orderly allowed

theorem Orderly.run : Orderly (runAll ToolGrants.step world events) :=
  runAll_preserves (fun _ _ allowed orderly => (orderly.step allowed).1) allowed orderly

theorem Orderly.revoked (was : world.shared.Revoked id) :
    (runAll ToolGrants.step world events).shared.Revoked id := by
  induction events generalizing world with
  | nil => exact was
  | cons event rest induction =>
    obtain ⟨orderlyNext, revoked⟩ := orderly.step allowed.1
    exact induction orderlyNext allowed.2 (revoked id was)

end

end LicoMesh.ToolGrants
