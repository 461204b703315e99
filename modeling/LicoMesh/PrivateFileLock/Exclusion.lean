import LicoMesh.PrivateFileLock.Lock

namespace LicoMesh.PrivateFileLock

open Option

open Library

/-! Mutual exclusion, in runs in which a stale lock is unlinked only while the path still has the
file that was found stale. -/

variable {index : Nat} {T : Type}

/-- The file of a call that has created it and is still there to remove it. -/
def Phase.inode : Phase T → Option Nat
  | .writing inode | .closing inode | .running inode _ | .releasing inode _ => some inode
  | _ => none

def Phase.IsRunning : Phase T → Prop
  | .running _ _ => True
  | _ => False

def Phase.Delivers (error : Thrown) : Phase T → Prop
  | .releasing _ answer => answer = .threw error
  | .ended answer => answer = .threw error
  | .crashed => True
  | _ => False

def Call.At (locking : Locking T) (index : Nat) (call : Call T) : Prop :=
  locking.agents[index]? = some call

open Call

structure Protects (locking : Locking T) : Prop where
  exclusive : ∀ first second call other, At locking first call →
    At locking second other → call.phase.IsRunning → other.phase.IsRunning → first = second
  delivered : ∀ index call, At locking index call → ∀ error ∈ call.thrown,
    call.runs = 1 ∧ call.phase.Delivers error

/-- The file that leaves the path is not that of another live holder. -/
def Spares (locking : Locking T) (action : LockAction T) : Prop :=
  ∀ file, locking.shared.file = some file →
    (step locking action).shared.file.map LockFile.inode ≠ some file.inode →
    ∀ index call, At locking index call → call.phase.inode = some file.inode →
      ∃ reply, action = .advance index reply

def Prompt (locking : Locking T) : LockAction T → Prop
  | .advance index _ =>
    locking.agents[index]?.all fun call =>
      match call.phase with
      | .running _ since => locking.shared.clock < since + call.options.staleMs
      | _ => true
  | _ => True

/-- No file is found stale that a live holder has, a stale file is unlinked only while it is at
the path, and no action fails with the code that means contention. -/
def Call.Unraced (locking : Locking T) (call : Call T) (reply : Reply T) : Prop :=
  match call.phase, reply with
  | .judging (some seen), _ => call.isStale seen locking.shared.clock →
      ∀ other ∈ locking.agents, other.phase.inode ≠ some seen.inode
  | .breaking seen, .done _ => ∀ file ∈ locking.shared.file, file.inode = seen.inode
  | .running _ _, .fails error => error.isExist = false
  | _, _ => True

def Unraced (locking : Locking T) : LockAction T → Prop
  | .advance index reply => ∀ call ∈ locking.agents[index]?, call.Unraced locking reply
  | _ => True

def LockPath.inode (lock : LockPath) : Option Nat := lock.file.map LockFile.inode

def Phase.seen : Phase T → Option LockFile
  | .judging seen => seen
  | .breaking seen => some seen
  | _ => none

def Call.Counted (call : Call T) : Prop :=
  match call.phase with
  | .running _ _ => call.runs = 1 ∧ call.thrown = []
  | .releasing _ (.returned _) => call.runs = 1 ∧ call.thrown = []
  | .releasing _ (.threw error) =>
    call.runs = 1 ∧ call.thrown = [error] ∧ error.isExist = false
  | .ended answer =>
    call.thrown = [] ∨ ∃ error, call.runs = 1 ∧ call.thrown = [error] ∧ answer = .threw error
  | .crashed => call.thrown = [] ∨ call.runs = 1
  | _ => call.runs = 0 ∧ call.thrown = []

structure Sound (locking : Locking T) : Prop where
  owns : ∀ index call inode, At locking index call → call.phase.inode = some inode →
    locking.shared.inode = some inode
  single : ∀ first second call other inode, At locking first call →
    At locking second other → call.phase.inode = some inode →
    other.phase.inode = some inode → first = second
  numbered : ∀ inode, locking.shared.inode = some inode → inode < locking.shared.created
  seen : ∀ index call seen, At locking index call → call.phase.seen = some seen →
    seen.inode < locking.shared.created
  abandoned : ∀ index call seen, At locking index call → call.phase = .breaking seen →
    ∀ other holder, At locking other holder → holder.phase.inode ≠ some seen.inode
  counted : ∀ index call, At locking index call → call.Counted

structure Moves (locking : Locking T) (index : Nat) (call : Call T) (lock : LockPath)
    (next : Call T) : Prop where
  created : locking.shared.created ≤ lock.created
  numbered : ∀ inode, lock.inode = some inode → inode < lock.created
  holds : ∀ inode, next.phase.inode = some inode → lock.inode = some inode ∧
    (call.phase.inode = some inode ∨ locking.shared.created ≤ inode)
  others : ∀ other holder inode, other ≠ index → At locking other holder →
    holder.phase.inode = some inode → lock.inode = some inode
  seen : ∀ seen, next.phase.seen = some seen → seen.inode < lock.created
  abandoned : ∀ seen, next.phase = .breaking seen →
    ∀ other holder, At locking other holder → holder.phase.inode ≠ some seen.inode
  counted : next.Counted

theorem Phase.inode_of_breaking {phase : Phase T} {seen : LockFile}
    (breaking : phase = .breaking seen) : phase.inode = none := by
  rw [breaking]
  rfl

variable {locking : Locking T} (sound : Sound locking)
include sound

theorem Sound.update {call next : Call T} (present : At locking index call)
    (moves : Moves locking index call lock next) : Sound (locking.update index lock next) := by
  have at_iff : ∀ other found, At (locking.update index lock next) other found →
      (other = index ∧ found = next) ∨ (other ≠ index ∧ At locking other found) := by
    intro other found presentOther
    rw [At, World.getElem?_update present] at presentOther
    split at presentOther
    · rename_i same
      exact .inl ⟨same, (some.inj presentOther).symm⟩
    · rename_i different
      exact .inr ⟨different, presentOther⟩
  -- A file that another call has was created earlier.
  have older : ∀ other holder inode, At locking other holder →
      holder.phase.inode = some inode → inode < locking.shared.created := fun other holder inode
      presentOther held => sound.numbered inode (sound.owns other holder inode presentOther held)
  have apart : ∀ other holder inode, other ≠ index → At locking other holder →
      holder.phase.inode = some inode → next.phase.inode ≠ some inode := by
    intro other holder inode different presentOther held own
    obtain ⟨_, before | fresh⟩ := moves.holds inode own
    · exact different (sound.single other index holder call inode presentOther present held before)
    · exact absurd (older other holder inode presentOther held) (Nat.not_lt.mpr fresh)
  constructor
  case owns =>
    intro other found inode presentOther held
    obtain ⟨rfl, rfl⟩ | ⟨different, old⟩ := at_iff other found presentOther
    · exact (moves.holds inode held).1
    · exact moves.others other found inode different old held
  case single =>
    intro first second found other inode presentFirst presentSecond held heldOther
    obtain ⟨rfl, rfl⟩ | ⟨different, old⟩ := at_iff first found presentFirst <;>
      obtain ⟨rfl, rfl⟩ | ⟨different', old'⟩ := at_iff second other presentSecond
    · rfl
    · exact absurd held (apart second other inode different' old' heldOther)
    · exact absurd heldOther (apart first found inode different old held)
    · exact sound.single first second found other inode old old' held heldOther
  case numbered => exact moves.numbered
  case seen =>
    intro other found seen presentOther sees
    obtain ⟨rfl, rfl⟩ | ⟨_, old⟩ := at_iff other found presentOther
    · exact moves.seen seen sees
    · exact Nat.lt_of_lt_of_le (sound.seen other found seen old sees) moves.created
  case abandoned =>
    intro other found seen presentOther breaking holderIndex holder presentHolder held
    obtain ⟨rfl, rfl⟩ | ⟨_, old⟩ := at_iff other found presentOther <;>
      obtain ⟨rfl, rfl⟩ | ⟨_, old'⟩ := at_iff holderIndex holder presentHolder
    · rw [Phase.inode_of_breaking breaking] at held
      cases held
    · exact moves.abandoned seen breaking holderIndex holder old' held
    · obtain ⟨_, before | fresh⟩ := moves.holds seen.inode held
      · exact sound.abandoned other found seen old breaking _ call present before
      · have sees : found.phase.seen = some seen := by
          rw [breaking]
          rfl
        exact absurd (sound.seen other found seen old sees) (Nat.not_lt.mpr fresh)
    · exact sound.abandoned other found seen old breaking holderIndex holder old' held
  case counted =>
    intro other found presentOther
    obtain ⟨rfl, rfl⟩ | ⟨_, old⟩ := at_iff other found presentOther
    · exact moves.counted
    · exact sound.counted other found old

theorem Sound.quiet (present : At locking index call)
    (created : lock.created = locking.shared.created) (file : lock.inode = locking.shared.inode)
    (holds : next.phase.inode = none ∨ next.phase.inode = call.phase.inode)
    (seen : ∀ seen, next.phase.seen = some seen → seen.inode < locking.shared.created)
    (abandoned : ∀ seen, next.phase = .breaking seen →
      ∀ other holder, At locking other holder → holder.phase.inode ≠ some seen.inode)
    (counted : next.Counted) : Moves locking index call lock next where
  created := Nat.le_of_eq created.symm
  numbered := by
    rw [file, created]
    exact sound.numbered
  holds := by
    intro inode held
    obtain none | same := holds
    · rw [none] at held
      cases held
    · rw [same] at held
      rw [file]
      exact ⟨sound.owns index call inode present held, .inl held⟩
  others := by
    intro other holder inode _ presentOther held
    rw [file]
    exact sound.owns other holder inode presentOther held
  seen := by
    rw [created]
    exact seen
  abandoned := abandoned
  counted := counted

omit sound

def Phase.Plain (phase : Phase T) : Prop := phase.inode = none ∧ phase.seen = none

theorem caught_plain (error : Thrown) : (.caught error : Phase T).Plain := by
  rw [Phase.caught]
  split <;> exact ⟨rfl, rfl⟩

theorem released_plain (answer : Answer T) : (Phase.released answer).Plain := by
  cases answer with
  | returned value => exact ⟨rfl, rfl⟩
  | threw error => exact caught_plain error

theorem Phase.Plain.not_breaking {phase : Phase T} (plain : phase.Plain) (seen : LockFile) :
    phase ≠ .breaking seen := by
  intro breaking
  have none := plain.2
  rw [breaking] at none
  cases none

include sound in
theorem Sound.plain {call next : Call T}
    (present : At locking index call) (plain : next.phase.Plain) (counted : next.Counted) :
    Moves locking index call locking.shared next :=
  sound.quiet present rfl rfl (.inl plain.1) (fun seen sees => by rw [plain.2] at sees; cases sees)
    (fun seen breaking => absurd breaking (plain.not_breaking seen)) counted

theorem Moves.unlink {call next : Call T} (plain : next.phase.Plain) (counted : next.Counted)
    (free : ∀ other holder inode, other ≠ index →
      At locking other holder → holder.phase.inode ≠ some inode) :
    Moves locking index call locking.shared.unlink next where
  created := Nat.le_refl _
  numbered := fun inode file => by cases file
  holds := by
    intro inode held
    rw [plain.1] at held
    cases held
  others := fun other holder inode different presentOther held =>
    absurd held (free other holder inode different presentOther)
  seen := fun seen sees => by rw [plain.2] at sees; cases sees
  abandoned := fun seen breaking => absurd breaking (plain.not_breaking seen)
  counted := counted

theorem write_inode (lock : LockPath) (inode : Nat) : (lock.write inode).inode = lock.inode := by
  rw [LockPath.inode, LockPath.inode, LockPath.write, map_map]
  congr 1
  funext file
  rw [Function.comp]
  split <;> rfl

theorem Call.Counted.caught {call : Call T} (error : Thrown)
    (none : call.runs = 0 ∧ call.thrown = []) : (call.to (.caught error)).Counted := by
  rw [Phase.caught]
  split
  · exact none
  · exact .inl none.2

theorem Call.Counted.released {call : Call T} (counted : call.Counted)
    (phase : call.phase = .releasing inode answer) : (call.to (.released answer)).Counted := by
  rw [Call.Counted, phase] at counted
  cases answer with
  | returned value => exact .inl counted.2
  | threw error =>
    obtain ⟨runs, thrown, other⟩ := counted
    rw [Phase.released, Phase.caught, other]
    exact .inr ⟨error, runs, thrown, rfl⟩

include sound

theorem not_held_of_none (none : locking.shared.file = none)
    (present : Call.At locking other holder) : holder.phase.inode ≠ some inode := by
  intro held
  have file := sound.owns other holder inode present held
  rw [LockPath.inode, none] at file
  cases file

theorem advance_moves {reply : Reply T}
    (present : Call.At locking index call) (unraced : Unraced locking (.advance index reply)) :
    Moves locking index call (call.advance locking.shared reply).1
      (call.advance locking.shared reply).2 := by
  have counted := sound.counted index call present
  have plain := caught_plain (T := T)
  replace unraced := unraced call present
  unfold Call.Unraced at unraced
  unfold Call.advance
  cases phase : call.phase with
  | opening =>
    rw [Call.Counted, phase] at counted
    cases reply with
    | fails error => exact sound.plain present (plain error) (.caught error counted)
    | done value =>
      cases file : locking.shared.file with
      | some held => exact sound.plain present ⟨rfl, rfl⟩ counted
      | none =>
        constructor
        case created => exact Nat.le_succ _
        case numbered =>
          intro inode same
          cases same
          exact Nat.lt_succ_self _
        case holds =>
          intro inode held
          cases held
          exact ⟨rfl, .inr (Nat.le_refl _)⟩
        case others =>
          intro other holder inode _ presentOther held
          exact absurd held (not_held_of_none sound file presentOther)
        case seen => exact fun seen sees => by cases sees
        case abandoned => exact fun seen breaking => by cases breaking
        case counted => exact counted
  | writing inode =>
    rw [Call.Counted, phase] at counted
    cases reply with
    | fails error => exact sound.plain present (plain error) (.caught error counted)
    | done value =>
      have same : (Phase.closing inode : Phase T).inode = call.phase.inode := by
        rw [phase]
        rfl
      exact sound.quiet present rfl (write_inode _ _) (.inr same)
        (fun seen sees => by cases sees) (fun seen breaking => by cases breaking) counted
  | closing inode =>
    rw [Call.Counted, phase] at counted
    cases reply with
    | fails error => exact sound.plain present (plain error) (.caught error counted)
    | done value =>
      have same : (Phase.running inode locking.shared.clock : Phase T).inode =
          call.phase.inode := by
        rw [phase]
        rfl
      refine sound.quiet present rfl rfl (.inr same) (fun seen sees => by cases sees)
        (fun seen breaking => by cases breaking) ⟨?_, counted.2⟩
      exact congrArg Nat.succ counted.1
  | running inode since =>
    rw [Call.Counted, phase] at counted
    have same : ∀ answer, (Phase.releasing inode answer : Phase T).inode = call.phase.inode := by
      intro answer
      rw [phase]
      rfl
    cases reply with
    | fails error =>
      rw [phase] at unraced
      refine sound.quiet present rfl rfl (.inr (same _)) (fun seen sees => by cases sees)
        (fun seen breaking => by cases breaking) ⟨counted.1, ?_, unraced⟩
      exact congrArg (· ++ [error]) counted.2
    | done value =>
      exact sound.quiet present rfl rfl (.inr (same _)) (fun seen sees => by cases sees)
        (fun seen breaking => by cases breaking) counted
  | releasing inode answer =>
    have released := counted.released phase
    cases reply with
    | fails error => exact sound.plain present (released_plain answer) released
    | done value =>
      refine Moves.unlink (released_plain answer) released ?_
      intro other holder inode' different presentOther held
      have own : call.phase.inode = some inode := by
        rw [phase]
        rfl
      have atPath := sound.owns index call inode present own
      rw [sound.owns other holder inode' presentOther held] at atPath
      rw [some.inj atPath] at held
      exact different (sound.single other index holder call inode presentOther present held own)
  | examining =>
    rw [Call.Counted, phase] at counted
    cases reply with
    | fails error => exact sound.plain present ⟨rfl, rfl⟩ counted
    | done value =>
      refine sound.quiet present rfl rfl (.inl rfl) ?_ (fun seen breaking => by cases breaking)
        counted
      intro seen sees
      exact sound.numbered seen.inode (congrArg (Option.map LockFile.inode) sees)
  | judging seen =>
    rw [Call.Counted, phase] at counted
    dsimp only
    split
    · rename_i stale found
      obtain ⟨rfl, isStale⟩ := filter_eq_some_iff.mp found
      rw [phase] at unraced
      refine sound.quiet present rfl rfl (.inl rfl) ?_ ?_ counted
      · intro seen sees
        cases sees
        exact sound.seen index call stale present (by rw [phase]; rfl)
      · intro seen breaking other holder presentOther
        cases breaking
        exact unraced isStale holder (List.mem_of_getElem? presentOther)
    · split
      · exact sound.plain present ⟨rfl, rfl⟩ (.inl counted.2)
      · exact sound.plain present ⟨rfl, rfl⟩ counted
  | breaking seen =>
    rw [Call.Counted, phase] at counted
    cases reply with
    | fails error => exact sound.plain present ⟨rfl, rfl⟩ counted
    | done value =>
      rw [phase] at unraced
      refine Moves.unlink ⟨rfl, rfl⟩ counted ?_
      intro other holder inode _ presentOther held
      have atPath := sound.owns other holder inode presentOther held
      obtain ⟨file, found, rfl⟩ := map_eq_some_iff.mp atPath
      rw [unraced file found] at held
      exact sound.abandoned index call seen present phase other holder presentOther held
  | ended answer => exact sound.plain present (by rw [phase]; exact ⟨rfl, rfl⟩) counted
  | crashed => exact sound.plain present (by rw [phase]; exact ⟨rfl, rfl⟩) counted

omit sound

theorem step_sound (action : LockAction T) (unraced : Unraced locking action)
    (sound : Sound locking) : Sound (step locking action) := by
  cases action with
  | withPrivateFileLock options =>
    have fresh : ∀ index call, Call.At (step locking (.withPrivateFileLock options)) index call →
        Call.At locking index call ∨ call = ⟨options, locking.shared.clock, .opening, 0, []⟩ :=
      fun index call present => (World.getElem?_spawn present).imp_right And.right
    constructor
    case owns =>
      intro index call inode present held
      obtain old | rfl := fresh index call present
      · exact sound.owns index call inode old held
      · cases held
    case single =>
      intro first second call other inode presentFirst presentSecond held heldOther
      obtain old | rfl := fresh first call presentFirst
      · obtain old' | rfl := fresh second other presentSecond
        · exact sound.single first second call other inode old old' held heldOther
        · cases heldOther
      · cases held
    case numbered => exact sound.numbered
    case seen =>
      intro index call seen present sees
      obtain old | rfl := fresh index call present
      · exact sound.seen index call seen old sees
      · cases sees
    case abandoned =>
      intro index call seen present breaking other holder presentOther
      obtain old | rfl := fresh index call present
      · obtain old' | rfl := fresh other holder presentOther
        · exact sound.abandoned index call seen old breaking other holder old'
        · exact fun held => by cases held
      · cases breaking
    case counted =>
      intro index call present
      obtain old | rfl := fresh index call present
      · exact sound.counted index call old
      · exact ⟨rfl, rfl⟩
  | advance index reply =>
    rw [step]
    split
    · exact sound
    · rename_i call present
      exact sound.update present (advance_moves sound present unraced)
  | crash index =>
    rw [step]
    split
    · exact sound
    · rename_i call present
      refine sound.update present (sound.plain present ⟨rfl, rfl⟩ ?_)
      have counted := sound.counted index call present
      unfold Call.Counted at counted
      split at counted
      · exact .inr counted.1
      · exact .inr counted.1
      · exact .inr counted.1
      · exact counted.imp_right fun ⟨_, runs, _⟩ => runs
      · exact counted
      · exact .inl counted.2
  | tick milliseconds =>
    exact ⟨sound.owns, sound.single, sound.numbered, sound.seen, sound.abandoned, sound.counted⟩

theorem initial_sound (path : String) (clock : Nat) (left : Option Nat) :
    Sound (initial (T := T) path clock left) := by
  have nobody : ∀ index call, ¬At (initial (T := T) path clock left) index call :=
    fun index call present => by cases present
  constructor
  case owns => exact fun index call _ present => absurd present (nobody index call)
  case single => exact fun first _ call _ _ present => absurd present (nobody first call)
  case numbered =>
    intro inode file
    cases left with
    | none => cases file
    | some mtimeMs =>
      cases file
      exact Nat.zero_lt_one
  case seen => exact fun index call _ present => absurd present (nobody index call)
  case abandoned => exact fun index call _ present => absurd present (nobody index call)
  case counted => exact fun index call present => absurd present (nobody index call)

include sound

theorem Sound.protects : Protects locking := by
  have held : ∀ call : Call T, call.phase.IsRunning → ∃ inode, call.phase.inode = some inode := by
    intro call running
    unfold Phase.IsRunning at running
    split at running
    · rename_i inode since phase
      rw [phase]
      exact ⟨inode, rfl⟩
    · exact running.elim
  constructor
  case exclusive =>
    intro first second call other presentFirst presentSecond running runningOther
    obtain ⟨inode, own⟩ := held call running
    obtain ⟨inode', own'⟩ := held other runningOther
    have same := sound.owns second other inode' presentSecond own'
    rw [sound.owns first call inode presentFirst own] at same
    rw [← some.inj same] at own'
    exact sound.single first second call other inode presentFirst presentSecond own own'
  case delivered =>
    intro index call present error member
    have counted := sound.counted index call present
    have unthrown : call.thrown ≠ [] := List.ne_nil_of_mem member
    unfold Counted at counted
    split at counted
    · exact absurd counted.2 unthrown
    · exact absurd counted.2 unthrown
    · rename_i inode thrown phase
      rw [counted.2.1, List.mem_singleton] at member
      rw [phase, member]
      exact ⟨counted.1, rfl⟩
    · rename_i answer phase
      obtain none | ⟨thrown, runs, errors, same⟩ := counted
      · exact absurd none unthrown
      · rw [errors, List.mem_singleton] at member
        rw [phase, member]
        exact ⟨runs, same⟩
    · rename_i phase
      rw [phase]
      exact ⟨counted.resolve_left unthrown, trivial⟩
    · exact absurd counted.2 unthrown

theorem Sound.spares (unraced : Unraced locking action) : Spares locking action := by
  intro file found gone index call present held
  cases action with
  | withPrivateFileLock options => exact absurd (congrArg (Option.map LockFile.inode) found) gone
  | tick milliseconds => exact absurd (congrArg (Option.map LockFile.inode) found) gone
  | crash other =>
    refine absurd ?_ gone
    rw [step]
    split <;> exact congrArg (Option.map LockFile.inode) found
  | advance other reply =>
    refine ⟨reply, ?_⟩
    by_contra different
    refine gone ?_
    rw [step]
    split
    · exact congrArg (Option.map LockFile.inode) found
    · rename_i actor presentActor
      refine (advance_moves sound presentActor unraced).others index call file.inode ?_ present held
      exact fun same => different (same ▸ rfl)

omit sound

def Guards (path : String) (clock : Nat) (left : Option Nat) (actions : List (LockAction T)) :
    Prop :=
  Protects (runAll step (initial path clock left) actions) ∧
    EachCommand step Spares (initial path clock left) actions

/-- No two actions run at once, no file of a live holder is removed, and the error of an action
is the caller's, in every run in which the unlinked files are those that were found stale. -/
theorem lock_guards (path : String) (clock : Nat) (left : Option Nat)
    (actions : List (LockAction T))
    (unraced : EachCommand step Unraced (initial path clock left) actions) :
    Guards path clock left actions := by
  refine ⟨(runAll_preserves (fun _ action => step_sound action) unraced
    (initial_sound path clock left)).protects, ?_⟩
  suffices spares : ∀ locking : Locking T, Sound locking →
      EachCommand step Unraced locking actions → EachCommand step Spares locking actions from
    spares _ (initial_sound path clock left) unraced
  clear unraced
  induction actions with
  | nil => exact fun _ _ _ => trivial
  | cons action rest induction =>
    intro locking sound each
    exact ⟨sound.spares each.1, induction _ (step_sound action each.1 sound) each.2⟩

instance (locking : Locking T) : (call : Call T) → (reply : Reply T) →
    Decidable (call.Unraced locking reply)
  | ⟨_, _, .judging (some _), _, _⟩, _ => inferInstanceAs (Decidable (_ → ∀ _ ∈ _, _ ≠ _))
  | ⟨_, _, .breaking _, _, _⟩, .done _ => inferInstanceAs (Decidable (∀ _ ∈ _, _ = _))
  | ⟨_, _, .running _ _, _, _⟩, .fails _ => inferInstanceAs (Decidable (_ = _))
  | ⟨_, _, .judging none, _, _⟩, _ => .isTrue trivial
  | ⟨_, _, .breaking _, _, _⟩, .fails _ => .isTrue trivial
  | ⟨_, _, .running _ _, _, _⟩, .done _ => .isTrue trivial
  | ⟨_, _, .opening, _, _⟩, _ => .isTrue trivial
  | ⟨_, _, .writing _, _, _⟩, _ => .isTrue trivial
  | ⟨_, _, .closing _, _, _⟩, _ => .isTrue trivial
  | ⟨_, _, .releasing _ _, _, _⟩, _ => .isTrue trivial
  | ⟨_, _, .examining, _, _⟩, _ => .isTrue trivial
  | ⟨_, _, .ended _, _, _⟩, _ => .isTrue trivial
  | ⟨_, _, .crashed, _, _⟩, _ => .isTrue trivial

instance (locking : Locking T) : (action : LockAction T) → Decidable (Unraced locking action)
  | .advance index reply =>
    inferInstanceAs (Decidable (∀ call ∈ locking.agents[index]?, call.Unraced locking reply))
  | .withPrivateFileLock _ | .crash _ | .tick _ => .isTrue trivial

instance (locking : Locking T) : (action : LockAction T) → Decidable (Prompt locking action)
  | .advance _ _ => inferInstanceAs (Decidable (_ = true))
  | .withPrivateFileLock _ | .crash _ | .tick _ => .isTrue trivial

def steps (index count : Nat) : List (LockAction Unit) :=
  List.replicate count (.advance index (.done ()))

def call : LockAction Unit := .withPrivateFileLock ⟨.capabilityKernel, 10000, 30000⟩

def lockPath : String := "capability-kernel.lock"

def takeover : List (LockAction Unit) :=
  call :: steps 0 3 ++ [.crash 0, .tick 30001, call] ++ steps 1 7 ++
    [.advance 1 (.fails ⟨none, "boom"⟩), .advance 1 (.done ())]

theorem lock_guards_takeover : Guards lockPath 0 none takeover ∧
      ((runAll step (initial lockPath 0 none) takeover).agents[1]?.map phase) =
        some (.ended (.threw ⟨none, "boom"⟩)) :=
  ⟨lock_guards lockPath 0 none takeover (by decide +kernel), by decide +kernel⟩

def doubleBreak : List (LockAction Unit) :=
  call :: steps 0 3 ++ [.crash 0, .tick 30001, call] ++ steps 1 3 ++ [call] ++ steps 2 3 ++
    steps 1 4 ++ steps 2 4

def runner (inode : Nat) : Call Unit :=
  ⟨⟨.capabilityKernel, 10000, 30000⟩, 30001, .running inode 30001, 1, []⟩

/-- Prompt actions are not enough. -/
theorem doubleBreak_not_guarded :
    ¬∀ (path : String) (clock : Nat) (left : Option Nat) (actions : List (LockAction Unit)),
      EachCommand step Prompt (initial path clock left) actions →
        Guards path clock left actions := by
  intro all
  have guards := (all lockPath 0 none doubleBreak (by decide +kernel)).1
  have first : At (runAll step (initial lockPath 0 none) doubleBreak) 1 (runner 2) := by
    unfold At
    decide +kernel
  have second : At (runAll step (initial lockPath 0 none) doubleBreak) 2 (runner 3) := by
    unfold At
    decide +kernel
  cases guards.exclusive 1 2 _ _ first second trivial trivial

end LicoMesh.PrivateFileLock
