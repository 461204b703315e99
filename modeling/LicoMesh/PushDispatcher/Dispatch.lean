import LicoMesh.Library.Path
import Mathlib.Algebra.GroupWithZero.Nat
import Mathlib.Data.List.Nodup

namespace LicoMesh.PushDispatcher

open List

open Library

/-! Interleaved `dispatchOnce` calls of one push dispatcher and the executions they start. -/

structure QueueWorkItem where
  workItemId : String
  state : String

/-- Leases are numbered as replies return them. -/
structure ClaimedWork where
  number : Nat
  workItemId : String

inductive Call
  | claiming (batchSize : Nat)
  | notifying (notices : List QueueWorkItem) (leases : List ClaimedWork)
  | ended

inductive Stage
  | queued
  | running
  | inspecting
  | ended
  deriving DecidableEq

structure Execution where
  lease : ClaimedWork
  stage : Stage

/-- `drawn` counts the leases that replies returned; `handed` records the calls of `runLeased`. -/
structure Dispatcher where
  reserved : Nat
  inFlight : List String
  calls : List Call
  executions : List Execution
  drawn : Nat
  handed : List Nat

structure DispatcherOptions where
  creditLimit : Nat
  onTerminal : Bool

def createQueuePushDispatcher : Dispatcher where
  reserved := 0
  inFlight := []
  calls := []
  executions := []
  drawn := 0
  handed := []

/-- A reply carries its failed and expired items and the items it leased. -/
inductive Event
  | dispatchOnce (aborted : Bool) (batchSize : Int)
  | claimFailed (call : Nat)
  | claimed (call : Nat) (notices : List QueueWorkItem) (leased : List String)
  | notified (call : Nat) (fails : Bool)
  | runLeased (execution : Nat)
  | completes (execution : Nat)
  | finishes (execution : Nat)

def terminalStates : List String := ["completed", "failed", "cancelled", "expired"]

def numbered (drawn : Nat) : List String → List ClaimedWork
  | [] => []
  | workItemId :: rest => ⟨drawn, workItemId⟩ :: numbered (drawn + 1) rest

/-- `inFlight.set`: a key that is there keeps its place. -/
def setKey (keys : List String) (key : String) : List String :=
  if key ∈ keys then keys else keys ++ [key]

def Call.held : Call → List ClaimedWork
  | .notifying _ leases => leases
  | _ => []

def Call.credit : Call → Nat
  | .claiming batchSize => batchSize
  | _ => 0

def Execution.started (execution : Execution) : List String :=
  if execution.stage = .ended then [] else [execution.lease.workItemId]

def Execution.waiting (execution : Execution) : List Nat :=
  if execution.stage = .queued then [execution.lease.number] else []

namespace Dispatcher

variable (options : DispatcherOptions) (dispatcher : Dispatcher)

def availableCredit : Nat := options.creditLimit - dispatcher.reserved - dispatcher.inFlight.length

def batchSize (requested : Int) : Nat :=
  min (max 1 requested).toNat (dispatcher.availableCredit options)

def setCall (index : Nat) (call : Call) : Dispatcher :=
  { dispatcher with calls := dispatcher.calls.set index call }

/-- Each lease gets its promise, whose first callback is still to run, and its key. -/
def startLeases (leases : List ClaimedWork) : Dispatcher :=
  { dispatcher with
    executions := dispatcher.executions ++ leases.map (⟨·, .queued⟩)
    inFlight := (leases.map (·.workItemId)).foldl setKey dispatcher.inFlight }

def notify (call : Nat) (notices : List QueueWorkItem) (leases : List ClaimedWork) : Dispatcher :=
  match notices with
  | [] => (dispatcher.setCall call .ended).startLeases leases
  | _ :: _ => dispatcher.setCall call (.notifying notices leases)

def setStage (index : Nat) (execution : Execution) (stage : Stage) : Dispatcher :=
  { dispatcher with executions := dispatcher.executions.set index { execution with stage } }

def step (options : DispatcherOptions) (dispatcher : Dispatcher) : Event → Dispatcher
  | .dispatchOnce aborted requested =>
    if aborted then dispatcher
    else if dispatcher.batchSize options requested = 0 then dispatcher
    else
      { dispatcher with
        reserved := dispatcher.reserved + dispatcher.batchSize options requested
        calls := dispatcher.calls ++ [.claiming (dispatcher.batchSize options requested)] }
  | .claimFailed call =>
    match dispatcher.calls[call]? with
    | some (.claiming batchSize) =>
      { dispatcher.setCall call .ended with reserved := dispatcher.reserved - batchSize }
    | _ => dispatcher
  | .claimed call notices leased =>
    match dispatcher.calls[call]? with
    | some (.claiming batchSize) =>
      { dispatcher with
        reserved := dispatcher.reserved - batchSize
        drawn := dispatcher.drawn + leased.length }.notify call notices
          (numbered dispatcher.drawn leased)
    | _ => dispatcher
  | .notified call fails =>
    match dispatcher.calls[call]? with
    | some (.notifying (notice :: rest) leases) =>
      if fails && options.onTerminal && notice.state ∈ terminalStates then
        dispatcher.setCall call .ended
      else dispatcher.notify call rest leases
    | _ => dispatcher
  | .runLeased index =>
    match dispatcher.executions[index]? with
    | some ⟨lease, .queued⟩ =>
      { dispatcher.setStage index ⟨lease, .queued⟩ .running with
        handed := lease.number :: dispatcher.handed }
    | _ => dispatcher
  | .completes index =>
    match dispatcher.executions[index]? with
    | some ⟨lease, .running⟩ => dispatcher.setStage index ⟨lease, .running⟩ .inspecting
    | _ => dispatcher
  | .finishes index =>
    match dispatcher.executions[index]? with
    | some ⟨lease, .inspecting⟩ =>
      { dispatcher.setStage index ⟨lease, .inspecting⟩ .ended with
        inFlight := dispatcher.inFlight.filter (· ≠ lease.workItemId) }
    | _ => dispatcher

/-- The items whose execution has started and not ended. -/
def inProgress : List String := dispatcher.executions.flatMap Execution.started

/-- The leases that replies returned and whose calls still notify. -/
def held : List ClaimedWork := dispatcher.calls.flatMap Call.held

def queued : List Nat := dispatcher.executions.flatMap Execution.waiting

/-- The call starts its leases in this step. -/
def Starts (leases : List ClaimedWork) (notices : List QueueWorkItem) : Prop :=
  notices = [] → (leases.map (·.workItemId)).Nodup ∧
    ∀ lease ∈ leases, lease.workItemId ∉ dispatcher.inProgress

/-- Credit is taken beside the leases that wait for notifications, a notification fails only after
its reply's leases are gone, and no lease starts beside an execution of its item. -/
def Permitted (options : DispatcherOptions) (dispatcher : Dispatcher) : Event → Prop
  | .dispatchOnce _ requested =>
    dispatcher.reserved + dispatcher.inProgress.length + dispatcher.held.length +
      dispatcher.batchSize options requested ≤ options.creditLimit
  | .claimed call notices leased => ∀ batchSize,
    dispatcher.calls[call]? = some (.claiming batchSize) →
      leased.length ≤ batchSize ∧ dispatcher.Starts (numbered dispatcher.drawn leased) notices
  | .notified call fails => ∀ notice rest leases,
    dispatcher.calls[call]? = some (.notifying (notice :: rest) leases) →
      (fails = true → leases = []) ∧ dispatcher.Starts leases rest
  | _ => True

structure Sound (options : DispatcherOptions) (dispatcher : Dispatcher) : Prop where
  reserved : dispatcher.reserved = (dispatcher.calls.map Call.credit).sum
  bounded : dispatcher.reserved + dispatcher.inProgress.length + dispatcher.held.length ≤
    options.creditLimit
  alone : dispatcher.inProgress.Nodup
  inFlight : dispatcher.inFlight.Perm dispatcher.inProgress
  places : ∀ number, dispatcher.handed.count number +
    (dispatcher.held.map (·.number)).count number + dispatcher.queued.count number =
      if number < dispatcher.drawn then 1 else 0

theorem exists_split (found : entries[index]? = some old) : ∃ before after, entries =
      before ++ old :: after ∧ ∀ new, entries.set index new = before ++ new :: after := by
  induction entries generalizing index with
  | nil => cases found
  | cons first rest induction =>
    cases index with
    | zero =>
      obtain rfl := Option.some.inj found
      exact ⟨[], rest, rfl, fun _ => rfl⟩
    | succ index =>
      obtain ⟨before, after, whole, replaced⟩ := induction found
      exact ⟨first :: before, after, congrArg _ whole, fun new => congrArg _ (replaced new)⟩

variable {options : DispatcherOptions} {dispatcher : Dispatcher} {index : Nat}

theorem setCall_spec (found : dispatcher.calls[index]? = some old) :
    ∃ before after credit, dispatcher.held = before ++ old.held ++ after ∧
      (dispatcher.calls.map Call.credit).sum = credit + old.credit ∧
      ∀ new, (dispatcher.setCall index new).held = before ++ new.held ++ after ∧
        ((dispatcher.setCall index new).calls.map Call.credit).sum = credit + new.credit := by
  obtain ⟨before, after, whole, replaced⟩ := exists_split found
  refine ⟨before.flatMap Call.held, after.flatMap Call.held,
    (before.map Call.credit).sum + (after.map Call.credit).sum, ?_, ?_, fun new => ⟨?_, ?_⟩⟩
  · simp [held, whole]
  · simp only [whole, map_append, map_cons, sum_append, sum_cons]
    omega
  · simp [held, setCall, replaced]
  · simp only [setCall, replaced, map_append, map_cons, sum_append, sum_cons]
    omega

theorem setStage_spec (found : dispatcher.executions[index]? = some execution) :
    ∃ started later waiting after, dispatcher.inProgress = started ++ execution.started ++ later ∧
      dispatcher.queued = waiting ++ execution.waiting ++ after ∧
      ∀ stage, (dispatcher.setStage index execution stage).inProgress =
          started ++ Execution.started { execution with stage } ++ later ∧
        (dispatcher.setStage index execution stage).queued =
          waiting ++ Execution.waiting { execution with stage } ++ after := by
  obtain ⟨before, after, whole, replaced⟩ := exists_split found
  refine ⟨before.flatMap Execution.started, after.flatMap Execution.started,
    before.flatMap Execution.waiting, after.flatMap Execution.waiting, ?_, ?_,
    fun stage => ⟨?_, ?_⟩⟩
  · simp [inProgress, whole]
  · simp [queued, whole]
  · simp [inProgress, setStage, replaced]
  · simp [queued, setStage, replaced]

theorem foldl_setKey {keys fresh : List String} (alone : fresh.Nodup)
    (apart : ∀ key ∈ fresh, key ∉ keys) : fresh.foldl setKey keys = keys ++ fresh := by
  induction fresh generalizing keys with
  | nil => exact (append_nil keys).symm
  | cons key rest induction =>
    obtain ⟨new, alone⟩ := nodup_cons.mp alone
    rw [foldl_cons, setKey, if_neg (apart key mem_cons_self), induction alone,
      append_assoc, singleton_append]
    intro other member inKeys
    obtain old | same := mem_append.mp inKeys
    · exact apart other (mem_cons_of_mem _ member) old
    · exact new (mem_singleton.mp same ▸ member)

variable (sound : dispatcher.Sound options)

include sound in
theorem Sound.starts {leases : List ClaimedWork}
    (found : dispatcher.calls[index]? = some (.notifying [] leases))
    (starts : dispatcher.Starts leases []) :
    ((dispatcher.setCall index .ended).startLeases leases).Sound options := by
  obtain ⟨alone, apart⟩ := starts rfl
  obtain ⟨before, after, credit, held, credits, replaced⟩ := setCall_spec found
  obtain ⟨held', credits'⟩ := replaced .ended
  have inProgress : ((dispatcher.setCall index .ended).startLeases leases).inProgress =
      dispatcher.inProgress ++ leases.map (·.workItemId) := by
    rw [Dispatcher.inProgress, startLeases, flatMap_append, flatMap_map, map_eq_flatMap]
    rfl
  have queued : ((dispatcher.setCall index .ended).startLeases leases).queued =
      dispatcher.queued ++ leases.map (·.number) := by
    rw [Dispatcher.queued, startLeases, flatMap_append, flatMap_map, map_eq_flatMap]
    rfl
  have keys : ∀ key ∈ leases.map (·.workItemId), key ∉ dispatcher.inFlight := by
    intro key member inFlight
    obtain ⟨lease, isLease, rfl⟩ := mem_map.mp member
    exact apart lease isLease (sound.inFlight.mem_iff.mp inFlight)
  have bounded := sound.bounded
  refine ⟨?_, ?_, ?_, ?_, fun number => ?_⟩
  · exact sound.reserved.trans (credits.trans credits'.symm)
  · change dispatcher.reserved + _ + (dispatcher.setCall index .ended).held.length ≤ _
    rw [inProgress, held']
    rw [held] at bounded
    simp only [length_append, length_map, Call.held, length_nil] at bounded ⊢
    omega
  · rw [inProgress, nodup_append]
    refine ⟨sound.alone, alone, fun item started other member same => ?_⟩
    obtain ⟨lease, isLease, rfl⟩ := mem_map.mp member
    exact apart lease isLease (same ▸ started)
  · rw [inProgress]
    change ((leases.map (·.workItemId)).foldl setKey dispatcher.inFlight).Perm _
    rw [foldl_setKey alone keys]
    exact sound.inFlight.append_right _
  · change dispatcher.handed.count number +
      ((dispatcher.setCall index .ended).held.map (·.number)).count number + _ =
        if number < dispatcher.drawn then 1 else 0
    have places := sound.places number
    rw [held] at places
    rw [← places, queued, held']
    simp only [map_append, count_append, Call.held, map_nil, count_nil]
    omega

/-- The call goes on with `leases` to start once `notices` are told. -/
theorem Sound.notify (found : dispatcher.calls[index]? = some old)
    (sound : (dispatcher.setCall index (.notifying notices leases)).Sound options)
    (starts : dispatcher.Starts leases notices) :
    (dispatcher.notify index notices leases).Sound options := by
  cases notices with
  | cons notice rest => exact sound
  | nil =>
    have inside := (List.getElem?_eq_some_iff.mp found).1
    have present : (dispatcher.setCall index (.notifying [] leases)).calls[index]? =
        some (.notifying [] leases) := getElem?_set_self inside
    have started := sound.starts present starts
    unfold setCall at started
    rw [set_set] at started
    exact started

include sound in
theorem Sound.gives {batchSize : Nat} (drawn : Nat)
    (found : dispatcher.calls[index]? = some (.claiming batchSize)) (credit : new.credit = 0)
    (fits : new.held.length ≤ batchSize)
    (places : ∀ number, (new.held.map (·.number)).count number +
      (if number < dispatcher.drawn then 1 else 0) = if number < drawn then 1 else 0) :
    ({ dispatcher with reserved := dispatcher.reserved - batchSize, drawn := drawn }.setCall
      index new).Sound options := by
  obtain ⟨before, after, rest, held, credits, replaced⟩ := setCall_spec found
  obtain ⟨held', credits'⟩ := replaced new
  have bounded := sound.bounded
  have reserved := sound.reserved.trans credits
  have given : Call.credit (.claiming batchSize) = batchSize := rfl
  have nothing : Call.held (.claiming batchSize) = [] := rfl
  refine ⟨?_, ?_, sound.alone, sound.inFlight, fun number => ?_⟩
  · refine Eq.trans ?_ credits'.symm
    change dispatcher.reserved - batchSize = _
    omega
  · change dispatcher.reserved - batchSize + dispatcher.inProgress.length +
      (dispatcher.setCall index new).held.length ≤ _
    rw [held']
    rw [held, nothing] at bounded
    simp only [length_append, length_nil] at bounded ⊢
    omega
  · change dispatcher.handed.count number +
      ((dispatcher.setCall index new).held.map (·.number)).count number +
        dispatcher.queued.count number = if number < drawn then 1 else 0
    have earlier := sound.places number
    have numbers := places number
    rw [held, nothing] at earlier
    rw [held']
    simp only [map_append, count_append, map_nil, count_nil] at earlier ⊢
    omega

theorem count_numbered (leased : List String) (drawn number : Nat) :
    ((numbered drawn leased).map (·.number)).count number + (if number < drawn then 1 else 0) =
      if number < drawn + leased.length then 1 else 0 := by
  induction leased generalizing drawn with
  | nil => simp [numbered]
  | cons first rest induction =>
    have later := induction (drawn + 1)
    rw [numbered, map_cons, count_cons, length_cons]
    by_cases same : drawn = number
    · subst same
      rw [if_pos (Nat.lt_succ_self _)] at later
      simp only [beq_self_eq_true, if_true, Nat.lt_irrefl, if_false]
      rw [if_pos (by omega)] at later
      rw [if_pos (by omega)]
      omega
    · simp only [beq_iff_eq, same, if_false]
      split_ifs at later ⊢ <;> omega

theorem length_numbered (leased : List String) (drawn : Nat) :
    (numbered drawn leased).length = leased.length := by
  induction leased generalizing drawn with
  | nil => rfl
  | cons first rest induction => exact congrArg _ (induction _)

include sound

theorem Sound.keeps (found : dispatcher.calls[index]? = some old) (credit : new.credit = old.credit)
    (held : new.held = old.held) : (dispatcher.setCall index new).Sound options := by
  obtain ⟨before, after, rest, isHeld, credits, replaced⟩ := setCall_spec found
  obtain ⟨held', credits'⟩ := replaced new
  have same : (dispatcher.setCall index new).held = dispatcher.held := by
    rw [held', isHeld, held]
  refine ⟨?_, ?_, sound.alone, sound.inFlight, ?_⟩
  · rw [credits', credit, ← credits]
    exact sound.reserved
  · rw [same]
    exact sound.bounded
  · rw [same]
    exact sound.places

theorem Sound.step (permitted : dispatcher.Permitted options event) :
    (dispatcher.step options event).Sound options := by
  cases event with
  | dispatchOnce aborted requested =>
    unfold Dispatcher.step
    dsimp only
    split
    · exact sound
    split
    · exact sound
    · have held : ∀ batchSize reserved, ({ dispatcher with
          reserved := reserved
          calls := dispatcher.calls ++ [.claiming batchSize] } : Dispatcher).held =
            dispatcher.held := by
        simp [Dispatcher.held, Call.held]
      refine ⟨?_, ?_, sound.alone, sound.inFlight, ?_⟩
      · simp [sound.reserved, Call.credit]
      · rw [held]
        have room := permitted
        unfold Permitted at room
        change dispatcher.reserved + _ + dispatcher.inProgress.length + _ ≤ _
        omega
      · rw [held]
        exact sound.places
  | claimFailed call =>
    unfold Dispatcher.step
    dsimp only
    split
    · rename_i found
      exact sound.gives dispatcher.drawn found rfl (Nat.zero_le _) (fun _ => by simp [Call.held])
    · exact sound
  | claimed call notices leased =>
    unfold Dispatcher.step
    dsimp only
    split
    · rename_i batchSize found
      obtain ⟨fits, starts⟩ := permitted batchSize found
      refine Sound.notify found (sound.gives _ found rfl ?_ fun number => ?_) starts
      · exact Nat.le_trans (Nat.le_of_eq (length_numbered _ _)) fits
      · exact count_numbered leased dispatcher.drawn number
    · exact sound
  | notified call fails =>
    unfold Dispatcher.step
    dsimp only
    split
    · rename_i notice rest leases found
      obtain ⟨nothing, starts⟩ := permitted notice rest leases found
      split
      · rename_i failed
        simp only [Bool.and_eq_true] at failed
        exact sound.keeps found rfl (nothing failed.1.1).symm
      · exact Sound.notify found (sound.keeps found rfl rfl) starts
    · exact sound
  | runLeased index =>
    unfold Dispatcher.step
    dsimp only
    split
    · rename_i lease found
      obtain ⟨_, _, waiting, after, inProgress, queued, replaced⟩ := setStage_spec found
      obtain ⟨inProgress', queued'⟩ := replaced .running
      have same := inProgress'.trans inProgress.symm
      have handsOver : ∀ number, (lease.number :: dispatcher.handed).count number +
          (dispatcher.setStage index ⟨lease, .queued⟩ .running).queued.count number =
            dispatcher.handed.count number + dispatcher.queued.count number := by
        intro number
        have waits : Execution.waiting ⟨lease, .queued⟩ = [lease.number] := rfl
        have runs : Execution.waiting ⟨lease, .running⟩ = [] := rfl
        rw [queued', queued, waits, runs]
        simp only [count_append, count_cons, count_nil]
        omega
      refine ⟨sound.reserved, ?_, same ▸ sound.alone, same ▸ sound.inFlight, fun number => ?_⟩
      · exact Nat.le_trans (by rw [← same]; exact Nat.le_refl _) sound.bounded
      · refine Eq.trans ?_ (sound.places number)
        rw [Nat.add_right_comm _ _ (dispatcher.queued.count number), ← handsOver number]
        exact Nat.add_right_comm ..
    · exact sound
  | completes index =>
    unfold Dispatcher.step
    dsimp only
    split
    · rename_i lease found
      obtain ⟨_, _, _, _, inProgress, queued, replaced⟩ := setStage_spec found
      obtain ⟨inProgress', queued'⟩ := replaced .inspecting
      have same := inProgress'.trans inProgress.symm
      have waits := queued'.trans queued.symm
      refine ⟨sound.reserved, ?_, same ▸ sound.alone, same ▸ sound.inFlight, ?_⟩
      · exact Nat.le_trans (by rw [← same]; exact Nat.le_refl _) sound.bounded
      · rw [waits]
        exact sound.places
    · exact sound
  | finishes index =>
    unfold Dispatcher.step
    dsimp only
    split
    · rename_i lease found
      obtain ⟨started, later, _, _, inProgress, queued, replaced⟩ := setStage_spec found
      obtain ⟨inProgress', queued'⟩ := replaced .ended
      have waits := queued'.trans queued.symm
      have whole : dispatcher.inProgress = started ++ [lease.workItemId] ++ later := inProgress
      have left : (dispatcher.setStage index ⟨lease, .inspecting⟩ .ended).inProgress =
          started ++ later := inProgress'.trans (by rw [append_assoc]; rfl)
      have alone := sound.alone
      have bounded := sound.bounded
      rw [whole] at alone bounded
      have filtered : (started ++ [lease.workItemId] ++ later).filter (· ≠ lease.workItemId) =
          started ++ later := by
        rw [append_assoc, nodup_append] at alone
        obtain ⟨_, alone, apart⟩ := alone
        have others : ∀ item ∈ started ++ later, item ≠ lease.workItemId := by
          intro item member same
          obtain before | after := mem_append.mp member
          · exact apart item before _ mem_cons_self same
          · exact (nodup_cons.mp alone).1 (same ▸ after)
        rw [filter_append, filter_append, filter_cons_of_neg (by simp),
          filter_nil, append_nil, ← filter_append, filter_eq_self]
        exact fun item member => by simpa using others item member
      refine ⟨sound.reserved, ?_, ?_, ?_, ?_⟩
      · refine Nat.le_trans ?_ bounded
        change dispatcher.reserved + (dispatcher.setStage index ⟨lease, .inspecting⟩
          .ended).inProgress.length + dispatcher.held.length ≤ _
        rw [left]
        simp only [length_append]
        omega
      · change (dispatcher.setStage index ⟨lease, .inspecting⟩ .ended).inProgress.Nodup
        rw [left, ← filtered]
        exact alone.filter _
      · change (dispatcher.inFlight.filter (· ≠ lease.workItemId)).Perm
          (dispatcher.setStage index ⟨lease, .inspecting⟩ .ended).inProgress
        rw [left, ← filtered, ← whole]
        exact sound.inFlight.filter _
      · intro number
        refine Eq.trans ?_ (sound.places number)
        rw [← waits]
        rfl
    · exact sound

omit sound

theorem sound_initial (options : DispatcherOptions) : createQueuePushDispatcher.Sound options where
  reserved := rfl
  bounded := Nat.zero_le _
  alone := nodup_nil
  inFlight := .nil
  places number := by
    change 0 = if number < 0 then 1 else 0
    rw [if_neg (Nat.not_lt_zero number)]

def sampleOptions : DispatcherOptions where
  creditLimit := 2
  onTerminal := true

def claims (call : Nat) (workItemId : String) : List Event :=
  [.dispatchOnce false 1, .claimed call [] [workItemId]]

end Dispatcher

end LicoMesh.PushDispatcher
