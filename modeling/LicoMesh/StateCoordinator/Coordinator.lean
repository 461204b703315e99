import LicoMesh.StateCoordinator.Deque

namespace LicoMesh.StateCoordinator

open Function (update)

/-! The coordinator of state mutations: the tasks of one key run one after the other. A callback of
the source runs to its end before another starts; only the signal of a task that is fenced calls the
task back in between. Timers and listeners may fire at any time, also after they were cleared. -/

structure StateMutationError where
  code : String
  message : String

def timeoutError : StateMutationError :=
  ⟨"STATE_MUTATION_TIMEOUT", "State mutation timed out before it reached a safe terminal state."⟩

def fencedError : StateMutationError :=
  ⟨"STATE_MUTATION_QUEUE_FENCED",
    "State mutation queue is fenced by an indeterminate earlier mutation."⟩

def queueAbortedError : StateMutationError :=
  ⟨"STATE_MUTATION_QUEUE_ABORTED", "State mutation was cancelled before execution."⟩

def activeAbortedError : StateMutationError :=
  ⟨"STATE_MUTATION_ABORTED", "State mutation was cancelled while executing."⟩

def queueWaitTimeoutError : StateMutationError :=
  ⟨"STATE_MUTATION_QUEUE_WAIT_TIMEOUT", "State mutation exceeded its queue wait deadline."⟩

def keyTooLargeError : StateMutationError :=
  ⟨"STATE_MUTATION_KEY_TOO_LARGE", "State mutation key exceeds its byte limit."⟩

def laneCapacityError : StateMutationError :=
  ⟨"STATE_MUTATION_LANE_CAPACITY_EXCEEDED",
    "State mutation lane has reached its pending capacity."⟩

def globalCapacityError : StateMutationError :=
  ⟨"STATE_MUTATION_GLOBAL_CAPACITY_EXCEEDED",
    "State mutation scheduler has reached its pending capacity."⟩

def laneLimitError : StateMutationError :=
  ⟨"STATE_MUTATION_LANE_LIMIT_EXCEEDED",
    "State mutation scheduler has reached its active lane capacity."⟩

structure StateMutationPolicy where
  maxQueuedPerLane : Nat
  maxQueuedGlobal : Nat
  maxActiveLanes : Nat
  maxKeyBytes : Nat
  perLane_pos : 0 < maxQueuedPerLane

def lowerPolicyLimit (value : Option Nat) (hardLimit : Nat) : Nat :=
  match value with
  | some numeric => if numeric ≥ 1 then min numeric hardLimit else hardLimit
  | none => hardLimit

structure PolicyInput where
  maxQueuedPerLane : Option Nat
  maxQueuedGlobal : Option Nat
  maxActiveLanes : Option Nat
  maxKeyBytes : Option Nat

def normalizeStateMutationPolicy (input : PolicyInput) : StateMutationPolicy where
  maxQueuedPerLane := lowerPolicyLimit input.maxQueuedPerLane 256
  maxQueuedGlobal := lowerPolicyLimit input.maxQueuedGlobal 4096
  maxActiveLanes := lowerPolicyLimit input.maxActiveLanes 2048
  maxKeyBytes := lowerPolicyLimit input.maxKeyBytes 4096
  perLane_pos := by
    unfold lowerPolicyLimit
    split
    · split <;> omega
    · decide

def normalizeKey (key : String) : String := if key = "" then "default" else key

/-- How far the promise chain of an entry has come. It is scheduled when the lane takes the entry,
and its finally has run when it is finished. -/
inductive Progress
  | waiting
  | scheduled
  | running
  | ended (fails : Bool)
  | answered
  | finished
  deriving DecidableEq

def Progress.isActive : Progress → Bool
  | .waiting | .finished => false
  | .scheduled | .running | .ended _ | .answered => true

inductive Answer
  | resolved
  | failed
  | rejected (error : StateMutationError)

/-- An entry, with the key and the lane that its callbacks close over. A slot of `-1` is none. -/
structure MutationEntry where
  key : String
  lane : Nat
  signal : Option Nat
  queuedCreditHeld : Bool
  slot : Option Nat
  terminalError : Option StateMutationError
  /-- The fence has aborted the task's signal and has the rest to do. -/
  fencing : Bool
  progress : Progress
  answers : List Answer

inductive Deferred
  | pending
  | resolved
  | rejected
  deriving DecidableEq

structure MutationLane where
  active : Option Nat
  poison : Option Nat
  queue : MutationQueue Nat
  idle : Deferred

/-- Lanes and entries are objects with numbers, and `lanes` is the map from keys to lanes. -/
structure Coordinator where
  policy : StateMutationPolicy
  lanes : List (String × Nat)
  lane : Nat → MutationLane
  laneTotal : Nat
  entry : Nat → MutationEntry
  entryTotal : Nat
  queuedCount : Int
  aborted : List Nat
  /-- The tasks that were called, in this order. -/
  started : List Nat
  /-- For each idle promise that was resolved, whether its key was busy at that moment. -/
  resolutions : List Bool

def newLane (policy : StateMutationPolicy) : MutationLane :=
  ⟨none, none, .new policy.maxQueuedPerLane, .pending⟩

def blankEntry : MutationEntry := ⟨"", 0, none, false, none, none, false, .waiting, []⟩

def createStateMutationCoordinator (policy : StateMutationPolicy) : Coordinator where
  policy := policy
  lanes := []
  lane _ := newLane policy
  laneTotal := 0
  entry _ := blankEntry
  entryTotal := 0
  queuedCount := 0
  aborted := []
  started := []
  resolutions := []

namespace Coordinator

variable (s : Coordinator)

def updateLane (l : Nat) (lane : MutationLane) : Coordinator :=
  { s with lane := update s.lane l lane }

def updateEntry (e : Nat) (entry : MutationEntry) : Coordinator :=
  { s with entry := update s.entry e entry }

def answer (e : Nat) (answer : Answer) : Coordinator :=
  s.updateEntry e { s.entry e with answers := (s.entry e).answers ++ [answer] }

def isBusy (key : String) : Bool :=
  (List.range s.entryTotal).any fun e =>
    (s.entry e).key = key && ((s.entry e).slot.isSome || (s.entry e).progress.isActive)

def releaseQueuedEntry (e : Nat) : Coordinator :=
  if (s.entry e).queuedCreditHeld then
    { s.updateEntry e { s.entry e with queuedCreditHeld := false } with
      queuedCount := s.queuedCount - 1 }
  else s

def resolveIdle (key : String) (l : Nat) : Coordinator :=
  if (s.lane l).idle = .pending then
    { s.updateLane l { s.lane l with idle := .resolved } with
      resolutions := s.isBusy key :: s.resolutions }
  else s

def rejectIdle (l : Nat) : Coordinator :=
  if (s.lane l).idle = .pending then s.updateLane l { s.lane l with idle := .rejected } else s

def dropLane (key : String) (l : Nat) : Coordinator :=
  if s.lanes.lookup key = some l then
    { s with lanes := s.lanes.filter fun mapped => mapped.1 ≠ key }
  else s

def settleLaneIfIdle (key : String) (l : Nat) : Coordinator :=
  if (s.lane l).active.isSome || (s.lane l).poison.isSome || (s.lane l).queue.size > 0 then s
  else (s.dropLane key l).resolveIdle key l

def leaveQueue (l : Nat) (queue : MutationQueue Nat) (e : Nat) : Coordinator :=
  let removed := s.updateLane l { s.lane l with queue := queue }
  (removed.updateEntry e { removed.entry e with slot := none }).releaseQueuedEntry e

def queueSize (l : Nat) : Nat := (s.lane l).queue.size

theorem queueSize_leaveQueue (l : Nat) (queue : MutationQueue Nat) (e : Nat) :
    (s.leaveQueue l queue e).queueSize l = queue.size := by
  dsimp only [leaveQueue, releaseQueuedEntry]
  split <;> simp [queueSize, updateLane, updateEntry]

theorem queueSize_answer (l e : Nat) (answer : Answer) :
    (s.answer e answer).queueSize l = s.queueSize l := rfl

theorem queueSize_dequeue
    (taken : (s.lane l).queue.dequeue = some (e, queue)) : queue.size < s.queueSize l := by
  obtain ⟨slot, contents, _⟩ := MutationQueue.dequeue_some taken
  unfold queueSize
  rw [MutationQueue.size_eq, MutationQueue.size_eq, contents, List.length_cons]
  exact Nat.lt_succ_self _

def rejectQueuedMutations (s : Coordinator) (key : String) (l : Nat) : Coordinator :=
  match _taken : (s.lane l).queue.dequeue with
  | none => s.settleLaneIfIdle key l
  | some (e, queue) =>
    ((s.leaveQueue l queue e).answer e (.rejected fencedError)).rejectQueuedMutations key l
termination_by s.queueSize l
decreasing_by
  rw [queueSize_answer, queueSize_leaveQueue]
  exact s.queueSize_dequeue _taken

def isAborted (signal : Option Nat) : Bool :=
  match signal with
  | none => false
  | some signal => signal ∈ s.aborted

def startNextMutation (s : Coordinator) (key : String) (l : Nat) : Coordinator :=
  if (s.lane l).active.isSome || (s.lane l).poison.isSome then s
  else
    match _taken : (s.lane l).queue.dequeue with
    | none => s.settleLaneIfIdle key l
    | some (e, queue) =>
      let left := s.leaveQueue l queue e
      if left.isAborted (left.entry e).signal then
        (left.answer e (.rejected queueAbortedError)).startNextMutation key l
      else
        (left.updateLane l { left.lane l with active := some e }).updateEntry e
          { left.entry e with progress := .scheduled }
termination_by s.queueSize l
decreasing_by
  rw [queueSize_answer, queueSize_leaveQueue]
  exact s.queueSize_dequeue _taken

def ensureLane (key : String) : Coordinator × Nat :=
  match s.lanes.lookup key with
  | some l => (s, l)
  | none =>
    ({ s.updateLane s.laneTotal (newLane s.policy) with
        lanes := s.lanes ++ [(key, s.laneTotal)]
        laneTotal := s.laneTotal + 1 }, s.laneTotal)

def refuse (key : String) (signal : Option Nat) : Option StateMutationError :=
  if key.utf8ByteSize > s.policy.maxKeyBytes then some keyTooLargeError
  else if s.isAborted signal then some queueAbortedError
  else
    match s.lanes.lookup key with
    | some l =>
      if (s.lane l).poison.isSome then some fencedError
      else if (s.lane l).queue.size ≥ s.policy.maxQueuedPerLane then some laneCapacityError
      else if s.queuedCount ≥ s.policy.maxQueuedGlobal then some globalCapacityError
      else none
    | none =>
      if s.queuedCount ≥ s.policy.maxQueuedGlobal then some globalCapacityError
      else if s.lanes.length ≥ s.policy.maxActiveLanes then some laneLimitError
      else none

def createEntry (key : String) (l : Nat) (signal : Option Nat) : Coordinator :=
  { s.updateEntry s.entryTotal ⟨key, l, signal, true, none, none, false, .waiting, []⟩ with
    entryTotal := s.entryTotal + 1
    queuedCount := s.queuedCount + 1 }

def queueStateMutation (key : String) (signal : Option Nat) :
    Coordinator × Option StateMutationError :=
  let key := normalizeKey key
  match s.refuse key signal with
  | some error => (s, some error)
  | none =>
    let e := s.entryTotal
    let (ensured, l) := s.ensureLane key
    let created := ensured.createEntry key l signal
    match (created.lane l).queue.enqueue e with
    | none =>
      let released := created.releaseQueuedEntry e
      (if (s.lanes.lookup key).isNone then released.settleLaneIfIdle key l else released,
        some laneCapacityError)
    | some (slot, queue) =>
      let queued := (created.updateLane l { created.lane l with queue := queue }).updateEntry e
        { created.entry e with slot := some slot }
      (queued.startNextMutation key l, none)

def cancelQueued (e : Nat) (error : StateMutationError) : Coordinator :=
  let key := (s.entry e).key
  let l := (s.entry e).lane
  match (s.entry e).slot with
  | none => s
  | some slot =>
    match (s.lane l).queue.remove slot with
    | none => s
    | some (_, queue) =>
      ((s.leaveQueue l queue e).answer e (.rejected error)).settleLaneIfIdle key l

def fenceActiveEntry (e : Nat) (error : StateMutationError) : Coordinator :=
  let l := (s.entry e).lane
  if (s.lane l).active ≠ some e ∨ (s.entry e).terminalError.isSome then s
  else
    (s.updateLane l { s.lane l with poison := some e }).updateEntry e
      { s.entry e with terminalError := some error, fencing := true }

def fenceRest (e : Nat) : Coordinator :=
  match (s.entry e).fencing, (s.entry e).terminalError with
  | true, some error =>
    let key := (s.entry e).key
    let l := (s.entry e).lane
    let fenced := s.updateEntry e { s.entry e with fencing := false }
    ((fenced.answer e (.rejected error)).rejectQueuedMutations key l).rejectIdle l
  | _, _ => s

def startTask (e : Nat) : Coordinator :=
  if (s.entry e).progress = .scheduled then
    { s.updateEntry e { s.entry e with progress := .running } with started := s.started ++ [e] }
  else s

def endTask (e : Nat) (fails : Bool) : Coordinator :=
  if (s.entry e).progress = .running then
    s.updateEntry e { s.entry e with progress := .ended fails }
  else s

def answerTask (e : Nat) : Coordinator :=
  match (s.entry e).progress with
  | .ended fails =>
    let answered := s.updateEntry e { s.entry e with progress := .answered }
    if (s.entry e).terminalError.isSome then answered
    else answered.answer e (if fails then .failed else .resolved)
  | .waiting | .scheduled | .running | .answered | .finished => s

def finishTask (e : Nat) : Coordinator :=
  if (s.entry e).progress = .answered then
    let key := (s.entry e).key
    let l := (s.entry e).lane
    let finished := s.updateEntry e { s.entry e with progress := .finished }
    if (s.lane l).active ≠ some e then finished
    else
      let poison := if (s.lane l).poison = some e then none else (s.lane l).poison
      (finished.updateLane l
        { finished.lane l with active := none, poison := poison }).startNextMutation key l
  else s

def waitForStateIdle (key : String) : Coordinator :=
  let key := normalizeKey key
  if key.utf8ByteSize > s.policy.maxKeyBytes then s
  else
    match s.lanes.lookup key with
    | none => { s with resolutions := s.isBusy key :: s.resolutions }
    | some l =>
      if (s.lane l).poison.isSome then s
      else if (s.lane l).idle = .resolved then
        { s with resolutions := s.isBusy key :: s.resolutions }
      else s

end Coordinator

inductive Event
  | queue (key : String) (signal : Option Nat)
  | wait (key : String)
  | abort (signal : Nat)
  | queueWaitTimeout (e : Nat)
  | queueAbort (e : Nat)
  | executionTimeout (e : Nat)
  | activeAbort (e : Nat)
  | fenceRest (e : Nat)
  | startTask (e : Nat)
  | endTask (e : Nat) (fails : Bool)
  | answerTask (e : Nat)
  | finishTask (e : Nat)

def step (s : Coordinator) : Event → Coordinator
  | .queue key signal => (s.queueStateMutation key signal).1
  | .wait key => s.waitForStateIdle key
  | .abort signal => { s with aborted := signal :: s.aborted }
  | .queueWaitTimeout e => s.cancelQueued e queueWaitTimeoutError
  | .queueAbort e => s.cancelQueued e queueAbortedError
  | .executionTimeout e => s.fenceActiveEntry e timeoutError
  | .activeAbort e => s.fenceActiveEntry e activeAbortedError
  | .fenceRest e => s.fenceRest e
  | .startTask e => s.startTask e
  | .endTask e fails => s.endTask e fails
  | .answerTask e => s.answerTask e
  | .finishTask e => s.finishTask e

end LicoMesh.StateCoordinator
