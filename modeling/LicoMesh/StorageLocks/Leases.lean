import LicoMesh.Library.Path

namespace LicoMesh.StorageLocks

open Library

/-! Runtime leases and maintenance locks of a storage root. Every step of an agent is one access to
the file system; the steps of all agents interleave. -/

abbrev ProcessId := Nat

structure LeaseFile where
  /-- The agent whose random token the payload has. -/
  token : Nat
  pid : ProcessId
  written : Bool
  deriving DecidableEq

inductive LeaseKind
  | runtime
  | maintenance
  deriving DecidableEq

structure LockRoot where
  runtimeLease : Option LeaseFile
  maintenanceLock : Option LeaseFile
  /-- The processes that do not run any more. -/
  crashed : List ProcessId

namespace LockRoot

variable (root : LockRoot)

def file : LeaseKind → Option LeaseFile
  | .runtime => root.runtimeLease
  | .maintenance => root.maintenanceLock

def setFile (kind : LeaseKind) (file : Option LeaseFile) : LockRoot :=
  match kind with
  | .runtime => { root with runtimeLease := file }
  | .maintenance => { root with maintenanceLock := file }

@[simp] theorem file_setFile (kind other : LeaseKind) (file : Option LeaseFile) :
    (root.setFile kind file).file other = if other = kind then file else root.file other := by
  cases kind <;> cases other <;> rfl

@[simp] theorem crashed_setFile (kind : LeaseKind) (file : Option LeaseFile) :
    (root.setFile kind file).crashed = root.crashed := by
  cases kind <;> rfl

end LockRoot

inductive LeaseState
  | active
  | stale
  | unknown
  deriving DecidableEq

def LeaseFile.state (file : LeaseFile) (crashed : List ProcessId) : LeaseState :=
  if !file.written then .unknown
  else if crashed.contains file.pid then .stale
  else .active

inductive LockError
  | maintenanceActive
  | maintenanceStateUnknown
  | operationBusy
  | restoreRuntimeActive
  | restoreRuntimeStateUnknown
  | runtimeActive
  | runtimeStateUnknown
  deriving DecidableEq

/-- A call of `acquireStorageRuntimeLease`, of `acquireStorageMaintenanceLock` or of
`assertRestoreQuiesced`. -/
inductive Task
  | runtime
  | maintenance
  | quiesce
  deriving DecidableEq

inductive Ending
  | refused (error : LockError)
  | released
  /-- A handle of the lease that the process has already. -/
  | shared
  /-- The assertion passed, while these other processes held the runtime lease. -/
  | passed (holders : List ProcessId)
  deriving DecidableEq

/-- Why a stale file is removed: before a second attempt to create it, before a second look at the
maintenance lock, or to pass the assertion. -/
inductive Cleanup
  | acquire
  | check
  | quiesce
  deriving DecidableEq

inductive Phase
  | looking (attempt : Nat)
  | creating (attempt : Nat)
  | lookingAgain (attempt : Nat)
  | looked (attempt : Nat) (seen : LeaseFile)
  | writing
  | checkLooking (second : Bool)
  | checkLooked (second : Bool) (seen : LeaseFile)
  | held (references : Nat)
  | quiesceLooking
  | quiesceLooked (seen : LeaseFile)
  | comparing (cleanup : Cleanup) (seen : LeaseFile)
  | removing (cleanup : Cleanup) (seen : LeaseFile)
  | ownLooking (ending : Ending)
  | ownRemoving (ending : Ending)
  | ended (ending : Ending)
  deriving DecidableEq

structure Agent where
  pid : ProcessId
  task : Task
  phase : Phase
  deriving DecidableEq

def Task.kind : Task → LeaseKind
  | .maintenance => .maintenance
  | _ => .runtime

def Agent.cleanedKind (agent : Agent) : Cleanup → LeaseKind
  | .acquire => agent.task.kind
  | .check => .maintenance
  | .quiesce => .runtime

def Task.heldError (task : Task) (state : LeaseState) : LockError :=
  match task with
  | .maintenance => .operationBusy
  | _ => if state = .active then .runtimeActive else .runtimeStateUnknown

abbrev LockWorld := World LockRoot Agent

namespace Agent

variable (agent : Agent)

def isAlive (root : LockRoot) : Bool := !root.crashed.contains agent.pid

def otherRuntimeHolders (locks : LockWorld) : List ProcessId :=
  locks.agents.filterMap fun other =>
    match other.task, other.phase with
    | .runtime, .held _ =>
      if other.isAlive locks.shared && other.pid ≠ agent.pid then some other.pid else none
    | _, _ => none

def cleaned (cleanup : Cleanup) (holders : List ProcessId) : Phase :=
  match cleanup with
  | .acquire => .looking 1
  | .check => .checkLooking true
  | .quiesce => .ended (.passed holders)

def notCleaned (cleanup : Cleanup) : Phase :=
  match cleanup with
  | .acquire => .ended (.refused (agent.task.heldError .stale))
  | .check => .ownLooking (.refused .maintenanceStateUnknown)
  | .quiesce => .ended (.refused .restoreRuntimeStateUnknown)

def judge (attempt : Nat) (seen : LeaseFile) (crashed : List ProcessId) : Phase :=
  let state := seen.state crashed
  if state = .stale ∧ attempt = 0 then .comparing .acquire seen
  else if state = .active ∧ agent.task = .runtime ∧ seen.pid = agent.pid then .ended .shared
  else .ended (.refused (agent.task.heldError state))

/-- `assertMaintenanceAvailableForRuntimeSync` with the file that was seen. -/
def judgeMaintenance (second : Bool) (seen : LeaseFile) (crashed : List ProcessId) : Phase :=
  match seen.state crashed with
  | .stale => if second then .ownLooking (.refused .maintenanceStateUnknown)
      else .comparing .check seen
  | .active => .ownLooking (.refused .maintenanceActive)
  | .unknown => .ownLooking (.refused .maintenanceStateUnknown)

def judgeQuiesced (seen : LeaseFile) (crashed : List ProcessId) : Phase :=
  match seen.state crashed with
  | .stale => .comparing .quiesce seen
  | .active => .ended (.refused .restoreRuntimeActive)
  | .unknown => .ended (.refused .restoreRuntimeStateUnknown)

def advance (root : LockRoot) (token : Nat) (holders : List ProcessId) : LockRoot × Phase :=
  let own := root.file agent.task.kind
  match agent.phase with
  | .looking attempt =>
    (root, match own with
      | none => .creating attempt
      | some seen => .looked attempt seen)
  | .creating attempt =>
    match own with
    | none => (root.setFile agent.task.kind (some ⟨token, agent.pid, false⟩), .writing)
    | some _ => (root, .lookingAgain attempt)
  | .lookingAgain attempt =>
    (root, match own with
      | none => .ended (.refused (agent.task.heldError .unknown))
      | some seen => .looked attempt seen)
  | .looked attempt seen => (root, agent.judge attempt seen root.crashed)
  | .writing =>
    let written := own.map fun file =>
      if file.token = token then { file with written := true } else file
    (root.setFile agent.task.kind written,
      if agent.task = .runtime then .checkLooking false else .held 1)
  | .checkLooking second =>
    (root, match root.maintenanceLock with
      | none => .held 1
      | some seen => .checkLooked second seen)
  | .checkLooked second seen => (root, judgeMaintenance second seen root.crashed)
  | .quiesceLooking =>
    (root, match root.runtimeLease with
      | none => .ended (.passed holders)
      | some seen => .quiesceLooked seen)
  | .quiesceLooked seen => (root, judgeQuiesced seen root.crashed)
  | .comparing cleanup seen =>
    (root, match root.file (agent.cleanedKind cleanup) with
      | none => cleaned cleanup holders
      | some file => if file = seen then .removing cleanup seen else agent.notCleaned cleanup)
  | .removing cleanup _ =>
    (root.setFile (agent.cleanedKind cleanup) none, cleaned cleanup holders)
  | .ownLooking ending =>
    (root, if own.any fun file => file.written && file.token = token then .ownRemoving ending
      else .ended ending)
  | .ownRemoving ending => (root.setFile agent.task.kind none, .ended ending)
  | .held references => (root, .held references)
  | .ended ending => (root, .ended ending)

end Agent

inductive LockAction
  | acquireRuntime (pid : ProcessId)
  | acquireMaintenance (pid : ProcessId)
  | assertRestoreQuiesced (pid : ProcessId)
  /-- An agent makes its next access to the file system. -/
  | advance (token : Nat)
  | release (token : Nat)
  | crash (pid : ProcessId)

/-- The agent of a process that holds the runtime lease: the entry of `activeRuntimeLeases`. -/
def sharedRuntimeLease (locks : LockWorld) (pid : ProcessId) : Option Nat :=
  locks.agents.findIdx? fun agent =>
    agent.pid = pid && agent.task = .runtime &&
      match agent.phase with
      | .held _ => true
      | _ => false

def Phase.release : Phase → Phase
  | .held (references + 2) => .held (references + 1)
  | .held _ => .ownLooking .released
  | phase => phase

def Phase.retain : Phase → Phase
  | .held references => .held (references + 1)
  | phase => phase

def setPhase (locks : LockWorld) (token : Nat) (agent : Agent) (phase : Phase) : LockWorld :=
  locks.update token locks.shared { agent with phase := phase }

def liveAgent (locks : LockWorld) (token : Nat) : Option Agent :=
  locks.agents[token]?.filter fun agent => agent.isAlive locks.shared

def step (locks : LockWorld) : LockAction → LockWorld
  | .acquireRuntime pid =>
    match sharedRuntimeLease locks pid with
    | some token =>
      match locks.agents[token]? with
      | some agent => setPhase locks token agent agent.phase.retain
      | none => locks
    | none => locks.spawn ⟨pid, .runtime, .looking 0⟩
  | .acquireMaintenance pid => locks.spawn ⟨pid, .maintenance, .looking 0⟩
  | .assertRestoreQuiesced pid =>
    locks.spawn ⟨pid, .quiesce,
      if (sharedRuntimeLease locks pid).isSome then .ended (.refused .restoreRuntimeActive)
      else .quiesceLooking⟩
  | .advance token =>
    match liveAgent locks token with
    | none => locks
    | some agent =>
      let next := agent.advance locks.shared token (agent.otherRuntimeHolders locks)
      locks.update token next.1 { agent with phase := next.2 }
  | .release token =>
    match liveAgent locks token with
    | none => locks
    | some agent => setPhase locks token agent agent.phase.release
  | .crash pid => ⟨{ locks.shared with crashed := pid :: locks.shared.crashed }, locks.agents⟩

def initial : LockWorld := ⟨⟨none, none, []⟩, []⟩

abbrev run (actions : List LockAction) : LockWorld := runAll step initial actions

end LicoMesh.StorageLocks
