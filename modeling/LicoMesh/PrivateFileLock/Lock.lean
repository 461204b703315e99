import LicoMesh.Library.Path

namespace LicoMesh.PrivateFileLock

open Library

/-! The lock file of a private store. Every step of a call is one access to the file system or one
reading of the clock; the steps of all calls interleave. -/

/-- A file that has been at the lock path. Files are numbered as they are created. -/
structure LockFile where
  inode : Nat
  mtimeMs : Nat
  deriving DecidableEq

structure LockPath where
  path : String
  clock : Nat
  created : Nat
  file : Option LockFile

namespace LockPath

/-- `open` with the flag `wx`, at a path that is free. -/
def create (lock : LockPath) : LockPath :=
  { lock with
    created := lock.created + 1
    file := some ⟨lock.created, lock.clock⟩ }

def write (lock : LockPath) (inode : Nat) : LockPath :=
  { lock with
    file := lock.file.map fun file =>
      if file.inode = inode then { file with mtimeMs := lock.clock } else file }

/-- `unlink` of whatever is at the path. -/
def unlink (lock : LockPath) : LockPath := { lock with file := none }

end LockPath

structure Thrown where
  code : Option String
  message : String
  deriving DecidableEq

def Thrown.isExist (error : Thrown) : Bool := error.code = some "EEXIST"

inductive Answer (T : Type)
  | returned (value : T)
  | threw (error : Thrown)
  deriving DecidableEq

inductive LockSubject
  | capabilityBindingGuard
  | capabilityKernel
  deriving DecidableEq

def LockSubject.name : LockSubject → String
  | .capabilityBindingGuard => "capability binding guard"
  | .capabilityKernel => "capability kernel"

def timeoutError (subject : LockSubject) (path : String) : Thrown where
  code := none
  message := "Timed out waiting for " ++ subject.name ++ " state lock: " ++ path

structure LockOptions where
  subject : LockSubject
  timeoutMs : Nat := 10000
  staleMs : Nat := 30000
  deriving DecidableEq

/-- What a call is about to do. `inode` is the file that it has created. -/
inductive Phase (T : Type)
  | opening
  | writing (inode : Nat)
  | closing (inode : Nat)
  | running (inode : Nat) (since : Nat)
  | releasing (inode : Nat) (answer : Answer T)
  | examining
  | judging (seen : Option LockFile)
  | breaking (seen : LockFile)
  | ended (answer : Answer T)
  | crashed
  deriving DecidableEq

/-- A call of `withPrivateFileLock`. -/
structure Call (T : Type) where
  options : LockOptions
  startedAt : Nat
  phase : Phase T
  /-- How often the action was started. -/
  runs : Nat
  /-- The errors that it threw. -/
  thrown : List Thrown
  deriving DecidableEq

variable {T : Type}

/-- What the file system or the action answers; the value counts for the action only. -/
inductive Reply (T : Type)
  | done (value : T)
  | fails (error : Thrown)

/-- The outer `catch`. -/
def Phase.caught (error : Thrown) : Phase T :=
  if error.isExist then .examining else .ended (.threw error)

/-- What follows the `finally` of the action. -/
def Phase.released : Answer T → Phase T
  | .returned value => .ended (.returned value)
  | .threw error => .caught error

def Call.isStale (call : Call T) (seen : LockFile) (clock : Nat) : Bool :=
  seen.mtimeMs + call.options.staleMs < clock

def Call.to (call : Call T) (phase : Phase T) : Call T := { call with phase := phase }

def Call.advance (call : Call T) (lock : LockPath) (reply : Reply T) : LockPath × Call T :=
  match call.phase, reply with
  | .opening, .fails error => (lock, call.to (.caught error))
  | .opening, .done _ =>
    if lock.file.isSome then (lock, call.to .examining)
    else (lock.create, call.to (.writing lock.created))
  | .writing _, .fails error => (lock, call.to (.caught error))
  | .writing inode, .done _ => (lock.write inode, call.to (.closing inode))
  | .closing _, .fails error => (lock, call.to (.caught error))
  | .closing inode, .done _ =>
    (lock, { call.to (.running inode lock.clock) with runs := call.runs + 1 })
  | .running inode _, .fails error =>
    (lock,
      { call.to (.releasing inode (.threw error)) with thrown := call.thrown ++ [error] })
  | .running inode _, .done value => (lock, call.to (.releasing inode (.returned value)))
  -- A failing `unlink` is ignored, here and below.
  | .releasing _ answer, .fails _ => (lock, call.to (.released answer))
  | .releasing _ answer, .done _ => (lock.unlink, call.to (.released answer))
  | .examining, .fails _ => (lock, call.to (.judging none))
  | .examining, .done _ => (lock, call.to (.judging lock.file))
  | .judging seen, _ =>
    (lock, call.to (
      match seen.filter fun seen => call.isStale seen lock.clock with
      | some stale => .breaking stale
      | none =>
        if call.startedAt + call.options.timeoutMs < lock.clock then
          .ended (.threw (timeoutError call.options.subject lock.path))
        else .opening))
  | .breaking _, .fails _ => (lock, call.to .opening)
  | .breaking _, .done _ => (lock.unlink, call.to .opening)
  | .ended _, _ => (lock, call)
  | .crashed, _ => (lock, call)

abbrev Locking (T : Type) := World LockPath (Call T)

inductive LockAction (T : Type)
  | withPrivateFileLock (options : LockOptions)
  | advance (index : Nat) (reply : Reply T)
  | crash (index : Nat)
  | tick (milliseconds : Nat)

def step (locking : Locking T) : LockAction T → Locking T
  | .withPrivateFileLock options =>
    locking.spawn ⟨options, locking.shared.clock, .opening, 0, []⟩
  | .advance index reply =>
    match locking.agents[index]? with
    | none => locking
    | some call =>
      locking.update index (call.advance locking.shared reply).1
        (call.advance locking.shared reply).2
  | .crash index =>
    match locking.agents[index]? with
    | none => locking
    | some call => locking.update index locking.shared (call.to .crashed)
  | .tick milliseconds =>
    ⟨{ locking.shared with clock := locking.shared.clock + milliseconds }, locking.agents⟩

def initial (path : String) (clock : Nat) (left : Option Nat) : Locking T :=
  ⟨⟨path, clock, 1, left.map fun mtimeMs => ⟨0, mtimeMs⟩⟩, []⟩

end LicoMesh.PrivateFileLock
