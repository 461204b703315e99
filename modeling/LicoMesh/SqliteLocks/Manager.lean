import Mathlib.Algebra.GroupWithZero.Nat
import LicoMesh.Library.Path

namespace LicoMesh.SqliteLocks

open Function (update)
open Library

/-! The lock managers of the processes that share one database. Managers and the handles they build
are numbered; a fencing token is the number in its text. -/

/-- 9999-12-31T23:59:59.999Z. -/
def lastFourDigitYear : Nat := 253402300799999

/-- The last time of a `Date`; `toISOString` throws beyond it. -/
def lastDate : Nat := 8640000000000000

/-- The order of the texts of `toISOString`. A year of five digits is written with a sign, which
sorts before the digits. -/
def isoLt (first second : Nat) : Bool :=
  if first ≤ lastFourDigitYear then second ≤ lastFourDigitYear && first < second
  else second ≤ lastFourDigitYear || first < second

def isoLe (first second : Nat) : Bool := !isoLt second first

structure LockRow where
  fencingToken : Nat
  expiresAt : Nat

structure LockHandle where
  manager : Nat
  lockKey : String
  fencingToken : Nat
  expiresAt : Nat
  released : Bool

structure LockState where
  clock : Nat
  rows : String → Option LockRow
  /-- The fence sequence. -/
  value : Nat
  handles : Nat → LockHandle
  handleCount : Nat
  /-- `_handles` of each manager. -/
  entries : Nat → String → Option Nat
  destroyed : Nat → Bool

def LockState.fresh : LockState where
  clock := 0
  rows _ := none
  value := 0
  handles _ := ⟨0, "", 0, 0, true⟩
  handleCount := 0
  entries _ _ := none
  destroyed _ := false

/-- An integer column that leaves its range turns into a real, which `+ 1` does not change. -/
def nextFence (value : Nat) : Nat := min (value + 1) (2 ^ 63)

namespace LockState

variable (s : LockState)

def deleteWhere (condition : String → LockRow → Bool) : LockState :=
  { s with rows := fun key => (s.rows key).filter fun row => !condition key row }

/-- `DELETE FROM _meshrix_locks WHERE lock_key = ? AND fencing_token = ?`. -/
def deleteHeld (index : Nat) : LockState :=
  s.deleteWhere fun key row =>
    key = (s.handles index).lockKey && row.fencingToken = (s.handles index).fencingToken

def clearHandle (index : Nat) : LockState :=
  let handle := s.handles index
  match s.entries handle.manager handle.lockKey with
  | none => s
  | some entry =>
    if (s.handles entry).fencingToken = handle.fencingToken then
      { s with
        entries := update s.entries handle.manager
          (update (s.entries handle.manager) handle.lockKey none) }
    else s

def setReleased (index : Nat) : LockState :=
  { s.clearHandle index with
    handles := update s.handles index { s.handles index with released := true } }

def markExpired (index : Nat) : LockState :=
  if (s.handles index).released then s else s.setReleased index

def expireEntry (manager : Nat) (key : String) (now : Nat) : LockState :=
  match s.entries manager key with
  | none => s
  | some entry => if (s.handles entry).expiresAt ≤ now then s.markExpired entry else s

def cleanupKey (manager : Nat) (key : String) (now : Nat) : LockState :=
  (s.expireEntry manager key now).deleteWhere fun other row =>
    other = key && isoLt row.expiresAt now

/-- `_attemptAcquire` after its cleanup, where the manager has no handle of the key. -/
def attemptAcquire (manager : Nat) (key : String) (ttlMs now : Nat) : LockState :=
  let expiresAt := now + ttlMs
  if s.destroyed manager || (s.entries manager key).isSome || lastDate < expiresAt then s
  else
    match (s.rows key).filter fun row => !isoLe row.expiresAt now with
    | some _ => s
    | none =>
      let fencingToken := nextFence s.value
      { s with
        rows := update s.rows key (some ⟨fencingToken, expiresAt⟩)
        value := fencingToken
        handles := update s.handles s.handleCount ⟨manager, key, fencingToken, expiresAt, false⟩
        handleCount := s.handleCount + 1
        entries := update s.entries manager
          (update (s.entries manager) key (some s.handleCount)) }

def heartbeat (index extendMs now : Nat) : LockState :=
  let handle := s.handles index
  let nextExpiresAt := now + extendMs
  if s.destroyed handle.manager || handle.released || lastDate < nextExpiresAt then s
  else
    match (s.rows handle.lockKey).filter fun row =>
      row.fencingToken = handle.fencingToken && isoLt now row.expiresAt with
    | none => s.markExpired index
    | some row =>
      { s with
        rows := update s.rows handle.lockKey (some { row with expiresAt := nextExpiresAt })
        handles := update s.handles index { handle with expiresAt := nextExpiresAt } }

/-- `existing` is the row that the first statement found; other processes may have changed it
since. A lock that has expired is deleted too, and counted as expired. -/
def release (index : Nat) (existing : Option LockRow) : LockState :=
  if (s.handles index).released then s
  else
    match existing with
    | none => s.markExpired index
    | some row =>
      if row.fencingToken = (s.handles index).fencingToken then
        (s.deleteHeld index).setReleased index
      else s

def expiryTimer (index now : Nat) : LockState :=
  let handle := s.handles index
  (s.deleteWhere fun key row =>
    key = handle.lockKey && row.fencingToken = handle.fencingToken &&
      isoLe row.expiresAt now).markExpired index

/-- A turn of the loop of `_cleanupExpired`. -/
def cleanupEntry (manager now : Nat) (s : LockState) (index : Nat) : LockState :=
  if s.entries manager (s.handles index).lockKey = some index &&
      (s.handles index).expiresAt ≤ now then
    s.markExpired index
  else s

def cleanupExpired (manager now : Nat) : LockState :=
  (List.range s.handleCount).foldl (cleanupEntry manager now)
    (s.deleteWhere fun _ row => isoLt row.expiresAt now)

/-- What `_finishDestroy` does with one handle. -/
def destroyHandle (index : Nat) : LockState :=
  let handle := s.handles index
  if s.destroyed handle.manager && s.entries handle.manager handle.lockKey = some index then
    (s.deleteHeld index).setReleased index
  else s

end LockState

/-- The clock was read `ago` before the statement is run. -/
inductive LockEvent
  | tick (ms : Nat)
  | cleanupKey (manager : Nat) (key : String) (ago : Nat)
  | attemptAcquire (manager : Nat) (key : String) (ttlMs ago : Nat)
  | heartbeat (index extendMs ago : Nat)
  | release (index : Nat) (existing : Option LockRow)
  | expiryTimer (index ago : Nat)
  | cleanupExpired (manager ago : Nat)
  | destroy (manager : Nat)
  | destroyHandle (index : Nat)

def LockEvent.handle? : LockEvent → Option Nat
  | .heartbeat index _ _ | .release index _ | .expiryTimer index _ | .destroyHandle index =>
    some index
  | _ => none

namespace LockState

def step (s : LockState) : LockEvent → LockState
  | .tick ms => { s with clock := s.clock + ms }
  | .cleanupKey manager key ago => s.cleanupKey manager key (s.clock - ago)
  | .attemptAcquire manager key ttlMs ago => s.attemptAcquire manager key ttlMs (s.clock - ago)
  | .heartbeat index extendMs ago =>
    if index < s.handleCount then s.heartbeat index extendMs (s.clock - ago) else s
  | .release index existing => if index < s.handleCount then s.release index existing else s
  | .expiryTimer index ago =>
    if index < s.handleCount then s.expiryTimer index (s.clock - ago) else s
  | .cleanupExpired manager ago => s.cleanupExpired manager (s.clock - ago)
  | .destroy manager => { s with destroyed := update s.destroyed manager true }
  | .destroyHandle index => if index < s.handleCount then s.destroyHandle index else s

abbrev run (events : List LockEvent) : LockState :=
  runAll step fresh events

/-- The handle is unreleased and unexpired. -/
def live (s : LockState) (index : Nat) : Bool :=
  index < s.handleCount && !(s.handles index).released && s.clock < (s.handles index).expiresAt

end LockState

end LicoMesh.SqliteLocks
