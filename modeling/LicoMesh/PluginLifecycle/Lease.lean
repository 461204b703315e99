import LicoMesh.Library.Path

namespace LicoMesh.PluginLifecycle

open Library

/-! The lease directory of a plugin's lifecycle state. Every step of an agent is one access to the
file system; the steps of all agents interleave. -/

/-- What `normalizeLockPolicy` accepts. -/
structure LockPolicy where
  leaseDurationMs : Nat
  staleThresholdMs : Nat
  heartbeatIntervalMs : Nat
  intervalBound : 10 ≤ heartbeatIntervalMs
  durationBound : heartbeatIntervalMs < leaseDurationMs
  thresholdBound : leaseDurationMs ≤ staleThresholdMs
  deriving DecidableEq

def pluginLifecycleLockPolicy : LockPolicy where
  leaseDurationMs := 30000
  staleThresholdMs := 45000
  heartbeatIntervalMs := 10000
  intervalBound := by decide
  durationBound := by decide
  thresholdBound := by decide

structure LeaseRecord where
  ownerToken : Nat
  acquiredAtMs : Nat
  policy : LockPolicy
  deriving DecidableEq

structure LeaseDirectory where
  record : LeaseRecord
  modifiedAtMs : Nat
  deriving DecidableEq

structure RecordWrite where
  writer : Nat
  /-- The writer's lease was at the lock path. -/
  owned : Bool

structure LeaseRoot where
  clock : Nat
  lease : Option LeaseDirectory
  /-- The directories that agents have renamed away, each to a path of its own. -/
  aside : List (Nat × LeaseDirectory)
  writes : List RecordWrite

namespace LeaseRoot

variable (root : LeaseRoot)

def isOwnedBy (token : Nat) : Bool :=
  root.lease.any fun directory => directory.record.ownerToken = token

def movedBy (token : Nat) : Option LeaseDirectory :=
  (root.aside.find? fun entry => entry.1 = token).map Prod.snd

def dropAside (token : Nat) : LeaseRoot :=
  { root with aside := root.aside.filter fun entry => entry.1 ≠ token }

/-- `rename` of the lock path to the agent's own path. -/
def moveAside (token : Nat) (directory : LeaseDirectory) : LeaseRoot :=
  { root with lease := none, aside := (token, directory) :: root.aside }

/-- `rename` of the agent's own path to the lock path, which fails when that is taken. -/
def moveBack (token : Nat) : LeaseRoot :=
  match root.lease, root.movedBy token with
  | none, some directory => { root.dropAside token with lease := some directory }
  | _, _ => root

/-- `utimes` on an open directory, wherever it is. -/
def touch (handle : Nat) : LeaseRoot :=
  let touched := fun directory : LeaseDirectory =>
    if directory.record.ownerToken = handle then { directory with modifiedAtMs := root.clock }
    else directory
  { root with
    lease := root.lease.map touched
    aside := root.aside.map fun entry => (entry.1, touched entry.2) }

end LeaseRoot

inductive LeaseOutcome
  | busy
  | invalid
  | durabilityFailed
  | fenceLost
  | released
  deriving DecidableEq

/-- What an agent is about to do. `removeOwnedLock` runs to release a lease, or when the directory
could not be opened, which is the failure then. -/
inductive Phase
  | staging (attempt : Nat)
  | publishing (attempt : Nat) (staged : LeaseDirectory)
  | looking (attempt : Nat)
  | reading (attempt : Nat) (modifiedAtMs : Nat)
  | judging (attempt : Nat) (observed : LeaseDirectory)
  | takingOver (attempt : Nat) (observed : LeaseDirectory)
  | inspecting (attempt : Nat) (observed : LeaseDirectory)
  | restoring
  | discarding (attempt : Nat)
  | opening
  | holding (handle : Nat)
  | removeLooking (opened : Bool)
  | removeReading (opened : Bool)
  | removeMoving (opened : Bool)
  | removeInspecting (opened : Bool)
  | removeRestoring (opened : Bool)
  | removeDiscarding (opened : Bool)
  | ended (outcome : LeaseOutcome)
  | crashed
  deriving DecidableEq

/-- A call of `runExclusive`. -/
structure Agent where
  policy : LockPolicy
  phase : Phase
  /-- The record writes that have passed the fence and are not renamed into place yet. -/
  fenced : Nat
  deriving DecidableEq

abbrev Lifecycle := World LeaseRoot Agent

def Phase.retry (attempt : Nat) : Phase :=
  if attempt < 3 then .staging (attempt + 1) else .ended .busy

/-- How `removeOwnedLock` ends. -/
def Phase.removed (opened : Bool) (outcome : LeaseOutcome) : Phase :=
  .ended (if opened then outcome else .durabilityFailed)

def Agent.advance (agent : Agent) (root : LeaseRoot) (token : Nat) : LeaseRoot × Phase :=
  match agent.phase with
  | .staging attempt =>
    (root, .publishing attempt ⟨⟨token, root.clock, agent.policy⟩, root.clock⟩)
  | .publishing attempt staged =>
    match root.lease with
    | none => ({ root with lease := some staged }, .opening)
    | some _ => (root, .looking attempt)
  | .looking attempt =>
    (root, match root.lease with
      | none => .retry attempt
      | some directory => .reading attempt directory.modifiedAtMs)
  | .reading attempt modifiedAtMs =>
    (root, match root.lease with
      | none => .ended .invalid
      | some directory => .judging attempt ⟨directory.record, modifiedAtMs⟩)
  | .judging attempt observed =>
    (root,
      if observed.modifiedAtMs + observed.record.policy.staleThresholdMs < root.clock then
        .takingOver attempt observed
      else .ended .busy)
  | .takingOver attempt observed =>
    match root.lease with
    | none => (root, .retry attempt)
    | some directory => (root.moveAside token directory, .inspecting attempt observed)
  | .inspecting attempt observed =>
    (root,
      if (root.movedBy token).any fun moved =>
          moved.record.ownerToken = observed.record.ownerToken then .discarding attempt
      else .restoring)
  | .restoring => (root.moveBack token, .ended .busy)
  | .discarding attempt => (root.dropAside token, .retry attempt)
  | .opening =>
    (root, match root.lease with
      | none => .removeLooking false
      | some directory => .holding directory.record.ownerToken)
  | .removeLooking opened =>
    (root, if root.lease.isSome then .removeReading opened else .removed opened .fenceLost)
  | .removeReading opened =>
    (root, match root.lease with
      | none => .removed opened .invalid
      | some directory =>
        if directory.record.ownerToken = token then .removeMoving opened
        else .removed opened .fenceLost)
  | .removeMoving opened =>
    match root.lease with
    | none => (root, .removed opened .fenceLost)
    | some directory => (root.moveAside token directory, .removeInspecting opened)
  | .removeInspecting opened =>
    (root,
      if (root.movedBy token).any fun moved => moved.record.ownerToken = token then
        .removeDiscarding opened
      else .removeRestoring opened)
  | .removeRestoring opened => (root.moveBack token, .removed opened .fenceLost)
  | .removeDiscarding opened => (root.dropAside token, .removed opened .released)
  | .holding handle => (root, .holding handle)
  | .ended outcome => (root, .ended outcome)
  | .crashed => (root, .crashed)

inductive LeaseAction
  | runExclusive (policy : LockPolicy)
  /-- An agent makes its next access to the file system. -/
  | advance (token : Nat)
  | heartbeat (token : Nat)
  /-- A record write of a holder passes the fence, or is refused there. -/
  | assertCommitFence (token : Nat)
  /-- A record write that has passed is renamed into place. -/
  | commitRecord (token : Nat)
  | release (token : Nat)
  | crash (token : Nat)
  | tick (milliseconds : Nat)

def actOn (lifecycle : Lifecycle) (token : Nat) (act : Agent → LeaseRoot × Agent) : Lifecycle :=
  match lifecycle.agents[token]? with
  | none => lifecycle
  | some agent => lifecycle.update token (act agent).1 (act agent).2

def Agent.heartbeat (root : LeaseRoot) (agent : Agent) : LeaseRoot :=
  match agent.phase with
  | .holding handle => root.touch handle
  | _ => root

def Agent.pass (agent : Agent) (root : LeaseRoot) (token : Nat) : Agent :=
  match agent.phase with
  | .holding _ => if root.isOwnedBy token then { agent with fenced := agent.fenced + 1 } else agent
  | _ => agent

def Agent.commit (agent : Agent) (root : LeaseRoot) (token : Nat) : LeaseRoot × Agent :=
  if agent.fenced = 0 ∨ agent.phase = .crashed then (root, agent)
  else
    ({ root with writes := ⟨token, root.isOwnedBy token⟩ :: root.writes },
      { agent with fenced := agent.fenced - 1 })

def Agent.release (agent : Agent) : Agent :=
  match agent.phase with
  | .holding _ => { agent with phase := .removeLooking true }
  | _ => agent

def step (lifecycle : Lifecycle) : LeaseAction → Lifecycle
  | .runExclusive policy => lifecycle.spawn ⟨policy, .staging 0, 0⟩
  | .advance token =>
    actOn lifecycle token fun agent =>
      ((agent.advance lifecycle.shared token).1,
        { agent with phase := (agent.advance lifecycle.shared token).2 })
  | .heartbeat token =>
    actOn lifecycle token fun agent => (agent.heartbeat lifecycle.shared, agent)
  | .assertCommitFence token =>
    actOn lifecycle token fun agent => (lifecycle.shared, agent.pass lifecycle.shared token)
  | .commitRecord token =>
    actOn lifecycle token fun agent => agent.commit lifecycle.shared token
  | .release token => actOn lifecycle token fun agent => (lifecycle.shared, agent.release)
  | .crash token =>
    actOn lifecycle token fun agent =>
      (lifecycle.shared, { agent with phase := .crashed, fenced := 0 })
  | .tick milliseconds =>
    ⟨{ lifecycle.shared with clock := lifecycle.shared.clock + milliseconds },
      lifecycle.agents⟩

def initial : Lifecycle := ⟨⟨0, none, [], []⟩, []⟩

abbrev run (actions : List LeaseAction) : Lifecycle := runAll step initial actions

end LicoMesh.PluginLifecycle
