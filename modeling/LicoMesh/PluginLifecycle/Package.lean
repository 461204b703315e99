import LicoMesh.Library.Path

namespace LicoMesh.PluginLifecycle.Package

/-! The lifecycle of a plugin package: the record in memory, the durable record in custody and the
contribution transactions. The calls on one plugin run one after the other. -/

inductive PackageState
  | declared
  | acquiring
  | acquired
  | verified
  | staged
  | active
  | failed
  | disabled
  | rolledBack
  | removed
  deriving DecidableEq

/-- `TRANSITIONS`. -/
def transitions : PackageState → List PackageState
  | .declared => [.acquiring, .failed, .removed]
  | .acquiring => [.acquired, .failed, .removed]
  | .acquired => [.verified, .failed, .removed]
  | .verified => [.staged, .failed, .disabled, .removed]
  | .staged => [.active, .failed, .rolledBack, .disabled, .removed]
  | .active => [.disabled, .rolledBack, .failed, .removed]
  | .failed => [.declared, .acquiring, .removed, .disabled, .rolledBack]
  | .disabled => [.verified, .acquiring, .removed]
  | .rolledBack => [.verified, .acquiring, .disabled, .removed]
  | .removed => []

structure PackageRecord where
  state : PackageState
  packageDigest : Option String
  generation : Option String
  acquisitionIdempotencyKey : Option String
  activationIdempotencyKey : Option String

def declaredRecord : PackageRecord := ⟨.declared, none, none, none, none⟩

def PackageRecord.transition (record : PackageRecord) (next : PackageState) : Option PackageRecord :=
  if next ∈ transitions record.state then some { record with state := next } else none

def PackageRecord.fail (record : PackageRecord) : PackageRecord := { record with state := .failed }

/-- What custody has in `active/<plugin>.json`. -/
structure ActiveGeneration where
  generation : Option String
  packageDigest : Option String
  state : PackageState

structure Contribution where
  generation : Option String
  packageDigest : Option String

structure Plugin where
  record : PackageRecord
  activeGeneration : Option ActiveGeneration
  contributions : List Contribution

/-- A write to custody; one that throws may have taken effect. -/
inductive Write
  | done
  | failed (applied : Bool)

def Write.applies : Write → Bool
  | .done => true
  | .failed applied => applied

inductive Activation
  /-- The verified package or the transaction is not there. -/
  | unprepared
  | prepareFails
  | commitFails
  | writeFails (applied : Bool)
  | finalizeFails
  | completes
  deriving DecidableEq

/-- The calls, with what the world answers. A key that is not given is none, and `fresh` is a random
key. -/
inductive Operation
  | acquire (sourceValid : Bool) (key : Option String) (fresh : String)
      (archiveDigest : Option String)
  | verify (packageDigest : Option String)
  | stage (ready : Bool) (generation : String) (write : Write)
  | activate (key : Option String) (fresh : String) (activation : Activation)
      (rollsBack : Bool) (compensation : Write)
  | rollback (clear : Write)
  | disable
  | uninstall (clear : Write)
  | recover (read : Bool)
  | restart

namespace Plugin

variable (plugin : Plugin)

def setRecord (record : PackageRecord) : Plugin := { plugin with record := record }

/-- `custody.setActiveGeneration` with the generation and the digest of the record. -/
def setActiveGeneration (state : PackageState) (write : Write) : Plugin :=
  if write.applies then
    { plugin with
      activeGeneration := some ⟨plugin.record.generation, plugin.record.packageDigest, state⟩ }
  else plugin

def clearActiveGeneration (write : Write) : Plugin :=
  if write.applies then { plugin with activeGeneration := none } else plugin

def fail : Plugin := plugin.setRecord plugin.record.fail

def isAcquired (key : Option String) : Bool :=
  key.isSome && plugin.record.acquisitionIdempotencyKey = key &&
    plugin.record.state ∈ [.acquired, .verified, .staged, .active]

def acquire (sourceValid : Bool) (key : Option String) (fresh : String)
    (archiveDigest : Option String) : Plugin :=
  if plugin.isAcquired key then plugin
  else if !sourceValid then plugin.fail
  else
    let moved :=
      if plugin.record.state = .acquiring then some plugin.record
      else if plugin.record.state ∈ [.declared, .failed, .rolledBack, .disabled] then
        plugin.record.transition .acquiring
      else none
    match moved with
    | none => plugin.fail
    | some record =>
      let keyed := { record with acquisitionIdempotencyKey := some (key.getD fresh) }
      match archiveDigest with
      | none => plugin.setRecord keyed.fail
      | some digest =>
        let fetched := { keyed with packageDigest := some digest }
        plugin.setRecord ((fetched.transition .acquired).getD fetched.fail)

def verify (packageDigest : Option String) : Plugin :=
  if plugin.record.state ∈ [.acquired, .verified] ∧ plugin.record.packageDigest ≠ none then
    match packageDigest with
    | none => plugin.fail
    | some digest =>
      let checked := { plugin.record with packageDigest := some digest }
      plugin.setRecord
        (if checked.state = .verified then checked
        else (checked.transition .verified).getD checked.fail)
  else plugin.fail

def stage (ready : Bool) (generation : String) (write : Write) : Plugin :=
  if plugin.record.state = .verified ∧ plugin.record.packageDigest ≠ none ∧ ready = true then
    let numbered := plugin.setRecord { plugin.record with generation := some generation }
    let written := numbered.setActiveGeneration .staged write
    match write with
    | .failed _ => written.fail
    | .done => written.setRecord ((written.record.transition .staged).getD written.record.fail)
  else plugin.fail

/-- The error path of an activation, which undoes the transaction when there is one. -/
def abandon (rollsBack : Bool) (compensation : Write) : Plugin :=
  let undone := if rollsBack then { plugin with contributions := plugin.contributions.tail }
    else plugin
  let compensated :=
    if plugin.record.generation ≠ none ∧ plugin.record.packageDigest ≠ none then
      undone.setActiveGeneration .staged compensation
    else undone
  compensated.fail

def commit : Plugin :=
  { plugin with
    contributions :=
      ⟨plugin.record.generation, plugin.record.packageDigest⟩ :: plugin.contributions }

def isActivated (key : Option String) : Bool :=
  key.isSome && plugin.record.activationIdempotencyKey = key && plugin.record.state = .active

def activate (key : Option String) (fresh : String) (activation : Activation) (rollsBack : Bool)
    (compensation : Write) : Plugin :=
  if plugin.isActivated key then plugin
  else if plugin.record.state ≠ .staged then plugin.abandon false compensation
  else
    let keyed := plugin.setRecord
      { plugin.record with activationIdempotencyKey := some (key.getD fresh) }
    match activation with
    | .unprepared | .prepareFails | .commitFails => keyed.abandon false compensation
    | .writeFails applied =>
      (keyed.commit.setActiveGeneration .active (.failed applied)).abandon rollsBack compensation
    | .finalizeFails =>
      let written := keyed.commit.setActiveGeneration .active .done
      (written.setRecord ((written.record.transition .active).getD written.record)).abandon
        rollsBack compensation
    | .completes =>
      let written := keyed.commit.setActiveGeneration .active .done
      written.setRecord ((written.record.transition .active).getD written.record)

def rollback (clear : Write) : Plugin :=
  let moved := if plugin.record.state = .rolledBack then some plugin.record
    else plugin.record.transition .rolledBack
  match moved with
  | none => plugin
  | some record => (plugin.setRecord { record with generation := none }).clearActiveGeneration clear

def disable : Plugin :=
  match plugin.record.transition .disabled with
  | none => plugin
  | some record => plugin.setRecord record

def uninstall (clear : Write) : Plugin :=
  match plugin.record.transition .removed with
  | none => plugin
  | some record =>
    (plugin.setRecord { record with packageDigest := none, generation := none }).clearActiveGeneration
      clear

def recover : Plugin :=
  let durable := plugin.activeGeneration.filter fun active => active.packageDigest.isSome
  match durable with
  | none =>
    if plugin.record.state = .staged ∨ plugin.record.state = .acquiring then
      plugin.setRecord { plugin.record.fail with generation := none }
    else plugin
  | some active =>
    plugin.setRecord
      { plugin.record with
        packageDigest := active.packageDigest
        generation := active.generation
        state := if active.state = .active ∨ active.state = .staged then active.state
          else plugin.record.state }

def restart : Plugin := (plugin.setRecord declaredRecord).recover

end Plugin

def step (plugin : Plugin) : Operation → Plugin
  | .acquire sourceValid key fresh archiveDigest =>
    plugin.acquire sourceValid key fresh archiveDigest
  | .verify packageDigest => plugin.verify packageDigest
  | .stage ready generation write => plugin.stage ready generation write
  | .activate key fresh activation rollsBack compensation =>
    plugin.activate key fresh activation rollsBack compensation
  | .rollback clear => plugin.rollback clear
  | .disable => plugin.disable
  | .uninstall clear => plugin.uninstall clear
  | .recover read => if read then plugin.recover else plugin
  | .restart => plugin.restart

def initial : Plugin := ⟨declaredRecord, none, []⟩

end LicoMesh.PluginLifecycle.Package
