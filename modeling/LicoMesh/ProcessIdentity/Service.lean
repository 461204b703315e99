import LicoMesh.Library.Path
import LicoMesh.PrivateFile
import LicoMesh.ProcessIdentity.Operations

namespace LicoMesh.ProcessIdentity

open WorkQueue

abbrev CallId := Nat

abbrev SealingKey := Nat

structure SealedRecord where
  key : SealingKey
  state : State

inductive Entry
  | reads (reading : Instant → State → Reading)
  | mutates (body : Instant → State → Body)

/-- Where a call is. The two files are read and written one at a time. -/
inductive Phase
  | waiting (blockers : List CallId) (entry : Entry)
  | reading (key : Option (Option SealingKey)) (sealed : Option (Option SealedRecord))
      (entry : Entry)
  | storing (record : SealedRecord) (keyStored : Bool) (entry : Entry)
  | ready (entry : Entry)
  | acting (resume : Reply → Instant → State → Body)
  | deciding (resume : Reply → Reading)
  | saving (record : SealedRecord) (keyStored : Bool) (rollback : Option SealedRecord)
      (decision : Decision)
  | returned (decision : Decision)
  | threw

structure Call where
  operation : Operation
  phase : Phase
  ranAt : Option Instant := none

/-- `memory` is `record.sealingKeyBase64` and `state` once `loaded` is set. -/
structure Config where
  now : Instant
  memory : Option SealedRecord
  keyFile : Option SealingKey
  stateFile : Option SealedRecord
  mutationQueue : List CallId
  calls : CallId → Option Call

def Config.start (now : Instant) (keyFile : Option SealingKey)
    (stateFile : Option SealedRecord) : Config where
  now := now
  memory := none
  keyFile := keyFile
  stateFile := stateFile
  mutationQueue := []
  calls := fun _ => none

inductive Event
  | tick (elapsed : Nat)
  | call (id : CallId) (operation : Operation)
  | start (id : CallId)
  | readKey (id : CallId)
  | readState (id : CallId)
  | readFails (id : CallId)
  | assign (id : CallId) (freshKey : SealingKey) (freshIdentity : ServerIdentity)
  | store (id : CallId) (outcome : WriteOutcome)
  | run (id : CallId)
  | resume (id : CallId) (reply : Reply)

namespace Config

variable (config : Config)

def phase (id : CallId) : Option Phase := (config.calls id).map Call.phase

def setPhase (id : CallId) (phase : Phase) : Config :=
  { config with
    calls := Function.update config.calls id
      ((config.calls id).map fun call => { call with phase := phase }) }

def settle (id : CallId) (phase : Phase) : Config :=
  { config.setPhase id phase with mutationQueue := config.mutationQueue.erase id }

def openCall (id : CallId) (operation : Operation) (program : Program) : Config :=
  let add := fun phase => Function.update config.calls id
    (some { operation := operation, phase := phase })
  match program with
  | .returns decision => { config with calls := add (.returned decision) }
  | .reads reading =>
    { config with calls := add (.waiting config.mutationQueue (.reads reading)) }
  | .mutates body =>
    { config with
      calls := add (.waiting config.mutationQueue (.mutates body))
      mutationQueue := config.mutationQueue ++ [id] }

def Unblocked (blockers : List CallId) : Bool := blockers.all (· ∉ config.mutationQueue)

/-- What `readRecord` and `openState` make of the two files. -/
def loadedRecord (freshKey : SealingKey) (freshIdentity : ServerIdentity) :
    Option (Option SealingKey) → Option (Option SealedRecord) →
      Option (Except SealingKey SealedRecord)
  | some none, _ => some (.ok ⟨freshKey, .fresh freshIdentity⟩)
  | _, some none => some (.ok ⟨freshKey, .fresh freshIdentity⟩)
  | some (some key), some (some sealed) =>
    if sealed.key = key then some (.ok ⟨key, normalizeState sealed.state⟩)
    else some (.error key)
  | _, _ => none

def runBody (id : CallId) (memory : SealedRecord) : Body → Config
  | .returns decision => config.settle id (.returned decision)
  | .throws => config.settle id .threw
  | .awaits resume => config.setPhase id (.acting resume)
  | .saves next rollsBack decision =>
    let record : SealedRecord := ⟨memory.key, normalizeState next⟩
    { config.setPhase id
        (.saving record false (if rollsBack then some memory else none) decision) with
      memory := some record }

def runReading (id : CallId) : Reading → Config
  | .returns decision => config.setPhase id (.returned decision)
  | .throws => config.setPhase id .threw
  | .awaits resume => config.setPhase id (.deciding resume)
  | .mutates body =>
    { config.setPhase id (.waiting config.mutationQueue (.mutates body)) with
      mutationQueue := config.mutationQueue ++ [id] }

def markRun (id : CallId) : Config :=
  { config with
    calls := Function.update config.calls id
      ((config.calls id).map fun call => { call with ranAt := some config.now }) }

def failSave (id : CallId) (rollback : Option SealedRecord) : Config :=
  { config.settle id .threw with memory := rollback.or config.memory }

def write (outcome : WriteOutcome) (record : SealedRecord) (keyStored : Bool) : Config :=
  if !outcome.renames then config
  else if keyStored then { config with stateFile := some record }
  else { config with keyFile := some record.key }

end Config

/-- One step; `none` when the event is not enabled. -/
def step (env : ServiceEnv) (config : Config) : Event → Option Config
  | .tick elapsed => some { config with now := config.now + elapsed }
  | .call id operation =>
    match config.calls id with
    | some _ => none
    | none => some (config.openCall id operation (operation.program env))
  | .start id =>
    match config.phase id with
    | some (.waiting blockers entry) =>
      if !config.Unblocked blockers then none
      else if config.memory.isSome then some (config.setPhase id (.ready entry))
      else some (config.setPhase id (.reading none none entry))
    | _ => none
  | .readKey id =>
    match config.phase id with
    | some (.reading none sealed entry) =>
      some (config.setPhase id (.reading (some config.keyFile) sealed entry))
    | _ => none
  | .readState id =>
    match config.phase id with
    | some (.reading key none entry) =>
      some (config.setPhase id (.reading key (some config.stateFile) entry))
    | _ => none
  | .readFails id =>
    match config.phase id with
    | some (.reading _ _ _) => some (config.settle id .threw)
    | _ => none
  | .assign id freshKey freshIdentity =>
    match config.phase id with
    | some (.reading key sealed entry) =>
      match Config.loadedRecord freshKey freshIdentity key sealed with
      | none => none
      | some (.error key) =>
        -- `record` is replaced before the sealed state fails to open.
        let memory := config.memory.map fun memory => { memory with key := key }
        some ({ config with memory := memory }.settle id .threw)
      | some (.ok record) =>
        let loaded := { config with memory := some record }
        match config.stateFile with
        | some _ => some (loaded.setPhase id (.ready entry))
        | none => some (loaded.setPhase id (.storing record false entry))
    | _ => none
  | .store id outcome =>
    match config.phase id with
    | some (.storing record keyStored entry) =>
      let written := config.write outcome record keyStored
      if outcome.fails then some (written.settle id .threw)
      else if keyStored then some (written.setPhase id (.ready entry))
      else some (written.setPhase id (.storing record true entry))
    | some (.saving record keyStored rollback decision) =>
      let written := config.write outcome record keyStored
      if outcome.fails then some (written.failSave id rollback)
      else if keyStored then some (written.settle id (.returned decision))
      else some (written.setPhase id (.saving record true rollback decision))
    | _ => none
  | .run id =>
    match config.phase id, config.memory with
    | some (.ready (.mutates body)), some memory =>
      some ((config.markRun id).runBody id memory (body config.now memory.state))
    | some (.ready (.reads reading)), some memory =>
      some (config.runReading id (reading config.now memory.state))
    | _, _ => none
  | .resume id reply =>
    match config.phase id, config.memory with
    | some (.acting resume), some memory =>
      some (config.runBody id memory (resume reply config.now memory.state))
    | some (.deciding resume), _ => some (config.runReading id (resume reply))
    | _, _ => none

def Steps (env : ServiceEnv) (config : Config) (event : Event) (next : Config) : Prop :=
  step env config event = some next

def runEvents (env : ServiceEnv) : Config → List Event → Option Config
  | config, [] => some config
  | config, event :: rest =>
    (step env config event).bind fun next => runEvents env next rest

def Config.state (config : Config) : Option State := config.memory.map SealedRecord.state

def Config.returned (config : Config) (id : CallId) : Option Decision :=
  match config.phase id with
  | some (.returned decision) => some decision
  | _ => none

theorem Config.phase_of_returned {config : Config} {id : CallId}
    (returned : config.returned id = some decision) :
    config.phase id = some (.returned decision) := by
  unfold Config.returned at returned
  split at returned
  · rename_i found
    rw [found, Option.some.inj returned]
  · cases returned

def sampleDigests : List (String × String) :=
  [("\x7b\"correlation\":\"\",\"device\":\"\",\"process\":\"\",\"subject\":\"s\",\"target" ++
      "\":\"target-1\",\"tenant\":\"t\",\"workspace\":\"\"\x7d",
      "1971991d6836d16f5cdce9abc3f15ec1a218fc4194e58526171b63ba887a7cfe"),
    ("[\"owner-a\",\"aaaaaaaaaaaaaaaaaaaaaaaaaaaaaaaaaaaaaaaaaaaaaaaaaaaaaaaaaaaaaaaa\",\"" ++
      "key-1\"]",
      "246f846635f0e369e9e11e359cac3f6fe379259951b3b26988019c263cfa2c3a"),
    ("1971991d6836d16f5cdce9abc3f15ec1a218fc4194e58526171b63ba887a7cfe\u0000246f846635f0e3" ++
      "69e9e11e359cac3f6fe379259951b3b26988019c263cfa2c3a",
      "0189f352ee875836a78138387170033b60b4a6469b75b32990e1033b36b91e6a"),
    ("procbind_0189f352ee875836a78138387170033b\u00001971991d6836d16f5cdce9abc3f15ec1a218f" ++
      "c4194e58526171b63ba887a7cfe",
      "b7d43db35a573c9f21847d4696cd14cea21d5399e14c54b616fe43894ba387ff"),
    ("\x7b\"bindingRef\":\"binding_b7d43db35a573c9f21847d4696cd14ce\",\"contextDigest\":\"" ++
      "1971991d6836d16f5cdce9abc3f15ec1a218fc4194e58526171b63ba887a7cfe\",\"ownerGeneration" ++
      "Digest\":\"aaaaaaaaaaaaaaaaaaaaaaaaaaaaaaaaaaaaaaaaaaaaaaaaaaaaaaaaaaaaaaaa\",\"owne" ++
      "rId\":\"owner-a\",\"processIdentityRef\":\"procbind_0189f352ee875836a78138387170033b" ++
      "\",\"receiptKind\":\"owner-process-binding-revocation\",\"revokedAt\":\"2023-11-14T2" ++
      "2:13:20.000Z\",\"serverId\":\"srv_sample\",\"serverKeyId\":\"srvkey_sample\",\"statu" ++
      "s\":\"revoked\",\"targetRef\":\"target-1\"\x7d",
      "4751abadff509904b95da41c4e024ac86d9ec2d46ee673234836d4da16579b1c"),
    ("\x7b\"bindingRef\":\"binding_b7d43db35a573c9f21847d4696cd14ce\",\"contextDigest\":\"" ++
      "1971991d6836d16f5cdce9abc3f15ec1a218fc4194e58526171b63ba887a7cfe\",\"ownerGeneration" ++
      "Digest\":\"aaaaaaaaaaaaaaaaaaaaaaaaaaaaaaaaaaaaaaaaaaaaaaaaaaaaaaaaaaaaaaaa\",\"owne" ++
      "rId\":\"owner-a\",\"processIdentityRef\":\"procbind_0189f352ee875836a78138387170033b" ++
      "\",\"receiptKind\":\"owner-process-bindings-revocation\",\"revokedAt\":\"2023-11-14T" ++
      "22:13:20.000Z\",\"targetRef\":\"target-1\"\x7d",
      "e3d3bd8d17d35be91b97c738ba380a7f391933f668e3bab5df5ab7eacf29479b"),
    ("",
      "e3b0c44298fc1c149afbf4c8996fb92427ae41e4649b934ca495991b7852b855"),
    ("cidpkg_a\u0000nonce-1",
      "f8e25f4739d36e581ec63aece67d90ac80e9cf22cf78fd1d3b0550e7d4ea4703")]

def sampleEnv : ServiceEnv where
  sha256 := fun text => digestOfHex ((sampleDigests.lookup text).getD "")
  verifySignature := fun _ _ _ => false
  dateParse := fun _ => none
  isoTime := fun _ => "2023-11-14T22:13:20.000Z"

def sampleIdentity : ServerIdentity := ⟨"srv_sample", "srvkey_sample"⟩

def sampleFile : SealedRecord := ⟨7, .fresh sampleIdentity⟩

def sampleStart : Config := .start 1700000000000 (some 7) (some sampleFile)

def sampleGeneration : String := String.ofList (List.replicate 64 'a')

def loadEvents (id : CallId) : List Event :=
  [.start id, .readKey id, .readState id, .assign id 0 sampleIdentity]

def saveEvents (id : CallId) : List Event := [.run id, .store id .written, .store id .written]

end LicoMesh.ProcessIdentity
