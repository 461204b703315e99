import LicoMesh.UpstreamAudience.Parity

namespace LicoMesh.UpstreamCatalog

open WorkQueue UpstreamAudience List Option

/-! What is compiled from a manifest snapshot: the operations of its services, and for each grant
the partition of the operations that it sees. -/

variable {env : CatalogEnv}

/-- What the compilers leave open: digests, the order of `localeCompare` and the audience decision
for each purpose. -/
structure CatalogEnv extends AudienceEnv where
  localeAtMost : String → String → Bool
  fingerprintDigest : String → String → AudienceOperation → String
  partitionDigest : String → List String → String
  serverIdentity : String
  discovers : Grant → String → AudienceOperation → Option Service → Option TagStore →
    AudienceDecision
  executes : Grant → String → AudienceOperation → Option Service → Option TagStore →
    AudienceDecision

structure ServiceEntry where
  service : Service
  operations : List Operation
  manifestDigest : String
  serviceRevision : Nat

structure Snapshot where
  setRevision : Int
  setDigest : String
  serviceEntries : List (String × ServiceEntry)

structure CatalogOperation where
  id : String
  toolId : String
  serviceId : String
  operationKey : String
  operation : AudienceOperation

structure OperationProjection where
  sourceRevision : Int
  sourceDigest : String
  operations : List CatalogOperation

def upstreamProjectedOperationId (env : CatalogEnv) (serviceId operationKey : String) : String :=
  "upstream_operation." ++ env.hash (serviceId ++ "\x00" ++ operationKey)

def publishedOperations (env : CatalogEnv) (snapshot : Snapshot) : List CatalogOperation :=
  snapshot.serviceEntries.flatMap fun (serviceId, entry) =>
    if entry.service.disabled then []
    else entry.operations.map fun operation =>
      { id := upstreamProjectedOperationId env serviceId operation.operationKey
        toolId := "upstream." ++ safePublicToolSegment serviceId ++ "." ++
          safePublicToolSegment operation.operationKey
        serviceId := serviceId
        operationKey := operation.operationKey
        operation := projectedOperation env.toAudienceEnv entry.service operation }

/-- Refused when two operations share their id or their tool. -/
def compileUpstreamOperationProjection (env : CatalogEnv) (snapshot : Snapshot) :
    Option OperationProjection :=
  let operations := publishedOperations env snapshot
  if (operations.map (·.id)).Nodup ∧ (operations.map (·.toolId)).Nodup then
    some
      { sourceRevision := snapshot.setRevision
        sourceDigest := snapshot.setDigest
        operations := operations.mergeSort fun left right => env.localeAtMost left.id right.id }
  else none

theorem compileUpstreamOperationProjection_source
    (compiled : compileUpstreamOperationProjection env snapshot = some projection) :
    projection.sourceRevision = snapshot.setRevision ∧
      projection.sourceDigest = snapshot.setDigest := by
  simp only [compileUpstreamOperationProjection, ite_none_right_eq_some, some.injEq] at compiled
  obtain ⟨-, rfl⟩ := compiled
  exact ⟨rfl, rfl⟩

structure Partition where
  grantIdDigest : String
  audienceDigest : String
  visibleOperationIds : List String

structure AudienceFacts where
  sourceRevision : Int
  sourceDigest : String
  catalogFingerprint : String
  policyRevision : Nat
  tagRevision : Nat
  partitions : List (String × String × List String)
  deriving DecidableEq

/-- `projectionDigest` stands for its digest: digests of different facts differ. -/
structure AudienceProjection where
  sourceRevision : Int
  sourceDigest : String
  catalogFingerprint : String
  audienceRevision : Nat
  projectionDigest : AudienceFacts
  affectedPartitions : List String
  partitions : List (String × Partition)
  operationToPartitions : List (String × List String)
  operationFingerprints : List (String × String)
  replayed : Bool

/-- What an audience is compiled from besides a snapshot; a source that fails is `none`. -/
structure AudienceSources where
  catalogFingerprint : String
  baseOperations : List CatalogOperation
  grants : Option (List Grant)
  tagStore : Option TagStore
  policyRevision : Nat
  tagRevision : Nat

def sortTexts (values : List String) : List String :=
  values.mergeSort fun left right => decide (left ≤ right)

def operationAudienceFingerprint (env : CatalogEnv) (operation : CatalogOperation) : String :=
  env.fingerprintDigest (toText operation.id) (toText operation.toolId)
    { operation.operation with
      requiredScopes := sortTexts (uniqueStrings operation.operation.requiredScopes)
      toolsets := sortTexts (uniqueStrings operation.operation.toolsets) }

def partitionAudienceDigest (env : CatalogEnv) (grantId : String)
    (visibleOperationIds : List String) : String :=
  env.partitionDigest (toText grantId) (sortTexts visibleOperationIds)

def opaqueAudiencePartitionKey (env : CatalogEnv) (grantId audienceDigest : String) : String :=
  env.hash (toText env.serverIdentity ++ "\x00" ++ toText grantId ++ "\x00" ++
    toText audienceDigest)

def visibleOperations (env : CatalogEnv) (services : List (String × ServiceEntry))
    (tagStore : Option TagStore) (grant : Grant) : List CatalogOperation → Option (List String)
  | [] => some []
  | operation :: rest =>
    let serviceId := toText operation.serviceId
    let service := (services.reverse.lookup serviceId).map (·.service)
    let decision := env.discovers grant operation.id operation.operation service tagStore
    let execution := env.executes grant operation.id operation.operation service tagStore
    if decision.allowed ≠ execution.allowed ∨ decision.reasonCode ≠ execution.reasonCode then none
    else (visibleOperations env services tagStore grant rest).map fun visible =>
      if decision.allowed then operation.id :: visible else visible

def setEntry {β : Type} (key : String) (value : β) : List (String × β) → List (String × β)
  | [] => [(key, value)]
  | entry :: rest =>
    if entry.1 = key then (key, value) :: rest else entry :: setEntry key value rest

def partitionOf (env : CatalogEnv) (grantId : String) (visible : List String) :
    String × Partition :=
  let audienceDigest := partitionAudienceDigest env grantId visible
  (opaqueAudiencePartitionKey env grantId audienceDigest,
    ⟨env.hash grantId, audienceDigest, visible⟩)

def compilePartitions (env : CatalogEnv) (services : List (String × ServiceEntry))
    (tagStore : Option TagStore) (operations : List CatalogOperation) :
    List Grant → List (String × Partition) → Option (List (String × Partition))
  | [], partitions => some partitions
  | grant :: rest, partitions =>
    let grantId := toText grant.id
    if grant.revoked ∨ grantId = "" then
      compilePartitions env services tagStore operations rest partitions
    else (visibleOperations env services tagStore grant operations).bind fun visible =>
      let (key, partition) := partitionOf env grantId (sortTexts visible)
      compilePartitions env services tagStore operations rest (setEntry key partition partitions)

def indexOperations (partitions : List (String × Partition)) : List (String × List String) :=
  partitions.foldl (fun index (key, partition) =>
    partition.visibleOperationIds.foldl (fun index operationId =>
      setEntry operationId (((index.lookup operationId).getD []) ++ [key]) index) index) []

def changedOperationIds (previous next : List (String × String)) : List String :=
  (next.filter fun (operationId, fingerprint) =>
      previous.lookup operationId ≠ some fingerprint).map (·.1) ++
    (previous.map (·.1)).filter fun operationId => (next.lookup operationId).isNone

def affectedPartitions (previous : Option AudienceProjection)
    (partitions : List (String × Partition)) (operationToPartitions : List (String × List String))
    (operationFingerprints : List (String × String)) : List String :=
  let previousPartitions := (previous.map (·.partitions)).getD []
  let previousIndex := (previous.map (·.operationToPartitions)).getD []
  let previousFingerprints := (previous.map (·.operationFingerprints)).getD []
  let nextKeys := partitions.map (·.1)
  let previousKeys := previousPartitions.map (·.1)
  let changed := (changedOperationIds previousFingerprints operationFingerprints).flatMap
    fun operationId => ((operationToPartitions.lookup operationId).getD []) ++
      ((previousIndex.lookup operationId).getD [])
  let redigested := partitions.filterMap fun (key, partition) =>
    match previousPartitions.lookup key with
    | some prior => if prior.audienceDigest ≠ partition.audienceDigest then some key else none
    | none => none
  sortTexts ((nextKeys.filter (· ∉ previousKeys) ++ previousKeys.filter (· ∉ nextKeys) ++
    changed ++ redigested).eraseDups)

def compileAudienceProjection (env : CatalogEnv) (snapshot : Snapshot)
    (projectedOperations : List CatalogOperation) (sources : AudienceSources)
    (previousProjection : Option AudienceProjection) : Option AudienceProjection :=
  if snapshot.setRevision < 0 then none
  else sources.grants.bind fun grants =>
    (compilePartitions env snapshot.serviceEntries sources.tagStore projectedOperations grants
      []).map fun compiled =>
      let partitions := compiled.mergeSort fun left right => env.localeAtMost left.1 right.1
      let projectionDigest : AudienceFacts :=
        { sourceRevision := snapshot.setRevision
          sourceDigest := snapshot.setDigest
          catalogFingerprint := sources.catalogFingerprint
          policyRevision := sources.policyRevision
          tagRevision := sources.tagRevision
          partitions := partitions.map fun (key, partition) =>
            (key, partition.audienceDigest, partition.visibleOperationIds) }
      let previousRevision := (previousProjection.map (·.audienceRevision)).getD 0
      let unchanged := previousProjection.map (·.projectionDigest) = some projectionDigest ∧
        0 < previousRevision
      let operationToPartitions := indexOperations compiled
      let operationFingerprints := projectedOperations.map fun operation =>
        (toText operation.id, operationAudienceFingerprint env operation)
      { sourceRevision := snapshot.setRevision
        sourceDigest := toText snapshot.setDigest
        catalogFingerprint := toText sources.catalogFingerprint
        audienceRevision := if unchanged then previousRevision else previousRevision + 1
        projectionDigest := projectionDigest
        affectedPartitions :=
          affectedPartitions previousProjection partitions operationToPartitions
            operationFingerprints
        partitions := partitions
        operationToPartitions := operationToPartitions
        operationFingerprints := operationFingerprints
        replayed := unchanged }

structure Succeeds (previous : Option AudienceProjection) (next : AudienceProjection) : Prop where
  replay : next.replayed = true → ∃ prior, previous = some prior ∧
    next.audienceRevision = prior.audienceRevision ∧ next.projectionDigest = prior.projectionDigest
  advance : next.replayed = false →
    next.audienceRevision = ((previous.map (·.audienceRevision)).getD 0) + 1

theorem compileAudienceProjection_succeeds {next : AudienceProjection}
    (compiled : compileAudienceProjection env snapshot projectedOperations sources previous =
      some next) : Succeeds previous next := by
  unfold compileAudienceProjection at compiled
  obtain ⟨-, compiled⟩ := Option.ite_none_left_eq_some.mp compiled
  obtain ⟨grants, -, compiled⟩ := Option.bind_eq_some_iff.mp compiled
  obtain ⟨partitions, -, rfl⟩ := Option.map_eq_some_iff.mp compiled
  constructor
  · intro replayed
    have unchanged := of_decide_eq_true replayed
    obtain ⟨prior, rfl, priorDigest⟩ := Option.map_eq_some_iff.mp unchanged.1
    exact ⟨prior, rfl, if_pos unchanged, priorDigest.symm⟩
  · intro fresh
    exact if_neg (of_decide_eq_false fresh)

variable {serviceId serviceId' operationKey operationKey' tool tool' : String}

/-! A capability id is joined from the cleaned id of the service and the cleaned key of the
operation or name of the tool. -/

theorem isSegmentChar_of_mem_replaceRuns (member : c ∈ replaceRuns chars) :
    isSegmentChar c = true := by
  have dash : isSegmentChar '-' = true := rfl
  fun_induction replaceRuns chars <;> grind

theorem isSegmentChar_of_mem_segment (member : c ∈ (safePublicToolSegment tool).toList) :
    isSegmentChar c = true := by
  unfold safePublicToolSegment at member
  dsimp only at member
  split at member
  · have default : ("service".toList.all isSegmentChar) = true := by decide +kernel
    exact all_eq_true.mp default c member
  · rw [String.toList_ofList] at member
    have stripped := mem_reverse.mp (mem_of_mem_take member)
    have trailing := mem_reverse.mp (dropWhile_sublist _ |>.subset stripped)
    exact isSegmentChar_of_mem_replaceRuns (dropWhile_sublist _ |>.subset trailing)

theorem colon_notMem_segment (value : String) : ':' ∉ (safePublicToolSegment value).toList :=
  fun member => absurd (isSegmentChar_of_mem_segment member) (by decide)

theorem joined_inj {separator : Char} (free : separator ∉ first) (free' : separator ∉ first')
    (same : first ++ separator :: second = first' ++ separator :: second') :
    first = first' ∧ second = second' := by
  have untilSeparator {first second : List Char} (free : separator ∉ first) :
      (first ++ separator :: second).takeWhile (· ≠ separator) = first := by
    rw [takeWhile_append_of_pos fun c member =>
      decide_eq_true (ne_of_mem_of_not_mem member free)]
    simp
  obtain rfl : first = first' := by
    rw [← untilSeparator free, same, untilSeparator free']
  simpa using same

/-- `capabilityOperationSegment` of an operation that names no tool itself; no tool is empty. -/
def capabilityOperationSegment (operationKey upstreamToolName : String) : String :=
  let upstreamToolName := toText upstreamToolName
  if upstreamToolName ≠ "" && toText operationKey = "tools/call" then
    "tools-call-" ++ safePublicToolSegment upstreamToolName
  else safePublicToolSegment
    (if operationKey ≠ "" then operationKey
      else if upstreamToolName ≠ "" then upstreamToolName else "default")

/-- An operation of a service, or the tool of that name that the MCP service lists. -/
structure Target where
  serviceId : String
  operationKey : String
  tool : Option String
  deriving DecidableEq

open Target

def Target.capabilityId (target : Target) : String :=
  "cap:upstream:" ++ safePublicToolSegment target.serviceId ++ ":" ++
    capabilityOperationSegment target.operationKey (target.tool.getD "")

theorem segment_operation (operationKey : String) : capabilityOperationSegment operationKey "" =
      safePublicToolSegment (if operationKey = "" then "default" else operationKey) := by
  have noTool : toText "" = "" := by decide +kernel
  simp only [capabilityOperationSegment, noTool, ne_eq, not_true_eq_false, decide_false,
    Bool.false_and, Bool.false_eq_true, if_false, ite_not]

theorem capabilityId_inj {target target' : Target}
    (same : target.capabilityId = target'.capabilityId) :
    safePublicToolSegment target.serviceId = safePublicToolSegment target'.serviceId ∧
      capabilityOperationSegment target.operationKey (target.tool.getD "") =
        capabilityOperationSegment target'.operationKey (target'.tool.getD "") := by
  have lists := congrArg String.toList same
  simp only [capabilityId, String.toList_append, append_assoc] at lists
  obtain ⟨services, segments⟩ := joined_inj (colon_notMem_segment _) (colon_notMem_segment _)
    (append_cancel_left lists)
  exact ⟨String.toList_inj.mp services, String.toList_inj.mp segments⟩

variable {snapshot : Snapshot} {tools : String → List String}

/-- What the enabled services of a snapshot offer; `tools` is what an MCP service lists. -/
def Offered (snapshot : Snapshot) (tools : String → List String) (target : Target) : Prop :=
  ∃ pair ∈ snapshot.serviceEntries, pair.2.service.disabled = false ∧
    pair.2.service.serviceId = target.serviceId ∧
      match target.tool with
      | none => ∃ operation ∈ pair.2.operations, operation.operationKey = target.operationKey
      | some tool => target.operationKey = "tools/call" ∧ tool ≠ "" ∧
          ∃ name ∈ tools target.serviceId, toText name = tool

theorem Offered.operationKey_of_tool
    (offered : Offered snapshot tools ⟨serviceId, operationKey, some tool⟩) :
    operationKey = "tools/call" := by
  obtain ⟨_, _, _, _, call, _⟩ := offered
  exact call

/-- The entries of a manifest snapshot stand under the ids of their services. -/
def Keyed (snapshot : Snapshot) : Prop :=
  ∀ pair ∈ snapshot.serviceEntries, pair.2.service.serviceId = pair.1

abbrev OfferedOperation (snapshot : Snapshot) (tools : String → List String)
    (serviceId operationKey : String) : Prop :=
  Offered snapshot tools ⟨serviceId, operationKey, none⟩

abbrev OfferedTool (snapshot : Snapshot) (tools : String → List String)
    (serviceId tool : String) : Prop :=
  Offered snapshot tools ⟨serviceId, "tools/call", some tool⟩

/-- Cleaned names stay apart where a compiled projection does not say so. -/
structure CleanNames (snapshot : Snapshot) (tools : String → List String) : Prop where
  ofTools : ∀ serviceId tool serviceId' tool', OfferedTool snapshot tools serviceId tool →
    OfferedTool snapshot tools serviceId' tool' →
      safePublicToolSegment serviceId = safePublicToolSegment serviceId' →
        safePublicToolSegment tool = safePublicToolSegment tool' →
          serviceId = serviceId' ∧ tool = tool'
  apart : ∀ serviceId operationKey serviceId' tool,
    OfferedOperation snapshot tools serviceId operationKey →
      OfferedTool snapshot tools serviceId' tool →
        safePublicToolSegment serviceId = safePublicToolSegment serviceId' →
          capabilityOperationSegment operationKey "" ≠
            "tools-call-" ++ safePublicToolSegment tool
  unnamed : ∀ serviceId serviceId' operationKey,
    OfferedOperation snapshot tools serviceId "" →
      OfferedOperation snapshot tools serviceId' operationKey →
        safePublicToolSegment serviceId = safePublicToolSegment serviceId' →
          safePublicToolSegment operationKey = "default" → operationKey = ""

theorem segment_tool (offered : OfferedTool snapshot tools serviceId tool) :
    capabilityOperationSegment "tools/call" tool = "tools-call-" ++ safePublicToolSegment tool := by
  obtain ⟨_, _, _, _, _, nonempty, name, _, rfl⟩ := offered
  have call : toText "tools/call" = "tools/call" := by decide +kernel
  simp [capabilityOperationSegment, toText_toText, nonempty, call]

theorem offered_toolId (env : CatalogEnv) (keyed : Keyed snapshot)
    (offered : OfferedOperation snapshot tools serviceId operationKey) :
    ∃ operation ∈ publishedOperations env snapshot, operation.serviceId = serviceId ∧
      operation.operationKey = operationKey ∧ operation.toolId = "upstream." ++
        safePublicToolSegment serviceId ++ "." ++ safePublicToolSegment operationKey := by
  obtain ⟨pair, listed, enabled, rfl, operation, configured, rfl⟩ := offered
  rw [keyed pair listed]
  refine ⟨⟨upstreamProjectedOperationId env pair.1 operation.operationKey, _, pair.1, _,
    projectedOperation env.toAudienceEnv pair.2.service operation⟩,
    mem_flatMap.mpr ⟨pair, listed, ?_⟩, rfl, rfl, rfl⟩
  dsimp only
  rw [enabled]
  exact mem_map_of_mem configured

/-- A projection that compiles keeps apart the operations with a key of their own. -/
theorem operation_of_segments (keyed : Keyed snapshot)
    (compiled : compileUpstreamOperationProjection env snapshot = some projection)
    (offered : OfferedOperation snapshot tools serviceId operationKey)
    (offered' : OfferedOperation snapshot tools serviceId' operationKey')
    (services : safePublicToolSegment serviceId = safePublicToolSegment serviceId')
    (keys : safePublicToolSegment operationKey = safePublicToolSegment operationKey') :
    serviceId = serviceId' ∧ operationKey = operationKey' := by
  unfold compileUpstreamOperationProjection at compiled
  dsimp only at compiled
  split at compiled
  · rename_i distinct
    obtain ⟨operation, member, rfl, rfl, toolId⟩ := offered_toolId env keyed offered
    obtain ⟨operation', member', rfl, rfl, toolId'⟩ := offered_toolId env keyed offered'
    have same : operation.toolId = operation'.toolId := by rw [toolId, toolId', services, keys]
    rw [inj_on_of_nodup_map distinct.2 member member' same]
    exact ⟨rfl, rfl⟩
  · cases compiled

theorem CleanNames.operations (clean : CleanNames snapshot tools) (keyed : Keyed snapshot)
    (compiled : compileUpstreamOperationProjection env snapshot = some projection)
    (offered : OfferedOperation snapshot tools serviceId operationKey)
    (offered' : OfferedOperation snapshot tools serviceId' operationKey')
    (services : safePublicToolSegment serviceId = safePublicToolSegment serviceId')
    (segments : capabilityOperationSegment operationKey "" =
      capabilityOperationSegment operationKey' "") :
    serviceId = serviceId' ∧ operationKey = operationKey' := by
  apply operation_of_segments keyed compiled offered offered' services
  have default : safePublicToolSegment "default" = "default" := by decide +kernel
  rw [segment_operation, segment_operation] at segments
  split at segments
  · rename_i empty
    subst empty
    split at segments
    · rename_i empty'
      rw [empty']
    · rw [clean.unnamed _ _ _ offered offered' services (segments.symm.trans default)]
  · split at segments
    · rename_i empty'
      subst empty'
      rw [clean.unnamed _ _ _ offered' offered services.symm (segments.trans default)]
    · exact segments

/-- No two offered targets share their capability id exactly when the cleaned names stay apart. -/
theorem capabilityIds_distinct_iff (keyed : Keyed snapshot)
    (compiled : compileUpstreamOperationProjection env snapshot = some projection) :
    (∀ target target', Offered snapshot tools target → Offered snapshot tools target' →
      target.capabilityId = target'.capabilityId → target = target') ↔
        CleanNames snapshot tools := by
  constructor
  · intro distinct
    have ids {target target' : Target}
        (services : safePublicToolSegment target.serviceId =
          safePublicToolSegment target'.serviceId)
        (segments : capabilityOperationSegment target.operationKey (target.tool.getD "") =
          capabilityOperationSegment target'.operationKey (target'.tool.getD "")) :
        target.capabilityId = target'.capabilityId := by
      rw [capabilityId, capabilityId, services, segments]
    refine ⟨fun _ _ _ _ offered offered' services names => ?_,
      fun _ _ _ _ offered offered' services names => ?_,
      fun _ _ _ offered offered' services names => ?_⟩
    · have same := distinct _ _ offered offered' (ids services (by
        rw [getD_some, getD_some, segment_tool offered, segment_tool offered', names]))
      rw [mk.injEq, some.injEq] at same
      exact ⟨same.1, same.2.2⟩
    · have same := distinct _ _ offered offered' (ids services (by
        rw [getD_none, getD_some, segment_tool offered', names]))
      cases same
    · by_contra filled
      have default : safePublicToolSegment "default" = "default" := by decide +kernel
      have same := distinct _ _ offered offered' (ids services (by
        rw [getD_none, segment_operation, segment_operation, if_pos rfl, if_neg filled,
          names, default]))
      rw [mk.injEq] at same
      exact filled same.2.1.symm
  · rintro clean ⟨serviceId, operationKey, tool⟩ ⟨serviceId', operationKey', tool'⟩ offered
      offered' same
    obtain ⟨services, segments⟩ := capabilityId_inj same
    cases tool with
    | none =>
      cases tool' with
      | none =>
        obtain ⟨rfl, rfl⟩ := clean.operations keyed compiled offered offered' services segments
        rfl
      | some tool' =>
        obtain rfl : operationKey' = "tools/call" := offered'.operationKey_of_tool
        rw [getD_some, segment_tool offered'] at segments
        exact absurd segments (clean.apart _ _ _ _ offered offered' services)
    | some tool =>
      obtain rfl : operationKey = "tools/call" := offered.operationKey_of_tool
      rw [getD_some, segment_tool offered] at segments
      cases tool' with
      | none => exact absurd segments.symm (clean.apart _ _ _ _ offered' offered services.symm)
      | some tool' =>
        obtain rfl : operationKey' = "tools/call" := offered'.operationKey_of_tool
        rw [getD_some, segment_tool offered'] at segments
        obtain ⟨rfl, rfl⟩ := clean.ofTools _ _ _ _ offered offered' services
          (String.append_right_inj _ |>.mp segments)
        rfl

def plainEnv : CatalogEnv where
  hash := id
  localeAtMost := fun _ _ => true
  fingerprintDigest := fun _ _ _ => ""
  partitionDigest := fun _ _ => ""
  serverIdentity := ""
  discovers := fun _ _ _ _ _ => ⟨true, .allowed⟩
  executes := fun _ _ _ _ _ => ⟨true, .allowed⟩

def mcpService : Service :=
  { sampleService with
    serviceId := "s"
    named := by decide +kernel }

def mcpSnapshot : Snapshot := ⟨0, "", [("s", ⟨mcpService, [], "", 0⟩)]⟩

theorem keyed_mcpSnapshot : Keyed mcpSnapshot := by
  intro pair member
  rw [mem_singleton.mp member]
  rfl

theorem compiled_mcpSnapshot :
    compileUpstreamOperationProjection plainEnv mcpSnapshot = some ⟨0, "", []⟩ := by
  simp [compileUpstreamOperationProjection, publishedOperations, mcpSnapshot, mcpService]

theorem offered_mcpTool (listed : name ∈ ["a.b", "a-b"]) :
    Offered mcpSnapshot (fun _ => ["a.b", "a-b"]) ⟨"s", "tools/call", some name⟩ := by
  refine ⟨_, mem_singleton_self _, rfl, rfl, rfl, ?_, name, listed, ?_⟩ <;>
    revert name <;> decide +kernel

theorem capabilityIds_collide : ∃ target target',
    (compileUpstreamOperationProjection plainEnv mcpSnapshot).isSome = true ∧
      Keyed mcpSnapshot ∧ Offered mcpSnapshot (fun _ => ["a.b", "a-b"]) target ∧
        Offered mcpSnapshot (fun _ => ["a.b", "a-b"]) target' ∧
          target.capabilityId = target'.capabilityId ∧ target ≠ target' := by
  refine ⟨⟨"s", "tools/call", some "a.b"⟩, ⟨"s", "tools/call", some "a-b"⟩, ?_,
    keyed_mcpSnapshot, offered_mcpTool (by simp), offered_mcpTool (by simp), by decide +kernel,
    by decide⟩
  rw [compiled_mcpSnapshot]
  rfl

theorem capabilityIds_distinct_iff_mcp : ¬CleanNames mcpSnapshot fun _ => ["a.b", "a-b"] := by
  intro clean
  have same := (capabilityIds_distinct_iff keyed_mcpSnapshot compiled_mcpSnapshot).mpr clean
    ⟨"s", "tools/call", some "a.b"⟩ ⟨"s", "tools/call", some "a-b"⟩ (offered_mcpTool (by simp))
    (offered_mcpTool (by simp)) (by decide +kernel)
  exact absurd same (by decide)

end LicoMesh.UpstreamCatalog
