import LicoMesh.Library.Window
import Mathlib.Algebra.GroupWithZero.Nat

namespace LicoMesh.GatewayRuntime

open Library

/-! The runtime state of the upstream gateway and its log: an audit ring, counters with the part
that is not yet in the log, and the records of the log. -/

abbrev Bucket := List (String × Nat)

def Bucket.count (bucket : Bucket) (key : String) : Nat := (bucket.lookup key).getD 0

def Bucket.erase (bucket : Bucket) (key : String) : Bucket := bucket.filter (·.1 ≠ key)

def Bucket.set (bucket : Bucket) (key : String) (count : Nat) : Bucket :=
  bucket.erase key ++ [(key, count)]

structure Metrics where
  totalForwardCount : Nat := 0
  totalFailureCount : Nat := 0
  byService : Bucket := []
  byStatus : Bucket := []

def emptyMetrics : Metrics := {}

def boundedBucketInsert (bucket : Bucket) (key : String) (amount dimensionLimit : Nat) : Bucket :=
  let normalizedKey := if key = "" then "unknown" else key
  if bucket.count normalizedKey = 0 ∧ dimensionLimit ≤ bucket.length then bucket
  else bucket.set normalizedKey (bucket.count normalizedKey + amount)

def subtractBucket (bucket durable : Bucket) : Bucket :=
  durable.foldl (fun left entry =>
    if left.count entry.1 - entry.2 = 0 then left.erase entry.1
    else left.set entry.1 (left.count entry.1 - entry.2)) bucket

def subtractMetricDeltas (deltas durable : Metrics) : Metrics where
  totalForwardCount := deltas.totalForwardCount - durable.totalForwardCount
  totalFailureCount := deltas.totalFailureCount - durable.totalFailureCount
  byService := subtractBucket deltas.byService durable.byService
  byStatus := subtractBucket deltas.byStatus durable.byStatus

structure AuditEvent where
  auditId : Nat
  eventType : String := ""
  serviceId : String := ""
  operationKey : String := ""
  payload : String := ""
  createdAt : Nat := 0

inductive EntryKind
  | seed
  | delta

structure WalEntry where
  sequence : Nat
  kind : EntryKind
  auditEvents : List AuditEvent
  metrics : Metrics

structure Config where
  auditRingLimit : Nat
  flushBatchSize : Nat
  metricDimensionLimit : Nat
  walMaxBytes : Nat
  /-- The length of the JSON text of a record. -/
  bytes : WalEntry → Nat
  ring_pos : 0 < auditRingLimit

/-- The complete lines of the log, and how many bytes of a further record follow them. -/
structure Wal where
  entries : List WalEntry := []
  torn : Option (WalEntry × Nat) := none

def Wal.size (config : Config) (wal : Wal) : Nat :=
  (wal.entries.map fun entry => config.bytes entry + 1).sum + (wal.torn.map (·.2)).getD 0

def parseTorn (config : Config) (torn : WalEntry × Nat) : Option WalEntry :=
  if torn.2 = config.bytes torn.1 then some torn.1 else none

def Wal.lines (config : Config) (wal : Wal) : List WalEntry :=
  wal.entries ++ (wal.torn.bind (parseTorn config)).toList

structure Runtime where
  auditEvents : List AuditEvent := []
  metrics : Metrics := {}
  metricDeltas : Metrics := {}
  pendingAuditEvents : List AuditEvent := []
  sequence : Nat := 0
  closed : Bool := false

def shedEvents (config : Config) (events : List AuditEvent) : List AuditEvent :=
  events.take (events.length - config.auditRingLimit)

def pushAuditEvent (config : Config) (runtime : Runtime) (event : AuditEvent) : Runtime :=
  let events := runtime.auditEvents ++ [event]
  let shedIds := (shedEvents config events).map (·.auditId)
  { runtime with
    auditEvents := recent config.auditRingLimit events
    pendingAuditEvents := runtime.pendingAuditEvents.filter (·.auditId ∉ shedIds) }

def appendAudit (config : Config) (runtime : Runtime) (event : AuditEvent) : Runtime :=
  let pushed := pushAuditEvent config runtime event
  { pushed with pendingAuditEvents := pushed.pendingAuditEvents ++ [event] }

def countForward (config : Config) (metrics : Metrics) (serviceId bucketKey : String)
    (failed : Bool) : Metrics where
  totalForwardCount := metrics.totalForwardCount + 1
  totalFailureCount := metrics.totalFailureCount + if failed then 1 else 0
  byService := boundedBucketInsert metrics.byService serviceId 1 config.metricDimensionLimit
  byStatus := boundedBucketInsert metrics.byStatus bucketKey 1 config.metricDimensionLimit

def recordMetric (config : Config) (runtime : Runtime) (serviceId bucketKey : String)
    (failed : Bool) : Runtime :=
  { runtime with
    metrics := countForward config runtime.metrics serviceId bucketKey failed
    metricDeltas := countForward config runtime.metricDeltas serviceId bucketKey failed }

def hasMetricDeltas (runtime : Runtime) : Bool :=
  runtime.metricDeltas.totalForwardCount ≠ 0 || runtime.metricDeltas.totalFailureCount ≠ 0 ||
    !runtime.metricDeltas.byService.isEmpty || !runtime.metricDeltas.byStatus.isEmpty

/-- Something is recorded that the log does not have. -/
def Runtime.dirty (runtime : Runtime) : Bool :=
  !runtime.pendingAuditEvents.isEmpty || hasMetricDeltas runtime

def upsertById (events : List AuditEvent) (event : AuditEvent) : List AuditEvent :=
  if events.any (·.auditId = event.auditId) then
    events.map fun old => if old.auditId = event.auditId then event else old
  else events ++ [event]

def applyRecoveredAuditEvents (config : Config) (ring events : List AuditEvent) : List AuditEvent :=
  recent config.auditRingLimit ((ring ++ events).foldl upsertById [])

def applyRecoveredMetrics (config : Config) (metrics recovered : Metrics) : Metrics where
  totalForwardCount := metrics.totalForwardCount + recovered.totalForwardCount
  totalFailureCount := metrics.totalFailureCount + recovered.totalFailureCount
  byService := recovered.byService.foldl (fun bucket entry =>
    boundedBucketInsert bucket entry.1 entry.2 config.metricDimensionLimit) metrics.byService
  byStatus := recovered.byStatus.foldl (fun bucket entry =>
    boundedBucketInsert bucket entry.1 entry.2 config.metricDimensionLimit) metrics.byStatus

def replayEntry (config : Config) (runtime : Runtime) (entry : WalEntry) : Runtime :=
  match entry.kind with
  | .seed =>
    { runtime with
      sequence := max runtime.sequence entry.sequence
      auditEvents := recent config.auditRingLimit entry.auditEvents
      metrics := applyRecoveredMetrics config emptyMetrics entry.metrics }
  | .delta =>
    { runtime with
      sequence := max runtime.sequence entry.sequence
      auditEvents := applyRecoveredAuditEvents config runtime.auditEvents entry.auditEvents
      metrics := applyRecoveredMetrics config runtime.metrics entry.metrics }

def replayWal (config : Config) (wal : Wal) : Runtime :=
  (wal.lines config).foldl (replayEntry config) {}

def startRuntime (config : Config) (wal : Wal) : Option Runtime :=
  if 0 < wal.size config ∧ wal.lines config = [] then none else some (replayWal config wal)

structure Flight where
  /-- The events that were pending when it began, whose number it keeps. -/
  waiting : List AuditEvent
  batchAuditEvents : List AuditEvent
  batchMetrics : Metrics
  delta : WalEntry
  seed : WalEntry

def currentSeed (runtime : Runtime) : WalEntry where
  sequence := runtime.sequence + 1
  kind := .seed
  auditEvents := runtime.auditEvents
  metrics := runtime.metrics

/-- The start of `flushDirtyBatch`, up to its write. -/
def beginFlush (config : Config) (runtime : Runtime) : Flight where
  waiting := runtime.pendingAuditEvents
  batchAuditEvents := runtime.pendingAuditEvents.take config.flushBatchSize
  batchMetrics := runtime.metricDeltas
  delta := {
    sequence := runtime.sequence + 1
    kind := .delta
    auditEvents := runtime.pendingAuditEvents.take config.flushBatchSize
    metrics := runtime.metricDeltas }
  seed := currentSeed runtime

def MAX_RECORD_BYTES : Nat := 64 * 1024 * 1024

/-- What `appendBoundedJsonLine` does with the record of a flush. -/
inductive AppendPlan
  | refused
  | append
  | replace
  deriving DecidableEq

def appendPlan (config : Config) (wal : Wal) (flight : Flight) : AppendPlan :=
  if min config.walMaxBytes MAX_RECORD_BYTES < config.bytes flight.delta then .refused
  else if wal.size config + (config.bytes flight.delta + 1) ≤ config.walMaxBytes then .append
  else if config.walMaxBytes < config.bytes flight.seed + 1 then .refused
  else .replace

def appendBoundedJsonLine (config : Config) (wal : Wal) (flight : Flight) : Wal :=
  match appendPlan config wal flight with
  | .refused => wal
  | .append => { entries := wal.entries ++ [flight.delta] }
  | .replace => { entries := [flight.seed] }

/-- The rest of `flushDirtyBatch`, after its write. -/
def endFlush (runtime : Runtime) (flight : Flight) (compacted : Bool) : Runtime :=
  { runtime with
    sequence := flight.delta.sequence
    pendingAuditEvents := runtime.pendingAuditEvents.drop
      (if compacted then flight.waiting.length else flight.batchAuditEvents.length)
    metricDeltas := subtractMetricDeltas runtime.metricDeltas flight.batchMetrics }

/-- How far the write of a flush has come when it is cut off. The tail of an earlier cut is
removed before anything is appended; a replacement takes place at once. -/
inductive Cut
  | untouched
  | partly (count : Nat)
  | done

def Wal.cutOff (config : Config) (wal : Wal) (flight : Flight) (cut : Cut) : Wal :=
  match cut with
  | .untouched => wal
  | .partly count =>
    match appendPlan config wal flight with
    | .append =>
      { wal with
        torn := if count = 0 then none
          else some (flight.delta, min count (config.bytes flight.delta)) }
    | _ => wal
  | .done => appendBoundedJsonLine config wal flight

end LicoMesh.GatewayRuntime
