import LicoMesh.GatewayRuntime.Log
import LicoMesh.Library.Path

namespace LicoMesh.GatewayRuntime

open Library

/-! A runtime on its log: records arrive at any time, a flush waits for its write, and the
process may be cut off. -/

inductive FlushOwner
  | idle
  | running
  | ended
  deriving DecidableEq

structure World where
  wal : Wal := {}
  runtime : Runtime := {}
  /-- Whether the start of the runtime has succeeded. -/
  ready : Bool := true
  owner : FlushOwner := .idle
  flight : Option Flight := none
  drawn : Nat := 0
  /-- A persist has settled without a failed flush, and nothing has been recorded since. -/
  settled : Bool := false
  /-- The counts as the last completed flush has written them. -/
  flushed : Metrics := {}

inductive Command
  | appendAudit (eventType serviceId operationKey payload : String) (createdAt : Nat)
  | recordMetric (serviceId bucketKey : String) (failed : Bool)
  | persist
  | beginFlush
  | endFlush
  | failFlush (cut : Cut)
  | endLoop
  | release
  | close
  | crash (cut : Cut)

def World.persist (w : World) : World :=
  if w.runtime.closed then { w with settled := true }
  else if w.owner = .idle ∧ w.ready then { w with owner := .running }
  else w

def World.crashed (config : Config) (w : World) (cut : Cut) : Wal :=
  match w.flight with
  | none => w.wal
  | some flight => w.wal.cutOff config flight cut

def World.restart (config : Config) (w : World) (wal : Wal) : World :=
  match startRuntime config wal with
  | none => { wal := wal, ready := false, drawn := w.drawn, flushed := w.flushed }
  | some runtime => { wal := wal, runtime := runtime, drawn := w.drawn, flushed := w.flushed }

def World.completeFlush (config : Config) (w : World) (flight : Flight) : World :=
  match appendPlan config w.wal flight with
  | .refused => { w with owner := .idle, flight := none }
  | plan =>
    { w with
      wal := appendBoundedJsonLine config w.wal flight
      runtime := endFlush w.runtime flight (plan = .replace)
      flight := none
      flushed := flight.seed.metrics }

def World.apply (config : Config) (w : World) : Command → World
  | .appendAudit eventType serviceId operationKey payload createdAt =>
    let event : AuditEvent := {
      auditId := w.drawn
      eventType := eventType
      serviceId := serviceId
      operationKey := operationKey
      payload := payload
      createdAt := createdAt }
    let next := { w with
      runtime := appendAudit config w.runtime event
      drawn := w.drawn + 1
      settled := false }
    if config.flushBatchSize * 4 < next.runtime.pendingAuditEvents.length then next.persist
    else next
  | .recordMetric serviceId bucketKey failed =>
    { w with
      runtime := recordMetric config w.runtime serviceId bucketKey failed
      settled := false }
  | .persist => w.persist
  | .beginFlush =>
    if w.owner = .running ∧ w.flight = none ∧ w.runtime.closed = false ∧ w.runtime.dirty then
      { w with flight := some (beginFlush config w.runtime) }
    else w
  | .endFlush =>
    match w.flight with
    | none => w
    | some flight => w.completeFlush config flight
  | .failFlush cut =>
    match w.flight with
    | none => w
    | some flight =>
      { w with wal := w.wal.cutOff config flight cut, owner := .idle, flight := none }
  | .endLoop =>
    if w.owner = .running ∧ w.flight = none ∧ w.runtime.dirty = false then
      { w with owner := .ended }
    else w
  | .release => if w.owner = .ended then { w with owner := .idle, settled := true } else w
  | .close =>
    if w.ready ∧ w.runtime.dirty = false then
      { w with runtime := { w.runtime with closed := true } }
    else w
  | .crash cut => w.restart config (w.crashed config cut)

def World.run (config : Config) (commands : List Command) : World :=
  runAll (.apply config) {} commands

def durableEvents (wal : Wal) : List AuditEvent := wal.entries.flatMap (·.auditEvents)

/-- A cut that leaves neither a complete record without its line end nor a part of one on a log
that has no record. -/
def cleanCut (config : Config) (wal : Wal) (flight : Flight) : Cut → Prop
  | .partly count =>
    appendPlan config wal flight = .append → count ≠ 0 →
      count < config.bytes flight.delta ∧ wal.entries ≠ []
  | _ => True

def keepsWaiting (config : Config) (w : World) : Prop :=
  ∀ flight, w.flight = some flight →
    ∀ event ∈ w.runtime.auditEvents.take (w.runtime.auditEvents.length + 1 -
      config.auditRingLimit), event ∉ flight.waiting

/-- The commands under which the log recovers what was recorded. -/
def Meets (config : Config) (w : World) : Command → Prop
  | .appendAudit .. => w.runtime.closed = false ∧ w.owner ≠ .ended ∧ keepsWaiting config w
  | .recordMetric .. => w.runtime.closed = false ∧ w.owner ≠ .ended
  | .failFlush cut => ∀ flight, w.flight = some flight → cleanCut config w.wal flight cut ∧
        (cut = .done → appendPlan config w.wal flight = .refused)
  | .crash cut => ∀ flight, w.flight = some flight → cleanCut config w.wal flight cut
  | _ => True

/-- A start on the log as a crash leaves it: it has all that completed flushes have written,
nothing that was not recorded, and lacks only what was still pending. -/
structure RecoversCrash (config : Config) (w : World) (r : Runtime) : Prop where
  forward : w.flushed.totalForwardCount ≤ r.metrics.totalForwardCount ∧
    r.metrics.totalForwardCount ≤ w.runtime.metrics.totalForwardCount ∧
    w.runtime.metrics.totalForwardCount ≤
      r.metrics.totalForwardCount + w.runtime.metricDeltas.totalForwardCount
  failure : w.flushed.totalFailureCount ≤ r.metrics.totalFailureCount ∧
    r.metrics.totalFailureCount ≤ w.runtime.metrics.totalFailureCount ∧
    w.runtime.metrics.totalFailureCount ≤
      r.metrics.totalFailureCount + w.runtime.metricDeltas.totalFailureCount
  events : ∀ event ∈ w.runtime.auditEvents,
    event ∈ r.auditEvents ∨ event ∈ w.runtime.pendingAuditEvents
  distinct : (r.auditEvents.map (·.auditId)).Nodup

structure Recovers (config : Config) (w : World) : Prop where
  settled : w.settled = true → ∃ r, startRuntime config w.wal = some r ∧
    r.metrics.totalForwardCount = w.runtime.metrics.totalForwardCount ∧
    r.metrics.totalFailureCount = w.runtime.metrics.totalFailureCount ∧
    r.auditEvents = w.runtime.auditEvents
  kept : ∀ event ∈ w.runtime.auditEvents,
    event ∈ durableEvents w.wal ∨ event ∈ w.runtime.pendingAuditEvents
  crash : ∀ cut, Meets config w (.crash cut) →
    ∃ r, startRuntime config (w.crashed config cut) = some r ∧ RecoversCrash config w r

end LicoMesh.GatewayRuntime
