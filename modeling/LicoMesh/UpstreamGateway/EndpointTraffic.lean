import LicoMesh.WorkQueue.Serialization
import Mathlib.Data.Rat.Floor

namespace LicoMesh.UpstreamGateway

open Function

open WorkQueue

/-! The traffic limits of upstream services: token buckets, circuits and the choice of an endpoint.
Amounts are exact, and a number that is 0 stands for one that is missing. -/

def orDefault (value fallback : ℚ) : ℚ := if value = 0 then fallback else value

structure TrafficPolicyInput where
  perMinute : ℚ := 0
  burst : ℚ := 0
  maxConcurrent : ℚ := 0

structure TrafficPolicy where
  perMinute : ℚ
  burst : ℚ
  maxConcurrent : ℚ
  one_le_perMinute : 1 ≤ perMinute
  one_le_burst : 1 ≤ burst
  one_le_maxConcurrent : 1 ≤ maxConcurrent

def normalizeTrafficPolicy (input : TrafficPolicyInput) : TrafficPolicy where
  perMinute := max 1 (min (orDefault input.perMinute 120) 10000)
  burst := max 1 (min (orDefault input.burst 30) 10000)
  maxConcurrent := max 1 (min (orDefault input.maxConcurrent
    (max 1 (min (orDefault input.burst 30) 10000))) 10000)
  one_le_perMinute := le_max_left _ _
  one_le_burst := le_max_left _ _
  one_le_maxConcurrent := le_max_left _ _

structure CircuitBreaker where
  enabled : Bool := true
  failureThreshold : ℚ := 0
  cooldownMs : ℚ := 0

inductive PolicySource
  | endpoint
  | service
  | default
  deriving DecidableEq

structure Endpoint where
  endpointId : String
  weight : ℤ
  disabled : Bool := false
  trafficPolicy : TrafficPolicyInput := {}
  trafficPolicySource : PolicySource := .service
  trafficPolicyInherited : Bool := true
  circuitBreaker : Option CircuitBreaker := none

structure Service where
  serviceId : String
  endpoints : List Endpoint
  trafficPolicy : TrafficPolicyInput := {}
  circuitBreaker : Option CircuitBreaker := none

inductive Slot
  | operation (serviceId operationKey : String)
  | endpoint (serviceId operationKey endpointId : String)
  deriving DecidableEq

def trafficKey (serviceId operationKey : String) : String := serviceId ++ "::" ++ operationKey

def Slot.key : Slot → String
  | .operation serviceId operationKey => trafficKey serviceId operationKey
  | .endpoint serviceId operationKey endpointId =>
    trafficKey serviceId operationKey ++ "::" ++ endpointId

def Slot.serviceId : Slot → String
  | .operation serviceId _ => serviceId
  | .endpoint serviceId _ _ => serviceId

def Endpoint.id (endpoint : Endpoint) : String :=
  if endpoint.endpointId = "" then "primary" else endpoint.endpointId

def endpointsFor (service : Service) : List Endpoint :=
  let endpoints := service.endpoints.filter fun endpoint => !endpoint.disabled
  if endpoints ≠ [] then endpoints
  else if service.endpoints ≠ [] then []
  else [{
    endpointId := "primary"
    weight := 1
    trafficPolicy := service.trafficPolicy
    circuitBreaker := service.circuitBreaker }]

def endpointHasOwnTrafficPolicy (endpoint : Endpoint) : Bool :=
  endpoint.trafficPolicySource = .endpoint && !endpoint.trafficPolicyInherited

structure Bucket where
  tokens : ℚ
  updatedAtMs : Nat
  inFlight : Nat

structure Circuit where
  consecutiveFailures : Nat := 0
  openedUntilMs : ℚ := 0

structure Cursor where
  signature : List (String × ℤ)
  currentWeights : String → ℤ

structure Run where
  service : Service
  operationKey : String
  endpoint : Endpoint

/-- `running` are the runs in progress and `started` the runs with the times of their starts.
`bucketSlots` and `circuitSlots` are what the calls so far have named, and `circuits` holds the
circuit of each of them apart. -/
structure Controller where
  trafficBuckets : String → Option Bucket := fun _ => none
  endpointCursors : String → Option Cursor := fun _ => none
  endpointCircuits : String → Option Circuit := fun _ => none
  running : List Run := []
  started : List (Run × Nat) := []
  bucketSlots : List Slot := []
  circuitSlots : List Slot := []
  circuits : Slot → Option Circuit := fun _ => none
  now : Nat := 0

def Circuit.at (circuit : Circuit) (now : Nat) : Circuit :=
  if 0 < circuit.openedUntilMs ∧ circuit.openedUntilMs ≤ now then {} else circuit

structure CircuitSnapshot where
  circuit : Circuit
  isOpen : Bool
  retryAfterMs : ℚ

def circuitSnapshot (circuits : String → Option Circuit) (key : String) (breaker : CircuitBreaker)
    (now : Nat) : CircuitSnapshot :=
  let circuit := ((circuits key).getD {}).at now
  let retryAfterMs := max 0 (circuit.openedUntilMs - now)
  { circuit := circuit, isOpen := breaker.enabled && 0 < retryAfterMs, retryAfterMs := retryAfterMs }

def closeExpired (circuits : String → Option Circuit) (key : String) (now : Nat) :
    String → Option Circuit :=
  match circuits key with
  | some circuit => update circuits key (some (circuit.at now))
  | none => circuits

def breakerOf (service : Service) (endpoint : Endpoint) : CircuitBreaker :=
  (endpoint.circuitBreaker <|> service.circuitBreaker).getD {}

structure EndpointOutcome where
  statusCode : Nat := 0
  ok : Bool := false

def Circuit.record (circuit : Circuit) (breaker : CircuitBreaker) (outcome : EndpointOutcome)
    (now : Nat) : Circuit :=
  if outcome.ok then {}
  else
    let consecutiveFailures := (circuit.at now).consecutiveFailures + 1
    { consecutiveFailures := consecutiveFailures
      openedUntilMs :=
        if orDefault breaker.failureThreshold 3 ≤ consecutiveFailures then
          now + orDefault breaker.cooldownMs 30000
        else 0 }

/-- An outcome that `recordEndpointOutcome` does not pass over. -/
def isRecorded (service : Service) (endpoint : Endpoint) (outcome : EndpointOutcome) : Bool :=
  endpoint.endpointId ≠ "" && (breakerOf service endpoint).enabled &&
    (outcome.ok || outcome.statusCode = 0 || outcome.statusCode = 429 || 500 ≤ outcome.statusCode)

def recordEndpointOutcome (service : Service) (operationKey : String) (endpoint : Endpoint)
    (outcome : EndpointOutcome) (now : Nat) (controller : Controller) : Controller :=
  if isRecorded service endpoint outcome then
    let slot := .endpoint service.serviceId operationKey endpoint.id
    let breaker := breakerOf service endpoint
    { controller with
      endpointCircuits := update controller.endpointCircuits slot.key (some
        (((controller.endpointCircuits slot.key).getD {}).record breaker outcome now))
      circuits := update controller.circuits slot (some
        (((controller.circuits slot).getD {}).record breaker outcome now)) }
  else controller

def refillRatePerMs (policy : TrafficPolicy) : ℚ := policy.perMinute / 60000

def trafficSnapshot (buckets : String → Option Bucket) (key : String) (policy : TrafficPolicy)
    (now : Nat) : Bucket :=
  let current := (buckets key).getD ⟨policy.burst, now, 0⟩
  let elapsedMs := now - (if current.updatedAtMs = 0 then now else current.updatedAtMs)
  { tokens := min policy.burst (current.tokens + elapsedMs * refillRatePerMs policy)
    updatedAtMs := now
    inFlight := current.inFlight }

structure TrafficDecision where
  allowed : Bool
  circuit : CircuitSnapshot
  serviceLimit : Bucket
  endpointLimit : Option Bucket
  retryAfterMs : ℤ
  deniedReason : String
  deniedScope : String

def ownTrafficPolicy (endpoint : Endpoint) : Option TrafficPolicy :=
  if endpointHasOwnTrafficPolicy endpoint then some (normalizeTrafficPolicy endpoint.trafficPolicy)
  else none

/-- `trafficDecision` with `consume: false`. -/
def trafficDecision (service : Service) (operationKey : String) (endpoint : Endpoint) (now : Nat)
    (controller : Controller) : TrafficDecision :=
  let policy := normalizeTrafficPolicy service.trafficPolicy
  let slot := Slot.endpoint service.serviceId operationKey endpoint.id
  let circuit := circuitSnapshot controller.endpointCircuits slot.key (breakerOf service endpoint) now
  let bucket := trafficSnapshot controller.trafficBuckets
    (Slot.operation service.serviceId operationKey).key policy now
  let endpointBucket := (ownTrafficPolicy endpoint).map fun policy =>
    (policy, trafficSnapshot controller.trafficBuckets slot.key policy now)
  let hasToken := decide (1 ≤ bucket.tokens)
  let hasConcurrency := decide ((bucket.inFlight : ℚ) < policy.maxConcurrent)
  let endpointHasToken := endpointBucket.all fun own => 1 ≤ own.2.tokens
  let endpointHasConcurrency := endpointBucket.all fun own =>
    (own.2.inFlight : ℚ) < own.1.maxConcurrent
  let allowed := !circuit.isOpen && hasToken && hasConcurrency && endpointHasToken &&
    endpointHasConcurrency
  { allowed := allowed
    circuit := circuit
    serviceLimit := bucket
    endpointLimit := endpointBucket.map (·.2)
    retryAfterMs :=
      if circuit.isOpen then ⌈circuit.retryAfterMs⌉
      else if !hasToken then ⌈(1 - bucket.tokens) / refillRatePerMs policy⌉
      else match endpointBucket with
        | some (own, bucket) =>
          if !endpointHasToken then ⌈(1 - bucket.tokens) / refillRatePerMs own⌉ else 0
        | none => 0
    deniedReason :=
      if allowed then ""
      else if circuit.isOpen then "circuit_open"
      else if !hasToken || !endpointHasToken then "token_bucket_empty"
      else "concurrency_limit_exceeded"
    deniedScope :=
      if allowed then ""
      else if circuit.isOpen then "endpoint"
      else if !hasToken || !hasConcurrency then "service"
      else "endpoint" }

structure Selection where
  currentWeights : String → ℤ
  selected : Option Endpoint := none
  selectedWeight : ℤ := 0
  eligibleWeight : ℤ := 0

/-- One endpoint of the loop in `selectEndpointTraffic`. Its snapshot may close a circuit. -/
def considerEndpoint (service : Service) (operationKey : String) (now : Nat)
    (endpoint : Endpoint) (state : Controller × Selection) : Controller × Selection :=
  let (controller, selection) := state
  let slot := Slot.endpoint service.serviceId operationKey endpoint.id
  let closed := { controller with
    endpointCircuits := closeExpired controller.endpointCircuits slot.key now }
  if (trafficDecision service operationKey endpoint now controller).allowed then
    let nextWeight := selection.currentWeights endpoint.id + endpoint.weight
    let weighed := { selection with
      currentWeights := update selection.currentWeights endpoint.id nextWeight
      eligibleWeight := selection.eligibleWeight + endpoint.weight }
    (closed, if selection.selected.isNone || selection.selectedWeight < nextWeight then
      { weighed with selected := some endpoint, selectedWeight := nextWeight }
    else weighed)
  else (closed, { selection with
    currentWeights := update selection.currentWeights endpoint.id 0 })

def considerEndpoints (service : Service) (operationKey : String) (now : Nat) :
    List Endpoint → Controller × Selection → Controller × Selection
  | [], state => state
  | endpoint :: rest, state =>
    considerEndpoints service operationKey now rest
      (considerEndpoint service operationKey now endpoint state)

def signatureOf (endpoints : List Endpoint) : List (String × ℤ) :=
  endpoints.map fun endpoint => (endpoint.id, endpoint.weight)

def startSelection (endpoints : List Endpoint) (previous : Option Cursor) : Selection where
  currentWeights := ((previous.filter fun cursor =>
    cursor.signature = signatureOf endpoints).map (·.currentWeights)).getD fun _ => 0

def takeToken (bucket : Bucket) : Bucket :=
  { bucket with tokens := bucket.tokens - 1, inFlight := bucket.inFlight + 1 }

def releaseSlot (bucket : Bucket) : Bucket := { bucket with inFlight := bucket.inFlight - 1 }

def storeBuckets (step : Bucket → Bucket) (service : Service) (operationKey : String)
    (endpoint : Endpoint) (now : Nat) (buckets : String → Option Bucket) : String → Option Bucket :=
  let slot := Slot.operation service.serviceId operationKey
  let stored := update buckets slot.key (some (step
    (trafficSnapshot buckets slot.key (normalizeTrafficPolicy service.trafficPolicy) now)))
  match ownTrafficPolicy endpoint with
  | some policy =>
    let own := Slot.endpoint service.serviceId operationKey endpoint.id
    update stored own.key (some (step (trafficSnapshot stored own.key policy now)))
  | none => stored

def consumeAllowedTraffic (service : Service) (operationKey : String) (endpoint : Endpoint)
    (now : Nat) (controller : Controller) : Controller :=
  { controller with
    trafficBuckets := storeBuckets takeToken service operationKey endpoint now
      controller.trafficBuckets }

def releaseTraffic (service : Service) (operationKey : String) (endpoint : Endpoint) (now : Nat)
    (controller : Controller) : Controller :=
  { controller with
    trafficBuckets := storeBuckets releaseSlot service operationKey endpoint now
      controller.trafficBuckets }

/-- `selectEndpointTraffic` with `consume: true`. -/
def selectEndpointTraffic (service : Service) (operationKey : String) (now : Nat)
    (controller : Controller) : Controller × Option Endpoint :=
  let endpoints := endpointsFor service
  let cursorKey := (Slot.operation service.serviceId operationKey).key
  if endpoints = [] then
    ({ controller with
      endpointCursors := update controller.endpointCursors cursorKey none }, none)
  else
    let (closed, selection) := considerEndpoints service operationKey now endpoints
      (controller, startSelection endpoints (controller.endpointCursors cursorKey))
    let currentWeights := match selection.selected with
      | some endpoint => update selection.currentWeights endpoint.id
          (selection.currentWeights endpoint.id - selection.eligibleWeight)
      | none => selection.currentWeights
    let turned := { closed with
      endpointCursors := update closed.endpointCursors cursorKey
        (some ⟨signatureOf endpoints, currentWeights⟩) }
    match selection.selected with
    | some endpoint =>
      (consumeAllowedTraffic service operationKey endpoint now turned, some endpoint)
    | none => (turned, none)

/-- The text before the first `::`. -/
def beforeSeparator : List Char → List Char
  | [] => []
  | ':' :: ':' :: _ => []
  | char :: rest => char :: beforeSeparator rest

def serviceIdOf (key : String) : String := String.ofList (beforeSeparator key.toList)

def retiredNames (serviceIds : List String) : List String :=
  (serviceIds.map toText).filter fun name => name ≠ ""

def retain {α : Type} (retired : List String) (state : String → Option α) : String → Option α :=
  fun key => if serviceIdOf key ∈ retired then none else state key

def retireServices (serviceIds : List String) (controller : Controller) : Controller :=
  let retired := retiredNames serviceIds
  { controller with
    trafficBuckets := retain retired controller.trafficBuckets
    endpointCursors := retain retired controller.endpointCursors
    endpointCircuits := retain retired controller.endpointCircuits
    circuits := fun slot =>
      if slot.serviceId ∈ serviceIds then none else controller.circuits slot }

/-- `start` is a call of `withTrafficSlot` up to its `run`, and `finish` the end of a run. -/
inductive TrafficStep
  | start (service : Service) (operationKey : String)
  | finish (run : Nat)
  | outcome (service : Service) (operationKey : String) (endpoint : Endpoint)
      (outcome : EndpointOutcome)
  | retire (serviceIds : List String)

structure TrafficEvent where
  clock : Nat
  step : TrafficStep

def bucketSlotsOf (service : Service) (operationKey : String) : List Slot :=
  .operation service.serviceId operationKey ::
    ((endpointsFor service).filter endpointHasOwnTrafficPolicy).map fun endpoint =>
      .endpoint service.serviceId operationKey endpoint.id

def circuitSlotsOf (service : Service) (operationKey : String) : List Slot :=
  (endpointsFor service).map fun endpoint =>
    .endpoint service.serviceId operationKey endpoint.id

def withTrafficSlot (service : Service) (operationKey : String) (now : Nat)
    (controller : Controller) : Controller :=
  let (next, endpoint) := selectEndpointTraffic service operationKey now controller
  match endpoint with
  | some endpoint =>
    let run : Run := ⟨service, operationKey, endpoint⟩
    { next with running := run :: next.running, started := (run, now) :: next.started }
  | none => next

def TrafficEvent.next (controller : Controller) (event : TrafficEvent) : Controller :=
  let timed := { controller with now := event.clock }
  match event.step with
  | .start service operationKey =>
    withTrafficSlot service operationKey event.clock { timed with
      bucketSlots := bucketSlotsOf service operationKey ++ timed.bucketSlots
      circuitSlots := circuitSlotsOf service operationKey ++ timed.circuitSlots }
  | .finish run =>
    match controller.running[run]? with
    | some ended => releaseTraffic ended.service ended.operationKey ended.endpoint event.clock
        { timed with running := timed.running.eraseIdx run }
    | none => timed
  | .outcome service operationKey endpoint outcome =>
    recordEndpointOutcome service operationKey endpoint outcome event.clock { timed with
      circuitSlots :=
        .endpoint service.serviceId operationKey endpoint.id :: timed.circuitSlots }
  | .retire serviceIds => retireServices serviceIds timed

end LicoMesh.UpstreamGateway
