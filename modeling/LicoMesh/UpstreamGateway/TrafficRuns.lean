import LicoMesh.UpstreamGateway.TrafficLimits

namespace LicoMesh.UpstreamGateway

open TrafficEvent List

open Library

variable {service : Service} {operationKey : String} {policies : Policies}
  {controller next : Controller}

theorem Tracked.frame (tracked : Tracked policies controller)
    (buckets : next.trafficBuckets = controller.trafficBuckets)
    (running : next.running = controller.running) (started : next.started = controller.started)
    (bucketSlots : next.bucketSlots = controller.bucketSlots)
    (now : next.now = controller.now) : Tracked policies next := by
  obtain ⟨fixed, chosen, used, begun, stored, policed, distinct, accounts⟩ := tracked
  refine ⟨?_, ?_, ?_, ?_, ?_, ?_, ?_, ?_⟩
  · exact running ▸ fixed
  · exact running ▸ chosen
  · exact running ▸ bucketSlots ▸ used
  · exact started ▸ bucketSlots ▸ begun
  · exact buckets ▸ bucketSlots ▸ stored
  · exact bucketSlots ▸ policed
  · exact bucketSlots ▸ distinct
  · intro slot known policy of
    have account := accounts slot (bucketSlots ▸ known) policy of
    unfold Controller.runs Controller.starts at account ⊢
    rw [buckets, running, started, now]
    exact account

theorem Switched.frame (switched : Switched controller)
    (endpointCircuits : next.endpointCircuits = controller.endpointCircuits)
    (circuits : next.circuits = controller.circuits)
    (circuitSlots : next.circuitSlots = controller.circuitSlots)
    (now : next.now = controller.now) : Switched next := by
  obtain ⟨stored, recorded, distinct, agree⟩ := switched
  refine ⟨?_, ?_, ?_, ?_⟩
  · exact endpointCircuits ▸ circuitSlots ▸ stored
  · exact circuits ▸ circuitSlots ▸ recorded
  · exact circuitSlots ▸ distinct
  · rw [endpointCircuits, circuits, circuitSlots, now]
    exact agree

theorem withTrafficSlot_spec (service : Service) (operationKey : String) (controller : Controller) :
    ∃ circuits cursors, Closes controller.now controller.endpointCircuits circuits ∧
      (withTrafficSlot service operationKey controller.now controller =
          { controller with endpointCircuits := circuits, endpointCursors := cursors } ∨
        ∃ endpoint ∈ endpointsFor service,
          (trafficDecision service operationKey endpoint controller.now controller).allowed = true ∧
          withTrafficSlot service operationKey controller.now controller = { controller with
            trafficBuckets := storeBuckets takeToken service operationKey endpoint controller.now
              controller.trafficBuckets
            endpointCircuits := circuits
            endpointCursors := cursors
            running := ⟨service, operationKey, endpoint⟩ :: controller.running
            started := (⟨service, operationKey, endpoint⟩, controller.now) ::
              controller.started }) := by
  obtain ⟨circuits, cursors, closes, none | ⟨endpoint, chosen, allowed, some⟩⟩ :=
    selectEndpointTraffic_spec service operationKey controller.now controller
  · refine ⟨circuits, cursors, closes, .inl ?_⟩
    unfold withTrafficSlot
    rw [none]
  · refine ⟨circuits, cursors, closes, .inr ⟨endpoint, chosen, allowed, ?_⟩⟩
    unfold withTrafficSlot
    rw [some]
    rfl

structure Invariant (policies : Policies) (controller : Controller) : Prop where
  tracked : Tracked policies controller
  switched : Switched controller

theorem invariant_empty (policies : Policies) : Invariant policies {} := by
  refine ⟨⟨?_, ?_, ?_, ?_, ?_, ?_, ?_, ?_⟩, ⟨?_, ?_, ?_, ?_⟩⟩
  iterate 4 exact fun _ member => absurd member not_mem_nil
  · exact fun _ _ present => absurd present (Option.some_ne_none _).symm
  iterate 3 exact fun _ member => absurd member not_mem_nil
  iterate 2 exact fun _ _ present => absurd present (Option.some_ne_none _).symm
  iterate 2 exact fun _ member => absurd member not_mem_nil

/-- The state of a call once its slots are known. -/
def registered (controller : Controller) (service : Service) (operationKey : String)
    (clock : Nat) : Controller :=
  { controller with
    now := clock
    bucketSlots := bucketSlotsOf service operationKey ++ controller.bucketSlots
    circuitSlots := circuitSlotsOf service operationKey ++ controller.circuitSlots }

theorem distinct_circuitSlotsOf (service : Service) (operationKey : String) :
    Distinct (circuitSlotsOf service operationKey) (circuitSlotsOf service operationKey) := by
  intro slot member other also same
  obtain ⟨_, _, rfl⟩ := mem_map.mp member
  obtain ⟨_, _, rfl⟩ := mem_map.mp also
  exact key_injective (.inr ⟨_, rfl⟩) (.inr ⟨_, rfl⟩) same

section

variable {run : Run} (chosen : run.endpoint ∈ endpointsFor run.service)
include chosen

theorem mem_bucketSlotsOf (member : slot ∈ run.slots) :
    slot ∈ bucketSlotsOf run.service run.operationKey := by
  obtain rfl | ⟨own, rfl⟩ := mem_slots.mp member
  · exact mem_cons_self
  · exact mem_cons_of_mem _ (mem_map.mpr ⟨_, mem_filter.mpr ⟨chosen, own⟩, rfl⟩)

theorem mem_circuitSlotsOf : .endpoint run.service.serviceId run.operationKey run.endpoint.id ∈
      circuitSlotsOf run.service run.operationKey :=
  mem_map.mpr ⟨_, chosen, rfl⟩

end

namespace Invariant

variable {clock : Nat} (invariant : Invariant policies controller)
include invariant

theorem registered (after : controller.now ≤ clock) (fixed : Fixed policies service)
    (apart : Distinct (bucketSlotsOf service operationKey) controller.bucketSlots)
    (switches : Distinct (circuitSlotsOf service operationKey) controller.circuitSlots) :
    Invariant policies (UpstreamGateway.registered controller service operationKey clock) := by
  have tracked := (invariant.tracked.later after).register fixed apart
  have switched := (invariant.switched.later after).register
    (distinct_circuitSlotsOf service operationKey) switches
  exact ⟨tracked.frame rfl rfl rfl rfl rfl, switched.frame rfl rfl rfl rfl⟩

theorem start (given : Given policies controller ⟨clock, .start service operationKey⟩)
    (fits : Fits policies controller ⟨clock, .start service operationKey⟩) :
    Invariant policies (TrafficEvent.next controller ⟨clock, .start service operationKey⟩) ∧
      ∀ run, (TrafficEvent.next controller ⟨clock, .start service operationKey⟩).started =
        (run, clock) :: controller.started → ¬ CircuitOpen controller run clock := by
  obtain ⟨after, fixed⟩ := given
  obtain ⟨apart, switches, whole⟩ := fits
  have ready := invariant.registered after fixed apart switches
  have stepped : next controller ⟨clock, .start service operationKey⟩ =
      withTrafficSlot service operationKey clock
        (UpstreamGateway.registered controller service operationKey clock) := rfl
  rw [stepped]
  obtain ⟨circuits, cursors, closes, none | ⟨endpoint, chosen, allowed, some⟩⟩ :=
    withTrafficSlot_spec service operationKey
      (UpstreamGateway.registered controller service operationKey clock)
  · have same : withTrafficSlot service operationKey clock
        (UpstreamGateway.registered controller service operationKey clock) = _ := none
    rw [same]
    refine ⟨⟨ready.tracked.frame rfl rfl rfl rfl rfl, (ready.switched.closes closes).frame rfl rfl
      rfl rfl⟩, ?_⟩
    intro run begun
    have lengths := congrArg length begun
    exact absurd lengths.symm (Nat.succ_ne_self _)
  · have same : withTrafficSlot service operationKey clock
        (UpstreamGateway.registered controller service operationKey clock) = _ := some
    rw [same]
    let run : Run := ⟨service, operationKey, endpoint⟩
    have passes : Allowed policies (UpstreamGateway.registered controller service operationKey
        clock) run clock := allowed_of_decision fixed chosen allowed
    have known : ∀ slot ∈ run.slots, slot ∈ (UpstreamGateway.registered controller service
        operationKey clock).bucketSlots :=
      fun slot member => mem_append_left _ (mem_bucketSlotsOf chosen member)
    have limited : ∀ slot ∈ run.slots, ∀ policy, policies.of slot = Option.some policy →
        ∃ limit : Nat, policy.maxConcurrent = limit :=
      fun slot member => whole slot (mem_bucketSlotsOf chosen member)
    have started := ready.tracked.start fixed chosen known passes limited
    refine ⟨⟨started.frame rfl rfl rfl rfl rfl, (ready.switched.closes closes).frame rfl rfl
      rfl rfl⟩, ?_⟩
    intro other begun
    have head : run = other := (Prod.mk.inj (cons.inj begun).1).1
    rw [← head]
    exact ready.switched.closed (mem_append_left _ (mem_circuitSlotsOf chosen)) passes

omit invariant

theorem finish (index : Nat) (invariant : Invariant policies controller)
    (after : controller.now ≤ clock) :
    Invariant policies (TrafficEvent.next controller ⟨clock, .finish index⟩) := by
  have timed := invariant.tracked.later after
  have switched := invariant.switched.later after
  unfold TrafficEvent.next
  dsimp only
  cases present : controller.running[index]? with
  | none => exact ⟨timed, switched⟩
  | some run =>
    exact ⟨(timed.finish present).frame rfl rfl rfl rfl rfl, switched.frame rfl rfl rfl rfl⟩

include invariant

theorem outcome {outcome : EndpointOutcome} (after : controller.now ≤ clock)
    (fits : Fits policies controller ⟨clock, .outcome service operationKey endpoint outcome⟩) :
    Invariant policies
      (TrafficEvent.next controller ⟨clock, .outcome service operationKey endpoint outcome⟩) := by
  let slot := Slot.endpoint service.serviceId operationKey endpoint.id
  have own : Distinct [slot] [slot] := by
    intro left here right there _
    rw [mem_singleton.mp here, mem_singleton.mp there]
  have switched := (invariant.switched.later after).register own fits
  have recorded := switched.outcome outcome mem_cons_self
  refine ⟨?_, recorded⟩
  apply (invariant.tracked.later after).frame
  all_goals
    unfold TrafficEvent.next recordEndpointOutcome
    dsimp only
    split
    · rfl
    · rfl

theorem retire (after : controller.now ≤ clock)
    (fits : Fits policies controller ⟨clock, .retire serviceIds⟩) :
    Invariant policies (TrafficEvent.next controller ⟨clock, .retire serviceIds⟩) := by
  obtain ⟨idle, full, separated⟩ := fits
  have tracked := (invariant.tracked.later after).retire idle full
    fun slot known => separated slot (mem_append_left _ known)
  have switched := (invariant.switched.later after).retire
    fun slot known => separated slot (mem_append_right _ known)
  exact ⟨tracked.frame rfl rfl rfl rfl rfl, switched.frame rfl rfl rfl rfl⟩

theorem keeps (given : Given policies controller event) (fits : Fits policies controller event) :
    Invariant policies (event.next controller) ∧ Keeps policies controller event := by
  obtain ⟨clock, step⟩ := event
  have quiet : ∀ run : Run, controller.started ≠ (run, clock) :: controller.started :=
    fun run same => absurd (congrArg length same).symm (Nat.succ_ne_self _)
  cases step with
  | start service operationKey =>
    obtain ⟨after, closed⟩ := invariant.start given fits
    exact ⟨after, after.tracked.withinLimits, closed, nofun, nofun⟩
  | finish index =>
    have after := invariant.finish index given.1
    refine ⟨after, after.tracked.withinLimits, ?_, nofun, nofun⟩
    intro run begun
    refine absurd (Eq.trans ?_ begun) (quiet run)
    unfold TrafficEvent.next
    dsimp only
    split
    · rfl
    · rfl
  | outcome service operationKey endpoint outcome =>
    have after := invariant.outcome given.1 fits
    refine ⟨after, after.tracked.withinLimits, ?_, nofun, nofun⟩
    intro run begun
    refine absurd (Eq.trans ?_ begun) (quiet run)
    unfold TrafficEvent.next recordEndpointOutcome
    dsimp only
    split
    · rfl
    · rfl
  | retire serviceIds =>
    have after := invariant.retire given.1 fits
    obtain ⟨_, _, separated⟩ := fits
    refine ⟨after, after.tracked.withinLimits, ?_, ?_, ?_⟩
    · exact fun run begun => absurd begun (quiet run)
    · intro names same slot known
      cases same
      have apart := separated slot (mem_append_left _ known)
      exact ⟨apart.retain_key _, apart.retain_key _⟩
    · intro names same slot known
      cases same
      exact (separated slot (mem_append_right _ known)).retain_key _

end Invariant

def samplePolicy : TrafficPolicyInput := { perMinute := 60, burst := 10, maxConcurrent := 1 }

def sampleService : Service :=
  { serviceId := "svc", endpoints := [], trafficPolicy := samplePolicy }

def samplePolicies : Policies where
  service _ := normalizeTrafficPolicy samplePolicy
  endpoint _ _ := none

theorem fixed_sampleService : Fixed samplePolicies sampleService := by
  refine ⟨rfl, ?_⟩
  intro endpoint member
  cases mem_singleton.mp member
  rfl

def startAt (clock : Nat) : TrafficEvent := ⟨clock, .start sampleService "read"⟩

def retiredDuringRun : List TrafficEvent := [startAt 1000, ⟨1001, .retire ["svc"]⟩, startAt 1002]

def idleRun : List TrafficEvent := [startAt 1000, ⟨1500, .finish 0⟩]

theorem idleRun_slots :
    (runAll TrafficEvent.next {} idleRun).bucketSlots = [.operation "svc" "read"] ∧
      (runAll TrafficEvent.next {} idleRun).circuitSlots =
        [.endpoint "svc" "read" "primary"] := by
  decide +kernel

theorem sampleLimit_whole (slot : Slot) (policy : TrafficPolicy)
    (of : samplePolicies.of slot = some policy) : ∃ limit : Nat, policy.maxConcurrent = limit := by
  have whole : (normalizeTrafficPolicy samplePolicy).maxConcurrent = (1 : Nat) := by
    decide +kernel
  cases slot with
  | operation serviceId operationKey =>
    cases of
    exact ⟨1, whole⟩
  | endpoint serviceId operationKey endpointId => cases of

theorem separated_sample (service : slot.serviceId = "svc") : Separated ["svc"] slot := by
  have plain : serviceIdOf ("svc" ++ "::") = "svc" := by decide +kernel
  have named : "svc" ∈ ["svc"] ↔ "svc" ∈ retiredNames ["svc"] := by decide +kernel
  refine ⟨?_, fun _ => ?_⟩
  · rw [service]
    exact named
  · rw [service]
    exact plain

theorem idleRun_fits :
    Fits samplePolicies (runAll TrafficEvent.next {} idleRun) ⟨3000, .retire ["svc"]⟩ := by
  obtain ⟨buckets, circuits⟩ := idleRun_slots
  have idle : (runAll TrafficEvent.next {} idleRun).running = [] := by decide +kernel
  have full : (trafficSnapshot (runAll TrafficEvent.next {} idleRun).trafficBuckets
      (Slot.operation "svc" "read").key (normalizeTrafficPolicy samplePolicy) 3000).tokens =
        (normalizeTrafficPolicy samplePolicy).burst := by decide +kernel
  refine ⟨?_, ?_, ?_⟩
  · rw [idle]
    exact fun run member => absurd member not_mem_nil
  · rw [buckets]
    intro slot member _ policy of
    cases mem_singleton.mp member
    cases of
    exact full
  · rw [buckets, circuits]
    intro slot member
    apply separated_sample
    cases mem_cons.mp member with
    | inl first =>
      rw [first]
      rfl
    | inr later =>
      rw [mem_singleton.mp later]
      rfl

end LicoMesh.UpstreamGateway
