import LicoMesh.UpstreamGateway.TrafficSteps
import LicoMesh.Library.Path

namespace LicoMesh.UpstreamGateway

open List Option Function

open Library.TokenBucket

variable {serviceIds : List String} {now : Nat} {policies : Policies} {controller : Controller}
  {run : Run} {slot : Slot} {policy : TrafficPolicy}

structure WithinLimits (policies : Policies) (controller : Controller) : Prop where
  concurrency : ∀ slot policy, policies.of slot = some policy →
    (controller.runs slot : ℚ) ≤ policy.maxConcurrent
  rate : ∀ slot policy, policies.of slot = some policy → ∀ first last : ℚ, first ≤ last →
    (startsWithin (controller.starts slot) first last : ℚ) ≤
      policy.burst + policy.perMinute * (last - first) / 60000
  idle : controller.running = [] → ∀ key bucket, controller.trafficBuckets key = some bucket →
    bucket.inFlight = 0

def CircuitOpen (controller : Controller) (run : Run) (now : Nat) : Prop :=
  (breakerOf run.service run.endpoint).enabled = true ∧
    (now : ℚ) < ((controller.circuits (.endpoint run.service.serviceId run.operationKey
      run.endpoint.id)).getD {}).openedUntilMs

/-- What a step keeps: the limits, closed circuits for new runs, and the state of the services that
a retirement does not name. -/
structure Keeps (policies : Policies) (controller : Controller) (event : TrafficEvent) : Prop where
  limits : WithinLimits policies (event.next controller)
  circuits : ∀ run, (event.next controller).started = (run, event.clock) :: controller.started →
    ¬ CircuitOpen controller run event.clock
  buckets : ∀ serviceIds, event.step = .retire serviceIds → ∀ slot ∈ controller.bucketSlots,
    ((event.next controller).trafficBuckets slot.key =
      if slot.serviceId ∈ serviceIds then none else controller.trafficBuckets slot.key) ∧
    (event.next controller).endpointCursors slot.key =
      if slot.serviceId ∈ serviceIds then none else controller.endpointCursors slot.key
  circuit : ∀ serviceIds, event.step = .retire serviceIds → ∀ slot ∈ controller.circuitSlots,
    (event.next controller).endpointCircuits slot.key =
      if slot.serviceId ∈ serviceIds then none else controller.endpointCircuits slot.key

def Given (policies : Policies) (controller : Controller) (event : TrafficEvent) : Prop :=
  controller.now ≤ event.clock ∧
    match event.step with
    | .start service _ => Fixed policies service
    | _ => True

/-- Calls do not share keys with earlier ones of other names, their limits of concurrency are whole
numbers, and a retirement names services that are idle and whose buckets are full. -/
def Fits (policies : Policies) (controller : Controller) (event : TrafficEvent) : Prop :=
  match event.step with
  | .start service operationKey =>
    Distinct (bucketSlotsOf service operationKey) controller.bucketSlots ∧
    Distinct (circuitSlotsOf service operationKey) controller.circuitSlots ∧
    ∀ slot ∈ bucketSlotsOf service operationKey, ∀ policy, policies.of slot = some policy →
      ∃ limit : Nat, policy.maxConcurrent = limit
  | .finish _ => True
  | .outcome service operationKey endpoint _ =>
    Distinct [.endpoint service.serviceId operationKey endpoint.id] controller.circuitSlots
  | .retire serviceIds =>
    (∀ run ∈ controller.running, run.service.serviceId ∉ serviceIds) ∧
    (∀ slot ∈ controller.bucketSlots, slot.serviceId ∈ serviceIds →
      ∀ policy, policies.of slot = some policy →
        (trafficSnapshot controller.trafficBuckets slot.key policy event.clock).tokens =
          policy.burst) ∧
    ∀ slot ∈ controller.bucketSlots ++ controller.circuitSlots, Separated serviceIds slot

/-- The buckets say how many runs there are and what was started. -/
structure Tracked (policies : Policies) (controller : Controller) : Prop where
  fixed : ∀ run ∈ controller.running, Fixed policies run.service
  chosen : ∀ run ∈ controller.running, run.endpoint ∈ endpointsFor run.service
  running : ∀ run ∈ controller.running, ∀ slot ∈ run.slots, slot ∈ controller.bucketSlots
  started : ∀ entry ∈ controller.started, ∀ slot ∈ entry.1.slots, slot ∈ controller.bucketSlots
  buckets : ∀ key bucket, controller.trafficBuckets key = some bucket →
    ∃ slot ∈ controller.bucketSlots, slot.key = key
  policed : ∀ slot ∈ controller.bucketSlots, ∃ policy, policies.of slot = some policy
  distinct : Distinct controller.bucketSlots controller.bucketSlots
  accounts : ∀ slot ∈ controller.bucketSlots, ∀ policy, policies.of slot = some policy →
    Account policy (controller.trafficBuckets slot.key) (controller.runs slot)
      (controller.starts slot) controller.now

theorem runs_eq_zero (unused : ∀ run ∈ controller.running, slot ∉ run.slots) :
    controller.runs slot = 0 := by
  unfold Controller.runs
  rw [countP_eq_zero]
  intro run member
  rw [decide_eq_true_eq]
  exact unused run member

theorem starts_eq_nil (unused : ∀ entry ∈ controller.started, slot ∉ entry.1.slots) :
    controller.starts slot = [] := by
  unfold Controller.starts
  rw [map_eq_nil_iff, filter_eq_nil_iff]
  intro entry member
  rw [decide_eq_true_eq]
  exact unused entry member

theorem countP_cons_slots (run : Run) (rest : List Run) :
    (run :: rest).countP (fun other => slot ∈ other.slots) =
      rest.countP (fun other => slot ∈ other.slots) + if slot ∈ run.slots then 1 else 0 := by
  rw [countP_cons]
  simp only [decide_eq_true_eq]

theorem filter_cons_slots (run : Run) (time : Nat) (rest : List (Run × Nat)) :
    ((run, time) :: rest).filter (fun entry => slot ∈ entry.1.slots) =
      if slot ∈ run.slots then (run, time) :: rest.filter (fun entry => slot ∈ entry.1.slots)
      else rest.filter (fun entry => slot ∈ entry.1.slots) := by
  rw [filter_cons]
  simp only [decide_eq_true_eq]

theorem Account.bounded (account : Account policy bucket runs starts now) (before : first ≤ last) :
    (startsWithin starts first last : ℚ) ≤
      policy.burst + policy.perMinute * (last - first) / 60000 := by
  have rate : policy.perMinute * (last - first) / 60000 =
      refillRatePerMs policy * (last - first) := by
    unfold refillRatePerMs
    ring
  rw [rate]
  cases bucket with
  | some stored => exact (account.stored stored rfl).2.2.bounded first last before
  | none =>
    obtain ⟨_, since, _, metered⟩ := account.missing rfl
    exact metered.bounded first last before

namespace Tracked

variable (tracked : Tracked policies controller)
include tracked

theorem account (of : policies.of slot = some policy) : ∃ bucket,
      Account policy bucket (controller.runs slot) (controller.starts slot) controller.now := by
  by_cases known : slot ∈ controller.bucketSlots
  · exact ⟨_, tracked.accounts slot known policy of⟩
  · refine ⟨none, ?_⟩
    rw [runs_eq_zero fun run member used => known (tracked.running run member slot used),
      starts_eq_nil fun entry member used => known (tracked.started entry member slot used)]
    exact account_new policy _

theorem withinLimits : WithinLimits policies controller := by
  refine ⟨?_, ?_, ?_⟩
  · intro slot policy of
    obtain ⟨_, account⟩ := tracked.account of
    exact account.limited
  · intro slot policy of first last before
    obtain ⟨_, account⟩ := tracked.account of
    exact account.bounded before
  · intro idle key bucket present
    obtain ⟨slot, known, rfl⟩ := tracked.buckets key bucket present
    obtain ⟨policy, of⟩ := tracked.policed slot known
    obtain ⟨_, counted, _⟩ := (tracked.accounts slot known policy of).stored bucket present
    rw [counted]
    apply runs_eq_zero
    rw [idle]
    exact fun run member => absurd member not_mem_nil

theorem later (after : controller.now ≤ clock) :
    Tracked policies { controller with now := clock } := by
  refine ⟨tracked.fixed, tracked.chosen, tracked.running, tracked.started, tracked.buckets,
    tracked.policed, tracked.distinct, ?_⟩
  intro slot known policy of
  exact (tracked.accounts slot known policy of).later after

theorem register (fixed : Fixed policies service)
    (apart : Distinct (bucketSlotsOf service operationKey) controller.bucketSlots) :
    Tracked policies { controller with
      bucketSlots := bucketSlotsOf service operationKey ++ controller.bucketSlots } := by
  have named : ∀ slot ∈ bucketSlotsOf service operationKey,
      slot = .operation service.serviceId operationKey ∨
        ∃ endpointId, slot = .endpoint service.serviceId operationKey endpointId := by
    intro slot member
    cases mem_cons.mp member with
    | inl operation => exact .inl operation
    | inr own =>
      obtain ⟨endpoint, _, rfl⟩ := mem_map.mp own
      exact .inr ⟨_, rfl⟩
  refine ⟨tracked.fixed, tracked.chosen, ?_, ?_, ?_, ?_, ?_, ?_⟩
  · exact fun run member slot used =>
      mem_append_right _ (tracked.running run member slot used)
  · exact fun entry member slot used =>
      mem_append_right _ (tracked.started entry member slot used)
  · intro key bucket present
    obtain ⟨slot, known, same⟩ := tracked.buckets key bucket present
    exact ⟨slot, mem_append_right _ known, same⟩
  · intro slot known
    cases mem_append.mp known with
    | inl new =>
      cases mem_cons.mp new with
      | inl operation =>
        subst operation
        exact ⟨_, rfl⟩
      | inr own =>
        obtain ⟨endpoint, member, rfl⟩ := mem_map.mp own
        obtain ⟨inside, has⟩ := mem_filter.mp member
        refine ⟨normalizeTrafficPolicy endpoint.trafficPolicy, ?_⟩
        rw [Policies.of, ← fixed.own endpoint inside]
        exact if_pos has
    | inr old => exact tracked.policed slot old
  · intro slot known other there same
    cases mem_append.mp known with
    | inl new =>
      cases mem_append.mp there with
      | inl also => exact key_injective (named slot new) (named other also) same
      | inr old => exact apart slot new other old same
    | inr old =>
      cases mem_append.mp there with
      | inl new => exact (apart other new slot old same.symm).symm
      | inr also => exact tracked.distinct slot old other also same
  · intro slot known policy of
    by_cases old : slot ∈ controller.bucketSlots
    · exact tracked.accounts slot old policy of
    · have new : slot ∈ bucketSlotsOf service operationKey :=
        (mem_append.mp known).resolve_right old
      have missing : controller.trafficBuckets slot.key = none := by
        cases present : controller.trafficBuckets slot.key with
        | none => rfl
        | some bucket =>
          obtain ⟨other, there, same⟩ := tracked.buckets _ bucket present
          exact absurd (apart slot new other there same.symm ▸ there) old
      have runs : controller.runs slot = 0 :=
        runs_eq_zero fun run member used => old (tracked.running run member slot used)
      have starts : controller.starts slot = [] :=
        starts_eq_nil fun entry member used => old (tracked.started entry member slot used)
      change Account policy (controller.trafficBuckets slot.key) (controller.runs slot)
        (controller.starts slot) controller.now
      rw [missing, runs, starts]
      exact account_new policy _

theorem stored (known : ∀ slot ∈ run.slots, slot ∈ controller.bucketSlots) (key : String)
    (bucket : Bucket) (present : storeBuckets step run.service run.operationKey run.endpoint now
      controller.trafficBuckets key = some bucket) :
    ∃ slot ∈ controller.bucketSlots, slot.key = key := by
  by_cases own : ∃ slot ∈ run.slots, slot.key = key
  · obtain ⟨slot, member, same⟩ := own
    exact ⟨slot, known slot member, same⟩
  · rw [storeBuckets_other fun slot member same => own ⟨slot, member, same⟩] at present
    exact tracked.buckets key bucket present

theorem start (fixed : Fixed policies run.service)
    (chosen : run.endpoint ∈ endpointsFor run.service)
    (known : ∀ slot ∈ run.slots, slot ∈ controller.bucketSlots)
    (allowed : Allowed policies controller run controller.now)
    (whole : ∀ slot ∈ run.slots, ∀ policy, policies.of slot = some policy →
      ∃ limit : Nat, policy.maxConcurrent = limit) : Tracked policies { controller with
      trafficBuckets := storeBuckets takeToken run.service run.operationKey run.endpoint
        controller.now controller.trafficBuckets
      running := run :: controller.running
      started := (run, controller.now) :: controller.started } := by
  refine ⟨?_, ?_, ?_, ?_, tracked.stored known, tracked.policed, tracked.distinct, ?_⟩
  · intro other member
    cases mem_cons.mp member with
    | inl new =>
      rw [new]
      exact fixed
    | inr old => exact tracked.fixed other old
  · intro other member
    cases mem_cons.mp member with
    | inl new =>
      rw [new]
      exact chosen
    | inr old => exact tracked.chosen other old
  · intro other member
    cases mem_cons.mp member with
    | inl new =>
      rw [new]
      exact known
    | inr old => exact tracked.running other old
  · intro entry member
    cases mem_cons.mp member with
    | inl new =>
      rw [new]
      exact known
    | inr old => exact tracked.started entry old
  · intro slot there policy of
    have account := tracked.accounts slot there policy of
    have key := storeBuckets_key takeToken controller.now controller.trafficBuckets fixed chosen of
      fun other member same => tracked.distinct other (known other member) slot there same
    dsimp only
    rw [key]
    unfold Controller.runs Controller.starts
    rw [countP_cons_slots, filter_cons_slots]
    by_cases member : slot ∈ run.slots
    · obtain ⟨limit, limited⟩ := whole slot member policy of
      rw [if_pos member, if_pos member, if_pos member, map_cons]
      exact account.take (Nat.le_refl _) limited (allowed.token slot member policy of)
        (allowed.room slot member policy of)
    · rw [if_neg member, if_neg member, if_neg member]
      exact account

theorem finish (present : controller.running[index]? = some run) :
    Tracked policies { controller with
      trafficBuckets := storeBuckets releaseSlot run.service run.operationKey run.endpoint
        controller.now controller.trafficBuckets
      running := controller.running.eraseIdx index } := by
  obtain ⟨bound, same⟩ := List.getElem?_eq_some_iff.mp present
  have member := mem_of_getElem? present
  have kept : ∀ other ∈ controller.running.eraseIdx index, other ∈ controller.running :=
    fun other => mem_of_mem_eraseIdx
  have perm : (run :: controller.running.eraseIdx index).Perm controller.running := by
    have all := getElem_cons_eraseIdx_perm bound
    rw [same] at all
    exact all
  have known := tracked.running run member
  refine ⟨fun other there => tracked.fixed other (kept other there),
    fun other there => tracked.chosen other (kept other there),
    fun other there => tracked.running other (kept other there), tracked.started,
    tracked.stored known, tracked.policed, tracked.distinct, ?_⟩
  intro slot there policy of
  have account := tracked.accounts slot there policy of
  have key := storeBuckets_key releaseSlot controller.now controller.trafficBuckets
    (tracked.fixed run member) (tracked.chosen run member)
    of fun other inside equal => tracked.distinct other (known other inside) slot there equal
  have counted := perm.countP_eq fun other => decide (slot ∈ other.slots)
  unfold Controller.runs at account
  dsimp only
  rw [key]
  rw [countP_cons_slots] at counted
  rw [← counted] at account
  by_cases used : slot ∈ run.slots
  · rw [if_pos used] at account ⊢
    exact account.release (Nat.le_refl _)
  · rw [if_neg used] at account ⊢
    exact account

theorem retire (idle : ∀ run ∈ controller.running, run.service.serviceId ∉ serviceIds)
    (full : ∀ slot ∈ controller.bucketSlots, slot.serviceId ∈ serviceIds →
      ∀ policy, policies.of slot = some policy →
        (trafficSnapshot controller.trafficBuckets slot.key policy controller.now).tokens =
          policy.burst) (separated : ∀ slot ∈ controller.bucketSlots, Separated serviceIds slot) :
    Tracked policies { controller with
      trafficBuckets := retain (retiredNames serviceIds) controller.trafficBuckets } := by
  refine ⟨tracked.fixed, tracked.chosen, tracked.running, tracked.started, ?_, tracked.policed,
    tracked.distinct, ?_⟩
  · intro key bucket present
    apply tracked.buckets key bucket
    change retain _ controller.trafficBuckets key = _ at present
    unfold retain at present
    split at present
    · cases present
    · exact present
  · intro slot known policy of
    have account := tracked.accounts slot known policy of
    change Account policy (retain _ controller.trafficBuckets slot.key) (controller.runs slot)
      (controller.starts slot) controller.now
    rw [(separated slot known).retain_key]
    by_cases named : slot.serviceId ∈ serviceIds
    · have unused : controller.runs slot = 0 := by
        apply runs_eq_zero
        intro run member used
        have service : slot.serviceId = run.service.serviceId := by
          obtain rfl | ⟨_, rfl⟩ := mem_slots.mp used
          · rfl
          · rfl
        exact idle run member (service ▸ named)
      rw [if_pos named, unused]
      rw [unused] at account
      exact account.retire (Nat.le_refl _) (full slot known named policy of)
    · rw [if_neg named]
      exact account

end Tracked

structure Switched (controller : Controller) : Prop where
  stored : ∀ key circuit, controller.endpointCircuits key = some circuit →
    ∃ slot ∈ controller.circuitSlots, slot.key = key
  recorded : ∀ slot circuit, controller.circuits slot = some circuit →
    slot ∈ controller.circuitSlots
  distinct : Distinct controller.circuitSlots controller.circuitSlots
  agree : ∀ slot ∈ controller.circuitSlots, ∀ time, controller.now ≤ time →
    ((controller.endpointCircuits slot.key).getD {}).at time =
      ((controller.circuits slot).getD {}).at time

theorem Circuit.record_congr {left right : Circuit} (same : left.at now = right.at now)
    (breaker : CircuitBreaker) (outcome : EndpointOutcome) :
    left.record breaker outcome now = right.record breaker outcome now := by
  unfold record
  rw [same]

namespace Switched

variable (switched : Switched controller)
include switched

theorem later (after : controller.now ≤ clock) : Switched { controller with now := clock } :=
  ⟨switched.stored, switched.recorded, switched.distinct,
    fun slot known time reached => switched.agree slot known time (after.trans reached)⟩

theorem register (own : Distinct slots slots) (apart : Distinct slots controller.circuitSlots) :
    Switched { controller with circuitSlots := slots ++ controller.circuitSlots } := by
  refine ⟨?_, ?_, ?_, ?_⟩
  · intro key circuit present
    obtain ⟨slot, known, same⟩ := switched.stored key circuit present
    exact ⟨slot, mem_append_right _ known, same⟩
  · exact fun slot circuit present =>
      mem_append_right _ (switched.recorded slot circuit present)
  · intro slot known other there same
    cases mem_append.mp known with
    | inl new =>
      cases mem_append.mp there with
      | inl also => exact own slot new other also same
      | inr old => exact apart slot new other old same
    | inr old =>
      cases mem_append.mp there with
      | inl new => exact (apart other new slot old same.symm).symm
      | inr also => exact switched.distinct slot old other also same
  · intro slot known time reached
    by_cases old : slot ∈ controller.circuitSlots
    · exact switched.agree slot old time reached
    · have new : slot ∈ slots := (mem_append.mp known).resolve_right old
      have missing : controller.endpointCircuits slot.key = none := by
        cases present : controller.endpointCircuits slot.key with
        | none => rfl
        | some circuit =>
          obtain ⟨other, there, same⟩ := switched.stored _ circuit present
          exact absurd (apart slot new other there same.symm ▸ there) old
      have unrecorded : controller.circuits slot = none := by
        cases present : controller.circuits slot with
        | none => rfl
        | some circuit => exact absurd (switched.recorded slot circuit present) old
      rw [missing, unrecorded]

theorem closes (closes : Closes controller.now controller.endpointCircuits circuits) :
    Switched { controller with endpointCircuits := circuits } := by
  refine ⟨?_, switched.recorded, switched.distinct, ?_⟩
  · intro key circuit present
    have there : (controller.endpointCircuits key).isSome = true := by
      rw [← closes.present key]
      exact isSome_iff_exists.mpr ⟨circuit, present⟩
    obtain ⟨old, found⟩ := isSome_iff_exists.mp there
    exact switched.stored key old found
  · exact fun slot known time reached =>
      (closes.same slot.key time reached).trans (switched.agree slot known time reached)

theorem outcome {endpoint : Endpoint} (outcome : EndpointOutcome)
    (known : .endpoint service.serviceId operationKey endpoint.id ∈ controller.circuitSlots) :
    Switched (recordEndpointOutcome service operationKey endpoint outcome controller.now
      controller) := by
  unfold recordEndpointOutcome
  split
  swap
  · exact switched
  refine ⟨?_, ?_, switched.distinct, ?_⟩
  · intro key circuit present
    by_cases same : key = (Slot.endpoint service.serviceId operationKey endpoint.id).key
    · exact ⟨_, known, same.symm⟩
    · dsimp only at present
      rw [update_of_ne same] at present
      exact switched.stored key circuit present
  · intro slot circuit present
    by_cases same : slot = .endpoint service.serviceId operationKey endpoint.id
    · rw [same]
      exact known
    · dsimp only at present
      rw [update_of_ne same] at present
      exact switched.recorded slot circuit present
  · intro slot there time reached
    dsimp only
    by_cases same : slot = .endpoint service.serviceId operationKey endpoint.id
    · rw [same, update_self, update_self, getD_some, getD_some,
        Circuit.record_congr (switched.agree _ known controller.now (Nat.le_refl _))]
    · have apart : slot.key ≠ (Slot.endpoint service.serviceId operationKey endpoint.id).key :=
        fun equal => same (switched.distinct slot there _ known equal)
      rw [update_of_ne apart, update_of_ne same]
      exact switched.agree slot there time reached

theorem retire (separated : ∀ slot ∈ controller.circuitSlots, Separated serviceIds slot) :
    Switched { controller with
      endpointCircuits := retain (retiredNames serviceIds) controller.endpointCircuits
      circuits := fun slot =>
        if slot.serviceId ∈ serviceIds then none else controller.circuits slot } := by
  refine ⟨?_, ?_, switched.distinct, ?_⟩
  · intro key circuit present
    apply switched.stored key circuit
    change retain _ controller.endpointCircuits key = _ at present
    unfold retain at present
    split at present
    · cases present
    · exact present
  · intro slot circuit present
    apply switched.recorded slot circuit
    dsimp only at present
    split at present
    · cases present
    · exact present
  · intro slot known time reached
    dsimp only
    rw [(separated slot known).retain_key]
    split
    · rfl
    · exact switched.agree slot known time reached

theorem closed (known : .endpoint run.service.serviceId
      run.operationKey run.endpoint.id ∈ controller.circuitSlots)
    (allowed : Allowed policies controller run controller.now) :
    ¬ CircuitOpen controller run controller.now := by
  rintro ⟨enabled, later⟩
  have agree := switched.agree _ known controller.now (Nat.le_refl _)
  have unexpired : ((controller.circuits (.endpoint run.service.serviceId run.operationKey
      run.endpoint.id)).getD {}).at controller.now =
      (controller.circuits (.endpoint run.service.serviceId run.operationKey
        run.endpoint.id)).getD {} := if_neg fun expired => absurd expired.2 (not_le.mpr later)
  have closed := allowed.closed
  unfold circuitSnapshot at closed
  rw [agree, unexpired, enabled] at closed
  simp [later] at closed

end Switched

end LicoMesh.UpstreamGateway
