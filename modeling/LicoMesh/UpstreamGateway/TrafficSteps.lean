import LicoMesh.UpstreamGateway.TrafficAccounts

namespace LicoMesh.UpstreamGateway

open Function

variable {selection : Selection} {circuits : String → Option Circuit} {policies : Policies}
  {controller : Controller} {now : Nat}

structure Closes (now : Nat) (before after : String → Option Circuit) : Prop where
  present : ∀ key, (after key).isSome = (before key).isSome
  same : ∀ key time, now ≤ time → ((after key).getD {}).at time = ((before key).getD {}).at time

theorem Closes.refl (circuits : String → Option Circuit) : Closes now circuits circuits :=
  ⟨fun _ => rfl, fun _ _ _ => rfl⟩

theorem Closes.trans
    (left : Closes now first middle) (right : Closes now middle last) : Closes now first last :=
  ⟨fun key => (right.present key).trans (left.present key),
    fun key time after => (right.same key time after).trans (left.same key time after)⟩

theorem Circuit.at_at (circuit : Circuit) (after : now ≤ time) :
    (circuit.at now).at time = circuit.at time := by
  have cast : (now : ℚ) ≤ time := Nat.cast_le.mpr after
  have closed : ({} : Circuit).at time = {} := ite_self _
  by_cases expired : 0 < circuit.openedUntilMs ∧ circuit.openedUntilMs ≤ now
  · have later : circuit.at time = {} := if_pos ⟨expired.1, expired.2.trans cast⟩
    have here : circuit.at now = {} := if_pos expired
    rw [here, closed, later]
  · have here : circuit.at now = circuit := if_neg expired
    rw [here]

theorem closeExpired_closes (circuits : String → Option Circuit) (key : String) :
    Closes now circuits (closeExpired circuits key now) := by
  unfold closeExpired
  cases present : circuits key with
  | none => exact .refl circuits
  | some circuit =>
    dsimp only
    refine ⟨?_, ?_⟩
    · intro other
      by_cases same : other = key
      · rw [same, update_self, present]
        rfl
      · rw [update_of_ne same]
    · intro other time after
      by_cases same : other = key
      · rw [same, update_self, present]
        exact circuit.at_at after
      · rw [update_of_ne same]

theorem circuitSnapshot_closes
    (closes : Closes now before after) (key : String) (breaker : CircuitBreaker) :
    circuitSnapshot after key breaker now = circuitSnapshot before key breaker now := by
  unfold circuitSnapshot
  rw [closes.same key now (Nat.le_refl _)]

section Selecting

variable {service : Service} {operationKey : String}

theorem trafficDecision_closes (closes : Closes now controller.endpointCircuits circuits)
    (endpoint : Endpoint) : trafficDecision service operationKey endpoint now
        { controller with endpointCircuits := circuits } =
      trafficDecision service operationKey endpoint now controller := by
  unfold trafficDecision
  dsimp only
  rw [circuitSnapshot_closes closes]

def Selects (service : Service) (operationKey : String) (now : Nat) (controller : Controller)
    (selected : Option Endpoint) : Prop :=
  ∀ endpoint ∈ selected, endpoint ∈ endpointsFor service ∧
    (trafficDecision service operationKey endpoint now controller).allowed = true

theorem considerEndpoint_spec (member : endpoint ∈ endpointsFor service)
    (closes : Closes now controller.endpointCircuits circuits)
    (selects : Selects service operationKey now controller selection.selected) :
    ∃ later chosen, considerEndpoint service operationKey now endpoint
        ({ controller with endpointCircuits := circuits }, selection) =
          ({ controller with endpointCircuits := later }, chosen) ∧
      Closes now controller.endpointCircuits later ∧
      Selects service operationKey now controller chosen.selected := by
  have closed := closes.trans (closeExpired_closes circuits
    (Slot.endpoint service.serviceId operationKey endpoint.id).key)
  unfold considerEndpoint
  dsimp only
  rw [trafficDecision_closes closes]
  split
  · rename_i allowed
    split
    · refine ⟨_, _, rfl, closed, ?_⟩
      intro other same
      cases same
      exact ⟨member, allowed⟩
    · exact ⟨_, _, rfl, closed, selects⟩
  · exact ⟨_, _, rfl, closed, selects⟩

theorem considerEndpoints_spec (members : ∀ endpoint ∈ endpoints, endpoint ∈ endpointsFor service)
    (closes : Closes now controller.endpointCircuits circuits)
    (selects : Selects service operationKey now controller selection.selected) :
    ∃ later chosen, considerEndpoints service operationKey now endpoints
        ({ controller with endpointCircuits := circuits }, selection) =
          ({ controller with endpointCircuits := later }, chosen) ∧
      Closes now controller.endpointCircuits later ∧
      Selects service operationKey now controller chosen.selected := by
  induction endpoints generalizing circuits selection with
  | nil => exact ⟨circuits, selection, rfl, closes, selects⟩
  | cons endpoint rest induction =>
    obtain ⟨middle, chosen, step, closed, allowed⟩ := considerEndpoint_spec
      (members endpoint List.mem_cons_self) closes selects
    rw [considerEndpoints, step]
    exact induction (fun other inside => members other (List.mem_cons_of_mem _ inside)) closed
      allowed

theorem selectEndpointTraffic_spec (service : Service) (operationKey : String) (now : Nat)
    (controller : Controller) :
    ∃ circuits cursors, Closes now controller.endpointCircuits circuits ∧
      ((selectEndpointTraffic service operationKey now controller =
          ({ controller with endpointCircuits := circuits, endpointCursors := cursors }, none)) ∨
        ∃ endpoint ∈ endpointsFor service,
          (trafficDecision service operationKey endpoint now controller).allowed = true ∧
          selectEndpointTraffic service operationKey now controller =
            (consumeAllowedTraffic service operationKey endpoint now
              { controller with endpointCircuits := circuits, endpointCursors := cursors },
              some endpoint)) := by
  unfold selectEndpointTraffic
  dsimp only
  split
  · exact ⟨_, _, Closes.refl _, .inl rfl⟩
  · let start := startSelection (endpointsFor service)
      (controller.endpointCursors (Slot.operation service.serviceId operationKey).key)
    have selects : Selects service operationKey now controller start.selected :=
      fun _ chosen => absurd (Option.mem_def.mp chosen).symm (Option.some_ne_none _)
    obtain ⟨later, chosen, loop, closes, selects⟩ := considerEndpoints_spec
      (fun _ member => member) (Closes.refl controller.endpointCircuits) selects
    rw [loop]
    cases selected : chosen.selected with
    | none => exact ⟨_, _, closes, .inl rfl⟩
    | some endpoint =>
      obtain ⟨member, allowed⟩ := selects endpoint selected
      exact ⟨_, _, closes, .inr ⟨endpoint, member, allowed, rfl⟩⟩

end Selecting

section Buckets

variable {run : Run} {slot : Slot} {policy : TrafficPolicy}

theorem mem_slots : slot ∈ run.slots ↔ slot = .operation run.service.serviceId run.operationKey ∨
      (endpointHasOwnTrafficPolicy run.endpoint = true ∧
        slot = .endpoint run.service.serviceId run.operationKey run.endpoint.id) := by
  unfold Run.slots
  split
  · rename_i own
    simp [own]
  · rename_i other
    simp [other]

theorem policy_of_mem (fixed : Fixed policies run.service)
    (chosen : run.endpoint ∈ endpointsFor run.service) (member : slot ∈ run.slots)
    (of : policies.of slot = some policy) :
    (slot = .operation run.service.serviceId run.operationKey ∧
      policy = normalizeTrafficPolicy run.service.trafficPolicy) ∨
    (slot = .endpoint run.service.serviceId run.operationKey run.endpoint.id ∧
      ownTrafficPolicy run.endpoint = some policy) := by
  cases mem_slots.mp member with
  | inl operation =>
    subst operation
    refine .inl ⟨rfl, ?_⟩
    rw [fixed.same]
    exact (Option.some.inj of).symm
  | inr own =>
    obtain ⟨_, same⟩ := own
    subst same
    exact .inr ⟨rfl, (fixed.own _ chosen).trans of⟩

theorem storeBuckets_key (step : Bucket → Bucket) (now : Nat) (buckets : String → Option Bucket)
    (fixed : Fixed policies run.service) (chosen : run.endpoint ∈ endpointsFor run.service)
    (of : policies.of slot = some policy)
    (distinct : ∀ other ∈ run.slots, other.key = slot.key → other = slot) :
    storeBuckets step run.service run.operationKey run.endpoint now buckets slot.key =
      if slot ∈ run.slots then some (step (trafficSnapshot buckets slot.key policy now))
      else buckets slot.key := by
  have apart : (Slot.operation run.service.serviceId run.operationKey).key ≠
      (Slot.endpoint run.service.serviceId run.operationKey run.endpoint.id).key := by
    intro same
    cases key_injective (.inl rfl) (.inr ⟨_, rfl⟩) same
  have stored : ∀ other ∈ run.slots, other ≠ slot → slot.key ≠ other.key :=
    fun other member different same => different (distinct other member same.symm)
  unfold storeBuckets
  by_cases member : slot ∈ run.slots
  · rw [if_pos member]
    obtain ⟨rfl, rfl⟩ | ⟨rfl, own⟩ := policy_of_mem fixed chosen member of
    · cases own : ownTrafficPolicy run.endpoint with
      | none => exact update_self _ _ _
      | some ownPolicy =>
        dsimp only
        rw [update_of_ne apart, update_self]
    · rw [own]
      dsimp only
      rw [update_self]
      unfold trafficSnapshot
      rw [update_of_ne apart.symm]
  · rw [if_neg member]
    have first := stored _ (mem_slots.mpr (.inl rfl)) fun same => member (same ▸
      mem_slots.mpr (.inl rfl))
    cases own : ownTrafficPolicy run.endpoint with
    | none => exact update_of_ne first _ _
    | some ownPolicy =>
      have has : endpointHasOwnTrafficPolicy run.endpoint = true := by
        unfold ownTrafficPolicy at own
        split at own
        · assumption
        · cases own
      have second := stored _ (mem_slots.mpr (.inr ⟨has, rfl⟩)) fun same => member (same ▸
        mem_slots.mpr (.inr ⟨has, rfl⟩))
      dsimp only
      rw [update_of_ne second, update_of_ne first]

theorem storeBuckets_other (other : ∀ slot ∈ run.slots, slot.key ≠ key) :
    storeBuckets step run.service run.operationKey run.endpoint now buckets key = buckets key := by
  have first := other _ (mem_slots.mpr (.inl rfl))
  unfold storeBuckets
  cases own : ownTrafficPolicy run.endpoint with
  | none => exact update_of_ne first.symm _ _
  | some ownPolicy =>
    have has : endpointHasOwnTrafficPolicy run.endpoint = true := by
      unfold ownTrafficPolicy at own
      split at own
      · assumption
      · cases own
    have second := other _ (mem_slots.mpr (.inr ⟨has, rfl⟩))
    dsimp only
    rw [update_of_ne second.symm, update_of_ne first.symm]

structure Allowed (policies : Policies) (controller : Controller) (run : Run) (now : Nat) :
    Prop where
  token : ∀ slot ∈ run.slots, ∀ policy, policies.of slot = some policy →
    1 ≤ (trafficSnapshot controller.trafficBuckets slot.key policy now).tokens
  room : ∀ slot ∈ run.slots, ∀ policy, policies.of slot = some policy →
    ((trafficSnapshot controller.trafficBuckets slot.key policy now).inFlight : ℚ) <
      policy.maxConcurrent
  closed : (circuitSnapshot controller.endpointCircuits
    (Slot.endpoint run.service.serviceId run.operationKey run.endpoint.id).key
    (breakerOf run.service run.endpoint) now).isOpen = false

theorem allowed_of_decision (fixed : Fixed policies run.service)
    (chosen : run.endpoint ∈ endpointsFor run.service)
    (allowed : (trafficDecision run.service run.operationKey run.endpoint now controller).allowed =
      true) : Allowed policies controller run now := by
  unfold trafficDecision at allowed
  simp only [Bool.and_eq_true, Bool.not_eq_true', decide_eq_true_eq] at allowed
  obtain ⟨⟨⟨⟨closed, token⟩, room⟩, ownToken⟩, ownRoom⟩ := allowed
  refine ⟨?_, ?_, closed⟩
  · intro slot member policy of
    obtain ⟨rfl, rfl⟩ | ⟨rfl, own⟩ := policy_of_mem fixed chosen member of
    · exact token
    · rw [own] at ownToken
      simpa using ownToken
  · intro slot member policy of
    obtain ⟨rfl, rfl⟩ | ⟨rfl, own⟩ := policy_of_mem fixed chosen member of
    · exact room
    · rw [own] at ownRoom
      simpa using ownRoom

end Buckets

end LicoMesh.UpstreamGateway
