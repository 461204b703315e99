import LicoMesh.UpstreamGateway.EndpointTraffic
import LicoMesh.Library.TokenBucket

namespace LicoMesh.UpstreamGateway

open Library.TokenBucket

/-! The texts that key the controller's maps, and what its buckets say about the runs. -/

variable {slot : Slot} {buckets : String → Option Bucket} {key : String}

def Distinct (slots known : List Slot) : Prop :=
  ∀ slot ∈ slots, ∀ other ∈ known, slot.key = other.key → slot = other

/-- The names of a retirement name the service as it is, and its id is the part of its keys before
the first separator, if the retirement touches them. -/
structure Separated (serviceIds : List String) (slot : Slot) : Prop where
  named : slot.serviceId ∈ serviceIds ↔ slot.serviceId ∈ retiredNames serviceIds
  separates : slot.serviceId ∈ retiredNames serviceIds ∨
    serviceIdOf slot.key ∈ retiredNames serviceIds →
    serviceIdOf (slot.serviceId ++ "::") = slot.serviceId

theorem beforeSeparator_append (separates : beforeSeparator (chars ++ [':', ':']) = chars)
    (rest : List Char) : beforeSeparator (chars ++ ':' :: ':' :: rest) = chars := by
  induction chars with
  | nil => rfl
  | cons char chars induction =>
    cases chars with
    | nil =>
      by_cases colon : char = ':'
      · subst colon
        cases separates
      · simp [beforeSeparator, colon]
    | cons second chars =>
      by_cases colons : char = ':' ∧ second = ':'
      · obtain ⟨rfl, rfl⟩ := colons
        cases separates
      · have step : ∀ more, beforeSeparator (char :: second :: more) =
            char :: beforeSeparator (second :: more) := by
          intro more
          rw [beforeSeparator]
          rintro _ rfl ⟨rfl, _⟩
          exact colons ⟨rfl, rfl⟩
        rw [List.cons_append, List.cons_append, step] at separates
        rw [List.cons_append, List.cons_append, step]
        exact congrArg _ (induction (List.cons.inj separates).2)

theorem serviceIdOf_append
    (separates : serviceIdOf (serviceId ++ "::") = serviceId) (rest : String) :
    serviceIdOf (serviceId ++ "::" ++ rest) = serviceId := by
  unfold serviceIdOf at separates ⊢
  have chars : beforeSeparator (serviceId.toList ++ [':', ':']) = serviceId.toList := by
    have same := congrArg String.toList separates
    rw [String.toList_ofList, String.toList_append] at same
    exact same
  rw [String.toList_append, String.toList_append, List.append_assoc]
  have whole : beforeSeparator (serviceId.toList ++ ':' :: ':' :: rest.toList) =
      serviceId.toList := beforeSeparator_append chars rest.toList
  exact (congrArg String.ofList whole).trans String.ofList_toList

theorem serviceIdOf_key (separates : serviceIdOf (slot.serviceId ++ "::") = slot.serviceId) :
    serviceIdOf slot.key = slot.serviceId := by
  cases slot with
  | operation serviceId operationKey => exact serviceIdOf_append separates operationKey
  | endpoint serviceId operationKey endpointId =>
    have key : (Slot.endpoint serviceId operationKey endpointId).key =
        serviceId ++ "::" ++ (operationKey ++ "::" ++ endpointId) := by
      simp [Slot.key, trafficKey, String.append_assoc]
    rw [key]
    exact serviceIdOf_append separates _

theorem Separated.retain_key (separated : Separated serviceIds slot) (state : String → Option α) :
    retain (retiredNames serviceIds) state slot.key =
      if slot.serviceId ∈ serviceIds then none else state slot.key := by
  unfold retain
  by_cases retired : slot.serviceId ∈ retiredNames serviceIds
  · have key := serviceIdOf_key (separated.separates (.inl retired))
    rw [if_pos (key ▸ retired), if_pos (separated.named.mpr retired)]
  · have kept : serviceIdOf slot.key ∉ retiredNames serviceIds := by
      intro removed
      have key := serviceIdOf_key (separated.separates (.inr removed))
      exact retired (key ▸ removed)
    rw [if_neg kept, if_neg (fun named => retired (separated.named.mp named))]

theorem key_injective (left : slot = .operation serviceId operationKey ∨
      ∃ endpointId, slot = .endpoint serviceId operationKey endpointId)
    (right : other = .operation serviceId operationKey ∨
      ∃ endpointId, other = .endpoint serviceId operationKey endpointId)
    (same : slot.key = other.key) : slot = other := by
  have longer : ∀ endpointId, (Slot.operation serviceId operationKey).key ≠
      (Slot.endpoint serviceId operationKey endpointId).key := by
    intro endpointId equal
    have lengths := congrArg String.length equal
    simp only [Slot.key, String.length_append] at lengths
    have separator : "::".length = 2 := rfl
    omega
  obtain rfl | ⟨endpointId, rfl⟩ := left
  · obtain rfl | ⟨otherId, rfl⟩ := right
    · rfl
    · exact absurd same (longer otherId)
  · obtain rfl | ⟨otherId, rfl⟩ := right
    · exact absurd same.symm (longer endpointId)
    · have ids : endpointId = otherId := by
        simpa [Slot.key] using same
      rw [ids]

structure Policies where
  service : String → TrafficPolicy
  endpoint : String → String → Option TrafficPolicy

def Policies.of (policies : Policies) : Slot → Option TrafficPolicy
  | .operation serviceId _ => some (policies.service serviceId)
  | .endpoint serviceId _ endpointId => policies.endpoint serviceId endpointId

structure Fixed (policies : Policies) (service : Service) : Prop where
  same : normalizeTrafficPolicy service.trafficPolicy = policies.service service.serviceId
  own : ∀ endpoint ∈ endpointsFor service,
    ownTrafficPolicy endpoint = policies.endpoint service.serviceId endpoint.id

def Run.slots (run : Run) : List Slot :=
  .operation run.service.serviceId run.operationKey ::
    if endpointHasOwnTrafficPolicy run.endpoint then
      [.endpoint run.service.serviceId run.operationKey run.endpoint.id]
    else []

def Controller.runs (controller : Controller) (slot : Slot) : Nat :=
  controller.running.countP fun run => slot ∈ run.slots

def Controller.starts (controller : Controller) (slot : Slot) : List ℚ :=
  (controller.started.filter fun entry => slot ∈ entry.1.slots).map fun entry => (entry.2 : ℚ)

structure Account (policy : TrafficPolicy) (bucket : Option Bucket) (runs : Nat) (starts : List ℚ)
    (now : Nat) : Prop where
  stored : ∀ stored, bucket = some stored → stored.updatedAtMs ≤ now ∧ stored.inFlight = runs ∧
    Metered policy.burst (refillRatePerMs policy) stored.updatedAtMs stored.tokens starts
  missing : bucket = none → runs = 0 ∧ ∃ since : Nat, since ≤ now ∧
    Metered policy.burst (refillRatePerMs policy) since policy.burst starts
  limited : (runs : ℚ) ≤ policy.maxConcurrent

theorem refillRatePerMs_nonneg (policy : TrafficPolicy) : 0 ≤ refillRatePerMs policy := by
  have one := policy.one_le_perMinute
  exact div_nonneg (by linarith) (by norm_num)

theorem account_new (policy : TrafficPolicy) (now : Nat) : Account policy none 0 [] now := by
  have burst := policy.one_le_burst
  have concurrent := policy.one_le_maxConcurrent
  refine ⟨nofun, fun _ => ⟨rfl, now, le_refl _, ?_⟩, ?_⟩
  · exact metered_full (by linarith) (refillRatePerMs_nonneg policy) _
  · rw [Nat.cast_zero]
    linarith

namespace Account

variable {policy : TrafficPolicy} {runs : Nat} {starts : List ℚ} {now clock : Nat}

theorem later (account : Account policy bucket runs starts now)
    (after : now ≤ clock) : Account policy bucket runs starts clock := by
  refine ⟨?_, ?_, account.limited⟩
  · intro stored present
    obtain ⟨updated, counted, metered⟩ := account.stored stored present
    exact ⟨updated.trans after, counted, metered⟩
  · intro missing
    obtain ⟨none, since, before, metered⟩ := account.missing missing
    exact ⟨none, since, before.trans after, metered⟩

variable (account : Account policy (buckets key) runs starts now)
include account

theorem snapshot (after : now ≤ clock) :
    (trafficSnapshot buckets key policy clock).inFlight = runs ∧ Metered policy.burst
    (refillRatePerMs policy) clock (trafficSnapshot buckets key policy clock).tokens starts := by
  have rate := refillRatePerMs_nonneg policy
  unfold trafficSnapshot
  cases present : buckets key with
  | none =>
    obtain ⟨none, since, before, metered⟩ := account.missing present
    have refilled := metered.refill rate
      (show (since : ℚ) ≤ clock from Nat.cast_le.mpr (before.trans after))
    refine ⟨none.symm, ?_⟩
    dsimp only [Option.getD_none]
    apply refilled.lowered
    · have burst := policy.one_le_burst
      exact le_min (by linarith) (add_nonneg (by linarith) (mul_nonneg (Nat.cast_nonneg _) rate))
    · have elapsed : 0 ≤ ((clock : ℚ) - since) * refillRatePerMs policy :=
        mul_nonneg (sub_nonneg.mpr (Nat.cast_le.mpr (before.trans after))) rate
      apply le_min (min_le_left _ _)
      exact (min_le_left _ _).trans (by linarith)
  | some stored =>
    obtain ⟨updated, counted, metered⟩ := account.stored stored present
    have before : stored.updatedAtMs ≤ clock := updated.trans after
    have refilled := metered.refill rate
      (show (stored.updatedAtMs : ℚ) ≤ clock from Nat.cast_le.mpr before)
    refine ⟨counted, ?_⟩
    dsimp only [Option.getD_some]
    split
    · rename_i zero
      rw [Nat.sub_self, Nat.cast_zero, zero_mul, add_zero]
      have elapsed : 0 ≤ ((clock : ℚ) - stored.updatedAtMs) * refillRatePerMs policy :=
        mul_nonneg (sub_nonneg.mpr (Nat.cast_le.mpr before)) rate
      apply refilled.lowered
      · exact le_min (metered.nonneg.trans metered.full) metered.nonneg
      · exact le_min (min_le_left _ _) ((min_le_right _ _).trans (by linarith))
    · rw [Nat.cast_sub before]
      exact refilled

theorem take {limit : Nat} (after : now ≤ clock) (whole : policy.maxConcurrent = limit)
    (token : 1 ≤ (trafficSnapshot buckets key policy clock).tokens)
    (room : ((trafficSnapshot buckets key policy clock).inFlight : ℚ) < policy.maxConcurrent) :
    Account policy (some (takeToken (trafficSnapshot buckets key policy clock))) (runs + 1)
      (clock :: starts) clock := by
  obtain ⟨counted, metered⟩ := account.snapshot after
  refine ⟨?_, nofun, ?_⟩
  · intro stored present
    cases present
    refine ⟨le_refl _, ?_, metered.take (refillRatePerMs_nonneg policy) token⟩
    rw [← counted]
    rfl
  · rw [counted, whole, Nat.cast_lt] at room
    rw [whole, Nat.cast_le]
    omega

omit account

theorem release (account : Account policy (buckets key) (runs + 1) starts now)
    (after : now ≤ clock) :
    Account policy (some (releaseSlot (trafficSnapshot buckets key policy clock))) runs starts
      clock := by
  obtain ⟨counted, metered⟩ := account.snapshot after
  refine ⟨?_, nofun, ?_⟩
  · intro stored present
    cases present
    refine ⟨le_refl _, ?_, metered⟩
    change (trafficSnapshot buckets key policy clock).inFlight - 1 = runs
    rw [counted, Nat.add_sub_cancel]
  · have limited := account.limited
    rw [Nat.cast_add, Nat.cast_one] at limited
    linarith

theorem retire (account : Account policy (buckets key) 0 starts now) (after : now ≤ clock)
    (full : (trafficSnapshot buckets key policy clock).tokens = policy.burst) :
    Account policy none 0 starts clock := by
  obtain ⟨_, metered⟩ := account.snapshot after
  rw [full] at metered
  exact ⟨nofun, fun _ => ⟨rfl, clock, le_refl _, metered⟩, account.limited⟩

end Account

end LicoMesh.UpstreamGateway
