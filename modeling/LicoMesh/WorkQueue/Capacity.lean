import LicoMesh.WorkQueue.WellFormed

namespace LicoMesh.WorkQueue

open Library Transaction Hierarchy

variable {level : CapacityLevel} {position other : Hierarchy} {queueDefinitionId : String}
  {state fromState : WorkQueueState} {capacity : CapacityPolicy PolicyLimit}
  {later joined : WorkItemRow} {transition : WorkQueueTransition} {policy : QueuePolicy}

inductive CapacityLevel
  | queue
  | tenant
  | workspace
  | project

namespace CapacityLevel

def covers : CapacityLevel → Hierarchy → Hierarchy → Bool
  | .queue, _, _ => true
  | .tenant, position, other => other.tenantId = position.tenantId
  | .workspace, position, other =>
    other.tenantId = position.tenantId && other.workspaceId = position.workspaceId
  | .project, position, other => other = position

def filter : CapacityLevel → Hierarchy → Hierarchy
  | .queue, position => position.queueLevel
  | .tenant, position => position.tenantLevel
  | .workspace, position => position.workspaceLevel
  | .project, position => position

def maxOutstanding (capacity : CapacityPolicy PolicyLimit) : CapacityLevel → Nat
  | .queue => capacity.maxOutstanding.val
  | .tenant => capacity.maxOutstandingPerTenant.val
  | .workspace => capacity.maxOutstandingPerWorkspace.val
  | .project => capacity.maxOutstandingPerProject.val

def maxLeased (capacity : CapacityPolicy PolicyLimit) : CapacityLevel → Nat
  | .queue => capacity.maxLeased.val
  | .tenant => capacity.maxLeasedPerTenant.val
  | .workspace => capacity.maxLeasedPerWorkspace.val
  | .project => capacity.maxLeasedPerProject.val

theorem filter_admits (covered : level.covers position other) :
    (level.filter position).admits other := by
  cases level with
  | queue => simp [filter, queueLevel]
  | tenant =>
    simp only [covers, decide_eq_true_eq] at covered
    simp [filter, tenantLevel, admits, covered]
  | workspace =>
    simp only [covers, Bool.and_eq_true, decide_eq_true_eq] at covered
    simp [filter, workspaceLevel, admits, covered]
  | project =>
    simp only [covers, decide_eq_true_eq] at covered
    simp [filter, admits, covered]

theorem covers_congr (covered : level.covers position other) :
    level.covers position = level.covers other := by
  funext third
  cases level with
  | queue => rfl
  | tenant =>
    simp only [covers, decide_eq_true_eq] at covered
    simp only [covers, covered]
  | workspace =>
    simp only [covers, Bool.and_eq_true, decide_eq_true_eq] at covered
    simp only [covers, covered.1, covered.2]
  | project =>
    simp only [covers, decide_eq_true_eq] at covered
    rw [covered]

end CapacityLevel

/-- Admitted and not settled: the item will still be executed. -/
def WorkQueueState.isExecutable (state : WorkQueueState) : Bool :=
  state.isOutstanding || state = .inDoubt

open WorkQueueState

def Store.countAt (store : Store) (queueDefinitionId : String) (level : CapacityLevel)
    (position : Hierarchy) (counts : WorkQueueState → Bool) : Nat :=
  store.workItems.rows.countP fun row => row.queueDefinitionId = queueDefinitionId &&
    level.covers position row.toHierarchy && counts row.state

open Store

structure Store.WithinCapacity (capacity : CapacityPolicy PolicyLimit) (store : Store) : Prop where
  admitted : ∀ queueDefinitionId (level : CapacityLevel) position,
    store.countAt queueDefinitionId level position isExecutable ≤ level.maxOutstanding capacity
  leased : ∀ queueDefinitionId (level : CapacityLevel) position,
    store.countAt queueDefinitionId level position (fun state => state = .running) ≤
      level.maxLeased capacity

def Store.DoubtFits (store : Store) (capacity : CapacityPolicy PolicyLimit)
    (queueDefinitionId : String) (position : Hierarchy) : Prop :=
  ∀ level : CapacityLevel,
    store.countAt queueDefinitionId level position (fun state => state = .inDoubt) = 0 ∨
      store.countAt queueDefinitionId level position isOutstanding +
          store.countAt queueDefinitionId level position (fun state => state = .inDoubt) <
        level.maxOutstanding capacity

variable {env : QueueEnv} {store next : Store}

section Counts

theorem boundedCount_lt :
    boundedCount rows condition limit < limit ↔ rows.countP condition < limit := by
  unfold boundedCount
  omega

theorem countAt_isExecutable (queueDefinitionId : String) (level : CapacityLevel)
    (position : Hierarchy) : store.countAt queueDefinitionId level position isExecutable =
      store.countAt queueDefinitionId level position isOutstanding +
        store.countAt queueDefinitionId level position (fun state => state = .inDoubt) := by
  unfold countAt
  induction store.workItems.rows with
  | nil => rfl
  | cons row rest induction =>
    have split : ∀ state : WorkQueueState,
        (if state.isExecutable then 1 else 0) =
          (if state.isOutstanding then 1 else 0) + if state = .inDoubt then 1 else 0 := by
      intro state
      cases state <;> rfl
    have here := split row.state
    simp only [List.countP_cons, induction]
    by_cases covered : row.queueDefinitionId = queueDefinitionId ∧
        level.covers position row.toHierarchy
    · simp only [covered, decide_true, Bool.and_self, Bool.true_and, decide_eq_true_eq]
      omega
    · have outside : (decide (row.queueDefinitionId = queueDefinitionId) &&
          level.covers position row.toHierarchy) = false := by
        simpa using covered
      simp [outside]

theorem outstanding_lt_of_admitted
    (admitted : assertAdmissionCapacity store queueDefinitionId position state policy = .ok ())
    (level : CapacityLevel) :
    store.countAt queueDefinitionId level position WorkQueueState.isOutstanding <
      level.maxOutstanding policy.capacity := by
  have checked : store.countOutstanding queueDefinitionId (level.filter position)
      (level.maxOutstanding policy.capacity) < level.maxOutstanding policy.capacity := by
    unfold assertAdmissionCapacity at admitted
    simp only [bind_eq_ok, assertCapacityBelow_ok] at admitted
    obtain ⟨_, queue, _, tenant, _, workspace, _, project, _⟩ := admitted
    cases level with
    | queue => exact queue
    | tenant => exact tenant
    | workspace => exact workspace
    | project => exact project
  refine Nat.lt_of_le_of_lt ?_ (boundedCount_lt.mp checked)
  refine List.countP_mono_left ?_
  intro row _ counted
  simp only [Bool.and_eq_true, decide_eq_true_eq] at counted ⊢
  exact ⟨⟨counted.1.1, counted.2⟩, CapacityLevel.filter_admits counted.1.2⟩

theorem leased_lt_of_withinLeaseLimits
    (limits : withinLeaseLimits store queueDefinitionId position capacity) (level : CapacityLevel) :
    store.countAt queueDefinitionId level position (fun state => state = .running) <
      level.maxLeased capacity := by
  have checked : countLeased store queueDefinitionId (level.filter position)
      (level.maxLeased capacity) < level.maxLeased capacity := by
    unfold withinLeaseLimits at limits
    simp only [Bool.and_eq_true, decide_eq_true_eq] at limits
    obtain ⟨⟨⟨queue, tenant⟩, workspace⟩, project⟩ := limits
    cases level with
    | queue => exact queue
    | tenant => exact tenant
    | workspace => exact workspace
    | project => exact project
  refine Nat.lt_of_le_of_lt ?_ (boundedCount_lt.mp checked)
  refine List.countP_mono_left ?_
  intro row _ counted
  simp only [Bool.and_eq_true, decide_eq_true_eq] at counted ⊢
  exact ⟨⟨counted.1.1, counted.2⟩, CapacityLevel.filter_admits counted.1.2⟩

def WorkItemRow.WasCounted (store : Store) (counts : WorkQueueState → Bool)
    (later : WorkItemRow) : Prop :=
  ∃ row, store.getWorkItem later.workItemId = some row ∧
    row.toWorkItemRequest = later.toWorkItemRequest ∧ counts row.state

variable {counts : WorkQueueState → Bool} {queueDefinitionId : String} {level : CapacityLevel}
  {position : Hierarchy} {limit : Nat}

theorem WorkItemRow.WasCounted.matched (counted : later.WasCounted store counts)
    (matched : (later.queueDefinitionId = queueDefinitionId &&
      level.covers position later.toHierarchy && counts later.state) = true) :
    ∃ row ∈ store.workItems.rows, row.workItemId = later.workItemId ∧
      (row.queueDefinitionId = queueDefinitionId && level.covers position row.toHierarchy &&
        counts row.state) = true := by
  obtain ⟨row, found, request, counted⟩ := counted
  refine ⟨row, mem_of_getWorkItem found, id_of_getWorkItem found, ?_⟩
  simp only [Bool.and_eq_true] at matched ⊢
  rw [request]
  exact ⟨matched.1, counted⟩

theorem countAt_le_of_wasCounted
    (all : ∀ later, next.getWorkItem later.workItemId = some later → counts later.state →
      later.WasCounted store counts) : next.countAt queueDefinitionId level position counts ≤
      store.countAt queueDefinitionId level position counts := by
  refine Table.countP_le ?_
  intro later member matched
  have counted : counts later.state := by
    simp only [Bool.and_eq_true] at matched
    exact matched.2
  exact (all later (getWorkItem_of_mem member) counted).matched matched

theorem countAt_le_of_joined (present : next.getWorkItem joined.workItemId = some joined)
    (others : ∀ later, next.getWorkItem later.workItemId = some later → counts later.state →
      later.workItemId ≠ joined.workItemId → later.WasCounted store counts)
    (room : store.countAt joined.queueDefinitionId level joined.toHierarchy counts < limit)
    (bound : store.countAt queueDefinitionId level position counts ≤ limit) :
    next.countAt queueDefinitionId level position counts ≤ limit := by
  by_cases covered : joined.queueDefinitionId = queueDefinitionId ∧
      level.covers position joined.toHierarchy
  · unfold countAt at room
    rw [covered.1, ← CapacityLevel.covers_congr covered.2] at room
    refine Nat.le_trans (@Table.countP_le_succ _ _ _ _ _ _ _ joined.workItemId ?_) room
    intro later member matched
    by_cases here : later.workItemId = joined.workItemId
    · exact .inl here
    · have counted : counts later.state := by
        simp only [Bool.and_eq_true] at matched
        exact matched.2
      exact .inr ((others later (getWorkItem_of_mem member) counted here).matched matched)
  · refine Nat.le_trans (Table.countP_le ?_) bound
    intro later member matched
    have parts := matched
    simp only [Bool.and_eq_true, decide_eq_true_eq] at parts
    have hlater := getWorkItem_of_mem member
    have different : later.workItemId ≠ joined.workItemId := by
      intro here
      rw [here, present] at hlater
      cases hlater
      exact covered parts.1
    exact (others later hlater parts.2 different).matched matched

end Counts

def Effect.target : Effect → Option String
  | .enroll row _ _ | .move row _ _ _ _ => some row.workItemId
  | _ => none

section Steps

variable {effect : Effect} {counts : WorkQueueState → Bool} (step : Step env store effect next)
include step

theorem Step.target_of_joined (replayed : store.Replayed False)
    (present : next.getWorkItem later.workItemId = some later) (counted : counts later.state)
    (fresh : ¬ later.WasCounted store counts) : effect.target = some later.workItemId := by
  rcases step.row_cases replayed present with enrolled | ⟨row, _, _, _, moved⟩ | ⟨row, kept⟩
  · obtain ⟨row, _, _, rfl, _, _, same⟩ := enrolled.enrolls
    exact congrArg some same.workItemId
  · obtain ⟨_, rfl⟩ := moved.moves
    exact congrArg some (by rw [moved.request])
  · refine absurd ⟨row, kept.found, kept.request, ?_⟩ fresh
    rw [kept.projection]
    exact counted

theorem Step.countAt_le {limit : CapacityLevel → Nat} (replayed : store.Replayed False)
    (bound : ∀ queueDefinitionId level position,
      store.countAt queueDefinitionId level position counts ≤ limit level)
    (room : ∀ joined, next.getWorkItem joined.workItemId = some joined → counts joined.state →
      ¬ joined.WasCounted store counts → ∀ level,
        store.countAt joined.queueDefinitionId level joined.toHierarchy counts < limit level)
    (queueDefinitionId : String) (level : CapacityLevel) (position : Hierarchy) :
    next.countAt queueDefinitionId level position counts ≤ limit level := by
  by_cases all : ∀ later, next.getWorkItem later.workItemId = some later → counts later.state →
      later.WasCounted store counts
  · exact Nat.le_trans (countAt_le_of_wasCounted all) (bound _ _ _)
  · simp only [not_forall] at all
    obtain ⟨joined, present, counted, fresh⟩ := all
    have target := step.target_of_joined replayed present counted fresh
    refine countAt_le_of_joined present ?_ (room joined present counted fresh level) (bound _ _ _)
    intro later hlater counted' different
    by_contra fresh'
    have target' := step.target_of_joined replayed hlater counted' fresh'
    rw [target] at target'
    exact different (Option.some.inj target').symm

omit step

theorem withinCapacity_empty (capacity : CapacityPolicy PolicyLimit) :
    empty.WithinCapacity capacity :=
  ⟨fun _ _ _ => Nat.zero_le _, fun _ _ _ => Nat.zero_le _⟩

def Store.OnePolicy (env : QueueEnv) (store : Store) : Prop :=
  ∀ definition ∈ store.definitions.rows, ∀ policy,
    getPolicy (mergePolicy env.resolvedPolicy definition.policy) = .ok policy →
      policy.capacity = env.resolvedPolicy.capacity

theorem Store.OnePolicy.policyForRow (one : store.OnePolicy env)
    (resolved : policyForRow env store row = .ok policy) :
    policy.capacity = env.resolvedPolicy.capacity := by
  unfold WorkQueue.policyForRow Store.getDefinitionPolicy at resolved
  cases found : store.definitions.find? ⟨row.queueDefinitionId, row.queueDefinitionVersion⟩ with
  | none =>
    rw [found] at resolved
    have same := getPolicy_mergePolicy_empty env.resolvedPolicy
    rw [Option.elim_none, same] at resolved
    cases resolved
    rfl
  | some definition =>
    rw [found] at resolved
    exact one definition (store.definitions.mem_of_find? found) policy resolved

def QueueCommand.KeepsPolicy (env : QueueEnv) : QueueCommand → Prop
  | .enqueue input => ∀ admission, input.admission env = .ok admission →
      admission.policy.capacity = env.resolvedPolicy.capacity
  | .registerQueueDefinition input => ∀ policy,
      getPolicy (mergePolicy env.resolvedPolicy input.snapshot.policy) = .ok policy →
        policy.capacity = env.resolvedPolicy.capacity
  | _ => True

def QueueCommand.DoubtFits (env : QueueEnv) (store : Store) : QueueCommand → Prop
  | .enqueue input => ∀ admission inserted, input.admission env = .ok admission →
      store.insertWorkItem admission.row = some inserted →
      assertAdmissionCapacity store admission.row.queueDefinitionId admission.row.toHierarchy
        admission.row.state admission.policy = .ok () →
      store.DoubtFits env.resolvedPolicy.capacity admission.row.queueDefinitionId
        admission.row.toHierarchy
  | .recover input => ∀ row policy, store.getWorkItem (toText input.workItemId) = some row →
      row.state = .failed → policyForRow env store row = .ok policy →
      assertAdmissionCapacity store row.queueDefinitionId row.toHierarchy .recovered policy =
        .ok () → store.DoubtFits env.resolvedPolicy.capacity row.queueDefinitionId row.toHierarchy
  | _ => True

theorem DoubtFits.room (fits : store.DoubtFits capacity queueDefinitionId position)
    (one : policy.capacity = capacity)
    (admitted : assertAdmissionCapacity store queueDefinitionId position state policy = .ok ())
    (level : CapacityLevel) : store.countAt queueDefinitionId level position isExecutable <
      level.maxOutstanding capacity := by
  have counted := outstanding_lt_of_admitted admitted level
  rw [one] at counted
  rw [countAt_isExecutable]
  rcases fits level with none | room
  · rw [none]
    exact counted
  · exact room

theorem recover_of_executable
    (legal : isLegalWorkQueueTransition transition (some fromState) toState)
    (executable : toState.isExecutable) (settled : fromState.isExecutable = false) :
    transition = .recover ∧ fromState = .failed := by
  revert legal executable settled
  cases fromState <;> first
    | exact fun _ _ settled => absurd settled (by decide)
    | (cases transition <;> cases toState <;> decide)

theorem claim_of_running (legal : isLegalWorkQueueTransition transition (some fromState) .running)
    (waiting : fromState ≠ .running) : transition = .claim := by
  revert legal waiting
  cases transition <;> cases fromState <;> decide

structure Store.Bounded (env : QueueEnv) (store : Store) : Prop where
  sound : store.Sound
  one : store.OnePolicy env
  within : store.WithinCapacity env.resolvedPolicy.capacity

theorem bounded_empty (env : QueueEnv) : empty.Bounded env :=
  ⟨sound_empty, fun _ member => absurd member List.not_mem_nil, withinCapacity_empty _⟩

variable {start : Store} {command : QueueCommand}

include step

theorem Step.onePolicy (keeps : command.KeepsPolicy env)
    (permitted : Permits env start command store effect) (one : store.OnePolicy env) :
    next.OnePolicy env := by
  cases step with
  | define =>
    rename_i definition
    obtain ⟨input, rfl, rfl⟩ := permitted
    intro other member policy resolved
    have inserted := Table.find?_insertOrIgnore store.definitions input.snapshot
      other.toQueueDefinitionKey
    rw [Table.find?_of_mem _ member] at inserted
    split at inserted
    · cases existing : store.definitions.find? input.snapshot.toQueueDefinitionKey with
      | none =>
        rw [existing] at inserted
        cases inserted
        exact keeps policy resolved
      | some found =>
        rw [existing] at inserted
        cases inserted
        exact one _ (store.definitions.mem_of_find? existing) policy resolved
    · exact one other (store.definitions.mem_of_find? inserted.symm) policy resolved
  | bookkeep _ _ _ _ definitions =>
    unfold OnePolicy
    rw [definitions]
    exact one
  | rebuild _ inserts =>
    unfold OnePolicy
    rw [(rebuildVirtualFinish_rows _).2.2.2, (insertReplayed_rows inserts).1]
    exact one
  | enroll inserts _ _ =>
    have same := (insertWorkItem_fresh inserts).2.1
    unfold OnePolicy admitRow
    rw [definitions_appendJournal]
    rw [same]
    exact one
  | move | checkpoint | compact | retire | promote | touch | serve | idle | fence => exact one

theorem Step.admits (bounded : store.Bounded env) (keeps : command.KeepsPolicy env)
    (fits : command.DoubtFits env start) (permitted : Permits env start command store effect)
    (present : next.getWorkItem joined.workItemId = some joined)
    (counted : joined.state.isExecutable) (fresh : ¬ joined.WasCounted store isExecutable)
    (level : CapacityLevel) :
    store.countAt joined.queueDefinitionId level joined.toHierarchy isExecutable <
      level.maxOutstanding env.resolvedPolicy.capacity := by
  rcases step.row_cases bounded.sound.replayed present with
    enrolled | ⟨row, transition, toState, patch, moved⟩ | ⟨row, kept⟩
  · obtain ⟨row, policy, nowMs, rfl, _, admitted, same⟩ := enrolled.enrolls
    obtain ⟨rfl, input, admission, rfl, hadmission, rfl, rfl⟩ := permitted
    cases step with
    | enroll inserts _ _ =>
      rw [← same.request]
      exact DoubtFits.room (fits admission _ hadmission inserts admitted)
        (keeps admission hadmission) admitted level
  · have landed : joined.state = toState := by rw [moved.projection]; rfl
    rw [landed] at counted
    have settled : row.state.isExecutable = false := by
      by_contra open?
      exact fresh ⟨row, moved.found, moved.request, by simpa using open?⟩
    obtain ⟨rfl, failed⟩ := recover_of_executable moved.legal counted settled
    obtain ⟨nowMs, rfl⟩ := moved.moves
    obtain ⟨rfl, input, rfl, named⟩ := permitted.1 rfl
    have found : store.getWorkItem (toText input.workItemId) = some row := by
      rw [← named, show row.workItemId = joined.workItemId by rw [moved.request]]
      exact moved.found
    cases moved.guard with
    | doubted _ _ interrupts => rcases interrupts with same | same <;> cases same
    | released _ _ _ _ _ _ admitted =>
      obtain ⟨policy, resolved, admitted⟩ := admitted rfl
      rw [← moved.request]
      exact DoubtFits.room (fits row policy found failed resolved admitted)
        (bounded.one.policyForRow resolved) admitted level
  · refine absurd ⟨row, kept.found, kept.request, ?_⟩ fresh
    rw [kept.projection]
    exact counted

theorem Step.leases (bounded : store.Bounded env)
    (present : next.getWorkItem joined.workItemId = some joined) (running : joined.state = .running)
    (fresh : ¬ joined.WasCounted store fun state => state = .running) (level : CapacityLevel) :
    store.countAt joined.queueDefinitionId level joined.toHierarchy
        (fun state => state = .running) <
      level.maxLeased env.resolvedPolicy.capacity := by
  rcases step.row_cases bounded.sound.replayed present with
    enrolled | ⟨row, transition, toState, patch, moved⟩ | ⟨row, kept⟩
  · obtain ⟨row, _, _, _, isNew, _, same⟩ := enrolled.enrolls
    rw [← same.state] at running
    rcases isNew.state with queued | delayed
    · rw [queued] at running
      cases running
    · rw [delayed] at running
      cases running
  · have landed : joined.state = toState := by rw [moved.projection]; rfl
    have toRunning : toState = .running := landed.symm.trans running
    subst toRunning
    have waiting : row.state ≠ .running := fun runs =>
      fresh ⟨row, moved.found, moved.request, by simp [runs]⟩
    have claims := claim_of_running moved.legal waiting
    subst claims
    have guard := moved.guard
    rw [← moved.request]
    cases guard with
    | claimed lease policy _ _ _ _ resolved limits _ =>
      rw [← bounded.one.policyForRow resolved]
      exact leased_lt_of_withinLeaseLimits limits level
    | released _ _ _ unleased unclaimed => exact absurd rfl unclaimed
  · refine absurd ⟨row, kept.found, kept.request, ?_⟩ fresh
    rw [kept.projection]
    simpa using running

theorem Step.bounded (bounded : store.Bounded env)
    (keeps : command.KeepsPolicy env) (fits : command.DoubtFits env start)
    (permitted : Permits env start command store effect) : next.Bounded env where
  sound := step.sound bounded.sound
  one := step.onePolicy keeps permitted bounded.one
  within :=
    { admitted := step.countAt_le bounded.sound.replayed bounded.within.admitted
        fun _ present counted fresh =>
          step.admits bounded keeps fits permitted present counted fresh
      leased := step.countAt_le bounded.sound.replayed bounded.within.leased
        fun _ present counted fresh =>
          step.leases bounded present (by simpa using counted) fresh }

end Steps

/-- Along a run with one policy, in which items in doubt fit beside every admitted
item, no admission or lease limit is exceeded. -/
theorem runCommands_withinCapacity (env : QueueEnv) (commands : List QueueCommand)
    (each : EachCommand (applyCommand env)
      (fun store command => command.KeepsPolicy env ∧ command.DoubtFits env store)
      .empty commands) :
    (runCommands env .empty commands).WithinCapacity env.resolvedPolicy.capacity := by
  have bounded : (runCommands env .empty commands).Bounded env := by
    refine runAll_preserves ?_ each (bounded_empty env)
    intro store command ⟨keeps, fits⟩ holds
    exact (applyCommand_path env store command).preserves
      (fun permitted step bounded => step.bounded bounded keeps fits permitted) holds
  exact bounded.within

theorem resolveQueueDefinition_definition
    (resolved : resolveQueueDefinition input enqueues allVersions = .ok definition) :
    definition.queueDefinition = input.queueDefinition.getD {} := by
  unfold resolveQueueDefinition at resolved
  simp only at resolved
  split at resolved
  · cases resolved
  · split at resolved
    · cases checked : assertQueueDefinitionCanEnqueue (input.queueDefinition.getD {}) with
      | error e =>
        rw [checked] at resolved
        cases resolved
      | ok done =>
        rw [checked] at resolved
        cases resolved
        rfl
    · cases resolved
      rfl

theorem EnqueueInput.keepsPolicy
    (plain : input.queue.queueDefinition = none) : (QueueCommand.enqueue input).KeepsPolicy env := by
  intro admission admitted
  unfold EnqueueInput.admission at admitted
  simp only [bind_eq_ok] at admitted
  obtain ⟨definition, resolved, _, _, policy, merged, _, _, _, _, _, _, result⟩ := admitted
  cases result
  rw [resolveQueueDefinition_definition resolved, plain] at merged
  have same := getPolicy_mergePolicy_empty env.resolvedPolicy
  rw [Option.getD_none, same] at merged
  cases merged
  rfl

theorem runCommands_withinCapacity_settled :
    (runCommands (sampleEnv .sqlite defaultQueuePolicy) .empty
      [.enqueue (sampleEnqueue "item" "tenant" 0 10), .claim (sampleClaim leaseA 1 20),
        .complete { toLeaseInput := sampleLease "item" leaseA 30 }]).WithinCapacity
      defaultQueuePolicy.capacity :=
  runCommands_withinCapacity (sampleEnv .sqlite defaultQueuePolicy) _
    ⟨⟨EnqueueInput.keepsPolicy rfl, fun _ _ _ _ _ _ => .inl rfl⟩, ⟨trivial, trivial⟩,
      ⟨trivial, trivial⟩, trivial⟩

def singleItemPolicy : QueuePolicy :=
  { defaultQueuePolicy with
    capacity := { defaultCapacity with maxOutstanding := policyLimit 1 one_isLimit } }

def doubtRun : List QueueCommand :=
  [.enqueue (sampleEnqueue "first" "tenant" 0 10), .claim (sampleClaim leaseA 1 20),
    .markInDoubt { toLeaseInput := sampleLease "first" leaseA 30 },
    .enqueue (sampleEnqueue "second" "tenant" 0 40),
    .acknowledgeTermination
      { toLeaseInput := sampleLease "first" leaseA 50, toState := "retry", delayMs := some 0 }]

theorem doubtRun_not_withinCapacity :
    (∀ command ∈ doubtRun, command.KeepsPolicy (sampleEnv .sqlite singleItemPolicy)) ∧
      ¬ (runCommands (sampleEnv .sqlite singleItemPolicy) .empty doubtRun).WithinCapacity
        singleItemPolicy.capacity := by
  refine ⟨?_, ?_⟩
  · intro command member
    simp only [doubtRun, List.mem_cons, List.not_mem_nil, or_false] at member
    rcases member with rfl | rfl | rfl | rfl | rfl
    · exact EnqueueInput.keepsPolicy rfl
    · trivial
    · trivial
    · exact EnqueueInput.keepsPolicy rfl
    · trivial
  · intro within
    have bound := within.admitted "queue" .queue {}
    exact absurd bound (by decide)

end LicoMesh.WorkQueue
