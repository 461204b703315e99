import LicoMesh.WorkQueue.Evolution

namespace LicoMesh.WorkQueue

open Library Option Store

variable {command : QueueCommand} {transition : WorkQueueTransition} {toState : WorkQueueState}
  {later row : WorkItemRow} {env : QueueEnv} {store next : Store}

section Fences

def Effect.KeepsFences : Effect → Prop
  | .fence _ => False
  | _ => True

theorem Step.sinkFences_eq (step : Step env store effect next)
    (keeps : effect.KeepsFences) : next.sinkFences = store.sinkFences := by
  cases step with
  | fence => exact keeps.elim
  | bookkeep _ _ _ sinkFences _ => exact sinkFences
  | rebuild _ inserts =>
    rw [(rebuildVirtualFinish_rows _).2.2.1, (insertReplayed_rows inserts).1]
  | enroll inserts _ _ =>
    unfold admitRow
    rw [sinkFences_appendJournal]
    unfold upsertVirtualFinish
    rw [(insertWorkItem_fresh inserts).2.1]
  | move | checkpoint | compact | retire | promote | touch | serve | idle | define => rfl

variable {fence : SinkFence}

theorem Step.keeps_fence (step : Step env store effect next)
    (recorded : store.sinkFences.find? fence.toSinkFenceKey = some fence) :
    next.sinkFences.find? fence.toSinkFenceKey = some fence := by
  by_cases keeps : effect.KeepsFences
  · rw [step.sinkFences_eq keeps]
    exact recorded
  · cases step with
    | fence =>
      rename_i inserted
      unfold insertSinkFence
      rw [Table.find?_insertOrIgnore]
      split
      · rename_i same
        rw [← same, recorded]
        rfl
      · exact recorded
    | _ => exact absurd trivial keeps

theorem runCommands_keeps_fence (commands : List QueueCommand)
    (recorded : store.sinkFences.find? fence.toSinkFenceKey = some fence) :
    (runCommands env store commands).sinkFences.find? fence.toSinkFenceKey = some fence := by
  have keeps : ∀ state command,
      state.sinkFences.find? fence.toSinkFenceKey = some fence →
      (applyCommand env state command).sinkFences.find? fence.toSinkFenceKey = some fence :=
    fun state command found =>
      (applyCommand_path env state command).preserves (fun _ step => step.keeps_fence) found
  exact runAll_invariant keeps recorded commands

theorem applyCommand_sinkFences (records : command.settles = false) :
    (applyCommand env store command).sinkFences = store.sinkFences := by
  have keeps : ∀ {state effect after}, Permits env store command state effect →
      Step env state effect after → state.sinkFences = store.sinkFences →
      after.sinkFences = store.sinkFences := by
    intro state effect after permitted step same
    refine (step.sinkFences_eq ?_).trans same
    cases effect with
    | fence =>
      have settles : command.settles := permitted
      rw [records] at settles
      cases settles
    | _ => trivial
  exact (applyCommand_path env store command).preserves keeps rfl

theorem mem_of_terminalReceipt (found : terminalReceipt store row = some receipt) :
    receipt ∈ store.sinkFences.rows ∧ receipt.workItemId = row.workItemId ∧
      receipt.generation = row.leaseSeq ∧ isTerminalReceipt receipt := by
  unfold terminalReceipt readSinkFence at found
  have member := (List.mem_insertionSort _).mp (List.mem_of_find?_eq_some found)
  have terminal := List.find?_some found
  simp only [List.mem_filter, Bool.and_eq_true, decide_eq_true_eq] at member
  exact ⟨member.1, member.2.1, member.2.2, terminal⟩

theorem terminalReceipt_eq (id : live.workItemId = row.workItemId)
    (leaseSeq : live.leaseSeq = row.leaseSeq) (fences : next.sinkFences = store.sinkFences) :
    terminalReceipt next live = terminalReceipt store row := by
  unfold terminalReceipt readSinkFence
  rw [id, leaseSeq, fences]

end Fences

structure Reconciling (store : Store) (row current : WorkItemRow) : Prop where
  leaseSeq : current.leaseSeq = row.leaseSeq
  state : current.state.isLeased ∨ current.state = .expired ∨
    ∃ receipt, terminalReceipt store row = some receipt ∧ current.state = receiptState receipt

theorem MoveGuard.leaseSeq_eq
    (guard : MoveGuard env store row transition toState patch) (unclaimed : transition ≠ .claim) :
    (patch.apply toState row.toWorkItemProjection).leaseSeq = row.leaseSeq := by
  cases guard with
  | claimed => exact absurd rfl unclaimed
  | renewed | doubted => rfl
  | released _ _ _ _ _ releases =>
    unfold ProjectionPatch.apply
    rw [releases.leaseSeq]
    rfl

theorem receiptState_cases (receipt : SinkFence) :
    receiptState receipt = .completed ∨ receiptState receipt = .failed := by
  unfold receiptState
  split
  · exact .inl rfl
  · exact .inr rfl

theorem Reconciling.move {state : Store} (reconciling : Reconciling store row current)
    (id : current.workItemId = row.workItemId) (fences : state.sinkFences = store.sinkFences)
    (legal : isLegalWorkQueueTransition transition (some current.state) toState)
    (move : SweepMove state current transition toState) :
    transition ≠ .claim ∧ (toState.isLeased ∨ toState = .expired ∨
      ∃ receipt, terminalReceipt store row = some receipt ∧ toState = receiptState receipt) := by
  rcases reconciling.state with leased | expired | ⟨receipt, _, settled⟩
  · cases move with
    | expire => exact ⟨by decide, .inr (.inl rfl)⟩
    | leaseExpired => exact ⟨by decide, .inl rfl⟩
    | receipt found =>
      refine ⟨by decide, .inr (.inr ⟨_, ?_, rfl⟩)⟩
      rw [← terminalReceipt_eq id reconciling.leaseSeq fences]
      exact found
    | mature =>
      exfalso
      revert legal leased
      cases current.state <;> decide
    | exhaust claimable =>
      exfalso
      revert claimable leased
      cases current.state <;> decide
    | lease =>
      exfalso
      revert legal leased
      cases current.state <;> decide
  · have terminal := isLegal_not_terminal legal
    rw [expired] at terminal
    cases terminal
  · rcases receiptState_cases receipt with completed | failed
    · have terminal := isLegal_not_terminal legal
      rw [settled, completed] at terminal
      cases terminal
    · rw [settled, failed] at legal
      obtain ⟨rfl, _⟩ := isLegal_from_failed legal
      cases move

theorem applyCommand_reconciles (replayed : store.Replayed False) (reconciles : command.reconciles)
    (found : store.getWorkItem row.workItemId = some row) (leased : row.state.isLeased)
    (present : (applyCommand env store command).getWorkItem row.workItemId = some later) :
    Reconciling store row later := by
  have keeps : ∀ {state effect after}, Permits env store command state effect →
      Step env state effect after →
      (state.Replayed False ∧ state.sinkFences = store.sinkFences ∧
        ∀ current, state.getWorkItem row.workItemId = some current →
          Reconciling store row current) →
      after.Replayed False ∧ after.sinkFences = store.sinkFences ∧
        ∀ current, after.getWorkItem row.workItemId = some current →
          Reconciling store row current := by
    intro state effect after permitted step ⟨current, fences, each⟩
    refine ⟨step.replayed nofun current, ?_, ?_⟩
    · refine (step.sinkFences_eq ?_).trans fences
      cases effect with
      | fence =>
        have settles : command.settles := permitted
        rw [not_reconciles_of_settles settles] at reconciles
        cases reconciles
      | _ => trivial
    · intro last hlast
      have id := id_of_getWorkItem hlast
      rw [← id] at hlast
      rcases step.row_cases current hlast with
        enrolled | ⟨before, transition, toState, patch, moved⟩ | ⟨before, kept⟩
      · obtain ⟨_, _, _, rfl, _⟩ := enrolled.enrolls
        obtain ⟨_, input, _, rfl, _⟩ := permitted
        cases reconciles
      · have hbefore := moved.found
        rw [id] at hbefore
        have reconciling := each before hbefore
        obtain ⟨nowMs, rfl⟩ := moved.moves
        obtain ⟨unclaimed, landed⟩ := reconciling.move (id_of_getWorkItem hbefore) fences
          moved.legal (permitted.2 reconciles)
        refine ⟨?_, ?_⟩
        · rw [moved.projection, moved.guard.leaseSeq_eq unclaimed]
          exact reconciling.leaseSeq
        · rw [moved.projection]
          exact landed
      · have hbefore := kept.found
        rw [id] at hbefore
        obtain ⟨leaseSeq, landed⟩ := each before hbefore
        rw [kept.projection] at leaseSeq landed
        exact ⟨leaseSeq, landed⟩
  have start : ∀ current, store.getWorkItem row.workItemId = some current →
      Reconciling store row current := by
    intro current hcurrent
    rw [found] at hcurrent
    cases hcurrent
    exact ⟨rfl, .inl leased⟩
  exact ((applyCommand_path env store command).preserves keeps
    ⟨replayed, rfl, start⟩).2.2 later present

theorem enqueue_inserts (replayed : store.Replayed False)
    (absent : store.getWorkItem workItemId = none)
    (present : (applyCommand env store (.enqueue input)).getWorkItem workItemId = some later) :
    ∃ admission inserted, input.admission env = .ok admission ∧ store.insertWorkItem admission.row =
      some inserted ∧ admission.row.workItemId = workItemId := by
  have keeps : ∀ {state effect after}, Permits env store (.enqueue input) state effect →
      Step env state effect after →
      (state.Replayed False ∧ ((state.getWorkItem workItemId).isSome →
        ∃ admission inserted, input.admission env = .ok admission ∧
          store.insertWorkItem admission.row = some inserted ∧
          admission.row.workItemId = workItemId)) →
      after.Replayed False ∧ ((after.getWorkItem workItemId).isSome →
        ∃ admission inserted, input.admission env = .ok admission ∧
          store.insertWorkItem admission.row = some inserted ∧
          admission.row.workItemId = workItemId) := by
    intro state effect after permitted step ⟨current, known⟩
    refine ⟨step.replayed nofun current, fun some => ?_⟩
    obtain ⟨last, hlast⟩ := isSome_iff_exists.mp some
    have id := id_of_getWorkItem hlast
    rw [← id] at hlast
    rcases step.row_cases current hlast with
      enrolled | ⟨before, _, _, _, moved⟩ | ⟨before, kept⟩
    · obtain ⟨row, _, _, rfl, _, _, same⟩ := enrolled.enrolls
      obtain ⟨rfl, input', admission, sameInput, admitted, rfl, rfl⟩ := permitted
      cases sameInput
      cases step with
      | enroll inserts _ _ =>
        exact ⟨admission, _, admitted, inserts, same.workItemId.trans id⟩
    · refine known ?_
      rw [← id, moved.found]
      rfl
    · refine known ?_
      rw [← id, kept.found]
      rfl
  refine ((applyCommand_path env store (.enqueue input)).preserves keeps
    ⟨replayed, fun some => ?_⟩).2 (by rw [present]; rfl)
  rw [absent] at some
  cases some

/-- An accepted enqueue meets no terminal fence under its id. -/
def QueueCommand.ReusesNoReceipt (env : QueueEnv) (store : Store) : QueueCommand → Prop
  | .enqueue input => ∀ admission inserted, input.admission env = .ok admission →
      store.insertWorkItem admission.row = some inserted →
      ∀ fence ∈ store.sinkFences.rows, fence.workItemId = admission.row.workItemId →
        isTerminalReceipt fence = false
  | _ => True

/-- Whenever a reconciliation at the end of the run completes or fails an item that
holds a lease, the fence it used is of the item's lease generation and was not yet
recorded when the item was enqueued. -/
def ReconcilesByOwnReceipt (env : QueueEnv) (commands : List QueueCommand) : Prop :=
  ∀ {before input after command workItemId row later},
    commands = before ++ .enqueue input :: after →
    (runCommands env .empty before).getWorkItem workItemId = none → RetainedAlong env workItemId
      (applyCommand env (runCommands env .empty before) (.enqueue input)) after →
    command.reconciles → (runCommands env .empty commands).getWorkItem workItemId = some row →
    row.state = .running ∨ row.state = .inDoubt →
    (applyCommand env (runCommands env .empty commands) command).getWorkItem workItemId =
      some later → later.state = .completed ∨ later.state = .failed →
    ∃ receipt, terminalReceipt (runCommands env .empty commands) row = some receipt ∧
      later.state = receiptState receipt ∧ receipt.generation = row.leaseSeq ∧
      (applyCommand env (runCommands env .empty before) (.enqueue input)).sinkFences.find?
        receipt.toSinkFenceKey = none

theorem runCommands_reconciles (env : QueueEnv) (commands : List QueueCommand)
    (each : EachCommand (applyCommand env)
      (fun store command => command.ReusesNoReceipt env store) .empty commands) :
    ReconcilesByOwnReceipt env commands := by
  intro before input after command workItemId row later split absent retained reconciles found
    leased present settled
  subst split
  obtain ⟨_, fresh, _⟩ := EachCommand.append_iff.mp each
  have id := id_of_getWorkItem found
  subst id
  have leased : row.state.isLeased := by
    rcases leased with running | inDoubt
    · rw [running]
      rfl
    · rw [inDoubt]
      rfl
  have replayed := runCommands_replayed env before
  obtain ⟨_, state⟩ := applyCommand_reconciles
    (runCommands_replayed env (before ++ .enqueue input :: after)) reconciles found leased present
  obtain ⟨receipt, hreceipt, landed⟩ : ∃ receipt,
      terminalReceipt (runCommands env .empty (before ++ .enqueue input :: after)) row =
        some receipt ∧ later.state = receiptState receipt := by
    rcases state with leased | expired | receipted
    · rcases settled with completed | failed
      · rw [completed] at leased
        cases leased
      · rw [failed] at leased
        cases leased
    · rcases settled with completed | failed
      · rw [completed] at expired
        cases expired
      · rw [failed] at expired
        cases expired
    · exact receipted
  obtain ⟨member, item, generation, terminal⟩ := mem_of_terminalReceipt hreceipt
  refine ⟨receipt, hreceipt, landed, generation, ?_⟩
  by_contra recorded
  obtain ⟨old, hold⟩ := ne_none_iff_exists'.mp recorded
  have key := Table.key_of_find? _ hold
  rw [← key] at hold
  have run : runCommands env .empty (before ++ .enqueue input :: after) =
      runCommands env (applyCommand env (runCommands env .empty before) (.enqueue input))
        after := by
    unfold runCommands
    rw [runAll_append]
    rfl
  -- The fence the enqueue met is the one the reconciliation used.
  have kept := @runCommands_keeps_fence env _ _ after hold
  rw [← run, key, Table.find?_of_mem _ member] at kept
  cases kept
  obtain ⟨later', hlater'⟩ := isSome_iff_exists.mp retained.1
  obtain ⟨admission, inserted, admitted, inserts, same⟩ := enqueue_inserts replayed absent hlater'
  rw [applyCommand_sinkFences rfl] at hold
  have unused := fresh admission inserted admitted inserts receipt
    (Table.mem_of_find? _ hold) (item.trans same.symm)
  rw [terminal] at unused
  cases unused

theorem runCommands_reconciles_settled :
    ReconcilesByOwnReceipt (sampleEnv .sqlite defaultQueuePolicy)
      [.enqueue (sampleEnqueue "item" "tenant" 0 10), .claim (sampleClaim leaseA 1 20),
        .complete { toLeaseInput := sampleLease "item" leaseA 30 }] := by
  refine runCommands_reconciles (sampleEnv .sqlite defaultQueuePolicy) _ ?_
  exact ⟨fun _ _ _ _ _ member => absurd member List.not_mem_nil, trivial, trivial, trivial⟩

def singleClosedPolicy : QueuePolicy :=
  { defaultQueuePolicy with
    retention := { defaultRetention with
      maxTerminalItems := policyLimit 1 one_isLimit
      cleanupBatchSize := policyLimit 1 one_isLimit } }

def deletionRun : List QueueCommand :=
  [.enqueue (sampleEnqueue "reused" "tenant" 0 10), .claim (sampleClaim leaseA 1 20),
    .complete { toLeaseInput := sampleLease "reused" leaseA 30 },
    .enqueue (sampleEnqueue "other" "tenant" 0 40), .claim (sampleClaim leaseB 1 50),
    .complete { toLeaseInput := sampleLease "other" leaseB 60 }]

/-- The id is enqueued again and its first lease falls into doubt. -/
def reuseRun : List QueueCommand :=
  [.claim (sampleClaim leaseB 1 80),
    .markInDoubt { toLeaseInput := sampleLease "reused" leaseB 90 }]

def reusedKey : SinkFenceKey := ⟨"reused", 1, "complete"⟩

theorem reuseRun_not_reconciles : ¬ ReconcilesByOwnReceipt (sampleEnv .sqlite singleClosedPolicy)
      (deletionRun ++ .enqueue (sampleEnqueue "reused" "tenant" 0 70) :: reuseRun) := by
  intro reconciles
  obtain ⟨row, found, doubted⟩ : ∃ row, (runCommands (sampleEnv .sqlite singleClosedPolicy) .empty
        (deletionRun ++ .enqueue (sampleEnqueue "reused" "tenant" 0 70) :: reuseRun)).getWorkItem
          "reused" = some row ∧ row.state = .inDoubt := by
    refine map_eq_some_iff.mp ?_
    decide +kernel
  obtain ⟨later, present, completed⟩ : ∃ later, (applyCommand (sampleEnv .sqlite singleClosedPolicy)
        (runCommands (sampleEnv .sqlite singleClosedPolicy) .empty
          (deletionRun ++ .enqueue (sampleEnqueue "reused" "tenant" 0 70) :: reuseRun))
        (.reconcileInDoubt { nowMs := 100 })).getWorkItem "reused" = some later ∧
          later.state = .completed := by
    refine map_eq_some_iff.mp ?_
    decide +kernel
  obtain ⟨receipt, hreceipt, _, _, fresh⟩ := reconciles rfl (by decide +kernel)
    ⟨by decide +kernel, by decide +kernel, by decide +kernel, trivial⟩ rfl found (.inr doubted)
    present (.inl completed)
  have key : ((runCommands (sampleEnv .sqlite singleClosedPolicy) .empty
      (deletionRun ++ .enqueue (sampleEnqueue "reused" "tenant" 0 70) :: reuseRun)).getWorkItem
        "reused").bind (fun row => (terminalReceipt (runCommands
          (sampleEnv .sqlite singleClosedPolicy) .empty (deletionRun ++
            .enqueue (sampleEnqueue "reused" "tenant" 0 70) :: reuseRun)) row).map
              fun receipt => receipt.toSinkFenceKey) = some reusedKey := by
    decide +kernel
  rw [found, bind_some, hreceipt] at key
  have old : ((applyCommand (sampleEnv .sqlite singleClosedPolicy)
      (runCommands (sampleEnv .sqlite singleClosedPolicy) .empty deletionRun)
      (.enqueue (sampleEnqueue "reused" "tenant" 0 70))).sinkFences.find? reusedKey).isSome := by
    decide +kernel
  rw [← some.inj key, fresh] at old
  cases old

end LicoMesh.WorkQueue
