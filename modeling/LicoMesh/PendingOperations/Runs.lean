import LicoMesh.PendingOperations.Decisions

namespace LicoMesh.PendingOperations

open Library Calls Steps

variable {events : List Event} {w : Calls} {approvalStore : Bool}

structure Good (w : Calls) : Prop where
  shared : SharedSound w.shared
  calls : World.Holds CallSound w
  bounded : ∀ taken, w.shared.taken = some taken → taken.index < w.agents.length

theorem initial_good (row : PendingOperation) : Good (initial row) where
  shared := {
    actor := fun _ => rfl
    fresh := fun _ => ⟨rfl, rfl⟩
    pending := fun _ => rfl
    refused := fun _ => rfl
    once := Nat.zero_le _
    found := fun _ isTaken => nomatch isTaken
    completed := fun completed => nomatch completed
    writer := fun _ written => nomatch written
    runner := fun _ isIn => absurd isIn List.not_mem_nil
    authorised := fun _ isIn => absurd isIn List.not_mem_nil }
  calls := fun _ _ present => nomatch present
  bounded := fun _ isTaken => nomatch isTaken

theorem Good.ambient (good : Good w) (clock : Nat)
    (getAgentBinding : String → Option AgentBinding) :
    Good ⟨{ w.shared with clock := clock, getAgentBinding := getAgentBinding }, w.agents⟩ where
  shared := { good.shared with }
  calls := good.calls.interfere fun index _ _ known =>
    have steps : Steps (index + 1) w.shared
        { w.shared with clock := clock, getAgentBinding := getAgentBinding } :=
      { refl (index + 1) w.shared with }
    steps.callSound good.shared (Nat.ne_of_lt (Nat.lt_succ_self index)) known
  bounded := good.bounded

theorem Good.call (good : Good w) (request : Request) : Good (w.spawn ⟨request, .reading⟩) where
  shared := good.shared
  calls := good.calls.spawn fun taken isTaken =>
    Nat.ne_of_lt (good.bounded taken isTaken)
  bounded := fun taken isTaken => by
    have := good.bounded taken isTaken
    unfold World.spawn
    rw [List.length_append]
    exact Nat.lt_add_right _ this

theorem stepMeets_of_meets (present : w.agents[index]? = some call)
    (isMet : meets w (.step index reply) = true) : StepMeets w.shared call reply := by
  unfold meets at isMet
  unfold StepMeets
  dsimp only at isMet
  rw [present] at isMet
  dsimp only at isMet
  split
  · next isPoint =>
      rw [isPoint] at isMet
      exact of_decide_eq_true isMet
  · next isPoint =>
      rw [isPoint] at isMet
      intro throws effect
      simpa [throws, effect] using isMet
  · next isPoint =>
      rw [isPoint] at isMet
      intro throws
      simpa [throws] using isMet
  · trivial

theorem Good.step (good : Good w) (approvalStore : Bool) {call : Call}
    (present : w.agents[index]? = some call) (isMet : meets w (.step index reply) = true) :
    Advances w.shared index call (advance approvalStore w.shared index call reply) :=
  advance_advances good.shared (good.calls index call present) (stepMeets_of_meets present isMet)

theorem Good.apply (good : Good w) (approvalStore : Bool) (isMet : meets w event = true) :
    Good (apply approvalStore w event) ∧
      ∃ index, Steps index w.shared (apply approvalStore w event).shared := by
  cases event with
  | tick elapsed =>
    exact ⟨good.ambient _ _, 0, { refl 0 w.shared with }⟩
  | bind agentId binding =>
    exact ⟨good.ambient _ _, 0, { refl 0 w.shared with }⟩
  | call request => exact ⟨good.call request, 0, refl 0 w.shared⟩
  | step index reply =>
    unfold Calls.apply
    dsimp only
    split
    · exact ⟨good, index, refl index w.shared⟩
    · next call present =>
        have advances := good.step approvalStore present isMet
        refine ⟨⟨advances.sound, ?_, ?_⟩, index, advances.steps⟩
        · exact good.calls.update present advances.call fun other found differs _ known =>
            advances.steps.callSound good.shared differs known
        · intro taken isTaken
          unfold World.update
          rw [List.length_set]
          rcases advances.steps.taken with same | ⟨-, found, isFound, isIndex⟩
          · exact good.bounded taken (same ▸ isTaken)
          · have both : some taken = some found := isTaken.symm.trans isFound
            rw [Option.some.inj both, isIndex]
            exact (List.getElem?_eq_some_iff.mp present).1

abbrev Meets (approvalStore : Bool) (w : Calls) (events : List Event) : Prop :=
  EachCommand (apply approvalStore) (fun w event => meets w event = true) w events

theorem Good.run (good : Good w) (each : Meets approvalStore w events) :
    Good (runAll (.apply approvalStore) w events) := by
  refine runAll_preserves ?_ each good
  exact fun w event isMet before => (before.apply approvalStore isMet).1

theorem Good.run_keeps (good : Good w) (each : Meets approvalStore w events)
    (property : Shared → Prop)
    (keeps : ∀ {index s next}, Steps index s next → property s → property next)
    (holds : property w.shared) :
    property (runAll (Calls.apply approvalStore) w events).shared := by
  have kept : ∀ w event, meets w event = true → Good w ∧ property w.shared →
      Good (Calls.apply approvalStore w event) ∧
        property (Calls.apply approvalStore w event).shared := by
    intro w event isMet before
    obtain ⟨next, index, steps⟩ := before.1.apply approvalStore isMet
    exact ⟨next, keeps steps before.2⟩
  exact (runAll_preserves kept each ⟨good, holds⟩).2

def Status.settled : Status → Bool
  | .pending | .approved => false
  | _ => true

structure Decided (w : Calls) : Prop where
  once : w.shared.executions.length ≤ 1
  /-- The one execution is that of an approving call, whose approver satisfies every layer and
  which took the operation while it was pending and unexpired. -/
  authorised : ∀ e ∈ w.shared.executions, e.request.resolution = "approved" ∧
    ∃ taken, w.shared.taken = some taken ∧ taken.index = e.index ∧
      taken.found.status = .pending ∧ taken.found.isOver taken.timestamp = false ∧
      ∀ layer ∈ uniqueStrings taken.found.requiredApproval.approvalLayers,
        Satisfies taken.found.requiredApproval e.request.approver e.bindings layer
  completed : w.shared.row.status = .completed → ∃ e ∈ w.shared.executions, e.result = some true
  singleUse : ∀ approval, w.shared.approval = some approval → approval.record.grantKind = "once" →
    ∀ call answer, w.agents[approval.writer]? = some call → call.point = .ended answer →
      approval.revoked = true

theorem Good.decided (good : Good w) : Decided w where
  once := good.shared.once
  authorised := fun e isIn => by
    obtain ⟨taken, isTaken, isIndex⟩ := good.shared.runner e isIn
    obtain ⟨pending, unexpired, same⟩ := good.shared.found taken isTaken
    obtain ⟨resolution, layers⟩ := good.shared.authorised e isIn
    refine ⟨resolution, taken, isTaken, isIndex.symm, pending, unexpired, ?_⟩
    rw [same]
    exact layers
  completed := good.shared.completed
  singleUse := fun approval written once call answer present isEnded => by
    have known := good.calls approval.writer call present
    unfold CallSound at known
    rw [isEnded] at known
    exact known.2 approval written rfl once

/-- Over every interleaving in which refusals meet the operation before an approving call has
taken it, and the governance store keeps to all or nothing, the operation is decided once: what a
call reports as refused is never executed, and a settled status never changes. -/
theorem run_decided (approvalStore : Bool) (row : PendingOperation) (events : List Event)
    (each : Meets approvalStore (Calls.initial row) events) :
    let run := fun events => runAll (Calls.apply approvalStore) (Calls.initial row) events
    Decided (run events) ∧ ∀ earlier later, events = earlier ++ later →
      ((run earlier).shared.row.status.settled = true →
        (run events).shared.row.status = (run earlier).shared.row.status) ∧
      ∀ (index : Nat) (call : Call) (answer : Answer) (status : Status), (run earlier).agents[index]? = some call →
        call.point = .ended answer → answer.status = some status → status.refused →
          (run events).shared.executions = [] := by
  intro run
  refine ⟨((initial_good row).run each).decided, ?_⟩
  rintro earlier later rfl
  obtain ⟨eachEarlier, eachLater⟩ := EachCommand.append_iff.mp each
  have good := (initial_good row).run eachEarlier
  have final : run (earlier ++ later) = runAll (Calls.apply approvalStore) (run earlier) later :=
    runAll_append ..
  rw [final]
  refine ⟨fun settled => ?_, fun index call answer status present isEnded reported refused => ?_⟩
  · refine good.run_keeps eachLater
      (fun s => s.row.status = (run earlier).shared.row.status) ?_ rfl
    intro index s next steps same
    rcases steps.status with kept | pending | approved
    · exact kept.trans same
    · rw [← same, pending] at settled
      exact nomatch settled
    · rw [← same, approved] at settled
      exact nomatch settled
  · have known := good.calls index call present
    unfold CallSound at known
    rw [isEnded] at known
    have closed := good.run_keeps eachLater Closed Steps.closed
      (known.1 status reported refused)
    exact ((good.run eachLater).shared.fresh closed.2).1

def sampleRow : PendingOperation where
  expiresAt := some 900000
  originalInput := "\x7b\x7d"
  requiredApproval := {}
  approvalLayers := []

def approval : Request := ⟨"approved", ⟨"owner", [], [], []⟩, "owner", none⟩

def cancellation : Request := ⟨"cancelled", ⟨"second", [], [], []⟩, "second", none⟩

def approvingRun : List Event := .call approval :: List.replicate 7 (.step 0 {})

theorem run_decided_sample : Decided (runAll (apply true) (initial sampleRow) approvingRun) ∧
      (runAll (apply true) (initial sampleRow) approvingRun).shared.row.status = .completed :=
  ⟨(run_decided true sampleRow approvingRun (by decide +kernel)).1, by decide +kernel⟩

/-- Both users read the pending operation; the second cancels it while it is executed. -/
def cancelledRun : List Event :=
  [.call approval, .call cancellation, .step 0 {}, .step 1 {}] ++
    List.replicate 3 (.step 0 {}) ++ List.replicate 3 (.step 1 {})

/-- The second user is told that the operation is cancelled, and it has been executed. -/
theorem cancelled_while_executing :
    let w := runAll (apply true) (initial sampleRow) cancelledRun
    (∃ call, w.agents[1]? = some call ∧ call.point = .ended (.decided .cancelled)) ∧
      w.shared.executions.length = 1 :=
  ⟨⟨_, rfl, rfl⟩, rfl⟩

end LicoMesh.PendingOperations
