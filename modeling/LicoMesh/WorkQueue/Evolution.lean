import LicoMesh.WorkQueue.ReplayAgreement

namespace LicoMesh.WorkQueue

open Library

variable {store : Store} {transition : WorkQueueTransition} {toState : WorkQueueState}
  {patch : ProjectionPatch} {later row : WorkItemRow} {effect : Effect} {env : QueueEnv}

structure Enrolled (env : QueueEnv) (store : Store) (effect : Effect) (later : WorkItemRow) :
    Prop where
  absent : store.getWorkItem later.workItemId = none
  enrolls : ∃ row policy nowMs, effect = .enroll row policy nowMs ∧ row.IsNew ∧
    assertAdmissionCapacity store row.queueDefinitionId row.toHierarchy row.state policy =
      .ok () ∧ row.SameItem later

structure Moved (env : QueueEnv) (store : Store) (effect : Effect) (row later : WorkItemRow)
    (transition : WorkQueueTransition) (toState : WorkQueueState) (patch : ProjectionPatch) :
    Prop where
  found : store.getWorkItem later.workItemId = some row
  moves : ∃ nowMs, effect = .move row transition toState patch nowMs
  legal : isLegalWorkQueueTransition transition (some row.state) toState
  guard : MoveGuard env store row transition toState patch
  request : row.toWorkItemRequest = later.toWorkItemRequest
  projection : later.toWorkItemProjection = patch.apply toState row.toWorkItemProjection

structure Kept (store : Store) (row later : WorkItemRow) : Prop where
  found : store.getWorkItem later.workItemId = some row
  request : row.toWorkItemRequest = later.toWorkItemRequest
  projection : row.toWorkItemProjection = later.toWorkItemProjection

section Rows

variable {store next : Store}

theorem kept_modifyWorkItem
    (columns : ∀ row : WorkItemRow, row.toWorkItemRequest = (update row).toWorkItemRequest ∧
      row.toWorkItemProjection = (update row).toWorkItemProjection)
    (present : (store.modifyWorkItem target update keeps).getWorkItem later.workItemId =
      some later) : ∃ row, Kept store row later := by
  rw [Store.getWorkItem_modifyWorkItem] at present
  by_cases here : later.workItemId = target
  · rw [if_pos here] at present
    obtain ⟨row, found, same⟩ := Option.map_eq_some_iff.mp present
    obtain ⟨request, projection⟩ := columns row
    rw [same] at request projection
    exact ⟨row, by rw [here]; exact found, request, projection⟩
  · rw [if_neg here] at present
    exact ⟨later, present, rfl, rfl⟩

theorem Step.row_cases (step : Step env store effect next) (replayed : store.Replayed False)
    (present : next.getWorkItem later.workItemId = some later) : Enrolled env store effect later ∨
      (∃ row transition toState patch, Moved env store effect row later transition toState
        patch) ∨ ∃ row, Kept store row later := by
  cases step with
  | enroll inserts isNew admitted =>
    rename_i inserted row policy nowMs
    rw [getWorkItem_admitRow inserts] at present
    by_cases here : later.workItemId = row.workItemId
    · rw [if_pos here] at present
      cases present
      exact .inl ⟨(Store.insertWorkItem_fresh inserts).1, row, policy, nowMs, rfl, isNew,
        admitted, ⟨rfl, rfl, rfl, rfl⟩⟩
    · rw [if_neg here] at present
      exact .inr (.inr ⟨later, present, rfl, rfl⟩)
  | move found legal guard =>
    rename_i row transition toState patch nowMs
    rw [getWorkItem_moveRow found] at present
    by_cases here : later.workItemId = row.workItemId
    · rw [if_pos here] at present
      cases present
      exact .inr (.inl ⟨row, transition, toState, patch, found, ⟨nowMs, rfl⟩, legal, guard,
        rfl, rfl⟩)
    · rw [if_neg here] at present
      exact .inr (.inr ⟨later, present, rfl, rfl⟩)
  | checkpoint found running =>
    rename_i row checkpoint nowMs
    rw [getWorkItem_checkpointRow found] at present
    by_cases here : later.workItemId = row.workItemId
    · rw [if_pos here] at present
      cases present
      exact .inr (.inr ⟨row, found, rfl, rfl⟩)
    · rw [if_neg here] at present
      exact .inr (.inr ⟨later, present, rfl, rfl⟩)
  | compact found =>
    rename_i row nowMs
    rw [getWorkItem_insertRetentionSnapshot found] at present
    by_cases here : later.workItemId = row.workItemId
    · rw [if_pos here] at present
      cases present
      exact .inr (.inr ⟨row, found, rfl, rfl⟩)
    · rw [if_neg here] at present
      exact .inr (.inr ⟨later, present, rfl, rfl⟩)
  | retire =>
    rw [Store.getWorkItem_removeItem] at present
    split at present
    · cases present
    · exact .inr (.inr ⟨later, present, rfl, rfl⟩)
  | promote =>
    refine .inr (.inr (kept_modifyWorkItem ?_ present))
    exact fun _ => ⟨rfl, rfl⟩
  | touch =>
    refine .inr (.inr (kept_modifyWorkItem ?_ present))
    exact fun _ => ⟨rfl, rfl⟩
  | serve | idle | fence | define => exact .inr (.inr ⟨later, present, rfl, rfl⟩)
  | bookkeep workItems _ _ _ _ =>
    refine .inr (.inr ⟨later, ?_, rfl, rfl⟩)
    unfold Store.getWorkItem at present ⊢
    rwa [workItems] at present
  | rebuild errors inserts =>
    rename_i rebuilt
    have same : (rebuildVirtualFinish rebuilt).getWorkItem later.workItemId =
        rebuilt.getWorkItem later.workItemId := by
      unfold Store.getWorkItem
      rw [(rebuildVirtualFinish_rows rebuilt).1]
    rw [same] at present
    rcases replayed.outcome.rebuilt inserts later.workItemId with
      ⟨_, absent⟩ | ⟨row, record, found, rebuiltRow, agrees⟩
    · rw [absent] at present
      cases present
    · rw [rebuiltRow] at present
      cases present
      exact .inr (.inr ⟨row, found, agrees.request.symm, agrees.projection.symm⟩)

end Rows

structure WorkItemRow.Evolves (row later : WorkItemRow) : Prop where
  request : row.toWorkItemRequest = later.toWorkItemRequest
  leaseSeq : row.leaseSeq ≤ later.leaseSeq
  terminal : row.state.isTerminal → row.toWorkItemProjection = later.toWorkItemProjection

namespace WorkItemRow.Evolves

variable {first second third : WorkItemRow}

theorem refl (row : WorkItemRow) : row.Evolves row := ⟨rfl, Nat.le_refl _, fun _ => rfl⟩

theorem trans (left : first.Evolves second) (right : second.Evolves third) :
    first.Evolves third where
  request := left.request.trans right.request
  leaseSeq := Nat.le_trans left.leaseSeq right.leaseSeq
  terminal := by
    intro terminal
    have same := left.terminal terminal
    exact same.trans (right.terminal (by rw [← same]; exact terminal))

theorem state (h : first.Evolves second) (terminal : first.state.isTerminal) :
    first.state = second.state := by
  rw [h.terminal terminal]

theorem of_kept (h : Kept store first second) : first.Evolves second where
  request := h.request
  leaseSeq := by rw [h.projection]
  terminal _ := h.projection

end WorkItemRow.Evolves

theorem MoveGuard.leaseSeq_le (guard : MoveGuard env store row transition toState patch) :
    row.leaseSeq ≤ (patch.apply toState row.toWorkItemProjection).leaseSeq := by
  cases guard with
  | claimed lease _ _ _ leaseSeq =>
    have patched : ((claimPatch row lease).apply .running row.toWorkItemProjection).leaseSeq =
        lease.leaseSeq := rfl
    omega
  | renewed | doubted => exact Nat.le_refl _
  | released _ _ _ _ _ releases =>
    unfold ProjectionPatch.apply
    rw [releases.leaseSeq]
    exact Nat.le_refl _

theorem Moved.evolves (moved : Moved env store effect row later transition toState patch) :
    row.Evolves later where
  request := moved.request
  leaseSeq := by
    rw [moved.projection]
    exact moved.guard.leaseSeq_le
  terminal := by
    intro terminal
    have open? := isLegal_not_terminal moved.legal
    rw [open?] at terminal
    cases terminal

def Store.Holds (store : Store) (row : WorkItemRow) : Prop :=
  ∀ later, store.getWorkItem row.workItemId = some later → row.Evolves later

theorem Step.holds (step : Step env store effect next) (replayed : store.Replayed False)
    (other : ∀ inserted policy nowMs, effect = .enroll inserted policy nowMs →
      inserted.workItemId ≠ row.workItemId) (holds : store.Holds row) : next.Holds row := by
  intro later present
  have here : later.workItemId = row.workItemId := Store.id_of_getWorkItem present
  have present : next.getWorkItem later.workItemId = some later := by
    rw [here]
    exact present
  rcases step.row_cases replayed present with
    enrolled | ⟨before, _, _, _, moved⟩ | ⟨before, kept⟩
  · obtain ⟨inserted, policy, nowMs, same, _, _, sameItem⟩ := enrolled.enrolls
    exact absurd (sameItem.workItemId.trans here) (other inserted policy nowMs same)
  · have found := moved.found
    rw [here] at found
    exact (holds before found).trans moved.evolves
  · have found := kept.found
    rw [here] at found
    exact (holds before found).trans (.of_kept kept)

theorem applyCommand_holds (replayed : store.Replayed False)
    (found : store.getWorkItem row.workItemId = some row) :
    (applyCommand env store command).Holds row := by
  have keeps : ∀ {state effect next}, Permits env store command state effect →
      Step env state effect next → state.Replayed False ∧ state.Holds row →
      next.Replayed False ∧ next.Holds row := by
    intro state effect next permitted step ⟨current, holds⟩
    refine ⟨step.replayed nofun current, step.holds current ?_ holds⟩
    intro inserted policy nowMs same here
    subst same
    obtain ⟨atStart, _⟩ := permitted
    cases step with
    | enroll inserts _ _ =>
      have fresh := (Store.insertWorkItem_fresh inserts).1
      rw [here, atStart, found] at fresh
      cases fresh
  have start : store.Holds row := by
    intro later present
    rw [found] at present
    cases present
    exact .refl row
  exact ((applyCommand_path env store command).preserves keeps ⟨replayed, start⟩).2

def RetainedAlong (env : QueueEnv) (workItemId : String) (store : Store)
    (commands : List QueueCommand) : Prop :=
  (store.getWorkItem workItemId).isSome ∧ EachCommand (applyCommand env)
      (fun state command => ((applyCommand env state command).getWorkItem workItemId).isSome)
      store commands

theorem runCommands_replayed_from (replayed : store.Replayed False) (commands : List QueueCommand) :
    (runCommands env store commands).Replayed False :=
  runAll_invariant (fun _ _ => applyCommand_replayed False.elim) replayed commands

theorem runCommands_holds (replayed : store.Replayed False)
    (found : store.getWorkItem row.workItemId = some row)
    (retained : RetainedAlong env row.workItemId store commands) :
    ∃ later, (runCommands env store commands).getWorkItem row.workItemId = some later ∧
      row.Evolves later := by
  obtain ⟨_, each⟩ := retained
  induction commands generalizing store row with
  | nil => exact ⟨row, found, .refl row⟩
  | cons command rest induction =>
    obtain ⟨present, each⟩ := each
    obtain ⟨middle, hmiddle⟩ := Option.isSome_iff_exists.mp present
    have evolves := applyCommand_holds replayed found middle hmiddle
    have here := Store.id_of_getWorkItem hmiddle
    rw [← here] at each hmiddle
    obtain ⟨last, hlast, evolves'⟩ := induction (applyCommand_replayed False.elim replayed)
      hmiddle (by rw [hmiddle]; rfl) each
    exact ⟨last, by rw [← here]; exact hlast, evolves.trans evolves'⟩

def Effect.EnrollsNone : Effect → Prop
  | .enroll _ _ _ => False
  | _ => True

def Store.Evolves (before after : Store) : Prop :=
  ∀ later, after.getWorkItem later.workItemId = some later →
    ∃ row, before.getWorkItem later.workItemId = some row ∧ row.Evolves later

theorem Path.evolves (path : Path (Step env) (fun _ effect => effect.EnrollsNone) store next)
    (replayed : store.Replayed False) : store.Evolves next := by
  induction path with
  | refl store => exact fun later present => ⟨later, present, .refl later⟩
  | step effect enrollsNone head _ induction =>
    intro later present
    obtain ⟨middle, hmiddle, evolves⟩ := induction (head.replayed nofun replayed) later present
    have here := Store.id_of_getWorkItem hmiddle
    rw [← here] at hmiddle ⊢
    rcases head.row_cases replayed hmiddle with
      enrolled | ⟨row, _, _, _, moved⟩ | ⟨row, kept⟩
    · obtain ⟨_, _, _, rfl, _⟩ := enrolled.enrolls
      exact enrollsNone.elim
    · exact ⟨row, moved.found, moved.evolves.trans evolves⟩
    · exact ⟨row, kept.found, (WorkItemRow.Evolves.of_kept kept).trans evolves⟩

theorem enrollsNone_mayClaim (nowMs : Int) :
    MayClaim (fun _ effect => effect.EnrollsNone) nowMs := by
  refine ⟨⟨?_, fun _ _ _ => trivial, fun _ _ _ => trivial, fun _ _ _ _ _ => trivial,
    fun _ _ _ => trivial⟩, fun _ _ => trivial, fun _ _ _ _ => trivial, fun _ _ _ => trivial⟩
  intro _ effect retention
  cases effect <;> trivial

end LicoMesh.WorkQueue
