import LicoMesh.WorkQueue.Effects

namespace LicoMesh.WorkQueue

open Library Transaction Store

/-! A transition of the code is one move of its row, between retention effects
that leave every open item and the item itself alone. -/

variable {result row live : WorkItemRow} {patch : ProjectionPatch} {toState : WorkQueueState}
  {nowMs : Int}

theorem path_pure (commits : (pure value : StoreTransaction α).Commits store final next) :
    Path (Step env) permitted store next := by
  obtain ⟨_, rfl⟩ := commits_pure.mp commits
  exact .refl _

section Selections

variable {ρ : Type} {rows : List ρ} {condition : ρ → Bool} {le : ρ → ρ → Bool} {limit : Nat}

theorem mem_selectRows {row : ρ} (member : row ∈ selectRows rows condition le limit) :
    row ∈ rows ∧ condition row := by
  have sorted := List.mem_of_mem_take member
  have filtered := (List.mem_insertionSort _).mp sorted
  simpa using List.mem_filter.mp filtered

theorem nodup_map_selectRows (nodup : (rows.map key).Nodup) :
    ((selectRows rows condition le limit).map key).Nodup := by
  have filtered : ((rows.filter condition).map key).Nodup :=
    nodup.sublist (List.filter_sublist.map key)
  have sorted := ((List.perm_insertionSort (fun a b => le a b)
    (rows.filter condition)).map key).nodup_iff.mpr filtered
  exact sorted.sublist ((List.take_sublist limit _).map key)

end Selections

/-- The rows differ at most in `last_transition_seq` and `updated_at_ms`. -/
structure WorkItemRow.SameItem (left right : WorkItemRow) : Prop where
  request : left.toWorkItemRequest = right.toWorkItemRequest
  projection : left.toWorkItemProjection = right.toWorkItemProjection
  checkpoint : left.checkpoint = right.checkpoint
  priorityClass : left.priorityClass = right.priorityClass

namespace WorkItemRow.SameItem

variable {first second third : WorkItemRow}

theorem refl (row : WorkItemRow) : row.SameItem row := ⟨rfl, rfl, rfl, rfl⟩

theorem trans (left : first.SameItem second) (right : second.SameItem third) :
    first.SameItem third :=
  ⟨left.request.trans right.request, left.projection.trans right.projection,
    left.checkpoint.trans right.checkpoint, left.priorityClass.trans right.priorityClass⟩

theorem workItemId (h : first.SameItem second) : first.workItemId = second.workItemId := by
  rw [h.request]

theorem state (h : first.SameItem second) : first.state = second.state := by
  rw [h.projection]

end WorkItemRow.SameItem

def WorkItemRow.IsClosed (row : WorkItemRow) : Prop := row.state.isTerminal ∨ row.state = .failed

/-- What housekeeping around the item `kept` leaves as it was. -/
structure Preserved (kept : String) (before after : Store) : Prop where
  keeps : ∀ {workItemId row}, before.getWorkItem workItemId = some row →
    workItemId = kept ∨ ¬ row.IsClosed →
    ∃ later, after.getWorkItem workItemId = some later ∧ row.SameItem later
  adds_none : ∀ {workItemId later}, after.getWorkItem workItemId = some later →
    ∃ row, before.getWorkItem workItemId = some row ∧ row.SameItem later
  virtualFinish : after.virtualFinish = before.virtualFinish
  sinkFences : after.sinkFences = before.sinkFences
  definitions : after.definitions = before.definitions

namespace Preserved

variable {kept : String} {first second third : Store}

theorem refl (store : Store) : Preserved kept store store :=
  ⟨fun found _ => ⟨_, found, .refl _⟩, fun found => ⟨_, found, .refl _⟩, rfl, rfl, rfl⟩

theorem trans (left : Preserved kept first second) (right : Preserved kept second third) :
    Preserved kept first third where
  keeps := by
    intro workItemId row found allowed
    obtain ⟨middle, hmiddle, same⟩ := left.keeps found allowed
    have allowed' : workItemId = kept ∨ ¬ middle.IsClosed := by
      rcases allowed with here | notClosed
      · exact .inl here
      · refine .inr fun closed => notClosed ?_
        unfold WorkItemRow.IsClosed
        rw [same.state]
        exact closed
    obtain ⟨later, hlater, same'⟩ := right.keeps hmiddle allowed'
    exact ⟨later, hlater, same.trans same'⟩
  adds_none := by
    intro workItemId later found
    obtain ⟨middle, hmiddle, same'⟩ := right.adds_none found
    obtain ⟨row, hrow, same⟩ := left.adds_none hmiddle
    exact ⟨row, hrow, same.trans same'⟩
  virtualFinish := right.virtualFinish.trans left.virtualFinish
  sinkFences := right.sinkFences.trans left.sinkFences
  definitions := right.definitions.trans left.definitions

private theorem of_stamp (rows : ∀ other, second.getWorkItem other =
      if other = workItemId then
        (first.getWorkItem workItemId).map fun row =>
          { row with lastTransitionSeq := seq, updatedAtMs := nowMs }
      else first.getWorkItem other) (virtualFinish : second.virtualFinish = first.virtualFinish)
    (sinkFences : second.sinkFences = first.sinkFences)
    (definitions : second.definitions = first.definitions) : Preserved kept first second where
  keeps := by
    intro other row found _
    by_cases here : other = workItemId
    · refine ⟨{ row with lastTransitionSeq := seq, updatedAtMs := nowMs }, ?_,
        ⟨rfl, rfl, rfl, rfl⟩⟩
      rw [rows, if_pos here, ← here, found]
      rfl
    · exact ⟨row, by rw [rows, if_neg here, found], .refl row⟩
  adds_none := by
    intro other later found
    rw [rows] at found
    by_cases here : other = workItemId
    · rw [if_pos here] at found
      obtain ⟨row, hrow, rfl⟩ := Option.map_eq_some_iff.mp found
      exact ⟨row, by rw [here, hrow], ⟨rfl, rfl, rfl, rfl⟩⟩
    · rw [if_neg here] at found
      exact ⟨later, found, .refl later⟩
  virtualFinish := virtualFinish
  sinkFences := sinkFences
  definitions := definitions

theorem of_step (step : Step env first effect second)
    (housekeeping : effect.IsHousekeeping kept) : Preserved kept first second := by
  cases step with
  | compact found =>
    rename_i row nowMs
    have rows : ∀ other, (insertRetentionSnapshot row nowMs first).getWorkItem other =
        if other = row.workItemId then
          (first.getWorkItem row.workItemId).map fun current : WorkItemRow =>
            { current with
              lastTransitionSeq := first.journal.lastSeq + 1, updatedAtMs := nowMs }
        else first.getWorkItem other := by
      intro other
      rw [getWorkItem_insertRetentionSnapshot found, found]
      rfl
    exact of_stamp rows rfl rfl rfl
  | touch =>
    rename_i workItemId seq nowMs
    exact of_stamp (getWorkItem_updateLastTransitionSeq workItemId seq nowMs) rfl rfl rfl
  | bookkeep workItems _ virtualFinish sinkFences definitions =>
    have rows : ∀ other, second.getWorkItem other = first.getWorkItem other := by
      intro other
      unfold getWorkItem
      rw [workItems]
    exact ⟨fun found _ => ⟨_, by rw [rows, found], .refl _⟩,
      fun found => ⟨_, by rw [← rows, found], .refl _⟩, virtualFinish, sinkFences, definitions⟩
  | retire found closed =>
    rename_i row
    refine ⟨?_, ?_, rfl, rfl, rfl⟩
    · intro other current present allowed
      have different : ¬ other = row.workItemId := by
        intro here
        subst here
        have same : current = row := by
          rw [found] at present
          exact (Option.some.inj present).symm
        rcases allowed with here | notClosed
        · exact housekeeping here
        · exact notClosed (same ▸ closed)
      refine ⟨current, ?_, .refl current⟩
      rw [getWorkItem_removeItem, if_neg different, present]
    · intro other later present
      rw [getWorkItem_removeItem] at present
      by_cases here : other = row.workItemId
      · rw [if_pos here] at present
        cases present
      · rw [if_neg here] at present
        exact ⟨later, present, .refl later⟩
  | enroll | move | checkpoint | promote | serve | idle | fence | define | rebuild =>
    exact housekeeping.elim

end Preserved

variable {env : QueueEnv}

/-- Housekeeping around the item `kept`. -/
abbrev Housekeeping (env : QueueEnv) (kept : String) : Store → Store → Prop :=
  Path (Step env) fun _ effect => effect.IsHousekeeping kept

theorem Housekeeping.preserved
    (path : Housekeeping env kept before after) : Preserved kept before after := by
  induction path with
  | refl store => exact .refl store
  | step label permission head _ induction =>
    exact (Preserved.of_step head permission).trans induction

section Retention

variable {kept : String} {store next : Store}

theorem countRetention_housekeeping
    (bookkept : counted = { store with retentionState := counted.retentionState }) :
    Housekeeping env kept store counted := by
  have step : Step env store .bookkeep counted := by
    rw [bookkept]
    exact .bookkeep rfl rfl rfl rfl rfl
  exact .step .bookkeep trivial step (.refl counted)

variable (commits : (compactWorkJournal env workItemId nowMs force).Commits store compacted next)
include commits

theorem compactWorkJournal_cases : (compacted = false ∧ next = store) ∨
      (compacted = true ∧ ∃ row, store.getWorkItem workItemId = some row ∧
        next = insertRetentionSnapshot row nowMs store) := by
  replace commits := commits_get_bind.mp commits
  cases found : store.getWorkItem workItemId with
  | none =>
    simp only [found, commits_pure] at commits
    exact .inl ⟨commits.1.symm, commits.2.symm⟩
  | some row =>
    simp only [found, commits_bind, commits_check] at commits
    obtain ⟨policy, _, ⟨_, rfl⟩, commits⟩ := commits
    split at commits
    · obtain ⟨rfl, rfl⟩ := commits_pure.mp commits
      exact .inl ⟨rfl, rfl⟩
    · simp only [commits_bind, commits_set, commits_pure] at commits
      obtain ⟨_, _, rfl, rfl, rfl⟩ := commits
      exact .inr ⟨rfl, row, rfl, rfl⟩

theorem compactWorkJournal_housekeeping : Housekeeping env kept store next := by
  rcases compactWorkJournal_cases commits with ⟨_, rfl⟩ | ⟨_, row, found, rfl⟩
  · exact .refl _
  · have here := id_of_getWorkItem found
    subst here
    exact .step (.compact row nowMs) trivial (.compact found) (.refl _)

omit commits

theorem removeItems_housekeeping (nodup : (rows.map fun row => row.workItemId).Nodup)
    (each : ∀ row ∈ rows, store.getWorkItem row.workItemId = some row ∧ row.IsClosed ∧
      row.workItemId ≠ kept) : Housekeeping env kept store (removeItems rows store) := by
  induction rows generalizing store with
  | nil => exact .refl store
  | cons row rest induction =>
    obtain ⟨found, closed, other⟩ := each row List.mem_cons_self
    have nodup := List.nodup_cons.mp nodup
    refine .step (.retire row) other (.retire found closed) (induction nodup.2 ?_)
    intro later member
    obtain ⟨present, rest⟩ := each later (List.mem_cons_of_mem _ member)
    refine ⟨?_, rest⟩
    have different : ¬ later.workItemId = row.workItemId := fun same =>
      nodup.1 (List.mem_map.mpr ⟨later, member, same⟩)
    rw [getWorkItem_removeItem, if_neg different, present]

theorem deleteTerminalRows_housekeeping (queueDefinitionId : String) (limit : Nat) :
    Housekeeping env kept store (deleteTerminalRows queueDefinitionId kept limit store) := by
  refine removeItems_housekeeping (nodup_map_selectRows store.workItems.keysNodup) ?_
  intro row member
  obtain ⟨present, condition⟩ := mem_selectRows member
  simp only [Bool.and_eq_true, decide_eq_true_eq] at condition
  exact ⟨getWorkItem_of_mem present, .inl condition.1.2, condition.2⟩

theorem trimTerminalItems_housekeeping (retention : RetentionPolicy PolicyLimit)
    (row : WorkItemRow) :
    Housekeeping env row.workItemId store (trimTerminalItems env retention row store) := by
  unfold trimTerminalItems
  simp only
  split
  · exact deleteTerminalRows_housekeeping ..
  · exact .refl store

theorem trimFullJournal_housekeeping (retention : RetentionPolicy PolicyLimit) (row : WorkItemRow) :
    Housekeeping env row.workItemId store (trimFullJournal retention row store) := by
  unfold trimFullJournal
  split
  · exact deleteTerminalRows_housekeeping ..
  · exact .refl store

theorem compactFullJournal_housekeeping {row : WorkItemRow} {nowMs : Int} :
    (compactFullJournal env retention row nowMs).Ensures store fun _ next =>
      Housekeeping env kept store next := by
  refine ensures_bind ?_
  intro current _ read
  obtain ⟨rfl, rfl⟩ := commits_get.mp read
  split
  · refine ensures_bind ((ensures_mapM
      (fun _ later => Housekeeping env kept store later) ?_ (.refl store)).mono ?_)
    · intro workItemId _ later path compacted final commits
      exact path.trans (compactWorkJournal_housekeeping commits)
    · intro _ later path
      exact ensures_pure path
  · exact ensures_pure (.refl store)

theorem settleFullJournal_housekeeping
    (commits : (settleFullJournal env retention row nowMs).Commits store settled next) :
    Housekeeping env kept store next := by
  replace commits := commits_get_bind.mp commits
  split at commits
  · split at commits
    · obtain ⟨compacted, later, compaction, commits⟩ := commits_bind.mp commits
      split at commits
      · obtain ⟨_, rfl⟩ := commits_pure.mp commits
        exact compactWorkJournal_housekeeping compaction
      · exact absurd commits commits_throw
    · exact absurd commits commits_throw
  · exact path_pure commits

theorem maintainRetentionAfterAppend_housekeeping :
    (maintainRetentionAfterAppend env row nowMs).Ensures store fun _ next =>
      Housekeeping env row.workItemId store next := by
  refine ensures_bind ?_
  intro current _ read
  obtain ⟨rfl, rfl⟩ := commits_get.mp read
  refine ensures_bind ?_
  intro policy _ resolved
  simp only
  split
  · intro _ final commits
    obtain ⟨_, _, rfl, _, rfl⟩ := commits
    exact countRetention_housekeeping rfl
  · refine ensures_bind ?_
    intro _ trimmed written
    have written := commits_set.mp written
    have prefixPath : Housekeeping env row.workItemId store trimmed := by
      rw [← written]
      exact (countRetention_housekeeping rfl).trans
        ((trimTerminalItems_housekeeping policy.retention row).trans
          (trimFullJournal_housekeeping policy.retention row))
    refine ensures_bind ((@compactFullJournal_housekeeping env row.workItemId trimmed
      policy.retention row nowMs).mono ?_)
    intro _ compacted path settled final commits
    exact prefixPath.trans (path.trans (settleFullJournal_housekeeping commits))

theorem makeFailedCapacityRoom_housekeeping {done : PUnit}
    (commits : (makeFailedCapacityRoom env row).Commits store done next) :
    Housekeeping env row.workItemId store next := by
  unfold makeFailedCapacityRoom at commits
  simp only [commits_bind, commits_get, commits_check] at commits
  obtain ⟨_, _, ⟨rfl, rfl⟩, policy, _, ⟨_, rfl⟩, commits⟩ := commits
  split at commits
  · exact path_pure commits
  · split at commits
    · have written := commits_set.mp commits
      rw [← written]
      refine removeItems_housekeeping (nodup_map_selectRows store.workItems.keysNodup) ?_
      intro failed member
      obtain ⟨present, condition⟩ := mem_selectRows member
      simp only [Bool.and_eq_true, decide_eq_true_eq] at condition
      exact ⟨getWorkItem_of_mem present, .inr condition.1.2, condition.2⟩
    · exact absurd commits commits_throw

end Retention

section Transition

variable {store next : Store}

theorem appendTransitionInternal_cases
    (commits : (appendTransitionInternal env row draft nowMs).Commits store seq next) :
    isLegalWorkQueueTransition draft.transition draft.fromState draft.toState ∧
      Housekeeping env row.workItemId (store.appendJournal draft nowMs) next := by
  unfold appendTransitionInternal at commits
  split at commits
  · rename_i legal
    refine ⟨legal, ?_⟩
    simp only [commits_bind, commits_get, commits_set] at commits
    obtain ⟨_, _, ⟨rfl, rfl⟩, _, _, rfl, compacted, middle, compaction, maintained, last,
      maintenance, commits⟩ := commits
    have compactPath : Housekeeping env row.workItemId (store.appendJournal draft nowMs)
        middle := by
      unfold compactAfterAppend at compaction
      split at compaction
      · exact compactWorkJournal_housekeeping compaction
      · exact path_pure compaction
    have path := compactPath.trans
      (maintainRetentionAfterAppend_housekeeping maintained last maintenance)
    obtain ⟨_, _, ⟨rfl, rfl⟩, commits⟩ := commits
    have unchanged : last = next := by
      split at commits
      · split at commits <;> exact (commits_pure.mp commits).2
      · exact (commits_pure.mp commits).2
    exact unchanged ▸ path
  · exact absurd commits commits_throw

theorem transitionDraft_congr (same : row.SameItem live) (transition : WorkQueueTransition)
    (toState : WorkQueueState) (patch : ProjectionPatch) (nowMs : Int) :
    transitionDraft row transition toState patch nowMs =
      transitionDraft live transition toState patch nowMs := by
  unfold transitionDraft
  rw [same.request, same.projection]

theorem getWorkItem_updateStateProjection (found : store.getWorkItem workItemId = some live) :
    (store.updateStateProjection workItemId projection nowMs).getWorkItem workItemId =
      some { live with toWorkItemProjection := projection, updatedAtMs := nowMs } := by
  unfold updateStateProjection
  rw [getWorkItem_modifyWorkItem, if_pos rfl, found]
  rfl

theorem applyProjectionPatch_cases (found : store.getWorkItem row.workItemId = some live)
    (commits : (applyProjectionPatch env row patch toState nowMs).Commits store result next) :
    next = store.updateStateProjection row.workItemId
        (patch.apply toState row.toWorkItemProjection) nowMs ∧ result = { live with
        toWorkItemProjection := patch.apply toState row.toWorkItemProjection
        updatedAtMs := nowMs } := by
  unfold applyProjectionPatch at commits
  simp only [commits_bind, commits_get, commits_set] at commits
  obtain ⟨_, _, ⟨rfl, rfl⟩, _, _, rfl, commits⟩ := commits
  rw [getWorkItem_updateStateProjection found] at commits
  obtain ⟨rfl, rfl⟩ := commits_pure.mp commits
  exact ⟨rfl, rfl⟩

theorem transitionProjectionInternal_cases (found : store.getWorkItem row.workItemId = some present)
    (same : row.SameItem present)
    (commits : (transitionProjectionInternal env row transition toState patch nowMs).Commits
      store result next) : ∃ room live, Housekeeping env row.workItemId store room ∧
      (toState ≠ .failed → room = store) ∧ room.getWorkItem row.workItemId = some live ∧
      row.SameItem live ∧ isLegalWorkQueueTransition transition (some live.state) toState ∧
      Housekeeping env row.workItemId (room.moveRow live transition toState patch nowMs) next ∧
      next.getWorkItem row.workItemId = some result ∧
      result.toWorkItemRequest = live.toWorkItemRequest ∧
      result.toWorkItemProjection = patch.apply toState live.toWorkItemProjection := by
  obtain ⟨_, room, making, commits⟩ := commits_bind.mp commits
  have madeRoom : Housekeeping env row.workItemId store room ∧
      (toState ≠ .failed → room = store) := by
    unfold makeRoomBefore at making
    split at making
    · rename_i failing
      exact ⟨makeFailedCapacityRoom_housekeeping making, fun other => absurd failing.1 other⟩
    · obtain ⟨_, rfl⟩ := commits_pure.mp making
      exact ⟨.refl _, fun _ => rfl⟩
  obtain ⟨live, hlive, sameLive⟩ := madeRoom.1.preserved.keeps found (.inl rfl)
  have sameLive := same.trans sameLive
  refine ⟨room, live, madeRoom.1, madeRoom.2, hlive, sameLive, ?_⟩
  simp only [commits_bind, commits_get] at commits
  obtain ⟨nextRow, patched, patching, seq, appended, appending, _, _, ⟨rfl, rfl⟩, commits⟩ :=
    commits
  obtain ⟨rfl, rfl⟩ := applyProjectionPatch_cases hlive patching
  obtain ⟨legal, retention⟩ := appendTransitionInternal_cases appending
  have here : live.workItemId = row.workItemId := sameLive.workItemId.symm
  have retention : Housekeeping env row.workItemId
      (room.moveRow live transition toState patch nowMs) appended := by
    unfold moveRow
    rw [← transitionDraft_congr sameLive, here, ← sameLive.projection]
    simpa only [here] using retention
  have moved : (room.moveRow live transition toState patch nowMs).getWorkItem row.workItemId =
      some { live with
        toWorkItemProjection := patch.apply toState live.toWorkItemProjection
        lastTransitionSeq := room.journal.lastSeq + 1
        updatedAtMs := nowMs } := by
    rw [getWorkItem_moveRow (by rw [here]; exact hlive), if_pos here.symm]
  obtain ⟨final, hfinal, sameFinal⟩ := retention.preserved.keeps moved (.inl rfl)
  refine ⟨?_, ?_⟩
  · rw [← sameLive.state]
    exact legal
  · split at commits
    · simp only [commits_set, commits_pure, commits_bind] at commits
      obtain ⟨_, _, rfl, rfl, rfl⟩ := commits
      have touched : (appended.updateLastTransitionSeq row.workItemId seq nowMs).getWorkItem
          row.workItemId = some { final with lastTransitionSeq := seq, updatedAtMs := nowMs } := by
        rw [getWorkItem_updateLastTransitionSeq, if_pos rfl, hfinal]
        rfl
      refine ⟨retention.trans (.step (.touch row.workItemId seq nowMs) trivial .touch (.refl _)),
        ?_, ?_, ?_⟩
      · rw [touched]
        rfl
      · rw [touched]
        exact sameFinal.request.symm
      · rw [touched]
        exact sameFinal.projection.symm
    · rw [hfinal] at commits
      obtain ⟨rfl, rfl⟩ := commits_pure.mp commits
      exact ⟨retention, hfinal, sameFinal.request.symm, sameFinal.projection.symm⟩

end Transition

end LicoMesh.WorkQueue
