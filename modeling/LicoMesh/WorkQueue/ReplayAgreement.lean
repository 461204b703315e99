import LicoMesh.WorkQueue.Commands

namespace LicoMesh.WorkQueue

open Library Journal

variable {record row later : WorkItemRow} {entries : List JournalEntry} {entry : JournalEntry}
  {nowMs : Int}

structure WorkItemRow.Replays (tracked : Prop) (record row : WorkItemRow) : Prop where
  request : record.toWorkItemRequest = row.toWorkItemRequest
  projection : record.toWorkItemProjection = row.toWorkItemProjection
  checkpoint : tracked → record.checkpoint = row.checkpoint

def ItemReplays (tracked : Prop) (entries : List JournalEntry) : Option WorkItemRow → Prop
  | none => entries = []
  | some row => ∃ record,
      replayKey replayTransition entries = .ok (some record) ∧ record.Replays tracked row

def Store.Replayed (tracked : Prop) (store : Store) : Prop :=
  ∀ workItemId, ItemReplays tracked (store.journal.ofItem workItemId)
    (store.getWorkItem workItemId)

open Store

namespace WorkItemRow.Replays

variable {tracked : Prop} {record row later : WorkItemRow}

theorem refl (row : WorkItemRow) : row.Replays tracked row := ⟨rfl, rfl, fun _ => rfl⟩

end WorkItemRow.Replays

variable {env : QueueEnv} {tracked : Prop}

section Event

theorem replayTransition_some
    (legal : isLegalWorkQueueTransition entry.transition (some record.state) entry.toState) :
    replayTransition (some record) entry = .ok { entry.decision.patchRow record with
        state := entry.toState, lastTransitionSeq := entry.seq } := by
  obtain ⟨notEnqueue, notSnapshot⟩ := isLegal_some_not_baseline legal
  have patches : entry.transition.isBaseline = false := by
    simp [WorkQueueTransition.isBaseline, notEnqueue, notSnapshot]
  unfold replayTransition
  rw [Option.map_some, if_pos legal, patches]
  rfl

section

variable (baseline : entry.transition.isBaseline) (decision : entry.decision = .projectionRow row)
  (legal : isLegalWorkQueueTransition entry.transition none entry.toState)
include baseline decision legal

theorem replayTransition_baseline : replayTransition none entry =
      .ok { row with state := entry.toState, lastTransitionSeq := entry.seq } := by
  unfold replayTransition
  rw [Option.map_none, if_pos legal, if_pos baseline, decision]

theorem itemReplays_baseline
    (toState : entry.toState = row.state) (request : later.toWorkItemRequest =
      row.toWorkItemRequest) (projection : later.toWorkItemProjection = row.toWorkItemProjection)
    (checkpoint : later.checkpoint = row.checkpoint) :
    ItemReplays tracked [entry] (some later) := by
  refine ⟨{ row with state := entry.toState, lastTransitionSeq := entry.seq }, ?_, ?_⟩
  · have single := replayKey_append replayTransition [] entry
    rw [List.nil_append] at single
    rw [single]
    simp only [replayKey, List.foldlM_nil, pure, Except.pure, Except.bind]
    rw [replayTransition_baseline baseline decision legal]
    rfl
  · refine ⟨request.symm, ?_, fun _ => checkpoint.symm⟩
    rw [toState]
    exact projection.symm

end

theorem itemReplays_append (replays : ItemReplays tracked entries (some row))
    (legal : isLegalWorkQueueTransition entry.transition (some row.state) entry.toState)
    (patched : ∀ record : WorkItemRow, record.Replays tracked row →
      ({ entry.decision.patchRow record with
        state := entry.toState, lastTransitionSeq := entry.seq } : WorkItemRow).Replays
          tracked later) : ItemReplays tracked (entries ++ [entry]) (some later) := by
  obtain ⟨record, folded, agrees⟩ := replays
  have legal : isLegalWorkQueueTransition entry.transition (some record.state)
      entry.toState := by
    rw [agrees.projection]
    exact legal
  refine ⟨_, ?_, patched record agrees⟩
  rw [replayKey_append, folded]
  simp only [Except.bind]
  rw [replayTransition_some legal]
  rfl

end Event

section Steps

variable {store next : Store}

theorem ItemReplays.congr (replays : ItemReplays tracked entries (some row))
    (request : row.toWorkItemRequest = later.toWorkItemRequest)
    (projection : row.toWorkItemProjection = later.toWorkItemProjection)
    (checkpoint : row.checkpoint = later.checkpoint) :
    ItemReplays tracked entries (some later) := by
  obtain ⟨record, folded, agrees⟩ := replays
  exact ⟨record, folded, agrees.request.trans request, agrees.projection.trans projection,
    fun h => (agrees.checkpoint h).trans checkpoint⟩

theorem Store.Replayed.enroll (replayed : store.Replayed tracked)
    (inserts : store.insertWorkItem row = some inserted) (isNew : row.IsNew) :
    (inserted.admitRow row nowMs).Replayed tracked := by
  intro workItemId
  obtain ⟨fresh, same, _⟩ := insertWorkItem_fresh inserts
  have journal : (inserted.admitRow row nowMs).journal =
      store.journal.insert (enqueueDraft row) := by
    have kept : inserted.journal = store.journal := by rw [same]
    rw [← kept]
    rfl
  rw [journal, ofItem_insert, getWorkItem_admitRow inserts]
  by_cases here : workItemId = row.workItemId
  · subst here
    have unused : store.journal.ofItem row.workItemId = [] := by
      have none := replayed row.workItemId
      rw [fresh] at none
      exact none
    have draft : (enqueueDraft row).workItemId = row.workItemId := rfl
    rw [if_pos draft, if_pos rfl, unused, List.nil_append]
    exact itemReplays_baseline rfl rfl (isLegal_enqueue isNew.state) rfl rfl rfl rfl
  · have draft : ¬ (enqueueDraft row).workItemId = workItemId := fun h => here h.symm
    rw [if_neg draft, if_neg here]
    exact replayed workItemId

theorem Store.Replayed.move (replayed : store.Replayed tracked)
    (found : store.getWorkItem row.workItemId = some row)
    (legal : isLegalWorkQueueTransition transition (some row.state) toState) :
    (store.moveRow row transition toState patch nowMs).Replayed tracked := by
  intro workItemId
  have journal : (store.moveRow row transition toState patch nowMs).journal =
      store.journal.insert (transitionDraft row transition toState patch nowMs) := rfl
  rw [journal, ofItem_insert, getWorkItem_moveRow found]
  by_cases here : workItemId = row.workItemId
  · subst here
    have draft : (transitionDraft row transition toState patch nowMs).workItemId =
        row.workItemId := rfl
    rw [if_pos draft, if_pos rfl]
    have current := replayed row.workItemId
    rw [found] at current
    refine itemReplays_append current legal ?_
    intro record agrees
    refine ⟨agrees.request, ?_, agrees.checkpoint⟩
    have patched : patch.apply toState record.toWorkItemProjection =
        patch.apply toState row.toWorkItemProjection := by
      rw [agrees.projection]
    exact patched
  · have draft : ¬ (transitionDraft row transition toState patch nowMs).workItemId =
        workItemId := fun h => here h.symm
    rw [if_neg draft, if_neg here]
    exact replayed workItemId

theorem Store.Replayed.checkpoint {checkpoint : WorkItemCheckpoint}
    (replayed : store.Replayed tracked) (found : store.getWorkItem row.workItemId = some row)
    (running : row.state = .running) (untracked : ¬ tracked) :
    (store.checkpointRow row checkpoint nowMs).Replayed tracked := by
  intro workItemId
  have journal : (store.checkpointRow row checkpoint nowMs).journal =
      store.journal.insert (checkpointDraft row checkpoint.digest checkpoint.seq) := rfl
  rw [journal, ofItem_insert, getWorkItem_checkpointRow found]
  by_cases here : workItemId = row.workItemId
  · subst here
    have draft : (checkpointDraft row checkpoint.digest checkpoint.seq).workItemId =
        row.workItemId := rfl
    rw [if_pos draft, if_pos rfl]
    have current := replayed row.workItemId
    rw [found] at current
    refine itemReplays_append current (by rw [running]; exact isLegal_progress) ?_
    intro record agrees
    refine ⟨agrees.request, ?_, fun h => absurd h untracked⟩
    have state : record.state = .running := by rw [agrees.projection, running]
    rw [← agrees.projection]
    simp only [JournalDecision.patchRow, checkpointDraft, ← state]
  · have draft : ¬ (checkpointDraft row checkpoint.digest checkpoint.seq).workItemId =
        workItemId := fun h => here h.symm
    rw [if_neg draft, if_neg here]
    exact replayed workItemId

section

variable (replayed : store.Replayed tracked)
include replayed

theorem Store.Replayed.compact (found : store.getWorkItem row.workItemId = some row) :
    (insertRetentionSnapshot row nowMs store).Replayed tracked := by
  intro workItemId
  have journal : (insertRetentionSnapshot row nowMs store).journal =
      (store.journal.deleteByWorkItem row.workItemId).insert (retentionSnapshot row) := rfl
  rw [journal, ofItem_insert, ofItem_deleteByWorkItem, getWorkItem_insertRetentionSnapshot found]
  have draft : (retentionSnapshot row).workItemId = row.workItemId := rfl
  rw [draft]
  by_cases here : workItemId = row.workItemId
  · subst here
    rw [if_pos rfl, if_pos rfl, if_pos rfl, List.nil_append]
    exact itemReplays_baseline rfl rfl (isLegal_snapshot _) rfl rfl rfl rfl
  · rw [if_neg (Ne.symm here), if_neg (Ne.symm here), if_neg here]
    exact replayed workItemId

theorem Store.Replayed.retire : (store.removeItem removed).Replayed tracked := by
  intro workItemId
  rw [journal_removeItem, ofItem_deleteByWorkItem, getWorkItem_removeItem]
  by_cases here : workItemId = removed
  · rw [if_pos here.symm, if_pos here]
    rfl
  · rw [if_neg (Ne.symm here), if_neg here]
    exact replayed workItemId

theorem Store.Replayed.modify
    (columns : ∀ row : WorkItemRow, row.toWorkItemRequest = (update row).toWorkItemRequest ∧
      row.toWorkItemProjection = (update row).toWorkItemProjection ∧
      row.checkpoint = (update row).checkpoint) :
    (store.modifyWorkItem target update keeps).Replayed tracked := by
  intro workItemId
  have current := replayed workItemId
  rw [getWorkItem_modifyWorkItem]
  by_cases here : workItemId = target
  · subst here
    rw [if_pos rfl]
    cases found : store.getWorkItem workItemId with
    | none =>
      rw [found] at current
      exact current
    | some row =>
      rw [found] at current
      obtain ⟨request, projection, checkpoint⟩ := columns row
      exact current.congr request projection checkpoint
  · rw [if_neg here]
    exact current

end

end Steps

section Rebuild

variable {store next : Store}

theorem insertReplayed_rows (inserts : insertReplayed rows store = some rebuilt) :
    rebuilt = { store with workItems := rebuilt.workItems } ∧
      rebuilt.workItems.rows = store.workItems.rows ++ rows := by
  induction rows generalizing store with
  | nil =>
    cases inserts
    exact ⟨rfl, (List.append_nil _).symm⟩
  | cons row rest induction =>
    obtain ⟨inserted, first, later⟩ := Option.bind_eq_some_iff.mp inserts
    obtain ⟨_, same, rows⟩ := insertWorkItem_fresh first
    obtain ⟨same', rows'⟩ := induction later
    refine ⟨?_, ?_⟩
    · rw [same', same]
    · rw [rows', rows, List.append_assoc]
      rfl

theorem rebuildVirtualFinish_rows (store : Store) :
    (rebuildVirtualFinish store).workItems = store.workItems ∧
      (rebuildVirtualFinish store).journal = store.journal ∧
      (rebuildVirtualFinish store).sinkFences = store.sinkFences ∧
      (rebuildVirtualFinish store).definitions = store.definitions := by
  have fold : ∀ (rows : List WorkItemRow) (current : Store),
      (rows.foldl (fun state row => state.upsertVirtualFinish row.partition) current).workItems =
          current.workItems ∧
        (rows.foldl (fun state row => state.upsertVirtualFinish row.partition) current).journal =
          current.journal ∧
        (rows.foldl (fun state row =>
          state.upsertVirtualFinish row.partition) current).sinkFences = current.sinkFences ∧
        (rows.foldl (fun state row =>
          state.upsertVirtualFinish row.partition) current).definitions =
          current.definitions := by
    intro rows
    induction rows with
    | nil => exact fun _ => ⟨rfl, rfl, rfl, rfl⟩
    | cons row rest induction => exact fun current => induction (current.upsertVirtualFinish _)
  exact fold _ _

theorem Store.Replayed.expected (replayed : store.Replayed tracked) :
    ∃ expected : String → Option WorkItemRow,
      (∀ workItemId, replayKey replayTransition (store.journal.ofItem workItemId) =
        .ok (expected workItemId)) ∧
      ∀ workItemId, (expected workItemId = none ∧ store.getWorkItem workItemId = none) ∨
        ∃ record row, expected workItemId = some record ∧
          store.getWorkItem workItemId = some row ∧ record.Replays tracked row := by
  have each : ∀ workItemId, ∃ record?,
      replayKey replayTransition (store.journal.ofItem workItemId) = .ok record? ∧
        ((record? = none ∧ store.getWorkItem workItemId = none) ∨
          ∃ record row, record? = some record ∧ store.getWorkItem workItemId = some row ∧
            record.Replays tracked row) := by
    intro workItemId
    have current := replayed workItemId
    cases found : store.getWorkItem workItemId with
    | none =>
      rw [found] at current
      have empty : store.journal.ofItem workItemId = [] := current
      rw [empty]
      exact ⟨none, rfl, .inl ⟨rfl, rfl⟩⟩
    | some row =>
      rw [found] at current
      obtain ⟨record, folded, agrees⟩ := current
      exact ⟨some record, folded, .inr ⟨record, row, rfl, rfl, agrees⟩⟩
  choose expected folded agrees using each
  exact ⟨expected, folded, agrees⟩

structure ReplayOutcome (tracked : Prop) (store : Store) : Prop where
  errors : (replayJournal store.journal).errors = []
  distinct : ((replayJournal store.journal).records.map Prod.fst).Nodup
  record : ∀ {workItemId row}, store.getWorkItem workItemId = some row →
    ∃ record, mapGet workItemId (replayJournal store.journal).records = some record ∧
      record.Replays tracked row
  absent : ∀ {workItemId}, store.getWorkItem workItemId = none →
    mapGet workItemId (replayJournal store.journal).records = none

theorem Store.Replayed.outcome (replayed : store.Replayed tracked) :
    ReplayOutcome tracked store := by
  obtain ⟨expected, folded, agrees⟩ := replayed.expected
  obtain ⟨errors, records, nodup⟩ := replay_of_replayKey (fun entry => entry.workItemId)
    replayTransition folded
  refine ⟨errors, nodup, ?_, ?_⟩
  · intro workItemId row found
    rcases agrees workItemId with ⟨_, unknown⟩ | ⟨record, row', hrecord, hrow, same⟩
    · rw [found] at unknown
      cases unknown
    · rw [found] at hrow
      cases hrow
      exact ⟨record, (records workItemId).trans hrecord, same⟩
  · intro workItemId unknown
    rcases agrees workItemId with ⟨hrecord, _⟩ | ⟨_, _, _, found, _⟩
    · exact (records workItemId).trans hrecord
    · rw [unknown] at found
      cases found

variable (outcome : ReplayOutcome tracked store)
include outcome

theorem ReplayOutcome.mem_records
    (member : (workItemId, record) ∈ (replayJournal store.journal).records) :
    ∃ row, store.getWorkItem workItemId = some row ∧ record.Replays tracked row := by
  have found : mapGet workItemId (replayJournal store.journal).records = some record :=
    mapGet_of_mem outcome.distinct member
  cases present : store.getWorkItem workItemId with
  | none =>
    rw [outcome.absent present] at found
    cases found
  | some row =>
    obtain ⟨other, same, agrees⟩ := outcome.record present
    rw [found] at same
    cases same
    exact ⟨row, rfl, agrees⟩

theorem ReplayOutcome.getWorkItem_rebuilt
    (inserts : insertReplayed ((replayJournal store.journal).records.map Prod.snd)
      { store with workItems := .empty } = some rebuilt) (workItemId : String) :
    rebuilt.getWorkItem workItemId =
      mapGet workItemId (replayJournal store.journal).records := by
  obtain ⟨_, rows⟩ := insertReplayed_rows inserts
  have rows : rebuilt.workItems.rows =
      (replayJournal store.journal).records.map Prod.snd := by
    rw [rows]
    rfl
  have keyed : ∀ entry ∈ (replayJournal store.journal).records,
      entry.2.workItemId = entry.1 := by
    intro entry member
    obtain ⟨row, found, agrees⟩ := outcome.mem_records member
    rw [agrees.request, id_of_getWorkItem found]
  unfold getWorkItem Table.find? mapGet
  rw [rows, List.find?_map]
  have same : ∀ entries : List (String × WorkItemRow),
      (∀ entry ∈ entries, entry.2.workItemId = entry.1) →
      entries.find? ((fun row : WorkItemRow => decide (row.workItemId = workItemId)) ∘
        Prod.snd) = entries.find? fun entry => decide (entry.1 = workItemId) := by
    intro entries
    induction entries with
    | nil => exact fun _ => rfl
    | cons entry rest induction =>
      intro keyed
      have later := induction fun other member => keyed other (List.mem_cons_of_mem _ member)
      rw [List.find?_cons, List.find?_cons, Function.comp_apply,
        keyed entry List.mem_cons_self, later]
  rw [same _ keyed]

theorem ReplayOutcome.rebuilt {rebuilt : Store}
    (inserts : insertReplayed ((replayJournal store.journal).records.map Prod.snd)
      { store with workItems := .empty } = some rebuilt) (workItemId : String) :
    (store.getWorkItem workItemId = none ∧ rebuilt.getWorkItem workItemId = none) ∨
      ∃ row record, store.getWorkItem workItemId = some row ∧
        rebuilt.getWorkItem workItemId = some record ∧ record.Replays tracked row := by
  rw [outcome.getWorkItem_rebuilt inserts]
  cases present : store.getWorkItem workItemId with
  | none => exact .inl ⟨rfl, outcome.absent present⟩
  | some row =>
    obtain ⟨record, found, agrees⟩ := outcome.record present
    exact .inr ⟨row, record, rfl, found, agrees⟩

omit outcome

theorem Store.Replayed.rebuild (replayed : store.Replayed tracked)
    (inserts : insertReplayed ((replayJournal store.journal).records.map Prod.snd)
      { store with workItems := .empty } = some rebuilt) :
    (rebuildVirtualFinish rebuilt).Replayed tracked := by
  intro workItemId
  obtain ⟨workItems, journal, _, _⟩ := rebuildVirtualFinish_rows rebuilt
  have outcome := replayed.outcome
  have found : (rebuildVirtualFinish rebuilt).getWorkItem workItemId =
      mapGet workItemId (replayJournal store.journal).records := by
    rw [← outcome.getWorkItem_rebuilt inserts]
    unfold getWorkItem
    rw [workItems]
  have entries : (rebuildVirtualFinish rebuilt).journal = store.journal := by
    rw [journal, (insertReplayed_rows inserts).1]
  rw [found, entries]
  obtain ⟨expected, folded, _⟩ := replayed.expected
  obtain ⟨_, records, _⟩ := replay_of_replayKey (fun entry => entry.workItemId)
    replayTransition folded
  have current := replayed workItemId
  have same : mapGet workItemId (replayJournal store.journal).records = expected workItemId :=
    records workItemId
  rw [same]
  cases hexpected : expected workItemId with
  | none =>
    cases present : store.getWorkItem workItemId with
    | none =>
      rw [present] at current
      exact current
    | some row =>
      obtain ⟨record, hrecord, _⟩ := outcome.record present
      rw [same, hexpected] at hrecord
      cases hrecord
  | some record =>
    exact ⟨record, (folded workItemId).trans (by rw [hexpected]), .refl record⟩

end Rebuild

theorem Step.replayed (step : Step env store effect next)
    (unrecorded : tracked → ∀ row checkpoint nowMs, effect ≠ .checkpoint row checkpoint nowMs)
    (replayed : store.Replayed tracked) : next.Replayed tracked := by
  cases step with
  | enroll inserts isNew _ => exact replayed.enroll inserts isNew
  | move found legal _ => exact replayed.move found legal
  | checkpoint found running =>
    exact replayed.checkpoint found running fun h => unrecorded h _ _ _ rfl
  | compact found => exact replayed.compact found
  | retire _ _ => exact replayed.retire
  | promote => exact replayed.modify fun _ => ⟨rfl, rfl, rfl⟩
  | touch => exact replayed.modify fun _ => ⟨rfl, rfl, rfl⟩
  | serve | idle | fence | define => exact replayed
  | bookkeep workItems journal _ _ _ =>
    intro workItemId
    have current := replayed workItemId
    unfold getWorkItem at current ⊢
    rw [workItems, journal]
    exact current
  | rebuild _ inserts => exact replayed.rebuild inserts

def QueueCommand.RecordsCheckpoint (env : QueueEnv) (store : Store) : QueueCommand → Prop
  | .checkpoint input => input.Records env store
  | _ => False

theorem replayed_empty : empty.Replayed tracked := fun _ => rfl

theorem applyCommand_replayed (unrecorded : tracked → ¬ command.RecordsCheckpoint env store)
    (replayed : store.Replayed tracked) : (applyCommand env store command).Replayed tracked := by
  refine (applyCommand_path env store command).preserves ?_ replayed
  intro state effect next permitted step current
  refine step.replayed ?_ current
  intro tracks row checkpoint nowMs same
  subst same
  obtain ⟨input, rfl, records⟩ := permitted
  exact unrecorded tracks records

theorem runCommands_replayed (env : QueueEnv) (commands : List QueueCommand) :
    (runCommands env .empty commands).Replayed False :=
  runAll_invariant (fun _ _ => applyCommand_replayed False.elim) replayed_empty commands

/-- Over every run, checkpoints included, the journal replays without an error to the live rows, but
for their checkpoints. -/
theorem runCommands_replays (env : QueueEnv) (commands : List QueueCommand) :
    ReplayOutcome False (runCommands env .empty commands) :=
  (runCommands_replayed env commands).outcome

/-- The journal replays without an error to exactly the live rows, and rebuilding the
table from it changes no durable column and loses no item. -/
structure Store.JournalAgrees (store : Store) : Prop where
  errors : (replayJournal store.journal).errors = []
  distinct : ((replayJournal store.journal).records.map Prod.fst).Nodup
  sameItems : ∀ workItemId, (store.getWorkItem workItemId).isSome ↔
    (mapGet workItemId (replayJournal store.journal).records).isSome
  agrees : ∀ {workItemId row record}, store.getWorkItem workItemId = some row →
    mapGet workItemId (replayJournal store.journal).records = some record → record.Replays True row
  rebuilt : ∀ {result next}, (rebuildProjection (some false)).Commits store result next →
    ∀ workItemId, (store.getWorkItem workItemId = none ∧ next.getWorkItem workItemId = none) ∨
      ∃ row later, store.getWorkItem workItemId = some row ∧
        next.getWorkItem workItemId = some later ∧ later.Replays True row

theorem Store.Replayed.journalAgrees {store : Store} (replayed : store.Replayed True) :
    store.JournalAgrees := by
  have outcome := replayed.outcome
  refine ⟨outcome.errors, outcome.distinct, ?_, ?_, ?_⟩
  · intro workItemId
    cases present : store.getWorkItem workItemId with
    | none => rw [outcome.absent present]
    | some row =>
      obtain ⟨record, found, _⟩ := outcome.record present
      rw [found]
      exact ⟨fun _ => rfl, fun _ => rfl⟩
  · intro workItemId row record present found
    obtain ⟨other, same, agrees⟩ := outcome.record present
    rw [found] at same
    cases same
    exact agrees
  · intro result next commits workItemId
    rcases rebuildProjection_cases commits with unchanged | ⟨rebuilt, _, inserts, rfl⟩
    · subst unchanged
      cases present : store.getWorkItem workItemId with
      | none => exact .inl ⟨rfl, rfl⟩
      | some row => exact .inr ⟨row, row, rfl, rfl, .refl row⟩
    · have same : (rebuildVirtualFinish rebuilt).getWorkItem workItemId =
          rebuilt.getWorkItem workItemId := by
        unfold getWorkItem
        rw [(rebuildVirtualFinish_rows rebuilt).1]
      rw [same]
      exact outcome.rebuilt inserts workItemId

/-- Along a run that records no checkpoint, the journal agrees with the rows. -/
theorem runCommands_journalAgrees (env : QueueEnv) (commands : List QueueCommand)
    (unrecorded : EachCommand (applyCommand env)
      (fun store command => ¬ command.RecordsCheckpoint env store) .empty commands) :
    (runCommands env .empty commands).JournalAgrees := by
  have replayed : (runCommands env .empty commands).Replayed True :=
    runAll_preserves (fun _ _ condition => applyCommand_replayed fun _ => condition) unrecorded
      replayed_empty
  exact replayed.journalAgrees

theorem runCommands_journalAgrees_settled :
    (runCommands (sampleEnv .sqlite defaultQueuePolicy) .empty
      [.enqueue (sampleEnqueue "item" "tenant" 0 10), .claim (sampleClaim leaseA 1 20),
        .complete { toLeaseInput := sampleLease "item" leaseA 30 }]).JournalAgrees :=
  runCommands_journalAgrees _ _ ⟨id, id, id, trivial⟩

def checkpointRun : List QueueCommand :=
  [.enqueue (sampleEnqueue "item" "tenant" 0 10), .claim (sampleClaim leaseA 1 20),
    .checkpoint
      { toLeaseInput := sampleLease "item" leaseA 30
        checkpointRef := .obj [("kind", .str "cursor"), ("ref", .str "page-1")] }]

theorem checkpointRun_checkpoints :
    let store := runCommands (sampleEnv .sqlite defaultQueuePolicy) .empty checkpointRun
    ((store.getWorkItem "item").map fun row => row.checkpoint.seq) = some 1 ∧
      ((mapGet "item" (replayJournal store.journal).records).map fun record =>
        record.checkpoint.seq) = some 0 := by
  decide +kernel

theorem checkpointRun_not_journalAgrees :
    ¬ (runCommands (sampleEnv .sqlite defaultQueuePolicy) .empty checkpointRun).JournalAgrees := by
  intro agrees
  obtain ⟨live, replayed⟩ := checkpointRun_checkpoints
  obtain ⟨row, found, hrow⟩ := Option.map_eq_some_iff.mp live
  obtain ⟨record, folded, hrecord⟩ := Option.map_eq_some_iff.mp replayed
  have same := (agrees.agrees found folded).checkpoint trivial
  rw [same, hrow] at hrecord
  cases hrecord

end LicoMesh.WorkQueue
