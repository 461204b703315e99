import LicoMesh.WorkQueue.WellFormed

namespace LicoMesh.WorkQueue

open Library Transaction

/-! A settlement is recognised by the last entry of the item's journal, for as
long as compaction has not replaced that entry. -/

variable {workItemId : String} {draft : JournalDraft} {row : WorkItemRow}

/-- The two calls that settle a lease and recognise their repetition. -/
inductive Settlement
  | complete (input : CompleteInput)
  | cancelRunning (input : CancelRunningInput)

namespace Settlement

def lease : Settlement → LeaseInput
  | .complete input => input.toLeaseInput
  | .cancelRunning input => input.toLeaseInput

def state : Settlement → WorkQueueState
  | .complete _ => .completed
  | .cancelRunning _ => .cancelled

def transition : Settlement → WorkQueueTransition
  | .complete _ => .complete
  | .cancelRunning _ => .cancelRunning

def call (env : QueueEnv) : Settlement → StoreTransaction ItemOutcome
  | .complete input => WorkQueue.complete env input
  | .cancelRunning input => WorkQueue.cancelRunning env input

/-- The same call for the same item and lease; the other arguments may differ. -/
structure Repeats (again first : Settlement) : Prop where
  transition : again.transition = first.transition
  workItemId : again.lease.workItemId = first.lease.workItemId
  leaseId : again.lease.leaseId = first.lease.leaseId

/-- The call succeeds as a repetition and leaves the row of the item alone. -/
def IsIdempotent (env : QueueEnv) (settlement : Settlement) (store : Store) : Prop :=
  ∃ outcome next, (settlement.call env).Commits store outcome next ∧ outcome.done ∧
    outcome.idempotent ∧ next.getWorkItem (toText settlement.lease.workItemId) =
      store.getWorkItem (toText settlement.lease.workItemId)

theorem state_eq {again first : Settlement} (same : again.transition = first.transition) :
    again.state = first.state := by
  cases again <;> cases first <;> first | rfl | cases same

theorem state_isTerminal (settlement : Settlement) : settlement.state.isTerminal := by
  cases settlement <;> rfl

end Settlement

def Store.IsCompacted (store : Store) (workItemId : String) : Prop :=
  ∃ entry, store.getLastTransition workItemId = some entry ∧ entry.transition = .retentionSnapshot

open Store

/-- The item, while it is retained, is settled, and the last entry of its journal
shows the settlement or is a snapshot. -/
def Store.SettledBy (store : Store) (workItemId leaseId : String) (state : WorkQueueState)
    (transition : WorkQueueTransition) : Prop :=
  ∀ row, store.getWorkItem workItemId = some row → row.state = state ∧
    (store.IsCompacted workItemId ∨ ∃ entry, store.getLastTransition workItemId = some entry ∧
      entry.transition = transition ∧ entry.leaseId = leaseId)

variable {env : QueueEnv} {store next : Store}

section LastTransition

theorem getLastTransition_appendJournal (here : draft.workItemId = workItemId) (nowMs : Int) :
    (store.appendJournal draft nowMs).getLastTransition workItemId =
      some ⟨draft, store.journal.lastSeq + 1⟩ := by
  unfold getLastTransition
  rw [journal_appendJournal, Journal.ofItem_insert, if_pos here, List.getLast?_append]
  rfl

theorem getLastTransition_appendJournal_other (other : draft.workItemId ≠ workItemId)
    (nowMs : Int) : (store.appendJournal draft nowMs).getLastTransition workItemId =
      store.getLastTransition workItemId := by
  unfold getLastTransition
  rw [journal_appendJournal, Journal.ofItem_insert, if_neg other]

theorem getLastTransition_congr (journal : next.journal = store.journal) (workItemId : String) :
    next.getLastTransition workItemId = store.getLastTransition workItemId := by
  unfold getLastTransition
  rw [journal]

def Effect.journals : Effect → Option String
  | .enroll row _ _ => some row.workItemId
  | .move row _ _ _ _ => some row.workItemId
  | .checkpoint row _ _ => some row.workItemId
  | _ => none

theorem Step.getLastTransition_cases (step : Step env store effect next)
    (others : effect.journals ≠ some workItemId) (retained : (next.getWorkItem workItemId).isSome) :
    next.getLastTransition workItemId = store.getLastTransition workItemId ∨
      next.IsCompacted workItemId := by
  cases step with
  | enroll inserts _ _ =>
    refine .inl ((getLastTransition_appendJournal_other
      (fun same => others (congrArg some same)) _).trans (getLastTransition_congr ?_ workItemId))
    unfold upsertVirtualFinish
    rw [(insertWorkItem_fresh inserts).2.1]
  | move | checkpoint =>
    exact .inl (getLastTransition_appendJournal_other (fun same => others (congrArg some same)) _)
  | compact found =>
    rename_i row nowMs
    by_cases here : row.workItemId = workItemId
    · exact .inr ⟨_, getLastTransition_appendJournal here _, rfl⟩
    · refine .inl ((getLastTransition_appendJournal_other here _).trans ?_)
      unfold getLastTransition deleteJournalByWorkItem
      rw [Journal.ofItem_deleteByWorkItem, if_neg here]
  | retire found closed =>
    rename_i row
    rw [getWorkItem_removeItem] at retained
    split at retained
    · cases retained
    · rename_i different
      refine .inl ?_
      unfold getLastTransition
      rw [journal_removeItem, Journal.ofItem_deleteByWorkItem, if_neg (Ne.symm different)]
  | rebuild _ inserts =>
    refine .inl (getLastTransition_congr ?_ workItemId)
    rw [(rebuildVirtualFinish_rows _).2.1, (insertReplayed_rows inserts).1]
  | bookkeep _ journal => exact .inl (getLastTransition_congr journal workItemId)
  | promote | touch | serve | idle | fence | define => exact .inl rfl

end LastTransition

section Settled

variable {workItemId leaseId : String} {state : WorkQueueState} {transition : WorkQueueTransition}

theorem Step.settledBy (step : Step env store effect next)
    (replayed : store.Replayed False) (terminal : state.isTerminal)
    (other : ∀ row policy nowMs, effect = .enroll row policy nowMs → row.workItemId ≠ workItemId)
    (settled : store.SettledBy workItemId leaseId state transition) :
    next.SettledBy workItemId leaseId state transition := by
  intro later present
  have id := id_of_getWorkItem present
  have others : effect.journals ≠ some workItemId := by
    intro journals
    cases step with
    | enroll => exact other _ _ _ rfl (Option.some.inj journals)
    | move found legal =>
      rw [Option.some.inj journals] at found
      have open? := isLegal_not_terminal legal
      rw [(settled _ found).1, terminal] at open?
      cases open?
    | checkpoint found running =>
      rw [Option.some.inj journals] at found
      rw [← (settled _ found).1, running] at terminal
      cases terminal
    | _ => cases journals
  have before : ∃ row, store.getWorkItem workItemId = some row ∧ row.state = later.state := by
    rw [← id] at present
    rcases step.row_cases replayed present with
      enrolled | ⟨row, _, _, _, moved⟩ | ⟨row, kept⟩
    · obtain ⟨row, policy, nowMs, same, _, _, sameItem⟩ := enrolled.enrolls
      exact absurd (sameItem.workItemId.trans id) (other row policy nowMs same)
    · obtain ⟨nowMs, rfl⟩ := moved.moves
      refine absurd ?_ others
      exact congrArg some (id_of_getWorkItem (id ▸ moved.found))
    · exact ⟨row, id ▸ kept.found, by rw [kept.projection]⟩
  obtain ⟨row, found, sameState⟩ := before
  obtain ⟨landed, shows⟩ := settled row found
  refine ⟨sameState ▸ landed, ?_⟩
  rcases step.getLastTransition_cases others (by rw [present]; rfl) with same | compacted
  · unfold IsCompacted at shows ⊢
    rw [same]
    exact shows
  · exact .inl compacted

theorem applyCommand_settledBy (replayed : store.Replayed False)
    (terminal : state.isTerminal) (retained : (store.getWorkItem workItemId).isSome)
    (settled : store.SettledBy workItemId leaseId state transition) :
    (applyCommand env store command).SettledBy workItemId leaseId state transition := by
  have keeps : ∀ {current effect after}, Permits env store command current effect →
      Step env current effect after →
      current.Replayed False ∧ current.SettledBy workItemId leaseId state transition →
      after.Replayed False ∧ after.SettledBy workItemId leaseId state transition := by
    intro current effect after permitted step ⟨replays, settles⟩
    refine ⟨step.replayed nofun replays, step.settledBy replays terminal ?_ settles⟩
    intro row policy nowMs same here
    subst same
    obtain ⟨rfl, _⟩ := permitted
    cases step with
    | enroll inserts =>
      rw [← here, (insertWorkItem_fresh inserts).1] at retained
      cases retained
  exact ((applyCommand_path env store command).preserves keeps ⟨replayed, settled⟩).2

theorem runCommands_settledBy (replayed : store.Replayed False)
    (terminal : state.isTerminal) (retained : RetainedAlong env workItemId store commands)
    (settled : store.SettledBy workItemId leaseId state transition) :
    (runCommands env store commands).SettledBy workItemId leaseId state transition ∧
      ((runCommands env store commands).getWorkItem workItemId).isSome := by
  obtain ⟨present, each⟩ := retained
  induction commands generalizing store with
  | nil => exact ⟨settled, present⟩
  | cons command rest induction =>
    exact induction (applyCommand_replayed False.elim replayed)
      (applyCommand_settledBy replayed terminal present settled) each.1 each.2

theorem firstText_head (named : text ≠ "") (rest : List (Option String)) :
    firstText (some text :: rest) = text := by
  simp [firstText, named]

theorem transitionProjection_settledBy (found : store.getWorkItem row.workItemId = some row)
    (replayed : store.Replayed False) (terminal : state.isTerminal)
    (unclaimed : transition ≠ .claim) (named : row.leaseId ≠ "")
    (commits : (transitionProjection env row transition state patch nowMs).Commits store
      result next) : next.SettledBy row.workItemId row.leaseId state transition := by
  unfold transitionProjection at commits
  simp only [commits_bind, commits_get] at commits
  obtain ⟨updated, middle, transitioned, _, _, ⟨rfl, rfl⟩, commits⟩ := commits
  obtain ⟨room, live, making, _, hlive, sameLive, legal, retention, _⟩ :=
    transitionProjectionInternal_cases found (.refl row) transitioned
  have here : live.workItemId = row.workItemId := sameLive.workItemId.symm
  have hlive' : room.getWorkItem live.workItemId = some live := by
    rw [here]
    exact hlive
  have roomReplays : room.Replayed False :=
    making.preserves (fun _ step => step.replayed False.elim) replayed
  have moved : (room.moveRow live transition state patch nowMs).SettledBy row.workItemId
      row.leaseId state transition := by
    intro later present
    rw [getWorkItem_moveRow hlive', if_pos here.symm] at present
    cases present
    refine ⟨rfl, .inr ⟨⟨transitionDraft live transition state patch nowMs,
      room.journal.lastSeq + 1⟩, getLastTransition_appendJournal here _, rfl, ?_⟩⟩
    show (if transition = .claim then patch.leaseId.getD ""
      else firstText [some live.leaseId, patch.leaseId]) = row.leaseId
    rw [if_neg unclaimed, ← sameLive.projection]
    exact firstText_head named _
  have keeps : ∀ {current effect after}, effect.IsHousekeeping row.workItemId →
      Step env current effect after →
      current.Replayed False ∧ current.SettledBy row.workItemId row.leaseId state transition →
      after.Replayed False ∧ after.SettledBy row.workItemId row.leaseId state transition := by
    rintro current effect after housekeeping step ⟨replays, settles⟩
    refine ⟨step.replayed False.elim replays, step.settledBy replays terminal ?_ settles⟩
    rintro _ _ _ rfl
    exact housekeeping.elim
  have settled := (retention.preserves keeps ⟨roomReplays.move hlive' legal, moved⟩).2
  split at commits
  · simp only [commits_bind, commits_set, commits_pure] at commits
    obtain ⟨_, _, rfl, _, rfl⟩ := commits
    exact settled
  · obtain ⟨_, rfl⟩ := commits_pure.mp commits
    exact settled

end Settled

section Settlements

variable {settlement : Settlement} {outcome : ItemOutcome}

theorem alreadySettled_iff : alreadySettled store input state transition = some row ↔
      store.getWorkItem (toText input.workItemId) = some row ∧ row.state = state ∧
        ∃ entry, store.getLastTransition row.workItemId = some entry ∧
          entry.transition = transition ∧ entry.leaseId = toText input.leaseId := by
  unfold alreadySettled settledByLease
  simp only [Option.filter_eq_some_iff, Bool.and_eq_true, decide_eq_true_eq, Option.any_eq_true]

theorem Settlement.call_cases (commits : (settlement.call env).Commits store outcome next) :
    (∃ row, alreadySettled store settlement.lease settlement.state settlement.transition =
        some row) ∨
      ∃ settle : WorkItemRow → StoreTransaction ItemOutcome,
        (withLeasedRow env settlement.lease expiredOutcome settle).Commits store outcome next ∧
        ∀ {row result after}, (settle row).Commits store result after →
          ∃ updated middle patch, (transitionProjection env row settlement.transition
              settlement.state patch settlement.lease.nowMs).Commits store updated middle ∧
            after.workItems = middle.workItems ∧ after.journal = middle.journal := by
  cases settlement with
  | complete input =>
    simp only [call, WorkQueue.complete, commits_bind, commits_get] at commits
    obtain ⟨_, _, ⟨rfl, rfl⟩, commits⟩ := commits
    split at commits
    · rename_i row found
      exact .inl ⟨row, found⟩
    · refine .inr ⟨_, commits, ?_⟩
      intro row result after settled
      simp only [commits_bind, commits_modify, commits_pure] at settled
      obtain ⟨updated, middle, transitioned, _, _, rfl, _, rfl⟩ := settled
      exact ⟨updated, middle, _, transitioned, rfl, rfl⟩
  | cancelRunning input =>
    simp only [call, WorkQueue.cancelRunning, commits_bind, commits_get] at commits
    obtain ⟨_, _, ⟨rfl, rfl⟩, commits⟩ := commits
    split at commits
    · rename_i row found
      exact .inl ⟨row, found⟩
    · refine .inr ⟨_, commits, ?_⟩
      intro row result after settled
      simp only [commits_bind, commits_pure] at settled
      obtain ⟨updated, middle, transitioned, _, rfl⟩ := settled
      exact ⟨updated, middle, _, transitioned, rfl, rfl⟩

theorem Settlement.repeats (settled : alreadySettled store settlement.lease
      settlement.state settlement.transition = some row) : (settlement.call env).Commits store
      { done := true, idempotent := true, workItem := rowToWorkItem row } store := by
  cases settlement with
  | complete input =>
    simp only [call, WorkQueue.complete, commits_bind, commits_get]
    refine ⟨store, store, ⟨rfl, rfl⟩, ?_⟩
    rw [show alreadySettled store input.toLeaseInput .completed .complete = some row from settled]
    exact commits_pure.mpr ⟨rfl, rfl⟩
  | cancelRunning input =>
    simp only [call, WorkQueue.cancelRunning, commits_bind, commits_get]
    refine ⟨store, store, ⟨rfl, rfl⟩, ?_⟩
    rw [show alreadySettled store input.toLeaseInput .cancelled .cancelRunning = some row
      from settled]
    exact commits_pure.mpr ⟨rfl, rfl⟩

theorem Settlement.call_replayed (replayed : store.Replayed False)
    (commits : (settlement.call env).Commits store outcome next) : next.Replayed False := by
  rw [← commits.applied_eq]
  cases settlement with
  | complete input => exact @applyCommand_replayed _ _ _ (.complete input) nofun replayed
  | cancelRunning input => exact @applyCommand_replayed _ _ _ (.cancelRunning input) nofun replayed

theorem Settlement.transition_ne (settlement : Settlement) :
    settlement.transition ≠ .claim ∧ settlement.transition ≠ .retentionSnapshot := by
  cases settlement <;> exact ⟨nofun, nofun⟩

theorem Settlement.call_settledBy (sound : store.Sound)
    (commits : (settlement.call env).Commits store outcome next) (done : outcome.done) :
    next.SettledBy (toText settlement.lease.workItemId) (toText settlement.lease.leaseId)
      settlement.state settlement.transition := by
  rcases settlement.call_cases commits with ⟨row, already⟩ | ⟨settle, leased, settles⟩
  · obtain ⟨_, rfl⟩ := Commits.unique commits (repeats already)
    obtain ⟨found, state, entry, last, transition, leaseId⟩ := alreadySettled_iff.mp already
    intro current present
    rw [found] at present
    cases present
    exact ⟨state, .inr ⟨entry, id_of_getWorkItem found ▸ last, transition, leaseId⟩⟩
  · rcases withLeasedRow_cases leased with ⟨_, _, _, _, _, rfl⟩ | ⟨row, lease, settled⟩
    · cases done
    · obtain ⟨updated, middle, patch, transitioned, workItems, journal⟩ := settles settled
      have id := id_of_getWorkItem lease.found
      have found : store.getWorkItem row.workItemId = some row := by
        rw [id]
        exact lease.found
      have named : row.leaseId ≠ "" := by
        rw [lease.current]
        exact lease.named
      have trimmed : toText settlement.lease.leaseId = row.leaseId := by
        rw [← lease.current]
        exact (sound.wellFormed.rows found).trimmed
      have settledBy := transitionProjection_settledBy found sound.replayed
        settlement.state_isTerminal settlement.transition_ne.1 named transitioned
      rw [← id, trimmed]
      intro current present
      unfold getWorkItem at present
      rw [workItems] at present
      unfold IsCompacted
      rw [getLastTransition_congr journal]
      exact settledBy current present

theorem Settlement.isIdempotent_iff (settled : store.SettledBy (toText settlement.lease.workItemId)
      (toText settlement.lease.leaseId) settlement.state settlement.transition)
    (retained : (store.getWorkItem (toText settlement.lease.workItemId)).isSome) :
    settlement.IsIdempotent env store ↔
      ¬ store.IsCompacted (toText settlement.lease.workItemId) := by
  obtain ⟨row, found⟩ := Option.isSome_iff_exists.mp retained
  obtain ⟨state, shows⟩ := settled row found
  have id := Store.id_of_getWorkItem found
  constructor
  · intro ⟨_, _, commits, _⟩ ⟨snapshot, last, isSnapshot⟩
    rcases settlement.call_cases commits with ⟨other, already⟩ | ⟨_, leased, _⟩
    · obtain ⟨present, _, entry, last', transition, _⟩ := alreadySettled_iff.mp already
      rw [Store.id_of_getWorkItem present, last] at last'
      cases last'
      exact settlement.transition_ne.2 (transition.symm.trans isSnapshot)
    · have terminal := settlement.state_isTerminal
      rcases withLeasedRow_cases leased with ⟨current, _, present, _, expiry, _⟩ | ⟨_, lease, _⟩
      · rw [found] at present
        cases present
        have open? := isLegal_not_terminal
          (transitionProjection_legal (isCurrent_of_found found) expiry)
        rw [state, terminal] at open?
        cases open?
      · have same := lease.found
        rw [found] at same
        cases same
        rw [← state, lease.running] at terminal
        cases terminal
  · intro uncompacted
    rcases shows with compacted | ⟨entry, last, transition, leaseId⟩
    · exact absurd compacted uncompacted
    · have already := alreadySettled_iff.mpr
        ⟨found, state, entry, by rw [id]; exact last, transition, leaseId⟩
      exact ⟨_, _, repeats already, rfl, rfl, rfl⟩

end Settlements

theorem runCommands_isIdempotent_iff (env : QueueEnv) (before after : List QueueCommand)
    (first again : Settlement) {outcome : ItemOutcome} {settled : Store}
    (settles : (first.call env).Commits (runCommands env .empty before) outcome settled)
    (done : outcome.done)
    (retained : RetainedAlong env (toText first.lease.workItemId) settled after)
    (same : again.Repeats first) : again.IsIdempotent env (runCommands env settled after) ↔
      ¬ (runCommands env settled after).IsCompacted (toText first.lease.workItemId) := by
  have sound : (runCommands env .empty before).Sound := runCommands_sound sound_empty before
  have settledBy := runCommands_settledBy (Settlement.call_replayed sound.replayed settles)
    first.state_isTerminal retained (Settlement.call_settledBy sound settles done)
  obtain ⟨transition, workItemId, leaseId⟩ := same
  rw [← workItemId, ← leaseId, ← transition, ← Settlement.state_eq transition] at settledBy
  rw [← workItemId]
  exact again.isIdempotent_iff settledBy.1 settledBy.2

def sampleCompletion (nowMs : Int) : Settlement :=
  .complete { toLeaseInput := sampleLease "item" leaseA nowMs }

def claimedRun : List QueueCommand :=
  [.enqueue (sampleEnqueue "item" "tenant" 0 10), .claim (sampleClaim leaseA 1 20)]

theorem runCommands_isIdempotent_iff_claimed :
    ∃ outcome settled, ((sampleCompletion 30).call (sampleEnv .sqlite defaultQueuePolicy)).Commits
        (runCommands (sampleEnv .sqlite defaultQueuePolicy) .empty claimedRun) outcome settled ∧
      ((sampleCompletion 50).IsIdempotent (sampleEnv .sqlite defaultQueuePolicy)
          (runCommands (sampleEnv .sqlite defaultQueuePolicy) settled
            [.claim (sampleClaim leaseB 1 40)]) ↔
        ¬ (runCommands (sampleEnv .sqlite defaultQueuePolicy) settled
          [.claim (sampleClaim leaseB 1 40)]).IsCompacted (toText "item")) := by
  have settles : ((sampleCompletion 30).call (sampleEnv .sqlite defaultQueuePolicy)).passes
      (runCommands (sampleEnv .sqlite defaultQueuePolicy) .empty claimedRun)
      (fun outcome settled => outcome.done && (settled.getWorkItem (toText "item")).isSome &&
        ((applyCommand (sampleEnv .sqlite defaultQueuePolicy) settled
          (.claim (sampleClaim leaseB 1 40))).getWorkItem (toText "item")).isSome) := by
    decide +kernel
  obtain ⟨outcome, settled, commits, test⟩ := passes_iff.mp settles
  simp only [Bool.and_eq_true] at test
  exact ⟨outcome, settled, commits, runCommands_isIdempotent_iff _ claimedRun _
    (sampleCompletion 30) (sampleCompletion 50) commits test.1.1 ⟨test.1.2, test.2, trivial⟩
    ⟨rfl, rfl, rfl⟩⟩

def singleTransitionPolicy : QueuePolicy :=
  { defaultQueuePolicy with
    retention := { defaultRetention with
      maxTransitionsPerWorkItem := policyLimit 1 one_isLimit } }

def SettlementRepeats (env : QueueEnv) (before : List QueueCommand) (first : Settlement) : Prop :=
  ∀ (after : List QueueCommand) (again : Settlement) (outcome : ItemOutcome) (settled : Store),
    (first.call env).Commits (runCommands env .empty before) outcome settled → outcome.done →
    RetainedAlong env (toText first.lease.workItemId) settled after → again.Repeats first →
    again.IsIdempotent env (runCommands env settled after)

/-- The settling transition compacts its own journal entry away. -/
theorem claimedRun_not_repeats :
    ¬ SettlementRepeats (sampleEnv .sqlite singleTransitionPolicy) claimedRun
      (sampleCompletion 30) := by
  intro repeats
  have settles : ((sampleCompletion 30).call (sampleEnv .sqlite singleTransitionPolicy)).passes
      (runCommands (sampleEnv .sqlite singleTransitionPolicy) .empty claimedRun)
      (fun outcome settled => outcome.done && (settled.getWorkItem (toText "item")).isSome &&
        !((sampleCompletion 40).call (sampleEnv .sqlite singleTransitionPolicy)).passes settled
          fun _ _ => true) := by
    decide +kernel
  obtain ⟨outcome, settled, commits, test⟩ := passes_iff.mp settles
  simp only [Bool.and_eq_true, Bool.not_eq_true'] at test
  obtain ⟨_, _, again, _⟩ := repeats [] (sampleCompletion 40) outcome settled commits test.1.1
    ⟨test.1.2, trivial⟩ ⟨rfl, rfl, rfl⟩
  have repeated : ((sampleCompletion 40).call (sampleEnv .sqlite singleTransitionPolicy)).passes
      settled (fun _ _ => true) := passes_iff.mpr ⟨_, _, again, rfl⟩
  rw [test.2] at repeated
  cases repeated

end LicoMesh.WorkQueue
