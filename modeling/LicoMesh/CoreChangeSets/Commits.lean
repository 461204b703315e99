import LicoMesh.CoreChangeSets.History

namespace LicoMesh.CoreChangeSets

open Authority

open Library

variable {options : Options} {authority : Authority} {next advanced : WorkingSet}
  {request : CommitRequest} {lookup : AuthorityLookup} {operations : List Operation}
  {input : OpenInput} {limits : Limits} {changeSet : ChangeSet} {acknowledgement : Acknowledge}
  {cursorSeq snapshotSeq : Nat} {id : String} {call : Call}

structure WorkingSet.Described (limits : Limits) (set : WorkingSet) : Prop where
  history : set.HistoryDescribed limits
  snapshots : set.SnapshotsDescribed limits
  results : set.ResultsDescribed

open WorkingSet

theorem described_workingSet (input : OpenInput) (auth : AuthorizationState)
    (cursorSeq snapshotSeq : Nat) (bound : 1 ≤ limits.maxHistoryEntries) :
    (input.workingSet auth cursorSeq snapshotSeq).Described limits := by
  have window : (input.workingSet auth cursorSeq snapshotSeq).window limits = [] := by
    unfold window Library.recent
    exact List.drop_nil
  have oldest : Library.recent limits.maxHistoryEntries.toNat [0] = [0] := by
    unfold Library.recent
    rw [List.length_singleton, show 1 - limits.maxHistoryEntries.toNat = 0 by omega, List.drop_zero]
  refine ⟨⟨rfl, ?_, ?_, ?_, ?_⟩, ⟨oldest.symm, ?_⟩, ⟨fun _ => rfl, List.nodup_nil, ?_⟩⟩
  · rw [window]
    rfl
  · intro head
    rw [window]
    rfl
  · intro head
    rw [window]
    rfl
  · intro entityId
    rw [window]
    rfl
  · intro head
    cases head <;> rfl
  · intro change member
    cases member

def WorkingSet.Keeps (set next : WorkingSet) : Prop :=
  ∃ subscribers auth, next = { set with subscriberById := subscribers, auth := auth }

theorem WorkingSet.Keeps.described {set : WorkingSet} (keeps : set.Keeps next)
    (described : set.Described limits) : next.Described limits := by
  obtain ⟨subscribers, auth, rfl⟩ := keeps
  obtain ⟨history, snapshots, results⟩ := described
  exact ⟨⟨history.numbered, history.historyHeads, history.history, history.log, history.entityLog⟩,
    ⟨snapshots.snapshotHeads, snapshots.snapshots⟩,
    ⟨results.results, results.distinct, results.nonempty⟩⟩

theorem WorkingSet.Keeps.refl (set : WorkingSet) : set.Keeps set :=
  ⟨set.subscriberById, set.auth, rfl⟩

theorem rebaseOperations_nonempty (nonempty : locals ≠ [])
    (clean : (rebaseOperations locals remotes).conflicts = []) :
    (rebaseOperations locals remotes).rebasedOperations ≠ [] := by
  cases locals with
  | nil => exact absurd rfl nonempty
  | cons first rest =>
    unfold rebaseOperations at clean ⊢
    dsimp only at clean ⊢
    rw [List.map_cons, List.filterMap_cons] at clean ⊢
    cases result : rebaseOperation (relevantOperations (first :: rest) remotes) first with
    | error conflict =>
      rw [result] at clean
      cases clean
    | ok operation => exact List.cons_ne_nil _ _

theorem rebasedOperations_nonempty {set : WorkingSet}
    (clean : (set.rebasedOperations changeSet changedIds).conflicts = []) :
    (set.rebasedOperations changeSet changedIds).rebasedOperations ≠ [] := by
  unfold rebasedOperations at clean ⊢
  split
  · rename_i behind
    rw [if_pos behind] at clean
    exact rebaseOperations_nonempty changeSet.nonempty clean
  · exact changeSet.nonempty

theorem answer_ne_committed : CommitOutcome.answer acknowledgement ≠ .committed advanced other := by
  unfold CommitOutcome.answer
  split <;> exact CommitOutcome.noConfusion

theorem commitChangeSet_spec {set : WorkingSet}
    (committed : set.commitChangeSet limits cursorSeq snapshotSeq entityId changeSet =
      .committed advanced acknowledgement) :
    set.changeResults changeSet.changeId = none ∧ ∃ operations, operations ≠ [] ∧
      advanced = committedSet set limits cursorSeq snapshotSeq changeSet.changeId operations ∧
      acknowledgement = (newChange set changeSet.changeId operations).acknowledgement := by
  unfold commitChangeSet at committed
  split at committed
  · cases committed
  · rename_i fresh
    refine ⟨fresh, ?_⟩
    dsimp only at committed
    split at committed
    · exact absurd committed answer_ne_committed
    split at committed
    · exact absurd committed answer_ne_committed
    split at committed
    · exact absurd committed answer_ne_committed
    split at committed
    · exact absurd committed answer_ne_committed
    split at committed
    · exact absurd committed answer_ne_committed
    rename_i conflicts
    have clean := not_not.mp conflicts
    split at committed
    · exact absurd committed answer_ne_committed
    rename_i appended applied
    have nonempty := rebasedOperations_nonempty clean
    generalize (set.rebasedOperations changeSet _).rebasedOperations = operations at *
    obtain rfl := applyOperations_eq applied
    obtain ⟨rfl, rfl⟩ := CommitOutcome.committed.inj committed
    exact ⟨operations, nonempty, rfl, rfl⟩

theorem commit_spec {set : WorkingSet}
    (committed : set.commit options cursorSeq snapshotSeq request lookup =
      .committed advanced acknowledgement) : ∃ changeSet, request.changeSet = some changeSet ∧
      set.changeResults changeSet.changeId = none ∧ ∃ operations, operations ≠ [] ∧ advanced =
          committedSet set options.limits cursorSeq snapshotSeq changeSet.changeId operations ∧
        acknowledgement = (newChange set changeSet.changeId operations).acknowledgement := by
  unfold commit at committed
  dsimp only at committed
  split at committed
  · cases committed
  · exact absurd committed answer_ne_committed
  · split at committed
    · exact absurd committed answer_ne_committed
    · split at committed
      · exact absurd committed answer_ne_committed
      · rename_i changeSet dirty
        exact ⟨changeSet, dirty, commitChangeSet_spec committed⟩

theorem workingSetId_committedSet {set : WorkingSet} {limits : Limits} {cursorSeq snapshotSeq : Nat}
    {changeId : String} {operations : List Operation} :
    (committedSet set limits cursorSeq snapshotSeq changeId operations).workingSetId =
      set.workingSetId := by
  unfold committedSet advanceHead dropOldest
  dsimp only
  rw [dropSnapshots_eq, dropHistory_eq]
  rfl

structure WorkingSet.Commits (set next : WorkingSet) (changeId : String)
    (acknowledgement : Acknowledge) : Prop where
  fresh : set.changeResults changeId = none
  head : next.head = set.head + 1
  assigned : acknowledgement.assignedHead = set.head + 1
  results : ∀ id, next.changeResults id =
    if id = changeId then some acknowledgement else set.changeResults id
  changes : ∃ change, next.changes = set.changes ++ [change] ∧ change.head = set.head + 1 ∧
    change.changeId = changeId ∧ change.acknowledgement = acknowledgement

theorem commits_committedSet {set : WorkingSet} (fresh : set.changeResults changeId = none) :
    set.Commits (committedSet set limits cursorSeq snapshotSeq changeId operations) changeId
      (newChange set changeId operations).acknowledgement := by
  constructor
  case fresh => exact fresh
  case head => exact head_committedSet
  case assigned => rfl
  case results => exact changeResults_committedSet
  case changes => exact ⟨newChange set changeId operations, changes_committedSet, rfl, rfl, rfl⟩

theorem described_committedSet {set : WorkingSet} (described : set.Described limits)
    (fresh : set.changeResults changeId = none) (nonempty : operations ≠ []) :
    (committedSet set limits cursorSeq snapshotSeq changeId operations).Described limits :=
  ⟨historyDescribed_committedSet described.history,
    snapshotsDescribed_committedSet described.snapshots,
    resultsDescribed_committedSet described.results fresh nonempty⟩

def Answer.changes : Answer → Bool
  | .opened _ | .committed _ | .subscribed _ | .done => true
  | .threw | .acknowledged _ | .rebased _ | .resynced _ | .refused _ | .notified _ => false

structure CallSound (options : Options) (authority : Authority) (call : Call) : Prop where
  refused : (authority.perform options call).2.changes = false →
    (step options authority call).workingSets = authority.workingSets
  /-- An open working set stays open, and only a commit of its own adds to what it has committed. -/
  kept : ∀ id set, authority.workingSets id = some set →
    ∃ next, (step options authority call).workingSets id = some next ∧
      (set.Keeps next ∨ ∃ request lookup changeSet acknowledgement,
        call = .commitTurn (some request) lookup ∧ request.workingSetId = id ∧
        request.changeSet = some changeSet ∧
        (authority.perform options call).2 = .committed acknowledgement ∧
        set.Commits next changeSet.changeId acknowledgement)
  redelivered : ∀ request lookup changeSet set prior, call = .commitTurn (some request) lookup →
    authority.workingSets request.workingSetId = some set → request.changeSet = some changeSet →
    set.changeResults changeSet.changeId = some prior →
    options.resolveAuthorization { lookup with handle := request.handle } set.auth = some .ok →
    set.entityIdForHandle request.handle ≠ "" →
    (authority.perform options call).2 = .acknowledged prior

structure Sound (options : Options) (authority : Authority) : Prop where
  keyed : ∀ id set, authority.workingSets id = some set → set.workingSetId = id
  described : ∀ id set, authority.workingSets id = some set → set.Described options.limits

/-- An open that gets past its first checks is of a working set that is not open; its answer satisfies
the wire contract and the resolver answers. -/
def Proper (options : Options) (authority : Authority) : Call → Prop
  | .open input => input.isBounded options.limits = true →
      authority.workingSets input.id = none ∧ input.isAccepted = true ∧
        options.resolveAuthorization input.lookup
          (input.authorization.state options.defaultAuth) ≠ none
  | _ => True

theorem Sound.congr {next : Authority} (sound : Sound options authority)
    (same : next.workingSets = authority.workingSets) : Sound options next := by
  constructor
  · rw [same]
    exact sound.keyed
  · rw [same]
    exact sound.described

theorem Sound.set {next : Authority} (sound : Sound options authority) {set : WorkingSet}
    (same : next.workingSets = (authority.setWorkingSet id (some set)).workingSets)
    (keyed : set.workingSetId = id) (described : set.Described options.limits) :
    Sound options next := by
  have cases : ∀ other found, next.workingSets other = some found →
      (other = id ∧ found = set) ∨ authority.workingSets other = some found := by
    intro other found present
    rw [same] at present
    unfold setWorkingSet at present
    dsimp only at present
    split at present
    · rename_i here
      exact .inl ⟨here, (Option.some.inj present).symm⟩
    · exact .inr present
  constructor
  · intro other found present
    obtain ⟨rfl, rfl⟩ | old := cases other found present
    · exact keyed
    · exact sound.keyed other found old
  · intro other found present
    obtain ⟨rfl, rfl⟩ | old := cases other found present
    · exact described
    · exact sound.described other found old

theorem CallSound.unchanged
    (same : (step options authority call).workingSets = authority.workingSets)
    (other : ∀ request lookup, call ≠ .commitTurn (some request) lookup) :
    CallSound options authority call := by
  constructor
  case refused => exact fun _ => same
  case kept =>
    intro id set present
    rw [same]
    exact ⟨set, present, .inl (.refl set)⟩
  case redelivered =>
    intro request lookup _ _ _ commit
    exact absurd commit (other request lookup)

theorem CallSound.updates {set : WorkingSet} (present : authority.workingSets id = some set)
    (keeps : set.Keeps next) (same : (step options authority call).workingSets =
      (authority.setWorkingSet id (some next)).workingSets)
    (answered : (authority.perform options call).2.changes = true)
    (other : ∀ request lookup, call ≠ .commitTurn (some request) lookup) :
    CallSound options authority call := by
  constructor
  case refused =>
    intro refused
    rw [answered] at refused
    cases refused
  case kept =>
    intro found old presentOld
    rw [same]
    unfold setWorkingSet
    dsimp only
    split
    · rename_i here
      rw [here, present] at presentOld
      cases presentOld
      exact ⟨next, rfl, .inl keeps⟩
    · exact ⟨old, presentOld, .inl (.refl old)⟩
  case redelivered =>
    intro request lookup _ _ _ commit
    exact absurd commit (other request lookup)

section Calls

variable {options : Options} {authority : Authority}

theorem rebase_workingSets (handle : String) (operations : Option (List Operation))
    (baselineHead : Int) (lookup : AuthorityLookup) (set : WorkingSet) :
    (authority.rebase options handle operations baselineHead lookup set).1.workingSets =
      authority.workingSets := by
  unfold Authority.rebase
  dsimp only
  split
  · rfl
  · rfl
  · split <;> rfl

theorem resync_workingSets (cursor : Cursor) (lookup : AuthorityLookup) (set : WorkingSet) :
    (authority.resync options cursor lookup set).1.workingSets = authority.workingSets := by
  unfold Authority.resync
  split
  · rfl
  · rfl
  · dsimp only
    split <;> rfl

theorem notificationFor_workingSets (id entityId : String) (set : WorkingSet) :
    (authority.notificationFor id entityId set).1.workingSets = authority.workingSets := by
  unfold Authority.notificationFor
  split <;> rfl

theorem auth_workingSet (input : OpenInput) (defaultAuth : AuthorizationState)
    (cursorSeq snapshotSeq : Nat) : (input.workingSet defaultAuth cursorSeq snapshotSeq).auth =
      input.authorization.state defaultAuth := by
  unfold OpenInput.workingSet commitSnapshot recordCursor
  rfl

theorem workingSetId_workingSet (input : OpenInput) (defaultAuth : AuthorizationState)
    (cursorSeq snapshotSeq : Nat) :
    (input.workingSet defaultAuth cursorSeq snapshotSeq).workingSetId = input.id := by
  unfold OpenInput.workingSet commitSnapshot recordCursor
  rfl

theorem setWorkingSet_twice {written : Authority} {set : Option WorkingSet}
    (same : written.workingSets = (authority.setWorkingSet id set).workingSets) :
    (written.setWorkingSet id none).workingSets = (authority.setWorkingSet id none).workingSets := by
  rw [workingSets_setWorkingSet, workingSets_setWorkingSet, same, workingSets_setWorkingSet]
  funext other
  by_cases here : other = id <;> simp [here]

theorem setWorkingSet_none (absent : authority.workingSets id = none) :
    (authority.setWorkingSet id none).workingSets = authority.workingSets := by
  rw [workingSets_setWorkingSet]
  funext other
  split
  · rename_i here
    rw [here, absent]
  · rfl

theorem openWorkingSet_spec (proper : Proper options authority (.open input)) :
    (authority.openWorkingSet options input).1.workingSets = authority.workingSets ∨
      authority.workingSets input.id = none ∧
        (authority.openWorkingSet options input).2.changes = true ∧
        ∃ cursorSeq snapshotSeq, (authority.openWorkingSet options input).1.workingSets =
          (authority.setWorkingSet input.id
            (some (input.workingSet options.defaultAuth cursorSeq snapshotSeq))).workingSets := by
  unfold openWorkingSet
  split
  · rename_i bounded
    obtain ⟨absent, accepted, resolved⟩ := proper bounded
    generalize made : input.workingSet options.defaultAuth (authority.cursorSeq + 1)
      (authority.snapshotSeq + 1) = set
    have resolves : options.resolveAuthorization input.lookup set.auth ≠ none := by
      rw [← made, auth_workingSet]
      exact resolved
    rw [if_pos accepted]
    split
    · rename_i failed
      exact absurd failed resolves
    · exact .inl ((setWorkingSet_twice (authority.workingSets_opened input.id _)).trans
        (setWorkingSet_none absent))
    · refine .inr ⟨absent, rfl, authority.cursorSeq + 1, authority.snapshotSeq + 1, ?_⟩
      rw [made]
      exact authority.workingSets_issued input.id _ 0
  · exact .inl rfl

theorem open_sound (bound : 1 ≤ options.limits.maxHistoryEntries) (sound : Sound options authority)
    (proper : Proper options authority (.open input)) : CallSound options authority (.open input) ∧
      Sound options (step options authority (.open input)) := by
  have noCommit : ∀ request lookup, Call.open input ≠ .commitTurn (some request) lookup :=
    fun _ _ => Call.noConfusion
  have performs : authority.perform options (.open input) =
      authority.openWorkingSet options input := rfl
  have steps : step options authority (.open input) =
      (authority.openWorkingSet options input).1 := rfl
  obtain same | ⟨absent, answered, cursorSeq, snapshotSeq, same⟩ := openWorkingSet_spec proper
    <;> rw [← steps] at same
  · exact ⟨.unchanged same noCommit, sound.congr same⟩
  · refine ⟨⟨?_, ?_, ?_⟩, sound.set same (workingSetId_workingSet ..)
      (described_workingSet input options.defaultAuth cursorSeq snapshotSeq bound)⟩
    · intro refused
      rw [performs, answered] at refused
      cases refused
    · intro id set present
      refine ⟨set, ?_, .inl (.refl set)⟩
      refine (congrFun same id).trans ?_
      unfold Authority.setWorkingSet
      dsimp only
      rw [if_neg, present]
      intro here
      rw [here, absent] at present
      cases present
    · intro request lookup _ _ _ commit
      exact absurd commit (noCommit request lookup)

theorem commitTurn_spec (request : CommitRequest) (lookup : AuthorityLookup) (set : WorkingSet) :
    (authority.commitTurn options request lookup set).1.workingSets = authority.workingSets ∨
      ∃ changeSet operations cursorSeq snapshotSeq, request.changeSet = some changeSet ∧
        set.changeResults changeSet.changeId = none ∧ operations ≠ [] ∧
        (authority.commitTurn options request lookup set).2 =
          .committed (newChange set changeSet.changeId operations).acknowledgement ∧
        (authority.commitTurn options request lookup set).1.workingSets =
          (authority.setWorkingSet set.workingSetId (some (committedSet set options.limits cursorSeq
            snapshotSeq changeSet.changeId operations))).workingSets := by
  unfold Authority.commitTurn
  cases outcome : set.commit options (authority.cursorSeq + 1) (authority.snapshotSeq + 1) request
      lookup with
  | failed => exact .inl rfl
  | answered acknowledgement => exact .inl rfl
  | committed advanced acknowledgement =>
    obtain ⟨changeSet, dirty, fresh, operations, nonempty, rfl, rfl⟩ := commit_spec outcome
    dsimp only
    split
    · refine .inr ⟨changeSet, operations, authority.cursorSeq + 1, authority.snapshotSeq + 1,
        dirty, fresh, nonempty, rfl, ?_⟩
      rw [workingSetId_committedSet]
      rfl
    · exact .inl rfl

theorem commitTurn_redelivered {set : WorkingSet} (dirty : request.changeSet = some changeSet)
    (applied : set.changeResults changeSet.changeId = some prior)
    (allowed : options.resolveAuthorization { lookup with handle := request.handle } set.auth =
      some .ok) (known : set.entityIdForHandle request.handle ≠ "") :
    (authority.commitTurn options request lookup set).2 = .acknowledged prior := by
  have answered : set.commit options (authority.cursorSeq + 1) (authority.snapshotSeq + 1) request
      lookup = .answered prior := by
    unfold commit
    dsimp only
    rw [allowed]
    dsimp only
    rw [if_neg known, dirty]
    unfold commitChangeSet
    dsimp only
    rw [applied]
  unfold Authority.commitTurn
  rw [answered]

theorem commitTurn_sound (sound : Sound options authority) (request : CommitRequest)
    (lookup : AuthorityLookup) : CallSound options authority (.commitTurn (some request) lookup) ∧
      Sound options (step options authority (.commitTurn (some request) lookup)) := by
  cases present : authority.workingSets request.workingSetId with
  | none =>
    have threw : authority.perform options (.commitTurn (some request) lookup) =
        (authority, .threw) := by
      unfold perform withWorkingSet
      dsimp only
      rw [present]
    have same := congrArg (fun result => result.1.workingSets) threw
    refine ⟨⟨fun _ => same, ?_, ?_⟩, sound.congr same⟩
    · intro id set found
      exact ⟨set, (congrFun same id).trans found, .inl (.refl set)⟩
    · intro other _ _ set _ sameCall found
      cases sameCall
      rw [present] at found
      cases found
  | some set =>
    have opened : authority.perform options (.commitTurn (some request) lookup) =
        authority.commitTurn options request lookup set := by
      unfold perform withWorkingSet
      dsimp only
      rw [present]
    have redelivered : ∀ other otherLookup changeSet found prior,
        Call.commitTurn (some request) lookup = .commitTurn (some other) otherLookup →
        authority.workingSets other.workingSetId = some found →
        other.changeSet = some changeSet → found.changeResults changeSet.changeId = some prior →
        options.resolveAuthorization { otherLookup with handle := other.handle } found.auth =
          some .ok →
        found.entityIdForHandle other.handle ≠ "" →
        (authority.perform options (.commitTurn (some request) lookup)).2 =
          .acknowledged prior := by
      intro other otherLookup changeSet found prior sameCall presentFound dirty applied allowed
        known
      cases sameCall
      rw [present] at presentFound
      cases presentFound
      rw [opened]
      exact commitTurn_redelivered dirty applied allowed known
    obtain same | ⟨changeSet, operations, cursorSeq, snapshotSeq, dirty, fresh, nonempty, answered,
      same⟩ :=
        @commitTurn_spec options authority request lookup set
    · have same : (step options authority (.commitTurn (some request) lookup)).workingSets =
          authority.workingSets := by
        unfold step
        rw [opened]
        exact same
      refine ⟨⟨fun _ => same, ?_, redelivered⟩, sound.congr same⟩
      intro id old found
      exact ⟨old, (congrFun same id).trans found, .inl (.refl old)⟩
    · have keyed := sound.keyed request.workingSetId set present
      have same : (step options authority (.commitTurn (some request) lookup)).workingSets =
          (authority.setWorkingSet request.workingSetId (some (committedSet set options.limits
            cursorSeq snapshotSeq changeSet.changeId operations))).workingSets := by
        unfold step
        rw [opened, ← keyed]
        exact same
      refine ⟨⟨?_, ?_, redelivered⟩, sound.set same (workingSetId_committedSet.trans keyed)
        (described_committedSet (sound.described _ set present) fresh nonempty)⟩
      · intro refused
        rw [opened, answered] at refused
        cases refused
      · intro id old found
        rw [same]
        unfold setWorkingSet
        dsimp only
        split
        · rename_i here
          rw [here, present] at found
          cases found
          refine ⟨_, rfl, .inr ⟨request, lookup, changeSet, _, rfl, here.symm, dirty, ?_,
            commits_committedSet fresh⟩⟩
          rw [opened, answered]
        · exact ⟨old, found, .inl (.refl old)⟩

theorem subscribe_spec (id uri : String) (lookup : AuthorityLookup) (set : WorkingSet) :
    (authority.subscribe options id uri lookup set).1.workingSets = authority.workingSets ∨
      (authority.subscribe options id uri lookup set).2.changes = true ∧
        ∃ next, set.Keeps next ∧ (authority.subscribe options id uri lookup set).1.workingSets =
          (authority.setWorkingSet id (some next)).workingSets := by
  unfold Authority.subscribe
  split
  · exact .inl rfl
  · exact .inl rfl
  · split
    · exact .inr ⟨rfl, _, ⟨_, set.auth, rfl⟩, rfl⟩
    · exact .inl rfl

theorem task_sound (sound : Sound options authority) {task : WorkingSet → Authority × Answer}
    (performed : authority.perform options call = authority.withWorkingSet id task)
    (spec : ∀ set, (task set).1.workingSets = authority.workingSets ∨
      (task set).2.changes = true ∧ ∃ next, set.Keeps next ∧
        (task set).1.workingSets = (authority.setWorkingSet id (some next)).workingSets)
    (other : ∀ request lookup, call ≠ .commitTurn (some request) lookup) :
    CallSound options authority call ∧ Sound options (step options authority call) := by
  unfold withWorkingSet at performed
  split at performed
  · have same := congrArg (fun result => result.1.workingSets) performed
    exact ⟨.unchanged same other, sound.congr same⟩
  · rename_i set present
    have after := congrArg (fun result => result.1.workingSets) performed
    obtain same | ⟨answered, next, keeps, same⟩ := spec set
    · exact ⟨.unchanged (after.trans same) other, sound.congr (after.trans same)⟩
    · have keyed : next.workingSetId = id := by
        obtain ⟨_, _, rfl⟩ := keeps
        exact sound.keyed id set present
      refine ⟨.updates present keeps (after.trans same) ?_ other,
        sound.set (after.trans same) keyed (keeps.described (sound.described id set present))⟩
      rw [performed]
      exact answered

end Calls

theorem step_sound (bound : 1 ≤ options.limits.maxHistoryEntries) (authority : Authority)
    (call : Call) (proper : Proper options authority call) (sound : Sound options authority) :
    CallSound options authority call ∧ Sound options (step options authority call) := by
  cases call with
  | «open» input => exact open_sound bound sound proper
  | commitTurn request lookup =>
    cases request with
    | none =>
      refine ⟨.unchanged rfl ?_, sound⟩
      intro _ _ same
      cases same
    | some request => exact commitTurn_sound sound request lookup
  | rebase id handle operations baselineHead lookup =>
    exact task_sound sound rfl
      (fun set => .inl (rebase_workingSets handle operations baselineHead lookup set))
      fun _ _ => Call.noConfusion
  | resync id cursor lookup =>
    exact task_sound sound rfl (fun set => .inl (resync_workingSets cursor lookup set))
      fun _ _ => Call.noConfusion
  | subscribe id uri lookup =>
    exact task_sound sound rfl (fun set => subscribe_spec id uri lookup set)
      fun _ _ => Call.noConfusion
  | revoke id =>
    exact task_sound sound rfl
      (fun set => .inr ⟨rfl, _, ⟨set.subscriberById, _, rfl⟩, rfl⟩)
      fun _ _ => Call.noConfusion
  | advanceGeneration id =>
    exact task_sound sound rfl
      (fun set => .inr ⟨rfl, _, ⟨set.subscriberById, _, rfl⟩, rfl⟩)
      fun _ _ => Call.noConfusion
  | notificationFor id entityId =>
    exact task_sound sound rfl (fun set => .inl (notificationFor_workingSets id entityId set))
      fun _ _ => Call.noConfusion

theorem initial_sound (options : Options) : Sound options initial :=
  ⟨fun _ _ present => (by cases present), fun _ _ present => (by cases present)⟩

structure RunSound (options : Options) (calls : List Call) : Prop where
  each : EachCommand (step options) (CallSound options) initial calls
  described : ∀ id set, (run options calls).workingSets id = some set → set.Described options.limits

theorem each_sound (bound : 1 ≤ options.limits.maxHistoryEntries) (sound : Sound options authority)
    (proper : EachCommand (step options) (Proper options) authority calls) :
    EachCommand (step options) (CallSound options) authority calls := by
  induction calls generalizing authority with
  | nil => trivial
  | cons call rest induction =>
    obtain ⟨first, next⟩ := step_sound bound authority call proper.1 sound
    exact ⟨first, induction next proper.2⟩

/-- In a run in which no open writes over a working set or leaves one behind that it refuses. -/
theorem committed_changes_kept (options : Options) (calls : List Call)
    (bound : 1 ≤ options.limits.maxHistoryEntries)
    (proper : EachCommand (step options) (Proper options) initial calls) :
    RunSound options calls := by
  refine ⟨each_sound bound (initial_sound options) proper, ?_⟩
  have sound : Sound options (run options calls) := by
    refine runAll_preserves ?_ proper (initial_sound options)
    intro authority call permitted sound
    exact (step_sound bound authority call permitted sound).2
  exact sound.described

instance (options : Options) (authority : Authority) :
    (call : Call) → Decidable (Proper options authority call)
  | .open _ => inferInstanceAs (Decidable (_ → _))
  | .commitTurn _ _ | .rebase _ _ _ _ _ | .resync _ _ _ | .subscribe _ _ _ | .revoke _
  | .advanceGeneration _ | .notificationFor _ _ => .isTrue trivial

def defaultOptions : Options where
  limits := {}
  defaultAuth :=
    ⟨"prin.ccs.1", "gr.ccs.1", "res.ccs.1", "pol.ccs.1", "aud.ccs.1", "req.ccs.1", 1, false⟩
  resolver := none

def documentInput : OpenInput := ⟨"ws.ccs.1", [⟨"ent.ccs.doc", "hdl_ccs_1"⟩], {}, {}⟩

def insertOperation (opId : String) : Operation :=
  ⟨opId, .insert, "ent.ccs.doc", 0, [0],
    "sha256:abababababababababababababababababababababababababababababababab"⟩

def insertChange (changeId : String) : ChangeSet :=
  ⟨changeId, 0, [insertOperation "op.ccs.1"], "attr.ccs.1", by decide, by decide, by decide⟩

def insertTurn (changeId : String) : Call :=
  .commitTurn (some ⟨"ws.ccs.1", "hdl_ccs_1", some (insertChange changeId)⟩) {}

theorem committed_changes_kept_turns : ((run defaultOptions
        [.open documentInput, insertTurn "chg.ccs.1", insertTurn "chg.ccs.1"]).workingSets
      "ws.ccs.1").map head = some 1 ∧
      RunSound defaultOptions
        [.open documentInput, insertTurn "chg.ccs.1", insertTurn "chg.ccs.1"] :=
  ⟨by decide +kernel, committed_changes_kept _ _ (by decide) (by decide +kernel)⟩

def unauthorizedOpen : List Call :=
  [.open documentInput, insertTurn "chg.ccs.1",
    .open { documentInput with authorization := { revoked := true } }]

theorem unauthorizedOpen_loses_changes :
    ¬∀ options calls, 1 ≤ options.limits.maxHistoryEntries → RunSound options calls := by
  intro all
  obtain ⟨_, _, third, _⟩ := (all defaultOptions unauthorizedOpen (by decide)).each
  obtain ⟨set, present⟩ := Option.isSome_iff_exists.mp
    (show ((run defaultOptions (unauthorizedOpen.take 2)).workingSets "ws.ccs.1").isSome = true by
      decide +kernel)
  obtain ⟨next, kept, _⟩ := third.kept "ws.ccs.1" set present
  have deleted : (run defaultOptions unauthorizedOpen).workingSets "ws.ccs.1" = none :=
    Option.isNone_iff_eq_none.mp (by decide +kernel)
  rw [show (run defaultOptions unauthorizedOpen).workingSets "ws.ccs.1" = some next from kept]
    at deleted
  cases deleted

end LicoMesh.CoreChangeSets
