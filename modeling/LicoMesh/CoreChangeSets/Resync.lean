import LicoMesh.CoreChangeSets.Commits
import Mathlib.Data.List.Flatten
import Mathlib.Data.List.TakeDrop

namespace LicoMesh.CoreChangeSets

open List

open Library

variable {id : String} {limits : Limits} {authority next : Authority} {operations : List Operation}
  {change : CommittedChange} {found : WorkingSet} {head : Nat} {cursor : Cursor} {client : Client}

/-- What a call does to the working sets, the cursor numbers and the cursors handed out. -/
inductive Effect (options : Options) (authority next : Authority) : Prop
  | counts (same : next.workingSets = authority.workingSets)
      (later : authority.cursorSeq ≤ next.cursorSeq) (issued : next.issued = authority.issued)
  | issues (id : String) (head : Nat) (same : next.workingSets = authority.workingSets)
      (later : next.cursorSeq = authority.cursorSeq + 1)
      (issued : next.issued = ⟨id, authority.cursorSeq + 1, head⟩ :: authority.issued)
  | updates (id : String) (set updated : WorkingSet) (present : authority.workingSets id = some set)
      (keeps : set.Keeps updated)
      (same : next.workingSets = (authority.setWorkingSet id (some updated)).workingSets)
      (later : next.cursorSeq = authority.cursorSeq) (issued : next.issued = authority.issued)
  | commits (id : String) (set : WorkingSet) (present : authority.workingSets id = some set)
      (snapshotSeq : Nat) (changeId : String) (operations : List Operation)
      (fresh : set.changeResults changeId = none) (nonempty : operations ≠ [])
      (same : next.workingSets = (authority.setWorkingSet id (some (committedSet set options.limits
        (authority.cursorSeq + 1) snapshotSeq changeId operations))).workingSets)
      (later : next.cursorSeq = authority.cursorSeq + 1) (issued : next.issued = authority.issued)
  | opens (input : OpenInput) (snapshotSeq : Nat)
      (same : next.workingSets = (authority.setWorkingSet input.id (some (input.workingSet
        options.defaultAuth (authority.cursorSeq + 1) snapshotSeq))).workingSets)
      (later : next.cursorSeq = authority.cursorSeq + 1)
      (issued : next.issued = authority.issued ∨ input.isAccepted = true ∧
        next.issued = ⟨input.id, authority.cursorSeq + 1, 0⟩ :: authority.issued)
  | closes (id : String) (same : next.workingSets = (authority.setWorkingSet id none).workingSets)
      (later : authority.cursorSeq ≤ next.cursorSeq) (issued : next.issued = authority.issued)

section Calls

variable {options : Options} {authority : Authority}

theorem Effect.refl : Effect options authority authority := .counts rfl (Nat.le_refl _) rfl

theorem openWorkingSet_effect (input : OpenInput) :
    Effect options authority (authority.openWorkingSet options input).1 := by
  unfold Authority.openWorkingSet
  split
  · dsimp only
    split
    · split
      · exact .opens input (authority.snapshotSeq + 1) (authority.workingSets_opened ..) (by simp)
          (.inl (by simp))
      · exact .closes input.id (setWorkingSet_twice (authority.workingSets_opened input.id _))
          (by simp) (by simp)
      · rename_i accepted _ _
        exact .opens input (authority.snapshotSeq + 1) (authority.workingSets_issued ..) (by simp)
          (.inr ⟨accepted, by simp⟩)
    · exact .opens input (authority.snapshotSeq + 1) (authority.workingSets_opened ..) (by simp)
        (.inl (by simp))
  · exact .refl

variable {set : WorkingSet}

theorem commitTurn_effect (request : CommitRequest) (lookup : AuthorityLookup)
    (present : authority.workingSets set.workingSetId = some set) :
    Effect options authority (authority.commitTurn options request lookup set).1 := by
  unfold Authority.commitTurn
  cases outcome : set.commit options (authority.cursorSeq + 1) (authority.snapshotSeq + 1) request
      lookup with
  | failed => exact .refl
  | answered acknowledgement => exact .refl
  | committed advanced acknowledgement =>
    obtain ⟨changeSet, _, fresh, operations, nonempty, rfl, rfl⟩ := commit_spec outcome
    dsimp only
    split
    · refine .commits set.workingSetId set present (authority.snapshotSeq + 1) changeSet.changeId
        operations fresh nonempty ?_ rfl rfl
      rw [workingSetId_committedSet]
      rfl
    · exact .counts rfl (Nat.le_succ _) rfl

theorem rebase_effect (handle : String) (operations : Option (List Operation))
    (baselineHead : Int) (lookup : AuthorityLookup) (set : WorkingSet) : Effect options authority
      (authority.rebase options handle operations baselineHead lookup set).1 := by
  unfold Authority.rebase
  dsimp only
  split
  · exact .refl
  · exact .refl
  · split
    · exact .refl
    · exact .counts rfl (Nat.le_succ _) rfl

theorem resync_effect (cursor : Cursor) (lookup : AuthorityLookup) (set : WorkingSet) :
    Effect options authority (authority.resync options cursor lookup set).1 := by
  unfold Authority.resync
  split
  · exact .refl
  · exact .refl
  · dsimp only
    split
    · exact .issues set.workingSetId set.head rfl rfl rfl
    · exact .counts rfl (Nat.le_succ _) rfl
    · exact .refl
    · exact .refl

theorem subscribe_effect (id uri : String) (lookup : AuthorityLookup)
    (present : authority.workingSets id = some set) :
    Effect options authority (authority.subscribe options id uri lookup set).1 := by
  unfold Authority.subscribe
  split
  · exact .refl
  · exact .refl
  · split
    · exact .updates id set _ present ⟨_, set.auth, rfl⟩ rfl rfl rfl
    · exact .refl

theorem setAuth_effect (auth : AuthorizationState) (present : authority.workingSets id = some set) :
    Effect options authority (authority.setAuth id auth set).1 :=
  .updates id set _ present ⟨set.subscriberById, auth, rfl⟩ rfl rfl rfl

theorem notificationFor_effect (id entityId : String) (set : WorkingSet) :
    Effect options authority (authority.notificationFor id entityId set).1 := by
  unfold Authority.notificationFor
  split
  · exact .issues set.workingSetId set.head rfl rfl rfl
  · exact .counts rfl (Nat.le_succ _) rfl

theorem withWorkingSet_effect
    (effect : ∀ set, authority.workingSets id = some set → Effect options authority (task set).1) :
    Effect options authority (authority.withWorkingSet id task).1 := by
  unfold Authority.withWorkingSet
  split
  · exact .refl
  · rename_i set present
    exact effect set present

def Keyed (authority : Authority) : Prop :=
  ∀ id set, authority.workingSets id = some set → set.workingSetId = id

theorem step_effect (keyed : Keyed authority) (call : Call) :
    Effect options authority (step options authority call) := by
  cases call with
  | «open» input => exact openWorkingSet_effect input
  | commitTurn request lookup =>
    cases request with
    | none => exact .refl
    | some request =>
      apply withWorkingSet_effect
      intro set present
      apply commitTurn_effect
      rw [keyed request.workingSetId set present]
      exact present
  | rebase id handle operations baselineHead lookup =>
    exact withWorkingSet_effect fun set _ =>
      rebase_effect handle operations baselineHead lookup set
  | resync id cursor lookup =>
    exact withWorkingSet_effect fun set _ => resync_effect cursor lookup set
  | subscribe id uri lookup =>
    exact withWorkingSet_effect fun set present => subscribe_effect id uri lookup present
  | revoke id => exact withWorkingSet_effect fun set present => setAuth_effect _ present
  | advanceGeneration id => exact withWorkingSet_effect fun set present => setAuth_effect _ present
  | notificationFor id entityId =>
    exact withWorkingSet_effect fun set _ => notificationFor_effect id entityId set

end Calls

section

variable (input : OpenInput) (auth : AuthorizationState)
include input auth

theorem historyDescribed_workingSet (cursorSeq snapshotSeq : Nat) :
    (input.workingSet auth cursorSeq snapshotSeq).HistoryDescribed limits := by
  have window : (input.workingSet auth cursorSeq snapshotSeq).window limits = [] := by
    exact drop_nil
  refine ⟨rfl, ?_, ?_, ?_, ?_⟩
  · rw [window]
    rfl
  · intro head
    rw [window]
    rfl
  · intro head
    rw [window]
    rfl
  · intro entityId
    rw [window]
    rfl

theorem resultsDescribed_workingSet
    (cursorSeq snapshotSeq : Nat) : (input.workingSet auth cursorSeq snapshotSeq).ResultsDescribed :=
  ⟨fun _ => rfl, nodup_nil, fun _ member => (by cases member)⟩

theorem cursors_workingSet (cursorSeq snapshotSeq token : Nat) :
    (input.workingSet auth cursorSeq snapshotSeq).cursors token =
      if token = cursorSeq then some 0 else none := rfl

end

theorem cursors_committedSet {set : WorkingSet} (token : Nat) :
    (committedSet set limits cursorSeq snapshotSeq changeId operations).cursors token =
      if token = cursorSeq then some (set.head + 1) else set.cursors token := by
  unfold committedSet WorkingSet.advanceHead WorkingSet.dropOldest
  dsimp only
  rw [dropSnapshots_eq, dropHistory_eq]
  rfl

structure SetTracked (options : Options) (authority : Authority) (id : String) (set : WorkingSet) :
    Prop where
  keyed : set.workingSetId = id
  history : set.HistoryDescribed options.limits
  results : set.ResultsDescribed
  recorded : ∀ token head, set.cursors token = some head → token ≤ authority.cursorSeq
  issuedRecorded : ∀ issued ∈ authority.issued, issued.workingSetId = id → ∀ head,
    set.cursors issued.cursorSeq = some head →
      head = issued.indexedHead ∧ opaqueId set.workingSetId = true

structure Tracked (options : Options) (authority : Authority) : Prop where
  sets : ∀ id set, authority.workingSets id = some set → SetTracked options authority id set
  issuedBound : ∀ issued ∈ authority.issued, issued.cursorSeq ≤ authority.cursorSeq

structure Grows (authority next : Authority) : Prop where
  later : authority.cursorSeq ≤ next.cursorSeq
  issued : ∀ issued ∈ next.issued, issued ∈ authority.issued ∨
    authority.cursorSeq < issued.cursorSeq ∧ issued.cursorSeq ≤ next.cursorSeq

theorem Grows.of_issued_eq (later : authority.cursorSeq ≤ next.cursorSeq)
    (same : next.issued = authority.issued) : Grows authority next :=
  ⟨later, fun _ member => .inl (same ▸ member)⟩

theorem Grows.of_issued_cons (later : next.cursorSeq = authority.cursorSeq + 1)
    (more : next.issued = ⟨id, authority.cursorSeq + 1, head⟩ :: authority.issued) :
    Grows authority next := by
  refine ⟨by omega, ?_⟩
  intro issued member
  rw [more] at member
  obtain rfl | old := mem_cons.mp member
  · exact .inr ⟨Nat.lt_succ_self _, later.ge⟩
  · exact .inl old

section Growth

variable {options : Options} {authority next : Authority} {id : String} {set : WorkingSet}

theorem Tracked.issuedBound_of_grows (tracked : Tracked options authority)
    (grows : Grows authority next) : ∀ issued ∈ next.issued, issued.cursorSeq ≤ next.cursorSeq := by
  intro issued member
  obtain old | ⟨_, bound⟩ := grows.issued issued member
  · exact (tracked.issuedBound issued old).trans grows.later
  · exact bound

section

variable (tracked : SetTracked options authority id set)
include tracked

theorem SetTracked.grows (grows : Grows authority next) : SetTracked options next id set where
  keyed := tracked.keyed
  history := tracked.history
  results := tracked.results
  recorded token head found := (tracked.recorded token head found).trans grows.later
  issuedRecorded issued member here head found := by
    obtain old | ⟨new, _⟩ := grows.issued issued member
    · exact tracked.issuedRecorded issued old here head found
    · exact absurd (tracked.recorded _ head found) (Nat.not_le.mpr new)

theorem SetTracked.keeps (keeps : set.Keeps updated) : SetTracked options authority id updated := by
  obtain ⟨subscribers, auth, rfl⟩ := keeps
  obtain ⟨keyed, history, results, recorded, issuedRecorded⟩ := tracked
  exact ⟨keyed, ⟨history.numbered, history.historyHeads, history.history, history.log,
    history.entityLog⟩, ⟨results.results, results.distinct, results.nonempty⟩, recorded,
    issuedRecorded⟩

theorem SetTracked.committed
    (bound : ∀ issued ∈ authority.issued, issued.cursorSeq ≤ authority.cursorSeq)
    (fresh : set.changeResults changeId = none) (nonempty : operations ≠ [])
    (later : next.cursorSeq = authority.cursorSeq + 1) (same : next.issued = authority.issued) :
    SetTracked options next id (committedSet set options.limits (authority.cursorSeq + 1)
      snapshotSeq changeId operations) where
  keyed := workingSetId_committedSet.trans tracked.keyed
  history := historyDescribed_committedSet tracked.history
  results := resultsDescribed_committedSet tracked.results fresh nonempty
  recorded token head found := by
    rw [cursors_committedSet] at found
    split at found
    · rename_i new
      rw [new, later]
    · have old := tracked.recorded token head found
      omega
  issuedRecorded issued member here head found := by
    rw [same] at member
    rw [cursors_committedSet, if_neg] at found
    · rw [workingSetId_committedSet]
      exact tracked.issuedRecorded issued member here head found
    · exact Nat.ne_of_lt (Nat.lt_succ_of_le (bound issued member))

end

theorem SetTracked.opened (tracked : Tracked options authority) (input : OpenInput)
    (snapshotSeq : Nat) (later : next.cursorSeq = authority.cursorSeq + 1)
    (issued : next.issued = authority.issued ∨ input.isAccepted = true ∧
      next.issued = ⟨input.id, authority.cursorSeq + 1, 0⟩ :: authority.issued) :
    SetTracked options next input.id
      (input.workingSet options.defaultAuth (authority.cursorSeq + 1) snapshotSeq) where
  keyed := rfl
  history := historyDescribed_workingSet input _ _ _
  results := resultsDescribed_workingSet input _ _ _
  recorded token head found := by
    rw [cursors_workingSet] at found
    split at found
    · rename_i new
      rw [new, later]
    · cases found
  issuedRecorded cursor member _ head found := by
    rw [cursors_workingSet] at found
    split at found
    · rename_i new
      cases found
      have older : cursor ∉ authority.issued := by
        intro old
        have bound := tracked.issuedBound cursor old
        omega
      obtain same | ⟨accepted, same⟩ := issued
      · exact absurd (same ▸ member) older
      · rw [same] at member
        obtain rfl | old := mem_cons.mp member
        · refine ⟨rfl, ?_⟩
          unfold OpenInput.isAccepted at accepted
          simp only [Bool.and_eq_true] at accepted
          exact accepted.1.1.1.1.1.1.1.1.1
        · exact absurd old older
    · cases found

theorem Tracked.write (tracked : Tracked options authority) (grows : Grows authority next)
    (written : SetTracked options next id set)
    (same : next.workingSets = (authority.setWorkingSet id (some set)).workingSets) :
    Tracked options next := by
  refine ⟨?_, tracked.issuedBound_of_grows grows⟩
  intro other found present
  rw [same] at present
  change (if other = id then some set else authority.workingSets other) = some found at present
  split at present
  · rename_i here
    rw [here, ← Option.some.inj present]
    exact written
  · exact (tracked.sets other found present).grows grows

theorem Effect.tracked (effect : Effect options authority next)
    (tracked : Tracked options authority) : Tracked options next := by
  cases effect with
  | counts same later issued =>
    have grows := Grows.of_issued_eq later issued
    refine ⟨?_, tracked.issuedBound_of_grows grows⟩
    intro id set present
    rw [same] at present
    exact (tracked.sets id set present).grows grows
  | issues id head same later issued =>
    have grows := Grows.of_issued_cons later issued
    refine ⟨?_, tracked.issuedBound_of_grows grows⟩
    intro id set present
    rw [same] at present
    exact (tracked.sets id set present).grows grows
  | updates id set updated present keeps same later issued =>
    have grows := Grows.of_issued_eq later.ge issued
    exact tracked.write grows (((tracked.sets id set present).keeps keeps).grows grows) same
  | commits id set present snapshotSeq changeId operations fresh nonempty same later issued =>
    exact tracked.write (.of_issued_eq (by omega) issued)
      ((tracked.sets id set present).committed tracked.issuedBound fresh nonempty later issued) same
  | opens input snapshotSeq same later issued =>
    have grows : Grows authority next := by
      obtain unchanged | ⟨_, more⟩ := issued
      · exact .of_issued_eq (by omega) unchanged
      · exact .of_issued_cons later more
    exact tracked.write grows (.opened tracked input snapshotSeq later issued) same
  | closes id same later issued =>
    have grows := Grows.of_issued_eq later issued
    refine ⟨?_, tracked.issuedBound_of_grows grows⟩
    intro other set present
    rw [same] at present
    change (if other = id then none else authority.workingSets other) = some set at present
    split at present
    · cases present
    · exact (tracked.sets other set present).grows grows

end Growth

theorem run_tracked (options : Options) (calls : List Call) : Tracked options (run options calls) := by
  apply runAll_invariant
  · intro authority call tracked
    have keyed : Keyed authority := fun id set present => (tracked.sets id set present).keyed
    exact (step_effect keyed call).tracked tracked
  · exact ⟨fun _ _ present => (by cases present), fun _ member => (by cases member)⟩

/-- In every run, whatever the limits, a working set holds its latest changes under their heads and
entities and each committed change once, and no cursor is ahead of those handed out. -/
theorem run_indexes (options : Options) (calls : List Call) :
    (∀ id set, (run options calls).workingSets id = some set →
      set.HistoryDescribed options.limits ∧ set.ResultsDescribed ∧
        ∀ token head, set.cursors token = some head → token ≤ (run options calls).cursorSeq) ∧
      ∀ issued ∈ (run options calls).issued, issued.cursorSeq ≤ (run options calls).cursorSeq := by
  have tracked := run_tracked options calls
  refine ⟨fun id set present => ?_, tracked.issuedBound⟩
  have own := tracked.sets id set present
  exact ⟨own.history, own.results, own.recorded⟩

structure Client where
  cursor : Cursor
  base : Nat
  received : List OperationLogEntry

def Client.at (cursor : Cursor) : Client := ⟨cursor, cursor.indexedHead, []⟩

def Client.receive (client : Client) : Answer → Client
  | .resynced response =>
    match response.outcome with
    | .delta deltas =>
      { client with cursor := response.cursor, received := client.received ++ deltas }
    | .snapshotTail snapshot tail => ⟨response.cursor, snapshot.head, tail⟩
    | .cancelled => client
  | _ => client

def resyncOnce (options : Options) (id : String) (lookup : AuthorityLookup)
    (state : Authority × Client) : Authority × Client :=
  let result := state.1.perform options (.resync id state.2.cursor lookup)
  (result.1, state.2.receive result.2)

namespace WorkingSet

variable (set : WorkingSet)

def committedAfter (head : Nat) : List OperationLogEntry :=
  (set.changes.filter fun change => head < change.head).flatMap CommittedChange.log

structure Delivered (client : Client) : Prop where
  current : client.cursor.cursorState = .valid ∧ client.cursor.indexedHead = set.head
  complete : client.received = set.committedAfter client.base

end WorkingSet

/-- The client is at the head after finitely many resyncs, and has received everything by then. -/
def Delivers (options : Options) (authority : Authority) (id : String) (lookup : AuthorityLookup)
    (cursor : Cursor) : Prop :=
  ∃ calls set, ((resyncOnce options id lookup)^[calls] (authority, .at cursor)).1.workingSets id =
      some set ∧ set.Delivered ((resyncOnce options id lookup)^[calls] (authority, .at cursor)).2

def HandedOut (authority : Authority) (id : String) (cursor : Cursor) : Prop :=
  ∃ issued ∈ authority.issued, issued.workingSetId = id ∧
    cursor.token = .minted issued.cursorSeq ∧ cursor.indexedHead = issued.indexedHead

section Numbered

variable {set : WorkingSet} {limits : Limits}

section

variable (described : set.HistoryDescribed limits)
include described

theorem length_changes : set.changes.length = set.head := by
  have length := congrArg length described.numbered
  rw [length_map, length_range'] at length
  exact length

theorem filter_changes (bound : dropped ≤ head) :
    ((set.changes.drop dropped).filter fun change => head < change.head) =
      set.changes.drop head := by
  apply filter_drop_numbered ?_ bound
  rw [length_changes described]
  exact described.numbered

theorem committedAfter_eq (head : Nat) :
    set.committedAfter head = (set.changes.drop head).flatMap CommittedChange.log := by
  unfold WorkingSet.committedAfter
  rw [← filter_changes described (Nat.zero_le head), drop_zero]

theorem window_eq :
    set.window limits = set.changes.drop (set.head - limits.maxHistoryEntries.toNat) := by
  unfold WorkingSet.window recent
  rw [length_changes described]

theorem window_heads : (set.window limits).map CommittedChange.head =
      range' (1 + (set.head - limits.maxHistoryEntries.toNat))
        (set.head - (set.head - limits.maxHistoryEntries.toNat)) := by
  rw [window_eq described, map_drop, described.numbered, drop_range', Nat.mul_one]

theorem find?_window (member : change ∈ set.window limits) :
    ((set.window limits).find? fun other => other.head = change.head) = some change := by
  have distinct : ((set.window limits).map CommittedChange.head).Nodup := by
    rw [window_heads described]
    exact nodup_range'
  exact Table.find?_of_mem ⟨set.window limits, distinct⟩ member

theorem logAt_of_mem
    (member : change ∈ set.window limits) : set.logAt change.head = change.log := by
  unfold WorkingSet.logAt
  rw [described.log, find?_window described member]
  rfl

theorem retainedAfter_eq (head : Nat) : set.retainedAfter head =
      (set.changes.drop (max (set.head - limits.maxHistoryEntries.toNat) head)).flatMap
        CommittedChange.log := by
  have kept : (set.window limits).filter (fun change => head < change.head) =
      set.changes.drop (max (set.head - limits.maxHistoryEntries.toNat) head) := by
    by_cases older : set.head - limits.maxHistoryEntries.toNat ≤ head
    · rw [window_eq described, filter_changes described older, Nat.max_eq_right older]
    · rw [Nat.max_eq_left (by omega), ← window_eq described, filter_eq_self]
      intro change member
      have known : change.head ∈ (set.window limits).map CommittedChange.head :=
        mem_map_of_mem member
      rw [window_heads described, mem_range'_1] at known
      exact decide_eq_true (by omega)
  unfold WorkingSet.retainedAfter
  rw [described.historyHeads, filter_map, flatMap_map, ← kept]
  apply flatMap_congr
  intro change member
  exact logAt_of_mem described (mem_filter.mp member).1

theorem earliestCausalHead_le :
    set.earliestCausalHead ≤ set.head - limits.maxHistoryEntries.toNat := by
  unfold WorkingSet.earliestCausalHead
  rw [described.historyHeads, window_heads described]
  cases set.head - (set.head - limits.maxHistoryEntries.toNat) with
  | zero => exact Nat.zero_le _
  | succ count =>
    rw [range'_succ]
    dsimp only
    omega

end

theorem takePage_eq (limit : Int) (taken : Nat) (log : List OperationLogEntry) :
    takePage limit taken log = log.take (max 1 (limit - taken).toNat) := by
  induction log generalizing taken with
  | nil => rw [takePage, take_nil]
  | cons entry rest induction =>
    rw [takePage]
    split
    · rename_i full
      rw [show max 1 (limit - taken).toNat = 1 by omega]
      rfl
    · rename_i room
      have more : max 1 (limit - taken).toNat =
          max 1 (limit - ((taken + 1 : Nat) : Int)).toNat + 1 := by omega
      rw [induction, more, take_succ_cons]

/-- The operations that an answer holds: one at least, when there is one. -/
def pageSize (limits : Limits) : Nat := max 1 limits.maxDeltaPage.toNat

theorem deltasFrom_eq (described : set.HistoryDescribed limits) (head : Nat) :
    set.deltasFrom limits head =
      ((set.changes.drop (max (set.head - limits.maxHistoryEntries.toNat) head)).flatMap
        CommittedChange.log).take (pageSize limits) := by
  unfold WorkingSet.deltasFrom
  rw [takePage_eq, retainedAfter_eq described]
  unfold pageSize
  rw [Int.natCast_zero, Int.sub_zero]

theorem length_flatMap_drop_lt (results : set.ResultsDescribed)
    (less : fewer < more) (bound : fewer < set.changes.length) :
    ((set.changes.drop more).flatMap CommittedChange.log).length <
      ((set.changes.drop fewer).flatMap CommittedChange.log).length := by
  have next : set.changes.drop fewer = set.changes[fewer] :: set.changes.drop (fewer + 1) :=
    drop_eq_getElem_cons bound
  have rest : (set.changes.drop more).Sublist (set.changes.drop (fewer + 1)) := by
    rw [show more = fewer + 1 + (more - (fewer + 1)) by omega, ← drop_drop]
    exact drop_sublist _ _
  have shorter := (rest.flatMap CommittedChange.log).length_le
  have log : 0 < set.changes[fewer].log.length := by
    unfold CommittedChange.log WorkingSet.logEntries
    rw [length_mapIdx]
    exact length_pos_of_ne_nil (results.nonempty _ (getElem_mem bound))
  rw [next, flatMap_cons, length_append]
  omega

section

variable (described : set.HistoryDescribed limits)
include described

theorem deltasFrom_complete_iff (results : set.ResultsDescribed) (head : Nat) :
    set.deltasFrom limits head = set.committedAfter head ↔
      set.head ≤ head + limits.maxHistoryEntries.toNat ∧
        (set.committedAfter head).length ≤ pageSize limits := by
  rw [deltasFrom_eq described, committedAfter_eq described]
  by_cases retained : set.head ≤ head + limits.maxHistoryEntries.toNat
  · rw [Nat.max_eq_right (by omega), take_eq_self_iff, and_iff_right retained]
  · refine ⟨fun same => ?_, fun fits => absurd fits.1 retained⟩
    have length := congrArg length same
    have fewer := length_flatMap_drop_lt results
      (show head < max (set.head - limits.maxHistoryEntries.toNat) head by omega)
      (by rw [length_changes described]; omega)
    rw [length_take] at length
    omega

theorem log_ordered (count : Nat) :
    ((set.changes.drop count).flatMap CommittedChange.log).Pairwise fun previous current =>
      previous.head < current.head ∨
        previous.head = current.head ∧ previous.opIndex < current.opIndex := by
  have heads : ((set.changes.drop count).map CommittedChange.head).Pairwise (· < ·) := by
    rw [map_drop, described.numbered]
    have ascending : (range' 1 set.head).Pairwise (· < ·) := pairwise_lt_range'
    exact ascending.drop
  rw [pairwise_map] at heads
  rw [pairwise_flatMap]
  constructor
  · intro change _
    unfold CommittedChange.log WorkingSet.logEntries
    rw [pairwise_iff_getElem]
    intro i j hi hj less
    rw [getElem_mapIdx, getElem_mapIdx]
    exact .inr ⟨rfl, less⟩
  · apply heads.imp
    intro earlier later less entry member other otherMember
    rw [earlier.log_keyed entry member, later.log_keyed other otherMember]
    exact .inl less

theorem orderedDeltas_iff (head : Nat) : orderedDeltas (set.deltasFrom limits head) = true ↔
      (set.deltasFrom limits head).length ≤ ServiceCollaborationLimits.maxDeltaPage := by
  have ordered : (set.deltasFrom limits head).IsChain fun previous current =>
      previous.head < current.head ∨
        previous.head = current.head ∧ previous.opIndex < current.opIndex := by
    rw [deltasFrom_eq described]
    exact ((log_ordered described _).take).isChain
  unfold orderedDeltas
  rw [Bool.and_eq_true, decide_eq_true_eq, decide_eq_true_eq, and_iff_left ordered]

end

end Numbered

section Answers

variable {options : Options} {authority : Authority} {id : String} {lookup : AuthorityLookup}
  {set : WorkingSet}

def WorkingSet.Lost (set : WorkingSet) (cursor : Cursor) : Prop :=
  (set.cursorRecord cursor).1 = .expired

variable (present : authority.workingSets id = some set)
  (allowed : options.resolveAuthorization lookup set.auth = some .ok)

include allowed in
include present in
theorem resync_performed (cursor : Cursor) : authority.perform options (.resync id cursor lookup) =
      let response := set.resyncResponse options.limits (authority.cursorSeq + 1)
        (authority.snapshotSeq + 1) cursor
      match response.cursor.cursorState, response.isAccepted with
      | .valid, true => (authority.issue set.workingSetId set.head, .resynced response)
      | .valid, false => (authority.skipCursor, .threw)
      | .expired, true => (authority, .resynced response)
      | .expired, false => (authority, .threw) := by
  unfold Authority.perform Authority.withWorkingSet
  dsimp only
  rw [present]
  unfold Authority.resync
  dsimp only
  split
  · rename_i missing
    exact nomatch missing.symm.trans allowed
  · rename_i denied
    exact nomatch denied.symm.trans allowed
  · rfl

theorem lost_of_token (lost : set.Lost cursor)
    (same : other.token = cursor.token.orDefault (.other ("cur.expired." ++ set.workingSetId))) :
    set.Lost other := by
  cases token : cursor.token with
  | other text =>
    have text : ∃ kept, other.token = .other kept := by
      rw [same, token]
      unfold CursorToken.orDefault
      split
      · exact ⟨_, rfl⟩
      · exact ⟨text, rfl⟩
    obtain ⟨kept, stays⟩ := text
    unfold WorkingSet.Lost WorkingSet.cursorRecord
    rw [stays]
  | minted cursorSeq =>
    unfold WorkingSet.Lost WorkingSet.cursorRecord at lost ⊢
    rw [same]
    rw [token] at lost ⊢
    have kept : (CursorToken.minted cursorSeq).orDefault
        (.other ("cur.expired." ++ set.workingSetId)) = .minted cursorSeq :=
      if_neg CursorToken.noConfusion
    rw [kept]
    dsimp only at lost ⊢
    cases found : set.cursors cursorSeq with
    | none => rfl
    | some head =>
      rw [found] at lost
      dsimp only at lost ⊢
      split
      · rfl
      · rename_i there
        rw [if_neg there] at lost
        cases lost

include present allowed

variable (lost : set.Lost client.cursor)
include lost

theorem resyncOnce_lost :
    (resyncOnce options id lookup (authority, client)).1.workingSets = authority.workingSets ∧
      set.Lost (resyncOnce options id lookup (authority, client)).2.cursor ∧
      ((resyncOnce options id lookup (authority, client)).2 = client ∨
        (resyncOnce options id lookup (authority, client)).2.cursor.cursorState = .expired) := by
  unfold resyncOnce
  rw [resync_performed present allowed]
  cases record : set.cursorRecord client.cursor with
  | mk state indexedHead =>
    have expired : state = .expired := by
      unfold WorkingSet.Lost at lost
      rw [record] at lost
      exact lost
    subst expired
    unfold WorkingSet.resyncResponse
    rw [record]
    dsimp only
    split
    · rename_i impossible _
      cases impossible
    · rename_i impossible _
      cases impossible
    · exact ⟨rfl, lost_of_token lost rfl, .inr rfl⟩
    · exact ⟨rfl, lost, .inl rfl⟩

theorem iterate_lost (calls : Nat) :
    ((resyncOnce options id lookup)^[calls] (authority, client)).1.workingSets id = some set ∧
      set.Lost ((resyncOnce options id lookup)^[calls] (authority, client)).2.cursor ∧
      (((resyncOnce options id lookup)^[calls] (authority, client)).2 = client ∨
        ((resyncOnce options id lookup)^[calls] (authority, client)).2.cursor.cursorState =
          .expired) := by
  induction calls with
  | zero => exact ⟨present, lost, .inl rfl⟩
  | succ calls induction =>
    rw [Function.iterate_succ_apply']
    generalize (resyncOnce options id lookup)^[calls] (authority, client) = state at induction
    obtain ⟨there, still, place⟩ := induction
    obtain ⟨same, next, moved⟩ := resyncOnce_lost there allowed still
    refine ⟨(congrFun same id).trans there, next, ?_⟩
    obtain stays | expired := moved
    · rw [show (state.1, state.2) = state from rfl] at stays
      rw [stays]
      exact place
    · exact .inr expired

theorem delivered_lost
    (there : ((resyncOnce options id lookup)^[calls] (authority, client)).1.workingSets id =
      some found)
    (delivered : found.Delivered ((resyncOnce options id lookup)^[calls] (authority, client)).2) :
    set.Delivered client := by
  obtain ⟨same, _, place⟩ := iterate_lost present allowed lost calls
  rw [same] at there
  cases there
  obtain stays | expired := place
  · rw [stays] at delivered
    exact delivered
  · rw [delivered.current.1] at expired
    cases expired

omit lost allowed

omit present

def Client.advance (set : WorkingSet) (limits : Limits) (cursorSeq indexedHead : Nat)
    (client : Client) : Client :=
  ⟨⟨.minted cursorSeq, set.head, .valid⟩, client.base,
    client.received ++ set.deltasFrom limits indexedHead⟩

def WorkingSet.pageAccepted (set : WorkingSet) (limits : Limits) (indexedHead : Nat) : Bool :=
  opaqueId set.workingSetId && orderedDeltas (set.deltasFrom limits indexedHead)

include allowed in
include present in
theorem resyncOnce_served (served : set.cursorRecord client.cursor = (.valid, indexedHead)) :
    resyncOnce options id lookup (authority, client) =
      if set.pageAccepted options.limits indexedHead then
        (authority.issue set.workingSetId set.head,
          client.advance set options.limits (authority.cursorSeq + 1) indexedHead)
      else (authority.skipCursor, client) := by
  have response : set.resyncResponse options.limits (authority.cursorSeq + 1)
      (authority.snapshotSeq + 1) client.cursor =
        ⟨set.workingSetId, .delta (set.deltasFrom options.limits indexedHead), set.head,
          ⟨.minted (authority.cursorSeq + 1), set.head, .valid⟩⟩ := by
    unfold WorkingSet.resyncResponse
    rw [served]
  have accepted : (ResyncResponse.mk set.workingSetId
      (.delta (set.deltasFrom options.limits indexedHead)) set.head
      ⟨.minted (authority.cursorSeq + 1), set.head, .valid⟩).isAccepted =
        set.pageAccepted options.limits indexedHead := by
    unfold ResyncResponse.isAccepted Cursor.isAccepted WorkingSet.pageAccepted
    simp
  unfold resyncOnce
  rw [resync_performed present allowed, response]
  dsimp only
  rw [accepted]
  cases set.pageAccepted options.limits indexedHead <;> rfl

theorem lost_unrecorded
    (unrecorded : set.cursors cursorSeq = none) : set.Lost ⟨.minted cursorSeq, head, state⟩ := by
  unfold WorkingSet.Lost WorkingSet.cursorRecord
  dsimp only
  rw [unrecorded]

include present in
theorem delivered_served
    (recorded : ∀ token head, set.cursors token = some head → token ≤ authority.cursorSeq)
    (allowed : options.resolveAuthorization lookup set.auth = some .ok)
    (served : set.cursorRecord client.cursor = (.valid, indexedHead))
    (there : ((resyncOnce options id lookup)^[calls] (authority, client)).1.workingSets id =
      some found)
    (delivered : found.Delivered ((resyncOnce options id lookup)^[calls] (authority, client)).2) :
    set.Delivered client ∨ set.pageAccepted options.limits indexedHead = true ∧
      client.received ++ set.deltasFrom options.limits indexedHead =
        set.committedAfter client.base := by
  induction calls generalizing authority with
  | zero =>
    rw [Function.iterate_zero_apply] at there delivered
    rw [present] at there
    cases there
    exact .inl delivered
  | succ calls induction =>
    rw [Function.iterate_succ_apply, resyncOnce_served present allowed served] at there delivered
    by_cases accepted : set.pageAccepted options.limits indexedHead = true
    · rw [if_pos accepted] at there delivered
      have fresh : set.cursors (authority.cursorSeq + 1) = none := by
        cases cursor : set.cursors (authority.cursorSeq + 1) with
        | none => rfl
        | some head => exact absurd (recorded _ head cursor) (Nat.not_succ_le_self _)
      have still : (authority.issue set.workingSetId set.head).workingSets id = some set := present
      refine .inr ⟨accepted, ?_⟩
      exact (delivered_lost still allowed (lost_unrecorded fresh) there delivered).complete
    · rw [if_neg accepted] at there delivered
      have still : authority.skipCursor.workingSets id = some set := present
      refine induction still ?_ there delivered
      intro token head cursor
      exact Nat.le_succ_of_le (recorded token head cursor)

theorem committedAfter_head (described : set.HistoryDescribed limits) :
    set.committedAfter set.head = [] := by
  rw [committedAfter_eq described, drop_eq_nil_of_le (length_changes described).le]
  rfl

structure Servable (limits : Limits) (set : WorkingSet) (cursor : Cursor) : Prop where
  recorded : ∃ cursorSeq, cursor.token = .minted cursorSeq ∧
    set.cursors cursorSeq = some cursor.indexedHead
  retained : set.head ≤ cursor.indexedHead + limits.maxHistoryEntries.toNat
  fitsPage : (set.committedAfter cursor.indexedHead).length ≤ pageSize limits
  fitsContract : (set.committedAfter cursor.indexedHead).length ≤
    ServiceCollaborationLimits.maxDeltaPage

theorem Servable.served (described : set.HistoryDescribed limits)
    (servable : Servable limits set cursor) :
    set.cursorRecord cursor = (.valid, cursor.indexedHead) := by
  obtain ⟨cursorSeq, token, found⟩ := servable.recorded
  have earliest := earliestCausalHead_le described
  have retained := servable.retained
  unfold WorkingSet.cursorRecord
  rw [token]
  dsimp only
  rw [found]
  dsimp only
  rw [if_neg (by omega)]

theorem delivers_iff (tracked : Tracked options authority)
    (present : authority.workingSets id = some set)
    (allowed : options.resolveAuthorization lookup set.auth = some .ok)
    (held : HandedOut authority id cursor) : Delivers options authority id lookup cursor ↔
      cursor.cursorState = .valid ∧ cursor.indexedHead = set.head ∨
        Servable options.limits set cursor := by
  have known := tracked.sets id set present
  obtain ⟨issued, member, here, token, head⟩ := held
  have recorded : ∀ found, set.cursors issued.cursorSeq = some found →
      found = cursor.indexedHead ∧ opaqueId set.workingSetId = true := by
    intro found present
    rw [head]
    exact known.issuedRecorded issued member here found present
  constructor
  · rintro ⟨calls, found, there, delivered⟩
    have lost : set.Lost cursor → cursor.cursorState = .valid ∧ cursor.indexedHead = set.head :=
      fun lost => (delivered_lost present allowed lost there delivered).current
    cases place : set.cursors issued.cursorSeq with
    | none =>
      refine .inl (lost ?_)
      unfold WorkingSet.Lost WorkingSet.cursorRecord
      rw [token]
      dsimp only
      rw [place]
    | some indexedHead =>
      obtain ⟨rfl, _⟩ := recorded indexedHead place
      have record : set.cursorRecord cursor =
          if cursor.indexedHead < set.earliestCausalHead ∧ cursor.indexedHead ≠ set.head then
            (.expired, cursor.indexedHead)
          else (.valid, cursor.indexedHead) := by
        unfold WorkingSet.cursorRecord
        rw [token]
        dsimp only
        rw [place]
      split at record
      · exact .inl (lost (congrArg Prod.fst record))
      · obtain current | ⟨accepted, complete⟩ :=
          delivered_served present known.recorded allowed record there delivered
        · exact .inl current.current
        · rw [show (Client.at cursor).received = [] from rfl, nil_append] at complete
          obtain ⟨retained, fits⟩ :=
            (deltasFrom_complete_iff known.history known.results cursor.indexedHead).mp complete
          unfold WorkingSet.pageAccepted at accepted
          rw [Bool.and_eq_true, orderedDeltas_iff known.history, complete] at accepted
          exact .inr ⟨⟨issued.cursorSeq, token, place⟩, retained, fits, accepted.2⟩
  · rintro (current | servable)
    · refine ⟨0, set, present, current, ?_⟩
      change [] = set.committedAfter cursor.indexedHead
      rw [current.2, committedAfter_head known.history]
    · have complete := (deltasFrom_complete_iff known.history known.results
        cursor.indexedHead).mpr ⟨servable.retained, servable.fitsPage⟩
      have accepted : set.pageAccepted options.limits cursor.indexedHead = true := by
        obtain ⟨cursorSeq, sameToken, place⟩ := servable.recorded
        rw [token] at sameToken
        cases sameToken
        unfold WorkingSet.pageAccepted
        rw [Bool.and_eq_true, orderedDeltas_iff known.history, complete]
        exact ⟨(recorded _ place).2, servable.fitsContract⟩
      have served : set.cursorRecord (Client.at cursor).cursor = (.valid, cursor.indexedHead) :=
        servable.served known.history
      have once := resyncOnce_served present allowed served
      rw [if_pos accepted] at once
      refine ⟨1, set, ?_, ?_⟩
      · rw [Function.iterate_one, once]
        exact present
      · rw [Function.iterate_one, once]
        exact ⟨⟨rfl, rfl⟩, complete⟩

end Answers

/-- The client of a cursor that was handed out receives every operation committed after its head,
and gets to the current head, exactly when nothing was committed since or one answer can hold it. -/
theorem resync_delivers_iff (options : Options) (calls : List Call) {id : String}
    {lookup : AuthorityLookup} {set : WorkingSet} {cursor : Cursor}
    (present : (run options calls).workingSets id = some set)
    (allowed : options.resolveAuthorization lookup set.auth = some .ok)
    (held : HandedOut (run options calls) id cursor) :
    Delivers options (run options calls) id lookup cursor ↔ cursor.cursorState = .valid ∧
      cursor.indexedHead = set.head ∨ Servable options.limits set cursor :=
  delivers_iff (run_tracked options calls) present allowed held

def oneTurn : List Call := [.open documentInput, insertTurn "chg.ccs.1"]

theorem resync_delivers_oneTurn :
    Delivers defaultOptions (run defaultOptions oneTurn) "ws.ccs.1" {} ⟨.minted 1, 0, .valid⟩ := by
  have seen : ((run defaultOptions oneTurn).workingSets "ws.ccs.1").map (fun set =>
      (set.cursors 1, set.head, (set.committedAfter 0).length, currentDecision {} set.auth)) =
        some (some 0, 1, 1, .ok) := by
    decide +kernel
  obtain ⟨set, present, fields⟩ := Option.map_eq_some_iff.mp seen
  obtain ⟨recorded, head, length, allowed⟩ : set.cursors 1 = some 0 ∧ set.head = 1 ∧
      (set.committedAfter 0).length = 1 ∧ currentDecision {} set.auth = .ok := by
    simpa only [Prod.mk.injEq] using fields
  have held : HandedOut (run defaultOptions oneTurn) "ws.ccs.1" ⟨.minted 1, 0, .valid⟩ :=
    ⟨⟨"ws.ccs.1", 1, 0⟩, mem_of_elem_eq_true (by decide +kernel), rfl, rfl, rfl⟩
  refine (resync_delivers_iff defaultOptions oneTurn present (congrArg some allowed) held).mpr
    (.inr ⟨⟨1, rfl, recorded⟩, ?_, ?_, ?_⟩)
  · rw [head]
    decide
  · rw [length]
    decide
  · rw [length]
    decide

def resyncedBefore : List Call :=
  [.open documentInput, .resync "ws.ccs.1" ⟨.minted 1, 0, .valid⟩ {}, insertTurn "chg.ccs.1"]

theorem resyncedBefore_not_delivered : ¬∀ options calls id lookup set cursor,
      (run options calls).workingSets id = some set → options.resolveAuthorization lookup set.auth =
      some .ok → HandedOut (run options calls) id cursor →
      Delivers options (run options calls) id lookup cursor := by
  intro all
  have seen : ((run defaultOptions resyncedBefore).workingSets "ws.ccs.1").map (fun set =>
      (set.cursors 2, set.head, currentDecision {} set.auth)) = some (none, 1, .ok) := by
    decide +kernel
  obtain ⟨set, present, fields⟩ := Option.map_eq_some_iff.mp seen
  obtain ⟨unrecorded, head, allowed⟩ : set.cursors 2 = none ∧ set.head = 1 ∧
      currentDecision {} set.auth = .ok := by
    simpa only [Prod.mk.injEq] using fields
  have held : HandedOut (run defaultOptions resyncedBefore) "ws.ccs.1" ⟨.minted 2, 0, .valid⟩ :=
    ⟨⟨"ws.ccs.1", 2, 0⟩, mem_of_elem_eq_true (by decide +kernel), rfl, rfl, rfl⟩
  have delivers := all defaultOptions resyncedBefore "ws.ccs.1" {} set _ present
    (congrArg some allowed) held
  rw [delivers_iff (run_tracked defaultOptions resyncedBefore) present (congrArg some allowed) held]
    at delivers
  obtain ⟨_, current⟩ | servable := delivers
  · rw [head] at current
    cases current
  · obtain ⟨cursorSeq, token, recorded⟩ := servable.recorded
    cases token
    rw [unrecorded] at recorded
    cases recorded

end LicoMesh.CoreChangeSets
