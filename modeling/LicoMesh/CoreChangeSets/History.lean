import LicoMesh.CoreChangeSets.Authority
import LicoMesh.Library.Window

namespace LicoMesh.CoreChangeSets

open Library

/-! What the indexes of a working set hold: the most recent of its committed changes. -/

namespace WorkingSet

variable (set : WorkingSet)

def forgetHeads (dropped : List Nat) : WorkingSet :=
  { set with
    historyByHead := fun head => if head ∈ dropped then none else set.historyByHead head
    opsByHead := fun head => if head ∈ dropped then none else set.opsByHead head
    opsByEntity := fun entityId =>
      (set.opsByEntity entityId).filter fun entry => entry.head ∉ dropped }

def forgetSnapshots (dropped : List Nat) : WorkingSet :=
  { set with
    snapshotsByHead := fun head => if head ∈ dropped then none else set.snapshotsByHead head }

theorem forgetHeads_nil : set.forgetHeads [] = set := by
  unfold forgetHeads
  simp

theorem forgetHeads_cons (oldest : Nat) (rest : List Nat) :
    (set.forgetHead oldest).forgetHeads rest = set.forgetHeads (oldest :: rest) := by
  unfold forgetHead forgetHeads
  simp only [List.mem_cons, List.filter_filter]
  congr 1
  · funext entityId
    apply List.filter_congr
    intro entry _
    by_cases head : entry.head = oldest <;> simp [head]
  · funext head
    by_cases same : head = oldest <;> simp [same]
  · funext head
    by_cases same : head = oldest <;> simp [same]

theorem forgetSnapshots_nil : set.forgetSnapshots [] = set := by
  unfold forgetSnapshots
  simp

theorem forgetSnapshots_cons (oldest : Nat) (rest : List Nat) :
    (set.forgetSnapshot oldest).forgetSnapshots rest = set.forgetSnapshots (oldest :: rest) := by
  unfold forgetSnapshot forgetSnapshots
  congr 1
  funext head
  by_cases same : head = oldest <;> simp [same]

end WorkingSet

variable {bound : Int}

theorem excess_cons (long : bound < (oldest :: rest).length) :
    (oldest :: rest).length - bound.toNat = rest.length - bound.toNat + 1 := by
  rw [List.length_cons] at long ⊢
  omega

theorem excess_zero {heads : List Nat} (short : ¬bound < heads.length) :
    heads.length - bound.toNat = 0 := by
  omega

theorem dropHistory_eq (bound : Int) (set : WorkingSet) (heads : List Nat) :
    .dropHistory bound set heads =
      { set.forgetHeads (heads.take (heads.length - bound.toNat)) with
        historyHeads := recent bound.toNat heads } := by
  induction heads generalizing set with
  | nil =>
    unfold WorkingSet.dropHistory recent
    simp [set.forgetHeads_nil]
  | cons oldest rest induction =>
    unfold WorkingSet.dropHistory
    split
    · rename_i long
      rw [induction, set.forgetHeads_cons]
      unfold recent
      rw [excess_cons long]
      rfl
    · rename_i short
      unfold recent
      rw [excess_zero short, List.take_zero, List.drop_zero, set.forgetHeads_nil]

theorem dropSnapshots_eq (bound : Int) (set : WorkingSet) (heads : List Nat) :
    .dropSnapshots bound set heads =
      { set.forgetSnapshots (heads.take (heads.length - bound.toNat)) with
        snapshotHeads := recent bound.toNat heads } := by
  induction heads generalizing set with
  | nil =>
    unfold WorkingSet.dropSnapshots recent
    simp [set.forgetSnapshots_nil]
  | cons oldest rest induction =>
    unfold WorkingSet.dropSnapshots
    split
    · rename_i long
      rw [induction, set.forgetSnapshots_cons]
      unfold recent
      rw [excess_cons long]
      rfl
    · rename_i short
      unfold recent
      rw [excess_zero short, List.take_zero, List.drop_zero, set.forgetSnapshots_nil]

def CommittedChange.log (change : CommittedChange) : List OperationLogEntry :=
  WorkingSet.logEntries change.head change.operations

open CommittedChange

def CommittedChange.entry (change : CommittedChange) : HistoryEntry :=
  ⟨change.head, change.changeId, uniqueStrings (change.operations.map Operation.entityId)⟩

theorem CommittedChange.log_keyed (change : CommittedChange) :
    ∀ entry ∈ change.log, entry.head = change.head := by
  intro entry member
  obtain ⟨index, _, rfl⟩ := List.mem_mapIdx.mp member
  rfl

namespace WorkingSet

variable (set : WorkingSet)

def changes : List CommittedChange := set.committed.reverse

def window (limits : Limits) : List CommittedChange :=
  recent limits.maxHistoryEntries.toNat set.changes

structure HistoryDescribed (limits : Limits) : Prop where
  numbered : set.changes.map CommittedChange.head = List.range' 1 set.head
  historyHeads : set.historyHeads = (set.window limits).map CommittedChange.head
  history : ∀ head, set.historyByHead head =
    ((set.window limits).find? fun change => change.head = head).map entry
  log : ∀ head, set.opsByHead head =
    ((set.window limits).find? fun change => change.head = head).map log
  entityLog : ∀ entityId, set.opsByEntity entityId =
    ((set.window limits).flatMap CommittedChange.log).filter fun entry =>
      entry.operation.entityId = entityId

structure SnapshotsDescribed (limits : Limits) : Prop where
  snapshotHeads : set.snapshotHeads =
    recent limits.maxHistoryEntries.toNat (List.range' 0 (set.head + 1))
  snapshots : ∀ head, (set.snapshotsByHead head).map SnapshotRecord.head =
    if head ∈ set.snapshotHeads then some head else none

/-- What was acknowledged is what was committed, each change once. -/
structure ResultsDescribed : Prop where
  results : ∀ changeId, set.changeResults changeId =
    (set.changes.find? fun change => change.changeId = changeId).map
      acknowledgement
  distinct : (set.changes.map changeId).Nodup
  nonempty : ∀ change ∈ set.changes, change.operations ≠ []

end WorkingSet

section Advance

variable {set appended : WorkingSet} {limits : Limits} {cursorSeq snapshotSeq : Nat}
  {changeId : String} {operations : List Operation}

def newChange (set : WorkingSet) (changeId : String) (operations : List Operation) :
    CommittedChange :=
  ⟨set.head + 1, changeId, operations,
    set.appliedAcknowledge (set.head + 1) (uniqueStrings (operations.map Operation.entityId))⟩

theorem applyOperations_eq (applied : set.applyOperations operations (set.head + 1) = .ok appended) :
    appended = set.appendOperations operations (set.head + 1) := by
  unfold WorkingSet.applyOperations at applied
  split at applied
  · cases applied
  · exact (Except.ok.inj applied).symm

variable (described : set.HistoryDescribed limits)

include described in
theorem numbered_snoc (changeId : String) (operations : List Operation) :
    (set.changes ++ [newChange set changeId operations]).map CommittedChange.head =
      List.range' 1 (set.head + 1) := by
  rw [List.map_append, described.numbered, List.range'_concat]
  rw [Nat.add_comm 1, Nat.one_mul]
  rfl

theorem window_sublist (set : WorkingSet) (limits : Limits) :
    (set.window limits).Sublist set.changes :=
  Library.recent_sublist _ _

def grown (set : WorkingSet) (limits : Limits) (changeId : String)
    (operations : List Operation) : List CommittedChange :=
  set.window limits ++ [newChange set changeId operations]

include described

theorem grown_distinct (changeId : String) (operations : List Operation) :
    ((grown set limits changeId operations).map CommittedChange.head).Nodup := by
  have all := numbered_snoc described changeId operations
  have sub : (grown set limits changeId operations).Sublist
      (set.changes ++ [newChange set changeId operations]) :=
    (window_sublist set limits).append_right _
  have range : (List.range' 1 (set.head + 1)).Nodup := List.nodup_range'
  rw [← all] at range
  exact range.sublist (sub.map CommittedChange.head)

theorem window_absent : set.head + 1 ∉ (set.window limits).map CommittedChange.head := by
  intro member
  have known := ((window_sublist set limits).map CommittedChange.head).subset member
  rw [described.numbered, List.mem_range'_1] at known
  omega

theorem find?_grown (f : CommittedChange → β) (head : Nat) :
    ((grown set limits changeId operations).find? fun change => change.head = head).map f =
      if head = set.head + 1 then some (f (newChange set changeId operations))
      else ((set.window limits).find? fun change => change.head = head).map f := by
  unfold grown
  rw [List.find?_append]
  split
  · rename_i same
    rw [same, Library.find?_of_key_not_mem (window_absent described)]
    simp [newChange]
  · rename_i different
    have other : [newChange set changeId operations].find?
        (fun change => change.head = head) = none := by
      rw [List.find?_singleton, if_neg]
      intro same
      exact different (of_decide_eq_true same).symm
    rw [other, Option.or_none]

omit described

variable (set limits cursorSeq snapshotSeq changeId operations) in
def committedSet : WorkingSet :=
  (set.advanceHead limits cursorSeq snapshotSeq changeId operations
    (set.appendOperations operations (set.head + 1))).1

theorem head_committedSet :
    (committedSet set limits cursorSeq snapshotSeq changeId operations).head = set.head + 1 := by
  unfold committedSet WorkingSet.advanceHead WorkingSet.dropOldest
  dsimp only
  rw [dropSnapshots_eq, dropHistory_eq]
  rfl

theorem changeResults_committedSet (id : String) :
    (committedSet set limits cursorSeq snapshotSeq changeId operations).changeResults id =
      if id = changeId then some (newChange set changeId operations).acknowledgement
      else set.changeResults id := by
  unfold committedSet WorkingSet.advanceHead WorkingSet.dropOldest
  dsimp only
  rw [dropSnapshots_eq, dropHistory_eq]
  rfl

theorem changes_committedSet :
    (committedSet set limits cursorSeq snapshotSeq changeId operations).changes =
      set.changes ++ [newChange set changeId operations] := by
  have committed : (committedSet set limits cursorSeq snapshotSeq changeId operations).committed =
      newChange set changeId operations :: set.committed := by
    unfold committedSet WorkingSet.advanceHead WorkingSet.dropOldest
    dsimp only
    rw [dropSnapshots_eq, dropHistory_eq]
    rfl
  unfold WorkingSet.changes
  rw [committed, List.reverse_cons]

theorem window_committedSet :
    (committedSet set limits cursorSeq snapshotSeq changeId operations).window limits =
      recent limits.maxHistoryEntries.toNat (grown set limits changeId operations) := by
  unfold WorkingSet.window grown
  rw [changes_committedSet, ← recent_snoc]
  rfl

include described in
theorem historyDescribed_committedSet :
    (committedSet set limits cursorSeq snapshotSeq changeId operations).HistoryDescribed limits := by
  have distinct := grown_distinct described changeId operations
  have heads : set.historyHeads ++ [set.head + 1] =
      (grown set limits changeId operations).map CommittedChange.head := by
    unfold grown
    rw [described.historyHeads, List.map_append]
    rfl
  have look : ∀ {β : Type} (f : CommittedChange → β) (head : Nat),
      (if head ∈ ((grown set limits changeId operations).map CommittedChange.head).take
            (((grown set limits changeId operations).map CommittedChange.head).length -
              limits.maxHistoryEntries.toNat) then none
        else if head = set.head + 1 then some (f (newChange set changeId operations))
        else ((set.window limits).find? fun change => change.head = head).map f) =
      ((recent limits.maxHistoryEntries.toNat (grown set limits changeId operations)).find?
        fun change => change.head = head).map f := by
    intro β f head
    rw [← find?_grown described, ← List.map_take, List.length_map]
    unfold recent
    rw [← find?_drop distinct]
    split <;> rfl
  constructor
  case numbered =>
    rw [changes_committedSet, numbered_snoc described changeId operations, head_committedSet]
  case historyHeads =>
    rw [window_committedSet, map_recent, ← heads]
    unfold committedSet WorkingSet.advanceHead WorkingSet.dropOldest
    dsimp only
    rw [dropSnapshots_eq, dropHistory_eq]
    rfl
  case history =>
    intro head
    rw [window_committedSet, ← look, ← heads, ← described.history]
    unfold committedSet WorkingSet.advanceHead WorkingSet.dropOldest
    dsimp only
    rw [dropSnapshots_eq, dropHistory_eq]
    rfl
  case log =>
    intro head
    rw [window_committedSet, ← look, ← heads, ← described.log]
    unfold committedSet WorkingSet.advanceHead WorkingSet.dropOldest
    dsimp only
    rw [dropSnapshots_eq, dropHistory_eq]
    rfl
  case entityLog =>
    intro entityId
    rw [window_committedSet]
    have kept := flatMap_filter_drop distinct
      ((grown set limits changeId operations).length - limits.maxHistoryEntries.toNat)
      CommittedChange.log_keyed
    unfold recent
    rw [← kept, List.filter_comm, List.map_take, ← heads]
    have grownLog : ((grown set limits changeId operations).flatMap CommittedChange.log).filter
        (fun entry => entry.operation.entityId = entityId) =
        set.opsByEntity entityId ++ ((newChange set changeId operations).log).filter
          (fun entry => entry.operation.entityId = entityId) := by
      unfold grown
      rw [List.flatMap_append, List.filter_append, described.entityLog]
      simp
    rw [grownLog]
    unfold committedSet WorkingSet.advanceHead WorkingSet.dropOldest
    dsimp only
    rw [dropSnapshots_eq, dropHistory_eq]
    have length : (grown set limits changeId operations).length =
        (set.historyHeads ++ [set.head + 1]).length := by
      rw [heads, List.length_map]
    rw [length]
    rfl

theorem snapshotsByHead_committedSet (other : Nat) :
    (committedSet set limits cursorSeq snapshotSeq changeId operations).snapshotsByHead other =
      if other ∈ (set.snapshotHeads ++ [set.head + 1]).take
          ((set.snapshotHeads ++ [set.head + 1]).length - limits.maxHistoryEntries.toNat) then none
      else if other = set.head + 1 then
        some ⟨snapshotSeq, set.head + 1, set.entityIds,
          set.entityIds.map (resourceUriFor set.workingSetId)⟩
      else set.snapshotsByHead other := by
  unfold committedSet WorkingSet.advanceHead WorkingSet.dropOldest
  dsimp only
  rw [dropSnapshots_eq, dropHistory_eq]
  rfl

theorem snapshotsDescribed_committedSet (described : set.SnapshotsDescribed limits) :
    (committedSet set limits cursorSeq snapshotSeq changeId operations).SnapshotsDescribed
      limits := by
  have snapshotHeads : (committedSet set limits cursorSeq snapshotSeq changeId
      operations).snapshotHeads =
        recent limits.maxHistoryEntries.toNat (set.snapshotHeads ++ [set.head + 1]) := by
    unfold committedSet WorkingSet.advanceHead WorkingSet.dropOldest
    dsimp only
    rw [dropSnapshots_eq, dropHistory_eq]
    rfl
  have all : recent limits.maxHistoryEntries.toNat (set.snapshotHeads ++ [set.head + 1]) =
      recent limits.maxHistoryEntries.toNat (List.range' 0 (set.head + 2)) := by
    rw [described.snapshotHeads, recent_snoc]
    have next : List.range' 0 (set.head + 2) =
        List.range' 0 (set.head + 1) ++ [0 + 1 * (set.head + 1)] := List.range'_concat
    rw [next, Nat.zero_add, Nat.one_mul]
  have distinct : (set.snapshotHeads ++ [set.head + 1]).Nodup := by
    rw [List.nodup_append, described.snapshotHeads]
    have range : (List.range' 0 (set.head + 1)).Nodup := List.nodup_range'
    refine ⟨range.sublist (Library.recent_sublist _ _), List.nodup_singleton _, ?_⟩
    intro old member new single
    have known := (Library.recent_sublist _ _).subset member
    rw [List.mem_range'_1] at known
    rw [List.mem_singleton] at single
    omega
  constructor
  case snapshotHeads =>
    rw [snapshotHeads, head_committedSet]
    exact all
  case snapshots =>
    intro other
    rw [snapshotHeads]
    have stored : ((committedSet set limits cursorSeq snapshotSeq changeId
        operations).snapshotsByHead other).map SnapshotRecord.head =
        if other ∈ (set.snapshotHeads ++ [set.head + 1]).take
            ((set.snapshotHeads ++ [set.head + 1]).length - limits.maxHistoryEntries.toNat)
        then none
        else if other = set.head + 1 then some (set.head + 1)
        else if other ∈ set.snapshotHeads then some other else none := by
      rw [snapshotsByHead_committedSet, ← described.snapshots]
      split
      · rfl
      · split <;> rfl
    rw [stored]
    unfold recent
    generalize (set.snapshotHeads ++ [set.head + 1]).length - limits.maxHistoryEntries.toNat = count
    have parts := List.take_append_drop count (set.snapshotHeads ++ [set.head + 1])
    rw [← parts] at distinct
    have member : other ∈ (set.snapshotHeads ++ [set.head + 1]) ↔
        other ∈ (set.snapshotHeads ++ [set.head + 1]).take count ∨
          other ∈ (set.snapshotHeads ++ [set.head + 1]).drop count := by
      rw [← List.mem_append, parts]
    split
    · rename_i dropped
      exact (if_neg fun kept => List.disjoint_of_nodup_append distinct dropped kept).symm
    · rename_i kept
      rw [List.mem_append, List.mem_singleton, or_iff_right kept] at member
      split
      · rename_i same
        rw [if_pos (member.mp (.inr same)), same]
      · rename_i different
        rw [or_iff_left different] at member
        simp only [member]

theorem resultsDescribed_committedSet (described : set.ResultsDescribed)
    (fresh : set.changeResults changeId = none) (nonempty : operations ≠ []) :
    (committedSet set limits cursorSeq snapshotSeq changeId operations).ResultsDescribed := by
  have absent : changeId ∉ set.changes.map CommittedChange.changeId := by
    intro member
    obtain ⟨change, present, same⟩ := List.mem_map.mp member
    rw [described.results, Option.map_eq_none_iff, List.find?_eq_none] at fresh
    exact fresh change present (decide_eq_true same)
  constructor
  case results =>
    intro other
    rw [changes_committedSet, List.find?_append]
    rw [changeResults_committedSet]
    split
    · rename_i same
      rw [same, Library.find?_of_key_not_mem absent]
      simp [newChange]
    · rename_i different
      rw [described.results, List.find?_singleton, if_neg, Option.or_none]
      intro same
      exact different (of_decide_eq_true same).symm
  case distinct =>
    rw [changes_committedSet, List.map_append, List.nodup_append]
    refine ⟨described.distinct, List.nodup_singleton _, ?_⟩
    intro old member new single same
    rw [List.map_singleton, List.mem_singleton] at single
    rw [same, single] at member
    exact absent member
  case nonempty =>
    intro change member
    rw [changes_committedSet] at member
    cases List.mem_append.mp member with
    | inl old => exact described.nonempty change old
    | inr new =>
      rw [List.mem_singleton.mp new]
      exact nonempty

end Advance

end LicoMesh.CoreChangeSets
