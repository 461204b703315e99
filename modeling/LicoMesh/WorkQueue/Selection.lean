import LicoMesh.WorkQueue.Claim

namespace LicoMesh.WorkQueue

open List Store

/-! What fair selection picks: which items are candidates, and that selection
fails only when there is none with lease capacity. -/

variable {rejected : List String} {partition : VirtualFinishRow} {row : WorkItemRow}
  {slots cursor : Nat}

structure FairSelector.Selects (selector : FairSelector)
    (priorityClass : WorkQueuePriorityClass) (partition : PartitionKey) : Prop where
  queue : partition.queueDefinitionId = selector.queueDefinitionId
  scope : partition.selectorScopeKey = selector.selectorScopeKey
  version : selector.matchesVersion partition.queueDefinitionVersion
  priorityClass : partition.priorityClass = priorityClass
  admitted : selector.fixed.admits partition.toHierarchy

/-- An item `fairRankedCandidate` may return. -/
structure IsCandidate (store : Store) (selector : FairSelector)
    (priorityClass : WorkQueuePriorityClass) (rejected : List String) (row : WorkItemRow) :
    Prop where
  member : row ∈ store.workItems.rows
  pending : store.isPending selector priorityClass row
  version : selector.matchesVersion row.queueDefinitionVersion
  admitted : selector.fixed.admits row.toHierarchy
  unrejected : row.toHierarchy.partitionText ∉ rejected
  counted : (store.virtualFinish.find? row.partition).isSome

section Candidates

variable {store : Store} {selector : FairSelector} {priorityClass : WorkQueuePriorityClass}
  {rejected : List String}

theorem mem_allPartitions : partition ∈ store.allPartitions selector priorityClass rejected ↔
      partition ∈ store.virtualFinish.rows ∧
        selector.Selects priorityClass partition.toPartitionKey ∧
        partition.toHierarchy.partitionText ∉ rejected := by
  unfold allPartitions
  simp only [mem_filter, Bool.and_eq_true, decide_eq_true_eq, all_eq_true]
  constructor
  · intro ⟨member, ⟨⟨⟨⟨queue, scope⟩, version⟩, sameClass⟩, admitted⟩, texts⟩
    exact ⟨member, ⟨queue, scope, version, sameClass, admitted⟩,
      fun rejectedText => texts _ rejectedText rfl⟩
  · intro ⟨member, selects, texts⟩
    refine ⟨member, ⟨⟨⟨⟨selects.queue, selects.scope⟩, selects.version⟩,
      selects.priorityClass⟩, selects.admitted⟩, ?_⟩
    intro text htext same
    exact texts (same ▸ htext)

theorem mem_rankedCandidates : (partition, row) ∈ store.rankedCandidates selector priorityClass
        (store.eligiblePartitions selector priorityClass
          (store.allPartitions selector priorityClass rejected)) ↔
      partition ∈ store.allPartitions selector priorityClass rejected ∧
        row ∈ store.workItems.rows ∧ store.isPending selector priorityClass row ∧
        selector.matchesVersion row.queueDefinitionVersion ∧
        row.queueDefinitionVersion = partition.queueDefinitionVersion ∧
        row.toHierarchy = partition.toHierarchy := by
  unfold rankedCandidates eligiblePartitions
  simp only [mem_flatMap, mem_map, mem_filter, any_eq_true,
    Bool.and_eq_true, decide_eq_true_eq, Prod.mk.injEq]
  constructor
  · intro ⟨_, ⟨member, _⟩, _, ⟨present, ⟨⟨pending, version⟩, sameVersion⟩, position⟩, rfl, rfl⟩
    exact ⟨member, present, pending, version, sameVersion, position⟩
  · intro ⟨member, present, pending, version, sameVersion, position⟩
    exact ⟨partition, ⟨member, row, present, pending, position⟩, row,
      ⟨present, ⟨⟨pending, version⟩, sameVersion⟩, position⟩, rfl, rfl⟩

theorem isPending_iff : store.isPending selector priorityClass row ↔
      isWaiting selector.queueDefinitionId selector.selectorScopeKey selector.nowMs row ∧
        row.priorityClass = priorityClass ∧ store.concurrencyFree row := by
  unfold isPending
  simp only [Bool.and_eq_true, decide_eq_true_eq, and_assoc]

/-- The conditions of `isWaiting`, by name. -/
structure WorkItemRow.IsWaiting (row : WorkItemRow) (queueDefinitionId scopeKey : String)
    (nowMs : Int) : Prop where
  queue : row.queueDefinitionId = queueDefinitionId
  scope : row.scopeKey = scopeKey
  claimable : row.state.isClaimable
  available : row.availableAtMs ≤ nowMs
  deadline : row.expiresAtMs = 0 ∨ nowMs < row.expiresAtMs

theorem isWaiting_iff : isWaiting queueDefinitionId scopeKey nowMs row ↔
      row.IsWaiting queueDefinitionId scopeKey nowMs := by
  unfold isWaiting
  simp only [Bool.and_eq_true, Bool.or_eq_true, decide_eq_true_eq]
  constructor
  · intro ⟨⟨⟨⟨queue, scope⟩, claimable⟩, available⟩, deadline⟩
    exact ⟨queue, scope, claimable, available, deadline⟩
  · intro waiting
    exact ⟨⟨⟨⟨waiting.queue, waiting.scope⟩, waiting.claimable⟩, waiting.available⟩,
      waiting.deadline⟩

theorem isCandidate_iff : IsCandidate store selector priorityClass rejected row ↔
      ∃ partition, (partition, row) ∈ store.rankedCandidates selector priorityClass
        (store.eligiblePartitions selector priorityClass
          (store.allPartitions selector priorityClass rejected)) ∧
        partition.toPartitionKey = row.partition := by
  constructor
  · intro candidate
    obtain ⟨partition, found⟩ := Option.isSome_iff_exists.mp candidate.counted
    have key : partition.toPartitionKey = row.partition := store.virtualFinish.key_of_find? found
    obtain ⟨waiting, sameClass, _⟩ := isPending_iff.mp candidate.pending
    have waiting := isWaiting_iff.mp waiting
    have position : partition.toHierarchy = row.toHierarchy := by rw [key]; rfl
    refine ⟨partition, mem_rankedCandidates.mpr ⟨mem_allPartitions.mpr
      ⟨store.virtualFinish.mem_of_find? found, ?_, ?_⟩, candidate.member, candidate.pending,
      candidate.version, ?_, position.symm⟩, key⟩
    · rw [key]
      exact ⟨waiting.queue, waiting.scope, candidate.version, sameClass, candidate.admitted⟩
    · rw [position]
      exact candidate.unrejected
    · rw [key]
      rfl
  · intro ⟨partition, ranked, key⟩
    obtain ⟨inPartitions, member, pending, version, _, position⟩ := mem_rankedCandidates.mp ranked
    obtain ⟨present, selects, unrejected⟩ := mem_allPartitions.mp inPartitions
    refine ⟨member, pending, version, ?_, ?_, ?_⟩
    · rw [position]
      exact selects.admitted
    · rw [position]
      exact unrejected
    · rw [← key, store.virtualFinish.find?_of_mem present]
      rfl

theorem partition_of_rankedCandidates
    (ranked : (partition, row) ∈ store.rankedCandidates selector priorityClass
      (store.eligiblePartitions selector priorityClass
        (store.allPartitions selector priorityClass rejected))) :
    partition.toPartitionKey = row.partition := by
  obtain ⟨inPartitions, _, pending, _, sameVersion, position⟩ := mem_rankedCandidates.mp ranked
  obtain ⟨_, selects, _⟩ := mem_allPartitions.mp inPartitions
  obtain ⟨waiting, sameClass, _⟩ := isPending_iff.mp pending
  have waiting := isWaiting_iff.mp waiting
  unfold WorkItemRow.partition
  rw [position, waiting.queue, waiting.scope, sameClass, sameVersion, ← selects.queue,
    ← selects.scope, ← selects.priorityClass]

theorem fairRankedCandidate_isCandidate
    (selected : store.fairRankedCandidate selector priorityClass rejected = some row) :
    IsCandidate store selector priorityClass rejected row := by
  obtain ⟨⟨partition, _⟩, minimal, rfl⟩ := Option.map_eq_some_iff.mp selected
  have ranked := argmin_mem (Option.mem_def.mpr minimal)
  exact isCandidate_iff.mpr ⟨partition, ranked, partition_of_rankedCandidates ranked⟩

theorem fairRankedCandidate_eq_none_iff :
    store.fairRankedCandidate selector priorityClass rejected = none ↔
      ∀ row, ¬ IsCandidate store selector priorityClass rejected row := by
  unfold fairRankedCandidate
  simp only [Option.map_eq_none_iff, argmin_eq_none]
  constructor
  · intro empty row candidate
    obtain ⟨partition, ranked, _⟩ := isCandidate_iff.mp candidate
    rw [empty] at ranked
    exact absurd ranked not_mem_nil
  · intro absent
    refine eq_nil_iff_forall_not_mem.mpr ?_
    intro ⟨partition, row⟩ ranked
    exact absent row (isCandidate_iff.mpr ⟨partition, ranked, partition_of_rankedCandidates ranked⟩)

end Candidates

structure Selected (env : QueueEnv) (store : Store) (selector : FairSelector)
    (priorityClass : WorkQueuePriorityClass) (row : WorkItemRow) : Prop where
  candidate : IsCandidate store selector priorityClass [] row
  capacity : ∃ policy, policyForRow env store row = .ok policy ∧
    hasLeaseCapacity store selector.queueDefinitionId row.toHierarchy policy
      selector.selectorScopeKey selector.nowMs

def RejectedForCapacity (env : QueueEnv) (store : Store) (selector : FairSelector)
    (priorityClass : WorkQueuePriorityClass) (rejected : List String) : Prop :=
  ∀ text ∈ rejected, ∃ row policy, IsCandidate store selector priorityClass [] row ∧
    text = row.toHierarchy.partitionText ∧ policyForRow env store row = .ok policy ∧
    hasLeaseCapacity store selector.queueDefinitionId row.toHierarchy policy
      selector.selectorScopeKey selector.nowMs = false

section Capacity

variable {env : QueueEnv} {store : Store} {selector : FairSelector}
  {priorityClass : WorkQueuePriorityClass}
  (candidate : IsCandidate store selector priorityClass rejected row)

include candidate in
theorem IsCandidate.of_rejected : IsCandidate store selector priorityClass [] row :=
  { candidate with unrejected := not_mem_nil }

theorem RejectedForCapacity.append
    (rejections : RejectedForCapacity env store selector priorityClass rejected)
    (candidate : IsCandidate store selector priorityClass rejected row)
    (resolved : policyForRow env store row = .ok policy)
    (full : hasLeaseCapacity store selector.queueDefinitionId row.toHierarchy policy
      selector.selectorScopeKey selector.nowMs = false) :
    RejectedForCapacity env store selector priorityClass
      (rejected ++ [row.toHierarchy.partitionText]) := by
  intro text member
  rcases mem_append.mp member with earlier | last
  · exact rejections text earlier
  · exact ⟨row, policy, candidate.of_rejected, mem_singleton.mp last, resolved, full⟩

include candidate in
theorem length_allPartitions_rejected : (store.allPartitions selector priorityClass
        (rejected ++ [row.toHierarchy.partitionText])).length <
      (store.allPartitions selector priorityClass rejected).length := by
  obtain ⟨partition, ranked, key⟩ := isCandidate_iff.mp candidate
  have inPartitions := (mem_rankedCandidates.mp ranked).1
  have narrower : store.allPartitions selector priorityClass
      (rejected ++ [row.toHierarchy.partitionText]) =
      (store.allPartitions selector priorityClass rejected).filter fun other =>
        row.toHierarchy.partitionText ≠ other.toHierarchy.partitionText := by
    unfold allPartitions
    rw [filter_filter]
    refine filter_congr ?_
    intro other _
    simp only [all_append, all_cons, all_nil, Bool.and_true]
    rw [← Bool.and_assoc, Bool.and_comm]
  rw [narrower]
  refine length_filter_lt_length_iff_exists.mpr ⟨partition, inPartitions, ?_⟩
  have position : partition.toHierarchy = row.toHierarchy := by rw [key]; rfl
  simp [position]

theorem firstWithinCapacity_some
    (selected : firstWithinCapacity env store selector priorityClass fuel rejected =
      .ok (some row)) : Selected env store selector priorityClass row := by
  induction fuel generalizing rejected with
  | zero => cases selected
  | succ fuel induction =>
    unfold firstWithinCapacity at selected
    split at selected
    · cases selected
    · rename_i candidate found
      split at selected
      · cases selected
      · rename_i policy resolved
        split at selected
        · rename_i capacity
          cases selected
          exact ⟨(fairRankedCandidate_isCandidate found).of_rejected, policy, resolved, capacity⟩
        · exact induction selected

theorem firstWithinCapacity_none
    (enough : (store.allPartitions selector priorityClass rejected).length < fuel)
    (rejections : RejectedForCapacity env store selector priorityClass rejected)
    (selected : firstWithinCapacity env store selector priorityClass fuel rejected = .ok none) :
    ∃ final, RejectedForCapacity env store selector priorityClass final ∧
      ∀ row, ¬ IsCandidate store selector priorityClass final row := by
  induction fuel generalizing rejected with
  | zero => omega
  | succ fuel induction =>
    unfold firstWithinCapacity at selected
    split at selected
    · rename_i absent
      exact ⟨rejected, rejections, fairRankedCandidate_eq_none_iff.mp absent⟩
    · rename_i candidate found
      have isCandidate := fairRankedCandidate_isCandidate found
      split at selected
      · cases selected
      · rename_i policy resolved
        split at selected
        · cases selected
        · rename_i full
          have shorter := length_allPartitions_rejected isCandidate
          exact induction (by omega)
            (rejections.append isCandidate resolved (by simpa using full)) selected

theorem length_allPartitions_le (rejected : List String) :
    (store.allPartitions selector priorityClass rejected).length ≤
      store.virtualFinish.rows.length :=
  length_filter_le ..

section

variable {next : Nat}
  (selected : selectFairCandidate env store selector slots cursor = .ok (some (row, next)))
include selected

theorem selectFairCandidate_first : firstWithinCapacity env store selector row.priorityClass
      (store.virtualFinish.rows.length + 1) [] = .ok (some row) := by
  induction slots generalizing cursor with
  | zero => cases selected
  | succ slots induction =>
    unfold selectFairCandidate at selected
    split at selected
    · cases selected
    · rename_i found
      cases selected
      have chosen := firstWithinCapacity_some found
      rw [(isPending_iff.mp chosen.candidate.pending).2.1]
      exact found
    · exact induction selected

theorem selectFairCandidate_some : Selected env store selector row.priorityClass row :=
  firstWithinCapacity_some (selectFairCandidate_first selected)

end

/-- An item that selection of its class cannot pass over: a candidate in whose
partition every candidate has lease capacity. -/
structure IsClaimable (env : QueueEnv) (store : Store) (selector : FairSelector)
    (priorityClass : WorkQueuePriorityClass) (row : WorkItemRow) : Prop where
  candidate : IsCandidate store selector priorityClass [] row
  capacity : ∀ {other policy}, IsCandidate store selector priorityClass [] other →
    other.toHierarchy.partitionText = row.toHierarchy.partitionText →
    policyForRow env store other = .ok policy →
    hasLeaseCapacity store selector.queueDefinitionId other.toHierarchy policy
      selector.selectorScopeKey selector.nowMs

theorem Selected.isClaimable (selected : Selected env store selector priorityClass row)
    (alike : ∀ other, IsCandidate store selector priorityClass [] other →
      other.toHierarchy.partitionText = row.toHierarchy.partitionText →
      other.queueDefinitionVersion = row.queueDefinitionVersion ∧
        other.toHierarchy = row.toHierarchy) :
    IsClaimable env store selector priorityClass row where
  candidate := selected.candidate
  capacity := by
    intro other policy candidate same resolved
    obtain ⟨policy', resolved', capacity⟩ := selected.capacity
    obtain ⟨version, position⟩ := alike other candidate same
    have queue := (isWaiting_iff.mp (isPending_iff.mp candidate.pending).1).queue
    have queue' := (isWaiting_iff.mp (isPending_iff.mp selected.candidate.pending).1).queue
    unfold policyForRow at resolved resolved'
    rw [queue, version] at resolved
    rw [queue', resolved] at resolved'
    cases resolved'
    rw [position]
    exact capacity

theorem IsClaimable.firstWithinCapacity_ne_none
    (claimable : IsClaimable env store selector priorityClass row) :
    firstWithinCapacity env store selector priorityClass (store.virtualFinish.rows.length + 1)
      [] ≠ .ok none := by
  intro none
  obtain ⟨final, rejections, absent⟩ := firstWithinCapacity_none
    (Nat.lt_succ_of_le (length_allPartitions_le []))
    (fun _ member => absurd member not_mem_nil) none
  by_cases rejected : row.toHierarchy.partitionText ∈ final
  · obtain ⟨other, policy, candidate, same, resolved, full⟩ := rejections _ rejected
    rw [claimable.capacity candidate same.symm resolved] at full
    cases full
  · exact absent row { claimable.candidate with unrejected := rejected }

theorem selectFairCandidate_of_isClaimable
    (claimable : IsClaimable env store selector (priorityClassAtCursor cursor) row)
    (selection : selectFairCandidate env store selector (slots + 1) cursor = .ok selected) :
    ∃ chosen, selected = some (chosen, nextPriorityCursor cursor) ∧
      chosen.priorityClass = priorityClassAtCursor cursor := by
  unfold selectFairCandidate at selection
  split at selection
  · cases selection
  · rename_i chosen found
    cases selection
    exact ⟨chosen, rfl, (isPending_iff.mp (firstWithinCapacity_some found).candidate.pending).2.1⟩
  · rename_i none
    exact absurd none claimable.firstWithinCapacity_ne_none

end Capacity

end LicoMesh.WorkQueue
