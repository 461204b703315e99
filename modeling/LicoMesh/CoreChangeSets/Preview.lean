import LicoMesh.CoreChangeSets.Commits
import LicoMesh.CoreChangeSets.RebaseAnswers

namespace LicoMesh.CoreChangeSets

open ServiceCollaborationLimits WorkingSet List

open WorkQueue

variable {relevant : List Operation} {conflict : ConflictFact} {value : String}
  {acknowledgement : Acknowledge}

section Rebased

variable {locals remotes : List Operation} {operation : Operation}

theorem rebaseOperations_nil (locals : List Operation) : rebaseOperations locals [] = ⟨locals, []⟩ := by
  have alone : ∀ operation, rebaseOperation (relevantOperations locals []) operation =
      .ok operation := fun _ => rfl
  unfold rebaseOperations
  induction locals with
  | nil => rfl
  | cons operation rest induction =>
    have tail := induction fun _ => rfl
    rw [Rebased.mk.injEq] at tail ⊢
    exact ⟨by rw [map_cons, filterMap_cons]; exact congrArg _ tail.1,
      by rw [map_cons, filterMap_cons]; exact tail.2⟩

theorem conflict_transform (failed : transformRelevantOperation current other = .error conflict) :
    conflict.code ∈ conflictCodes ∧ conflict.entityId = current.entityId := by
  unfold transformRelevantOperation at failed
  simp only at failed
  split_ifs at failed <;> cases failed <;> exact ⟨by simp [conflictCodes], rfl⟩

theorem conflict_rebaseOperation (failed : rebaseOperation relevant operation = .error conflict) :
    conflict.code ∈ conflictCodes ∧ conflict.entityId = operation.entityId := by
  induction relevant generalizing operation with
  | nil => cases failed
  | cons other rest induction =>
    have unfolded : rebaseOperation (other :: rest) operation =
        transformRelevantOperation operation other >>= rebaseOperation rest := rfl
    rw [unfolded] at failed
    cases step : transformRelevantOperation operation other with
    | error first =>
      rw [step] at failed
      cases failed
      exact conflict_transform step
    | ok next =>
      rw [step] at failed
      obtain ⟨known, here⟩ := induction failed
      exact ⟨known, here.trans (entityId_transform step)⟩

theorem entityId_rebaseOperation (rebased : rebaseOperation relevant operation = .ok result) :
    result.entityId = operation.entityId := by
  induction relevant generalizing operation with
  | nil => cases rebased; rfl
  | cons other rest induction =>
    have unfolded : rebaseOperation (other :: rest) operation =
        transformRelevantOperation operation other >>= rebaseOperation rest := rfl
    rw [unfolded] at rebased
    cases step : transformRelevantOperation operation other with
    | error first => rw [step] at rebased; cases rebased
    | ok next =>
      rw [step] at rebased
      exact (induction rebased).trans (entityId_transform step)

def collides (locals remotes : List Operation) (operation : Operation) : Bool :=
  match rebaseOperation (relevantOperations locals remotes) operation with
  | .ok _ => false
  | .error _ => true

theorem mem_conflicts (member : conflict ∈ (rebaseOperations locals remotes).conflicts) :
    conflict.code ∈ conflictCodes ∧ ∃ operation ∈ locals,
      conflict.entityId = operation.entityId := by
  obtain ⟨outcome, inside, found⟩ := mem_filterMap.mp member
  obtain ⟨operation, isLocal, rfl⟩ := mem_map.mp inside
  cases result : rebaseOperation (relevantOperations locals remotes) operation with
  | ok rebased => rw [result] at found; cases found
  | error other =>
    rw [result] at found
    cases found
    obtain ⟨known, here⟩ := conflict_rebaseOperation result
    exact ⟨known, operation, isLocal, here⟩

theorem length_conflicts : (rebaseOperations locals remotes).conflicts.length =
      (locals.filter (collides locals remotes)).length := by
  unfold rebaseOperations
  simp only [filterMap_map, ← countP_eq_length_filter, length_filterMap_eq_countP]
  refine congrArg (fun test => countP test locals) (funext fun operation => ?_)
  unfold collides
  simp only [Function.comp]
  cases rebaseOperation (relevantOperations locals remotes) operation <;> rfl

theorem length_rebasedOperations_le :
    (rebaseOperations locals remotes).rebasedOperations.length ≤ locals.length := by
  unfold rebaseOperations
  exact (length_filterMap_le _ _).trans (length_map _).le

theorem entityIds_rebased (clean : (rebaseOperations locals remotes).conflicts = []) :
    (rebaseOperations locals remotes).rebasedOperations.map Operation.entityId =
      locals.map Operation.entityId := by
  have free : ∀ operation ∈ locals, ∃ result,
      rebaseOperation (relevantOperations locals remotes) operation = .ok result := by
    intro operation member
    cases result : rebaseOperation (relevantOperations locals remotes) operation with
    | ok rebased => exact ⟨rebased, rfl⟩
    | error conflict =>
      have inside : conflict ∈ (rebaseOperations locals remotes).conflicts :=
        mem_filterMap.mpr ⟨_, mem_map_of_mem member, by rw [result]⟩
      rw [clean] at inside
      cases inside
  unfold rebaseOperations
  simp only
  generalize relevantOperations locals remotes = relevant at free
  clear clean
  induction locals with
  | nil => rfl
  | cons operation rest induction =>
    obtain ⟨result, rebased⟩ := free operation mem_cons_self
    have tail := induction fun other member => free other (.tail _ member)
    rw [map_cons, filterMap_cons, rebased]
    simp only [Except.toOption, map_cons]
    rw [tail, entityId_rebaseOperation rebased]

end Rebased

/-- A change set that a client holds for a working set, by one of its handles. -/
structure Proposal where
  workingSetId : String
  handle : String
  changeSet : ChangeSet
  lookup : AuthorityLookup

open Proposal

namespace Proposal

variable (proposal : Proposal)

def preview : Call :=
  .rebase proposal.workingSetId proposal.handle (some proposal.changeSet.operations)
    proposal.changeSet.baselineHead { proposal.lookup with handle := proposal.handle }

def commit : Call :=
  .commitTurn (some ⟨proposal.workingSetId, proposal.handle, some proposal.changeSet⟩)
    { proposal.lookup with handle := proposal.handle }

def changedIds : List String := uniqueStrings (proposal.changeSet.operations.map Operation.entityId)

def intervening (set : WorkingSet) : List Operation :=
  if (proposal.changeSet.baselineHead : Int) < set.head then
    set.relevantInterveningOperations proposal.changedIds proposal.changeSet.baselineHead
  else []

def colliding (set : WorkingSet) : List Operation :=
  proposal.changeSet.operations.filter
    (collides proposal.changeSet.operations (proposal.intervening set))

structure PassesGuards (limits : Limits) (set : WorkingSet) : Prop where
  handle : set.entityIdForHandle proposal.handle ≠ ""
  entities : ∀ id ∈ proposal.changedIds, id ∈ set.entityIds
  facts : proposal.changedIds.length ≤ limits.maxResultFacts
  invalidations : proposal.changedIds.length ≤ limits.maxInvalidations
  ahead : proposal.changeSet.baselineHead ≤ set.head
  retained : set.earliestCausalHead ≤ proposal.changeSet.baselineHead

/-- The wire admits the invalidations of the changed entities. -/
def Announces (set : WorkingSet) : Prop :=
  proposal.changedIds.length ≤ maxInvalidations ∧
    ∀ id ∈ proposal.changedIds, resourceUri (resourceUriFor set.workingSetId id)

def refusedEntity (set : WorkingSet) : String :=
  orDefault (set.entityIdForHandle proposal.handle) "ent.denied"

end Proposal

section Agreement

variable (options : Options) (authority : Authority) (set : WorkingSet) (proposal : Proposal)

def Previews (operations : List Operation) : Prop :=
  ∃ response, (authority.perform options proposal.preview).2 = .rebased response ∧
    response.conflicts = [] ∧ response.rebasedOperations = operations

def PreviewsConflict : Prop :=
  ∃ response, (authority.perform options proposal.preview).2 = .rebased response ∧
    response.conflicts ≠ []

def Applies (operations : List Operation) : Prop :=
  ∃ acknowledgement next change,
    (authority.perform options proposal.commit).2 = .committed acknowledgement ∧
    (authority.perform options proposal.commit).1.workingSets set.workingSetId = some next ∧
    next.committed = change :: set.committed ∧ change.changeId = proposal.changeSet.changeId ∧
    change.operations = operations

def Refuses : Prop :=
  ∃ acknowledgement, (authority.perform options proposal.commit).2 =
    .acknowledged acknowledgement ∧ acknowledgement.conflicts ≠ []

structure PreviewAgrees : Prop where
  applied : ∀ operations, Previews options authority proposal operations ↔
    Applies options authority set proposal operations
  refused : PreviewsConflict options authority proposal ↔ Refuses options authority proposal

/-- The commit's own checks pass, or the operations collide anyway and both answers fit the wire. -/
def PreviewIsSound : Prop :=
  opaqueId set.workingSetId = false ∨ proposal.PassesGuards options.limits set ∧
      (proposal.colliding set ≠ [] ∨ proposal.Announces set) ∨
    ¬ proposal.PassesGuards options.limits set ∧ proposal.colliding set ≠ [] ∧
      ((proposal.colliding set).length ≤ maxConflicts ↔ opaqueId (proposal.refusedEntity set))

end Agreement

section Computation

variable {options : Options} {authority : Authority} {set : WorkingSet} {proposal : Proposal}

def Proposal.rebased (proposal : Proposal) (set : WorkingSet) : Rebased :=
  rebaseOperations proposal.changeSet.operations (proposal.intervening set)

theorem rebasedOperations_eq : set.rebasedOperations proposal.changeSet proposal.changedIds =
    proposal.rebased set := by
  unfold WorkingSet.rebasedOperations Proposal.rebased Proposal.intervening
  by_cases behind : proposal.changeSet.baselineHead < set.head
  · rw [if_pos behind, if_pos (Int.ofNat_lt.mpr behind)]
  · rw [if_neg behind, if_neg (fun lower => behind (Int.ofNat_lt.mp lower)), rebaseOperations_nil]

theorem conflicts_eq_nil_iff :
    (proposal.rebased set).conflicts = [] ↔ proposal.colliding set = [] := by
  rw [← length_eq_zero_iff, Proposal.rebased, length_conflicts, length_eq_zero_iff]
  rfl

end Computation

theorem mem_foldl_distinct (values found : List String) :
    value ∈ values.foldl (fun found value => if value ∈ found then found else found ++ [value])
        found ↔ value ∈ found ∨ value ∈ values := by
  induction values generalizing found with
  | nil => simp
  | cons head rest induction =>
    rw [foldl_cons, induction, mem_cons]
    split
    · rename_i present
      constructor
      · rintro (here | later)
        · exact .inl here
        · exact .inr (.inr later)
      · rintro (here | rfl | later)
        · exact .inl here
        · exact .inl present
        · exact .inr later
    · simp [or_assoc]

theorem nodup_foldl_distinct (values found : List String) (distinct : found.Nodup) :
    (values.foldl (fun found value => if value ∈ found then found else found ++ [value])
      found).Nodup := by
  induction values generalizing found with
  | nil => exact distinct
  | cons head rest induction =>
    rw [foldl_cons]
    split
    · exact induction found distinct
    · rename_i absent
      refine induction _ ?_
      rw [nodup_append]
      refine ⟨distinct, nodup_singleton head, ?_⟩
      rintro value member other here rfl
      exact absent (mem_singleton.mp here ▸ member)

theorem mem_uniqueStrings :
    value ∈ uniqueStrings values ↔ value ≠ "" ∧ ∃ given ∈ values, toText given = value := by
  unfold uniqueStrings
  rw [mem_foldl_distinct]
  simp only [not_mem_nil, false_or, mem_filter, mem_map, decide_eq_true_eq]
  exact and_comm

theorem nodup_uniqueStrings (values : List String) : (uniqueStrings values).Nodup :=
  nodup_foldl_distinct _ [] nodup_nil

theorem toText_ne_empty (opaque_ : opaqueId value) : toText value ≠ "" := by
  intro blank
  unfold opaqueId boundedText at opaque_
  rw [blank] at opaque_
  cases opaque_

/-- The entities of the operations are texts as the wire contract leaves them. -/
def ChangeSet.IsParsed (changeSet : ChangeSet) : Prop :=
  ∀ operation ∈ changeSet.operations, opaqueId operation.entityId ∧
    toText operation.entityId = operation.entityId

section Accepted

variable {set : WorkingSet} {proposal : Proposal} (parsed : proposal.changeSet.IsParsed)
include parsed

theorem ChangeSet.IsParsed.mem_changedIds (member : operation ∈ proposal.changeSet.operations) :
    operation.entityId ∈ proposal.changedIds := by
  obtain ⟨isOpaque, trimmed⟩ := parsed operation member
  exact mem_uniqueStrings.mpr ⟨trimmed ▸ toText_ne_empty isOpaque, operation.entityId,
    mem_map_of_mem member, trimmed⟩

theorem ChangeSet.IsParsed.opaque_changedIds : ∀ id ∈ proposal.changedIds, opaqueId id := by
  intro id member
  obtain ⟨_, given, isGiven, rfl⟩ := mem_uniqueStrings.mp member
  obtain ⟨operation, isOperation, rfl⟩ := mem_map.mp isGiven
  obtain ⟨isOpaque, trimmed⟩ := parsed operation isOperation
  rw [trimmed]
  exact isOpaque

theorem conflicts_accepted : (proposal.rebased set).conflicts.all
      (fun conflict => ConflictFact.isAccepted { conflict with head := set.head }) := by
  rw [all_eq_true]
  intro conflict member
  obtain ⟨known, operation, isOperation, here⟩ := mem_conflicts member
  unfold ConflictFact.isAccepted
  simp only [Bool.and_eq_true, contains_iff_mem]
  exact ⟨known, here ▸ (parsed operation isOperation).1⟩

theorem conflictAcknowledge_accepted :
    (set.conflictAcknowledge (proposal.rebased set).conflicts).isAccepted ↔
      opaqueId set.workingSetId ∧
        (proposal.colliding set).length ≤ maxConflicts := by
  have fits := @conflicts_accepted set _ parsed
  have count : (proposal.rebased set).conflicts.length = (proposal.colliding set).length :=
    length_conflicts
  unfold Acknowledge.isAccepted WorkingSet.conflictAcknowledge
  simp [all_map, count, Function.comp_def, fits]

omit parsed

theorem denyAcknowledge_accepted (known : code ∈ conflictCodes) :
    (set.conflictAcknowledge [⟨code, entityId, set.head⟩]).isAccepted ↔
      opaqueId set.workingSetId ∧ opaqueId entityId := by
  unfold Acknowledge.isAccepted WorkingSet.conflictAcknowledge ConflictFact.isAccepted
  simp [known, ServiceCollaborationLimits.maxConflicts]

include parsed in
theorem appliedAcknowledge_accepted (assignedHead : Nat) :
    (set.appliedAcknowledge assignedHead proposal.changedIds).isAccepted ↔
      opaqueId set.workingSetId ∧ proposal.Announces set := by
  have opaques := parsed.opaque_changedIds
  unfold Acknowledge.isAccepted WorkingSet.appliedAcknowledge Proposal.Announces
  simp only [Bool.and_eq_true, all_eq_true, decide_eq_true_eq, length_map,
    length_nil, mem_map, forall_exists_index, and_imp, forall_apply_eq_imp_iff₂,
    not_mem_nil, false_imp_iff, implies_true, and_true, and_assoc]
  have distinct := nodup_uniqueStrings (proposal.changeSet.operations.map Operation.entityId)
  constructor
  · rintro ⟨isOpaque, _, _, _, _, _, _, few, uris⟩
    exact ⟨isOpaque, few, uris⟩
  · rintro ⟨isOpaque, few, uris⟩
    have bound : maxInvalidations = 16 := rfl
    have entities : maxEntitiesPerWorkingSet = 256 := rfl
    have facts : maxResultFacts = 32 := rfl
    exact ⟨isOpaque, by omega, opaques, distinct, by omega, opaques, Nat.zero_le _, few, uris⟩

end Accepted

section Answers

variable {options : Options} {authority : Authority} {set : WorkingSet} {proposal : Proposal}

structure Proposal.IsFresh (proposal : Proposal) (options : Options) (authority : Authority)
    (set : WorkingSet) : Prop where
  opened : authority.workingSets proposal.workingSetId = some set
  authorized : options.resolveAuthorization { proposal.lookup with handle := proposal.handle }
    set.auth = some .ok
  fresh : set.changeResults proposal.changeSet.changeId = none
  parsed : proposal.changeSet.IsParsed

def previewResponse (authority : Authority) (set : WorkingSet) (proposal : Proposal) :
    RebaseResponse :=
  ⟨set.workingSetId, set.head,
    if (proposal.rebased set).conflicts = [] then (proposal.rebased set).rebasedOperations else [],
    (proposal.rebased set).conflicts.map fun conflict => { conflict with head := set.head },
    ⟨.minted (authority.cursorSeq + 1), set.head, .valid⟩⟩

variable (isFresh : proposal.IsFresh options authority set)
include isFresh

theorem preview_eq : (authority.perform options proposal.preview).2 =
      if (previewResponse authority set proposal).isAccepted then
        .rebased (previewResponse authority set proposal) else .threw := by
  unfold Proposal.preview Authority.perform Authority.withWorkingSet Authority.rebase
  simp only [isFresh.opened, isFresh.authorized]
  rfl

theorem previewResponse_accepted :
    (previewResponse authority set proposal).isAccepted ↔ opaqueId set.workingSetId ∧
      (proposal.colliding set).length ≤ maxConflicts := by
  have fits := @conflicts_accepted set _ isFresh.parsed
  have count : (proposal.rebased set).conflicts.length = (proposal.colliding set).length :=
    length_conflicts
  have few : (if (proposal.rebased set).conflicts = [] then
      (proposal.rebased set).rebasedOperations else []).length ≤
        maxOperationsPerChangeSet := by
    split
    · exact length_rebasedOperations_le.trans proposal.changeSet.bounded
    · exact Nat.zero_le _
  unfold RebaseResponse.isAccepted previewResponse
  simp [all_map, count, Function.comp_def, fits, few]

theorem previews_iff (operations : List Operation) :
    Previews options authority proposal operations ↔ opaqueId set.workingSetId ∧
      proposal.colliding set = [] ∧ (proposal.rebased set).rebasedOperations = operations := by
  unfold Previews
  rw [preview_eq isFresh]
  constructor
  · rintro ⟨response, answered, clean, same⟩
    split at answered
    · rename_i accepted
      cases answered
      have clean := map_eq_nil_iff.mp clean
      refine ⟨((previewResponse_accepted isFresh).mp accepted).1, conflicts_eq_nil_iff.mp clean, ?_⟩
      rw [← same]
      exact (if_pos clean).symm
    · cases answered
  · rintro ⟨isOpaque, clean, same⟩
    have conflicts := conflicts_eq_nil_iff.mpr clean
    refine ⟨_, if_pos ((previewResponse_accepted isFresh).mpr ⟨isOpaque, ?_⟩),
      by rw [previewResponse, conflicts, map_nil], ?_⟩
    · rw [clean]
      exact Nat.zero_le _
    · rw [← same]
      exact if_pos conflicts

theorem previewsConflict_iff : PreviewsConflict options authority proposal ↔
      opaqueId set.workingSetId ∧ proposal.colliding set ≠ [] ∧
      (proposal.colliding set).length ≤ maxConflicts := by
  unfold PreviewsConflict
  rw [preview_eq isFresh]
  constructor
  · rintro ⟨response, answered, conflicts⟩
    split at answered
    · rename_i accepted
      cases answered
      obtain ⟨isOpaque, few⟩ := (previewResponse_accepted isFresh).mp accepted
      exact ⟨isOpaque, fun clean => conflicts (map_eq_nil_iff.mpr
        (conflicts_eq_nil_iff.mpr clean)), few⟩
    · cases answered
  · rintro ⟨isOpaque, colliding, few⟩
    exact ⟨_, if_pos ((previewResponse_accepted isFresh).mpr ⟨isOpaque, few⟩),
      fun clean => colliding (conflicts_eq_nil_iff.mp (map_eq_nil_iff.mp clean))⟩

theorem commit_cases (cursorSeq snapshotSeq : Nat) :
    let outcome := set.commit options cursorSeq snapshotSeq
      ⟨proposal.workingSetId, proposal.handle, some proposal.changeSet⟩
      { proposal.lookup with handle := proposal.handle }
    (¬ proposal.PassesGuards options.limits set ∧ ∃ code ∈ conflictCodes, outcome =
      .answer (set.conflictAcknowledge [⟨code, proposal.refusedEntity set, set.head⟩])) ∨
    (proposal.PassesGuards options.limits set ∧ proposal.colliding set ≠ [] ∧
      outcome = .answer (set.conflictAcknowledge (proposal.rebased set).conflicts)) ∨
    (proposal.PassesGuards options.limits set ∧ proposal.colliding set = [] ∧
      outcome = .committed (committedSet set options.limits cursorSeq snapshotSeq
          proposal.changeSet.changeId (proposal.rebased set).rebasedOperations)
        (set.appliedAcknowledge (set.head + 1) proposal.changedIds)) := by
  intro outcome
  have unfolded : outcome = if set.entityIdForHandle proposal.handle = "" then
      set.denyAcknowledge "conflict.authorization_changed" "ent.denied"
      else set.commitChangeSet options.limits cursorSeq snapshotSeq
        (set.entityIdForHandle proposal.handle) proposal.changeSet := by
    show set.commit options cursorSeq snapshotSeq _ _ = _
    unfold WorkingSet.commit
    simp only [isFresh.authorized]
  rw [unfolded]
  split
  · rename_i unknown
    refine .inl ⟨fun guards => guards.handle unknown, "conflict.authorization_changed",
      by simp [conflictCodes], ?_⟩
    simp [denyAcknowledge, refusedEntity, unknown, orDefault]
  · rename_i known
    have entity : set.entityIdForHandle proposal.handle = proposal.refusedEntity set := by
      unfold refusedEntity orDefault
      rw [if_neg known]
    unfold commitChangeSet
    simp only [isFresh.fresh]
    rw [show uniqueStrings (proposal.changeSet.operations.map Operation.entityId) =
      proposal.changedIds from rfl, rebasedOperations_eq, entity]
    have refused : ∀ code ∈ conflictCodes, ¬ proposal.PassesGuards options.limits set →
        (¬ proposal.PassesGuards options.limits set ∧ ∃ other ∈ conflictCodes,
          set.denyAcknowledge code (proposal.refusedEntity set) =
            .answer (set.conflictAcknowledge [⟨other, proposal.refusedEntity set, set.head⟩])) :=
      fun code isCode fails => ⟨fails, code, isCode, rfl⟩
    split
    · rename_i foreign
      refine .inl (refused _ (by simp [conflictCodes]) fun guards => ?_)
      obtain ⟨id, member, outside⟩ := any_eq_true.mp foreign
      exact of_decide_eq_true outside (guards.entities id member)
    rename_i inside
    split
    · rename_i lapsed
      refine .inl (refused _ (by simp [conflictCodes]) fun guards => ?_)
      have facts := guards.facts
      have invalidations := guards.invalidations
      omega
    rename_i few
    split
    · rename_i ahead
      exact .inl (refused _ (by simp [conflictCodes]) fun guards =>
        absurd guards.ahead (Nat.not_le_of_lt ahead))
    rename_i behind
    split
    · rename_i old
      exact .inl (refused _ (by simp [conflictCodes]) fun guards =>
        absurd guards.retained (Nat.not_le_of_lt old))
    rename_i retained
    have members : ∀ id ∈ proposal.changedIds, id ∈ set.entityIds := by
      intro id member
      by_contra outside
      exact inside (any_eq_true.mpr ⟨id, member, decide_eq_true outside⟩)
    have guards : proposal.PassesGuards options.limits set :=
      ⟨known, members, by omega, by omega, by omega, by omega⟩
    split
    · rename_i conflicts
      exact .inr (.inl ⟨guards, fun clean => conflicts (conflicts_eq_nil_iff.mpr clean), rfl⟩)
    rename_i conflicts
    have clean := not_not.mp conflicts
    have entityIds : (proposal.rebased set).rebasedOperations.map Operation.entityId =
        proposal.changeSet.operations.map Operation.entityId := entityIds_rebased clean
    have applied : set.applyOperations (proposal.rebased set).rebasedOperations (set.head + 1) =
        .ok (set.appendOperations (proposal.rebased set).rebasedOperations (set.head + 1)) := by
      unfold applyOperations
      rw [find?_eq_none.mpr]
      intro operation member
      have here : operation.entityId ∈ proposal.changeSet.operations.map Operation.entityId :=
        entityIds ▸ mem_map_of_mem member
      obtain ⟨given, isGiven, same⟩ := mem_map.mp here
      simp only [decide_eq_true_eq, not_not]
      rw [← same]
      exact members _ (isFresh.parsed.mem_changedIds isGiven)
    refine .inr (.inr ⟨guards, conflicts_eq_nil_iff.mp clean, ?_⟩)
    rw [applied]
    unfold committedSet advanceHead changedIds
    rw [entityIds]

theorem commit_eq : authority.perform options proposal.commit = authority.commitTurn options
        ⟨proposal.workingSetId, proposal.handle, some proposal.changeSet⟩
        { proposal.lookup with handle := proposal.handle } set := by
  unfold Proposal.commit Authority.perform Authority.withWorkingSet
  simp only [isFresh.opened]

omit isFresh

theorem committed_committedSet :
    (committedSet set limits cursorSeq snapshotSeq changeId operations).committed =
      newChange set changeId operations :: set.committed := by
  have changes := @changes_committedSet set limits cursorSeq snapshotSeq changeId operations
  unfold WorkingSet.changes at changes
  rw [← reverse_cons] at changes
  exact reverse_injective changes

variable {request : CommitRequest} {lookup : AuthorityLookup}

theorem commitTurn_of_answer
    (answers : set.commit options (authority.cursorSeq + 1) (authority.snapshotSeq + 1) request
      lookup = .answer acknowledgement) : (authority.commitTurn options request lookup set).2 =
      if acknowledgement.isAccepted then .acknowledged acknowledgement else .threw := by
  unfold Authority.commitTurn
  rw [answers]
  by_cases accepted : acknowledgement.isAccepted = true
  · rw [CommitOutcome.answer, if_pos accepted, if_pos accepted]
  · rw [CommitOutcome.answer, if_neg accepted, if_neg accepted]

theorem commitTurn_of_committed
    (commits : set.commit options (authority.cursorSeq + 1) (authority.snapshotSeq + 1) request
      lookup = .committed advanced acknowledgement) :
    authority.commitTurn options request lookup set =
      if acknowledgement.isAccepted then
        (authority.skipCursor.skipSnapshot.setWorkingSet advanced.workingSetId (some advanced),
          .committed acknowledgement)
      else (authority.skipCursor.skipSnapshot, .threw) := by
  unfold Authority.commitTurn
  rw [commits]

theorem refused_iff {answer : Answer}
    (answers : answer = if acknowledgement.isAccepted then .acknowledged acknowledgement else .threw)
    (conflicts : acknowledgement.conflicts ≠ []) :
    ((∃ given, answer = .acknowledged given ∧ given.conflicts ≠ []) ↔
      acknowledgement.isAccepted) ∧ ∀ given, answer ≠ .committed given := by
  rw [answers]
  by_cases accepted : acknowledgement.isAccepted = true
  · rw [if_pos accepted]
    exact ⟨⟨fun _ => accepted, fun _ => ⟨_, rfl, conflicts⟩⟩, fun _ => Answer.noConfusion⟩
  · rw [if_neg accepted]
    refine ⟨⟨fun ⟨_, threw, _⟩ => Answer.noConfusion threw, fun given => absurd given accepted⟩,
      fun _ => Answer.noConfusion⟩

include isFresh in
theorem commit_answers : (Refuses options authority proposal ↔ opaqueId set.workingSetId ∧
      (¬ proposal.PassesGuards options.limits set ∧ opaqueId (proposal.refusedEntity set) ∨
        proposal.PassesGuards options.limits set ∧ proposal.colliding set ≠ [] ∧
          (proposal.colliding set).length ≤ ServiceCollaborationLimits.maxConflicts)) ∧
    ∀ operations, Applies options authority set proposal operations ↔
      opaqueId set.workingSetId ∧ proposal.PassesGuards options.limits set ∧
        proposal.colliding set = [] ∧ proposal.Announces set ∧
        (proposal.rebased set).rebasedOperations = operations := by
  unfold Refuses Applies
  rw [commit_eq isFresh]
  rcases commit_cases isFresh (authority.cursorSeq + 1) (authority.snapshotSeq + 1) with
    ⟨fails, code, isCode, outcome⟩ | ⟨guards, colliding, outcome⟩ | ⟨guards, clean, outcome⟩
  · obtain ⟨refused, unapplied⟩ := refused_iff (commitTurn_of_answer outcome)
      (cons_ne_nil _ _)
    rw [refused, denyAcknowledge_accepted isCode]
    simp only [fails, not_false_eq_true, true_and, false_and, or_false, and_false, iff_false]
    exact fun _ ⟨_, _, _, answered, _⟩ => unapplied _ answered
  · have conflicts : (set.conflictAcknowledge (proposal.rebased set).conflicts).conflicts ≠ [] :=
      fun none => colliding (conflicts_eq_nil_iff.mp (map_eq_nil_iff.mp none))
    obtain ⟨refused, unapplied⟩ := refused_iff (commitTurn_of_answer outcome) conflicts
    rw [refused, conflictAcknowledge_accepted isFresh.parsed]
    simp only [guards, colliding, not_true_eq_false, true_and, false_and, false_or, ne_eq,
      not_false_eq_true, and_false, iff_false]
    exact fun _ ⟨_, _, _, answered, _⟩ => unapplied _ answered
  · have accepted_iff := @appliedAcknowledge_accepted set _ isFresh.parsed (set.head + 1)
    rw [commitTurn_of_committed outcome]
    simp only [guards, clean, not_true_eq_false, true_and, false_and, or_false, ne_eq, and_false,
      iff_false]
    by_cases accepted : (set.appliedAcknowledge (set.head + 1)
        proposal.changedIds).isAccepted = true
    · obtain ⟨isOpaque, announces⟩ := accepted_iff.mp accepted
      rw [if_pos accepted]
      refine ⟨fun ⟨_, answered, _⟩ => Answer.noConfusion answered, fun operations => ?_⟩
      constructor
      · rintro ⟨_, next, change, _, found, committed, _, same⟩
        have here : next = committedSet set options.limits (authority.cursorSeq + 1)
            (authority.snapshotSeq + 1) proposal.changeSet.changeId
            (proposal.rebased set).rebasedOperations := by
          rw [workingSetId_committedSet] at found
          simpa [Authority.setWorkingSet] using found.symm
        rw [here, committed_committedSet] at committed
        obtain ⟨rfl, _⟩ := cons.inj committed
        exact ⟨isOpaque, announces, same⟩
      · rintro ⟨_, _, rfl⟩
        refine ⟨_, committedSet set options.limits (authority.cursorSeq + 1)
          (authority.snapshotSeq + 1) proposal.changeSet.changeId
          (proposal.rebased set).rebasedOperations, _, rfl, ?_, committed_committedSet, rfl, rfl⟩
        rw [workingSetId_committedSet]
        simp [Authority.setWorkingSet]
    · rw [if_neg accepted]
      refine ⟨fun ⟨_, answered, _⟩ => Answer.noConfusion answered, fun operations => ?_⟩
      constructor
      · rintro ⟨_, _, _, answered, _⟩
        exact Answer.noConfusion answered
      · rintro ⟨isOpaque, announces, _⟩
        exact absurd (accepted_iff.mpr ⟨isOpaque, announces⟩) accepted

end Answers

theorem preview_agrees_iff (options : Options) (calls : List Call) (proposal : Proposal)
    {set : WorkingSet} (isFresh : proposal.IsFresh options (run options calls) set) :
    PreviewAgrees options (run options calls) set proposal ↔
      PreviewIsSound options set proposal := by
  obtain ⟨refuses, applies⟩ := commit_answers isFresh
  have previews := previews_iff isFresh
  have conflicts := previewsConflict_iff isFresh
  unfold PreviewIsSound
  constructor
  · rintro ⟨applied, refused⟩
    have applied := applied (proposal.rebased set).rebasedOperations
    rw [previews, applies] at applied
    rw [conflicts, refuses] at refused
    by_cases isOpaque : opaqueId set.workingSetId = true
    · by_cases guards : proposal.PassesGuards options.limits set
      · by_cases clean : proposal.colliding set = []
        · simp only [isOpaque, guards, clean, true_and, and_true, true_iff] at applied
          exact .inr (.inl ⟨guards, .inr applied⟩)
        · exact .inr (.inl ⟨guards, .inl clean⟩)
      · by_cases clean : proposal.colliding set = []
        · simp [isOpaque, guards, clean] at applied
        · simp only [isOpaque, guards, clean, true_and, false_and, or_false, ne_eq,
            not_false_eq_true] at refused
          exact .inr (.inr ⟨guards, clean, refused⟩)
    · exact .inl (by simpa using isOpaque)
  · intro sound
    constructor
    · intro operations
      rw [previews, applies]
      rcases sound with unfit | ⟨guards, either⟩ | ⟨fails, colliding, _⟩
      · simp [unfit]
      · rcases either with colliding | announces
        · simp [colliding]
        · simp [guards, announces]
      · simp [colliding]
    · rw [conflicts, refuses]
      rcases sound with unfit | ⟨guards, _⟩ | ⟨fails, colliding, fits⟩
      · simp [unfit]
      · simp [guards]
      · simp [fails, colliding, fits]

def sampleProposal (baselineHead : Nat) : Proposal where
  workingSetId := "ws.ccs.1"
  handle := "hdl_ccs_1"
  changeSet := { insertChange "chg.ccs.1" with baselineHead }
  lookup := {}

theorem sampleProposal_isFresh (baselineHead : Nat) :
    ∃ set, (sampleProposal baselineHead).IsFresh defaultOptions
      (run defaultOptions [.open documentInput]) set := by
  have found : ((run defaultOptions [.open documentInput]).workingSets "ws.ccs.1").any
      (fun set => decide (defaultOptions.resolveAuthorization { handle := "hdl_ccs_1" } set.auth =
        some .ok) && (set.changeResults "chg.ccs.1").isNone) := by
    decide +kernel
  obtain ⟨set, opened, holds⟩ := (Option.any_eq_true _ _).mp found
  obtain ⟨authorized, fresh⟩ := Bool.and_eq_true_iff.mp holds
  refine ⟨set, opened, of_decide_eq_true authorized, Option.isNone_iff_eq_none.mp fresh, ?_⟩
  intro operation member
  cases mem_singleton.mp member
  exact ⟨by decide +kernel, by decide +kernel⟩

theorem preview_agrees_iff_opened :
    ∃ set, PreviewAgrees defaultOptions (run defaultOptions [.open documentInput]) set
        (sampleProposal 0) ↔
      PreviewIsSound defaultOptions set (sampleProposal 0) := by
  obtain ⟨set, isFresh⟩ := sampleProposal_isFresh 0
  exact ⟨set, preview_agrees_iff defaultOptions [.open documentInput] (sampleProposal 0) isFresh⟩

/-- A baseline ahead of the head is previewed as rebased, and its commit is refused. -/
theorem preview_disagrees_ahead :
    ¬∀ options calls set proposal, IsFresh proposal options (run options calls) set →
      PreviewAgrees options (run options calls) set proposal := by
  intro agrees
  obtain ⟨set, isFresh⟩ := sampleProposal_isFresh 5
  obtain ⟨response, answered, conflicts⟩ := (agrees _ _ _ _ isFresh).refused.mpr (by
    have refused : (match ((run defaultOptions [.open documentInput]).perform defaultOptions
        (sampleProposal 5).commit).2 with
        | .acknowledged acknowledgement => !acknowledgement.conflicts.isEmpty
        | _ => false) = true := by
      decide +kernel
    split at refused
    · rename_i acknowledgement answer
      exact ⟨acknowledgement, answer, by simpa using refused⟩
    · cases refused)
  have rebased : (match ((run defaultOptions [.open documentInput]).perform defaultOptions
      (sampleProposal 5).preview).2 with
      | .rebased response => response.conflicts.isEmpty
      | _ => false) = true := by
    decide +kernel
  rw [answered] at rebased
  exact conflicts (isEmpty_iff.mp rebased)

end LicoMesh.CoreChangeSets
