import LicoMesh.CoreChangeSets.Rebasing

namespace LicoMesh.CoreChangeSets

open Library List

/-! What a rebase answers: each local operation at the place of its gap or element, and conflicts
only for a reason. -/

variable {current other : Operation} {length : Nat}

/-- Whether a conflict may be reported: the element of the operation was deleted, both sides
updated it, or an element next to its gap was deleted. -/
def ExcusesConflict (document : Document) (remotes : List Operation) (operation : Operation) :
    Prop :=
  match operation.type with
  | .insert => ∃ earlier remote later, remotes = earlier ++ remote :: later ∧
      remote.edit.Touches (runAll gapAfter operation.index earlier)
  | .update => some operation.index ∉ runAll .edit document remotes ∨
      ∃ earlier remote later, remotes = earlier ++ remote :: later ∧ remote.type = .update ∧
        (runAll .edit document earlier)[remote.index]? = some (some operation.index)
  | _ => some operation.index ∉ runAll .edit document remotes

/-- The local operation is answered at the place its gap or element has after the remote ones, or
with a conflict that has an excuse. -/
structure Follows (document : Document) (remotes : List Operation) (operation : Operation)
    (result : Rebased) : Prop where
  answered : (∃ answer, result = ⟨[answer], []⟩) ∨ ∃ conflict, result = ⟨[], [conflict]⟩
  insert : operation.type = .insert → ∀ answer ∈ result.rebasedOperations,
    answer = { operation with index := answer.index } ∧
      Divides none (fun item => ∃ place, item = some place ∧ place < operation.index)
        (runAll Document.edit document remotes) answer.index
  present : operation.type ≠ .insert → some operation.index ∈ runAll .edit document remotes →
    ∀ answer ∈ result.rebasedOperations, answer = { operation with index := answer.index } ∧
      (runAll .edit document remotes)[answer.index]? = some (some operation.index)
  absent : operation.type ≠ .insert → operation.type ≠ .delete →
    some operation.index ∉ runAll .edit document remotes → result.rebasedOperations = []
  deleted : operation.type = .delete → some operation.index ∉ runAll .edit document remotes →
    ∃ index, result = ⟨[{ operation with type := .retain, index }], []⟩
  conflict : result.conflicts ≠ [] → ExcusesConflict document remotes operation

def Unhindered (remotes : List Operation) (operation : Operation) : Prop :=
  EachCommand anchorAfter (fun anchor remote => ¬ Hinders operation.type anchor remote)
    operation.anchor remotes

section Answers

variable {document : Document} {remotes : List Operation} {operation : Operation}

theorem stays_iff : (runAll anchorAfter (.element position) remotes).isElement = false ↔
      ∃ earlier remote later place, remotes = earlier ++ remote :: later ∧
        runAll anchorAfter (.element position) earlier = .element place ∧
        remote.type = .delete ∧ remote.index = place := by
  induction remotes generalizing position with
  | nil => simp [Anchor.isElement]
  | cons first rest induction =>
    rw [runAll_cons, anchorAfter_element]
    by_cases here : first.type = .delete ∧ first.index = position
    · rw [if_pos here, runAll_after_gap]
      exact ⟨fun _ => ⟨[], first, rest, position, rfl, rfl, here⟩, fun _ => rfl⟩
    · rw [if_neg here, induction]
      constructor
      · rintro ⟨earlier, remote, later, place, rfl, stands, removes⟩
        refine ⟨first :: earlier, remote, later, place, rfl, ?_, removes⟩
        rw [runAll_cons, anchorAfter_element, if_neg here]
        exact stands
      · rintro ⟨earlier, remote, later, place, same, stands, removes⟩
        cases earlier with
        | nil =>
          obtain ⟨rfl, rfl⟩ := cons.inj same
          cases stands
          exact absurd removes here
        | cons other earlier =>
          obtain ⟨rfl, rfl⟩ := cons.inj same
          rw [runAll_cons, anchorAfter_element, if_neg here] at stands
          exact ⟨earlier, remote, later, place, rfl, stands, removes⟩

theorem excusesConflict_insert (kind : operation.type = .insert) :
    ExcusesConflict document remotes operation ↔
      ¬ EachCommand anchorAfter (fun anchor remote => ¬ ExcusedAt operation.type anchor remote)
        operation.anchor remotes := by
  have anchor : operation.anchor = .gap operation.index := by
    unfold Operation.anchor
    rw [kind]
  rw [not_eachCommand_iff, anchor]
  unfold ExcusesConflict
  rw [kind]
  simp only [runAll_after_gap, ExcusedAt, not_not, true_and]

theorem excusesConflict_element (kind : operation.type = .update ∨ operation.type = .retain)
    (marks : operation.anchor.Marks document (some operation.index)) :
    ExcusesConflict document remotes operation ↔
      ¬ EachCommand anchorAfter (fun anchor remote => ¬ ExcusedAt operation.type anchor remote)
        operation.anchor remotes := by
  have anchor : operation.anchor = .element operation.index := by
    unfold Operation.anchor
    rcases kind with kind | kind <;> rw [kind]
  have excuses : ExcusesConflict document remotes operation ↔
      some operation.index ∉ runAll .edit document remotes ∨
      ∃ earlier remote later, remotes = earlier ++ remote :: later ∧
        operation.type = .update ∧ remote.type = .update ∧
        (runAll .edit document earlier)[remote.index]? = some (some operation.index) := by
    unfold ExcusesConflict
    rcases kind with kind | kind <;> rw [kind] <;> simp
  have undeleted : operation.type ≠ .delete := by
    rcases kind with kind | kind <;> rw [kind] <;> decide
  rw [excuses, (runAll_marks marks).gone_iff, not_eachCommand_iff, anchor, stays_iff]
  rw [anchor] at marks
  constructor
  · rintro (⟨earlier, remote, later, place, same, stands, removes, here⟩ |
      ⟨earlier, remote, later, same, updates, both, found⟩)
    · refine ⟨earlier, remote, later, same, not_not.mpr ?_⟩
      rw [stands]
      exact .inl ⟨undeleted, removes, here⟩
    · refine ⟨earlier, remote, later, same, not_not.mpr ?_⟩
      have stands := @runAll_marks document earlier _ _ marks
      cases final : runAll anchorAfter (.element operation.index) earlier with
      | gap position =>
        rw [final] at stands
        exact absurd (mem_of_getElem? found) stands
      | element position =>
        rw [final] at stands
        exact .inr ⟨updates, both, (stands remote.index).mp found⟩
  · rintro ⟨earlier, remote, later, same, excused⟩
    have excused := not_not.mp excused
    have stands := @runAll_marks document earlier _ _ marks
    cases final : runAll anchorAfter (.element operation.index) earlier with
    | gap position =>
      rw [final] at excused
      rcases kind with kind | kind <;> rw [kind] at excused <;> cases excused.1
    | element position =>
      rw [final] at excused stands
      rcases excused with ⟨_, removes, here⟩ | ⟨updates, both, here⟩
      · exact .inl ⟨earlier, remote, later, position, same, final, removes, here⟩
      · exact .inr ⟨earlier, remote, later, same, updates, both, (stands remote.index).mpr here⟩

structure Operation.IsLocalTo (operation : Operation) (length : Nat) : Prop where
  static : operation.type ≠ .move
  small : operation.index ≤ maxSafeInteger
  inside : if operation.type = .insert then operation.index ≤ length
    else operation.index < length

theorem anchor_of_ne (kind : operation.type ≠ .insert) :
    operation.anchor = .element operation.index := by
  unfold Operation.anchor
  revert kind
  cases operation.type <;> simp

theorem position_anchor : operation.anchor.position = operation.index := by
  unfold Operation.anchor
  cases operation.type <;> rfl

theorem standing_anchor : operation.standing operation.anchor = operation := by
  by_cases kind : operation.type = .insert
  · simp [Operation.standing, kind, position_anchor]
    rw [← kind]
  · simp [Operation.standing, anchor_of_ne kind, Anchor.isElement, Anchor.position]

theorem standing_eq (kept : operation.type ≠ .delete ∨ anchor.isElement) :
    operation.standing anchor = { operation with index := anchor.position } := by
  unfold Operation.standing
  rw [if_neg]
  rintro ⟨deletes, gone⟩
  rcases kept with other | stays
  · exact other deletes
  · rw [gone] at stays
    cases stays

theorem suits_anchor (static : operation.type ≠ .move) : operation.type.Suits operation.anchor := by
  unfold Operation.anchor
  revert static
  cases operation.type <;> simp [OperationType.Suits, Anchor.isElement]

def answerOf (outcome : Except ConflictFact Operation) : Rebased :=
  match outcome with
  | .ok answer => ⟨[answer], []⟩
  | .error conflict => ⟨[], [conflict]⟩

variable (isLocal : operation.IsLocalTo length)
include isLocal

theorem marks_of_isLocalTo (kind : operation.type ≠ .insert) :
    operation.anchor.Marks (baselineDocument length) (some operation.index) := by
  rw [anchor_of_ne kind]
  have inside := isLocal.inside
  rw [if_neg kind] at inside
  exact baselineDocument_marks inside

theorem excusesConflict_iff (kept : operation.type ≠ .delete) :
    ExcusesConflict (baselineDocument length) remotes operation ↔
      ¬ EachCommand anchorAfter (fun anchor remote => ¬ ExcusedAt operation.type anchor remote)
        operation.anchor remotes := by
  cases kind : operation.type with
  | insert => rw [← kind]; exact excusesConflict_insert kind
  | update =>
    rw [← kind]
    exact excusesConflict_element (.inl kind) (marks_of_isLocalTo isLocal (by rw [kind]; decide))
  | retain =>
    rw [← kind]
    exact excusesConflict_element (.inr kind) (marks_of_isLocalTo isLocal (by rw [kind]; decide))
  | delete => exact absurd kind kept
  | move => exact absurd kind isLocal.static

omit isLocal

theorem never_excused (deletes : operation.type = .delete) :
    EachCommand anchorAfter (fun anchor remote => ¬ ExcusedAt operation.type anchor remote)
      anchor remotes := by
  induction remotes generalizing anchor with
  | nil => trivial
  | cons remote rest induction =>
    refine ⟨?_, induction⟩
    cases anchor <;> simp [ExcusedAt, deletes]

include isLocal

theorem follows_standing (free : Unstopped operation.type operation.anchor remotes) :
    Follows (baselineDocument length) remotes operation
      (answerOf (.ok (operation.standing (runAll anchorAfter operation.anchor remotes)))) where
  answered := .inl ⟨_, rfl⟩
  insert kind answer member := by
    cases mem_singleton.mp member
    have anchor : operation.anchor = .gap operation.index := by
      unfold Operation.anchor
      rw [kind]
    have inside := isLocal.inside
    rw [if_pos kind] at inside
    rw [standing_eq (.inl (by rw [kind]; decide)), anchor, runAll_after_gap]
    exact ⟨rfl, runAll_divides (baselineDocument_divides inside)⟩
  present kind present answer member := by
    cases mem_singleton.mp member
    have marks := @runAll_marks _ remotes _ _ (marks_of_isLocalTo isLocal kind)
    have stays : (runAll anchorAfter operation.anchor remotes).isElement := by
      by_contra gone
      exact marks.gone_iff.mpr (by simpa using gone) present
    rw [standing_eq (.inr stays)]
    refine ⟨rfl, ?_⟩
    cases final : runAll anchorAfter operation.anchor remotes with
    | gap position => rw [final] at stays; cases stays
    | element position =>
      rw [final] at marks
      exact (marks position).mpr rfl
  absent kind kept gone := by
    have excuses : ExcusesConflict (baselineDocument length) remotes operation := by
      unfold ExcusesConflict
      split
      · contradiction
      · exact .inl gone
      · exact gone
    exact absurd (eachCommand_and_iff.mp free).1 ((excusesConflict_iff isLocal kept).mp excuses)
  deleted deletes gone := by
    have marks := @runAll_marks _ remotes _ _
      (marks_of_isLocalTo isLocal (by rw [deletes]; decide))
    refine ⟨(runAll anchorAfter operation.anchor remotes).position, ?_⟩
    unfold Operation.standing
    rw [if_pos ⟨deletes, marks.gone_iff.mp gone⟩]
    rfl
  conflict reported := absurd rfl reported

theorem follows_iff (same : ∀ remote ∈ remotes, operation.entityId = remote.entityId)
    (static : ∀ remote ∈ remotes, remote.type ≠ .move) :
    Follows (baselineDocument length) remotes operation
        (answerOf (rebaseOperation remotes operation)) ↔
      Unhindered remotes operation ∨ operation.type ≠ .delete ∧
        ExcusesConflict (baselineDocument length) remotes operation := by
  obtain ⟨runs, stops⟩ := rebaseOperation_standing same static (suits_anchor isLocal.static)
    (by rw [position_anchor]; exact isLocal.small)
  rw [standing_anchor] at runs stops
  by_cases free : Unstopped operation.type operation.anchor remotes
  · rw [runs free]
    exact ⟨fun _ => .inl (eachCommand_and_iff.mp free).2, fun _ => follows_standing isLocal free⟩
  · obtain ⟨conflict, failed⟩ := stops free
    rw [failed]
    have stopped : ¬ (EachCommand anchorAfter
        (fun anchor remote => ¬ ExcusedAt operation.type anchor remote) operation.anchor remotes ∧
        Unhindered remotes operation) := fun both => free (eachCommand_and_iff.mpr both)
    by_cases deletes : operation.type = .delete
    · constructor
      · intro follows
        have excuse := follows.conflict (cons_ne_nil _ _)
        have gone : some operation.index ∉
            runAll .edit (baselineDocument length) remotes := by
          unfold ExcusesConflict at excuse
          rw [deletes] at excuse
          exact excuse
        obtain ⟨index, returned⟩ := follows.deleted deletes gone
        cases returned
      · rintro (unhindered | ⟨kept, _⟩)
        · exact absurd ⟨never_excused deletes, unhindered⟩ stopped
        · exact absurd deletes kept
    · constructor
      · exact fun follows => .inr ⟨deletes, follows.conflict (cons_ne_nil _ _)⟩
      · intro condition
        have excuse : ExcusesConflict (baselineDocument length) remotes operation := by
          rcases condition with unhindered | ⟨_, excuse⟩
          · exact (excusesConflict_iff isLocal deletes).mpr fun each => stopped ⟨each, unhindered⟩
          · exact excuse
        exact
          { answered := .inr ⟨conflict, rfl⟩
            insert := fun _ _ member => absurd member not_mem_nil
            present := fun _ _ _ member => absurd member not_mem_nil
            absent := fun _ _ _ => rfl
            deleted := fun kind => absurd kind deletes
            conflict := fun _ => excuse }

end Answers

section Lists

variable {locals remotes : List Operation} {operation : Operation}

theorem entityId_transform (transformed : transformRelevantOperation current other = .ok result) :
    result.entityId = current.entityId := by
  unfold transformRelevantOperation at transformed
  simp only at transformed
  split_ifs at transformed <;> cases transformed <;> rfl

theorem transform_other (different : current.entityId ≠ other.entityId) :
    transformRelevantOperation current other = .ok current := by
  exact if_pos different

theorem rebaseOperation_entity (relevant : List Operation) (current : Operation) :
    rebaseOperation relevant current =
      rebaseOperation (entityOperations current.entityId relevant) current := by
  induction relevant generalizing current with
  | nil => rfl
  | cons other rest induction =>
    have unfolded : rebaseOperation (other :: rest) current =
        transformRelevantOperation current other >>= rebaseOperation rest := rfl
    rw [unfolded]
    by_cases same : other.entityId = current.entityId
    · have kept : entityOperations current.entityId (other :: rest) =
          other :: entityOperations current.entityId rest := by
        simp [entityOperations, same]
      rw [kept]
      have again : rebaseOperation (other :: entityOperations current.entityId rest) current =
          transformRelevantOperation current other >>=
            rebaseOperation (entityOperations current.entityId rest) := rfl
      rw [again]
      cases result : transformRelevantOperation current other with
      | error conflict => rfl
      | ok next =>
        show rebaseOperation rest next = rebaseOperation _ next
        rw [induction next, entityId_transform result]
    · have dropped : entityOperations current.entityId (other :: rest) =
          entityOperations current.entityId rest := by
        simp [entityOperations, same]
      rw [dropped, transform_other (Ne.symm same)]
      exact induction current

theorem entityOperations_relevant (member : operation ∈ locals) :
    entityOperations operation.entityId (relevantOperations locals remotes) =
      entityOperations operation.entityId remotes := by
  unfold entityOperations relevantOperations
  rw [filter_filter]
  refine filter_congr fun remote _ => ?_
  by_cases same : remote.entityId = operation.entityId
  · simp only [same, decide_true, Bool.true_and, decide_eq_true_eq]
    exact mem_map_of_mem member
  · simp [same]

theorem rebaseOperation_relevant (member : operation ∈ locals) :
    rebaseOperation (relevantOperations locals remotes) operation =
      rebaseOperation (entityOperations operation.entityId remotes) operation := by
  rw [rebaseOperation_entity, entityOperations_relevant member]

theorem rebaseOperations_single : rebaseOperations [operation] remotes =
      answerOf (rebaseOperation (entityOperations operation.entityId remotes) operation) := by
  unfold rebaseOperations
  simp only [map_cons, map_nil, rebaseOperation_relevant mem_cons_self]
  cases rebaseOperation (entityOperations operation.entityId remotes) operation <;> rfl

theorem entityOperations_idem (entityId : String) :
    entityOperations entityId (entityOperations entityId remotes) =
      entityOperations entityId remotes := by
  unfold entityOperations
  simp

end Lists

structure RebaseFollows (lengths : String → Nat) (locals remotes : List Operation) : Prop where
  follows : ∀ operation ∈ locals, Follows (baselineDocument (lengths operation.entityId))
    (entityOperations operation.entityId remotes) operation (rebaseOperations [operation] remotes)
  isolated : ∀ operation ∈ locals, rebaseOperations [operation] remotes =
    rebaseOperations [operation] (entityOperations operation.entityId remotes)
  operations : (rebaseOperations locals remotes).rebasedOperations =
    locals.flatMap fun operation => (rebaseOperations [operation] remotes).rebasedOperations
  conflicts : (rebaseOperations locals remotes).conflicts =
    locals.flatMap fun operation => (rebaseOperations [operation] remotes).conflicts

theorem rebaseOperations_flatMap (locals remotes : List Operation) :
    (rebaseOperations locals remotes).rebasedOperations =
        locals.flatMap (fun operation => (rebaseOperations [operation] remotes).rebasedOperations) ∧
      (rebaseOperations locals remotes).conflicts =
        locals.flatMap fun operation => (rebaseOperations [operation] remotes).conflicts := by
  unfold rebaseOperations
  simp only [filterMap_eq_flatMap_toList, flatMap_map, flatMap_singleton]
  constructor
  all_goals
    refine flatMap_congr fun operation member => ?_
    rw [rebaseOperation_relevant member, rebaseOperation_relevant (mem_singleton_self operation)]

def RebasesFreely (lengths : String → Nat) (locals remotes : List Operation) : Prop :=
  ∀ operation ∈ locals, Unhindered (entityOperations operation.entityId remotes) operation ∨
      operation.type ≠ .delete ∧ ExcusesConflict (baselineDocument (lengths operation.entityId))
          (entityOperations operation.entityId remotes) operation

theorem rebaseOperations_follows_iff (lengths : String → Nat) (locals remotes : List Operation)
    (isLocal : ∀ operation ∈ locals, operation.IsLocalTo (lengths operation.entityId))
    (static : ∀ remote ∈ remotes, remote.type ≠ .move) :
    RebaseFollows lengths locals remotes ↔ RebasesFreely lengths locals remotes := by
  have each : ∀ operation ∈ locals,
      (Follows (baselineDocument (lengths operation.entityId))
        (entityOperations operation.entityId remotes) operation
        (rebaseOperations [operation] remotes) ↔
      Unhindered (entityOperations operation.entityId remotes) operation ∨
        operation.type ≠ .delete ∧
          ExcusesConflict (baselineDocument (lengths operation.entityId))
            (entityOperations operation.entityId remotes) operation) := by
    intro operation member
    rw [rebaseOperations_single]
    refine follows_iff (isLocal operation member) ?_ ?_
    · intro remote inside
      exact (of_decide_eq_true (mem_filter.mp inside).2).symm
    · exact fun remote inside => static remote (mem_filter.mp inside).1
  constructor
  · exact fun rebase operation member => (each operation member).mp (rebase.follows operation member)
  · intro free
    refine ⟨fun operation member => (each operation member).mpr (free operation member), ?_,
      (rebaseOperations_flatMap locals remotes).1, (rebaseOperations_flatMap locals remotes).2⟩
    intro operation _
    rw [rebaseOperations_single, rebaseOperations_single, entityOperations_idem]

def sampleOperation (type : OperationType) (entityId : String) (index : Nat) : Operation :=
  ⟨"op", type, entityId, index, [], "digest"⟩

theorem rebaseOperations_follows_iff_sample :
    RebaseFollows (fun _ => 3) [sampleOperation .update "entity" 1]
        [sampleOperation .insert "entity" 0, sampleOperation .delete "other" 0] ↔
      RebasesFreely (fun _ => 3) [sampleOperation .update "entity" 1]
        [sampleOperation .insert "entity" 0, sampleOperation .delete "other" 0] :=
  rebaseOperations_follows_iff _ _ _
    (fun _ member => by
      cases mem_singleton.mp member
      exact ⟨by decide, by decide, by decide⟩)
    (by decide)

/-- A remote delete of the element before an updated one is reported as a conflict. -/
theorem not_rebaseFollows_before : ¬ RebaseFollows (fun _ => 3) [sampleOperation .update "entity" 1]
      [sampleOperation .delete "entity" 0] := by
  intro rebase
  have excuse := (rebase.follows _ mem_cons_self).conflict (by decide)
  rcases excuse with gone | ⟨earlier, remote, later, same, updates, _⟩
  · exact gone (by decide)
  · cases earlier with
    | nil =>
      obtain ⟨rfl, rfl⟩ := cons.inj same
      cases updates
    | cons first earlier =>
      obtain ⟨_, tail⟩ := cons.inj same
      exact absurd tail (by simp)

end LicoMesh.CoreChangeSets
