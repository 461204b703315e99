import LicoMesh.Library.SequenceEdits
import LicoMesh.CoreChangeSets.Contract

namespace LicoMesh.CoreChangeSets

open Library

/-! Rebasing read as edits of a sequence: where the element or the gap of an operation is after
the operations of the other side. -/

variable {remote : Operation} {type : OperationType} {position : Nat}

def Operation.edit (operation : Operation) : Edit :=
  match operation.type with
  | .insert => .insert operation.index
  | .delete => .delete operation.index
  | _ => .keep

def Operation.anchor (operation : Operation) : Anchor :=
  match operation.type with
  | .insert => .gap operation.index
  | _ => .element operation.index

/-- The elements of the baseline by their position in it, and `none` for each later one. -/
abbrev Document := List (Option Nat)

def baselineDocument (length : Nat) : Document := (List.range length).map some

def Document.edit (document : Document) (operation : Operation) : Document :=
  operation.edit.apply none document

def anchorAfter (anchor : Anchor) (operation : Operation) : Anchor := operation.edit.carry anchor

def gapAfter (gap : Nat) (operation : Operation) : Nat := operation.edit.shift gap

def entityOperations (entityId : String) (operations : List Operation) : List Operation :=
  operations.filter fun operation => operation.entityId = entityId

section Documents

variable {document : Document} {remotes : List Operation}

theorem baselineDocument_marks (inside : index < length) :
    (Anchor.element index).Marks (baselineDocument length) (some index) := by
  intro place
  simp only [baselineDocument, List.getElem?_map]
  by_cases here : place < length
  · simp [here]
  · simp [here]
    omega

theorem baselineDocument_divides (inside : index ≤ length) :
    Divides none (fun item => ∃ place, item = some place ∧ place < index)
      (baselineDocument length) index := by
  refine ⟨by simpa [baselineDocument] using inside, ?_⟩
  intro place item found _
  simp only [baselineDocument, List.getElem?_map] at found
  obtain ⟨same, small, rfl⟩ : ∃ same, same = place ∧ some same = item := by
    by_cases here : place < length
    · exact ⟨place, rfl, by simpa [here] using found⟩
    · simp [here] at found
  simp [small]

theorem runAll_marks (marks : anchor.Marks document (some place)) :
    (runAll anchorAfter anchor remotes).Marks (runAll Document.edit document remotes)
      (some place) := by
  induction remotes generalizing document anchor with
  | nil => exact marks
  | cons remote rest induction =>
    exact induction (remote.edit.carry_marks (by simp) marks)

theorem runAll_divides (divides : Divides none isLeft document gap) :
    Divides none isLeft (runAll Document.edit document remotes) (runAll gapAfter gap remotes) := by
  induction remotes generalizing document gap with
  | nil => exact divides
  | cons remote rest induction => exact induction (remote.edit.shift_divides divides)

theorem runAll_after_gap (gap : Nat) :
    runAll anchorAfter (.gap gap) remotes = .gap (runAll gapAfter gap remotes) := by
  induction remotes generalizing gap with
  | nil => rfl
  | cons remote rest induction => exact induction _

end Documents

def Operation.standing (operation : Operation) (anchor : Anchor) : Operation :=
  { operation with
    type := if operation.type = .delete ∧ anchor.isElement = false then .retain else operation.type
    index := anchor.position }

/-- An insert is about a gap, an update or retain about an element that is still there. -/
def OperationType.Suits (type : OperationType) (anchor : Anchor) : Prop :=
  match type with
  | .insert => anchor.isElement = false
  | .update | .retain => anchor.isElement = true
  | .delete => True
  | .move => False

/-- The remote operation stops the rebase for a reason the local one has: its element was deleted,
both sides updated it, or an element next to its gap was deleted. -/
def ExcusedAt (type : OperationType) (anchor : Anchor) (remote : Operation) : Prop :=
  match anchor with
  | .element position => type ≠ .delete ∧ remote.type = .delete ∧ remote.index = position ∨
      type = .update ∧ remote.type = .update ∧ remote.index = position
  | .gap position => type = .insert ∧ remote.edit.Touches position

/-- The remote operation stops the rebase for no such reason: it deletes the element before the
local one, it deletes next to where a deleted element was, or the position grows too large. -/
def Hinders (type : OperationType) (anchor : Anchor) (remote : Operation) : Prop :=
  maxSafeInteger < remote.edit.shift anchor.position ∨
    match anchor with
    | .element position => type ≠ .delete ∧ remote.type = .delete ∧ remote.index + 1 = position
    | .gap position => type = .delete ∧ remote.edit.Touches position

section Transform

variable {operation remote : Operation} {anchor : Anchor}

theorem touches_iff : remote.edit.Touches position ↔
      remote.type = .delete ∧ (remote.index = position ∨ remote.index + 1 = position) := by
  unfold Operation.edit Edit.Touches
  cases remote.type <;> simp

theorem collides_iff : (remote.type = .delete ∧ remote.index = remote.edit.shift position) ↔
      remote.edit.Touches position := by
  rw [touches_iff]
  constructor
  · rintro ⟨deletes, same⟩
    simp only [Operation.edit, deletes, Edit.shift] at same
    refine ⟨deletes, ?_⟩
    split at same <;> omega
  · rintro ⟨deletes, near⟩
    refine ⟨deletes, ?_⟩
    simp only [Operation.edit, deletes, Edit.shift]
    split <;> omega

theorem shift_edit (position : Nat) : remote.edit.shift position =
      if remote.type = .insert ∧ remote.index ≤ position then position + 1
      else if remote.type = .delete ∧ remote.index < position then position - 1
      else position := by
  unfold Operation.edit Edit.shift
  cases remote.type <;> simp

theorem isUnrebaseable_eq_false (static : type ≠ .move) : type.isUnrebaseable = false := by
  cases type <;> first | rfl | contradiction

theorem anchorAfter_element (position : Nat) : anchorAfter (.element position) remote =
      if remote.type = .delete ∧ remote.index = position then .gap position
      else .element (remote.edit.shift position) := by
  unfold anchorAfter Operation.edit
  cases remote.type <;> simp [Edit.carry]

theorem transformRelevantOperation_eq
    (same : current.entityId = remote.entityId) (static : current.type ≠ .move)
    (remoteStatic : remote.type ≠ .move) : transformRelevantOperation current remote =
      if current.type = .update ∧ remote.type = .update ∧ current.index = remote.index then
        .error ⟨"conflict.concurrent_edit", current.entityId, 0⟩
      else if current.type = .delete ∧ remote.type = .delete ∧ current.index = remote.index then
        .ok { current with type := .retain }
      else if remote.edit.Touches current.index ∧ current.type ≠ .delete then
        .error ⟨"conflict.index_collision", current.entityId, 0⟩
      else if maxSafeInteger < remote.edit.shift current.index then
        .error ⟨"conflict.index_collision", current.entityId, 0⟩
      else .ok { current with index := remote.edit.shift current.index } := by
  have rebaseable : (current.type.isUnrebaseable || remote.type.isUnrebaseable) = false := by
    rw [Bool.or_eq_false_iff]
    exact ⟨isUnrebaseable_eq_false static, isUnrebaseable_eq_false remoteStatic⟩
  unfold transformRelevantOperation
  simp only [same, ne_eq, not_true_eq_false, if_false, rebaseable, Bool.false_eq_true,
    ← shift_edit, ← collides_iff, and_assoc]

section

variable (same : operation.entityId = remote.entityId) (remoteStatic : remote.type ≠ .move)
include same remoteStatic

theorem transform_gap (suits : operation.type.Suits (.gap position)) :
    (¬ ExcusedAt operation.type (.gap position) remote →
      ¬ Hinders operation.type (.gap position) remote →
      transformRelevantOperation (operation.standing (.gap position)) remote =
        .ok (operation.standing (anchorAfter (.gap position) remote))) ∧
    (ExcusedAt operation.type (.gap position) remote ∨
      Hinders operation.type (.gap position) remote →
      ∃ conflict, transformRelevantOperation (operation.standing (.gap position)) remote =
        .error conflict) := by
  have passive : ∀ current : Operation, current.entityId = remote.entityId →
      current.type = .insert ∨ current.type = .retain →
      transformRelevantOperation current remote =
        if remote.edit.Touches current.index then
          .error ⟨"conflict.index_collision", current.entityId, 0⟩
        else if maxSafeInteger < remote.edit.shift current.index then
          .error ⟨"conflict.index_collision", current.entityId, 0⟩
        else .ok { current with index := remote.edit.shift current.index } := by
    intro current here kind
    rw [transformRelevantOperation_eq here (by rcases kind with kind | kind <;> simp [kind])
      remoteStatic]
    rcases kind with kind | kind <;> simp [kind]
  have kinds : operation.type = .insert ∨ operation.type = .delete := by
    revert suits
    cases operation.type <;> simp [OperationType.Suits, Anchor.isElement]
  have stands : (operation.standing (.gap position)).type = .insert ∨
      (operation.standing (.gap position)).type = .retain := by
    rcases kinds with kind | kind <;> simp [Operation.standing, kind, Anchor.isElement]
  have stops : ExcusedAt operation.type (.gap position) remote ∨
      Hinders operation.type (.gap position) remote ↔
      remote.edit.Touches position ∨ maxSafeInteger < remote.edit.shift position := by
    rcases kinds with kind | kind <;> simp [ExcusedAt, Hinders, kind, Anchor.position, or_comm]
  rw [passive (operation.standing (.gap position)) same stands]
  constructor
  · intro unexcused unhindered
    have free := mt stops.mpr (not_or.mpr ⟨unexcused, unhindered⟩)
    rw [not_or] at free
    exact (if_neg free.1).trans (if_neg free.2)
  · intro stopped
    rcases stops.mp stopped with touched | large
    · exact ⟨_, if_pos touched⟩
    · split
      · exact ⟨_, rfl⟩
      · exact ⟨_, if_pos large⟩

theorem transform_element (suits : operation.type.Suits (.element position))
    (small : position ≤ maxSafeInteger) : (¬ ExcusedAt operation.type (.element position) remote →
      ¬ Hinders operation.type (.element position) remote →
      transformRelevantOperation (operation.standing (.element position)) remote =
        .ok (operation.standing (anchorAfter (.element position) remote))) ∧
    (ExcusedAt operation.type (.element position) remote ∨
      Hinders operation.type (.element position) remote →
      ∃ conflict, transformRelevantOperation (operation.standing (.element position)) remote =
        .error conflict) := by
  have stands : ∀ place, operation.standing (.element place) =
      { operation with index := place } := by
    intro place
    unfold Operation.standing
    simp [Anchor.isElement, Anchor.position]
  have static : operation.type ≠ .move := by
    rintro kind
    rw [kind] at suits
    exact suits
  have carried : ¬ (remote.type = .delete ∧ remote.index = position) →
      anchorAfter (.element position) remote = .element (remote.edit.shift position) :=
    fun elsewhere => (anchorAfter_element position).trans (if_neg elsewhere)
  rw [stands, @transformRelevantOperation_eq remote { operation with index := position } same
    static remoteStatic]
  by_cases deletes : operation.type = .delete
  · by_cases here : remote.type = .delete ∧ remote.index = position
    · -- both sides deleted the element
      have still : remote.edit.shift position = position := by
        simp [Operation.edit, here.1, Edit.shift, here.2]
      have gone : anchorAfter (.element position) remote = .gap position :=
        (anchorAfter_element position).trans (if_pos here)
      constructor
      · intro _ _
        simp [deletes, here.1, here.2, gone, Operation.standing, Anchor.isElement, Anchor.position]
      · intro stopped
        simp only [ExcusedAt, Hinders, deletes, ne_eq, not_true_eq_false, false_and, reduceCtorEq,
          or_false, false_or, Anchor.position, still] at stopped
        omega
    · have elsewhere : ¬ (remote.type = .delete ∧ position = remote.index) := fun same =>
        here ⟨same.1, same.2.symm⟩
      rw [carried here, stands]
      simp only [deletes, reduceCtorEq, false_and, if_false, elsewhere, ne_eq,
        not_true_eq_false, and_false, ExcusedAt, Hinders, or_false, Anchor.position, false_or]
      exact ⟨fun _ fits => if_neg fits, fun large => ⟨_, if_pos large⟩⟩
  · simp only [deletes, false_and, if_false, ne_eq, not_false_eq_true, and_true, ExcusedAt,
      Hinders, Anchor.position, true_and, touches_iff]
    constructor
    · intro unexcused unhindered
      simp only [not_or] at unexcused unhindered
      have unclashed : ¬ (operation.type = .update ∧ remote.type = .update ∧
          position = remote.index) := fun clash =>
        unexcused.2 ⟨clash.1, clash.2.1, clash.2.2.symm⟩
      have untouched : ¬ (remote.type = .delete ∧
          (remote.index = position ∨ remote.index + 1 = position)) := by
        rintro ⟨removes, here | before⟩
        · exact unexcused.1 ⟨removes, here⟩
        · exact unhindered.2 ⟨removes, before⟩
      rw [if_neg unclashed, if_neg untouched, if_neg unhindered.1, carried unexcused.1, stands]
    · intro stopped
      by_cases clash : operation.type = .update ∧ remote.type = .update ∧ position = remote.index
      · exact ⟨_, if_pos clash⟩
      rw [if_neg clash]
      by_cases touched : remote.type = .delete ∧
          (remote.index = position ∨ remote.index + 1 = position)
      · exact ⟨_, if_pos touched⟩
      rw [if_neg touched]
      rcases stopped with (⟨removes, here⟩ | ⟨updates, both, here⟩) | (large | ⟨removes, before⟩)
      · exact absurd ⟨removes, .inl here⟩ touched
      · exact absurd ⟨updates, both, here.symm⟩ clash
      · exact ⟨_, if_pos large⟩
      · exact absurd ⟨removes, .inr before⟩ touched

end

end Transform

def Unstopped (type : OperationType) : Anchor → List Operation → Prop :=
  EachCommand anchorAfter fun anchor remote => ¬ ExcusedAt type anchor remote ∧
    ¬ Hinders type anchor remote

section Fold

variable {operation : Operation} {remotes : List Operation} {anchor : Anchor}

theorem transform_standing (same : operation.entityId = remote.entityId)
    (remoteStatic : remote.type ≠ .move) (suits : operation.type.Suits anchor)
    (small : anchor.position ≤ maxSafeInteger) :
    (¬ ExcusedAt operation.type anchor remote → ¬ Hinders operation.type anchor remote →
      transformRelevantOperation (operation.standing anchor) remote =
        .ok (operation.standing (anchorAfter anchor remote))) ∧
    (ExcusedAt operation.type anchor remote ∨ Hinders operation.type anchor remote →
      ∃ conflict, transformRelevantOperation (operation.standing anchor) remote =
        .error conflict) := by
  cases anchor with
  | gap position => exact transform_gap same remoteStatic suits
  | element position => exact transform_element same remoteStatic suits small

theorem suits_anchorAfter (suits : type.Suits anchor) (unexcused : ¬ ExcusedAt type anchor remote) :
    type.Suits (anchorAfter anchor remote) := by
  cases anchor with
  | gap position => exact suits
  | element position =>
    rw [anchorAfter_element]
    split
    · rename_i removed
      cases type with
      | insert => cases suits
      | move => exact suits
      | delete => trivial
      | update => exact absurd (.inl ⟨by decide, removed⟩) unexcused
      | retain => exact absurd (.inl ⟨by decide, removed⟩) unexcused
    · cases type <;> exact suits

theorem rebaseOperation_standing (same : ∀ remote ∈ remotes, operation.entityId = remote.entityId)
    (static : ∀ remote ∈ remotes, remote.type ≠ .move) (suits : operation.type.Suits anchor)
    (small : anchor.position ≤ maxSafeInteger) :
    (Unstopped operation.type anchor remotes → rebaseOperation remotes (operation.standing anchor) =
        .ok (operation.standing (runAll anchorAfter anchor remotes))) ∧
    (¬ Unstopped operation.type anchor remotes →
      ∃ conflict, rebaseOperation remotes (operation.standing anchor) = .error conflict) := by
  induction remotes generalizing anchor with
  | nil => exact ⟨fun _ => rfl, fun stopped => absurd trivial stopped⟩
  | cons remote rest induction =>
    have step := transform_standing (same remote List.mem_cons_self)
      (static remote List.mem_cons_self) suits small
    have unfolded : rebaseOperation (remote :: rest) (operation.standing anchor) =
        transformRelevantOperation (operation.standing anchor) remote >>=
          rebaseOperation rest := rfl
    rw [unfolded]
    by_cases free : ¬ ExcusedAt operation.type anchor remote ∧
        ¬ Hinders operation.type anchor remote
    · have fits : (anchorAfter anchor remote).position ≤ maxSafeInteger := by
        rw [anchorAfter, Edit.position_carry]
        exact Nat.le_of_not_lt fun large => free.2 (.inl large)
      obtain ⟨runs, stops⟩ := induction (fun other member => same other (.tail _ member))
        (fun other member => static other (.tail _ member)) (suits_anchorAfter suits free.1) fits
      rw [step.1 free.1 free.2]
      exact ⟨fun each => runs each.2, fun stopped => stops fun each => stopped ⟨free, each⟩⟩
    · refine ⟨fun each => absurd each.1 free, fun _ => ?_⟩
      obtain ⟨conflict, failed⟩ := step.2 (or_iff_not_and_not.mpr free)
      exact ⟨conflict, by rw [failed]; rfl⟩

end Fold

end LicoMesh.CoreChangeSets
