import Mathlib.Data.List.InsertIdx
import LicoMesh.Library.Path

namespace LicoMesh.Library

/-! Edits of a sequence by position, and what becomes of its elements and of the gaps between
them. -/

inductive Edit
  | insert (index : Nat)
  | delete (index : Nat)
  | keep

/-- An element of a sequence by its position, or a gap by the number of elements before it. -/
inductive Anchor
  | element (position : Nat)
  | gap (position : Nat)

namespace Anchor

def position : Anchor → Nat
  | .element position => position
  | .gap position => position

def isElement : Anchor → Bool
  | .element _ => true
  | .gap _ => false

end Anchor

namespace Edit

variable {α : Type}

def apply (new : α) (sequence : List α) : Edit → List α
  | .insert index => sequence.insertIdx index new
  | .delete index => sequence.eraseIdx index
  | .keep => sequence

def shift (position : Nat) : Edit → Nat
  | .insert index => if index ≤ position then position + 1 else position
  | .delete index => if index < position then position - 1 else position
  | .keep => position

/-- A deleted element leaves the gap between its neighbours. -/
def carry (edit : Edit) : Anchor → Anchor
  | .element position =>
    match edit with
    | .delete index =>
      if index = position then .gap position else .element (edit.shift position)
    | _ => .element (edit.shift position)
  | .gap position => .gap (edit.shift position)

theorem position_carry (edit : Edit) (anchor : Anchor) :
    (edit.carry anchor).position = edit.shift anchor.position := by
  cases anchor with
  | gap position => rfl
  | element position =>
    cases edit with
    | insert index => rfl
    | keep => rfl
    | delete index =>
      simp only [carry]
      split
      · rename_i here
        simp [Anchor.position, shift, here]
      · rfl

def Touches (edit : Edit) (position : Nat) : Prop :=
  match edit with
  | .delete index => index = position ∨ index + 1 = position
  | _ => False

instance decidableTouches : (edit : Edit) → (position : Nat) → Decidable (edit.Touches position)
  | .insert _, _ => .isFalse id
  | .delete index, position =>
    inferInstanceAs (Decidable (index = position ∨ index + 1 = position))
  | .keep, _ => .isFalse id

end Edit

variable {α : Type} {new item : α} {sequence : List α}

def Anchor.Marks (sequence : List α) (item : α) : Anchor → Prop
  | .element position => ∀ place, sequence[place]? = some item ↔ place = position
  | .gap _ => item ∉ sequence

theorem Anchor.Marks.gone_iff {anchor : Anchor} (marks : anchor.Marks sequence item) :
    item ∉ sequence ↔ anchor.isElement = false := by
  cases anchor with
  | gap position => exact ⟨fun _ => rfl, fun _ => marks⟩
  | element position =>
    have member := List.mem_of_getElem? ((marks position).mpr rfl)
    exact ⟨fun absent => absurd member absent, fun notElement => by cases notElement⟩

theorem Edit.carry_marks (edit : Edit) (other : new ≠ item) (marks : anchor.Marks sequence item) :
    (edit.carry anchor).Marks (edit.apply new sequence) item := by
  cases anchor with
  | gap position =>
    cases edit with
    | keep => exact marks
    | insert index =>
      intro member
      rcases List.eq_or_mem_of_mem_insertIdx member with same | old
      · exact other same.symm
      · exact marks old
    | delete index => exact fun member => marks (List.mem_of_mem_eraseIdx member)
  | element position =>
    cases edit with
    | keep => exact marks
    | insert index =>
      intro place
      simp only [apply, shift, List.getElem?_insertIdx]
      by_cases before : place < index
      · rw [if_pos before, marks place]
        split <;> omega
      · rw [if_neg before]
        by_cases here : place = index
        · rw [if_pos here]
          constructor
          · intro inserted
            split at inserted
            · exact absurd (Option.some.inj inserted) other
            · cases inserted
          · intro same
            split at same <;> omega
        · rw [if_neg here, marks (place - 1)]
          split <;> omega
    | delete index =>
      simp only [carry]
      split
      · rename_i here
        intro member
        obtain ⟨place, different, found⟩ := List.mem_eraseIdx_iff_getElem?.mp member
        exact different (((marks place).mp found).trans here.symm)
      · rename_i elsewhere
        intro place
        simp only [apply, shift, List.getElem?_eraseIdx]
        by_cases before : place < index
        · rw [if_pos before, marks place]
          split <;> omega
        · rw [if_neg before, marks (place + 1)]
          split <;> omega

structure Divides (new : α) (isLeft : α → Prop) (sequence : List α) (gap : Nat) : Prop where
  bounded : gap ≤ sequence.length
  sides : ∀ place item, sequence[place]? = some item → item ≠ new → (place < gap ↔ isLeft item)

theorem Edit.shift_divides (edit : Edit) (divides : Divides new isLeft sequence gap) :
    Divides new isLeft (edit.apply new sequence) (edit.shift gap) := by
  obtain ⟨bounded, sides⟩ := divides
  cases edit with
  | keep => exact ⟨bounded, sides⟩
  | insert index =>
    refine ⟨?_, ?_⟩
    · simp only [apply, shift, List.length_insertIdx]
      split <;> split <;> omega
    · intro place item found old
      simp only [apply, shift, List.getElem?_insertIdx] at found ⊢
      split at found
      · rw [← sides place item found old]
        split <;> omega
      · split at found
        · split at found
          · exact absurd (Option.some.inj found).symm old
          · cases found
        · rw [← sides (place - 1) item found old]
          split <;> omega
  | delete index =>
    refine ⟨?_, ?_⟩
    · simp only [apply, shift, List.length_eraseIdx]
      split <;> split <;> omega
    · intro place item found old
      simp only [apply, shift, List.getElem?_eraseIdx] at found ⊢
      split at found
      · rw [← sides place item found old]
        split <;> omega
      · rw [← sides (place + 1) item found old]
        split <;> omega

end LicoMesh.Library
