import Mathlib.Data.List.Basic
import Mathlib.Order.MinMax

namespace LicoMesh.Library

/-! Readers that follow cursors over a growing log of items with offsets. -/

variable {first : Nat}

/-- The items of one read above `first`; the next read starts at `next`. The items up to `before`
were gone when the read began, and those up to `after` when it ended. -/
structure Batch (α : Type) where
  first : Nat
  next : Nat
  before : Nat
  after : Nat
  items : List α

def Batch.map {α β : Type} (f : α → β) (batch : Batch α) : Batch β :=
  { batch with items := batch.items.map f }

variable {α : Type} {offset : α → Nat} {relevant : α → Bool}

def lastOffset (offset : α → Nat) (items : List α) (first : Nat) : Nat :=
  (items.getLast?.map offset).getD first

theorem lastOffset_of_ne_nil (nonempty : items ≠ []) :
    lastOffset offset items first = offset (items.getLast nonempty) := by
  rw [lastOffset, List.getLast?_eq_getLast_of_ne_nil nonempty]
  rfl

theorem offset_le_lastOffset (increasing : (items.map offset).Pairwise (· < ·))
    (member : item ∈ items) : offset item ≤ lastOffset offset items first := by
  have nonempty : items ≠ [] := List.ne_nil_of_mem member
  rw [lastOffset_of_ne_nil nonempty]
  rw [← List.dropLast_append_getLast nonempty] at member increasing
  rw [List.map_append, List.pairwise_append] at increasing
  cases List.mem_append.mp member with
  | inl early =>
    exact Nat.le_of_lt (increasing.2.2 _ (List.mem_map_of_mem early) _ (List.mem_singleton_self _))
  | inr final => rw [List.mem_singleton.mp final]

namespace Batch

/-- The batch has the relevant items of the log above `first` up to `next`, but for those that were
gone. -/
structure Serves (offset : α → Nat) (relevant : α → Bool) (log : List α) (batch : Batch α) :
    Prop where
  increasing : (batch.items.map offset).Pairwise (· < ·)
  sound : ∀ item ∈ batch.items, item ∈ log ∧ relevant item ∧ batch.first < offset item ∧
    batch.before < offset item
  complete : ∀ item ∈ log, relevant item → batch.first < offset item → offset item ≤ batch.next →
    batch.after < offset item → item ∈ batch.items
  forward : batch.first ≤ batch.next
  settled : ∀ item ∈ batch.items, offset item ≤ max batch.next batch.after

variable {log : List α} {batch : Batch α} (serves : batch.Serves offset relevant log)
include serves

theorem Serves.grow (bounded : batch.next ≤ max batch.first bound)
    (above : ∀ item ∈ later, bound < offset item) :
    batch.Serves offset relevant (log ++ later) := by
  refine ⟨serves.increasing, ?_, ?_, serves.forward, serves.settled⟩
  · intro item member
    obtain ⟨inside, rest⟩ := serves.sound item member
    exact ⟨List.mem_append_left _ inside, rest⟩
  · intro item member isRelevant past upTo kept
    cases List.mem_append.mp member with
    | inl old => exact serves.complete item old isRelevant past upTo kept
    | inr new =>
      have beyond := above item new
      omega

theorem Serves.extend {next after : Nat} (forward : batch.first ≤ next)
    (further : ∀ item ∈ log, relevant item → batch.first < offset item → offset item ≤ next →
      after < offset item → item ∈ batch.items)
    (settled : ∀ item ∈ batch.items, offset item ≤ max next after) :
    Serves offset relevant log { batch with next := next, after := after } :=
  ⟨serves.increasing, serves.sound, further, forward, settled⟩

theorem Serves.end_later {after : Nat} (later : batch.after ≤ after) :
    Serves offset relevant log { batch with after := after } := by
  refine ⟨serves.increasing, serves.sound, ?_, serves.forward, ?_⟩
  · intro item member isRelevant past upTo kept
    exact serves.complete item member isRelevant past upTo (Nat.lt_of_le_of_lt later kept)
  · intro item member
    have settled := serves.settled item member
    dsimp only
    omega

theorem Serves.take (nonempty : batch.items.take count ≠ []) :
    Serves offset relevant log { batch with
      next := lastOffset offset (batch.items.take count) batch.first
      items := batch.items.take count } := by
  have split : (batch.items.take count ++ batch.items.drop count) = batch.items :=
    List.take_append_drop _ _
  have ordered := serves.increasing
  rw [← split, List.map_append, List.pairwise_append] at ordered
  obtain ⟨increasing, _, across⟩ := ordered
  have final : (batch.items.take count).getLast nonempty ∈ batch.items.take count :=
    List.getLast_mem nonempty
  have finalOffset : lastOffset offset (batch.items.take count) batch.first =
      offset ((batch.items.take count).getLast nonempty) := lastOffset_of_ne_nil nonempty
  refine ⟨increasing, ?_, ?_, ?_, ?_⟩
  · exact fun item member => serves.sound item (List.mem_of_mem_take member)
  · intro item member isRelevant past upTo kept
    dsimp only at past upTo kept
    have settled := serves.settled _ (List.mem_of_mem_take final)
    have inside : item ∈ batch.items := serves.complete item member isRelevant past (by omega) kept
    rw [← split] at inside
    cases List.mem_append.mp inside with
    | inl early => exact early
    | inr late =>
      have behind := across _ (List.mem_map_of_mem final) _ (List.mem_map_of_mem late)
      omega
  · have past := (serves.sound _ (List.mem_of_mem_take final)).2.2.1
    dsimp only
    omega
  · intro item member
    exact (offset_le_lastOffset increasing member).trans (Nat.le_max_left _ _)

theorem Serves.limit {limit : Nat} (positive : 0 < limit) : Serves offset relevant log { batch with
      next := if limit ≤ (batch.items.take limit).length
        then lastOffset offset (batch.items.take limit) batch.first else batch.next
      items := batch.items.take limit } := by
  split
  next full =>
    apply serves.take
    intro empty
    rw [empty, List.length_nil] at full
    omega
  next short =>
    have whole : batch.items.take limit = batch.items := by
      apply List.take_of_length_le
      rw [List.length_take] at short
      omega
    rw [whole]
    exact serves

end Batch

def Consecutive : Nat → List (Batch α) → Nat → Prop
  | first, [], last => first = last
  | first, batch :: rest, last => batch.first = first ∧ Consecutive batch.next rest last

theorem Consecutive.append_singleton (consecutive : Consecutive first batches last)
    (next : batch.first = last) : Consecutive first (batches ++ [batch]) batch.next := by
  induction batches generalizing first with
  | nil =>
    cases consecutive
    exact ⟨next, rfl⟩
  | cons head tail induction => exact ⟨consecutive.1, induction consecutive.2⟩

theorem Consecutive.covers (consecutive : Consecutive first batches last) (past : first < position)
    (upTo : position ≤ last) :
    ∃ batch ∈ batches, batch.first < position ∧ position ≤ batch.next := by
  induction batches generalizing first with
  | nil =>
    cases consecutive
    omega
  | cons head tail induction =>
    obtain ⟨start, rest⟩ := consecutive
    by_cases inside : position ≤ head.next
    · exact ⟨head, List.mem_cons_self, by omega, inside⟩
    · obtain ⟨batch, member, found⟩ := induction rest (by omega)
      exact ⟨batch, List.mem_cons_of_mem _ member, found⟩

/-- What a reader that started at `start` has got, with its cursor. -/
structure Follows (offset : α → Nat) (relevant : α → Bool) (log : List α) (top gone start : Nat)
    (batches : List (Batch α)) (cursor : Nat) : Prop where
  consecutive : Consecutive start batches cursor
  serves : ∀ batch ∈ batches, batch.Serves offset relevant log
  bounded : ∀ batch ∈ batches, batch.next ≤ max batch.first top
  increasing : ((batches.flatMap (·.items)).map offset).Pairwise (· < ·)
  settled : ∀ item ∈ batches.flatMap (·.items), offset item ≤ max cursor gone
  begun : start ≤ cursor
  reached : cursor ≤ max start top
  started : ∀ batch ∈ batches, start ≤ batch.first

namespace Follows

variable {log : List α} {top gone start cursor : Nat} {batches : List (Batch α)}

theorem initial (log : List α) (top gone start : Nat) :
    Follows offset relevant log top gone start [] start :=
  ⟨rfl, nofun, nofun, .nil, nofun, Nat.le_refl _, Nat.le_max_left _ _, nofun⟩

variable (follows : Follows offset relevant log top gone start batches cursor)
include follows

theorem grow
    (above : ∀ item ∈ later, top < offset item) (higher : top ≤ newTop) (fewer : gone ≤ newGone) :
    Follows offset relevant (log ++ later) newTop newGone start batches cursor := by
  refine ⟨follows.consecutive, ?_, ?_, follows.increasing, ?_, follows.begun, ?_, follows.started⟩
  · exact fun batch member =>
      (follows.serves batch member).grow (follows.bounded batch member) above
  · intro batch member
    have bounded := follows.bounded batch member
    omega
  · intro item member
    have settled := follows.settled item member
    omega
  · have reached := follows.reached
    omega

theorem append (serves : batch.Serves offset relevant log) (next : batch.first = cursor)
    (bounded : batch.next ≤ max batch.first top) (ended : batch.after ≤ gone)
    (earlier : ∀ item ∈ batches.flatMap (·.items), offset item ≤ max cursor batch.before) :
    Follows offset relevant log top gone start (batches ++ [batch]) batch.next := by
  have forward := serves.forward
  have items : (batches ++ [batch]).flatMap (·.items) =
      batches.flatMap (·.items) ++ batch.items := by
    rw [List.flatMap_append, List.flatMap_singleton]
  have both : ∀ {P : Batch α → Prop}, (∀ other ∈ batches, P other) → P batch →
      ∀ other ∈ batches ++ [batch], P other := by
    intro P old new other member
    cases List.mem_append.mp member with
    | inl inside => exact old other inside
    | inr single => rw [List.mem_singleton.mp single]; exact new
  refine ⟨follows.consecutive.append_singleton next, both follows.serves serves,
    both follows.bounded bounded, ?_, ?_, ?_, ?_, both follows.started ?_⟩
  · rw [items, List.map_append, List.pairwise_append]
    refine ⟨follows.increasing, serves.increasing, ?_⟩
    intro left leftMember right rightMember
    obtain ⟨old, oldMember, rfl⟩ := List.mem_map.mp leftMember
    obtain ⟨new, newMember, rfl⟩ := List.mem_map.mp rightMember
    have before := earlier old oldMember
    obtain ⟨_, _, past, kept⟩ := serves.sound new newMember
    omega
  · intro item member
    rw [items] at member
    cases List.mem_append.mp member with
    | inl old =>
      have settled := follows.settled item old
      omega
    | inr new =>
      have settled := serves.settled item new
      omega
  · have begun := follows.begun
    omega
  · have begun := follows.begun
    have reached := follows.reached
    omega
  · rw [next]
    exact follows.begun

theorem delivered (member : item ∈ log) (isRelevant : relevant item) (past : start < offset item)
    (upTo : offset item ≤ cursor) : item ∈ batches.flatMap (·.items) ∨ ∃ batch ∈ batches,
      batch.first < offset item ∧ offset item ≤ batch.next ∧ offset item ≤ batch.after := by
  obtain ⟨batch, inside, above, below⟩ := follows.consecutive.covers past upTo
  by_cases kept : batch.after < offset item
  · left
    exact List.mem_flatMap.mpr
      ⟨batch, inside, (follows.serves batch inside).complete item member isRelevant above below kept⟩
  · exact .inr ⟨batch, inside, above, below, by omega⟩

end Follows

end LicoMesh.Library
