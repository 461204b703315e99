import LicoMesh.ProtocolEvents.EventBus
import Mathlib.Algebra.Order.Group.Nat

namespace LicoMesh.ProtocolEvents

open Library List

variable {events : List ProtocolEvent} {event : ProtocolEvent} {sizes : EventSizes}
  {maxResponseBytes : Nat}

def responseBytes (sizes : EventSizes) (events : List ProtocolEvent) : Nat :=
  2 + (events.map fun event => sizes.eventBytes event + 1).sum

def MetadataFits (sizes : EventSizes) (maxResponseBytes : Nat) (event : ProtocolEvent) : Prop :=
  2 + (sizes.metadataBytes event (sizes.eventBytes event + 1) + 1) ≤ maxResponseBytes

def BoundedPage.plain (page : BoundedPage) : List ProtocolEvent := page.events.map (·.event)

theorem boundLoop_spec (cursor : Nat)
    (fits : ∀ event ∈ rest, MetadataFits sizes maxResponseBytes event) (page : BoundedPage)
    (start : page.events = [] → page.responseBytes = 2) (whole : page.truncated = false)
    (same : page.cursor = cursor) : ((boundLoop sizes maxResponseBytes rest page).truncated = true ∧
      ∃ count, (page.plain ++ rest).take count ≠ [] ∧
        (boundLoop sizes maxResponseBytes rest page).plain = (page.plain ++ rest).take count) ∨
    ((boundLoop sizes maxResponseBytes rest page).truncated = false ∧
      (boundLoop sizes maxResponseBytes rest page).cursor = cursor ∧
      (boundLoop sizes maxResponseBytes rest page).plain = page.plain ++ rest ∧
      (rest = [] ∨ page.responseBytes + (rest.map fun event => sizes.eventBytes event + 1).sum ≤
        maxResponseBytes)) := by
  induction rest generalizing page with
  | nil =>
    right
    exact ⟨whole, same, (append_nil _).symm, .inl rfl⟩
  | cons event rest induction =>
    have eventFits := fits event mem_cons_self
    unfold boundLoop
    dsimp only
    split
    next within =>
      have plain : ({ page with
          events := page.events ++ [⟨event, none⟩]
          responseBytes := page.responseBytes + (sizes.eventBytes event + 1) } :
            BoundedPage).plain ++ rest = page.plain ++ event :: rest := by
        unfold BoundedPage.plain
        rw [map_append, append_assoc]
        rfl
      have later := induction (fun other member => fits other (mem_cons_of_mem _ member))
        { page with
          events := page.events ++ [⟨event, none⟩]
          responseBytes := page.responseBytes + (sizes.eventBytes event + 1) }
        (fun empty => absurd empty (by simp)) whole same
      rw [plain] at later
      cases later with
      | inl truncated => exact .inl truncated
      | inr complete =>
        obtain ⟨notTruncated, sameCursor, all, room⟩ := complete
        refine .inr ⟨notTruncated, sameCursor, all, .inr ?_⟩
        rw [map_cons, sum_cons]
        cases room with
        | inl final =>
          rw [final, map_nil, sum_nil]
          omega
        | inr room =>
          dsimp only at room
          omega
    next =>
      left
      split
      next empty =>
        have none := isEmpty_iff.mp empty
        have bytes := start none
        have within : page.responseBytes +
            (sizes.metadataBytes event (sizes.eventBytes event + 1) + 1) ≤ maxResponseBytes := by
          rw [bytes]
          exact eventFits
        rw [if_pos within]
        refine ⟨rfl, 1, ?_, ?_⟩
        · simp [BoundedPage.plain, none]
        · simp [BoundedPage.plain, none]
      next nonempty =>
        refine ⟨rfl, page.plain.length, ?_, ?_⟩
        · rw [take_left]
          intro none
          apply nonempty
          rw [List.isEmpty_iff]
          exact map_eq_nil_iff.mp none
        · rw [take_left]
          rfl

theorem boundEventPage_cases (cursor nextCursor : Nat)
    (fits : ∀ event ∈ events, MetadataFits sizes maxResponseBytes event)
    (forward : cursor ≤ nextCursor) : (∃ count, events.take count ≠ [] ∧
      (boundEventPage sizes maxResponseBytes cursor nextCursor events).events.map (·.event) =
        events.take count ∧
      (boundEventPage sizes maxResponseBytes cursor nextCursor events).nextCursor =
        lastOffset (·.offset) (events.take count) cursor) ∨
    ((boundEventPage sizes maxResponseBytes cursor nextCursor events).events.map (·.event) =
        events ∧
      (boundEventPage sizes maxResponseBytes cursor nextCursor events).nextCursor = nextCursor ∧
      (events = [] ∨ responseBytes sizes events ≤ maxResponseBytes)) := by
  have spec := boundLoop_spec cursor fits ⟨[], 2, cursor, false⟩ (fun _ => rfl) rfl rfl
  unfold boundEventPage
  dsimp only
  have plain : (BoundedPage.plain ⟨[], 2, cursor, false⟩) ++ events = events := rfl
  rw [plain] at spec
  cases spec with
  | inl cut =>
    obtain ⟨truncated, count, nonempty, kept⟩ := cut
    left
    refine ⟨count, nonempty, kept, ?_⟩
    rw [if_pos truncated]
    change lastOffset (·.offset) (BoundedPage.plain _) _ = _
    rw [kept, lastOffset_of_ne_nil nonempty, lastOffset_of_ne_nil nonempty]
  | inr all =>
    obtain ⟨notTruncated, sameCursor, kept, room⟩ := all
    right
    refine ⟨kept, ?_, room⟩
    rw [if_neg (by rw [notTruncated]; exact Bool.false_ne_true), sameCursor]
    split
    next zero => omega
    next => rfl

variable {store : EventStore} {relevant : ProtocolEvent → Bool}

theorem StoreSound.mem_published (sound : StoreSound store) (member : event ∈ store.events) :
    event ∈ store.published :=
  (sound.mem_events.mp member).1

theorem StoreSound.eq_of_offset (sound : StoreSound store) (here : left ∈ store.published)
    (there : right ∈ store.published) (same : left.offset = right.offset) : left = right := by
  have distinct : (store.published.map (·.offset)).Nodup :=
    sound.increasing.imp fun less => Nat.ne_of_lt less
  exact inj_on_of_nodup_map distinct here there same

theorem serves_filter {next : Nat} (increasing : (found.map (·.offset)).Pairwise (· < ·))
    (sound : ∀ event ∈ found, event ∈ log ∧ relevant event ∧ cursor < event.offset ∧
      watermark < event.offset ∧ event.offset ≤ next)
    (complete : ∀ event ∈ log, relevant event → cursor < event.offset → event.offset ≤ next →
      watermark < event.offset → event ∈ found)
    (forward : cursor ≤ next) :
    Batch.Serves (·.offset) relevant log ⟨cursor, next, watermark, watermark, found⟩ :=
  ⟨increasing,
    fun event member =>
      let ⟨inside, isRelevant, past, kept, _⟩ := sound event member
      ⟨inside, isRelevant, past, kept⟩,
    complete, forward,
    fun event member => (sound event member).2.2.2.2.trans (Nat.le_max_left _ _)⟩

theorem increasing_filter (increasing : (events.map (·.offset)).Pairwise (· < ·)) :
    ((events.filter keep).map (·.offset)).Pairwise (· < ·) :=
  increasing.sublist (filter_sublist.map _)

theorem selectRows_serves (sound : StoreSound store)
    (agree : ∀ event, inTopics topics event = relevant event)
    (positive : 0 < limit) (cursor : Nat) : Batch.Serves (·.offset) relevant store.published
      ⟨cursor, nextCursorOf (store.selectRows cursor topics limit) limit cursor store.lastOffset,
        store.watermark, store.watermark, store.selectRows cursor topics limit⟩ := by
  have all : Batch.Serves (·.offset) relevant store.published
      ⟨cursor, max cursor store.lastOffset, store.watermark, store.watermark,
        store.events.filter fun event => cursor < event.offset && inTopics topics event⟩ := by
    apply serves_filter
    · apply increasing_filter
      rw [sound.kept]
      exact increasing_filter sound.increasing
    · intro event member
      obtain ⟨inside, chosen⟩ := mem_filter.mp member
      obtain ⟨published, kept⟩ := sound.mem_events.mp inside
      rw [Bool.and_eq_true, decide_eq_true_eq, agree] at chosen
      have bounded := sound.bounded event published
      exact ⟨published, chosen.2, chosen.1, kept, by omega⟩
    · intro event member isRelevant past _ kept
      rw [mem_filter, Bool.and_eq_true, decide_eq_true_eq, agree]
      exact ⟨sound.mem_events.mpr ⟨member, kept⟩, past, isRelevant⟩
    · exact Nat.le_max_left _ _
  exact all.limit positive

theorem offset_le_maxOffset (member : event ∈ store.events) : event.offset ≤ store.maxOffset := by
  unfold EventStore.maxOffset
  generalize store.events = events at member ⊢
  induction events with
  | nil => exact absurd member not_mem_nil
  | cons head tail induction =>
    cases mem_cons.mp member with
    | inl here =>
      rw [here]
      exact Nat.le_max_left _ _
    | inr later => exact (induction later).trans (Nat.le_max_right _ _)

theorem maxOffset_le (sound : StoreSound store) : store.maxOffset ≤ store.lastOffset := by
  have bounded : ∀ event ∈ store.events, event.offset ≤ store.lastOffset :=
    fun event member => sound.bounded event (sound.mem_published member)
  unfold EventStore.maxOffset
  generalize store.events = events at bounded ⊢
  induction events with
  | nil => exact Nat.zero_le _
  | cons head tail induction =>
    apply Nat.max_le_of_le_of_le
    · exact bounded head mem_cons_self
    · exact induction fun event member => bounded event (mem_cons_of_mem _ member)

end LicoMesh.ProtocolEvents
