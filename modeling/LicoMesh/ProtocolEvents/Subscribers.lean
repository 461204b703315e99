import LicoMesh.ProtocolEvents.Pages
import Mathlib.Data.List.Dedup

namespace LicoMesh.ProtocolEvents

open Library List

/-! What the reads of a subscriber have, and what each step of the processes keeps. -/

variable {topics normalized : List String} {policy : BusPolicy} {event : ProtocolEvent}

def StableTopics (topics : List String) : Prop :=
  ∀ topic ∈ topics, normalizeTopic (normalizeTopic topic) = normalizeTopic topic

theorem mem_topicSet :
    topic ∈ topicSet topics ↔ topic ≠ "" ∧ ∃ raw ∈ topics, normalizeTopic raw = topic := by
  unfold topicSet
  rw [(perm_insertionSort _ _).mem_iff, mem_dedup, mem_filter, mem_map, decide_eq_true_eq, and_comm]

theorem mem_topicSet_topicSet (stable : StableTopics topics) :
    topic ∈ topicSet (topicSet topics) ↔ topic ∈ topicSet topics := by
  constructor
  · intro member
    obtain ⟨nonempty, once, inside, rfl⟩ := mem_topicSet.mp member
    obtain ⟨_, raw, given, rfl⟩ := mem_topicSet.mp inside
    rw [stable raw given] at nonempty ⊢
    exact mem_topicSet.mpr ⟨nonempty, raw, given, rfl⟩
  · intro member
    obtain ⟨nonempty, raw, given, rfl⟩ := mem_topicSet.mp member
    exact mem_topicSet.mpr ⟨nonempty, _, member, stable raw given⟩

theorem inTopics_congr (same : ∀ topic, topic ∈ left ↔ topic ∈ right)
    (event : ProtocolEvent) : inTopics left event = inTopics right event := by
  have empty : left.isEmpty = right.isEmpty := by
    rw [Bool.eq_iff_iff, List.isEmpty_iff, List.isEmpty_iff, List.eq_nil_iff_forall_not_mem,
      eq_nil_iff_forall_not_mem]
    exact forall_congr' fun topic => not_congr (same topic)
  unfold inTopics
  rw [empty, decide_eq_decide.mpr (same event.topic)]

theorem inTopics_normalizeTopics (stable : StableTopics topics)
    (again : normalizeTopics (topicSet topics) maxTopics = some normalized)
    (event : ProtocolEvent) : inTopics normalized event = inTopics (topicSet topics) event := by
  unfold normalizeTopics at again
  dsimp only at again
  split at again
  · cases again
  · cases again
    exact inTopics_congr (fun topic => mem_topicSet_topicSet stable) event

theorem normalizeTopics_eq
    (same : normalizeTopics topics maxTopics = some normalized) : normalized = topicSet topics := by
  unfold normalizeTopics at same
  dsimp only at same
  split at same
  · cases same
  · exact (Option.some.inj same).symm

theorem limitValue_pos (value : Int) : 0 < limitValue value := by
  unfold limitValue
  omega

structure BusSound (store : EventStore) (bus : EventBus) : Prop where
  publishing : ∀ event ∈ bus.publishing, event ∈ store.published
  recent : ∀ entry ∈ bus.recentEvents, entry.event ∈ store.published
  consecutive : bus.recentEvents.map (·.event.offset) =
    range' (bus.recentLastOffset + 1 - bus.recentEvents.length) bus.recentEvents.length
  room : bus.recentEvents.length ≤ bus.recentLastOffset
  bounded : bus.recentLastOffset ≤ store.lastOffset

theorem busSound_empty (store : EventStore) : BusSound store {} :=
  ⟨nofun, nofun, rfl, Nat.le_refl _, Nat.zero_le _⟩

variable {store after : EventStore} {bus : EventBus} {sizes : EventSizes}

theorem Advances.mem (advances : Advances store after) (member : event ∈ store.published) :
    event ∈ after.published := by
  obtain ⟨later, grown, _⟩ := advances.published
  rw [grown]
  exact mem_append_left _ member

theorem BusSound.grow (sound : BusSound store bus) (advances : Advances store after) :
    BusSound after bus :=
  ⟨fun event member => advances.mem (sound.publishing event member),
    fun entry member => advances.mem (sound.recent entry member), sound.consecutive, sound.room,
    sound.bounded.trans advances.lastOffset⟩

theorem suffix_range' {entries kept : List RecentEvent} (isSuffix : kept <:+ entries)
    (consecutive : entries.map (·.event.offset) = range' (last + 1 - entries.length) entries.length)
    (room : entries.length ≤ last) :
    kept.map (·.event.offset) = range' (last + 1 - kept.length) kept.length := by
  obtain ⟨dropped, rfl⟩ := isSuffix
  rw [length_append] at room consecutive
  rw [map_append, ← range'_append_1] at consecutive
  have parts := append_inj consecutive (by rw [length_map, length_range'])
  rw [parts.2]
  congr 1
  omega

theorem trimRecent_suffix (policy : BusPolicy) (entries : List RecentEvent) (bytes : Nat) :
    (trimRecent policy entries bytes).1 <:+ entries := by
  induction entries generalizing bytes with
  | nil => exact suffix_refl _
  | cons entry rest induction =>
    unfold trimRecent
    split
    · exact (induction _).trans (suffix_cons _ _)
    · exact suffix_refl _

theorem recentEvents_extend (sound : BusSound store bus) (positive : event.offset ≠ 0)
    (chosen : List RecentEvent) (kept : (chosen = [] ∧ 0 < event.offset) ∨
      (chosen = bus.recentEvents ∧
        (0 < bus.recentLastOffset → event.offset = bus.recentLastOffset + 1))) (bytes : Nat) :
    (∀ entry ∈ chosen, entry.event ∈ store.published) ∧
      (chosen ++ [(⟨event, bytes⟩ : RecentEvent)]).map (·.event.offset) =
        range' (event.offset + 1 - (chosen.length + 1)) (chosen.length + 1) ∧
      chosen.length + 1 ≤ event.offset := by
  have single : ∀ chosen : List RecentEvent, chosen = [] →
      (chosen ++ [(⟨event, bytes⟩ : RecentEvent)]).map (·.event.offset) =
        range' (event.offset + 1 - (chosen.length + 1)) (chosen.length + 1) := by
    rintro _ rfl
    rfl
  cases kept with
  | inl cleared =>
    obtain ⟨empty, _⟩ := cleared
    refine ⟨?_, single chosen empty, ?_⟩
    · rw [empty]
      exact nofun
    · rw [empty, length_nil]
      omega
  | inr follows =>
    obtain ⟨same, next⟩ := follows
    subst same
    have room := sound.room
    by_cases started : 0 < bus.recentLastOffset
    · have final := next started
      refine ⟨sound.recent, ?_, by omega⟩
      rw [map_append, sound.consecutive, range'_concat, map_singleton, final]
      have start : bus.recentLastOffset + 1 + 1 - (bus.recentEvents.length + 1) =
          bus.recentLastOffset + 1 - bus.recentEvents.length := by omega
      have last : bus.recentLastOffset + 1 - bus.recentEvents.length +
          1 * bus.recentEvents.length = bus.recentLastOffset + 1 := by omega
      rw [start, last]
    · have empty : bus.recentEvents = [] := eq_nil_of_length_eq_zero (by omega)
      refine ⟨sound.recent, single _ empty, ?_⟩
      rw [empty, length_nil]
      omega

theorem appendRecent_sound (sound : BusSound store bus) (storeSound : StoreSound store)
    (published : event ∈ store.published) :
    BusSound store (appendRecent sizes policy event bus) := by
  unfold appendRecent
  split
  · exact sound
  next positive =>
    generalize kept : (if (decide (0 < bus.recentLastOffset) &&
        decide (event.offset ≠ bus.recentLastOffset + 1)) = true then (([] : List RecentEvent), 0)
      else (bus.recentEvents, bus.recentBytes)) = chosen
    have choice : (chosen.1 = [] ∧ 0 < event.offset) ∨ (chosen.1 = bus.recentEvents ∧
        (0 < bus.recentLastOffset → event.offset = bus.recentLastOffset + 1)) := by
      rw [← kept]
      split
      · exact .inl ⟨rfl, Nat.pos_of_ne_zero positive⟩
      next follows =>
        rw [Bool.and_eq_true, decide_eq_true_eq, decide_eq_true_eq] at follows
        refine .inr ⟨rfl, fun started => ?_⟩
        by_contra different
        exact follows ⟨started, different⟩
    have whole := recentEvents_extend sound positive chosen.1 choice (sizes.eventBytes event)
    obtain ⟨inside, consecutive, room⟩ := whole
    have isSuffix := trimRecent_suffix policy (chosen.1 ++ [⟨event, sizes.eventBytes event⟩])
      (chosen.2 + sizes.eventBytes event)
    have length : (chosen.1 ++ [(⟨event, sizes.eventBytes event⟩ : RecentEvent)]).length =
        chosen.1.length + 1 := length_append
    refine ⟨sound.publishing, ?_, ?_, ?_, storeSound.bounded event published⟩
    · intro entry member
      cases mem_append.mp (isSuffix.subset member) with
      | inl old => exact inside entry old
      | inr new =>
        rw [mem_singleton.mp new]
        exact published
    · apply suffix_range' isSuffix
      · rw [length]
        exact consecutive
      · rw [length]
        exact room
    · have shorter := isSuffix.length_le
      dsimp only
      omega

variable {relevant : ProtocolEvent → Bool} {topics : List String}
  {maxResponseBytes cursor limit : Nat}

/-- Where the response has room for all that the first statement has found, and that is not as much
as it may find, the second statement meets nothing else. -/
def NothingBetween (sizes : EventSizes) (maxResponseBytes : Nat) (store : EventStore)
    (topics : List String) (cursor limit : Nat) (rows : List ProtocolEvent) : Prop :=
  rows.length < limit → responseBytes sizes rows ≤ maxResponseBytes →
    ∀ event ∈ store.events, cursor < event.offset → inTopics topics event → event ∈ rows

theorem lastOffset_le_of_forall (cursor : Nat) {events : List ProtocolEvent} (nonempty : events ≠ [])
    (bounded : ∀ event ∈ events, event.offset ≤ bound) :
    lastOffset (·.offset) events cursor ≤ bound := by
  rw [lastOffset_of_ne_nil nonempty]
  exact bounded _ (getLast_mem nonempty)

theorem page_serves {batch : Batch ProtocolEvent} (serves : batch.Serves (·.offset) relevant log)
    (fits : ∀ event ∈ log, MetadataFits sizes maxResponseBytes event)
    (bounded : ∀ event ∈ log, event.offset ≤ bound) (further : batch.next ≤ max batch.first bound) :
    let page := boundEventPage sizes maxResponseBytes batch.first batch.next batch.items
    Batch.Serves (·.offset) relevant log { batch with
      next := page.nextCursor
      items := page.events.map (·.event) } ∧ page.nextCursor ≤ max batch.first bound := by
  have cases := boundEventPage_cases batch.first batch.next
    (fun event member => fits event (serves.sound event member).1) serves.forward
  dsimp only
  cases cases with
  | inl cut =>
    obtain ⟨count, nonempty, kept, next⟩ := cut
    rw [kept, next]
    refine ⟨serves.take nonempty, ?_⟩
    have last : lastOffset (·.offset) (batch.items.take count) batch.first ≤ bound :=
      lastOffset_le_of_forall _ nonempty fun event member =>
        bounded event (serves.sound event (mem_of_mem_take member)).1
    omega
  | inr whole =>
    obtain ⟨kept, next, _⟩ := whole
    rw [kept, next]
    exact ⟨serves, further⟩

variable (sound : StoreSound store)
include sound

theorem finishRead_serves (selected : Batch.Serves (·.offset) relevant store.published
      ⟨cursor, nextCursorOf rows limit cursor top, watermark, watermark, rows⟩)
    (agree : ∀ event, inTopics topics event = relevant event)
    (fits : ∀ event ∈ store.published, MetadataFits sizes maxResponseBytes event)
    (nothing : NothingBetween sizes maxResponseBytes store topics cursor limit rows)
    (later : watermark ≤ store.watermark) :
    let page := boundEventPage sizes maxResponseBytes cursor
      (nextCursorOf rows limit cursor store.maxOffset) rows
    Batch.Serves (·.offset) relevant store.published
        ⟨cursor, page.nextCursor, watermark, store.watermark, page.events.map (·.event)⟩ ∧
      page.nextCursor ≤ max cursor store.lastOffset := by
  have inLog : ∀ event ∈ rows, event ∈ store.published :=
    fun event member => (selected.sound event member).1
  have highest := maxOffset_le sound
  by_cases full : limit ≤ rows.length
  · have same : ∀ highest, nextCursorOf rows limit cursor highest = lastOffsetOf rows cursor :=
      fun _ => if_pos full
    rw [same] at selected
    rw [same]
    apply page_serves (selected.end_later later) fits sound.bounded
    cases rows with
    | nil => exact Nat.le_max_left _ _
    | cons head tail =>
      have last := lastOffset_le_of_forall cursor (cons_ne_nil head tail)
        fun event member => sound.bounded event (inLog event member)
      exact last.trans (Nat.le_max_right _ _)
  · have same : nextCursorOf rows limit cursor store.maxOffset = max cursor store.maxOffset :=
      if_neg full
    rw [same]
    have cases := boundEventPage_cases cursor (max cursor store.maxOffset)
      (fun event member => fits event (inLog event member)) (Nat.le_max_left _ _)
    dsimp only
    cases cases with
    | inl cut =>
      obtain ⟨count, nonempty, kept, next⟩ := cut
      rw [kept, next]
      refine ⟨(selected.take nonempty).end_later later, ?_⟩
      have last : lastOffset (·.offset) (rows.take count) cursor ≤ store.lastOffset :=
        lastOffset_le_of_forall _ nonempty fun event member =>
          sound.bounded event (inLog event (mem_of_mem_take member))
      omega
    | inr whole =>
      obtain ⟨kept, next, room⟩ := whole
      rw [kept, next]
      refine ⟨selected.extend (Nat.le_max_left _ _) ?_ ?_, by omega⟩
      · intro event member isRelevant past _ remains
        apply nothing (Nat.lt_of_not_le full) _ event (sound.mem_events.mpr ⟨member, remains⟩) past
        · rw [agree]
          exact isRelevant
        · cases room with
          | inl empty =>
            have least := fits event member
            unfold MetadataFits at least
            rw [empty]
            unfold responseBytes
            rw [map_nil, sum_nil]
            omega
          | inr room => exact room
      · intro event member
        by_cases remains : store.watermark < event.offset
        · have highest := offset_le_maxOffset (sound.mem_events.mpr ⟨inLog event member, remains⟩)
          omega
        · omega

section

variable (busSound : BusSound store bus) (agree : ∀ event, inTopics topics event = relevant event)
include busSound agree

theorem recentAbove_serves
    (entries : bus.recentEvents = first :: rest) (reaches : first.event.offset - 1 ≤ cursor)
    (kept : ∀ event ∈ bus.recentAbove cursor topics, store.watermark < event.offset) :
    Batch.Serves (·.offset) relevant store.published
      ⟨cursor, max cursor bus.recentLastOffset, store.watermark, store.watermark,
        bus.recentAbove cursor topics⟩ := by
  have offsets : (bus.recentEvents.map (·.event)).map (·.offset) =
      range' (bus.recentLastOffset + 1 - bus.recentEvents.length)
        bus.recentEvents.length := by
    rw [map_map]
    exact busSound.consecutive
  have room := busSound.room
  have inRing : ∀ event ∈ bus.recentEvents.map (·.event), event ∈ store.published ∧
      event.offset ≤ bus.recentLastOffset := by
    intro event member
    obtain ⟨entry, inside, rfl⟩ := mem_map.mp member
    have position := mem_map_of_mem (f := (·.offset)) member
    rw [offsets, mem_range'_1] at position
    exact ⟨busSound.recent entry inside, by omega⟩
  apply serves_filter
  · apply increasing_filter
    rw [offsets]
    exact pairwise_lt_range'
  · intro event member
    have remains := kept event member
    obtain ⟨inside, chosen⟩ := mem_filter.mp member
    rw [Bool.and_eq_true, decide_eq_true_eq, agree] at chosen
    obtain ⟨published, below⟩ := inRing event inside
    exact ⟨published, chosen.2, chosen.1, remains, by omega⟩
  · intro event member isRelevant past upTo _
    have start : first.event.offset = bus.recentLastOffset + 1 - bus.recentEvents.length := by
      rw [entries, map_cons, length_cons, range'_succ] at offsets
      rw [entries, length_cons]
      exact (cons.inj offsets).1
    have position : event.offset ∈ (bus.recentEvents.map (·.event)).map (·.offset) := by
      rw [offsets, mem_range'_1]
      omega
    obtain ⟨other, inside, same⟩ := mem_map.mp position
    have equal : other = event := sound.eq_of_offset (inRing other inside).1 member same
    unfold EventBus.recentAbove
    rw [mem_filter, Bool.and_eq_true, decide_eq_true_eq, agree]
    exact ⟨equal ▸ inside, past, isRelevant⟩
  · exact Nat.le_max_left _ _

theorem readRecent_serves (positive : 0 < limit)
    (fits : ∀ event ∈ store.published, MetadataFits sizes policy.maxResponseBytes event)
    (kept : ∀ event ∈ bus.recentAbove cursor topics, store.watermark < event.offset)
    (read : readRecent sizes policy bus cursor topics limit = some page) :
    Batch.Serves (·.offset) relevant store.published
        ⟨cursor, page.nextCursor, store.watermark, store.watermark, page.events.map (·.event)⟩ ∧
      page.nextCursor ≤ max cursor store.lastOffset := by
  unfold readRecent at read
  split at read
  · cases read
  next first rest entries =>
    split at read
    · cases read
    next reaches =>
      obtain rfl := Option.some.inj read
      have serves := (recentAbove_serves sound busSound agree entries (Nat.le_of_not_lt reaches)
        kept).limit positive
      apply page_serves serves fits sound.bounded
      have bounded := busSound.bounded
      dsimp only
      split
      next full =>
        have nonempty : (bus.recentAbove cursor topics).take limit ≠ [] := by
          intro empty
          rw [empty, length_nil] at full
          omega
        have last : lastOffset (·.offset) ((bus.recentAbove cursor topics).take limit) cursor ≤
            store.lastOffset := lastOffset_le_of_forall _ nonempty fun event member =>
              sound.bounded event (serves.sound event member).1
        omega
      next => omega

end

end LicoMesh.ProtocolEvents
