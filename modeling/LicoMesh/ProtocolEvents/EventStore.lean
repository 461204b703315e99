import Mathlib.Data.List.Basic
import Mathlib.Order.MinMax

namespace LicoMesh.ProtocolEvents

open List

variable {event : ProtocolEvent}

/-- `content` is the serialized rest of the event. -/
structure ProtocolEventCandidate where
  id : String
  topic : String
  publishedAtMs : Int
  content : String
  deriving DecidableEq

structure ProtocolEvent extends ProtocolEventCandidate where
  offset : Nat
  deriving DecidableEq

structure EventSizes where
  admissionBytes : ProtocolEventCandidate → Nat
  eventBytes : ProtocolEvent → Nat
  metadataBytes : ProtocolEvent → Nat → Nat

structure StorePolicy where
  maxRecords : Nat
  maxBytes : Nat
  maxAgeMs : Nat
  retentionBatch : Nat
  maxEventBytes : Nat

structure StoredEvent where
  event : ProtocolEvent
  eventBytes : Nat

/-- `published` are all the events that were ever in the store, and `watermark` is the largest
offset that retention has deleted. -/
structure EventStore where
  rows : List StoredEvent := []
  lastOffset : Nat := 0
  eventCount : Int := 0
  storedBytes : Int := 0
  retentionPending : Nat := 0
  revision : Nat := 0
  published : List ProtocolEvent := []
  watermark : Nat := 0

def EventStore.events (store : EventStore) : List ProtocolEvent := store.rows.map (·.event)

def capacityPressure (policy : StorePolicy) (store : EventStore) (incomingBytes : Nat) : Bool :=
  policy.maxRecords < store.eventCount + 1 || policy.maxBytes < store.storedBytes + incomingBytes

/-- What the loop of `pruneAtWatermark` has removed. -/
structure Pruned where
  count : Nat := 0
  bytes : Nat := 0
  watermark : Nat := 0

def pruneLoop (policy : StorePolicy) (store : EventStore) (incomingBytes : Nat)
    (expiresBefore : Int) : List StoredEvent → Pruned → Pruned
  | [], pruned => pruned
  | entry :: rest, pruned =>
    let overCapacity := capacityPressure policy { store with
      eventCount := store.eventCount - pruned.count
      storedBytes := store.storedBytes - pruned.bytes } incomingBytes
    if !overCapacity && expiresBefore < entry.event.publishedAtMs then pruned
    else pruneLoop policy store incomingBytes expiresBefore rest
      ⟨pruned.count + 1, pruned.bytes + entry.eventBytes, entry.event.offset⟩

def pruneAtWatermark (policy : StorePolicy) (incomingBytes : Nat) (nowMs : Int)
    (store : EventStore) : EventStore :=
  let pruned := pruneLoop policy store incomingBytes (nowMs - policy.maxAgeMs)
    (store.rows.take policy.retentionBatch) {}
  if pruned.watermark = 0 then store
  else { store with
    rows := store.rows.filter fun row => pruned.watermark < row.event.offset
    eventCount := store.eventCount - pruned.count
    storedBytes := store.storedBytes - pruned.bytes
    retentionPending := 0
    watermark := max store.watermark pruned.watermark }

def insertEvent (event : ProtocolEvent) (eventBytes : Nat) (store : EventStore) : EventStore :=
  { store with
    rows := store.rows ++ [⟨event, eventBytes⟩]
    lastOffset := event.offset
    eventCount := store.eventCount + 1
    storedBytes := store.storedBytes + eventBytes
    retentionPending := store.retentionPending + 1
    revision := store.revision + 1
    published := store.published ++ [event] }

def publishTransaction (sizes : EventSizes) (policy : StorePolicy)
    (candidate : ProtocolEventCandidate) (nowMs : Int) (store : EventStore) :
    EventStore × Option ProtocolEvent :=
  let incomingBytes := sizes.admissionBytes candidate
  if policy.maxEventBytes < incomingBytes || policy.maxBytes < incomingBytes then (store, none)
  else
    let pruned :=
      if policy.retentionBatch ≤ store.retentionPending ||
          capacityPressure policy store incomingBytes then
        pruneAtWatermark policy incomingBytes nowMs store
      else store
    if capacityPressure policy pruned incomingBytes then
      ({ pruned with revision := pruned.revision + 1 }, none)
    else
      let event : ProtocolEvent := { candidate with offset := pruned.lastOffset + 1 }
      let eventBytes := sizes.eventBytes event
      if policy.maxEventBytes < eventBytes ||
          pruned.events.any (fun other => other.id = candidate.id) then (store, none)
      else (insertEvent event eventBytes pruned, some event)

def inTopics (topics : List String) (event : ProtocolEvent) : Bool :=
  topics.isEmpty || event.topic ∈ topics

/-- The first statement of `read`. -/
def EventStore.selectRows (store : EventStore) (cursor : Nat) (topics : List String)
    (limit : Nat) : List ProtocolEvent :=
  (store.events.filter fun event => cursor < event.offset && inTopics topics event).take limit

/-- The second statement of `read`. -/
def EventStore.maxOffset (store : EventStore) : Nat := (store.events.map (·.offset)).foldr max 0

def lastOffsetOf (events : List ProtocolEvent) (cursor : Nat) : Nat :=
  ((events.getLast?).map (·.offset)).getD cursor

def nextCursorOf (rows : List ProtocolEvent) (limit cursor maxOffset : Nat) : Nat :=
  if limit ≤ rows.length then lastOffsetOf rows cursor else max cursor maxOffset

structure StoreSound (store : EventStore) : Prop where
  kept : store.events = store.published.filter fun event => store.watermark < event.offset
  increasing : (store.published.map (·.offset)).Pairwise (· < ·)
  bounded : ∀ event ∈ store.published, event.offset ≤ store.lastOffset
  deleted : store.watermark ≤ store.lastOffset

structure Advances (before after : EventStore) : Prop where
  published : ∃ later, after.published = before.published ++ later ∧
    ∀ event ∈ later, before.lastOffset < event.offset
  lastOffset : before.lastOffset ≤ after.lastOffset
  watermark : before.watermark ≤ after.watermark

theorem Advances.refl (store : EventStore) : Advances store store :=
  ⟨⟨[], (append_nil _).symm, nofun⟩, le_refl _, le_refl _⟩

theorem storeSound_empty : StoreSound {} := ⟨rfl, .nil, nofun, le_refl _⟩

variable {store : EventStore} {policy : StorePolicy}

theorem StoreSound.mem_events (sound : StoreSound store) :
    event ∈ store.events ↔ event ∈ store.published ∧ store.watermark < event.offset := by
  rw [sound.kept, mem_filter, decide_eq_true_eq]

theorem watermark_pruneLoop (start : pruned.watermark ≤ bound)
    (bounded : ∀ entry ∈ entries, entry.event.offset ≤ bound) :
    (pruneLoop policy store incomingBytes expiresBefore entries pruned).watermark ≤ bound := by
  induction entries generalizing pruned with
  | nil => exact start
  | cons entry rest induction =>
    unfold pruneLoop
    dsimp only
    split
    · exact start
    · apply induction
      · exact bounded entry mem_cons_self
      · exact fun other member => bounded other (mem_cons_of_mem _ member)

theorem pruneAtWatermark_spec (sound : StoreSound store) :
    StoreSound (pruneAtWatermark policy incomingBytes nowMs store) ∧
      Advances store (pruneAtWatermark policy incomingBytes nowMs store) ∧
      (pruneAtWatermark policy incomingBytes nowMs store).published = store.published := by
  have bounded : (pruneLoop policy store incomingBytes (nowMs - policy.maxAgeMs)
      (store.rows.take policy.retentionBatch) {}).watermark ≤ store.lastOffset := by
    apply watermark_pruneLoop (Nat.zero_le _)
    intro entry member
    have inside : entry.event ∈ store.events := mem_map.mpr ⟨entry, mem_of_mem_take member, rfl⟩
    exact sound.bounded _ (sound.mem_events.mp inside).1
  unfold pruneAtWatermark
  dsimp only
  split
  · exact ⟨sound, .refl store, rfl⟩
  · refine ⟨⟨?_, sound.increasing, sound.bounded, max_le sound.deleted bounded⟩,
      ⟨⟨[], (append_nil _).symm, nofun⟩, le_refl _, le_max_left _ _⟩, rfl⟩
    have kept := sound.kept
    unfold EventStore.events at kept ⊢
    have mapped : ∀ watermark : Nat,
        (store.rows.filter fun row => watermark < row.event.offset).map (·.event) =
          (store.rows.map (·.event)).filter fun event => watermark < event.offset := by
      intro watermark
      rw [filter_map]
      rfl
    rw [mapped, kept, filter_filter]
    apply filter_congr
    intro event _
    rw [← Bool.decide_and]
    apply decide_eq_decide.mpr
    rw [max_lt_iff]
    exact and_comm

theorem insertEvent_spec (sound : StoreSound store) (next : event.offset = store.lastOffset + 1) :
    StoreSound (insertEvent event eventBytes store) ∧
      Advances store (insertEvent event eventBytes store) := by
  have deleted := sound.deleted
  refine ⟨⟨?_, ?_, ?_, ?_⟩, ⟨⟨[event], rfl, ?_⟩, ?_, le_refl _⟩⟩
  · have kept := sound.kept
    unfold EventStore.events at kept ⊢
    unfold insertEvent
    have above : decide (store.watermark < event.offset) = true := decide_eq_true (by omega)
    rw [map_append, kept, filter_append, filter_singleton, above]
    rfl
  · unfold insertEvent
    rw [map_append, pairwise_append]
    refine ⟨sound.increasing, pairwise_singleton _ _, ?_⟩
    intro left member right single
    obtain ⟨old, inside, rfl⟩ := mem_map.mp member
    rw [mem_singleton.mp single]
    have bounded := sound.bounded old inside
    change old.offset < event.offset
    omega
  · intro other member
    change other.offset ≤ event.offset
    cases mem_append.mp member with
    | inl old =>
      have bounded := sound.bounded other old
      omega
    | inr new => rw [mem_singleton.mp new]
  · change store.watermark ≤ event.offset
    omega
  · intro other member
    rw [mem_singleton.mp member]
    omega
  · change store.lastOffset ≤ event.offset
    omega

theorem Advances.trans (left : Advances store middle)
    (right : Advances middle last) : Advances store last := by
  obtain ⟨first, begun, below⟩ := left.published
  obtain ⟨second, ended, above⟩ := right.published
  refine ⟨⟨first ++ second, ?_, ?_⟩, left.lastOffset.trans right.lastOffset,
    left.watermark.trans right.watermark⟩
  · rw [ended, begun, append_assoc]
  · intro event member
    cases mem_append.mp member with
    | inl earlier => exact below event earlier
    | inr later => exact left.lastOffset.trans_lt (above event later)

theorem publishTransaction_spec (sizes : EventSizes) (policy : StorePolicy)
    (candidate : ProtocolEventCandidate) (nowMs : Int) (sound : StoreSound store) :
    StoreSound (publishTransaction sizes policy candidate nowMs store).1 ∧
      Advances store (publishTransaction sizes policy candidate nowMs store).1 ∧
      ∀ event, event ∈ (publishTransaction sizes policy candidate nowMs store).1.published ↔
        event ∈ store.published ∨
          (publishTransaction sizes policy candidate nowMs store).2 = some event := by
  have unchanged : ∀ event, event ∈ store.published ↔ event ∈ store.published ∨ none = some event :=
    fun event => ⟨.inl, fun either => either.elim id nofun⟩
  unfold publishTransaction
  dsimp only
  split
  · exact ⟨sound, .refl store, unchanged⟩
  have pruning : ∀ condition : Bool,
      StoreSound (if condition = true then pruneAtWatermark policy
        (sizes.admissionBytes candidate) nowMs store else store) ∧
      Advances store (if condition = true then pruneAtWatermark policy
        (sizes.admissionBytes candidate) nowMs store else store) ∧
      (if condition = true then pruneAtWatermark policy
        (sizes.admissionBytes candidate) nowMs store else store).published = store.published := by
    intro condition
    split
    · exact pruneAtWatermark_spec sound
    · exact ⟨sound, .refl store, rfl⟩
  generalize chosen : (if (decide (policy.retentionBatch ≤ store.retentionPending) ||
      capacityPressure policy store (sizes.admissionBytes candidate)) = true then
    pruneAtWatermark policy (sizes.admissionBytes candidate) nowMs store else store) = pruned
  obtain ⟨kept, advances, same⟩ : StoreSound pruned ∧ Advances store pruned ∧
      pruned.published = store.published := by
    rw [← chosen]
    exact pruning _
  split
  · exact ⟨⟨kept.kept, kept.increasing, kept.bounded, kept.deleted⟩,
      ⟨advances.published, advances.lastOffset, advances.watermark⟩, same ▸ unchanged⟩
  split
  · exact ⟨sound, .refl store, same ▸ unchanged⟩
  · have next : ({ candidate with offset := pruned.lastOffset + 1 } : ProtocolEvent).offset =
        pruned.lastOffset + 1 := rfl
    obtain ⟨inserted, later⟩ := insertEvent_spec kept next
    refine ⟨inserted, advances.trans later, fun event => ?_⟩
    change event ∈ pruned.published ++ [_] ↔ _
    rw [mem_append, mem_singleton, same, Option.some.injEq]
    exact or_congr_right eq_comm

end LicoMesh.ProtocolEvents
