import LicoMesh.ProtocolEvents.Subscribers
import LicoMesh.Library.Path

namespace LicoMesh.ProtocolEvents

open Library System

variable {index : Nat}

/-- Over every run of publications the store has the published events above its watermark, and no
offset is given out again. -/
theorem publications_advance (sizes : EventSizes)
    (earlier later : List (StorePolicy × ProtocolEventCandidate × Int)) :
    let run := runAll fun store (policy, candidate, nowMs) =>
      (publishTransaction sizes policy candidate nowMs store).1
    StoreSound (run {} earlier) ∧ Advances (run {} earlier) (run {} (earlier ++ later)) := by
  intro run
  have grows : ∀ calls store, StoreSound store →
      StoreSound (run store calls) ∧ Advances store (run store calls) := by
    intro calls
    induction calls with
    | nil => exact fun store sound => ⟨sound, .refl store⟩
    | cons call rest induction =>
      intro store sound
      have published := publishTransaction_spec sizes call.1 call.2.1 call.2.2 sound
      have gone := induction _ published.1
      exact ⟨gone.1, published.2.1.trans gone.2⟩
  have sound := (grows earlier {} storeSound_empty).1
  rw [show run {} (earlier ++ later) = _ from runAll_append ..]
  exact ⟨sound, (grows later _ sound).2⟩

/-- The subscriber has received, in order, what it asks for up to its cursor, but for what retention
deleted before the read was over. -/
structure Delivers (store : EventStore) (subscription : Subscription) (subscriber : Subscriber) :
    Prop where
  increasing : ((subscriber.answers.flatMap (·.items)).map (·.event.offset)).Pairwise (· < ·)
  sound : ∀ answer ∈ subscriber.answers, ∀ item ∈ answer.items,
    item.event ∈ store.published ∧ inTopics (topicSet subscription.topics) item.event ∧
      subscription.start < item.event.offset ∧ answer.before < item.event.offset
  complete : ∀ event ∈ store.published, inTopics (topicSet subscription.topics) event →
    subscription.start < event.offset → event.offset ≤ subscriber.cursor →
    (∃ item ∈ subscriber.answers.flatMap (·.items), item.event = event) ∨
      ∃ answer ∈ subscriber.answers, answer.first < event.offset ∧
        event.offset ≤ answer.next ∧ event.offset ≤ answer.after

def LargeBudgets (settings : Settings) (system : System) : Event → Prop
  | .publish index candidate nowMs => ∀ event, ∀ bus,
      (publishTransaction settings.sizes (settings.storePolicies index) candidate nowMs
        system.store).2 = some event →
      MetadataFits settings.sizes (settings.busPolicies bus).maxResponseBytes event
  | _ => True

/-- The topics of a subscription stay when they are normalized again, nothing that the subscriber
asks for is published between the statements of its read, and the ring has nothing for it that
retention has deleted. -/
def Fits (settings : Settings) (system : System) : Event → Prop
  | .call index .subscribe _ | .readAgain index =>
    StableTopics (settings.subscriptions index).topics
  | .finishRead index =>
    match (system.subscribers index).phase with
    | .selected call readTopics rows _ _ =>
      NothingBetween settings.sizes
        (settings.busPolicies (settings.subscriptions index).bus).maxResponseBytes
        system.store readTopics (system.subscribers index).cursor call.limit rows
    | _ => True
  | .readRing index =>
    match (system.subscribers index).phase with
    | .ready call _ _ _ =>
      ∀ event ∈ (system.buses (settings.subscriptions index).bus).recentAbove
          (system.subscribers index).cursor call.topics,
        system.store.watermark < event.offset
    | _ => True
  | _ => True

def Subscriber.batches (subscriber : Subscriber) : List (Batch ProtocolEvent) :=
  subscriber.answers.map (.map (·.event))

/-- What a read that has met `before` has to do with the answers so far. -/
structure ReadSound (store : EventStore) (subscription : Subscription) (subscriber : Subscriber)
    (call : Call) (batch : Batch ProtocolEvent) : Prop where
  topics : call.topics = topicSet subscription.topics
  positive : 0 < call.limit
  first : batch.first = subscriber.cursor
  serves : batch.Serves (·.offset) (inTopics (topicSet subscription.topics)) store.published
  bounded : batch.next ≤ max batch.first store.lastOffset
  later : batch.after ≤ store.watermark
  earlier : ∀ event ∈ subscriber.batches.flatMap (·.items),
    event.offset ≤ max subscriber.cursor batch.before

def PhaseSound (store : EventStore) (subscription : Subscription) (subscriber : Subscriber) :
    Phase → Prop
  | .idle => True
  | .selected call readTopics rows watermark top =>
    (∀ event, inTopics readTopics event = inTopics (topicSet subscription.topics) event) ∧
      ReadSound store subscription subscriber call
        ⟨subscriber.cursor, nextCursorOf rows call.limit subscriber.cursor top, watermark,
          watermark, rows⟩
  | .ready call page before after =>
    ReadSound store subscription subscriber call
      ⟨subscriber.cursor, page.nextCursor, before, after, page.events.map (·.event)⟩

structure SubscriberSound (store : EventStore) (subscription : Subscription)
    (subscriber : Subscriber) : Prop where
  follows : Follows (·.offset) (inTopics (topicSet subscription.topics)) store.published
    store.lastOffset store.watermark subscription.start subscriber.batches subscriber.cursor
  phase : PhaseSound store subscription subscriber subscriber.phase

structure Sound (settings : Settings) (system : System) : Prop where
  store : StoreSound system.store
  fits : ∀ event ∈ system.store.published, ∀ bus,
    MetadataFits settings.sizes (settings.busPolicies bus).maxResponseBytes event
  buses : ∀ index, BusSound system.store (system.buses index)
  subscribers : ∀ index, SubscriberSound system.store (settings.subscriptions index)
    (system.subscribers index)

variable {settings : Settings} {system next : System}

theorem sound_initial (settings : Settings) : Sound settings (.initial settings) :=
  ⟨storeSound_empty, nofun, fun _ => busSound_empty _, fun _ => ⟨.initial _ _ _ _, trivial⟩⟩

section Subscribers

variable {store after : EventStore} {subscription : Subscription} {subscriber : Subscriber}

theorem ReadSound.grow
    (read : ReadSound store subscription subscriber call batch) (advances : Advances store after) :
    ReadSound after subscription subscriber call batch := by
  obtain ⟨later, grown, above⟩ := advances.published
  refine ⟨read.topics, read.positive, read.first, ?_, ?_, read.later.trans advances.watermark,
    read.earlier⟩
  · rw [grown]
    exact read.serves.grow read.bounded above
  · have bounded := read.bounded
    have higher := advances.lastOffset
    omega

variable (sound : SubscriberSound store subscription subscriber)
include sound

theorem SubscriberSound.grow
    (advances : Advances store after) : SubscriberSound after subscription subscriber := by
  obtain ⟨later, grown, above⟩ := advances.published
  constructor
  · rw [grown]
    exact sound.follows.grow above advances.lastOffset advances.watermark
  · have phase := sound.phase
    cases here : subscriber.phase with
    | idle => trivial
    | selected call readTopics rows watermark top =>
      rw [here] at phase
      exact ⟨phase.1, phase.2.grow advances⟩
    | ready call page before last =>
      rw [here] at phase
      exact .grow phase advances

theorem SubscriberSound.delivers : Delivers store subscription subscriber := by
  have items : subscriber.batches.flatMap (·.items) =
      (subscriber.answers.flatMap (·.items)).map (·.event) := by
    unfold Subscriber.batches Batch.map
    rw [List.flatMap_map, List.map_flatMap]
  constructor
  case increasing =>
    have increasing := sound.follows.increasing
    rw [items, List.map_map] at increasing
    exact increasing
  case sound =>
    intro answer member item inside
    have batch : answer.map (·.event) ∈ subscriber.batches := List.mem_map_of_mem member
    obtain ⟨published, isRelevant, past, kept⟩ :=
      (sound.follows.serves _ batch).sound item.event (List.mem_map_of_mem inside)
    exact ⟨published, isRelevant, (sound.follows.started _ batch).trans_lt past, kept⟩
  case complete =>
    intro event member isRelevant past upTo
    cases sound.follows.delivered member isRelevant past upTo with
    | inl got =>
      rw [items] at got
      obtain ⟨item, inside, same⟩ := List.mem_map.mp got
      exact .inl ⟨item, inside, same⟩
    | inr gone =>
      obtain ⟨batch, inside, above, below, deleted⟩ := gone
      obtain ⟨answer, given, rfl⟩ := List.mem_map.mp inside
      exact .inr ⟨answer, given, above, below, deleted⟩

theorem SubscriberSound.answer (ready : subscriber.phase = .ready call page before last) :
    SubscriberSound store subscription
      { cursor := page.nextCursor
        phase := .idle
        answers := subscriber.answers ++
          [⟨subscriber.cursor, page.nextCursor, before, last, page.events⟩] } := by
  have phase := sound.phase
  rw [ready] at phase
  obtain ⟨_, _, _, serves, bounded, later, earlier⟩ := phase
  refine ⟨?_, trivial⟩
  have appended := sound.follows.append serves rfl bounded later earlier
  unfold Subscriber.batches at appended ⊢
  rw [List.map_append]
  exact appended

end Subscribers

variable (sound : Sound settings system)
include sound

theorem Sound.setBus (index : Nat)
    (busSound : BusSound system.store bus) : Sound settings (system.setBus index bus) := by
  refine ⟨sound.store, sound.fits, fun other => ?_, sound.subscribers⟩
  unfold System.setBus
  dsimp only
  by_cases same : other = index
  · rw [same, Function.update_self]
    exact busSound
  · rw [Function.update_of_ne same]
    exact sound.buses other

theorem Sound.setSubscriber (index : Nat)
    (subscriberSound : SubscriberSound system.store (settings.subscriptions index) subscriber) :
    Sound settings (system.setSubscriber index subscriber) := by
  refine ⟨sound.store, sound.fits, sound.buses, fun other => ?_⟩
  unfold System.setSubscriber
  dsimp only
  by_cases same : other = index
  · rw [same, Function.update_self]
    exact subscriberSound
  · rw [Function.update_of_ne same]
    exact sound.subscribers other

theorem Sound.startRead (topics : call.topics = topicSet (settings.subscriptions index).topics)
    (positive : 0 < call.limit) (agree : ∀ event, inTopics readTopics event =
      inTopics (topicSet (settings.subscriptions index).topics) event) :
    Sound settings (startRead settings system index call readTopics) := by
  have bus := sound.buses (settings.subscriptions index).bus
  have subscriber := sound.subscribers index
  have serves := selectRows_serves sound.store agree positive (system.subscribers index).cursor
  have bounded : nextCursorOf (system.store.selectRows (system.subscribers index).cursor readTopics
      call.limit) call.limit (system.subscribers index).cursor system.store.lastOffset ≤
      max (system.subscribers index).cursor system.store.lastOffset := by
    unfold nextCursorOf
    split
    next full =>
      have nonempty : system.store.selectRows (system.subscribers index).cursor readTopics
          call.limit ≠ [] := by
        intro empty
        rw [empty, List.length_nil] at full
        omega
      have last := lastOffset_le_of_forall (system.subscribers index).cursor nonempty
        fun event member => sound.store.bounded event (serves.sound event member).1
      exact last.trans (Nat.le_max_right _ _)
    next => exact Nat.le_refl _
  apply setSubscriber
  · exact sound.setBus _
      ⟨bus.publishing, bus.recent, bus.consecutive, bus.room, bus.bounded⟩
  · exact ⟨subscriber.follows, agree, topics, positive, rfl, serves, bounded, Nat.le_refl _,
      subscriber.follows.settled⟩

theorem Sound.publish (large : LargeBudgets settings system (.publish index candidate nowMs))
    (taken : step settings (.publish index candidate nowMs) system = some next) :
    Sound settings next := by
  unfold step at taken
  dsimp only at taken
  split at taken
  · cases taken
  cases taken
  obtain ⟨storeSound, advances, published⟩ := publishTransaction_spec settings.sizes
    (settings.storePolicies index) candidate nowMs sound.store
  have grown : Sound settings { system with
      store := (publishTransaction settings.sizes (settings.storePolicies index) candidate nowMs
        system.store).1 } := by
    refine ⟨storeSound, ?_, fun bus => (sound.buses bus).grow advances,
      fun subscriber => (sound.subscribers subscriber).grow advances⟩
    intro event member bus
    cases (published event).mp member with
    | inl old => exact sound.fits event old bus
    | inr new => exact large event bus new
  have bus := grown.buses index
  apply grown.setBus
  refine ⟨?_, bus.recent, bus.consecutive, bus.room, bus.bounded⟩
  intro event member
  cases List.mem_append.mp member with
  | inl old => exact bus.publishing event old
  | inr new => exact (published event).mpr (.inr (Option.mem_toList.mp new))

theorem Sound.append
    (taken : step settings (.append index event) system = some next) : Sound settings next := by
  unfold step at taken
  dsimp only at taken
  split at taken
  · cases taken
  next here =>
    cases taken
    have bus := sound.buses index
    have awaited : event ∈ (system.buses index).publishing := by
      rw [Bool.or_eq_true, decide_eq_true_eq, not_or, not_not] at here
      exact here.2
    apply sound.setBus
    apply appendRecent_sound _ sound.store (bus.publishing event awaited)
    exact ⟨fun other member => bus.publishing other (List.mem_of_mem_erase member), bus.recent,
      bus.consecutive, bus.room, bus.bounded⟩

theorem Sound.call (fits : Fits settings system (.call index kind limit))
    (taken : step settings (.call index kind limit) system = some next) : Sound settings next := by
  unfold step at taken
  dsimp only at taken
  split at taken
  · cases taken
  split at taken
  · obtain ⟨topics, once, begun⟩ := Option.bind_eq_some_iff.mp taken
    obtain rfl := normalizeTopics_eq once
    cases begun
    exact sound.startRead rfl (limitValue_pos limit) fun _ => rfl
  · obtain ⟨topics, once, rest⟩ := Option.bind_eq_some_iff.mp taken
    obtain ⟨readTopics, again, begun⟩ := Option.bind_eq_some_iff.mp rest
    obtain rfl := normalizeTopics_eq once
    cases begun
    exact sound.startRead rfl (limitValue_pos limit) (inTopics_normalizeTopics fits again)
  · cases taken

theorem Sound.readAgain (fits : Fits settings system (.readAgain index))
    (taken : step settings (.readAgain index) system = some next) : Sound settings next := by
  unfold step at taken
  dsimp only at taken
  have phase := (sound.subscribers index).phase
  split at taken
  next topics limit nextCursor before last here =>
    rw [here] at phase
    obtain ⟨normalized, positive, _⟩ := phase
    dsimp only at normalized positive
    split at taken
    · cases taken
    obtain ⟨readTopics, again, begun⟩ := Option.bind_eq_some_iff.mp taken
    cases begun
    rw [normalized] at again
    exact sound.startRead normalized positive (inTopics_normalizeTopics fits again)
  · cases taken

theorem Sound.finishRead (fits : Fits settings system (.finishRead index))
    (taken : step settings (.finishRead index) system = some next) : Sound settings next := by
  unfold step at taken
  unfold Fits at fits
  dsimp only at taken fits
  have subscriber := sound.subscribers index
  have bus := sound.buses (settings.subscriptions index).bus
  have phase := subscriber.phase
  split at taken
  next call readTopics rows watermark top here =>
    rw [here] at phase fits
    obtain ⟨agree, read⟩ := phase
    cases taken
    obtain ⟨serves, bounded⟩ := finishRead_serves sound.store read.serves agree
      (fun event member => sound.fits event member _) fits read.later
    apply setSubscriber
    · exact sound.setBus _
        ⟨bus.publishing, bus.recent, bus.consecutive, bus.room, bus.bounded⟩
    · exact ⟨subscriber.follows, read.topics, read.positive, rfl, serves, bounded, Nat.le_refl _,
        read.earlier⟩
  · cases taken

theorem Sound.readRing (fits : Fits settings system (.readRing index))
    (taken : step settings (.readRing index) system = some next) : Sound settings next := by
  unfold step at taken
  unfold Fits at fits
  dsimp only at taken fits
  have subscriber := sound.subscribers index
  have phase := subscriber.phase
  split at taken
  next topics limit nextCursor before last here =>
    rw [here] at phase fits
    obtain ⟨normalized, positive, _⟩ := phase
    split at taken
    · cases taken
    obtain ⟨page, read, ready⟩ := Option.bind_eq_some_iff.mp taken
    cases ready
    subst normalized
    obtain ⟨serves, bounded⟩ := readRecent_serves sound.store (sound.buses _) (fun _ => rfl)
      positive (fun event member => sound.fits event member _) fits read
    apply sound.setSubscriber
    exact ⟨subscriber.follows, rfl, positive, rfl, serves, bounded, Nat.le_refl _,
      subscriber.follows.settled⟩
  · cases taken

theorem Sound.answer
    (taken : step settings (.answer index) system = some next) : Sound settings next := by
  unfold step at taken
  dsimp only at taken
  split at taken
  · cases taken
  split at taken
  next call page before last ready =>
    cases taken
    exact sound.setSubscriber index ((sound.subscribers index).answer ready)
  · cases taken

theorem Sound.advance
    (large : LargeBudgets settings system event) (fits : Fits settings system event) :
    Sound settings (advance settings system event) := by
  unfold ProtocolEvents.advance
  cases taken : step settings event system with
  | none => exact sound
  | some next =>
    cases event with
    | publish => exact sound.publish large taken
    | append => exact sound.append taken
    | call => exact sound.call fits taken
    | finishRead => exact sound.finishRead fits taken
    | readAgain => exact sound.readAgain fits taken
    | readRing => exact sound.readRing fits taken
    | answer => exact sound.answer taken

omit sound

/-- Along every run whose steps meet the condition each subscriber receives exactly its events. -/
theorem delivers_of_fits (settings : Settings) (events : List Event)
    (each : EachCommand (advance settings)
      (fun system event => LargeBudgets settings system event ∧ Fits settings system event)
      (initial settings) events) (index : Nat) :
    Delivers (runAll (advance settings) (initial settings) events).store
      (settings.subscriptions index)
      ((runAll (advance settings) (initial settings) events).subscribers index) := by
  have sound : Sound settings (runAll (advance settings) (initial settings) events) :=
    runAll_preserves (fun _ _ meets sound => sound.advance meets.1 meets.2) each
      (sound_initial settings)
  exact (sound.subscribers index).delivers

/-- Every process allows 100 events and responses of 1,000 bytes, and the first subscriber asks for
all topics. -/
def sampleSettings : Settings where
  sizes := ⟨fun _ => 20, fun _ => 20, fun _ _ => 20⟩
  storePolicies := fun _ => ⟨100, 10000, 60000, 10, 1000⟩
  busPolicies := fun _ => ⟨64, 1000, 100, 10000⟩
  subscriptions := fun _ => ⟨0, [], 0⟩

def sampleEvent : ProtocolEventCandidate := ⟨"event", "topic", 0, ""⟩

theorem large_of_sample (system : System) (event : Event) :
    LargeBudgets sampleSettings system event := by
  have room : 2 + (20 + 1) ≤ 1000 := by decide
  cases event with
  | publish => exact fun _ _ _ => room
  | _ => trivial

/-- A subscriber reads an event after it was published. -/
theorem delivers_of_fits_sample : Delivers (runAll (advance sampleSettings) (initial sampleSettings)
      [.publish 1 sampleEvent 0, .call 0 .readEvents 0, .finishRead 0, .answer 0]).store
    ⟨0, [], 0⟩
    ((runAll (advance sampleSettings) (initial sampleSettings)
      [.publish 1 sampleEvent 0, .call 0 .readEvents 0, .finishRead 0, .answer 0]).subscribers 0) := by
  apply delivers_of_fits sampleSettings
  refine ⟨⟨large_of_sample _ _, trivial⟩, ⟨large_of_sample _ _, trivial⟩,
    ⟨large_of_sample _ _, ?_⟩, ⟨large_of_sample _ _, trivial⟩, trivial⟩
  intro _ _ event member _ _
  exact member

/-- Another process publishes between the two statements of a read, which skips the event. -/
theorem skipped_between_statements :
    EachCommand (advance sampleSettings) (LargeBudgets sampleSettings)
      (initial sampleSettings)
      [.call 0 .readEvents 0, .publish 1 sampleEvent 0, .finishRead 0, .answer 0] ∧ ¬ Delivers
      (runAll (advance sampleSettings) (initial sampleSettings)
        [.call 0 .readEvents 0, .publish 1 sampleEvent 0, .finishRead 0, .answer 0]).store
      ⟨0, [], 0⟩
      ((runAll (advance sampleSettings) (initial sampleSettings)
        [.call 0 .readEvents 0, .publish 1 sampleEvent 0, .finishRead 0, .answer 0]).subscribers
          0) := by
  refine ⟨⟨large_of_sample _ _, large_of_sample _ _, large_of_sample _ _, large_of_sample _ _,
    trivial⟩, ?_⟩
  intro delivers
  have missed := delivers.complete ⟨sampleEvent, 1⟩ (by decide +kernel) (by decide +kernel)
    (by decide +kernel) (by decide +kernel)
  revert missed
  decide +kernel

end LicoMesh.ProtocolEvents
