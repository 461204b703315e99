import LicoMesh.ProtocolEvents.EventStore
import LicoMesh.WorkQueue.Serialization
import LicoMesh.Library.CursorFeed

namespace LicoMesh.ProtocolEvents

open WorkQueue Library

/-! The event bus: topics, response budgets, the ring of recent events and subscribers. -/

structure BusPolicy where
  maxTopics : Nat
  maxResponseBytes : Nat
  maxRecentRecords : Nat
  maxRecentBytes : Nat

def normalizeTopic (value : String) : String := String.ofList ((toText value).toList.take 256)

/-- The topics that `normalizeTopics` returns when they are not too many. -/
def topicSet (topics : List String) : List String :=
  ((topics.map normalizeTopic).filter (· ≠ "")).dedup.insertionSort (· ≤ ·)

def normalizeTopics (topics : List String) (maxTopics : Nat) : Option (List String) :=
  let normalized := topicSet topics
  if maxTopics < normalized.length then none else some normalized

/-- `0` stands for a missing limit. -/
def limitValue (value : Int) : Nat := (max 1 (min 500 (if value = 0 then 100 else value))).toNat

/-- An event of a page; `omittedBytes` is there for one that is delivered as metadata only. -/
structure PageEvent where
  event : ProtocolEvent
  omittedBytes : Option Nat

/-- What the loop of `boundEventPage` has collected. -/
structure BoundedPage where
  events : List PageEvent
  responseBytes : Nat
  cursor : Nat
  truncated : Bool

def boundLoop (sizes : EventSizes) (maxResponseBytes : Nat) :
    List ProtocolEvent → BoundedPage → BoundedPage
  | [], page => page
  | event :: rest, page =>
    let eventBytes := sizes.eventBytes event + 1
    if page.responseBytes + eventBytes ≤ maxResponseBytes then
      boundLoop sizes maxResponseBytes rest { page with
        events := page.events ++ [⟨event, none⟩]
        responseBytes := page.responseBytes + eventBytes }
    else if page.events.isEmpty then
      let boundedBytes := sizes.metadataBytes event eventBytes + 1
      if page.responseBytes + boundedBytes ≤ maxResponseBytes then
        { page with
          events := [⟨event, some eventBytes⟩]
          responseBytes := page.responseBytes + boundedBytes
          cursor := event.offset
          truncated := true }
      else { page with cursor := event.offset, truncated := true }
    else { page with truncated := true }

structure Page where
  events : List PageEvent
  nextCursor : Nat

def boundEventPage (sizes : EventSizes) (maxResponseBytes cursor nextCursor : Nat)
    (events : List ProtocolEvent) : Page :=
  let bounded := boundLoop sizes maxResponseBytes events ⟨[], 2, cursor, false⟩
  { events := bounded.events
    nextCursor :=
      if bounded.truncated then lastOffsetOf (bounded.events.map (·.event)) bounded.cursor
      else if nextCursor = 0 then bounded.cursor else nextCursor }

structure RecentEvent where
  event : ProtocolEvent
  bytes : Nat

/-- `publishing` are the results that `publish` still awaits, and `reading` is the subscriber whose
read is between its two statements. -/
structure EventBus where
  recentEvents : List RecentEvent := []
  recentBytes : Nat := 0
  recentLastOffset : Nat := 0
  publishing : List ProtocolEvent := []
  reading : Option Nat := none

def trimRecent (policy : BusPolicy) : List RecentEvent → Nat → List RecentEvent × Nat
  | [], bytes => ([], bytes)
  | entry :: rest, bytes =>
    if policy.maxRecentRecords < rest.length + 1 || policy.maxRecentBytes < bytes then
      trimRecent policy rest (bytes - entry.bytes)
    else (entry :: rest, bytes)

def appendRecent (sizes : EventSizes) (policy : BusPolicy) (event : ProtocolEvent)
    (bus : EventBus) : EventBus :=
  if event.offset = 0 then bus
  else
    let kept := if 0 < bus.recentLastOffset && event.offset ≠ bus.recentLastOffset + 1 then ([], 0)
      else (bus.recentEvents, bus.recentBytes)
    let bytes := sizes.eventBytes event
    let trimmed := trimRecent policy (kept.1 ++ [⟨event, bytes⟩]) (kept.2 + bytes)
    { bus with
      recentEvents := trimmed.1
      recentBytes := trimmed.2
      recentLastOffset := event.offset }

def EventBus.recentAbove (bus : EventBus) (cursor : Nat) (topics : List String) :
    List ProtocolEvent :=
  (bus.recentEvents.map (·.event)).filter fun event =>
    cursor < event.offset && inTopics topics event

def readRecent (sizes : EventSizes) (policy : BusPolicy) (bus : EventBus) (cursor : Nat)
    (topics : List String) (limit : Nat) : Option Page :=
  match bus.recentEvents with
  | [] => none
  | first :: _ =>
    if cursor < first.event.offset - 1 then none
    else
      let events := (bus.recentAbove cursor topics).take limit
      some (boundEventPage sizes policy.maxResponseBytes cursor
        (nextCursorOf events limit cursor bus.recentLastOffset) events)

inductive CallKind
  | readEvents
  | subscribe

structure Call where
  kind : CallKind
  topics : List String
  limit : Nat

/-- Where a call is: between the two statements of a read of the store, or with a page; the
watermarks are those that the read has met. -/
inductive Phase
  | idle
  | selected (call : Call) (readTopics : List String) (rows : List ProtocolEvent)
      (watermark lastOffset : Nat)
  | ready (call : Call) (page : Page) (before after : Nat)

/-- One subscriber: its bus, the topics that it asks for and the cursor that it starts at. -/
structure Subscription where
  bus : Nat
  topics : List String
  start : Nat

/-- `answers` are the answers that the subscriber has got. -/
structure Subscriber where
  cursor : Nat
  phase : Phase := .idle
  answers : List (Batch PageEvent) := []

structure System where
  store : EventStore := {}
  buses : Nat → EventBus := fun _ => {}
  subscribers : Nat → Subscriber

structure Settings where
  sizes : EventSizes
  storePolicies : Nat → StorePolicy
  busPolicies : Nat → BusPolicy
  subscriptions : Nat → Subscription

inductive Event
  | publish (bus : Nat) (candidate : ProtocolEventCandidate) (nowMs : Int)
  | append (bus : Nat) (event : ProtocolEvent)
  | call (subscriber : Nat) (kind : CallKind) (limit : Int)
  | finishRead (subscriber : Nat)
  | readAgain (subscriber : Nat)
  | readRing (subscriber : Nat)
  | answer (subscriber : Nat)

def System.setBus (system : System) (index : Nat) (bus : EventBus) : System :=
  { system with buses := Function.update system.buses index bus }

def System.setSubscriber (system : System) (index : Nat) (subscriber : Subscriber) : System :=
  { system with subscribers := Function.update system.subscribers index subscriber }

/-- The first statement of a read; `readWithRevision` normalizes the topics of the call. -/
def startRead (settings : Settings) (system : System) (index : Nat) (call : Call)
    (readTopics : List String) : System :=
  let subscription := settings.subscriptions index
  let subscriber := system.subscribers index
  let bus := system.buses subscription.bus
  let rows := system.store.selectRows subscriber.cursor readTopics call.limit
  (system.setBus subscription.bus { bus with reading := some index }).setSubscriber index
    { subscriber with
      phase := .selected call readTopics rows system.store.watermark system.store.lastOffset }

/-- One step of a process; a process does nothing else between the two statements of a read. -/
def step (settings : Settings) (event : Event) (system : System) : Option System :=
  match event with
  | .publish index candidate nowMs =>
    let bus := system.buses index
    if bus.reading.isSome then none
    else
      let published := publishTransaction settings.sizes (settings.storePolicies index)
        candidate nowMs system.store
      some ({ system with store := published.1 }.setBus index { bus with
        publishing := bus.publishing ++ published.2.toList })
  | .append index event =>
    let bus := system.buses index
    if bus.reading.isSome || event ∉ bus.publishing then none
    else some (system.setBus index (appendRecent settings.sizes (settings.busPolicies index)
      event { bus with publishing := bus.publishing.erase event }))
  | .call index kind limit =>
    let subscription := settings.subscriptions index
    let maxTopics := (settings.busPolicies subscription.bus).maxTopics
    if (system.buses subscription.bus).reading.isSome then none
    else match (system.subscribers index).phase, kind with
      | .idle, .readEvents => do
          let topics ← normalizeTopics subscription.topics maxTopics
          some (startRead settings system index ⟨kind, topics, limitValue limit⟩ topics)
      | .idle, .subscribe => do
          let topics ← normalizeTopics subscription.topics maxTopics
          let readTopics ← normalizeTopics topics maxTopics
          some (startRead settings system index ⟨kind, topics, limitValue limit⟩ readTopics)
      | _, _ => none
  | .finishRead index =>
    let subscription := settings.subscriptions index
    let subscriber := system.subscribers index
    match subscriber.phase with
    | .selected call _ rows watermark _ =>
      let nextCursor := nextCursorOf rows call.limit subscriber.cursor system.store.maxOffset
      let page := boundEventPage settings.sizes
        (settings.busPolicies subscription.bus).maxResponseBytes subscriber.cursor nextCursor
        rows
      let bus := system.buses subscription.bus
      some ((system.setBus subscription.bus { bus with reading := none }).setSubscriber index
        { subscriber with phase := .ready call page watermark system.store.watermark })
    | _ => none
  | .readAgain index =>
    let subscription := settings.subscriptions index
    let maxTopics := (settings.busPolicies subscription.bus).maxTopics
    match (system.subscribers index).phase with
    | .ready ⟨.subscribe, topics, limit⟩ ⟨[], _⟩ _ _ =>
      if (system.buses subscription.bus).reading.isSome then none
      else do
        let readTopics ← normalizeTopics topics maxTopics
        some (startRead settings system index ⟨.subscribe, topics, limit⟩ readTopics)
    | _ => none
  | .readRing index =>
    let subscription := settings.subscriptions index
    let subscriber := system.subscribers index
    let bus := system.buses subscription.bus
    match subscriber.phase with
    | .ready ⟨.subscribe, topics, limit⟩ ⟨[], _⟩ _ _ =>
      if bus.reading.isSome then none
      else do
        let page ← readRecent settings.sizes (settings.busPolicies subscription.bus) bus
          subscriber.cursor topics limit
        let watermark := system.store.watermark
        some (system.setSubscriber index { subscriber with
          phase := .ready ⟨.subscribe, topics, limit⟩ page watermark watermark })
    | _ => none
  | .answer index =>
    let subscriber := system.subscribers index
    if (system.buses (settings.subscriptions index).bus).reading.isSome then none
    else match subscriber.phase with
      | .ready _ page before after =>
        some (system.setSubscriber index
          { cursor := page.nextCursor
            phase := .idle
            answers := subscriber.answers ++
              [⟨subscriber.cursor, page.nextCursor, before, after, page.events⟩] })
      | _ => none

def System.initial (settings : Settings) : System where
  subscribers := fun index => { cursor := (settings.subscriptions index).start }

def advance (settings : Settings) (system : System) (event : Event) : System :=
  (step settings event system).getD system

end LicoMesh.ProtocolEvents
