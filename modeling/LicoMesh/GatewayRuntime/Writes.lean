import LicoMesh.GatewayRuntime.Runs

namespace LicoMesh.GatewayRuntime

open Library List

variable {event : AuditEvent} {entries : List WalEntry} {wal : Wal}

section Ring

variable {config : Config} {events pending ring : List AuditEvent}

theorem foldl_upsertById (distinct : ((before ++ events).map (·.auditId)).Nodup) :
    events.foldl upsertById before = before ++ events := by
  induction events generalizing before with
  | nil => rw [foldl_nil, append_nil]
  | cons event rest induction =>
    have absent : ¬before.any (·.auditId = event.auditId) = true := by
      intro found
      obtain ⟨old, isOld, same⟩ := any_eq_true.mp found
      rw [map_append, map_cons] at distinct
      refine disjoint_of_nodup_append distinct (mem_map_of_mem isOld) ?_
      exact mem_cons.mpr (.inl (of_decide_eq_true same))
    have adds : upsertById before event = before ++ [event] := if_neg absent
    have split : before ++ event :: rest = (before ++ [event]) ++ rest := by
      rw [append_assoc, singleton_append]
    rw [foldl_cons, adds, split, induction (split ▸ distinct)]

theorem applyRecoveredAuditEvents_eq (distinct : ((ring ++ events).map (·.auditId)).Nodup) :
    applyRecoveredAuditEvents config ring events =
      recent config.auditRingLimit (ring ++ events) := by
  have all : (([] ++ (ring ++ events) : List AuditEvent).map (·.auditId)).Nodup := distinct
  unfold applyRecoveredAuditEvents
  rw [foldl_upsertById all, nil_append]

structure RingSound (config : Config) (logged ring pending : List AuditEvent) : Prop where
  ring : ring = recent config.auditRingLimit (logged ++ pending)
  short : pending.length ≤ config.auditRingLimit
  distinct : ((logged ++ pending).map (·.auditId)).Nodup

variable (sound : RingSound config logged ring pending)
include sound

theorem RingSound.split : ∃ kept, kept.Sublist logged ∧ ring = kept ++ pending ∧
      kept.length + pending.length ≤ config.auditRingLimit := by
  have short := sound.short
  refine ⟨logged.drop (logged.length + pending.length - config.auditRingLimit),
    drop_sublist _ _, ?_, ?_⟩
  · rw [sound.ring]
    unfold recent
    rw [length_append, drop_append_of_le_length (by omega)]
  · rw [length_drop]
    omega

theorem RingSound.filter (event : AuditEvent) : pending.filter (fun old => old.auditId ∉
        (shedEvents config (ring ++ [event])).map (·.auditId)) =
      pending.drop (pending.length + 1 - config.auditRingLimit) := by
  obtain ⟨kept, isKept, isRing, fits⟩ := sound.split
  have positive := config.ring_pos
  have distinct := sound.distinct
  rw [map_append] at distinct
  subst isRing
  unfold shedEvents
  rw [length_append, length_append, length_singleton]
  cases kept with
  | nil =>
    rw [nil_append, length_nil, Nat.zero_add, take_append_of_le_length (by omega)]
    exact filter_take_keys (.of_append_right distinct) _
  | cons first rest =>
    rw [length_cons] at fits ⊢
    have none : pending.length + 1 - config.auditRingLimit = 0 := by omega
    rw [none, drop_zero, filter_eq_self]
    intro old isOld
    refine decide_eq_true fun dropped => ?_
    obtain ⟨shed, isShed, same⟩ := mem_map.mp dropped
    have one : rest.length + 1 + pending.length + 1 - config.auditRingLimit ≤ 1 := by omega
    have isFirst : shed ∈ [first] := (take_subset_take_left _ one) isShed
    have inLog : first ∈ logged := isKept.subset mem_cons_self
    rw [mem_singleton.mp isFirst] at same
    exact disjoint_of_nodup_append distinct (mem_map_of_mem inLog) (same ▸ mem_map_of_mem isOld)

theorem RingSound.push (fresh : ∀ old ∈ logged ++ pending, old.auditId ≠ event.auditId) :
    RingSound config logged (recent config.auditRingLimit (ring ++ [event]))
      (pending.drop (pending.length + 1 - config.auditRingLimit) ++ [event]) where
  ring := by
    rw [sound.ring, recent_append_recent, recent_drop_snoc sound.short config.ring_pos,
      append_assoc]
  short := by
    have := config.ring_pos
    rw [length_append, length_drop, length_singleton]
    omega
  distinct := by
    have sublist : (logged ++ (pending.drop (pending.length + 1 - config.auditRingLimit) ++
        [event])).Sublist ((logged ++ pending) ++ [event]) := by
      rw [append_assoc]
      exact (Sublist.refl _).append ((drop_sublist _ _).append (Sublist.refl _))
    refine .sublist (sublist.map _) ?_
    rw [map_append]
    refine .append sound.distinct (nodup_singleton _) ?_
    intro auditId isOld isNew
    obtain ⟨old, isIn, same⟩ := mem_map.mp isOld
    exact fresh old isIn (same.trans (mem_singleton.mp isNew))

theorem RingSound.log (parts : pending = batch ++ rest) :
    RingSound config (recent config.auditRingLimit (logged ++ batch)) ring rest where
  ring := by rw [sound.ring, parts, recent_append_recent, append_assoc]
  short := by
    have := sound.short
    rw [parts, length_append] at this
    omega
  distinct := by
    refine .sublist (.map _ ?_) sound.distinct
    rw [parts, ← append_assoc]
    exact (recent_sublist _ _).append (.refl _)

end Ring

variable {config : Config} {w : World}

theorem replay_append : (entries ++ [entry]).foldl (replayEntry config) runtime =
      replayEntry config (entries.foldl (replayEntry config) runtime) entry := by
  rw [foldl_append, foldl_cons, foldl_nil]

def logged (config : Config) (wal : Wal) : Runtime := wal.entries.foldl (replayEntry config) {}

/-- A log with a complete record, or nothing at all, before a part of one. -/
def Healthy (config : Config) (wal : Wal) : Prop :=
  ∀ torn, wal.torn = some torn → torn.2 < config.bytes torn.1 ∧ wal.entries ≠ []

theorem Healthy.lines (healthy : Healthy config wal) : wal.lines config = wal.entries := by
  unfold Wal.lines
  cases isTorn : wal.torn with
  | none => exact append_nil _
  | some torn =>
    have short := (healthy torn isTorn).1
    have unreadable : parseTorn config torn = none := if_neg (Nat.ne_of_lt short)
    rw [Option.bind_some, unreadable]
    exact append_nil _

theorem Healthy.start (healthy : Healthy config wal) :
    startRuntime config wal = some (logged config wal) := by
  have starts : ¬(0 < wal.size config ∧ wal.entries = []) := by
    rintro ⟨size, empty⟩
    cases isTorn : wal.torn with
    | none =>
      unfold Wal.size at size
      rw [empty, isTorn] at size
      exact Nat.lt_irrefl _ size
    | some torn => exact (healthy torn isTorn).2 empty
  unfold startRuntime replayWal logged
  rw [healthy.lines, if_neg starts]

theorem healthy_of_complete (entries : List WalEntry) : Healthy config ⟨entries, none⟩ :=
  fun _ isTorn => nomatch isTorn

structure Counted (logged live deltas : Metrics) : Prop where
  forward : live.totalForwardCount = logged.totalForwardCount + deltas.totalForwardCount
  failure : live.totalFailureCount = logged.totalFailureCount + deltas.totalFailureCount

structure Within (fewer more : Metrics) : Prop where
  forward : fewer.totalForwardCount ≤ more.totalForwardCount
  failure : fewer.totalFailureCount ≤ more.totalFailureCount

/-- What a flush that waits has found, and what has come since. -/
structure FlightSound (config : Config) (wal : Wal) (runtime : Runtime) (flight : Flight) :
    Prop where
  pending : ∃ newer, runtime.pendingAuditEvents = flight.waiting ++ newer ∧
    RingSound config flight.seed.auditEvents runtime.auditEvents newer
  batch : flight.batchAuditEvents = flight.waiting.take config.flushBatchSize
  delta : flight.delta.kind = .delta ∧ flight.delta.auditEvents = flight.batchAuditEvents ∧
    flight.delta.metrics = flight.batchMetrics
  seed : flight.seed.kind = .seed ∧ flight.seed.auditEvents =
    recent config.auditRingLimit ((logged config wal).auditEvents ++ flight.waiting)
  counted : Counted (logged config wal).metrics flight.seed.metrics flight.batchMetrics
  within : Within flight.batchMetrics runtime.metricDeltas
  dirty : runtime.dirty = true

structure Sound (config : Config) (w : World) : Prop where
  healthy : Healthy config w.wal
  ready : w.ready = true
  ring : RingSound config (logged config w.wal).auditEvents w.runtime.auditEvents
    w.runtime.pendingAuditEvents
  drawn : ∀ event ∈ (logged config w.wal).auditEvents ++ w.runtime.pendingAuditEvents,
    event.auditId < w.drawn
  durable : ∀ event ∈ (logged config w.wal).auditEvents, event ∈ durableEvents w.wal
  counted : Counted (logged config w.wal).metrics w.runtime.metrics w.runtime.metricDeltas
  flushed : Within w.flushed (logged config w.wal).metrics
  flight : ∀ flight, w.flight = some flight → FlightSound config w.wal w.runtime flight
  clean : w.settled = true ∨ w.runtime.closed = true ∨ w.owner = .ended → w.runtime.dirty = false

variable {flight : Flight}

theorem logged_append (kind : flight.delta.kind = .delta)
    (distinct : (((logged config wal).auditEvents ++ flight.delta.auditEvents).map
      (·.auditId)).Nodup) :
    (logged config ⟨wal.entries ++ [flight.delta], none⟩).auditEvents = recent config.auditRingLimit
          ((logged config wal).auditEvents ++ flight.delta.auditEvents) ∧
      (logged config ⟨wal.entries ++ [flight.delta], none⟩).metrics =
        applyRecoveredMetrics config (logged config wal).metrics flight.delta.metrics := by
  unfold logged
  rw [replay_append]
  unfold replayEntry
  rw [kind]
  exact ⟨applyRecoveredAuditEvents_eq distinct, rfl⟩

theorem logged_replace (config : Config) (kind : flight.seed.kind = .seed) :
    (logged config ⟨[flight.seed], none⟩).auditEvents =
        recent config.auditRingLimit flight.seed.auditEvents ∧
      (logged config ⟨[flight.seed], none⟩).metrics =
        applyRecoveredMetrics config emptyMetrics flight.seed.metrics := by
  unfold logged
  rw [foldl_cons, foldl_nil]
  unfold replayEntry
  rw [kind]
  exact ⟨rfl, rfl⟩

/-- How a completed write leaves the log: the first part of what the flush has found pending is
in it, with all counts of the flush. -/
structure Written (config : Config) (w : World) (flight : Flight) (wal : Wal) (count : Nat) :
    Prop where
  healthy : Healthy config wal
  ring : (logged config wal).auditEvents = recent config.auditRingLimit
    ((logged config w.wal).auditEvents ++ flight.waiting.take count)
  forward : (logged config wal).metrics.totalForwardCount = flight.seed.metrics.totalForwardCount
  failure : (logged config wal).metrics.totalFailureCount = flight.seed.metrics.totalFailureCount
  durable : ∀ event ∈ (logged config wal).auditEvents, event ∈ durableEvents wal

theorem mem_durable_append : event ∈ durableEvents ⟨entries ++ [entry], none⟩ ↔
      event ∈ durableEvents ⟨entries, none⟩ ∨ event ∈ entry.auditEvents := by
  unfold durableEvents
  rw [flatMap_append, mem_append, flatMap_cons, flatMap_nil, append_nil]

variable {flight : Flight}

theorem Sound.appended (sound : Sound config w) (isFlight : w.flight = some flight) :
    Written config w flight ⟨w.wal.entries ++ [flight.delta], none⟩
      flight.batchAuditEvents.length := by
  have facts := sound.flight flight isFlight
  obtain ⟨newer, isPending, -⟩ := facts.pending
  obtain ⟨kind, isEvents, isMetrics⟩ := facts.delta
  have taken : flight.waiting.take flight.batchAuditEvents.length = flight.batchAuditEvents := by
    rw [facts.batch, length_take]
    exact take_eq_take_iff.mpr (by omega)
  have distinct : (((logged config w.wal).auditEvents ++ flight.delta.auditEvents).map
      (·.auditId)).Nodup := by
    refine Nodup.sublist (Sublist.map _ ?_) sound.ring.distinct
    rw [isEvents, isPending, facts.batch]
    refine (Sublist.refl _).append ((take_sublist _ _).trans ?_)
    exact sublist_append_left _ _
  obtain ⟨ring, metrics⟩ := logged_append kind distinct
  refine ⟨healthy_of_complete _, ?_, ?_, ?_, ?_⟩
  · rw [ring, isEvents, taken]
  · rw [metrics, isMetrics]
    exact facts.counted.forward.symm
  · rw [metrics, isMetrics]
    exact facts.counted.failure.symm
  · intro event isIn
    rw [ring] at isIn
    refine mem_durable_append.mpr ?_
    exact (mem_append.mp ((recent_sublist _ _).subset isIn)).imp (sound.durable event) id

theorem Sound.replaced (sound : Sound config w) (isFlight : w.flight = some flight) :
    Written config w flight ⟨[flight.seed], none⟩ flight.waiting.length := by
  have facts := sound.flight flight isFlight
  obtain ⟨kind, isEvents⟩ := facts.seed
  obtain ⟨ring, metrics⟩ := logged_replace config kind
  refine ⟨healthy_of_complete _, ?_, ?_, ?_, ?_⟩
  · rw [ring, isEvents, take_length]
    exact recent_of_le (by rw [length_recent]; omega)
  · rw [metrics]
    exact Nat.zero_add _
  · rw [metrics]
    exact Nat.zero_add _
  · intro event isIn
    rw [ring] at isIn
    unfold durableEvents
    rw [flatMap_cons, flatMap_nil, append_nil]
    exact (recent_sublist _ _).subset isIn

end LicoMesh.GatewayRuntime
