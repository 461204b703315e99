import LicoMesh.GatewayRuntime.Writes

namespace LicoMesh.GatewayRuntime

open Library List

variable {runtime : Runtime} {wal : Wal} {count : Nat} {cut : Cut} {config : Config} {w : World}
  {flight : Flight}

theorem dirty_eq_false (clean : runtime.dirty = false) : runtime.pendingAuditEvents = [] ∧
      runtime.metricDeltas.totalForwardCount = 0 ∧ runtime.metricDeltas.totalFailureCount = 0 := by
  unfold Runtime.dirty hasMetricDeltas at clean
  simp only [Bool.or_eq_false_iff, Bool.not_eq_false', decide_eq_false_iff_not, not_not,
    List.isEmpty_iff] at clean
  exact ⟨clean.1, clean.2.1.1.1, clean.2.1.1.2⟩

theorem dirty_of_pending (pending : runtime.pendingAuditEvents ≠ []) : runtime.dirty = true := by
  unfold Runtime.dirty
  rw [isEmpty_eq_false_iff.mpr pending]
  rfl

variable (sound : Sound config w)
include sound

theorem Sound.persist : Sound config w.persist := by
  unfold World.persist
  split_ifs with closed idle
  · exact { sound with clean := fun _ => sound.clean (.inr (.inl closed)) }
  · exact { sound with
      clean := by
        rintro (settled | closed | ended)
        · exact sound.clean (.inl settled)
        · exact sound.clean (.inr (.inl closed))
        · exact nomatch ended }
  · exact sound

theorem appendAudit_eq (event : AuditEvent) : appendAudit config w.runtime event = { w.runtime with
      auditEvents := recent config.auditRingLimit (w.runtime.auditEvents ++ [event])
      pendingAuditEvents := w.runtime.pendingAuditEvents.drop
        (w.runtime.pendingAuditEvents.length + 1 - config.auditRingLimit) ++ [event] } := by
  unfold appendAudit pushAuditEvent
  dsimp only
  rw [sound.ring.filter event]

variable (isFlight : w.flight = some flight)

include isFlight in
theorem Sound.waiting (keeps : keepsWaiting config w)
    (isPending : w.runtime.pendingAuditEvents = flight.waiting ++ newer) :
    w.runtime.pendingAuditEvents.drop
        (w.runtime.pendingAuditEvents.length + 1 - config.auditRingLimit) =
      flight.waiting ++ newer.drop (newer.length + 1 - config.auditRingLimit) := by
  obtain ⟨kept, -, isRing, fits⟩ := sound.ring.split
  have short := sound.ring.short
  rcases Nat.lt_or_ge w.runtime.pendingAuditEvents.length config.auditRingLimit with space | full
  · have fewer : newer.length ≤ w.runtime.pendingAuditEvents.length := by
      rw [isPending, length_append]
      omega
    rw [Nat.sub_eq_zero_of_le (Nat.succ_le_of_lt space),
      Nat.sub_eq_zero_of_le (by omega), drop_zero, drop_zero, isPending]
  · have none : kept = [] := eq_nil_of_length_eq_zero (by omega)
    rw [none, nil_append] at isRing
    cases isWaiting : flight.waiting with
    | nil =>
      rw [isWaiting, nil_append] at isPending
      rw [isPending, nil_append]
    | cons first rest =>
      refine absurd (isWaiting ▸ mem_cons_self) (keeps flight isFlight first ?_)
      rw [isRing, isPending, isWaiting, cons_append]
      have one : (first :: (rest ++ newer)).length + 1 - config.auditRingLimit = 1 := by
        rw [isPending, isWaiting, cons_append] at full short
        omega
      rw [one]
      exact mem_cons_self

theorem Sound.append (event : AuditEvent)
    (isNew : event.auditId = w.drawn) (opened : w.runtime.closed = false)
    (running : w.owner ≠ .ended) (keeps : keepsWaiting config w) : Sound config { w with
      runtime := appendAudit config w.runtime event
      drawn := w.drawn + 1
      settled := false } := by
  have fresh : ∀ old ∈ (logged config w.wal).auditEvents ++ w.runtime.pendingAuditEvents,
      old.auditId ≠ event.auditId := fun old isOld =>
    isNew ▸ Nat.ne_of_lt (sound.drawn old isOld)
  rw [appendAudit_eq sound event]
  exact {
    healthy := sound.healthy
    ready := sound.ready
    ring := sound.ring.push fresh
    drawn := fun old isOld => by
      rcases mem_append.mp isOld with isLogged | isPending
      · exact Nat.lt_succ_of_lt (sound.drawn old (mem_append_left _ isLogged))
      · rcases mem_append.mp isPending with isBefore | isLast
        · exact Nat.lt_succ_of_lt
            (sound.drawn old (mem_append_right _ (mem_of_mem_drop isBefore)))
        · rw [mem_singleton.mp isLast, isNew]
          exact Nat.lt_succ_self _
    durable := sound.durable
    counted := sound.counted
    flushed := sound.flushed
    flight := fun flight isFlight => by
      have facts := sound.flight flight isFlight
      obtain ⟨newer, isPending, seeded⟩ := facts.pending
      exact { facts with
        pending := by
          refine ⟨newer.drop (newer.length + 1 - config.auditRingLimit) ++ [event], ?_,
            seeded.push fun old isOld => ?_⟩
          · dsimp only
            rw [sound.waiting isFlight keeps isPending, append_assoc]
          · refine fresh old ?_
            rw [isPending]
            rcases mem_append.mp isOld with isSeed | isNewer
            · rw [facts.seed.2] at isSeed
              rcases mem_append.mp ((recent_sublist _ _).subset isSeed) with inLog | waits
              · exact mem_append_left _ inLog
              · exact mem_append_right _ (mem_append_left _ waits)
            · exact mem_append_right _ (mem_append_right _ isNewer)
        dirty := dirty_of_pending (append_ne_nil_of_right_ne_nil _ (cons_ne_nil _ _)) }
    clean := by
      rintro (settled | closed | ended)
      · exact nomatch settled
      · exact nomatch opened.symm.trans closed
      · exact absurd ended running }

theorem Sound.record (serviceId bucketKey : String) (failed : Bool)
    (opened : w.runtime.closed = false) (running : w.owner ≠ .ended) : Sound config { w with
      runtime := recordMetric config w.runtime serviceId bucketKey failed
      settled := false } := by
  have counts : hasMetricDeltas (recordMetric config w.runtime serviceId bucketKey failed) =
      true := by
    rfl
  exact {
    healthy := sound.healthy
    ready := sound.ready
    ring := sound.ring
    drawn := sound.drawn
    durable := sound.durable
    counted := ⟨congrArg (· + 1) sound.counted.forward,
      (congrArg (· + if failed then 1 else 0) sound.counted.failure).trans
        (Nat.add_assoc _ _ _)⟩
    flushed := sound.flushed
    flight := fun flight isFlight => by
      have facts := sound.flight flight isFlight
      exact { facts with
        within := ⟨Nat.le_succ_of_le facts.within.forward,
          Nat.le_add_right_of_le facts.within.failure⟩
        dirty := by
          unfold Runtime.dirty
          rw [counts, Bool.or_true] }
    clean := by
      rintro (settled | closed | ended)
      · exact nomatch settled
      · exact nomatch opened.symm.trans closed
      · exact absurd ended running }

theorem Sound.begin (dirty : w.runtime.dirty = true) :
    Sound config { w with flight := some (beginFlush config w.runtime) } where
  healthy := sound.healthy
  ready := sound.ready
  ring := sound.ring
  drawn := sound.drawn
  durable := sound.durable
  counted := sound.counted
  flushed := sound.flushed
  flight := fun flight isFlight => by
    cases isFlight
    obtain ⟨kept, isKept, isRing, fits⟩ := sound.ring.split
    have short : w.runtime.auditEvents.length ≤ config.auditRingLimit := by
      rw [isRing, length_append]
      exact fits
    have distinct : (w.runtime.auditEvents.map (·.auditId)).Nodup := by
      refine .sublist (.map _ ?_) sound.ring.distinct
      rw [isRing]
      exact isKept.append (.refl _)
    exact {
      pending := ⟨[], (append_nil _).symm, by
        refine ⟨?_, Nat.zero_le _, ?_⟩
        · rw [append_nil]
          exact (recent_of_le short).symm
        · rw [append_nil]
          exact distinct⟩
      batch := rfl
      delta := ⟨rfl, rfl, rfl⟩
      seed := ⟨rfl, sound.ring.ring⟩
      counted := sound.counted
      within := ⟨Nat.le_refl _, Nat.le_refl _⟩
      dirty := dirty }
  clean := sound.clean

omit sound

/-- How a log that has been written, or not, stands to what is recorded. -/
structure Left (config : Config) (w : World) (wal : Wal) : Prop where
  healthy : Healthy config wal
  ring : ∃ rest, RingSound config (logged config wal).auditEvents w.runtime.auditEvents rest ∧
    ∀ event ∈ rest, event ∈ w.runtime.pendingAuditEvents
  durable : ∀ event ∈ (logged config wal).auditEvents, event ∈ durableEvents wal
  drawn : ∀ event ∈ (logged config wal).auditEvents, event.auditId < w.drawn
  flushed : Within w.flushed (logged config wal).metrics
  live : Within (logged config wal).metrics w.runtime.metrics
  missing : ∃ deltas, Counted (logged config wal).metrics w.runtime.metrics deltas ∧
    Within deltas w.runtime.metricDeltas

include sound

theorem Sound.left (healthy : Healthy config wal)
    (same : wal.entries = w.wal.entries) : Left config w wal := by
  have isLogged : logged config wal = logged config w.wal := by
    unfold logged
    rw [same]
  have isDurable : durableEvents wal = durableEvents w.wal := by
    unfold durableEvents
    rw [same]
  refine ⟨healthy, ?_, ?_, ?_, ?_, ?_, ?_⟩
  · rw [isLogged]
    exact ⟨_, sound.ring, fun _ isIn => isIn⟩
  · rw [isLogged, isDurable]
    exact sound.durable
  · rw [isLogged]
    exact fun event isIn => sound.drawn event (mem_append_left _ isIn)
  · rw [isLogged]
    exact sound.flushed
  · rw [isLogged]
    exact ⟨Nat.le_of_add_right_le (Nat.le_of_eq sound.counted.forward.symm),
      Nat.le_of_add_right_le (Nat.le_of_eq sound.counted.failure.symm)⟩
  · rw [isLogged]
    exact ⟨_, sound.counted, Nat.le_refl _, Nat.le_refl _⟩

include isFlight

section

variable (written : Written config w flight wal count)
include written

theorem Written.ring_after (fits : count ≤ flight.waiting.length) :
    RingSound config (logged config wal).auditEvents w.runtime.auditEvents
      (w.runtime.pendingAuditEvents.drop count) := by
  obtain ⟨newer, isPending, -⟩ := (sound.flight flight isFlight).pending
  have taken : (flight.waiting ++ newer).take count = flight.waiting.take count :=
    take_append_of_le_length fits
  have parts : w.runtime.pendingAuditEvents = flight.waiting.take count ++
      w.runtime.pendingAuditEvents.drop count := by
    rw [← taken, ← isPending, take_append_drop]
  rw [written.ring]
  exact sound.ring.log parts

theorem Written.drawn : ∀ event ∈ (logged config wal).auditEvents, event.auditId < w.drawn := by
  obtain ⟨newer, isPending, -⟩ := (sound.flight flight isFlight).pending
  intro event isIn
  rw [written.ring] at isIn
  refine sound.drawn event ?_
  rcases mem_append.mp ((recent_sublist _ _).subset isIn) with inLog | taken
  · exact mem_append_left _ inLog
  · rw [isPending]
    exact mem_append_right _ (mem_append_left _ (mem_of_mem_take taken))

theorem Written.counted : Counted (logged config wal).metrics w.runtime.metrics
      (subtractMetricDeltas w.runtime.metricDeltas flight.batchMetrics) := by
  have facts := sound.flight flight isFlight
  have forward := sound.counted.forward
  have failure := sound.counted.failure
  have seedForward := facts.counted.forward
  have seedFailure := facts.counted.failure
  have withinForward := facts.within.forward
  have withinFailure := facts.within.failure
  constructor
  · rw [written.forward]
    unfold subtractMetricDeltas
    dsimp only
    omega
  · rw [written.failure]
    unfold subtractMetricDeltas
    dsimp only
    omega

theorem Written.left (fits : count ≤ flight.waiting.length) : Left config w wal := by
  have facts := sound.flight flight isFlight
  have counted := written.counted sound isFlight
  have flushed := sound.flushed
  have seedForward := facts.counted.forward
  have seedFailure := facts.counted.failure
  refine ⟨written.healthy, ⟨_, written.ring_after sound isFlight fits,
    fun event isIn => mem_of_mem_drop isIn⟩, written.durable,
    written.drawn sound isFlight, ⟨?_, ?_⟩, ⟨?_, ?_⟩, ⟨_, counted, ?_, ?_⟩⟩
  · rw [written.forward]
    have := flushed.forward
    omega
  · rw [written.failure]
    have := flushed.failure
    omega
  · exact Nat.le_of_add_right_le (Nat.le_of_eq counted.forward.symm)
  · exact Nat.le_of_add_right_le (Nat.le_of_eq counted.failure.symm)
  · exact Nat.sub_le _ _
  · exact Nat.sub_le _ _

end

theorem Sound.batch_fits : flight.batchAuditEvents.length ≤ flight.waiting.length := by
  rw [(sound.flight flight isFlight).batch]
  exact length_take_le' _ _

omit isFlight

variable (clean : cleanCut config w.wal flight cut)
  (short : cut = .done → appendPlan config w.wal flight = .refused)

include short in
include clean in
theorem Sound.cut_short : Healthy config (w.wal.cutOff config flight cut) ∧
      (w.wal.cutOff config flight cut).entries = w.wal.entries := by
  unfold Wal.cutOff
  cases cut with
  | untouched => exact ⟨sound.healthy, rfl⟩
  | partly count =>
    dsimp only
    split
    · next plan =>
        refine ⟨fun torn isTorn => ?_, rfl⟩
        split_ifs at isTorn with none
        cases isTorn
        obtain ⟨short, present⟩ := clean plan none
        exact ⟨Nat.lt_of_le_of_lt (Nat.min_le_left _ _) short, present⟩
    · exact ⟨sound.healthy, rfl⟩
  | done =>
    unfold appendBoundedJsonLine
    rw [short rfl]
    exact ⟨sound.healthy, rfl⟩

include clean in
include isFlight in
theorem Sound.cutOff : Left config w (w.wal.cutOff config flight cut) := by
  cases cut with
  | untouched => exact sound.left sound.healthy rfl
  | partly count =>
    obtain ⟨healthy, same⟩ := sound.cut_short clean nofun
    exact sound.left healthy same
  | done =>
    unfold Wal.cutOff
    dsimp only
    unfold appendBoundedJsonLine
    split
    · exact sound.left sound.healthy rfl
    · exact (sound.appended isFlight).left sound isFlight (sound.batch_fits isFlight)
    · exact (sound.replaced isFlight).left sound isFlight (Nat.le_refl _)

theorem Sound.crashed (meets : Meets config w (.crash cut)) :
    Left config w (w.crashed config cut) := by
  unfold World.crashed
  split
  · exact sound.left sound.healthy rfl
  · next flight isFlight => exact sound.cutOff isFlight (meets flight isFlight)

include isFlight

theorem Sound.written (written : Written config w flight wal count)
    (fits : count ≤ flight.waiting.length) (isRing : runtime.auditEvents = w.runtime.auditEvents)
    (isPending : runtime.pendingAuditEvents = w.runtime.pendingAuditEvents.drop count)
    (isMetrics : runtime.metrics = w.runtime.metrics) (isDeltas : runtime.metricDeltas =
      subtractMetricDeltas w.runtime.metricDeltas flight.batchMetrics)
    (isClosed : runtime.closed = w.runtime.closed) : Sound config { w with
      wal := wal
      runtime := runtime
      flight := none
      flushed := flight.seed.metrics } where
  healthy := written.healthy
  ready := sound.ready
  ring := by
    rw [isRing, isPending]
    exact written.ring_after sound isFlight fits
  drawn := fun event isIn => by
    rw [isPending] at isIn
    rcases mem_append.mp isIn with inLog | isLeft
    · exact written.drawn sound isFlight event inLog
    · exact sound.drawn event (mem_append_right _ (mem_of_mem_drop isLeft))
  durable := written.durable
  counted := by
    rw [isMetrics, isDeltas]
    exact written.counted sound isFlight
  flushed := ⟨Nat.le_of_eq written.forward.symm, Nat.le_of_eq written.failure.symm⟩
  flight := fun _ isSome => nomatch isSome
  clean := by
    have dirty := (sound.flight flight isFlight).dirty
    rintro (settled | closed | ended)
    · exact nomatch (sound.clean (.inl settled)).symm.trans dirty
    · dsimp only at closed
      rw [isClosed] at closed
      exact nomatch (sound.clean (.inr (.inl closed))).symm.trans dirty
    · exact nomatch (sound.clean (.inr (.inr ended))).symm.trans dirty

theorem Sound.complete : Sound config (w.completeFlush config flight) := by
  unfold World.completeFlush appendBoundedJsonLine
  cases appendPlan config w.wal flight with
  | refused =>
    exact { sound with
      flight := fun _ isSome => nomatch isSome
      clean := by
        rintro (settled | closed | ended)
        · exact sound.clean (.inl settled)
        · exact sound.clean (.inr (.inl closed))
        · exact nomatch ended }
  | append =>
    exact sound.written isFlight (sound.appended isFlight) (sound.batch_fits isFlight) rfl rfl
      rfl rfl rfl
  | replace =>
    exact sound.written isFlight (sound.replaced isFlight) (Nat.le_refl _) rfl rfl rfl rfl rfl

omit isFlight

include short in
include clean in
theorem Sound.fail : Sound config { w with
      wal := w.wal.cutOff config flight cut
      owner := .idle
      flight := none } := by
  obtain ⟨healthy, same⟩ := sound.cut_short clean short
  have isLogged : logged config (w.wal.cutOff config flight cut) = logged config w.wal := by
    unfold logged
    rw [same]
  have isDurable : durableEvents (w.wal.cutOff config flight cut) = durableEvents w.wal := by
    unfold durableEvents
    rw [same]
  exact {
    healthy := healthy
    ready := sound.ready
    ring := by
      rw [isLogged]
      exact sound.ring
    drawn := by
      rw [isLogged]
      exact sound.drawn
    durable := by
      rw [isLogged, isDurable]
      exact sound.durable
    counted := by
      rw [isLogged]
      exact sound.counted
    flushed := by
      rw [isLogged]
      exact sound.flushed
    flight := fun _ isSome => nomatch isSome
    clean := by
      rintro (settled | closed | ended)
      · exact sound.clean (.inl settled)
      · exact sound.clean (.inr (.inl closed))
      · exact nomatch ended }

end LicoMesh.GatewayRuntime
