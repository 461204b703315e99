import LicoMesh.GatewayRuntime.Flushes

namespace LicoMesh.GatewayRuntime

open Library

variable {config : Config} {w : World}

structure Fresh (config : Config) (runtime : Runtime) : Prop where
  ring : runtime.auditEvents.length ≤ config.auditRingLimit
  pending : runtime.pendingAuditEvents = []
  deltas : runtime.metricDeltas = {}
  closed : runtime.closed = false

theorem Fresh.replay (fresh : Fresh config runtime) (entry : WalEntry) :
    Fresh config (replayEntry config runtime entry) := by
  have window : ∀ events : List AuditEvent,
      (recent config.auditRingLimit events).length ≤ config.auditRingLimit := fun events => by
    rw [length_recent]
    omega
  unfold replayEntry
  split
  · exact ⟨window _, fresh.pending, fresh.deltas, fresh.closed⟩
  · exact ⟨window _, fresh.pending, fresh.deltas, fresh.closed⟩

theorem fresh_logged (wal : Wal) : Fresh config (logged config wal) := by
  have initial : Fresh config {} := ⟨Nat.zero_le _, rfl, rfl, rfl⟩
  exact runAll_invariant (fun _ entry fresh => fresh.replay entry) initial wal.entries

theorem Left.restart (left : Left config w wal) : Sound config (w.restart config wal) := by
  have fresh : Fresh config (logged config wal) := fresh_logged wal
  obtain ⟨rest, isRing, -⟩ := left.ring
  have distinct := isRing.distinct
  rw [List.map_append] at distinct
  unfold World.restart
  rw [left.healthy.start]
  exact {
    healthy := left.healthy
    ready := rfl
    ring := by
      rw [fresh.pending]
      refine ⟨?_, Nat.zero_le _, ?_⟩
      · rw [List.append_nil]
        exact (recent_of_le fresh.ring).symm
      · rw [List.append_nil]
        exact .of_append_left distinct
    drawn := fun event isIn => by
      rw [fresh.pending, List.append_nil] at isIn
      exact left.drawn event isIn
    durable := left.durable
    counted := by
      rw [fresh.deltas]
      exact ⟨rfl, rfl⟩
    flushed := left.flushed
    flight := fun _ isSome => nomatch isSome
    clean := by
      rintro (settled | closed | ended)
      · exact nomatch settled
      · exact nomatch fresh.closed.symm.trans closed
      · exact nomatch ended }

theorem Sound.apply (sound : Sound config w)
    (meets : Meets config w command) : Sound config (w.apply config command) := by
  unfold World.apply
  cases command with
  | appendAudit eventType serviceId operationKey payload createdAt =>
    obtain ⟨opened, running, keeps⟩ := meets
    have appended := sound.append
      ⟨w.drawn, eventType, serviceId, operationKey, payload, createdAt⟩ rfl opened running keeps
    dsimp only
    split_ifs
    · exact appended.persist
    · exact appended
  | recordMetric serviceId bucketKey failed => exact sound.record _ _ _ meets.1 meets.2
  | persist => exact sound.persist
  | beginFlush =>
    dsimp only
    split_ifs with begins
    · exact sound.begin begins.2.2.2
    · exact sound
  | endFlush =>
    dsimp only
    split
    · exact sound
    · next flight isFlight => exact sound.complete isFlight
  | failFlush cut =>
    dsimp only
    split
    · exact sound
    · next flight isFlight =>
        obtain ⟨clean, short⟩ := meets flight isFlight
        exact sound.fail clean short
  | endLoop =>
    dsimp only
    split_ifs with ends
    · exact { sound with clean := fun _ => ends.2.2 }
    · exact sound
  | release =>
    dsimp only
    split_ifs with ended
    · exact { sound with clean := fun _ => sound.clean (.inr (.inr ended)) }
    · exact sound
  | close =>
    dsimp only
    split_ifs with closes
    · exact {
        healthy := sound.healthy
        ready := sound.ready
        ring := sound.ring
        drawn := sound.drawn
        durable := sound.durable
        counted := sound.counted
        flushed := sound.flushed
        flight := fun flight isFlight => by
          have dirty := (sound.flight flight isFlight).dirty
          exact nomatch closes.2.symm.trans dirty
        clean := fun _ => closes.2 }
    · exact sound
  | crash cut => exact (sound.crashed meets).restart

theorem sound_initial : Sound config {} where
  healthy := healthy_of_complete []
  ready := rfl
  ring := ⟨List.drop_nil.symm, Nat.zero_le _, List.nodup_nil⟩
  drawn := fun _ isIn => absurd isIn List.not_mem_nil
  durable := fun _ isIn => absurd isIn List.not_mem_nil
  counted := ⟨rfl, rfl⟩
  flushed := ⟨Nat.le_refl _, Nat.le_refl _⟩
  flight := fun _ isSome => nomatch isSome
  clean := fun _ => rfl

theorem Left.recovers (left : Left config w wal) :
    ∃ r, startRuntime config wal = some r ∧ RecoversCrash config w r := by
  obtain ⟨rest, isRing, isPending⟩ := left.ring
  obtain ⟨deltas, counted, fewer⟩ := left.missing
  have distinct := isRing.distinct
  rw [List.map_append] at distinct
  refine ⟨logged config wal, left.healthy.start, ?_, ?_, ?_, ?_⟩
  · refine ⟨left.flushed.forward, left.live.forward, ?_⟩
    rw [counted.forward]
    exact Nat.add_le_add_left fewer.forward _
  · refine ⟨left.flushed.failure, left.live.failure, ?_⟩
    rw [counted.failure]
    exact Nat.add_le_add_left fewer.failure _
  · intro event isIn
    rw [isRing.ring] at isIn
    exact (mem_recent_append isIn).imp (fun inWindow => (recent_sublist _ _).subset inWindow)
      (isPending event)
  · exact .of_append_left distinct

theorem Sound.recovers (sound : Sound config w) : Recovers config w where
  settled := fun settled => by
    obtain ⟨pending, forward, failure⟩ := dirty_eq_false (sound.clean (.inl settled))
    have fresh : Fresh config (logged config w.wal) := fresh_logged w.wal
    refine ⟨logged config w.wal, sound.healthy.start, ?_, ?_, ?_⟩
    · rw [sound.counted.forward, forward]
      rfl
    · rw [sound.counted.failure, failure]
      rfl
    · rw [sound.ring.ring, pending, List.append_nil, recent_of_le fresh.ring]
  kept := fun event isIn => by
    rw [sound.ring.ring] at isIn
    exact (List.mem_append.mp ((recent_sublist _ _).subset isIn)).imp (sound.durable event) id
  crash := fun _ meets => (sound.crashed meets).recovers

/-- In every run whose commands meet their conditions the log recovers what was recorded. -/
theorem run_recovers (config : Config) (commands : List Command)
    (each : EachCommand (World.apply config) (Meets config) {} commands) :
    Recovers config (.run config commands) := by
  have keeps : ∀ w command, Meets config w command → Sound config w →
      Sound config (w.apply config command) := fun _ _ meets sound => sound.apply meets
  have sound : Sound config (.run config commands) := runAll_preserves keeps each sound_initial
  exact sound.recovers

def sampleConfig : Config where
  auditRingLimit := 2
  flushBatchSize := 2
  metricDimensionLimit := 16
  walMaxBytes := 64 * 1024
  bytes := fun entry => 240 + 160 * entry.auditEvents.length
  ring_pos := Nat.two_pos

def sampleAudit (payload : String) : Command :=
  .appendAudit "upstream.forward.completed" "maps" "maps.route" payload 0

theorem run_recovers_sample : Recovers sampleConfig (.run sampleConfig [sampleAudit "first",
      .recordMetric "maps" "200" false, .persist, .beginFlush, .endFlush, .endLoop, .release,
      .crash .untouched]) :=
  run_recovers sampleConfig _
    ⟨⟨rfl, nofun, nofun⟩, ⟨rfl, nofun⟩, trivial, trivial, trivial, trivial, trivial,
      fun _ isFlight => (nomatch isFlight), trivial⟩

/-- A crash in the first append leaves a log on which no runtime starts; and events that push
those of a waiting flush out of the ring are themselves lost from the log, though a persist has
settled without a failed flush. -/
theorem recorded_events_lost :
    startRuntime sampleConfig ((World.run sampleConfig [.recordMetric "maps" "200" false,
        .persist, .beginFlush]).crashed sampleConfig (.partly 1)) = none ∧
      ∃ r, startRuntime sampleConfig (World.run sampleConfig [sampleAudit "first",
          sampleAudit "second", .persist, .beginFlush, sampleAudit "third", sampleAudit "fourth",
          .endFlush, .endLoop, .release]).wal = some r ∧
        (World.run sampleConfig [sampleAudit "first", sampleAudit "second", .persist,
          .beginFlush, sampleAudit "third", sampleAudit "fourth", .endFlush, .endLoop,
          .release]).settled = true ∧
        r.auditEvents.map (·.payload) = ["first", "second"] ∧
        (World.run sampleConfig [sampleAudit "first", sampleAudit "second", .persist,
          .beginFlush, sampleAudit "third", sampleAudit "fourth", .endFlush, .endLoop,
          .release]).runtime.auditEvents.map (·.payload) = ["third", "fourth"] :=
  ⟨by decide +kernel, _, rfl, by decide +kernel, by decide +kernel, by decide +kernel⟩

end LicoMesh.GatewayRuntime
