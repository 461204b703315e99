import LicoMesh.PluginLifecycle.Package

namespace LicoMesh.PluginLifecycle.Package

open PackageState PackageRecord

open Library

variable {active : ActiveGeneration} {key : Option String} {next : Plugin}

def Plugin.refuses (plugin : Plugin) : Operation → Bool
  | .acquire sourceValid key _ _ =>
    !plugin.isAcquired key && sourceValid &&
      plugin.record.state ∉ [.acquiring, .declared, .failed, .rolledBack, .disabled]
  | .verify _ => plugin.record.state ∉ [.acquired, .verified]
  | .stage _ _ _ => plugin.record.state ≠ .verified
  | .activate key _ _ _ _ => !plugin.isActivated key && plugin.record.state ≠ .staged
  | .rollback _ =>
    plugin.record.state ≠ .rolledBack && .rolledBack ∉ transitions plugin.record.state
  | .disable => .disabled ∉ transitions plugin.record.state
  | .uninstall _ => .removed ∉ transitions plugin.record.state
  | .recover _ | .restart => false

open Plugin

/-- Custody says active for the generation and the digest of the record, and the contributions of
these are committed. -/
def Plugin.IsBacked (plugin : Plugin) : Prop :=
  plugin.activeGeneration =
      some ⟨plugin.record.generation, plugin.record.packageDigest, .active⟩ ∧
    ⟨plugin.record.generation, plugin.record.packageDigest⟩ ∈ plugin.contributions

structure Plugin.Agrees (plugin : Plugin) : Prop where
  backed : plugin.record.state = .active ↔ plugin.IsBacked
  recovered : plugin.restart.record.state = .active ↔ plugin.record.state = .active

/-- A refused call changes neither the state nor the durable record, and afterwards they agree. -/
structure Keeps (plugin : Plugin) (operation : Operation) : Prop where
  refused : plugin.refuses operation = true →
    (step plugin operation).record.state = plugin.record.state ∧
      (step plugin operation).activeGeneration = plugin.activeGeneration
  agrees : (step plugin operation).Agrees

def Activation.writesActive : Activation → Bool
  | .writeFails applied => applied
  | .finalizeFails => true
  | .unprepared | .prepareFails | .commitFails | .completes => false

open Activation

/-- The error path of an activation leaves the durable record as it is. -/
def Plugin.CompensatesNothing (plugin : Plugin) (compensation : Write) : Prop :=
  plugin.record.generation = none ∨ plugin.record.packageDigest = none ∨
    compensation.applies = false ∨ plugin.activeGeneration =
        some ⟨plugin.record.generation, plugin.record.packageDigest, .staged⟩

def Safe (plugin : Plugin) : Operation → Prop
  | .acquire sourceValid key _ _ =>
    plugin.isAcquired key = true ∨
      if sourceValid then
        plugin.record.state ∈ [acquiring, .declared, .failed, .rolledBack, .disabled]
      else plugin.record.state ≠ .active
  | .verify _ => plugin.record.state ∈ [acquired, .verified, .failed]
  | .stage _ _ _ => plugin.record.state ∈ [verified, .failed]
  | .activate key _ activation _ compensation =>
    plugin.isActivated key = true ∨
      plugin.record.state = .staged ∧
        (activation.writesActive = true → compensation.applies = true) ∨
      plugin.record.state = .failed ∧ plugin.CompensatesNothing compensation
  | .rollback clear | .uninstall clear =>
    plugin.record.state = .active → clear.applies = true
  | .disable => plugin.record.state ≠ .active
  | .recover _ | .restart => True

def Plugin.IsDurablyActive (plugin : Plugin) : Prop :=
  ∃ active, plugin.activeGeneration = some active ∧ active.state = .active

/-- What is written to custody names a generation and a package, as staged or active. -/
structure Plugin.WellFormed (plugin : Plugin) : Prop where
  durable : ∀ active, plugin.activeGeneration = some active →
    active.packageDigest ≠ none ∧ active.generation ≠ none ∧
      (active.state = .active ∨ active.state = .staged)
  staged : plugin.record.state = .staged →
    plugin.record.packageDigest ≠ none ∧ plugin.record.generation ≠ none

variable {plugin : Plugin}

theorem restart_active_iff (wellFormed : plugin.WellFormed) :
    plugin.restart.record.state = .active ↔ plugin.IsDurablyActive := by
  unfold restart recover IsDurablyActive
  cases durable : plugin.activeGeneration with
  | none => simp [setRecord, durable, declaredRecord]
  | some active =>
    obtain ⟨digest, _, state⟩ := wellFormed.durable active durable
    simp [setRecord, durable, Option.filter, Option.isSome_iff_ne_none, digest, state]

theorem agrees_of_inactive (wellFormed : plugin.WellFormed)
    (inactive : plugin.record.state ≠ .active) : plugin.Agrees ↔ ¬plugin.IsDurablyActive := by
  constructor
  · intro agrees durable
    exact inactive (agrees.recovered.mp ((restart_active_iff wellFormed).mpr durable))
  · intro notDurable
    constructor
    · refine iff_of_false inactive ?_
      rintro ⟨durable, _⟩
      exact notDurable ⟨_, durable, rfl⟩
    · rw [restart_active_iff wellFormed]
      exact iff_of_false notDurable inactive

/-- The invariant of a run that has agreed so far. -/
structure Plugin.Sound (plugin : Plugin) : Prop where
  wellFormed : plugin.WellFormed
  agrees : plugin.Agrees

theorem Plugin.Sound.durable_iff (sound : plugin.Sound) :
    plugin.IsDurablyActive ↔ plugin.record.state = .active := by
  rw [← restart_active_iff sound.wellFormed]
  exact sound.agrees.recovered

namespace Plugin

variable (plugin : Plugin)

@[simp] theorem setRecord_record (record : PackageRecord) :
    (plugin.setRecord record).record = record := rfl

@[simp] theorem setRecord_activeGeneration (record : PackageRecord) :
    (plugin.setRecord record).activeGeneration = plugin.activeGeneration := rfl

@[simp] theorem setRecord_contributions (record : PackageRecord) :
    (plugin.setRecord record).contributions = plugin.contributions := rfl

@[simp] theorem fail_state : plugin.fail.record.state = .failed := rfl

@[simp] theorem fail_activeGeneration : plugin.fail.activeGeneration = plugin.activeGeneration := rfl

@[simp] theorem commit_record : plugin.commit.record = plugin.record := rfl

@[simp] theorem commit_activeGeneration :
    plugin.commit.activeGeneration = plugin.activeGeneration := rfl

section

variable (state : PackageState) (write : Write)
include state write

@[simp] theorem setActiveGeneration_record :
    (plugin.setActiveGeneration state write).record = plugin.record := by
  unfold setActiveGeneration
  split <;> rfl

theorem setActiveGeneration_activeGeneration :
    (plugin.setActiveGeneration state write).activeGeneration =
      if write.applies then some ⟨plugin.record.generation, plugin.record.packageDigest, state⟩
      else plugin.activeGeneration := by
  unfold setActiveGeneration
  split <;> rfl

@[simp] theorem setActiveGeneration_contributions :
    (plugin.setActiveGeneration state write).contributions = plugin.contributions := by
  unfold setActiveGeneration
  split <;> rfl

end

@[simp] theorem clearActiveGeneration_record (write : Write) :
    (plugin.clearActiveGeneration write).record = plugin.record := by
  unfold clearActiveGeneration
  split <;> rfl

theorem clearActiveGeneration_activeGeneration (write : Write) :
    (plugin.clearActiveGeneration write).activeGeneration =
      if write.applies then none else plugin.activeGeneration := by
  unfold clearActiveGeneration
  split <;> rfl

@[simp] theorem abandon_state (rollsBack : Bool) (compensation : Write) :
    (plugin.abandon rollsBack compensation).record.state = .failed := rfl

theorem abandon_activeGeneration (rollsBack : Bool) (compensation : Write) :
    (plugin.abandon rollsBack compensation).activeGeneration =
      if plugin.record.generation ≠ none ∧ plugin.record.packageDigest ≠ none ∧
          compensation.applies = true then
        some ⟨plugin.record.generation, plugin.record.packageDigest, .staged⟩
      else plugin.activeGeneration := by
  unfold abandon
  cases rollsBack <;>
    by_cases named : plugin.record.generation ≠ none ∧ plugin.record.packageDigest ≠ none <;>
    by_cases applies : compensation.applies = true <;>
    simp [named, applies, setActiveGeneration_activeGeneration]

variable {plugin}

theorem acquire_state (isNew : plugin.isAcquired key = false) (sourceValid : Bool)
    (fresh : String) (archiveDigest : Option String) :
    (plugin.acquire sourceValid key fresh archiveDigest).record.state = .failed ∨
      (plugin.acquire sourceValid key fresh archiveDigest).record.state = .acquired := by
  unfold acquire transition
  grind [fail_state, setRecord_record, PackageRecord.fail]

theorem acquire_activeGeneration (sourceValid : Bool) (key : Option String) (fresh : String)
    (archiveDigest : Option String) :
    (plugin.acquire sourceValid key fresh archiveDigest).activeGeneration =
      plugin.activeGeneration := by
  unfold acquire
  grind [fail_activeGeneration, setRecord_activeGeneration]

theorem verify_state (packageDigest : Option String) :
    (plugin.verify packageDigest).record.state = .failed ∨
      (plugin.verify packageDigest).record.state = .verified := by
  unfold verify transition
  grind [fail_state, setRecord_record, PackageRecord.fail]

theorem verify_activeGeneration (packageDigest : Option String) :
    (plugin.verify packageDigest).activeGeneration = plugin.activeGeneration := by
  unfold verify
  grind [fail_activeGeneration, setRecord_activeGeneration]

theorem stage_spec (ready : Bool) (generation : String) (write : Write) :
    let next := plugin.stage ready generation write
    (next.record.state = .failed ∧ next.activeGeneration = plugin.activeGeneration) ∨
      plugin.record.state = .verified ∧ plugin.record.packageDigest ≠ none ∧
        (next.record.state = .failed ∨ next.record.state = .staged) ∧
        next.record.packageDigest = plugin.record.packageDigest ∧
        next.record.generation = some generation ∧
        (next.activeGeneration = plugin.activeGeneration ∨ next.activeGeneration =
            some ⟨some generation, plugin.record.packageDigest, .staged⟩) := by
  intro next
  by_cases ready : plugin.record.state = .verified ∧ plugin.record.packageDigest ≠ none ∧
      ready = true
  · right
    refine ⟨ready.1, ready.2.1, ?_⟩
    subst next
    unfold stage PackageRecord.transition
    rw [if_pos ready]
    cases write with
    | done =>
      simp [setActiveGeneration_activeGeneration, Write.applies, ready.1, transitions]
    | failed applied =>
      cases applied <;>
        simp [setActiveGeneration_activeGeneration, Write.applies, fail, PackageRecord.fail]
  · left
    subst next
    unfold stage
    rw [if_neg ready]
    exact ⟨rfl, rfl⟩

section

variable (staged : plugin.record.state = .staged) (isNew : plugin.isActivated key = false)
include staged isNew

theorem activate_failed (generation : plugin.record.generation ≠ none)
    (digest : plugin.record.packageDigest ≠ none) (fails : activation ≠ .completes)
    (fresh : String) (rollsBack : Bool) (compensation : Write) :
    let next := plugin.activate key fresh activation rollsBack compensation
    next.record.state = .failed ∧ next.activeGeneration =
        if compensation.applies then
          some ⟨plugin.record.generation, plugin.record.packageDigest, .staged⟩
        else if activation.writesActive then
          some ⟨plugin.record.generation, plugin.record.packageDigest, .active⟩
        else plugin.activeGeneration := by
  intro next
  subst next
  unfold activate transition
  rw [if_neg (by simp [isNew]), if_neg (by simp [staged])]
  cases activation with
  | unprepared | prepareFails | commitFails =>
    simp [abandon_activeGeneration, generation, digest, writesActive]
  | writeFails applied =>
    cases applied <;>
      simp [abandon_activeGeneration, setActiveGeneration_activeGeneration, generation, digest,
        writesActive, Write.applies]
  | finalizeFails =>
    simp [abandon_activeGeneration, setActiveGeneration_activeGeneration, generation, digest,
      writesActive, Write.applies, staged, transitions]
  | completes => exact absurd rfl fails

theorem activate_completes (fresh : String) (rollsBack : Bool) (compensation : Write) :
    let next := plugin.activate key fresh .completes rollsBack compensation
    next.record.state = .active ∧ next.record.generation = plugin.record.generation ∧
      next.record.packageDigest = plugin.record.packageDigest ∧ next.activeGeneration =
        some ⟨plugin.record.generation, plugin.record.packageDigest, .active⟩ ∧
      ⟨plugin.record.generation, plugin.record.packageDigest⟩ ∈ next.contributions := by
  intro next
  subst next
  unfold activate transition
  rw [if_neg (by simp [isNew]), if_neg (by simp [staged])]
  simp [setActiveGeneration_activeGeneration, Write.applies, staged, transitions, commit]

end

theorem activate_refused (notStaged : plugin.record.state ≠ .staged)
    (isNew : plugin.isActivated key = false) (fresh : String) (activation : Activation)
    (rollsBack : Bool) (compensation : Write) :
    plugin.activate key fresh activation rollsBack compensation =
      plugin.abandon false compensation := by
  unfold activate
  rw [if_neg (by simp [isNew]), if_pos notStaged]

theorem recover_nothing (missing : plugin.activeGeneration = none) : plugin.recover.record.state =
      plugin.record.state ∨ plugin.recover.record.state = .failed := by
  unfold recover
  rw [missing]
  split
  · right
    rfl
  · left
    rfl

theorem recover_durable (wellFormed : plugin.WellFormed)
    (durable : plugin.activeGeneration = some active) : plugin.recover.record.generation =
      active.generation ∧ plugin.recover.record.packageDigest = active.packageDigest ∧
      plugin.recover.record.state = active.state := by
  obtain ⟨digest, _, state⟩ := wellFormed.durable active durable
  unfold recover
  simp [durable, Option.filter, Option.isSome_iff_ne_none, digest, state]

@[simp] theorem recover_activeGeneration :
    plugin.recover.activeGeneration = plugin.activeGeneration := by
  unfold recover
  grind [setRecord_activeGeneration]

@[simp] theorem recover_contributions : plugin.recover.contributions = plugin.contributions := by
  unfold recover
  grind [setRecord_contributions]

theorem WellFormed.recover (wellFormed : plugin.WellFormed) : plugin.recover.WellFormed := by
  constructor
  · rw [recover_activeGeneration]
    exact wellFormed.durable
  · intro staged
    cases durable : plugin.activeGeneration with
    | none =>
      unfold Plugin.recover at staged
      rw [durable] at staged
      split at staged
      · cases staged
      · rename_i notStaged
        exact absurd (.inl staged) notStaged
    | some active =>
      obtain ⟨generation, digest, _⟩ := recover_durable wellFormed durable
      rw [generation, digest]
      exact ⟨(wellFormed.durable active durable).1, (wellFormed.durable active durable).2.1⟩

theorem WellFormed.of_durable (wellFormed : plugin.WellFormed)
    (same : next.activeGeneration = plugin.activeGeneration ∨ next.activeGeneration = none)
    (notStaged : next.record.state ≠ .staged) : next.WellFormed := by
  constructor
  · intro active durable
    rcases same with same | same
    · exact wellFormed.durable active (same ▸ durable)
    · rw [same] at durable
      cases durable
  · intro staged
    exact absurd staged notStaged

theorem WellFormed.of_written (written : next.activeGeneration = some active)
    (digest : active.packageDigest ≠ none) (generation : active.generation ≠ none)
    (state : active.state = .active ∨ active.state = .staged)
    (notStaged : next.record.state ≠ .staged) : next.WellFormed := by
  constructor
  · intro other durable
    rw [written] at durable
    cases durable
    exact ⟨digest, generation, state⟩
  · intro staged
    exact absurd staged notStaged

theorem WellFormed.abandon (wellFormed : plugin.WellFormed) (rollsBack : Bool)
    (compensation : Write) : (plugin.abandon rollsBack compensation).WellFormed := by
  by_cases writes : plugin.record.generation ≠ none ∧ plugin.record.packageDigest ≠ none ∧
      compensation.applies = true
  · have written := plugin.abandon_activeGeneration rollsBack compensation
    rw [if_pos writes] at written
    apply of_written written writes.2.1 writes.1
    · right
      rfl
    · simp
  · apply wellFormed.of_durable
    · left
      rw [abandon_activeGeneration, if_neg writes]
    · simp

end Plugin

section

variable {plugin : Plugin}

section

variable (wellFormed : plugin.WellFormed)
include wellFormed

theorem rollback_wellFormed (clear : Write) : (plugin.rollback clear).WellFormed := by
  unfold rollback
  dsimp only
  split
  · exact wellFormed
  · rename_i record moved
    apply wellFormed.of_durable
    · rw [clearActiveGeneration_activeGeneration]
      split
      · right
        rfl
      · left
        rfl
    · have rolledBack : record.state = .rolledBack := by
        unfold transition at moved
        grind
      simp [rolledBack]

theorem disable_wellFormed : plugin.disable.WellFormed := by
  unfold disable transition
  split
  · exact wellFormed
  · rename_i record moved
    have disabled : record.state = .disabled := by grind
    exact wellFormed.of_durable (.inl rfl) (by simp [disabled])

theorem uninstall_wellFormed (clear : Write) : (plugin.uninstall clear).WellFormed := by
  unfold uninstall
  split
  · exact wellFormed
  · rename_i record moved
    apply wellFormed.of_durable
    · rw [clearActiveGeneration_activeGeneration]
      split
      · right
        rfl
      · left
        rfl
    · have removed : record.state = .removed := by
        unfold transition at moved
        grind
      simp [removed]

theorem activate_wellFormed (key : Option String) (fresh : String)
    (activation : Activation) (rollsBack : Bool) (compensation : Write) :
    (plugin.activate key fresh activation rollsBack compensation).WellFormed := by
  by_cases isNew : plugin.isActivated key = false
  · by_cases staged : plugin.record.state = .staged
    · obtain ⟨digest, generation⟩ := wellFormed.staged staged
      by_cases completes : activation = .completes
      · subst completes
        obtain ⟨active, _, _, written, _⟩ :=
          activate_completes staged isNew fresh rollsBack compensation
        apply WellFormed.of_written written digest generation (Or.inl rfl)
        rw [active]
        decide
      · obtain ⟨failed, durable⟩ := activate_failed staged isNew generation digest completes
          fresh rollsBack compensation
        have notStaged : (plugin.activate key fresh activation rollsBack
            compensation).record.state ≠ .staged := by
          rw [failed]
          decide
        split at durable
        · exact WellFormed.of_written durable digest generation (Or.inr rfl) notStaged
        · split at durable
          · exact WellFormed.of_written durable digest generation (Or.inl rfl) notStaged
          · exact wellFormed.of_durable (Or.inl durable) notStaged
    · rw [activate_refused staged isNew]
      exact wellFormed.abandon false compensation
  · unfold activate
    rw [if_pos (by simpa using isNew)]
    exact wellFormed

theorem stage_wellFormed (ready : Bool) (generation : String)
    (write : Write) : (plugin.stage ready generation write).WellFormed := by
  rcases plugin.stage_spec ready generation write with
    ⟨failed, durable⟩ | ⟨_, digest, _, sameDigest, numbered, durable⟩
  · apply wellFormed.of_durable (.inl durable)
    rw [failed]
    decide
  · constructor
    · intro active written
      rcases durable with durable | durable
      · exact wellFormed.durable active (durable ▸ written)
      · rw [durable] at written
        cases written
        exact ⟨digest, by simp, .inr rfl⟩
    · intro _
      rw [sameDigest, numbered]
      exact ⟨digest, by simp⟩

theorem step_wellFormed (operation : Operation) : (step plugin operation).WellFormed := by
  cases operation with
  | acquire sourceValid key fresh archiveDigest =>
    by_cases isNew : plugin.isAcquired key = false
    · apply wellFormed.of_durable (.inl (acquire_activeGeneration _ _ _ _))
      rcases acquire_state isNew sourceValid fresh archiveDigest with state | state <;>
        rw [state] <;> decide
    · change (plugin.acquire sourceValid key fresh archiveDigest).WellFormed
      unfold acquire
      rw [if_pos (by simpa using isNew)]
      exact wellFormed
  | verify packageDigest =>
    apply wellFormed.of_durable (.inl (verify_activeGeneration _))
    rcases plugin.verify_state packageDigest with state | state <;> rw [state] <;> decide
  | stage ready generation write => exact stage_wellFormed wellFormed ready generation write
  | activate key fresh activation rollsBack compensation =>
    exact activate_wellFormed wellFormed key fresh activation rollsBack compensation
  | rollback clear => exact rollback_wellFormed wellFormed clear
  | disable => exact disable_wellFormed wellFormed
  | uninstall clear => exact uninstall_wellFormed wellFormed clear
  | recover read =>
    cases read with
    | true => exact wellFormed.recover
    | false => exact wellFormed
  | restart =>
    have fresh : (plugin.setRecord declaredRecord).WellFormed :=
      wellFormed.of_durable (.inl rfl) (by simp [declaredRecord])
    exact fresh.recover

end

end

section

variable {plugin : Plugin}

theorem keeps_of_same (sound : plugin.Sound)
    (same : step plugin operation = plugin) : Keeps plugin operation := by
  constructor
  · intro _
    rw [same]
    exact ⟨rfl, rfl⟩
  · rw [same]
    exact sound.agrees

theorem keeps_iff_of_inactive (sound : plugin.Sound) (operation : Operation)
    (inactive : (step plugin operation).record.state ≠ .active) : Keeps plugin operation ↔
      (plugin.refuses operation = true →
        (step plugin operation).record.state = plugin.record.state ∧
          (step plugin operation).activeGeneration = plugin.activeGeneration) ∧
      ¬(step plugin operation).IsDurablyActive := by
  rw [← agrees_of_inactive (step_wellFormed sound.wellFormed operation) inactive]
  exact ⟨fun keeps => ⟨keeps.refused, keeps.agrees⟩, fun ⟨refused, agrees⟩ => ⟨refused, agrees⟩⟩

theorem isDurablyActive_congr (same : next.activeGeneration = plugin.activeGeneration) :
    next.IsDurablyActive ↔ plugin.IsDurablyActive := by
  unfold IsDurablyActive
  rw [same]

section

variable (sound : plugin.Sound)
include sound

theorem keeps_acquire_iff (sourceValid : Bool) (key : Option String) (fresh : String)
    (archiveDigest : Option String) : Keeps plugin (.acquire sourceValid key fresh archiveDigest) ↔
      Safe plugin (.acquire sourceValid key fresh archiveDigest) := by
  by_cases isNew : plugin.isAcquired key = false
  · have state := acquire_state isNew sourceValid fresh archiveDigest
    have durable := plugin.acquire_activeGeneration sourceValid key fresh archiveDigest
    have refused : sourceValid = true →
        plugin.record.state ∉ [.acquiring, .declared, .failed, .rolledBack, .disabled] →
        (plugin.acquire sourceValid key fresh archiveDigest).record.state = .failed := by
      intro valid notAllowed
      unfold acquire
      grind [fail_state]
    have inactive : (plugin.acquire sourceValid key fresh archiveDigest).record.state ≠ .active := by
      rcases state with state | state <;> rw [state] <;> decide
    rw [keeps_iff_of_inactive sound (.acquire sourceValid key fresh archiveDigest) inactive]
    dsimp only [step, Safe, refuses]
    rw [isDurablyActive_congr durable, sound.durable_iff]
    grind
  · have same : step plugin (.acquire sourceValid key fresh archiveDigest) = plugin := by
      change plugin.acquire sourceValid key fresh archiveDigest = plugin
      unfold acquire
      rw [if_pos (by simpa using isNew)]
    exact iff_of_true (keeps_of_same sound same) (.inl (by simpa using isNew))

theorem keeps_verify_iff (packageDigest : Option String) :
    Keeps plugin (.verify packageDigest) ↔ Safe plugin (.verify packageDigest) := by
  have state := plugin.verify_state packageDigest
  have durable := plugin.verify_activeGeneration packageDigest
  have refused : plugin.record.state ∉ [.acquired, .verified] →
      (plugin.verify packageDigest).record.state = .failed := by
    intro notAllowed
    unfold verify
    rw [if_neg fun allowed => notAllowed allowed.1]
    exact plugin.fail_state
  have inactive : (plugin.verify packageDigest).record.state ≠ .active := by
    rcases state with state | state <;> rw [state] <;> decide
  rw [keeps_iff_of_inactive sound (.verify packageDigest) inactive]
  dsimp only [step, Safe, refuses]
  rw [isDurablyActive_congr durable, sound.durable_iff]
  grind

theorem keeps_stage_iff (ready : Bool) (generation : String) (write : Write) :
    Keeps plugin (.stage ready generation write) ↔ Safe plugin (.stage ready generation write) := by
  by_cases verified : plugin.record.state = .verified
  · have inactive : (plugin.stage ready generation write).record.state ≠ .active := by
      rcases plugin.stage_spec ready generation write with ⟨state, _⟩ | ⟨_, _, state, _⟩
      · rw [state]
        decide
      · rcases state with state | state <;> rw [state] <;> decide
    have notDurable : ¬(plugin.stage ready generation write).IsDurablyActive := by
      have before : ¬plugin.IsDurablyActive := by
        rw [sound.durable_iff, verified]
        decide
      rcases plugin.stage_spec ready generation write with
        ⟨_, durable⟩ | ⟨_, _, _, _, _, durable | durable⟩
      · rwa [isDurablyActive_congr durable]
      · rwa [isDurablyActive_congr durable]
      · rintro ⟨active, written, state⟩
        rw [durable] at written
        cases written
        cases state
    rw [keeps_iff_of_inactive sound (.stage ready generation write) inactive]
    dsimp only [step, Safe, refuses]
    simp [verified, notDurable]
  · have failed : plugin.stage ready generation write = plugin.fail := by
      unfold stage
      rw [if_neg fun allowed => verified allowed.1]
    rw [keeps_iff_of_inactive sound _ (by
      dsimp only [step]
      rw [failed]
      exact fun active => by cases active)]
    dsimp only [step, Safe, refuses]
    rw [failed, isDurablyActive_congr plugin.fail_activeGeneration, sound.durable_iff,
      plugin.fail_state]
    grind [fail_activeGeneration]

theorem keeps_activate_iff (key : Option String) (fresh : String)
    (activation : Activation) (rollsBack : Bool) (compensation : Write) :
    Keeps plugin (.activate key fresh activation rollsBack compensation) ↔
      Safe plugin (.activate key fresh activation rollsBack compensation) := by
  by_cases isNew : plugin.isActivated key = false
  · by_cases staged : plugin.record.state = .staged
    · obtain ⟨digest, generation⟩ := sound.wellFormed.staged staged
      by_cases completes : activation = .completes
      · subst completes
        obtain ⟨active, sameGeneration, sameDigest, written, committed⟩ :=
          activate_completes staged isNew fresh rollsBack compensation
        apply iff_of_true
        · constructor
          · intro refused
            simp [refuses, staged] at refused
          · constructor
            · apply iff_of_true active
              constructor
              · dsimp only [step]
                rw [written, sameGeneration, sameDigest]
              · dsimp only [step]
                rw [sameGeneration, sameDigest]
                exact committed
            · rw [restart_active_iff (step_wellFormed sound.wellFormed _)]
              exact iff_of_true ⟨_, written, rfl⟩ active
        · exact .inr (.inl ⟨staged, fun impossible => by cases impossible⟩)
      · obtain ⟨failed, durable⟩ := activate_failed staged isNew generation digest completes
          fresh rollsBack compensation
        have before : ¬plugin.IsDurablyActive := by
          rw [sound.durable_iff, staged]
          decide
        have active_iff : (plugin.activate key fresh activation rollsBack
            compensation).IsDurablyActive ↔
              activation.writesActive = true ∧ compensation.applies = false := by
          unfold IsDurablyActive at before ⊢
          grind
        rw [keeps_iff_of_inactive sound _ (by
          dsimp only [step]
          rw [failed]
          decide)]
        dsimp only [step, Safe, refuses]
        grind
    · have abandoned := activate_refused staged isNew fresh activation rollsBack compensation
      have durable := plugin.abandon_activeGeneration false compensation
      rw [keeps_iff_of_inactive sound _ (by
        dsimp only [step]
        rw [abandoned]
        exact fun active => by cases active)]
      dsimp only [step, Safe, refuses]
      rw [abandoned]
      unfold CompensatesNothing
      have durable_iff := sound.durable_iff
      unfold IsDurablyActive at durable_iff ⊢
      rw [durable, plugin.abandon_state]
      grind
  · have same : step plugin (.activate key fresh activation rollsBack compensation) = plugin := by
      change plugin.activate key fresh activation rollsBack compensation = plugin
      unfold activate
      rw [if_pos (by simpa using isNew)]
    exact iff_of_true (keeps_of_same sound same) (.inl (by simpa using isNew))

theorem keeps_clearing_iff (clear : Write) {left : PackageState} (inactive : left ≠ .active)
    (notRefused : plugin.refuses operation = false)
    (moves : (step plugin operation).record.state = left ∧
      (step plugin operation).activeGeneration =
        if clear.applies then none else plugin.activeGeneration) :
    Keeps plugin operation ↔ (plugin.record.state = .active → clear.applies = true) := by
  have durable_iff := sound.durable_iff
  rw [keeps_iff_of_inactive sound operation (by rw [moves.1]; exact inactive), notRefused]
  unfold IsDurablyActive at durable_iff ⊢
  grind

theorem keeps_rollback_iff (clear : Write) :
    Keeps plugin (.rollback clear) ↔ Safe plugin (.rollback clear) := by
  by_cases allowed : plugin.record.state = .rolledBack ∨
      .rolledBack ∈ transitions plugin.record.state
  · have notRefused : plugin.refuses (.rollback clear) = false := by
      dsimp only [refuses]
      grind
    apply keeps_clearing_iff sound clear (show rolledBack ≠ .active by decide)
      notRefused
    dsimp only [step]
    unfold rollback transition
    grind [clearActiveGeneration_record, clearActiveGeneration_activeGeneration,
      setRecord_record, setRecord_activeGeneration]
  · have same : step plugin (.rollback clear) = plugin := by
      change plugin.rollback clear = plugin
      unfold rollback transition
      grind
    apply iff_of_true (keeps_of_same sound same)
    intro active
    rw [active] at allowed
    exact absurd (.inr (by decide)) allowed

theorem keeps_uninstall_iff (clear : Write) :
    Keeps plugin (.uninstall clear) ↔ Safe plugin (.uninstall clear) := by
  by_cases allowed : .removed ∈ transitions plugin.record.state
  · have notRefused : plugin.refuses (.uninstall clear) = false := by
      dsimp only [refuses]
      grind
    apply keeps_clearing_iff sound clear (show removed ≠ .active by decide)
      notRefused
    dsimp only [step]
    unfold uninstall transition
    grind [clearActiveGeneration_record, clearActiveGeneration_activeGeneration,
      setRecord_record, setRecord_activeGeneration]
  · have same : step plugin (.uninstall clear) = plugin := by
      change plugin.uninstall clear = plugin
      unfold uninstall transition
      grind
    apply iff_of_true (keeps_of_same sound same)
    intro active
    rw [active] at allowed
    exact absurd (by decide) allowed

theorem keeps_disable_iff : Keeps plugin .disable ↔ Safe plugin .disable := by
  by_cases allowed : .disabled ∈ transitions plugin.record.state
  · have notRefused : plugin.refuses .disable = false := by
      dsimp only [refuses]
      grind
    have moves : plugin.disable.record.state = .disabled ∧
        plugin.disable.activeGeneration = plugin.activeGeneration := by
      unfold disable transition
      grind [setRecord_record, setRecord_activeGeneration]
    have inactive : plugin.disable.record.state ≠ .active := by
      rw [moves.1]
      decide
    rw [keeps_iff_of_inactive sound .disable inactive, notRefused]
    dsimp only [step, Safe]
    rw [isDurablyActive_congr moves.2, sound.durable_iff]
    grind
  · have same : step plugin .disable = plugin := by
      change plugin.disable = plugin
      unfold disable transition
      grind
    apply iff_of_true (keeps_of_same sound same)
    intro active
    rw [active] at allowed
    exact absurd (by decide) allowed

theorem recover_agrees {forgetful : Plugin} (wellFormed : forgetful.WellFormed)
    (sameDurable : forgetful.activeGeneration = plugin.activeGeneration)
    (sameContributions : forgetful.contributions = plugin.contributions)
    (state : forgetful.record.state = .active → plugin.record.state = .active) :
    forgetful.recover.Agrees := by
  by_cases active : plugin.record.state = .active
  · obtain ⟨durable, committed⟩ := sound.agrees.backed.mp active
    rw [← sameDurable] at durable
    obtain ⟨generation, digest, recovered⟩ := recover_durable wellFormed durable
    constructor
    · apply iff_of_true recovered
      constructor
      · rw [recover_activeGeneration, durable, generation, digest]
      · rw [recover_contributions, generation, digest, sameContributions]
        exact committed
    · rw [restart_active_iff wellFormed.recover]
      exact iff_of_true ⟨_, forgetful.recover_activeGeneration.trans durable, rfl⟩ recovered
  · have notDurable : ¬plugin.IsDurablyActive := fun durable =>
      active (sound.durable_iff.mp durable)
    have inactive : forgetful.recover.record.state ≠ .active := by
      cases durable : forgetful.activeGeneration with
      | none =>
        rcases recover_nothing durable with same | failed
        · rw [same]
          exact fun isActive => active (state isActive)
        · rw [failed]
          decide
      | some written =>
        rw [(recover_durable wellFormed durable).2.2]
        exact fun isActive => notDurable ⟨written, sameDurable ▸ durable, isActive⟩
    rw [agrees_of_inactive wellFormed.recover inactive,
      isDurablyActive_congr (forgetful.recover_activeGeneration.trans sameDurable)]
    exact notDurable

theorem keeps_iff (operation : Operation) : Keeps plugin operation ↔ Safe plugin operation := by
  cases operation with
  | acquire sourceValid key fresh archiveDigest =>
    exact keeps_acquire_iff sound sourceValid key fresh archiveDigest
  | verify packageDigest => exact keeps_verify_iff sound packageDigest
  | stage ready generation write => exact keeps_stage_iff sound ready generation write
  | activate key fresh activation rollsBack compensation =>
    exact keeps_activate_iff sound key fresh activation rollsBack compensation
  | rollback clear => exact keeps_rollback_iff sound clear
  | disable => exact keeps_disable_iff sound
  | uninstall clear => exact keeps_uninstall_iff sound clear
  | recover read =>
    apply iff_of_true ?_ trivial
    cases read with
    | false => exact keeps_of_same sound rfl
    | true =>
      constructor
      · intro refused
        cases refused
      · exact recover_agrees sound sound.wellFormed rfl rfl id
  | restart =>
    apply iff_of_true ?_ trivial
    constructor
    · intro refused
      cases refused
    · have forgetful : (plugin.setRecord declaredRecord).WellFormed :=
        sound.wellFormed.of_durable (.inl rfl) (by simp [declaredRecord])
      exact recover_agrees sound forgetful rfl rfl fun active => by cases active

end

end

theorem initial_sound : initial.Sound := by
  constructor
  · constructor
    · intro active durable
      cases durable
    · intro staged
      cases staged
  · have inactive : initial.record.state ≠ .active := by decide
    constructor
    · apply iff_of_false inactive
      rintro ⟨durable, _⟩
      cases durable
    · exact iff_of_false (by decide) inactive

/-- Along a run the record and custody agree and refused calls change nothing exactly as long as the
calls are safe. -/
theorem agreement_iff_safe (operations : List Operation) :
    EachCommand step Keeps initial operations ↔ EachCommand step Safe initial operations := by
  apply eachCommand_congr ?_ ?_ initial_sound
  · intro plugin operation sound
    exact keeps_iff sound operation
  · intro plugin operation sound keeps
    exact ⟨step_wellFormed sound.wellFormed operation, keeps.agrees⟩

/-- After every run, also one that has left the two apart, a restart is active exactly when custody
is. -/
theorem restart_follows_custody (operations : List Operation) :
    let plugin := Library.runAll step initial operations
    plugin.WellFormed ∧ (plugin.restart.record.state = .active ↔ plugin.IsDurablyActive) :=
  have keeps : ∀ plugin operation, plugin.WellFormed → (step plugin operation).WellFormed :=
    fun _ operation known => step_wellFormed known operation
  have wellFormed := Library.runAll_invariant keeps initial_sound.wellFormed operations
  ⟨wellFormed, restart_active_iff wellFormed⟩

def disabledRun : List Operation :=
  [.acquire true none "acquisition" (some "archive"), .verify (some "package"),
    .stage true "generation" .done, .activate none "activation" .completes true .done, .disable]

theorem disabled_returns : ¬EachCommand step Keeps initial disabledRun ∧
      (Library.runAll step initial disabledRun).record.state = .disabled ∧
      (Library.runAll step initial (disabledRun ++ [.restart])).record.state = .active := by
  refine ⟨fun keeps => ?_, by decide, by decide⟩
  have agrees := keeps.2.2.2.2.1.agrees
  have active := agrees.recovered.mp (by decide)
  exact absurd active (by decide)

end LicoMesh.PluginLifecycle.Package
