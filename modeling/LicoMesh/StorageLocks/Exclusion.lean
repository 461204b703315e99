import LicoMesh.StorageLocks.Leases

namespace LicoMesh.StorageLocks

open Option

open Library

/-! Exclusion between processes, in runs in which a stale file is removed only while it still is
the file that was compared. -/

variable {crashed : List ProcessId} {root : LockRoot} {token : Nat} {agent : Agent} {phase : Phase}
  {locks : LockWorld}

/-- The agent has created its file, and has not removed it. -/
def Phase.Owns : Phase → Prop
  | .writing | .checkLooking _ | .checkLooked _ _ | .held _ | .ownLooking _ | .ownRemoving _ => True
  | .comparing cleanup _ | .removing cleanup _ => cleanup = .check
  | _ => False

open Phase

def Phase.staleFile : Phase → Option LeaseFile
  | .comparing _ seen | .removing _ seen => some seen
  | _ => none

def Phase.ending : Phase → Option Ending
  | .ownLooking ending | .ownRemoving ending | .ended ending => some ending
  | _ => none

def OwnsFile (root : LockRoot) (token : Nat) (agent : Agent) : Prop :=
  ∃ file, root.file agent.task.kind = some file ∧ file.token = token ∧ file.pid = agent.pid

structure Known (root : LockRoot) (token : Nat) (agent : Agent) : Prop where
  owns : agent.isAlive root = true → agent.phase.Owns → OwnsFile root token agent
  stale : ∀ seen, agent.phase.staleFile = some seen → seen.pid ∈ root.crashed
  passed : ∀ holders, agent.phase.ending = some (.passed holders) → holders = []

/-- What the steps of an agent do to the files of the others. -/
structure Respects (token : Nat) (root next : LockRoot) : Prop where
  crashed : ∀ pid ∈ root.crashed, pid ∈ next.crashed
  keeps : ∀ kind file, root.file kind = some file → file.token ≠ token →
    file.pid ∉ next.crashed → next.file kind = some file

theorem Respects.refl (token : Nat) (root : LockRoot) : Respects token root root :=
  ⟨fun _ member => member, fun _ _ present _ _ => present⟩

theorem Known.stable (different : other ≠ token) (respects : Respects token root next)
    (known : Known root other agent) : Known next other agent := by
  constructor
  case owns =>
    intro alive owns
    have running : agent.pid ∉ next.crashed := by
      unfold Agent.isAlive at alive
      simpa using alive
    have aliveThen : agent.isAlive root = true := by
      unfold Agent.isAlive
      simpa using fun member => running (respects.crashed agent.pid member)
    obtain ⟨file, present, sameToken, samePid⟩ := known.owns aliveThen owns
    refine ⟨file, ?_, sameToken, samePid⟩
    apply respects.keeps agent.task.kind file present
    · rw [sameToken]
      exact different
    · rw [samePid]
      exact running
  case stale => exact fun seen judged => respects.crashed seen.pid (known.stale seen judged)
  case passed => exact known.passed

/-- A stale file is removed only while its path has the file that was compared, or none. -/
def Unraced (locks : LockWorld) : LockAction → Prop
  | .advance token =>
    locks.agents[token]?.all fun agent =>
      match agent.phase with
      | .removing cleanup seen =>
        (locks.shared.file (agent.cleanedKind cleanup)).all fun file => file = seen
      | _ => true
  | _ => True

theorem state_stale {file : LeaseFile} (stale : file.state crashed = .stale) :
    file.pid ∈ crashed := by
  unfold LeaseFile.state at stale
  split at stale
  · cases stale
  · split at stale
    · rename_i dead
      exact List.contains_iff_mem.mp dead
    · cases stale

theorem respects_setFile (own : ∀ other, root.file kind = some other → other.token ≠ token →
      other.pid ∈ root.crashed) : Respects token root (root.setFile kind file) := by
  constructor
  case crashed => exact fun pid member => by rwa [LockRoot.crashed_setFile]
  case keeps =>
    intro other kept present different running
    rw [LockRoot.crashed_setFile] at running
    rw [LockRoot.file_setFile]
    split
    · rename_i same
      exact absurd (own kept (same ▸ present) different) running
    · exact present

theorem Known.own_only (known : Known root token agent) (alive : agent.isAlive root = true)
    (owns : agent.phase.Owns) : ∀ other, root.file agent.task.kind = some other →
      other.token ≠ token → other.pid ∈ root.crashed := by
  obtain ⟨file, present, sameToken, _⟩ := known.owns alive owns
  intro other presentOther different
  obtain rfl := some.inj (present.symm.trans presentOther)
  exact absurd sameToken different

theorem Known.look (known : Known root token agent) (owns : phase.Owns → agent.phase.Owns)
    (stale : ∀ seen, phase.staleFile = some seen → seen.pid ∈ root.crashed)
    (passed : ∀ holders, phase.ending = some (.passed holders) → holders = []) :
    Known root token { agent with phase := phase } where
  owns := fun alive owning => known.owns alive (owns owning)
  stale := stale
  passed := passed

theorem noStale (none : phase.staleFile = none) :
    ∀ seen, phase.staleFile = some seen → seen.pid ∈ crashed := by
  intro seen some
  rw [none] at some
  cases some

theorem noEnding (none : phase.ending = none) :
    ∀ holders, phase.ending = some (.passed holders) → holders = [] := by
  intro holders some
  rw [none] at some
  cases some

theorem judge_spec (agent : Agent) (attempt : Nat) (seen : LeaseFile) (crashed : List ProcessId) :
    ¬(agent.judge attempt seen crashed).Owns ∧
      (∀ file, (agent.judge attempt seen crashed).staleFile = some file → file.pid ∈ crashed) ∧
        ∀ holders, (agent.judge attempt seen crashed).ending ≠ some (.passed holders) := by
  unfold Agent.judge
  dsimp only
  split
  · rename_i judged
    refine ⟨by simp [Owns], ?_, by simp [ending]⟩
    intro file same
    cases same
    exact state_stale judged.1
  · split
    · exact ⟨by simp [Owns], by simp [staleFile], by simp [ending]⟩
    · exact ⟨by simp [Owns], by simp [staleFile], by simp [ending]⟩

theorem judgeMaintenance_spec (second : Bool) (seen : LeaseFile) (crashed : List ProcessId) :
    (∀ file, (Agent.judgeMaintenance second seen crashed).staleFile = some file →
        file.pid ∈ crashed) ∧
      ∀ holders, (Agent.judgeMaintenance second seen crashed).ending ≠ some (.passed holders) := by
  unfold Agent.judgeMaintenance
  split
  · rename_i judged
    split
    · exact ⟨by simp [staleFile], by simp [ending]⟩
    · refine ⟨?_, by simp [ending]⟩
      intro file same
      cases same
      exact state_stale judged
  · exact ⟨by simp [staleFile], by simp [ending]⟩
  · exact ⟨by simp [staleFile], by simp [ending]⟩

theorem judgeQuiesced_spec (seen : LeaseFile) (crashed : List ProcessId) :
    ¬(Agent.judgeQuiesced seen crashed).Owns ∧
      (∀ file, (Agent.judgeQuiesced seen crashed).staleFile = some file → file.pid ∈ crashed) ∧
        ∀ holders, (Agent.judgeQuiesced seen crashed).ending ≠ some (.passed holders) := by
  unfold Agent.judgeQuiesced
  split
  · rename_i judged
    refine ⟨by simp [Owns], ?_, by simp [ending]⟩
    intro file same
    cases same
    exact state_stale judged
  · exact ⟨by simp [Owns], by simp [staleFile], by simp [ending]⟩
  · exact ⟨by simp [Owns], by simp [staleFile], by simp [ending]⟩

variable (holds : locks.Holds Known)
include holds

theorem otherRuntimeHolders_nil (agent : Agent)
    (dead : ∀ file, locks.shared.runtimeLease = some file → file.pid ∈ locks.shared.crashed) :
    agent.otherRuntimeHolders locks = [] := by
  unfold Agent.otherRuntimeHolders
  rw [List.filterMap_eq_nil_iff]
  intro other member
  obtain ⟨token, present⟩ := List.getElem?_of_mem member
  obtain ⟨pid, task, phase⟩ := other
  dsimp only
  split
  · apply if_neg
    intro runs
    rw [Bool.and_eq_true] at runs
    have known := holds token _ present
    obtain ⟨file, found, _, samePid⟩ := known.owns runs.1 trivial
    have crashed := dead file found
    rw [samePid] at crashed
    have alive := runs.1
    unfold Agent.isAlive at alive
    simp [crashed] at alive
  · rfl

theorem advance_spec (present : locks.agents[token]? = some agent)
    (alive : agent.isAlive locks.shared = true) (unraced : Unraced locks (.advance token)) :
    Respects token locks.shared
        (agent.advance locks.shared token (agent.otherRuntimeHolders locks)).1 ∧
      Known (agent.advance locks.shared token (agent.otherRuntimeHolders locks)).1 token
        { agent with
          phase := (agent.advance locks.shared token (agent.otherRuntimeHolders locks)).2 } := by
  have known := holds token agent present
  have refl := Respects.refl token locks.shared
  unfold Agent.advance
  cases phase : agent.phase with
  | looking attempt =>
    dsimp only
    cases locks.shared.file agent.task.kind with
    | none => exact ⟨refl, known.look (by simp [Owns]) (noStale rfl) (noEnding rfl)⟩
    | some seen => exact ⟨refl, known.look (by simp [Owns]) (noStale rfl) (noEnding rfl)⟩
  | creating attempt =>
    dsimp only
    cases found : locks.shared.file agent.task.kind with
    | some seen => exact ⟨refl, known.look (by simp [Owns]) (noStale rfl) (noEnding rfl)⟩
    | none =>
      refine ⟨respects_setFile ?_, ?_, noStale rfl, noEnding rfl⟩
      · intro other presentOther
        rw [found] at presentOther
        cases presentOther
      · intro _ _
        refine ⟨⟨token, agent.pid, false⟩, ?_, rfl, rfl⟩
        dsimp only
        rw [LockRoot.file_setFile, if_pos rfl]
  | lookingAgain attempt =>
    dsimp only
    cases locks.shared.file agent.task.kind with
    | none =>
      refine ⟨refl, known.look (by simp [Owns]) (noStale rfl) ?_⟩
      simp [ending]
    | some seen => exact ⟨refl, known.look (by simp [Owns]) (noStale rfl) (noEnding rfl)⟩
  | looked attempt seen =>
    obtain ⟨notOwns, stale, notPassed⟩ := judge_spec agent attempt seen locks.shared.crashed
    exact ⟨refl, known.look (fun owns => absurd owns notOwns) stale
      (fun holders same => absurd same (notPassed holders))⟩
  | writing =>
    have owns : agent.phase.Owns := by
      rw [phase]
      trivial
    obtain ⟨file, found, sameToken, samePid⟩ := known.owns alive owns
    dsimp only
    rw [found]
    refine ⟨respects_setFile (known.own_only alive owns), ?_, ?_, ?_⟩
    · intro _ _
      refine ⟨{ file with written := true }, ?_, sameToken, samePid⟩
      dsimp only
      rw [LockRoot.file_setFile, if_pos rfl, map_some, if_pos sameToken]
    · intro seen same
      dsimp only at same
      split at same <;> cases same
    · intro holders same
      dsimp only at same
      split at same <;> cases same
  | checkLooking second =>
    have owns : agent.phase.Owns := by
      rw [phase]
      trivial
    dsimp only
    cases locks.shared.maintenanceLock with
    | none => exact ⟨refl, known.look (fun _ => owns) (noStale rfl) (noEnding rfl)⟩
    | some seen => exact ⟨refl, known.look (fun _ => owns) (noStale rfl) (noEnding rfl)⟩
  | checkLooked second seen =>
    have owns : agent.phase.Owns := by
      rw [phase]
      trivial
    obtain ⟨stale, notPassed⟩ := judgeMaintenance_spec second seen locks.shared.crashed
    exact ⟨refl, known.look (fun _ => owns) stale
      (fun holders same => absurd same (notPassed holders))⟩
  | held references =>
    have owns : agent.phase.Owns := by
      rw [phase]
      trivial
    exact ⟨refl, known.look (fun _ => owns) (noStale rfl) (noEnding rfl)⟩
  | quiesceLooking =>
    dsimp only
    cases found : locks.shared.runtimeLease with
    | none =>
      refine ⟨refl, known.look (by simp [Owns]) (noStale rfl) ?_⟩
      intro holders same
      cases same
      apply otherRuntimeHolders_nil holds
      intro file present
      rw [found] at present
      cases present
    | some seen => exact ⟨refl, known.look (by simp [Owns]) (noStale rfl) (noEnding rfl)⟩
  | quiesceLooked seen =>
    obtain ⟨notOwns, stale, notPassed⟩ := judgeQuiesced_spec seen locks.shared.crashed
    exact ⟨refl, known.look (fun owns => absurd owns notOwns) stale
      (fun holders same => absurd same (notPassed holders))⟩
  | comparing cleanup seen =>
    have stale : seen.pid ∈ locks.shared.crashed := by
      apply known.stale
      rw [phase]
      rfl
    have checks : cleanup = .check → agent.phase.Owns := by
      intro check
      rw [phase]
      exact check
    dsimp only
    cases found : locks.shared.file (agent.cleanedKind cleanup) with
    | none =>
      cases cleanup with
      | acquire => exact ⟨refl, known.look (by simp [Agent.cleaned, Owns])
          (noStale rfl) (noEnding rfl)⟩
      | check => exact ⟨refl, known.look (fun _ => checks rfl) (noStale rfl)
          (noEnding rfl)⟩
      | quiesce =>
        refine ⟨refl, known.look (by simp [Agent.cleaned, Owns]) (noStale rfl) ?_⟩
        intro holders same
        cases same
        apply otherRuntimeHolders_nil holds
        intro file present
        have none : locks.shared.runtimeLease = none := found
        rw [none] at present
        cases present
    | some file =>
      dsimp only
      split
      · refine ⟨refl, known.look checks ?_ (noEnding rfl)⟩
        intro other same
        cases same
        exact stale
      · cases cleanup with
        | acquire => exact ⟨refl, known.look (by simp [Agent.notCleaned, Owns])
            (noStale rfl) (by simp [Agent.notCleaned, ending])⟩
        | check => exact ⟨refl, known.look (fun _ => checks rfl) (noStale rfl)
            (by simp [Agent.notCleaned, ending])⟩
        | quiesce => exact ⟨refl, known.look (by simp [Agent.notCleaned, Owns])
            (noStale rfl) (by simp [Agent.notCleaned, ending])⟩
  | removing cleanup seen =>
    have stale : seen.pid ∈ locks.shared.crashed := by
      apply known.stale
      rw [phase]
      rfl
    have isSeen : ∀ file, locks.shared.file (agent.cleanedKind cleanup) = some file →
        file = seen := by
      intro file found
      have same := unraced
      unfold Unraced at same
      dsimp only at same
      rw [present] at same
      simp only [all_some, phase, found, decide_eq_true_eq] at same
      exact same
    have dead : ∀ file, locks.shared.file (agent.cleanedKind cleanup) = some file →
        file.pid ∈ locks.shared.crashed := fun file found => isSeen file found ▸ stale
    have respects : Respects token locks.shared
        (locks.shared.setFile (agent.cleanedKind cleanup) none) :=
      respects_setFile fun other found _ => dead other found
    dsimp only
    cases cleanup with
    | acquire =>
      exact ⟨respects, by simp [Agent.cleaned, Owns], noStale rfl, noEnding rfl⟩
    | check =>
      have owns : agent.phase.Owns := by
        rw [phase]
        rfl
      refine ⟨respects, ?_, noStale rfl, noEnding rfl⟩
      intro _ _
      obtain ⟨file, found, sameToken, samePid⟩ := known.owns alive owns
      refine ⟨file, ?_, sameToken, samePid⟩
      -- The agent runs, so that its own file is not the stale one.
      apply LockRoot.file_setFile _ _ _ _ |>.trans
      split
      · rename_i same
        have crashed := dead file (same ▸ found)
        rw [samePid] at crashed
        unfold Agent.isAlive at alive
        simp [crashed] at alive
      · exact found
    | quiesce =>
      refine ⟨respects, by simp [Agent.cleaned, Owns], noStale rfl, ?_⟩
      intro holders same
      cases same
      exact otherRuntimeHolders_nil holds agent fun file found => dead file found
  | ownLooking ending =>
    have owns : agent.phase.Owns := by
      rw [phase]
      trivial
    have passed : ∀ holders, ending = .passed holders → holders = [] := by
      intro holders same
      apply known.passed
      rw [phase, same]
      rfl
    dsimp only
    split
    · exact ⟨refl, known.look (fun _ => owns) (noStale rfl)
        (fun holders same => passed holders (some.inj same))⟩
    · exact ⟨refl, known.look (fun _ => owns) (noStale rfl)
        (fun holders same => passed holders (some.inj same))⟩
  | ownRemoving ending =>
    have owns : agent.phase.Owns := by
      rw [phase]
      trivial
    refine ⟨respects_setFile (known.own_only alive owns), by simp [Owns], noStale rfl, ?_⟩
    intro holders same
    apply known.passed
    rw [phase]
    exact same
  | ended ending =>
    refine ⟨refl, known.look (by simp [Owns]) (noStale rfl) ?_⟩
    intro holders same
    apply known.passed
    rw [phase]
    exact same

theorem holds_setPhase (present : locks.agents[token]? = some agent)
    (owns : phase.Owns → agent.phase.Owns) (stale : phase.staleFile = none)
    (passed : ∀ holders, phase.ending = some (.passed holders) → holders = []) :
    (setPhase locks token agent phase).Holds Known :=
  holds.update present ((holds token agent present).look owns (noStale stale) passed)
    fun _ _ _ _ known => known

omit holds

theorem retain_spec (held : ∃ references, phase = .held references) :
    (phase.retain.Owns → phase.Owns) ∧ phase.retain.staleFile = none ∧
      phase.retain.ending = none := by
  obtain ⟨references, rfl⟩ := held
  exact ⟨fun _ => trivial, rfl, rfl⟩

theorem liveAgent_spec (found : liveAgent locks token = some agent) :
    locks.agents[token]? = some agent ∧ agent.isAlive locks.shared = true := by
  exact filter_eq_some_iff.mp found

theorem sharedRuntimeLease_held (found : sharedRuntimeLease locks pid = some token)
    (present : locks.agents[token]? = some agent) :
    ∃ references, agent.phase = .held references := by
  obtain ⟨bound, matches_, _⟩ := List.findIdx?_eq_some_iff_getElem.mp found
  obtain ⟨_, same⟩ := List.getElem?_eq_some_iff.mp present
  rw [same] at matches_
  cases phase : agent.phase with
  | held references => exact ⟨references, rfl⟩
  | _ =>
    rw [phase] at matches_
    simp at matches_

include holds in
theorem holds_spawn (owns : ¬agent.phase.Owns) (stale : agent.phase.staleFile = none)
    (passed : ∀ holders, agent.phase.ending ≠ some (.passed holders)) :
    (locks.spawn agent).Holds Known :=
  holds.spawn
    { owns := fun _ owning => absurd owning owns
      stale := noStale stale
      passed := fun holders same => absurd same (passed holders) }

theorem step_holds (locks : LockWorld) (action : LockAction) (unraced : Unraced locks action)
    (holds : locks.Holds Known) : (step locks action).Holds Known := by
  unfold step
  cases action with
  | acquireRuntime pid =>
    dsimp only
    split
    · rename_i token found
      split
      · rename_i agent present
        obtain ⟨owns, stale, ending⟩ := retain_spec (sharedRuntimeLease_held found present)
        exact holds_setPhase holds present owns stale (noEnding ending)
      · exact holds
    · exact holds_spawn holds (by simp [Owns]) rfl (by simp [ending])
  | acquireMaintenance pid =>
    exact holds_spawn holds (by simp [Owns]) rfl (by simp [ending])
  | assertRestoreQuiesced pid =>
    dsimp only
    split
    · exact holds_spawn holds (by simp [Owns]) rfl (by simp [ending])
    · exact holds_spawn holds (by simp [Owns]) rfl (by simp [ending])
  | advance token =>
    dsimp only
    split
    · exact holds
    · rename_i agent found
      obtain ⟨present, alive⟩ := liveAgent_spec found
      obtain ⟨respects, known⟩ := advance_spec holds present alive unraced
      exact holds.update present known
        fun other found' different _ stays => stays.stable different respects
  | release token =>
    dsimp only
    split
    · exact holds
    · rename_i agent found
      obtain ⟨present, _⟩ := liveAgent_spec found
      have known := holds token agent present
      refine holds.update present ?_ fun _ _ _ _ stays => stays
      cases phase : agent.phase with
      | held references =>
        have owns : agent.phase.Owns := by
          rw [phase]
          trivial
        rcases references with _ | _ | references
        · exact known.look (fun _ => owns) (noStale rfl) (by simp [release, ending])
        · exact known.look (fun _ => owns) (noStale rfl) (by simp [release, ending])
        · exact known.look (fun _ => owns) (noStale rfl) (noEnding rfl)
      | _ =>
        have same : ({ agent with phase := agent.phase.release } : Agent) = agent := by
          rw [phase]
          cases agent
          exact congrArg _ phase.symm
        rw [phase] at same
        rw [same]
        exact known
  | crash pid =>
    apply holds.interfere
    intro token agent _ known
    have different : token ≠ token + 1 := Nat.ne_of_lt (Nat.lt_succ_self token)
    refine .stable different ?_ known
    exact ⟨fun other member => List.mem_cons_of_mem pid member,
      fun kind file found _ _ => by cases kind <;> exact found⟩

theorem run_holds
    (unraced : EachCommand step Unraced initial actions) : (run actions).Holds Known :=
  runAll_preserves step_holds unraced fun token agent present => by cases present

def Holder (locks : LockWorld) (task : Task) (token : Nat) (agent : Agent) : Prop :=
  locks.agents[token]? = some agent ∧ agent.task = task ∧
    agent.isAlive locks.shared = true ∧ ∃ references, agent.phase = .held references

structure Excludes (locks : LockWorld) : Prop where
  exclusive : ∀ task token other agent otherAgent, Holder locks task token agent →
    Holder locks task other otherAgent → token = other
  quiesced : ∀ agent ∈ locks.agents, ∀ holders,
    agent.phase = .ended (.passed holders) → holders = []
  inPlace : ∀ task token agent, Holder locks task token agent →
    ∃ file, locks.shared.file task.kind = some file ∧ file.token = token ∧ file.pid = agent.pid

/-- In a run in which every stale file is still the one that was compared when it is removed, the
locks exclude. -/
theorem locks_exclude (actions : List LockAction)
    (unraced : EachCommand step Unraced initial actions) : Excludes (run actions) := by
  have holds := run_holds unraced
  have inPlace : ∀ task token agent, Holder (run actions) task token agent →
      ∃ file, (run actions).shared.file task.kind = some file ∧ file.token = token ∧
        file.pid = agent.pid := by
    rintro task token agent ⟨present, rfl, alive, references, held⟩
    apply (holds token agent present).owns alive
    rw [held]
    trivial
  constructor
  case exclusive =>
    intro task token other agent otherAgent holder otherHolder
    obtain ⟨file, found, sameToken, _⟩ := inPlace task token agent holder
    obtain ⟨otherFile, otherFound, otherSame, _⟩ := inPlace task other otherAgent otherHolder
    obtain rfl := some.inj (found.symm.trans otherFound)
    exact sameToken.symm.trans otherSame
  case quiesced =>
    intro agent member holders passed
    obtain ⟨token, present⟩ := List.getElem?_of_mem member
    apply (holds token agent present).passed
    rw [passed]
    rfl
  case inPlace => exact inPlace

def takeover : List LockAction :=
  [.acquireMaintenance 1, .advance 0, .advance 0, .advance 0, .crash 1, .acquireMaintenance 2,
    .advance 1, .advance 1, .advance 1, .advance 1, .advance 1, .advance 1, .advance 1]

instance (locks : LockWorld) : (action : LockAction) → Decidable (Unraced locks action)
  | .advance _ => inferInstanceAs (Decidable (_ = true))
  | .acquireRuntime _ | .acquireMaintenance _ | .assertRestoreQuiesced _ | .release _ | .crash _ =>
    .isTrue trivial

theorem locks_exclude_takeover :
    (∃ agent, Holder (run takeover) .maintenance 1 agent) ∧ Excludes (run takeover) :=
  ⟨⟨⟨2, .maintenance, .held 1⟩, by decide +kernel, rfl, by decide +kernel, 1, rfl⟩,
    locks_exclude takeover (by decide +kernel)⟩

/-- Two processes compare the same stale lock, and the second one removes the lock that the first
one has acquired by then. -/
def doubleCleanup : List LockAction :=
  [.acquireMaintenance 1, .advance 0, .advance 0, .advance 0, .crash 1,
    .acquireMaintenance 2, .advance 1, .advance 1, .advance 1,
    .acquireMaintenance 3, .advance 2, .advance 2, .advance 2,
    .advance 1, .advance 1, .advance 1, .advance 1, .advance 2, .advance 2, .advance 2, .advance 2]

theorem doubleCleanup_not_exclusive : ¬∀ actions, Excludes (run actions) := by
  intro all
  have first : Holder (run doubleCleanup) .maintenance 1 ⟨2, .maintenance, .held 1⟩ :=
    ⟨by decide +kernel, rfl, by decide +kernel, 1, rfl⟩
  have second : Holder (run doubleCleanup) .maintenance 2 ⟨3, .maintenance, .held 1⟩ :=
    ⟨by decide +kernel, rfl, by decide +kernel, 1, rfl⟩
  exact absurd ((all doubleCleanup).exclusive .maintenance 1 2 _ _ first second) (by decide)

end LicoMesh.StorageLocks
