import LicoMesh.PluginLifecycle.Lease

namespace LicoMesh.PluginLifecycle

open Library

/-! Exclusion between processes, in runs in which a lease directory is renamed away only while it is
the one that its mover has looked at. -/

variable {token : Nat} {root next : LeaseRoot} {lifecycle : Lifecycle} {agent : Agent}

/-- Between acquiring the lease and releasing it. -/
def Phase.Holds : Phase → Prop
  | .opening | .holding _ => True
  | _ => False

structure Known (root : LeaseRoot) (token : Nat) (agent : Agent) : Prop where
  owns : agent.phase.Holds → ∃ directory, root.lease = some directory ∧
    directory.record.ownerToken = token ∧ directory.record.policy = agent.policy
  staged : ∀ attempt staged, agent.phase = .publishing attempt staged →
    staged.record.ownerToken = token ∧ staged.record.policy = agent.policy
  stale : ∀ attempt observed, agent.phase = .takingOver attempt observed →
    observed.modifiedAtMs + observed.record.policy.staleThresholdMs < root.clock
  fenced : agent.fenced ≠ 0 → agent.phase.Holds

def LeaseRoot.IsFresh (root : LeaseRoot) (directory : LeaseDirectory) : Prop :=
  root.clock ≤ directory.modifiedAtMs + directory.record.policy.staleThresholdMs

open LeaseRoot

structure Respects (token : Nat) (root next : LeaseRoot) : Prop where
  clock : root.clock ≤ next.clock
  keeps : ∀ directory, root.lease = some directory → directory.record.ownerToken ≠ token →
    root.IsFresh directory →
    ∃ kept, next.lease = some kept ∧ kept.record = directory.record

open Respects

theorem Respects.refl (token : Nat) (root : LeaseRoot) : Respects token root root :=
  ⟨Nat.le_refl _, fun directory present _ _ => ⟨directory, present, rfl⟩⟩

theorem Respects.of_lease_eq (clock : root.clock ≤ next.clock) (same : next.lease = root.lease) :
    Respects token root next :=
  ⟨clock, fun directory present _ _ => ⟨directory, same.trans present, rfl⟩⟩

theorem Respects.of_none (clock : root.clock ≤ next.clock) (none : root.lease = none) :
    Respects token root next := by
  refine ⟨clock, ?_⟩
  intro directory present
  rw [none] at present
  cases present

def Refreshed (lifecycle : Lifecycle) : Prop :=
  ∀ token agent, lifecycle.agents[token]? = some agent → agent.phase.Holds →
    ∀ directory, lifecycle.shared.lease = some directory →
      directory.record.ownerToken = token → lifecycle.shared.IsFresh directory

/-- A directory is renamed away only while it is the one that was looked at, unchanged; and a lease
is released only when every record write that passed the fence is in place. -/
def Unraced (lifecycle : Lifecycle) : LeaseAction → Prop
  | .advance token =>
    lifecycle.agents[token]?.all fun agent =>
      match agent.phase with
      | .takingOver _ observed => lifecycle.shared.lease.all fun directory => directory = observed
      | .removeMoving _ =>
        lifecycle.shared.lease.all fun directory => directory.record.ownerToken = token
      | _ => true
  | .release token => lifecycle.agents[token]?.all fun agent => agent.fenced = 0
  | _ => True

def Permitted (lifecycle : Lifecycle) (action : LeaseAction) : Prop :=
  Refreshed lifecycle ∧ Unraced lifecycle action

theorem Known.stable (refreshed : Refreshed lifecycle)
    (present : lifecycle.agents[other]? = some agent) (different : other ≠ token)
    (respects : Respects token lifecycle.shared next) (known : Known lifecycle.shared other agent) :
    Known next other agent := by
  constructor
  case owns =>
    intro holds
    obtain ⟨directory, found, sameToken, samePolicy⟩ := known.owns holds
    have fresh := refreshed other agent present holds directory found sameToken
    obtain ⟨kept, foundNext, sameRecord⟩ :=
      respects.keeps directory found (sameToken ▸ different) fresh
    refine ⟨kept, foundNext, ?_, ?_⟩
    · rw [sameRecord]
      exact sameToken
    · rw [sameRecord]
      exact samePolicy
  case staged => exact known.staged
  case stale =>
    intro attempt observed phase
    exact Nat.lt_of_lt_of_le (known.stale attempt observed phase) respects.clock
  case fenced => exact known.fenced

def Phase.Plain : Phase → Prop
  | .publishing _ _ | .takingOver _ _ | .opening | .holding _ => False
  | _ => True

theorem Known.idle (plain : agent.phase.Plain) (none : agent.fenced = 0) :
    Known root token agent := by
  constructor
  case owns =>
    intro holds
    cases phase : agent.phase <;> rw [phase] at plain holds <;>
      first | exact plain.elim | exact holds.elim
  case staged =>
    intro attempt staged same
    rw [same] at plain
    exact plain.elim
  case stale =>
    intro attempt observed same
    rw [same] at plain
    exact plain.elim
  case fenced => exact fun waiting => absurd none waiting

theorem Known.plain (known : Known root token agent) (plain : phase.Plain)
    (was : agent.phase = before) (left : ¬before.Holds) :
    Known next token { agent with phase := phase } := by
  apply Known.idle plain
  refine Decidable.byContradiction fun waiting => left ?_
  rw [← was]
  exact known.fenced waiting

theorem retry_plain (attempt : Nat) : (Phase.retry attempt).Plain := by
  unfold Phase.retry
  split <;> trivial

theorem moveBack_respects (root : LeaseRoot) (token : Nat) :
    Respects token root (root.moveBack token) := by
  unfold moveBack
  split
  · rename_i none _
    exact .of_none (Nat.le_refl _) none
  · exact .refl token root

theorem advance_spec (holds : lifecycle.Holds Known)
    (present : lifecycle.agents[token]? = some agent)
    (unraced : Unraced lifecycle (.advance token)) :
    Respects token lifecycle.shared (agent.advance lifecycle.shared token).1 ∧
      Known (agent.advance lifecycle.shared token).1 token
        { agent with phase := (agent.advance lifecycle.shared token).2 } := by
  have known := holds token agent present
  have refl := refl token lifecycle.shared
  unfold Unraced at unraced
  dsimp only at unraced
  rw [present] at unraced
  unfold Agent.advance
  cases phase : agent.phase with
  | staging attempt =>
    refine ⟨refl, ?_, ?_, ?_, ?_⟩
    · exact fun holding => holding.elim
    · intro _ staged same
      cases same
      exact ⟨rfl, rfl⟩
    · exact fun _ _ same => by cases same
    · intro waiting
      have holding := known.fenced waiting
      rw [phase] at holding
      exact holding.elim
  | publishing attempt staged =>
    dsimp only
    cases found : lifecycle.shared.lease with
    | some directory => exact ⟨refl, known.plain trivial phase id⟩
    | none =>
      obtain ⟨sameToken, samePolicy⟩ := known.staged attempt staged phase
      refine ⟨of_none (Nat.le_refl _) found, ?_, ?_, ?_, ?_⟩
      · exact fun _ => ⟨staged, rfl, sameToken, samePolicy⟩
      · exact fun _ _ same => by cases same
      · exact fun _ _ same => by cases same
      · exact fun _ => trivial
  | looking attempt =>
    dsimp only
    cases lifecycle.shared.lease with
    | none => exact ⟨refl, known.plain (retry_plain attempt) phase id⟩
    | some directory => exact ⟨refl, known.plain trivial phase id⟩
  | reading attempt modifiedAtMs =>
    dsimp only
    cases lifecycle.shared.lease with
    | none => exact ⟨refl, known.plain trivial phase id⟩
    | some directory => exact ⟨refl, known.plain trivial phase id⟩
  | judging attempt observed =>
    dsimp only
    split
    · rename_i stale
      refine ⟨refl, ?_, ?_, ?_, ?_⟩
      · exact fun holding => holding.elim
      · exact fun _ _ same => by cases same
      · intro _ _ same
        cases same
        exact stale
      · intro waiting
        have holding := known.fenced waiting
        rw [phase] at holding
        exact holding.elim
    · exact ⟨refl, known.plain trivial phase id⟩
  | takingOver attempt observed =>
    have stale := known.stale attempt observed phase
    cases found : lifecycle.shared.lease with
    | none => exact ⟨refl, known.plain (retry_plain attempt) phase id⟩
    | some directory =>
      simp only [Option.all_some, phase, found, decide_eq_true_eq] at unraced
      refine ⟨⟨Nat.le_refl _, ?_⟩, known.plain trivial phase id⟩
      -- What is taken over has not been refreshed, so that no holder has it.
      intro kept foundKept _ fresh
      rw [found] at foundKept
      cases foundKept
      rw [unraced] at fresh
      exact absurd fresh (Nat.not_le.mpr stale)
  | inspecting attempt observed =>
    dsimp only
    split
    · exact ⟨refl, known.plain trivial phase id⟩
    · exact ⟨refl, known.plain trivial phase id⟩
  | restoring =>
    exact ⟨moveBack_respects lifecycle.shared token, known.plain trivial phase id⟩
  | discarding attempt =>
    exact ⟨of_lease_eq (Nat.le_refl _) rfl, known.plain (retry_plain attempt) phase id⟩
  | opening =>
    have holding : agent.phase.Holds := by
      rw [phase]
      trivial
    obtain ⟨directory, found, sameToken, samePolicy⟩ := known.owns holding
    rw [found]
    refine ⟨refl, ?_, ?_, ?_, ?_⟩
    · exact fun _ => ⟨directory, found, sameToken, samePolicy⟩
    · exact fun _ _ same => by cases same
    · exact fun _ _ same => by cases same
    · exact fun _ => trivial
  | holding handle =>
    have same : ({ agent with phase := .holding handle } : Agent) = agent := by
      rw [← phase]
    rw [same]
    exact ⟨refl, known⟩
  | removeLooking opened =>
    dsimp only
    split
    · exact ⟨refl, known.plain trivial phase id⟩
    · exact ⟨refl, known.plain trivial phase id⟩
  | removeReading opened =>
    cases lifecycle.shared.lease with
    | none => exact ⟨refl, known.plain trivial phase id⟩
    | some directory =>
      dsimp only
      split
      · exact ⟨refl, known.plain trivial phase id⟩
      · exact ⟨refl, known.plain trivial phase id⟩
  | removeMoving opened =>
    cases found : lifecycle.shared.lease with
    | none => exact ⟨refl, known.plain trivial phase id⟩
    | some directory =>
      simp only [Option.all_some, phase, found, decide_eq_true_eq] at unraced
      refine ⟨⟨Nat.le_refl _, ?_⟩, known.plain trivial phase id⟩
      intro kept foundKept different
      rw [found] at foundKept
      cases foundKept
      exact absurd unraced different
  | removeInspecting opened =>
    dsimp only
    split
    · exact ⟨refl, known.plain trivial phase id⟩
    · exact ⟨refl, known.plain trivial phase id⟩
  | removeRestoring opened =>
    exact ⟨moveBack_respects lifecycle.shared token, known.plain trivial phase id⟩
  | removeDiscarding opened =>
    exact ⟨of_lease_eq (Nat.le_refl _) rfl, known.plain trivial phase id⟩
  | ended outcome =>
    exact ⟨refl, known.plain trivial phase id⟩
  | crashed =>
    exact ⟨refl, known.plain trivial phase id⟩

structure Sound (lifecycle : Lifecycle) : Prop where
  known : lifecycle.Holds Known
  written : ∀ write ∈ lifecycle.shared.writes, write.owned = true

theorem actOn_sound (sound : Sound lifecycle) (refreshed : Refreshed lifecycle)
    (acts : ∀ agent, lifecycle.agents[token]? = some agent →
      Respects token lifecycle.shared (act agent).1 ∧ Known (act agent).1 token (act agent).2 ∧
        ∀ write ∈ (act agent).1.writes, write.owned = true) :
    Sound (actOn lifecycle token act) := by
  unfold actOn
  split
  · exact sound
  · rename_i agent present
    obtain ⟨respects, known, written⟩ := acts agent present
    refine ⟨sound.known.update present known ?_, written⟩
    exact fun other found different presentOther stays =>
      stays.stable refreshed presentOther different respects

theorem Known.refenced {fenced : Nat} (known : Known root token agent)
    (clock : root.clock = next.clock) (lease : next.lease = root.lease)
    (holds : fenced ≠ 0 → agent.phase.Holds) :
    Known next token { agent with fenced := fenced } where
  owns := by
    rw [lease]
    exact known.owns
  staged := known.staged
  stale := by
    rw [← clock]
    exact known.stale
  fenced := holds

theorem advance_writes (agent : Agent) (root : LeaseRoot) (token : Nat) :
    (agent.advance root token).1.writes = root.writes := by
  have back : (root.moveBack token).writes = root.writes := by
    unfold moveBack
    split <;> rfl
  unfold Agent.advance
  cases agent.phase with
  | publishing | takingOver | removeMoving =>
    dsimp only
    split <;> rfl
  | restoring | removeRestoring => exact back
  | _ => rfl

theorem touch_respects (root : LeaseRoot) (token handle : Nat) :
    Respects token root (root.touch handle) := by
  refine ⟨Nat.le_refl _, ?_⟩
  intro directory present _ _
  unfold touch
  rw [present]
  refine ⟨_, rfl, ?_⟩
  dsimp only
  split <;> rfl

theorem touch_known (known : Known root token agent) : Known (root.touch handle) token agent where
  owns := by
    intro holds
    obtain ⟨directory, found, sameToken, samePolicy⟩ := known.owns holds
    unfold touch
    rw [found]
    refine ⟨_, rfl, ?_, ?_⟩
    · dsimp only
      split <;> exact sameToken
    · dsimp only
      split <;> exact samePolicy
  staged := known.staged
  stale := known.stale
  fenced := known.fenced

theorem step_sound (lifecycle : Lifecycle) (action : LeaseAction)
    (permitted : Permitted lifecycle action) (sound : Sound lifecycle) :
    Sound (step lifecycle action) := by
  obtain ⟨refreshed, unraced⟩ := permitted
  have refl := fun token => refl token lifecycle.shared
  cases action with
  | runExclusive policy =>
    refine ⟨sound.known.spawn ?_, sound.written⟩
    exact Known.idle trivial rfl
  | advance token =>
    apply actOn_sound sound refreshed
    intro agent present
    obtain ⟨respects, known⟩ := advance_spec sound.known present unraced
    refine ⟨respects, known, ?_⟩
    rw [advance_writes]
    exact sound.written
  | heartbeat token =>
    apply actOn_sound sound refreshed
    intro agent present
    have known := sound.known token agent present
    unfold Agent.heartbeat
    split
    · exact ⟨touch_respects _ token _, touch_known known, sound.written⟩
    · exact ⟨refl token, known, sound.written⟩
  | assertCommitFence token =>
    apply actOn_sound sound refreshed
    intro agent present
    have known := sound.known token agent present
    refine ⟨refl token, ?_, sound.written⟩
    unfold Agent.pass
    split
    · rename_i handle phase
      split
      · apply known.refenced rfl rfl
        intro _
        rw [phase]
        trivial
      · exact known
    · exact known
  | commitRecord token =>
    apply actOn_sound sound refreshed
    intro agent present
    have known := sound.known token agent present
    unfold Agent.commit
    split
    · exact ⟨refl token, known, sound.written⟩
    · rename_i waits
      have holds := known.fenced fun none => waits (.inl none)
      refine ⟨of_lease_eq (Nat.le_refl _) rfl, known.refenced rfl rfl fun _ => holds, ?_⟩
      intro write member
      obtain rfl | old := List.mem_cons.mp member
      · obtain ⟨directory, found, sameToken, _⟩ := known.owns holds
        unfold isOwnedBy
        rw [found]
        exact decide_eq_true sameToken
      · exact sound.written write old
  | release token =>
    apply actOn_sound sound refreshed
    intro agent present
    have known := sound.known token agent present
    unfold Unraced at unraced
    dsimp only at unraced
    rw [present, Option.all_some, decide_eq_true_eq] at unraced
    refine ⟨refl token, ?_, sound.written⟩
    unfold Agent.release
    split
    · exact Known.idle trivial unraced
    · exact known
  | crash token =>
    apply actOn_sound sound refreshed
    intro agent present
    refine ⟨refl token, ?_, sound.written⟩
    exact Known.idle trivial rfl
  | tick milliseconds =>
    refine ⟨sound.known.interfere ?_, sound.written⟩
    intro token agent present known
    have later : Respects (token + 1) lifecycle.shared
        { lifecycle.shared with clock := lifecycle.shared.clock + milliseconds } :=
      of_lease_eq (Nat.le_add_right _ _) rfl
    exact known.stable refreshed present (Nat.ne_of_lt (Nat.lt_succ_self token)) later

theorem run_sound (permitted : EachCommand step Permitted initial actions) : Sound (run actions) :=
  runAll_preserves step_sound permitted
    ⟨fun token agent present => (by cases present), fun write member => (by cases member)⟩

def Holder (lifecycle : Lifecycle) (token : Nat) (agent : Agent) : Prop :=
  lifecycle.agents[token]? = some agent ∧ agent.phase.Holds

structure Excludes (lifecycle : Lifecycle) : Prop where
  exclusive : ∀ token other agent otherAgent, Holder lifecycle token agent →
    Holder lifecycle other otherAgent → token = other
  inPlace : ∀ token agent, Holder lifecycle token agent → lifecycle.shared.isOwnedBy token = true
  written : ∀ write ∈ lifecycle.shared.writes, write.owned = true

/-- When live holders refresh their lease, and what is renamed away still is what was looked at,
the lease excludes. -/
theorem lease_excludes (actions : List LeaseAction)
    (permitted : EachCommand step Permitted initial actions) : Excludes (run actions) := by
  have sound := run_sound permitted
  have owns : ∀ token agent, Holder (run actions) token agent →
      ∃ directory, (run actions).shared.lease = some directory ∧
        directory.record.ownerToken = token := by
    rintro token agent ⟨present, holds⟩
    obtain ⟨directory, found, sameToken, _⟩ := (sound.known token agent present).owns holds
    exact ⟨directory, found, sameToken⟩
  constructor
  case exclusive =>
    intro token other agent otherAgent holder otherHolder
    obtain ⟨directory, found, sameToken⟩ := owns token agent holder
    obtain ⟨otherDirectory, otherFound, otherSame⟩ := owns other otherAgent otherHolder
    obtain rfl := Option.some.inj (found.symm.trans otherFound)
    exact sameToken.symm.trans otherSame
  case inPlace =>
    intro token agent holder
    obtain ⟨directory, found, sameToken⟩ := owns token agent holder
    unfold isOwnedBy
    rw [found]
    exact decide_eq_true sameToken
  case written => exact sound.written

def ownerRefreshed (lifecycle : Lifecycle) : Bool :=
  lifecycle.shared.lease.all fun directory =>
    lifecycle.shared.clock ≤
        directory.modifiedAtMs + directory.record.policy.staleThresholdMs ||
      lifecycle.agents[directory.record.ownerToken]?.all fun agent =>
        match agent.phase with
        | .opening | .holding _ => false
        | _ => true

theorem refreshed_of_owner (owner : ownerRefreshed lifecycle = true) : Refreshed lifecycle := by
  intro token agent present holds directory found sameToken
  unfold ownerRefreshed at owner
  rw [found, Option.all_some, sameToken, present, Option.all_some, Bool.or_eq_true] at owner
  cases owner with
  | inl fresh =>
    unfold IsFresh
    exact of_decide_eq_true fresh
  | inr left =>
    cases phase : agent.phase <;> rw [phase] at left holds <;> first | exact holds.elim | cases left

instance (lifecycle : Lifecycle) : (action : LeaseAction) → Decidable (Unraced lifecycle action)
  | .advance _ | .release _ => inferInstanceAs (Decidable (_ = true))
  | .runExclusive _ | .heartbeat _ | .assertCommitFence _ | .commitRecord _ | .crash _ | .tick _ =>
    .isTrue trivial

def takeover : List LeaseAction :=
  [.runExclusive pluginLifecycleLockPolicy, .advance 0, .advance 0, .advance 0, .crash 0,
    .tick 45001,
    .runExclusive pluginLifecycleLockPolicy, .advance 1, .advance 1, .advance 1, .advance 1,
    .advance 1, .advance 1, .advance 1, .advance 1, .advance 1, .advance 1, .advance 1]

theorem lease_excludes_takeover :
    Holder (run takeover) 1 ⟨pluginLifecycleLockPolicy, .holding 1, 0⟩ ∧
      Excludes (run takeover) := by
  refine ⟨⟨by decide +kernel, trivial⟩, lease_excludes takeover ?_⟩
  have each : EachCommand step
      (fun lifecycle action => ownerRefreshed lifecycle = true ∧ Unraced lifecycle action)
      initial takeover := by decide +kernel
  exact each.mono fun _ _ permitted => ⟨refreshed_of_owner permitted.1, permitted.2⟩

/-- Two processes find the same lease stale. One takes it over and holds a lease of its own; the
other one renames that one away, and a third process acquires the lease. -/
def doubleTakeover : List LeaseAction :=
  [.runExclusive pluginLifecycleLockPolicy, .advance 0, .advance 0, .advance 0, .crash 0,
    .tick 45001,
    .runExclusive pluginLifecycleLockPolicy, .advance 1, .advance 1, .advance 1, .advance 1,
    .advance 1,
    .runExclusive pluginLifecycleLockPolicy, .advance 2, .advance 2, .advance 2, .advance 2,
    .advance 2, .advance 1, .advance 1, .advance 1, .advance 1, .advance 1, .advance 1, .advance 2,
    .runExclusive pluginLifecycleLockPolicy, .advance 3, .advance 3, .advance 3]

/-- Refreshing the lease is not enough. -/
theorem doubleTakeover_not_exclusive :
    ¬∀ actions, EachCommand step (fun lifecycle _ => Refreshed lifecycle) initial actions →
      Excludes (run actions) := by
  intro all
  have each : EachCommand step (fun lifecycle _ => ownerRefreshed lifecycle = true) initial
      doubleTakeover := by decide +kernel
  have excludes := all doubleTakeover (each.mono fun _ _ owner => refreshed_of_owner owner)
  have first : Holder (run doubleTakeover) 1 ⟨pluginLifecycleLockPolicy, .holding 1, 0⟩ :=
    ⟨by decide +kernel, trivial⟩
  have second : Holder (run doubleTakeover) 3 ⟨pluginLifecycleLockPolicy, .holding 3, 0⟩ :=
    ⟨by decide +kernel, trivial⟩
  exact absurd (excludes.exclusive 1 3 _ _ first second) (by decide)

end LicoMesh.PluginLifecycle
