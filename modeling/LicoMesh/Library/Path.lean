import Mathlib.Data.List.Basic

namespace LicoMesh.Library

/-! Paths of a labelled transition system whose steps are filtered by a permission, runs of total
commands, and agents that act in turn on a shared state. What is known about an agent is an
assertion about the shared state; it is kept by the agent's own steps and stable under the steps of
the others. -/

inductive Path {σ ℓ : Type} (Step : σ → ℓ → σ → Prop) (permitted : σ → ℓ → Prop) : σ → σ → Prop
  | refl (state : σ) : Path Step permitted state state
  | step {state middle last : σ} (label : ℓ) (permission : permitted state label)
      (head : Step state label middle) (tail : Path Step permitted middle last) :
      Path Step permitted state last

namespace Path

variable {σ ℓ : Type} {Step : σ → ℓ → σ → Prop} {permitted : σ → ℓ → Prop} {first middle last : σ}

theorem single (permission : permitted first label)
    (head : Step first label last) : Path Step permitted first last :=
  .step label permission head (.refl last)

theorem trans (left : Path Step permitted first middle)
    (right : Path Step permitted middle last) : Path Step permitted first last := by
  induction left with
  | refl => exact right
  | step label permission head _ induction =>
    exact .step label permission head (induction right)

theorem mono (path : Path Step permitted first last)
    (weaken : ∀ state label, permitted state label → weaker state label) :
    Path Step weaker first last := by
  induction path with
  | refl state => exact .refl state
  | step label permission head _ induction =>
    exact .step label (weaken _ _ permission) head induction

theorem preserves {invariant : σ → Prop} (path : Path Step permitted first last)
    (keeps : ∀ {state label next}, permitted state label → Step state label next →
      invariant state → invariant next)
    (holds : invariant first) : invariant last := by
  induction path with
  | refl => exact holds
  | step label permission head _ induction =>
    exact induction (keeps permission head holds)

end Path

/-! Runs of total commands. -/

section Runs

variable {σ κ : Type}

def runAll (apply : σ → κ → σ) (state : σ) (commands : List κ) : σ := commands.foldl apply state

@[simp] theorem runAll_nil (apply : σ → κ → σ) (state : σ) : runAll apply state [] = state := rfl

@[simp] theorem runAll_cons (apply : σ → κ → σ) (state : σ) (command : κ) (rest : List κ) :
    runAll apply state (command :: rest) = runAll apply (apply state command) rest := rfl

theorem runAll_append (apply : σ → κ → σ) (state : σ) (before after : List κ) :
    runAll apply state (before ++ after) = runAll apply (runAll apply state before) after :=
  List.foldl_append

def EachCommand (apply : σ → κ → σ) (condition : σ → κ → Prop) : σ → List κ → Prop
  | _, [] => True
  | state, command :: rest =>
    condition state command ∧ EachCommand apply condition (apply state command) rest

instance decidableEachCommand (apply : σ → κ → σ) (condition : σ → κ → Prop)
    [∀ state command, Decidable (condition state command)] :
    (state : σ) → (commands : List κ) → Decidable (EachCommand apply condition state commands)
  | _, [] => .isTrue trivial
  | state, command :: rest =>
    @instDecidableAnd _ _ inferInstance
      (decidableEachCommand apply condition (apply state command) rest)

theorem EachCommand.append_iff : EachCommand apply condition state (before ++ after) ↔
      EachCommand apply condition state before ∧
        EachCommand apply condition (runAll apply state before) after := by
  induction before generalizing state with
  | nil => simp [EachCommand]
  | cons command rest induction =>
    simp only [List.cons_append, EachCommand, induction, runAll_cons, and_assoc]

theorem not_eachCommand_iff : ¬ EachCommand apply condition state commands ↔
      ∃ earlier command later, commands = earlier ++ command :: later ∧
        ¬ condition (runAll apply state earlier) command := by
  induction commands generalizing state with
  | nil => simp [EachCommand]
  | cons command rest induction =>
    rw [EachCommand, not_and_or, induction]
    constructor
    · rintro (broken | ⟨earlier, other, later, rfl, broken⟩)
      · exact ⟨[], command, rest, rfl, broken⟩
      · exact ⟨command :: earlier, other, later, rfl, broken⟩
    · rintro ⟨earlier, other, later, same, broken⟩
      cases earlier with
      | nil =>
        obtain ⟨rfl, rfl⟩ := List.cons.inj same
        exact .inl broken
      | cons first earlier =>
        obtain ⟨rfl, rfl⟩ := List.cons.inj same
        exact .inr ⟨earlier, other, later, rfl, broken⟩

theorem eachCommand_and_iff :
    EachCommand apply (fun state command => condition state command ∧ other state command) state
        commands ↔
      EachCommand apply condition state commands ∧ EachCommand apply other state commands := by
  induction commands generalizing state with
  | nil => simp [EachCommand]
  | cons command rest induction =>
    simp only [EachCommand, induction]
    exact and_and_and_comm

theorem EachCommand.mono (h : EachCommand apply condition state commands)
    (weaken : ∀ state command, condition state command → weaker state command) :
    EachCommand apply weaker state commands := by
  induction commands generalizing state with
  | nil => trivial
  | cons command rest induction => exact ⟨weaken _ _ h.1, induction h.2⟩

theorem runAll_preserves {invariant : σ → Prop}
    (keeps : ∀ state command, condition state command → invariant state →
      invariant (apply state command))
    (each : EachCommand apply condition state commands)
    (holds : invariant state) : invariant (runAll apply state commands) := by
  induction commands generalizing state with
  | nil => exact holds
  | cons command rest induction =>
    exact induction each.2 (keeps state command each.1 holds)

theorem runAll_invariant {invariant : σ → Prop}
    (keeps : ∀ state command, invariant state → invariant (apply state command))
    (holds : invariant state) (commands : List κ) : invariant (runAll apply state commands) := by
  induction commands generalizing state with
  | nil => exact holds
  | cons command rest induction => exact induction (keeps state command holds)

theorem eachCommand_iff_prefixes {invariant good : σ → Prop}
    (stays : ∀ state command, invariant state → invariant (apply state command))
    (exact : ∀ state command, invariant state → good state →
      (condition state command ↔ good (apply state command)))
    (holds : invariant state) (sound : good state) (commands : List κ) :
    (∀ earlier, earlier <+: commands → good (runAll apply state earlier)) ↔
      EachCommand apply condition state commands := by
  induction commands generalizing state with
  | nil =>
    refine ⟨fun _ => trivial, fun _ earlier isPrefix => ?_⟩
    rw [List.prefix_nil.mp isPrefix]
    exact sound
  | cons command rest induction =>
    have next := stays state command holds
    have tail : good (apply state command) →
        ((∀ earlier, earlier <+: rest → good (runAll apply (apply state command) earlier)) ↔
          EachCommand apply condition (apply state command) rest) :=
      fun nextGood => induction next nextGood
    constructor
    · intro all
      have nextGood : good (apply state command) :=
        all [command] ((List.cons_prefix_cons).mpr ⟨rfl, List.nil_prefix⟩)
      refine ⟨(exact state command holds sound).mpr nextGood, (tail nextGood).mp ?_⟩
      intro earlier isPrefix
      exact all (command :: earlier) ((List.cons_prefix_cons).mpr ⟨rfl, isPrefix⟩)
    · rintro ⟨meets, each⟩ earlier isPrefix
      have nextGood := (exact state command holds sound).mp meets
      cases earlier with
      | nil => exact sound
      | cons first later =>
        obtain ⟨same, restPrefix⟩ := (List.cons_prefix_cons).mp isPrefix
        subst same
        exact (tail nextGood).mpr each later restPrefix

theorem eachCommand_congr {invariant : σ → Prop}
    (agree : ∀ state command, invariant state → (condition state command ↔ other state command))
    (keeps : ∀ state command, invariant state → condition state command →
      invariant (apply state command))
    (holds : invariant state) (commands : List κ) :
    EachCommand apply condition state commands ↔ EachCommand apply other state commands := by
  induction commands generalizing state with
  | nil => exact Iff.rfl
  | cons command rest induction =>
    have first := agree state command holds
    constructor
    · rintro ⟨meets, each⟩
      exact ⟨first.mp meets, (induction (keeps state command holds meets)).mp each⟩
    · rintro ⟨meets, each⟩
      have kept := keeps state command holds (first.mpr meets)
      exact ⟨first.mpr meets, (induction kept).mpr each⟩

end Runs

/-! Worlds of agents. -/

variable {index : Nat}

structure World (σ α : Type) where
  shared : σ
  agents : List α

namespace World

variable {σ α : Type}

def update (world : World σ α) (index : Nat) (shared : σ) (agent : α) : World σ α :=
  ⟨shared, world.agents.set index agent⟩

def spawn (world : World σ α) (agent : α) : World σ α := ⟨world.shared, world.agents ++ [agent]⟩

def Holds (assertion : σ → Nat → α → Prop) (world : World σ α) : Prop :=
  ∀ index agent, world.agents[index]? = some agent → assertion world.shared index agent

variable {assertion : σ → Nat → α → Prop} {world : World σ α} {shared : σ}

theorem getElem?_update (present : world.agents[index]? = some old) (other : Nat) :
    (world.update index shared agent).agents[other]? =
      if other = index then some agent else world.agents[other]? := by
  obtain ⟨bound, _⟩ := List.getElem?_eq_some_iff.mp present
  unfold update
  split
  · rename_i same
    rw [same, List.getElem?_set_self bound]
  · rename_i different
    exact List.getElem?_set_ne (Ne.symm different)

theorem getElem?_spawn (present : (world.spawn agent).agents[index]? = some found) :
    world.agents[index]? = some found ∨ (index = world.agents.length ∧ found = agent) := by
  unfold spawn at present
  by_cases inside : index < world.agents.length
  · rw [List.getElem?_append_left inside] at present
    exact .inl present
  · rw [List.getElem?_append_right (Nat.le_of_not_lt inside)] at present
    obtain ⟨bound, same⟩ := List.getElem?_eq_some_iff.mp present
    rw [List.length_singleton] at bound
    refine .inr ⟨by omega, ?_⟩
    rw [← same]
    exact List.getElem_singleton bound

variable (holds : Holds assertion world)
include holds

theorem Holds.update
    (present : world.agents[index]? = some old) (own : assertion shared index agent)
    (stable : ∀ other found, other ≠ index → world.agents[other]? = some found →
      assertion world.shared other found → assertion shared other found) :
    Holds assertion (world.update index shared agent) := by
  intro other found present'
  rw [getElem?_update present] at present'
  split at present'
  · rename_i same
    rw [same]
    exact Option.some.inj present' ▸ own
  · rename_i different
    exact stable other found different present' (holds other found present')

theorem Holds.spawn (own : assertion world.shared world.agents.length agent) :
    Holds assertion (world.spawn agent) := by
  intro index found present
  obtain old | ⟨rfl, rfl⟩ := getElem?_spawn present
  · exact holds index found old
  · exact own

theorem Holds.interfere (stable : ∀ index found, world.agents[index]? = some found →
      assertion world.shared index found → assertion shared index found) :
    Holds assertion ⟨shared, world.agents⟩ :=
  fun index found present => stable index found present (holds index found present)

end World

end LicoMesh.Library
