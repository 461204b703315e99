import Mathlib.Logic.Basic

namespace LicoMesh.Library

/-! Store transactions: a result and a new store, or an error and no effect. -/

abbrev Transaction (σ ε α : Type) := StateT σ (Except ε) α

namespace Transaction

variable {σ ε α β ρ : Type} {μ : Type → Type}

theorem stateT_pure [Monad μ] (value : α) (state : σ) :
    StateT.pure (m := μ) value state = pure (value, state) := rfl

theorem stateT_set [Monad μ] (next state : σ) :
    StateT.set (m := μ) next state = pure (⟨⟩, next) := rfl

/-- The transaction commits from `store` with `result` and leaves `next`. -/
def Commits (action : Transaction σ ε α) (store : σ) (result : α) (next : σ) : Prop :=
  action store = .ok (result, next)

/-- Every commit of the transaction from `store` satisfies the postcondition. -/
def Ensures (action : Transaction σ ε α) (store : σ) (post : α → σ → Prop) : Prop :=
  ∀ result next, action.Commits store result next → post result next

def passes (action : Transaction σ ε α) (store : σ) (test : α → σ → Bool) : Bool :=
  match action store with
  | .ok (result, next) => test result next
  | .error _ => false

variable {action : Transaction σ ε α}

theorem passes_iff : action.passes store test ↔
      ∃ result next, action.Commits store result next ∧ test result next := by
  unfold passes Commits
  cases action store with
  | error e => simp
  | ok pair =>
    obtain ⟨result, next⟩ := pair
    constructor
    · exact fun test => ⟨result, next, rfl, test⟩
    · rintro ⟨_, _, same, test⟩
      cases same
      exact test

def applied (action : Transaction σ ε α) (store : σ) : σ :=
  match action store with
  | .ok (_, next) => next
  | .error _ => store

theorem Commits.applied_eq
    (commits : action.Commits store result next) : action.applied store = next := by
  have outcome : action store = .ok (result, next) := commits
  simp [applied, outcome]

theorem applied_cases (action : Transaction σ ε α) (store : σ) :
    (∃ result, action.Commits store result (action.applied store)) ∨
      action.applied store = store := by
  cases outcome : action store with
  | error e => exact .inr (by simp [applied, outcome])
  | ok pair =>
    obtain ⟨result, next⟩ := pair
    exact .inl ⟨result, by simp [Commits, applied, outcome]⟩

theorem Commits.unique (left : action.Commits store result first)
    (right : action.Commits store other second) : result = other ∧ first = second := by
  have same : .ok (result, first) = (.ok (other, second) : Except ε (α × σ)) :=
    left.symm.trans right
  simpa using same

@[simp] theorem commits_pure : (pure value : Transaction σ ε α).Commits store result next ↔
      value = result ∧ store = next := by
  constructor
  · intro h
    have same : .ok (value, store) = (.ok (result, next) : Except ε (α × σ)) := h
    simpa using same
  · rintro ⟨rfl, rfl⟩
    rfl

@[simp] theorem commits_bind : (action >>= rest).Commits store result next ↔
      ∃ value middle, action.Commits store value middle ∧
        (rest value).Commits middle result next := by
  constructor
  · intro h
    cases outcome : action store with
    | error e =>
      simp [Commits, bind, StateT.bind, Except.bind, outcome] at h
    | ok pair =>
      obtain ⟨value, middle⟩ := pair
      refine ⟨value, middle, outcome, ?_⟩
      simpa [Commits, bind, StateT.bind, Except.bind, outcome] using h
  · rintro ⟨value, middle, first, second⟩
    have first : action store = .ok (value, middle) := first
    simpa [Commits, bind, StateT.bind, Except.bind, first] using second

@[simp] theorem commits_map : (f <$> action).Commits store result next ↔
      ∃ value, action.Commits store value next ∧ f value = result := by
  rw [← bind_pure_comp]
  simp only [commits_bind, commits_pure]
  constructor
  · rintro ⟨value, _, h, rfl, rfl⟩
    exact ⟨value, h, rfl⟩
  · rintro ⟨value, h, rfl⟩
    exact ⟨value, next, h, rfl, rfl⟩

@[simp] theorem commits_get :
    (get : Transaction σ ε σ).Commits store result next ↔ store = result ∧ store = next := by
  constructor
  · intro h
    have same : .ok (store, store) = (.ok (result, next) : Except ε (σ × σ)) := h
    simpa using same
  · rintro ⟨rfl, rfl⟩
    rfl

theorem commits_get_bind {rest : σ → Transaction σ ε α} :
    (get >>= rest).Commits store result next ↔ (rest store).Commits store result next := by
  simp only [commits_bind, commits_get]
  constructor
  · rintro ⟨_, _, ⟨rfl, rfl⟩, commits⟩
    exact commits
  · exact fun commits => ⟨_, _, ⟨rfl, rfl⟩, commits⟩

@[simp] theorem commits_set :
    (set written : Transaction σ ε PUnit).Commits store result next ↔ written = next := by
  constructor
  · intro h
    have same : .ok (.unit, written) =
        (.ok (result, next) : Except ε (PUnit × σ)) := h
    simpa using same
  · rintro rfl
    rfl

@[simp] theorem commits_modify : (modify update : Transaction σ ε PUnit).Commits store result next ↔
      update store = next := by
  constructor
  · intro h
    have same : .ok (.unit, update store) =
        (.ok (result, next) : Except ε (PUnit × σ)) := h
    simpa using same
  · rintro rfl
    rfl

@[simp] theorem commits_throw : ¬ (throw error : Transaction σ ε α).Commits store result next := by
  intro h
  have impossible : (.error error : Except ε (α × σ)) = .ok (result, next) := h
  cases impossible

@[simp] theorem commits_ite [Decidable condition] {yes no : Transaction σ ε α} :
    (if condition then yes else no).Commits store result next ↔
      if condition then yes.Commits store result next else no.Commits store result next := by
  split <;> rfl

theorem bind_eq_ok {first : Except ε α} :
    (first >>= rest) = .ok result ↔ ∃ value, first = .ok value ∧ rest value = .ok result := by
  cases first with
  | error e => simp [bind, Except.bind]
  | ok value => simp [bind, Except.bind]

def check (outcome : Except ε α) : Transaction σ ε α :=
  match outcome with
  | .ok value => pure value
  | .error error => throw error

@[simp] theorem commits_check : (check outcome : Transaction σ ε α).Commits store result next ↔
      outcome = .ok result ∧ store = next := by
  cases outcome with
  | error e => simp [check]
  | ok value => simp [check]

/-! Postcondition rules. -/

theorem ensures_pure
    (h : post value store) : (pure value : Transaction σ ε α).Ensures store post := by
  intro result next commits
  obtain ⟨rfl, rfl⟩ := commits_pure.mp commits
  exact h

variable {rest : α → Transaction σ ε β}

theorem ensures_bind
    (h : action.Ensures store fun value middle => (rest value).Ensures middle post) :
    (action >>= rest).Ensures store post := by
  intro result next commits
  obtain ⟨value, middle, first, second⟩ := commits_bind.mp commits
  exact h value middle first result next second

theorem Ensures.mono (h : action.Ensures store post)
    (weaken : ∀ result next, post result next → weaker result next) : action.Ensures store weaker :=
  fun result next commits => weaken result next (h result next commits)

theorem ensures_mapM {f : ρ → Transaction σ ε α} (invariant : List ρ → σ → Prop)
    (step : ∀ row rest store, invariant (row :: rest) store →
      (f row).Ensures store fun _ next => invariant rest next) :
    ∀ {rows : List ρ} {store : σ}, invariant rows store →
      (rows.mapM f).Ensures store fun _ next => invariant [] next
  | [], store, h => by
    rw [List.mapM_nil]
    exact ensures_pure h
  | row :: rest, store, h => by
    rw [List.mapM_cons]
    refine ensures_bind ((step row rest store h).mono ?_)
    intro _ middle hmiddle
    refine ensures_bind ((ensures_mapM invariant step hmiddle).mono ?_)
    intro _ next hnext
    exact ensures_pure hnext

/-! Which errors a transaction can throw. -/

/-- Every error the transaction throws from `store` satisfies the condition. -/
def Raises (action : Transaction σ ε α) (store : σ) (errors : ε → Prop) : Prop :=
  ∀ error, action store = .error error → errors error

theorem raises_pure : (pure value : Transaction σ ε α).Raises store errors := by
  intro error failed
  cases failed

theorem raises_throw (h : errors error) :
    (throw error : Transaction σ ε α).Raises store errors := by
  intro thrown failed
  cases failed
  exact h

theorem raises_get : (get : Transaction σ ε σ).Raises store errors := by
  intro error failed
  cases failed

theorem raises_set {written store : σ} :
    (set written : Transaction σ ε PUnit).Raises store errors := by
  intro error failed
  cases failed

theorem raises_modify : (modify update : Transaction σ ε PUnit).Raises store errors := by
  intro error failed
  cases failed

theorem raises_check (h : ∀ error, outcome = .error error → errors error) :
    (check outcome : Transaction σ ε α).Raises store errors := by
  cases outcome with
  | error e => exact raises_throw (h e rfl)
  | ok value => exact raises_pure

theorem raises_bind (first : action.Raises store errors)
    (second : ∀ value middle, action.Commits store value middle →
      (rest value).Raises middle errors) : (action >>= rest).Raises store errors := by
  intro error failed
  cases outcome : action store with
  | error e =>
    have same : .error e = (.error error : Except ε (β × σ)) := by
      simpa [bind, StateT.bind, Except.bind, outcome] using failed
    cases same
    exact first error outcome
  | ok pair =>
    obtain ⟨value, middle⟩ := pair
    refine second value middle outcome error ?_
    simpa [bind, StateT.bind, Except.bind, outcome] using failed

end Transaction

end LicoMesh.Library
