import Mathlib.Data.List.Nodup
import Mathlib.Data.List.Induction

namespace LicoMesh.Library

open List

/-! Replaying a log into a map of records. An event that cannot be applied is
reported and skipped. -/

section Replay

variable {κ α ε ρ : Type} [DecidableEq κ]

/-- `Map.set`: a present key keeps its position. -/
def mapSet (key : κ) (value : α) : List (κ × α) → List (κ × α)
  | [] => [(key, value)]
  | (other, old) :: rest =>
    if other = key then (key, value) :: rest else (other, old) :: mapSet key value rest

def mapGet (key : κ) (entries : List (κ × α)) : Option α :=
  (entries.find? fun entry => entry.1 = key).map Prod.snd

theorem mapGet_mapSet (key other : κ) (value : α) (entries : List (κ × α)) :
    mapGet other (mapSet key value entries) =
      if other = key then some value else mapGet other entries := by
  induction entries with
  | nil =>
    by_cases same : other = key
    · simp [mapSet, mapGet, same]
    · simp [mapSet, mapGet, same, Ne.symm same]
  | cons entry rest induction =>
    obtain ⟨head, old⟩ := entry
    by_cases hhead : head = key
    · by_cases same : other = key
      · simp [mapSet, mapGet, hhead, same]
      · simp [mapSet, mapGet, hhead, same, Ne.symm same]
    · by_cases hother : head = other
      · have hne : ¬ other = key := fun h => hhead (hother.trans h)
        simp [mapSet, mapGet, hother, hne]
      · simp only [mapGet] at induction ⊢
        simpa [mapSet, hhead, hother] using induction

variable {entries : List (κ × α)}

theorem mapGet_of_mem (nodup : (entries.map Prod.fst).Nodup) (member : (key, value) ∈ entries) :
    mapGet key entries = some value := by
  cases found : entries.find? fun entry => entry.1 = key with
  | none =>
    have absent := find?_eq_none.mp found _ member
    simp at absent
  | some entry =>
    have same : entry = (key, value) := by
      refine inj_on_of_nodup_map nodup (mem_of_find?_eq_some found) member ?_
      simpa using find?_some found
    simp [mapGet, found, same]

theorem mem_keys_mapSet {key other : κ} : other ∈ (mapSet key value entries).map Prod.fst ↔
      other = key ∨ other ∈ entries.map Prod.fst := by
  induction entries with
  | nil => simp [mapSet]
  | cons entry rest induction =>
    obtain ⟨head, old⟩ := entry
    by_cases hhead : head = key
    · simp only [mapSet, hhead, if_true, map_cons, mem_cons]
      tauto
    · simp only [mapSet, hhead, if_false, map_cons, mem_cons, induction]
      tauto

theorem nodup_keys_mapSet (nodup : (entries.map Prod.fst).Nodup) :
    ((mapSet key value entries).map Prod.fst).Nodup := by
  induction entries with
  | nil => simp [mapSet]
  | cons entry rest induction =>
    obtain ⟨head, old⟩ := entry
    have nodup := nodup_cons.mp nodup
    by_cases hhead : head = key
    · subst hhead
      simpa [mapSet] using nodup
    · simp only [mapSet, hhead, if_false, map_cons, nodup_cons]
      refine ⟨?_, induction nodup.2⟩
      intro member
      rcases mem_keys_mapSet.mp member with same | member
      · exact hhead same
      · exact nodup.1 member

structure ReplayState (κ α ε : Type) where
  records : List (κ × α)
  errors : List ε

variable (key : ρ → κ) (step : Option α → ρ → Except ε α)

def replayEvent (state : ReplayState κ α ε) (event : ρ) : ReplayState κ α ε :=
  match step (mapGet (key event) state.records) event with
  | .ok value => { state with records := mapSet (key event) value state.records }
  | .error error => { state with errors := state.errors ++ [error] }

def replay (events : List ρ) : ReplayState κ α ε := events.foldl (replayEvent key step) ⟨[], []⟩

def replayKey (events : List ρ) : Except ε (Option α) :=
  events.foldlM (fun record event => (step record event).map some) none

theorem replayKey_append (before : List ρ) (event : ρ) : replayKey step (before ++ [event]) =
      (replayKey step before).bind fun record => (step record event).map some := by
  unfold replayKey
  rw [foldlM_append]
  cases foldlM (fun record event => (step record event).map some) none before with
  | error e => rfl
  | ok record =>
    simp only [bind, Except.bind, foldlM_cons, foldlM_nil, pure, Except.pure]
    cases step record event <;> rfl

theorem replay_of_replayKey {expected : κ → Option α} : ∀ {events : List ρ},
      (∀ k, replayKey step (events.filter fun event => key event = k) = .ok (expected k)) →
      (replay key step events).errors = [] ∧
        (∀ k, mapGet k (replay key step events).records = expected k) ∧
        ((replay key step events).records.map Prod.fst).Nodup := by
  intro events
  induction events using reverseRecOn generalizing expected with
  | nil =>
    intro each
    refine ⟨rfl, ?_, by simp [replay]⟩
    intro k
    have hk := each k
    rw [← Except.ok.inj hk]
    rfl
  | append_singleton before event induction =>
    intro each
    have same := each (key event)
    rw [filter_append] at same
    simp only [filter_cons, filter_nil, decide_true, if_true] at same
    rw [replayKey_append] at same
    obtain ⟨record, hrecord, hstep⟩ : ∃ record,
        replayKey step (before.filter fun other => key other = key event) = .ok record ∧
          (step record event).map some = .ok (expected (key event)) := by
      cases hprior : replayKey step (before.filter fun other => key other = key event) with
      | error e =>
        rw [hprior] at same
        cases same
      | ok record =>
        rw [hprior] at same
        exact ⟨record, rfl, same⟩
    obtain ⟨value, hvalue, hexpected⟩ : ∃ value,
        step record event = .ok value ∧ expected (key event) = some value := by
      cases hnext : step record event with
      | error e =>
        rw [hnext] at hstep
        cases hstep
      | ok value =>
        rw [hnext] at hstep
        exact ⟨value, rfl, (Except.ok.inj hstep).symm⟩
    have prior : ∀ k, replayKey step (before.filter fun other => key other = k) =
        .ok (if k = key event then record else expected k) := by
      intro k
      by_cases hk : k = key event
      · subst hk
        rw [if_pos rfl]
        exact hrecord
      · have hother := each k
        rw [filter_append] at hother
        have hne : ¬ key event = k := fun h => hk h.symm
        simp only [filter_cons, filter_nil, hne, decide_false] at hother
        rw [if_neg hk]
        simpa using hother
    obtain ⟨errors, records, nodup⟩ := induction prior
    have current : mapGet (key event) (replay key step before).records = record := by
      rw [records (key event), if_pos rfl]
    have unfolded : replay key step (before ++ [event]) =
        { replay key step before with
          records := mapSet (key event) value (replay key step before).records } := by
      have fold : replay key step (before ++ [event]) =
          replayEvent key step (replay key step before) event := by
        simp [replay]
      rw [fold, replayEvent, current, hvalue]
    rw [unfolded]
    refine ⟨errors, ?_, nodup_keys_mapSet nodup⟩
    intro k
    rw [mapGet_mapSet]
    by_cases hk : k = key event
    · rw [if_pos hk, hk, hexpected]
    · rw [if_neg hk, records k, if_neg hk]

end Replay

end LicoMesh.Library
