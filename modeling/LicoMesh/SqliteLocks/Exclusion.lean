import Mathlib.Data.Nat.Basic
import LicoMesh.SqliteLocks.Manager

namespace LicoMesh.SqliteLocks

open Function (update update_self update_of_ne)
open Library

variable {now : Nat} {condition : String → LockRow → Bool} {row : LockRow}

def Sortable (time : Nat) : Prop := time ≤ lastFourDigitYear ∨ lastDate < time

/-- The times that a step writes sort, and the sequence stays within an integer column. -/
def LockEvent.Within (s : LockState) : LockEvent → Prop
  | .attemptAcquire _ _ ttlMs ago => Sortable (s.clock - ago + ttlMs) ∧ s.value < 2 ^ 63
  | .heartbeat _ extendMs ago => Sortable (s.clock - ago + extendMs)
  | _ => True

instance (s : LockState) (event : LockEvent) : Decidable (event.Within s) :=
  match event with
  | .attemptAcquire .. => inferInstanceAs (Decidable ((_ ∨ _) ∧ _))
  | .heartbeat .. => inferInstanceAs (Decidable (_ ∨ _))
  | .tick _ | .cleanupKey .. | .release .. | .expiryTimer .. | .cleanupExpired .. | .destroy _
  | .destroyHandle _ => .isTrue trivial

section

variable (later : now < expiresAt) (sorts : expiresAt ≤ lastFourDigitYear)
include later sorts

theorem isoLt_past : isoLt expiresAt now = false := by
  unfold isoLt
  rw [if_pos sorts, decide_eq_false (by omega : ¬ expiresAt < now), Bool.and_false]

theorem isoLe_past : isoLe expiresAt now = false := by
  unfold isoLe isoLt
  rw [if_pos (by omega), decide_eq_true sorts, decide_eq_true later]
  rfl

end

namespace LockState

variable {s t u : LockState} {index other : Nat} {key : String}

structure Sound (s : LockState) : Prop where
  known : ∀ key row, s.rows key = some row →
    row.fencingToken ≤ s.value ∧ row.expiresAt ≤ lastFourDigitYear
  drawn : ∀ index < s.handleCount, (s.handles index).fencingToken ≤ s.value
  ordered : ∀ first second, first < second → second < s.handleCount →
    (s.handles first).fencingToken < (s.handles second).fencingToken
  held : ∀ index, s.live index = true → s.rows (s.handles index).lockKey =
    some ⟨(s.handles index).fencingToken, (s.handles index).expiresAt⟩

theorem live_iff : s.live index = true ↔ index < s.handleCount ∧
    (s.handles index).released = false ∧ s.clock < (s.handles index).expiresAt := by
  simp [live, and_assoc]

/-- Handles may be released and rows deleted, but no row of a handle that is still live. -/
structure Shrinks (s t : LockState) : Prop where
  clock : s.clock ≤ t.clock
  value : t.value = s.value
  count : t.handleCount = s.handleCount
  handles : ∀ index, t.handles index =
    { s.handles index with released := (t.handles index).released }
  live : ∀ index, t.live index = true → s.live index = true
  rows : ∀ key row, t.rows key = some row → s.rows key = some row
  kept : ∀ index, t.live index = true →
    t.rows (s.handles index).lockKey = s.rows (s.handles index).lockKey

namespace Shrinks

theorem refl (s : LockState) : Shrinks s s :=
  ⟨le_rfl, rfl, rfl, fun _ => rfl, fun _ => id, fun _ _ => id, fun _ _ => rfl⟩

theorem trans (first : Shrinks s t) (second : Shrinks t u) : Shrinks s u where
  clock := Nat.le_trans first.clock second.clock
  value := second.value.trans first.value
  count := second.count.trans first.count
  handles index := by
    rw [second.handles, first.handles]
  live index live := first.live index (second.live index live)
  rows key row present := first.rows key row (second.rows key row present)
  kept index live := by
    have later := second.kept index live
    rw [first.handles] at later
    exact later.trans (first.kept index (second.live index live))

theorem sound (shrinks : Shrinks s t) (sound : s.Sound) : t.Sound where
  known key row present := shrinks.value ▸ sound.known key row (shrinks.rows key row present)
  drawn index bound := by
    rw [shrinks.handles, shrinks.value]
    exact sound.drawn index (shrinks.count ▸ bound)
  ordered first second before bound := by
    rw [shrinks.handles first, shrinks.handles second]
    exact sound.ordered first second before (shrinks.count ▸ bound)
  held index live := by
    rw [shrinks.handles]
    exact (shrinks.kept index live).trans (sound.held index (shrinks.live index live))

end Shrinks

theorem setReleased_spec (s : LockState) (index : Nat) : ∃ entries, s.setReleased index =
      { s with
        handles := update s.handles index { s.handles index with released := true }
        entries := entries } := by
  unfold setReleased clearHandle
  dsimp only
  split
  · exact ⟨_, rfl⟩
  · split
    · exact ⟨_, rfl⟩
    · exact ⟨_, rfl⟩

theorem setReleased_rows : (s.setReleased index).rows = s.rows := by
  obtain ⟨entries, same⟩ := s.setReleased_spec index
  rw [same]

theorem markExpired_rows : (s.markExpired index).rows = s.rows := by
  unfold markExpired
  split
  · rfl
  · exact setReleased_rows

theorem shrinks_setReleased (s : LockState) (index : Nat) : Shrinks s (s.setReleased index) := by
  obtain ⟨entries, same⟩ := s.setReleased_spec index
  rw [same]
  refine ⟨le_rfl, rfl, rfl, fun other => ?_, fun other live => ?_, fun _ _ => id, fun _ _ => rfl⟩
  · dsimp only
    by_cases isIndex : other = index
    · rw [isIndex, update_self]
    · rw [update_of_ne isIndex]
  · rw [live_iff] at live ⊢
    dsimp only at live
    by_cases isIndex : other = index
    · simp [isIndex] at live
    · rwa [update_of_ne isIndex] at live

theorem not_live_setReleased : (s.setReleased index).live index = false := by
  simp [live, setReleased]

theorem shrinks_markExpired (s : LockState) (index : Nat) : Shrinks s (s.markExpired index) := by
  unfold markExpired
  split
  · exact .refl s
  · exact shrinks_setReleased s index

theorem not_live_markExpired : (s.markExpired index).live index = false := by
  unfold markExpired
  split
  · rename_i released
    simp [live, released]
  · exact not_live_setReleased

theorem setReleased_deleteWhere (condition : String → LockRow → Bool) :
    (s.deleteWhere condition).setReleased index = (s.setReleased index).deleteWhere condition := by
  unfold setReleased clearHandle deleteWhere
  dsimp only
  split
  · rfl
  · split <;> rfl

theorem markExpired_deleteWhere (condition : String → LockRow → Bool) :
    (s.deleteWhere condition).markExpired index = (s.markExpired index).deleteWhere condition := by
  unfold markExpired
  rw [setReleased_deleteWhere]
  change (if (s.handles index).released then s.deleteWhere condition else _) = _
  split <;> rfl

variable (sound : s.Sound)
include sound

theorem Sound.live_expiry (live : s.live index = true) (read : now ≤ s.clock) :
    now < (s.handles index).expiresAt ∧ (s.handles index).expiresAt ≤ lastFourDigitYear :=
  ⟨Nat.lt_of_le_of_lt read (live_iff.mp live).2.2, (sound.known _ _ (sound.held index live)).2⟩

theorem Sound.shrinks_deleteWhere
    (spares : ∀ index, s.live index = true → condition (s.handles index).lockKey
      ⟨(s.handles index).fencingToken, (s.handles index).expiresAt⟩ = false) :
    Shrinks s (s.deleteWhere condition) := by
  refine ⟨le_rfl, rfl, rfl, fun _ => rfl, fun _ => id, fun key row present => ?_,
    fun index live => ?_⟩
  · exact (Option.filter_eq_some_iff.mp present).1
  · change (s.rows _).filter _ = s.rows _
    rw [sound.held index live, Option.filter_some, spares index live]
    rfl

variable (bound : index < s.handleCount)

include bound in
theorem Sound.shrinks_deleteToken
    (dead : s.live index = false) (byToken : ∀ key row, condition key row = true →
      row.fencingToken = (s.handles index).fencingToken) : Shrinks s (s.deleteWhere condition) := by
  refine sound.shrinks_deleteWhere fun other live => Bool.eq_false_iff.mpr fun deleted => ?_
  have same := byToken _ _ deleted
  obtain ⟨inside, _⟩ := live_iff.mp live
  rcases lt_trichotomy other index with before | rfl | after
  · exact Nat.ne_of_lt (sound.ordered other index before bound) same
  · rw [live] at dead
    cases dead
  · exact Nat.ne_of_lt (sound.ordered index other after inside) same.symm

omit sound

theorem shrinks_expireEntry (s : LockState) (manager : Nat) (key : String) (now : Nat) :
    Shrinks s (s.expireEntry manager key now) := by
  unfold expireEntry
  split
  · exact .refl s
  · split
    · exact shrinks_markExpired s _
    · exact .refl s

include sound

theorem Sound.shrinks_cleanupKey (manager : Nat) (key : String)
    (read : now ≤ s.clock) : Shrinks s (s.cleanupKey manager key now) := by
  have expired := shrinks_expireEntry s manager key now
  have soundExpired := expired.sound sound
  refine expired.trans (soundExpired.shrinks_deleteWhere fun index live => ?_)
  obtain ⟨later, sorts⟩ := soundExpired.live_expiry live (Nat.le_trans read expired.clock)
  rw [isoLt_past later sorts, Bool.and_false]

include bound

theorem Sound.shrinks_deleteHeld : Shrinks s ((s.deleteHeld index).setReleased index) := by
  have released := shrinks_setReleased s index
  rw [deleteHeld, setReleased_deleteWhere]
  refine released.trans ((released.sound sound).shrinks_deleteToken (released.count ▸ bound)
    not_live_setReleased fun key row deleted => ?_)
  rw [released.handles]
  simp only [Bool.and_eq_true, decide_eq_true_eq] at deleted
  exact deleted.2

theorem Sound.shrinks_expiryTimer (now : Nat) : Shrinks s (s.expiryTimer index now) := by
  have expired := shrinks_markExpired s index
  unfold expiryTimer
  rw [markExpired_deleteWhere]
  refine expired.trans ((expired.sound sound).shrinks_deleteToken (expired.count ▸ bound)
    not_live_markExpired fun key row deleted => ?_)
  rw [expired.handles]
  simp only [Bool.and_eq_true, decide_eq_true_eq] at deleted
  exact deleted.1.2

theorem Sound.shrinks_release
    (existing : Option LockRow) : Shrinks s (s.release index existing) := by
  unfold release
  split
  · exact .refl s
  · cases existing with
    | none => exact shrinks_markExpired s index
    | some row =>
      dsimp only
      split
      · exact sound.shrinks_deleteHeld bound
      · exact .refl s

theorem Sound.shrinks_destroyHandle : Shrinks s (s.destroyHandle index) := by
  unfold destroyHandle
  dsimp only
  split
  · exact sound.shrinks_deleteHeld bound
  · exact .refl s

omit bound

theorem Sound.shrinks_cleanupExpired (manager : Nat) (read : now ≤ s.clock) :
    Shrinks s (s.cleanupExpired manager now) := by
  have deleted : Shrinks s (s.deleteWhere fun _ row => isoLt row.expiresAt now) := by
    refine sound.shrinks_deleteWhere fun index live => ?_
    obtain ⟨later, sorts⟩ := sound.live_expiry live read
    exact isoLt_past later sorts
  have entries : ∀ (indices : List Nat) (t : LockState),
      Shrinks t (indices.foldl (cleanupEntry manager now) t) := by
    intro indices
    induction indices with
    | nil => exact .refl
    | cons index rest induction =>
      intro t
      have entry : Shrinks t (cleanupEntry manager now t index) := by
        unfold cleanupEntry
        split
        · exact shrinks_markExpired t index
        · exact .refl t
      exact entry.trans (induction _)
  exact deleted.trans (entries _ _)

include bound in
theorem Sound.heartbeat
    (sorts : Sortable (now + extendMs)) : (s.heartbeat index extendMs now).Sound := by
  unfold LockState.heartbeat
  dsimp only
  split
  · exact sound
  rename_i active
  split
  · exact (shrinks_markExpired s index).sound sound
  rename_i row found
  obtain ⟨present, isOwn⟩ := Option.filter_eq_some_iff.mp found
  simp only [Bool.or_eq_true, decide_eq_true_eq, not_or] at active
  simp only [Bool.and_eq_true, decide_eq_true_eq] at isOwn
  have tokens : ∀ other, (update s.handles index
      { s.handles index with expiresAt := now + extendMs } other).fencingToken =
        (s.handles other).fencingToken := by
    intro other
    by_cases same : other = index
    · rw [same, update_self]
    · rw [update_of_ne same]
  refine ⟨fun key found isFound => ?_, fun other inside => ?_, fun first second before inside => ?_,
    fun other live => ?_⟩
  · dsimp only at isFound
    by_cases same : key = (s.handles index).lockKey
    · rw [same, update_self] at isFound
      cases isFound
      exact ⟨(sound.known _ row present).1, sorts.resolve_right active.2⟩
    · rw [update_of_ne same] at isFound
      exact sound.known key found isFound
  · rw [tokens]
    exact sound.drawn other inside
  · rw [tokens, tokens]
    exact sound.ordered first second before inside
  · by_cases same : other = index
    · simp [same, isOwn.1]
    · have isLive : s.live other = true := by
        rw [live_iff] at live ⊢
        dsimp only at live
        rwa [update_of_ne same] at live
      have holds := sound.held other isLive
      dsimp only
      rw [update_of_ne same]
      by_cases isKey : (s.handles other).lockKey = (s.handles index).lockKey
      · -- The row has one token, and tokens are not shared.
        rw [isKey, present] at holds
        cases holds
        rcases Nat.lt_or_gt_of_ne same with before | after
        · exact absurd isOwn.1 (Nat.ne_of_lt (sound.ordered other index before bound))
        · exact absurd isOwn.1.symm
            (Nat.ne_of_lt (sound.ordered index other after (live_iff.mp isLive).1))
      · rw [update_of_ne isKey]
        exact holds

theorem Sound.attemptAcquire (manager : Nat) (key : String)
    (read : now ≤ s.clock) (sorts : Sortable (now + ttlMs)) (fits : s.value < 2 ^ 63) :
    (s.attemptAcquire manager key ttlMs now).Sound := by
  unfold LockState.attemptAcquire
  dsimp only
  split
  · exact sound
  rename_i active
  split
  · exact sound
  rename_i free
  simp only [Bool.or_eq_true, decide_eq_true_eq, not_or] at active
  have next : nextFence s.value = s.value + 1 := Nat.min_eq_left fits
  rw [next]
  refine ⟨fun other row present => ?_, fun other inside => ?_, fun first second before inside => ?_,
    fun other live => ?_⟩
  · dsimp only at present ⊢
    by_cases same : other = key
    · rw [same, update_self] at present
      cases present
      exact ⟨le_rfl, sorts.resolve_right active.2⟩
    · rw [update_of_ne same] at present
      obtain ⟨token, expiry⟩ := sound.known other row present
      exact ⟨Nat.le_succ_of_le token, expiry⟩
  · dsimp only at inside ⊢
    by_cases same : other = s.handleCount
    · rw [same, update_self]
    · rw [update_of_ne same]
      exact Nat.le_succ_of_le (sound.drawn other (by omega))
  · dsimp only at inside ⊢
    rw [update_of_ne (by omega : first ≠ s.handleCount)]
    by_cases same : second = s.handleCount
    · rw [same, update_self]
      exact Nat.lt_succ_of_le (sound.drawn first (by omega))
    · rw [update_of_ne same]
      exact sound.ordered first second before (by omega)
  · by_cases same : other = s.handleCount
    · simp [same]
    · have isLive : s.live other = true := by
        rw [live_iff] at live ⊢
        dsimp only at live
        rw [update_of_ne same] at live
        exact ⟨by omega, live.2⟩
      have holds := sound.held other isLive
      obtain ⟨later, early⟩ := sound.live_expiry isLive read
      dsimp only
      rw [update_of_ne same]
      by_cases isKey : (s.handles other).lockKey = key
      · rw [isKey] at holds
        simp [holds, isoLe_past later early] at free
      · rw [update_of_ne isKey]
        exact holds

theorem Sound.step {event : LockEvent} (within : event.Within s) : (s.step event).Sound := by
  cases event with
  | tick ms =>
    refine ⟨sound.known, sound.drawn, sound.ordered, fun index live => ?_⟩
    refine sound.held index ?_
    rw [live_iff] at live ⊢
    exact ⟨live.1, live.2.1, Nat.lt_of_le_of_lt (Nat.le_add_right _ ms) live.2.2⟩
  | cleanupKey manager key ago => exact (sound.shrinks_cleanupKey manager key (Nat.sub_le _ _)).sound sound
  | attemptAcquire manager key ttlMs ago =>
    exact sound.attemptAcquire manager key (Nat.sub_le _ _) within.1 within.2
  | heartbeat index extendMs ago =>
    rw [LockState.step]
    split
    · rename_i bound
      exact sound.heartbeat bound within
    · exact sound
  | release index existing =>
    rw [LockState.step]
    split
    · rename_i bound
      exact (sound.shrinks_release bound existing).sound sound
    · exact sound
  | expiryTimer index ago =>
    rw [LockState.step]
    split
    · rename_i bound
      exact (sound.shrinks_expiryTimer bound _).sound sound
    · exact sound
  | cleanupExpired manager ago =>
    exact (sound.shrinks_cleanupExpired manager (Nat.sub_le _ _)).sound sound
  | destroy manager => exact ⟨sound.known, sound.drawn, sound.ordered, sound.held⟩
  | destroyHandle index =>
    rw [LockState.step]
    split
    · rename_i bound
      exact (sound.shrinks_destroyHandle bound).sound sound
    · exact sound

omit sound

theorem sound_run (within : EachCommand .step (fun s event => event.Within s) fresh events) :
    (run events).Sound := by
  have start : fresh.Sound := ⟨nofun, nofun, nofun, by simp [live, fresh]⟩
  have runs : ∀ (events : List LockEvent) (s : LockState), s.Sound →
      EachCommand .step (fun s event => event.Within s) s events →
      (runAll .step s events).Sound := by
    intro events
    induction events with
    | nil => exact fun s sound _ => sound
    | cons event rest induction =>
      exact fun s sound within => induction _ (sound.step within.1) within.2
  exact runs events fresh start within

theorem deleteWhere_keeps (present : s.rows key = some row) (spared : condition key row = false) :
    (s.deleteWhere condition).rows key = some row := by
  simp [deleteWhere, present, spared]

theorem deleteHeld_keeps (present : s.rows key = some row)
    (newer : row.fencingToken ≠ (s.handles index).fencingToken) :
    ((s.deleteHeld index).setReleased index).rows key = some row := by
  rw [setReleased_rows]
  exact deleteWhere_keeps present (by simp [newer])

theorem step_keeps (acts : event.handle? = some index)
    (present : s.rows key = some row) (newer : row.fencingToken ≠ (s.handles index).fencingToken) :
    (s.step event).rows key = some row := by
  cases event with
  | tick | cleanupKey | attemptAcquire | cleanupExpired | destroy => cases acts
  | heartbeat other extendMs ago =>
    cases acts
    rw [step]
    split
    · unfold LockState.heartbeat
      dsimp only
      split
      · exact present
      split
      · rwa [markExpired_rows]
      rename_i found
      obtain ⟨isRow, isOwn⟩ := Option.filter_eq_some_iff.mp found
      have apart : key ≠ (s.handles index).lockKey := by
        rintro rfl
        cases present.symm.trans isRow
        simp [newer] at isOwn
      dsimp only
      rwa [update_of_ne apart]
    · exact present
  | release other existing =>
    cases acts
    rw [step]
    split
    · unfold release
      split
      · exact present
      cases existing with
      | none => rwa [markExpired_rows]
      | some found =>
        dsimp only
        split
        · exact deleteHeld_keeps present newer
        · exact present
    · exact present
  | expiryTimer other ago =>
    cases acts
    rw [step]
    split
    · unfold expiryTimer
      rw [markExpired_rows]
      exact deleteWhere_keeps present (by simp [newer])
    · exact present
  | destroyHandle other =>
    cases acts
    rw [step]
    split
    · unfold destroyHandle
      dsimp only
      split
      · exact deleteHeld_keeps present newer
      · exact present
    · exact present

/-- At most one handle of a key is unreleased and unexpired, tokens grow from holder to holder, and
no step that acts for an older holder touches the row of a newer one. -/
structure Guarded (s : LockState) : Prop where
  exclusive : ∀ first second, s.live first = true → s.live second = true →
    (s.handles first).lockKey = (s.handles second).lockKey → first = second
  increasing : ∀ first second, first < second → second < s.handleCount →
    (s.handles first).lockKey = (s.handles second).lockKey →
    (s.handles first).fencingToken < (s.handles second).fencingToken
  spared : ∀ older newer event row, event.handle? = some older → older < newer →
    newer < s.handleCount → (s.handles older).lockKey = (s.handles newer).lockKey →
    s.rows (s.handles newer).lockKey = some row →
    row.fencingToken = (s.handles newer).fencingToken →
    (s.step event).rows (s.handles newer).lockKey = some row

include sound in
theorem Sound.guarded : s.Guarded where
  exclusive first second isFirst isSecond same := by
    have row := sound.held first isFirst
    rw [same, sound.held second isSecond] at row
    have tokens := (LockRow.mk.inj (Option.some.inj row)).1
    rcases Nat.lt_trichotomy first second with before | equal | after
    · exact absurd tokens.symm
        (Nat.ne_of_lt (sound.ordered first second before (live_iff.mp isSecond).1))
    · exact equal
    · exact absurd tokens
        (Nat.ne_of_lt (sound.ordered second first after (live_iff.mp isFirst).1))
  increasing first second before bound _ := sound.ordered first second before bound
  spared older newer event row acts before bound _ present isRow :=
    step_keeps acts present (isRow ▸ Nat.ne_of_gt (sound.ordered older newer before bound))

/-- The lock guards its keys in every run whose times sort as texts and whose sequence fits its
column. -/
theorem run_guarded (events : List LockEvent)
    (within : EachCommand step (fun s event => event.Within s) fresh events) :
    (run events).Guarded :=
  (sound_run within).guarded

def sampleEvents : List LockEvent :=
  [.attemptAcquire 0 "key" 1000 0, .tick 400, .heartbeat 0 800 0, .attemptAcquire 1 "key" 1000 0,
    .tick 900, .attemptAcquire 1 "key" 1000 0, .expiryTimer 0 0]

theorem run_guarded_sample : (run sampleEvents).Guarded := run_guarded sampleEvents (by decide)

/-- A handle that is held for eight thousand years is taken at once. -/
theorem far_expiry_not_guarded :
    ¬ (run [.attemptAcquire 0 "key" 253402300800000 0, .attemptAcquire 1 "key" 1000 0]).Guarded :=
  fun guarded => nomatch guarded.exclusive 0 1 (by decide) (by decide) (by decide)

end LockState

end LicoMesh.SqliteLocks
