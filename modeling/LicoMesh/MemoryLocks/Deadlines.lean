import LicoMesh.Library.MinHeap
import LicoMesh.Library.Path

namespace LicoMesh.MemoryLocks

open Library

/-! The scheduler of deadlines, which is not closed: a heap from which cancelled entries are taken
late, and one timer. A callback runs between the pop of its entry and its return, and may schedule
and cancel. -/

/-- `id` tells the entries apart. -/
structure DeadlineEntry where
  id : Nat
  atMs : Int

inductive Happening
  | scheduled (entry : DeadlineEntry)
  | cancelled (id : Nat)
  | ran (id : Nat) (nowMs : Int)
  | drained (nowMs : Int)

/-- `inactive` are the entries that are no longer active, and `draining` is the time of the drain
whose callback runs; `log` is what happened, the latest first. -/
structure DeadlineScheduler where
  heap : Array DeadlineEntry := #[]
  inactive : List Nat := []
  timerAt : Option Int := none
  draining : Option Int := none
  scheduled : Nat := 0
  log : List Happening := []

namespace DeadlineScheduler

variable {s : DeadlineScheduler} {entry : DeadlineEntry} {id : Nat} {atMs nowMs : Int}

def pop (s : DeadlineScheduler) : DeadlineScheduler :=
  { s with heap := popHeap DeadlineEntry.atMs s.heap }

def discardInactiveHead (s : DeadlineScheduler) : DeadlineScheduler :=
  if h : 0 < s.heap.size then
    if s.heap[0].id ∈ s.inactive then discardInactiveHead s.pop else s
  else s
termination_by s.heap.size
decreasing_by simp only [pop, popHeap_size]; omega

def armAt (s : DeadlineScheduler) (nextAt : Int) : DeadlineScheduler :=
  if s.timerAt.any (· ≤ nextAt) then s else { s with timerAt := some nextAt }

def arm (s : DeadlineScheduler) : DeadlineScheduler :=
  let s := s.discardInactiveHead
  if h : 0 < s.heap.size then s.armAt s.heap[0].atMs else s

def schedule (s : DeadlineScheduler) (atMs : Int) : DeadlineScheduler :=
  let entry := ⟨s.scheduled, atMs⟩
  arm
    { s with
      heap := bubbleUp DeadlineEntry.atMs (s.heap.push entry) s.heap.size
      scheduled := s.scheduled + 1
      log := .scheduled entry :: s.log }

def deactivate (s : DeadlineScheduler) (id : Nat) (happening : Happening) : DeadlineScheduler :=
  { s with inactive := id :: s.inactive, log := happening :: s.log }

def cancel (s : DeadlineScheduler) (id : Nat) : DeadlineScheduler :=
  let s := (s.deactivate id (.cancelled id)).discardInactiveHead
  if h : 0 < s.heap.size then
    arm (if s.timerAt = some s.heap[0].atMs then s else { s with timerAt := none })
  else { s with timerAt := none }

/-- The loop of a drain, up to the next callback or to its end. -/
def drainLoop (s : DeadlineScheduler) (nowMs : Int) : DeadlineScheduler :=
  if h : 0 < s.heap.size ∧ (s.heap[0]?.any fun entry => entry.atMs ≤ nowMs) then
    if s.heap[0].id ∈ s.inactive then drainLoop s.pop nowMs
    else { s.pop.deactivate s.heap[0].id (.ran s.heap[0].id nowMs) with draining := some nowMs }
  else arm { s with draining := none, log := .drained nowMs :: s.log }
termination_by s.heap.size
decreasing_by simp only [pop, popHeap_size]; omega

def drain (s : DeadlineScheduler) (nowMs : Int) : DeadlineScheduler :=
  drainLoop (discardInactiveHead { s with timerAt := none }) nowMs

inductive Event
  | schedule (atMs : Int)
  | cancel (id : Nat)
  | drain (nowMs : Int)
  | returned

/-- A timer fires only when no callback runs, and a callback returns to its drain. -/
def step (s : DeadlineScheduler) : Event → DeadlineScheduler
  | .schedule atMs => s.schedule atMs
  | .cancel id => if id < s.scheduled then s.cancel id else s
  | .drain nowMs => if s.draining = none then s.drain nowMs else s
  | .returned => s.draining.elim s s.discardInactiveHead.drainLoop

/-- An entry runs at most once, not after it is cancelled, and in the first drain that is not before
its deadline; a drain leaves no such entry that is neither cancelled nor run. -/
def Honest : List Happening → Prop
  | [] => True
  | .scheduled entry :: log => (∀ other, .scheduled other ∈ log → other.id ≠ entry.id) ∧ Honest log
  | .cancelled _ :: log => Honest log
  | .ran id nowMs :: log =>
    (∃ entry, .scheduled entry ∈ log ∧ entry.id = id ∧ entry.atMs ≤ nowMs ∧
      ∀ later earlier earlierMs, log = later ++ .drained earlierMs :: earlier →
        .scheduled entry ∈ earlier → earlierMs < entry.atMs) ∧
    .cancelled id ∉ log ∧ (∀ earlierMs, .ran id earlierMs ∉ log) ∧ Honest log
  | .drained nowMs :: log =>
    (∀ entry, .scheduled entry ∈ log → entry.atMs ≤ nowMs →
      .cancelled entry.id ∈ log ∨ ∃ ranMs, .ran entry.id ranMs ∈ log) ∧ Honest log

theorem Honest.of_append {later log : List Happening} (honest : Honest (later ++ log)) :
    Honest log := by
  induction later with
  | nil => exact honest
  | cons happening later ih =>
    cases happening <;> simp only [List.cons_append, Honest] at honest <;> tauto

structure Sound (s : DeadlineScheduler) : Prop where
  ordered : IsMinHeap DeadlineEntry.atMs s.heap
  pending : ∀ entry, .scheduled entry ∈ s.log → entry.id ∉ s.inactive → entry ∈ s.heap
  listed : ∀ entry ∈ s.heap, .scheduled entry ∈ s.log
  settled : ∀ id, id ∈ s.inactive ↔ .cancelled id ∈ s.log ∨ ∃ ranMs, .ran id ranMs ∈ s.log
  known : ∀ entry, .scheduled entry ∈ s.log → entry.id < s.scheduled
  honest : Honest s.log

def IsArmed (s : DeadlineScheduler) : Prop :=
  ∀ entry ∈ s.heap, entry.id ∉ s.inactive → ∃ timerAt, s.timerAt = some timerAt ∧
    timerAt ≤ entry.atMs

variable (sound : s.Sound)
include sound

theorem Sound.pop (nonempty : 0 < s.heap.size)
    (isInactive : s.heap[0].id ∈ s.inactive) : s.pop.Sound := by
  refine ⟨sound.ordered.popHeap, fun entry scheduled active => ?_, fun entry member => ?_,
    sound.settled, sound.known, sound.honest⟩
  · rcases (mem_popHeap nonempty).mp (sound.pending entry scheduled active) with rfl | member
    · exact absurd isInactive active
    · exact member
  · exact sound.listed entry ((mem_popHeap nonempty).mpr (.inr member))

theorem Sound.discardInactiveHead : s.discardInactiveHead.Sound := by
  fun_induction DeadlineScheduler.discardInactiveHead s with
  | case1 s nonempty isInactive ih => exact ih (sound.pop nonempty isInactive)
  | case2 => exact sound
  | case3 => exact sound

theorem Sound.withTimer (timerAt draining : Option Int) :
    Sound { s with timerAt := timerAt, draining := draining } :=
  ⟨sound.ordered, sound.pending, sound.listed, sound.settled, sound.known, sound.honest⟩

theorem Sound.armAt (nextAt : Int) : (s.armAt nextAt).Sound := by
  unfold DeadlineScheduler.armAt
  split
  · exact sound
  · exact sound.withTimer _ _

theorem Sound.isArmed_armAt (nonempty : 0 < s.heap.size) : (s.armAt s.heap[0].atMs).IsArmed := by
  intro entry member _
  have least : s.heap[0].atMs ≤ entry.atMs := by
    have inHeap : entry ∈ s.heap := by
      unfold DeadlineScheduler.armAt at member
      split at member <;> exact member
    obtain ⟨i, inside, rfl⟩ := Array.mem_iff_getElem.mp inHeap
    exact sound.ordered.head_le i inside
  unfold DeadlineScheduler.armAt
  split
  next early =>
    obtain ⟨timerAt, isTimer, notLater⟩ := (Option.any_eq_true ..).mp early
    exact ⟨timerAt, isTimer, Int.le_trans (of_decide_eq_true notLater) least⟩
  next => exact ⟨_, rfl, least⟩

theorem Sound.arm : s.arm.Sound ∧ s.arm.IsArmed := by
  unfold DeadlineScheduler.arm
  dsimp only
  split
  next nonempty =>
    exact ⟨sound.discardInactiveHead.armAt _, sound.discardInactiveHead.isArmed_armAt nonempty⟩
  next isEmpty =>
    refine ⟨sound.discardInactiveHead, fun entry member => ?_⟩
    exact absurd (Array.size_pos_of_mem member) isEmpty

theorem Sound.schedule (atMs : Int) : (s.schedule atMs).Sound ∧ (s.schedule atMs).IsArmed := by
  refine arm ⟨sound.ordered.push _, fun entry isScheduled active => ?_,
    fun entry member => ?_, fun id => ?_, fun entry isScheduled => ?_, ?_, sound.honest⟩
  · rw [(bubbleUp_perm _ _ _).mem_iff, Array.mem_push]
    rcases List.mem_cons.mp isScheduled with new | old
    · exact Or.inr (Happening.scheduled.inj new)
    · exact Or.inl (sound.pending entry old active)
  · rw [(bubbleUp_perm _ _ _).mem_iff, Array.mem_push] at member
    rcases member with old | rfl
    · exact List.mem_cons_of_mem _ (sound.listed entry old)
    · exact List.mem_cons_self
  · simpa using sound.settled id
  · rcases List.mem_cons.mp isScheduled with new | old
    · obtain rfl := Happening.scheduled.inj new
      exact Nat.lt_succ_self _
    · exact Nat.lt_succ_of_lt (sound.known entry old)
  · exact fun other isScheduled => Nat.ne_of_lt (sound.known other isScheduled)

theorem Sound.deactivate {happening : Happening}
    (settles : happening = .cancelled id ∨ ∃ ranMs, happening = .ran id ranMs)
    (honest : Honest (happening :: s.log)) : (s.deactivate id happening).Sound := by
  have isScheduled {entry} : .scheduled entry ∈ happening :: s.log ↔ .scheduled entry ∈ s.log := by
    rcases settles with rfl | ⟨_, rfl⟩ <;> simp
  refine ⟨sound.ordered, fun entry member active => ?_, fun entry member => ?_, fun other => ?_,
    fun entry member => ?_, honest⟩
  · exact sound.pending entry (isScheduled.mp member) fun inactive =>
      active (List.mem_cons_of_mem _ inactive)
  · exact isScheduled.mpr (sound.listed entry member)
  · have := sound.settled other
    rcases settles with rfl | ⟨_, rfl⟩ <;> grind [DeadlineScheduler.deactivate]
  · exact sound.known entry (isScheduled.mp member)

theorem Sound.cancel (id : Nat) : (s.cancel id).Sound ∧ (s.cancel id).IsArmed := by
  have deactivated : (s.deactivate id (.cancelled id)).Sound :=
    sound.deactivate (.inl rfl) sound.honest
  have cancelled := deactivated.discardInactiveHead
  unfold DeadlineScheduler.cancel
  dsimp only
  split
  next nonempty =>
    refine arm ?_
    split
    · exact cancelled
    · exact cancelled.withTimer _ _
  next isEmpty =>
    refine ⟨cancelled.withTimer _ _, fun entry member => ?_⟩
    exact absurd (Array.size_pos_of_mem member) isEmpty

theorem Sound.drainLoop (nowMs : Int) : (s.drainLoop nowMs).Sound ∧
      ((s.drainLoop nowMs).draining = none → (s.drainLoop nowMs).IsArmed) := by
  fun_induction DeadlineScheduler.drainLoop s nowMs with
  | case1 s due isInactive ih => exact ih (sound.pop due.1 isInactive)
  | case2 s due isActive =>
    obtain ⟨nonempty, isDue⟩ := due
    have notLater : s.heap[0].atMs ≤ nowMs := by
      simpa [Array.getElem?_eq_getElem nonempty] using isDue
    have isScheduled := sound.listed s.heap[0] (Array.getElem_mem nonempty)
    obtain ⟨unsettled, notRun⟩ := not_or.mp (mt (sound.settled _).mpr isActive)
    have honest : Honest (.ran s.heap[0].id nowMs :: s.log) := by
      refine ⟨⟨s.heap[0], isScheduled, rfl, notLater, ?_⟩, unsettled,
        fun ranMs ran => notRun ⟨ranMs, ran⟩, sound.honest⟩
      intro later earlier earlierMs isLog before
      by_contra reached
      have drained : Honest (.drained earlierMs :: earlier) := .of_append (isLog ▸ sound.honest)
      have left := drained.1 s.heap[0] before (Int.not_lt.mp reached)
      refine (mt (sound.settled _).mpr isActive) ?_
      grind
    have ran := (sound.deactivate (.inr ⟨nowMs, rfl⟩) honest).pop nonempty List.mem_cons_self
    exact ⟨ran.withTimer _ _, fun idle => by cases idle⟩
  | case3 s rest =>
    have finished : Sound { s with draining := none, log := .drained nowMs :: s.log } := by
      refine ⟨sound.ordered, ?_, ?_, ?_, ?_, ?_, sound.honest⟩
      · simpa using sound.pending
      · simpa using sound.listed
      · simpa using sound.settled
      · simpa using sound.known
      · intro entry isScheduled due
        by_contra unsettled
        have inHeap := sound.pending entry isScheduled (mt (sound.settled _).mp unsettled)
        obtain ⟨i, inside, rfl⟩ := Array.mem_iff_getElem.mp inHeap
        have nonempty : 0 < s.heap.size := by omega
        refine rest ⟨nonempty, ?_⟩
        simpa [Array.getElem?_eq_getElem nonempty] using
          Int.le_trans (sound.ordered.head_le i inside) due
    exact ⟨finished.arm.1, fun _ => finished.arm.2⟩

theorem Sound.step (armed : s.draining = none → s.IsArmed) (event : Event) :
    (s.step event).Sound ∧ ((s.step event).draining = none → (s.step event).IsArmed) := by
  unfold DeadlineScheduler.step
  cases event with
  | schedule atMs =>
    obtain ⟨scheduled, isArmed⟩ := sound.schedule atMs
    exact ⟨scheduled, fun _ => isArmed⟩
  | cancel id =>
    dsimp only
    split
    · obtain ⟨cancelled, isArmed⟩ := sound.cancel id
      exact ⟨cancelled, fun _ => isArmed⟩
    · exact ⟨sound, armed⟩
  | drain nowMs =>
    dsimp only
    split
    · exact (sound.withTimer none s.draining).discardInactiveHead.drainLoop nowMs
    · exact ⟨sound, armed⟩
  | returned =>
    cases isDraining : s.draining with
    | none => exact ⟨sound, fun _ => armed isDraining⟩
    | some nowMs => exact sound.discardInactiveHead.drainLoop nowMs

omit sound

def run (events : List Event) : DeadlineScheduler := runAll step {} events

theorem sound_run (events : List Event) :
    (run events).Sound ∧ ((run events).draining = none → (run events).IsArmed) := by
  have keeps (s : DeadlineScheduler) (event : Event)
      (kept : s.Sound ∧ (s.draining = none → s.IsArmed)) :
      (s.step event).Sound ∧ ((s.step event).draining = none → (s.step event).IsArmed) :=
    kept.1.step kept.2 event
  refine runAll_invariant keeps ⟨?_, ?_⟩ events
  · exact ⟨by simp [IsMinHeap], by simp, by simp, by simp, by simp, trivial⟩
  · intro _ entry member
    cases Array.size_pos_of_mem member

/-- In every run of the scheduler the heap is ordered, every deadline is run as it should, and
while no callback runs, the timer is not after any deadline that is neither cancelled nor run. -/
theorem deadlines_kept (events : List Event) :
    IsMinHeap DeadlineEntry.atMs (run events).heap ∧ Honest (run events).log ∧
      ((run events).draining = none → ∀ entry, .scheduled entry ∈ (run events).log →
        .cancelled entry.id ∉ (run events).log →
        (∀ ranMs, .ran entry.id ranMs ∉ (run events).log) →
          ∃ timerAt, (run events).timerAt = some timerAt ∧ timerAt ≤ entry.atMs) := by
  obtain ⟨sound, armed⟩ := sound_run events
  refine ⟨sound.ordered, sound.honest, fun idle entry isScheduled notCancelled notRun => ?_⟩
  have active : entry.id ∉ (run events).inactive := fun inactive =>
    ((sound.settled _).mp inactive).elim notCancelled fun ⟨ranMs, ran⟩ => notRun ranMs ran
  exact armed idle entry (sound.pending entry isScheduled active) active

end DeadlineScheduler

end LicoMesh.MemoryLocks
