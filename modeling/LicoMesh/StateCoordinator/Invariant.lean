import LicoMesh.StateCoordinator.Coordinator

namespace LicoMesh.StateCoordinator

open Prod Function Option

open Function (update)

variable {e l : Nat} {queue : MutationQueue Nat} {lanes : List (String × Nat)} {next : Coordinator}
  {entry : MutationEntry} {key : String}

namespace Coordinator

def current (s : Coordinator) : List Nat := s.lanes.map snd

def contents (s : Coordinator) (l : Nat) : List (Nat × Nat) := (s.lane l).queue.contents

structure Mapped (s : Coordinator) : Prop where
  keys : (s.lanes.map fst).Nodup
  ids : s.current.Nodup
  known : ∀ l ∈ s.current, l < s.laneTotal
  dropped : ∀ l, l ∉ s.current →
    (s.lane l).active = none ∧ (s.lane l).poison = none ∧ s.contents l = []
  settled : ∀ l < s.laneTotal, l ∉ s.current → (s.lane l).idle ≠ .pending
  unsettled : ∀ l ∈ s.current, (s.lane l).idle ≠ .resolved
  poison : ∀ l e, (s.lane l).poison = some e → (s.lane l).active = some e
  capacity : ∀ l, (s.lane l).queue.capacity = s.policy.maxQueuedPerLane

structure Placed (s : Coordinator) : Prop where
  queued : ∀ l slot e, (slot, e) ∈ s.contents l ↔
    (s.entry e).slot = some slot ∧ (s.entry e).lane = l
  active : ∀ l e, (s.lane l).active = some e ↔
    (s.entry e).progress.isActive = true ∧ (s.entry e).lane = l
  home : ∀ e, (s.entry e).slot ≠ none ∨ (s.entry e).progress.isActive = true →
    ((s.entry e).key, (s.entry e).lane) ∈ s.lanes
  owned : ∀ e < s.entryTotal, (s.entry e).lane < s.laneTotal ∧
    ∀ key, (key, (s.entry e).lane) ∈ s.lanes → key = (s.entry e).key
  fresh : ∀ e, s.entryTotal ≤ e → s.entry e = blankEntry
  credit : ∀ e, (s.entry e).queuedCreditHeld = true ↔ (s.entry e).slot ≠ none

structure Ordered (s : Coordinator) : Prop where
  sorted : ∀ l, ((s.contents l).map snd).Pairwise (· < ·)
  beforeQueued : ∀ e other, (s.entry e).key = (s.entry other).key →
    (s.entry e).progress ≠ .waiting → (s.entry other).slot ≠ none → e < other
  beforeActive : ∀ e other, (s.entry e).key = (s.entry other).key →
    (s.entry e).progress ≠ .waiting → (s.entry other).progress.isActive = true → e ≤ other
  started : ∀ e, e ∈ s.started ↔ (s.entry e).progress ≠ .waiting ∧ (s.entry e).progress ≠ .scheduled
  startedOrder : s.started.Pairwise fun e later =>
    (s.entry e).key = (s.entry later).key → e < later

def queuedTotal (s : Coordinator) : Nat :=
  (s.lanes.map fun mapped => (s.contents mapped.2).length).sum

structure Invariant (s : Coordinator) : Prop where
  mapped : s.Mapped
  placed : s.Placed
  ordered : s.Ordered
  counted : s.queuedCount = s.queuedTotal
  unanswered : ∀ e, (s.entry e).slot ≠ none →
    (s.entry e).progress = .waiting ∧ (s.entry e).answers = []
  fenced : ∀ e, (s.entry e).fencing = true → (s.entry e).progress ≠ .waiting
  quiet : ∀ busy ∈ s.resolutions, busy = false

/-- The entry left the queue and was rejected once. -/
def Refused (s : Coordinator) (e : Nat) : Prop :=
  e < s.entryTotal ∧ (s.entry e).slot = none ∧ (s.entry e).progress = .waiting ∧
    ∃ error, (s.entry e).answers = [.rejected error]

def Accounted (s : Coordinator) (e : Nat) : Prop :=
  (s.entry e).slot = none → (s.entry e).progress = .waiting → s.Refused e

section

variable {s : Coordinator}

theorem slot_removed (nodup : ((before ++ (slot, e) :: after).map fst).Nodup) :
    slot ∉ (before ++ after).map fst := by
  rw [List.map_append, List.map_cons, List.nodup_middle, List.nodup_cons] at nodup
  rw [List.map_append]
  exact nodup.1

theorem leaveQueue_eq (credit : (s.entry e).queuedCreditHeld = true) : s.leaveQueue l queue e =
      { s with
        lane := update s.lane l { s.lane l with queue := queue }
        entry := update s.entry e { s.entry e with slot := none, queuedCreditHeld := false }
        queuedCount := s.queuedCount - 1 } := by
  simp [leaveQueue, releaseQueuedEntry, updateLane, updateEntry, credit]

theorem releaseQueuedEntry_lane (e : Nat) : (s.releaseQueuedEntry e).lane = s.lane := by
  unfold releaseQueuedEntry
  split <;> rfl

theorem active_leaveQueue (l e other : Nat) (queue : MutationQueue Nat) :
    ((s.leaveQueue l queue e).lane other).active = (s.lane other).active := by
  dsimp only [leaveQueue]
  rw [releaseQueuedEntry_lane]
  dsimp only [updateLane, updateEntry]
  grind [update_apply]

structure Leaves (s : Coordinator) (l e : Nat) (queue : MutationQueue Nat) : Prop where
  taken : ∃ before slot after, s.contents l = before ++ (slot, e) :: after ∧
    queue.contents = before ++ after
  capacity : queue.capacity = (s.lane l).queue.capacity

theorem Leaves.current (leaves : s.Leaves l e queue) (mapped : s.Mapped) : l ∈ s.current := by
  by_contra outside
  obtain ⟨before, slot, after, whole, _⟩ := leaves.taken
  have empty := (mapped.dropped l outside).2.2
  rw [empty] at whole
  simp at whole

theorem Leaves.credit (leaves : s.Leaves l e queue) (placed : s.Placed) :
    (s.entry e).queuedCreditHeld = true := by
  obtain ⟨before, slot, after, whole, _⟩ := leaves.taken
  have own := (placed.queued l slot e).mp (by simp [whole])
  rw [placed.credit, own.1]
  simp

variable (invariant : s.Invariant)
include invariant

section

variable (leaves : s.Leaves l e queue)
include leaves

theorem mapped_leaveQueue : (s.leaveQueue l queue e).Mapped := by
  have mapped := invariant.mapped
  have inside := leaves.current mapped
  have capacity := leaves.capacity
  rw [leaveQueue_eq (leaves.credit invariant.placed)]
  constructor
  case keys => exact mapped.keys
  case ids => exact mapped.ids
  case known => exact mapped.known
  case dropped =>
    intro other outside
    have different : other ≠ l := fun same => outside (same ▸ inside)
    dsimp only [contents]
    rw [update_of_ne different]
    exact mapped.dropped other outside
  case settled =>
    intro other isKnown outside
    have different : other ≠ l := fun same => outside (same ▸ inside)
    dsimp only
    rw [update_of_ne different]
    exact mapped.settled other isKnown outside
  case unsettled =>
    intro other isCurrent
    have old := mapped.unsettled other isCurrent
    grind [update_apply]
  case poison =>
    intro other poisoned
    have old := mapped.poison other poisoned
    grind [update_apply]
  case capacity =>
    intro other
    have old := mapped.capacity other
    grind [update_apply]

theorem placed_leaveQueue : (s.leaveQueue l queue e).Placed := by
  have placed := invariant.placed
  rw [leaveQueue_eq (leaves.credit placed)]
  obtain ⟨before, slot, after, whole, rest⟩ := leaves.taken
  have nodup : (s.contents l |>.map fst).Nodup := MutationQueue.slots_nodup
  have own := (placed.queued l slot e).mp (by simp [whole])
  have gone : slot ∉ (before ++ after).map fst := by
    rw [whole] at nodup
    exact slot_removed nodup
  constructor
  case queued =>
    intro other found held
    have old := placed.queued other found held
    dsimp only [contents] at old whole ⊢
    by_cases isEntry : held = e
    · subst isEntry
      grind [update_apply]
    · grind [update_apply]
  case active =>
    intro other active
    have old := placed.active other active
    grind [update_apply]
  case home =>
    intro other
    have old := placed.home other
    grind [update_apply]
  case owned =>
    intro other isKnown
    have old := placed.owned other isKnown
    grind [update_apply]
  case fresh =>
    intro other isFresh
    have old := placed.fresh other isFresh
    grind [update_apply, blankEntry]
  case credit =>
    intro other
    have old := placed.credit other
    grind [update_apply]

theorem ordered_leaveQueue : (s.leaveQueue l queue e).Ordered := by
  have ordered := invariant.ordered
  rw [leaveQueue_eq (leaves.credit invariant.placed)]
  obtain ⟨before, slot, after, whole, rest⟩ := leaves.taken
  constructor
  case sorted =>
    intro other
    have old := ordered.sorted other
    dsimp only [contents] at old whole ⊢
    by_cases same : other = l
    · subst same
      rw [whole] at old
      rw [update_self, rest]
      exact old.sublist (by simp)
    · rwa [update_of_ne same]
  case beforeQueued =>
    intro first other
    have old := ordered.beforeQueued first other
    grind [update_apply]
  case beforeActive =>
    intro first other
    have old := ordered.beforeActive first other
    grind [update_apply]
  case started =>
    intro other
    have old := ordered.started other
    grind [update_apply]
  case startedOrder =>
    apply ordered.startedOrder.imp
    intro first later
    grind [update_apply]

end

omit invariant

theorem sum_update {length : Nat → Nat} (nodup : (lanes.map snd).Nodup)
    (member : l ∈ lanes.map snd) :
    (lanes.map fun mapped => update length l value mapped.2).sum + length l =
      (lanes.map fun mapped => length mapped.2).sum + value := by
  induction lanes with
  | nil => cases member
  | cons first rest induction =>
    rw [List.map_cons, List.nodup_cons] at nodup
    simp only [List.map_cons, List.sum_cons]
    by_cases same : first.2 = l
    · have untouched : ∀ mapped ∈ rest, update length l value mapped.2 = length mapped.2 := by
        intro mapped inside
        rw [update_of_ne]
        rintro rfl
        exact nodup.1 (same ▸ List.mem_map_of_mem inside)
      rw [List.map_congr_left untouched, same, update_self]
      omega
    · have inside : l ∈ rest.map snd := by
        simpa [Ne.symm same] using member
      have tail := induction nodup.2 inside
      rw [update_of_ne same]
      omega

theorem queuedTotal_update {lane : MutationLane} (mapped : s.Mapped) (member : l ∈ s.current)
    (lanes : next.lanes = s.lanes) (updated : next.lane = update s.lane l lane) :
    next.queuedTotal + (s.contents l).length = s.queuedTotal + lane.queue.contents.length := by
  have lengths : (fun mapped : String × Nat => (next.contents mapped.2).length) =
      fun mapped => update (fun l => (s.contents l).length) l lane.queue.contents.length
        mapped.2 := by
    funext mapped
    unfold contents
    rw [updated]
    by_cases same : mapped.2 = l
    · rw [same, update_self, update_self]
    · rw [update_of_ne same, update_of_ne same]
  unfold queuedTotal
  rw [lanes, lengths]
  exact sum_update mapped.ids member

include invariant

theorem counted_leaveQueue (leaves : s.Leaves l e queue) :
    (s.leaveQueue l queue e).queuedCount = (s.leaveQueue l queue e).queuedTotal := by
  have inside := leaves.current invariant.mapped
  have eq : s.leaveQueue l queue e = _ := leaveQueue_eq (leaves.credit invariant.placed)
  have total : (s.leaveQueue l queue e).queuedTotal + _ = _ :=
    queuedTotal_update invariant.mapped inside (by rw [eq]) (by rw [eq])
  have count : (s.leaveQueue l queue e).queuedCount = s.queuedCount - 1 := by rw [eq]
  have counted := invariant.counted
  obtain ⟨before, slot, after, whole, rest⟩ := leaves.taken
  rw [whole, rest] at total
  simp only [List.length_append, List.length_cons] at total
  omega

theorem invariant_leaveQueue (leaves : s.Leaves l e queue) :
    (s.leaveQueue l queue e).Invariant where
  mapped := mapped_leaveQueue invariant leaves
  placed := placed_leaveQueue invariant leaves
  ordered := ordered_leaveQueue invariant leaves
  counted := counted_leaveQueue invariant leaves
  unanswered := by
    intro other
    have old := invariant.unanswered other
    rw [leaveQueue_eq (leaves.credit invariant.placed)]
    grind [update_apply]
  fenced := by
    intro other
    have old := invariant.fenced other
    rw [leaveQueue_eq (leaves.credit invariant.placed)]
    grind [update_apply]
  quiet := by
    rw [leaveQueue_eq (leaves.credit invariant.placed)]
    exact invariant.quiet

omit invariant

structure SamePlace (entry next : MutationEntry) : Prop where
  key : next.key = entry.key
  lane : next.lane = entry.lane
  slot : next.slot = entry.slot
  credit : next.queuedCreditHeld = entry.queuedCreditHeld
  isActive : next.progress.isActive = entry.progress.isActive

theorem placed_updateEntry (placed : s.Placed) (same : SamePlace (s.entry e) entry)
    (isKnown : e < s.entryTotal) : (s.updateEntry e entry).Placed := by
  have key := same.key
  have lane := same.lane
  have slot := same.slot
  have credit := same.credit
  have isActive := same.isActive
  unfold updateEntry
  constructor
  case queued =>
    intro l found held
    have old := placed.queued l found held
    dsimp only [contents] at old ⊢
    grind [update_apply]
  case active =>
    intro l held
    have old := placed.active l held
    grind [update_apply]
  case home =>
    intro other
    have old := placed.home other
    grind [update_apply]
  case owned =>
    intro other isOther
    have old := placed.owned other isOther
    grind [update_apply]
  case fresh =>
    intro other isFresh
    have old := placed.fresh other isFresh
    have different : other ≠ e := by
      rintro rfl
      exact absurd isKnown (Nat.not_lt.mpr isFresh)
    dsimp only
    rw [update_of_ne different]
    exact old
  case credit =>
    intro other
    have old := placed.credit other
    grind [update_apply]

theorem mapped_updateEntry (mapped : s.Mapped) : (s.updateEntry e entry).Mapped :=
  ⟨mapped.keys, mapped.ids, mapped.known, mapped.dropped, mapped.settled, mapped.unsettled,
    mapped.poison, mapped.capacity⟩

theorem ordered_updateEntry (ordered : s.Ordered) (same : SamePlace (s.entry e) entry)
    (waiting : entry.progress = .waiting ↔ (s.entry e).progress = .waiting)
    (scheduled : entry.progress = .scheduled ↔ (s.entry e).progress = .scheduled) :
    (s.updateEntry e entry).Ordered := by
  have key := same.key
  have slot := same.slot
  have isActive := same.isActive
  unfold updateEntry
  constructor
  case sorted => exact ordered.sorted
  case beforeQueued =>
    intro first other
    have old := ordered.beforeQueued first other
    grind [update_apply]
  case beforeActive =>
    intro first other
    have old := ordered.beforeActive first other
    grind [update_apply]
  case started =>
    intro other
    have old := ordered.started other
    grind [update_apply]
  case startedOrder =>
    apply ordered.startedOrder.imp
    intro first later
    grind [update_apply]

include invariant in
theorem invariant_updateEntry (isKnown : e < s.entryTotal) (same : SamePlace (s.entry e) entry)
    (waiting : entry.progress = .waiting ↔ (s.entry e).progress = .waiting)
    (scheduled : entry.progress = .scheduled ↔ (s.entry e).progress = .scheduled)
    (notQueued : (s.entry e).slot = none)
    (fenced : entry.fencing = true → entry.progress ≠ .waiting) :
    (s.updateEntry e entry).Invariant where
  mapped := mapped_updateEntry invariant.mapped
  placed := placed_updateEntry invariant.placed same isKnown
  ordered := ordered_updateEntry invariant.ordered same waiting scheduled
  counted := invariant.counted
  unanswered := by
    intro other
    have old := invariant.unanswered other
    have slot := same.slot
    unfold updateEntry
    grind [update_apply]
  fenced := by
    intro other
    have old := invariant.fenced other
    unfold updateEntry
    grind [update_apply]
  quiet := invariant.quiet

structure Whole (s : Coordinator) : Prop where
  invariant : s.Invariant
  accounted : ∀ e < s.entryTotal, s.Accounted e

def Manned (s : Coordinator) (l : Nat) : Prop := s.contents l ≠ [] → (s.lane l).active ≠ none

structure Owns (s : Coordinator) (key : String) (l : Nat) : Prop where
  known : l < s.laneTotal
  key : ∀ other, (other, l) ∈ s.lanes → other = key

/-- Work on one lane: nothing is started or accepted, and no other lane changes. -/
structure Settles (s next : Coordinator) (l : Nat) : Prop where
  whole : next.Whole
  refused : ∀ e, s.Refused e → next.Refused e
  policy : next.policy = s.policy
  laneTotal : next.laneTotal = s.laneTotal
  entryTotal : next.entryTotal = s.entryTotal
  started : next.started = s.started
  keys : ∀ e, (next.entry e).key = (s.entry e).key
  lanes : next.lanes.Sublist s.lanes
  count : next.queuedCount ≤ s.queuedCount
  manned : ∀ other ≠ l, s.Manned other → next.Manned other

theorem Settles.refl (whole : s.Whole) : s.Settles s l :=
  ⟨whole, fun _ => id, rfl, rfl, rfl, rfl, fun _ => rfl, List.Sublist.refl _, Int.le_refl _,
    fun _ _ => id⟩

theorem Settles.trans (first : s.Settles middle l)
    (second : middle.Settles next l) : s.Settles next l where
  whole := second.whole
  refused e refused := second.refused e (first.refused e refused)
  policy := second.policy.trans first.policy
  laneTotal := second.laneTotal.trans first.laneTotal
  entryTotal := second.entryTotal.trans first.entryTotal
  started := second.started.trans first.started
  keys e := (second.keys e).trans (first.keys e)
  lanes := second.lanes.trans first.lanes
  count := Int.le_trans second.count first.count
  manned other different manned := second.manned other different
    (first.manned other different manned)

theorem Settles.owns (settles : s.Settles next l) (owns : s.Owns key l) : next.Owns key l where
  known := settles.laneTotal ▸ owns.known
  key other member := owns.key other (settles.lanes.subset member)

theorem Leaves.facts (leaves : s.Leaves l e queue) (invariant : s.Invariant) :
    (s.entry e).slot ≠ none ∧ (s.entry e).lane = l ∧ (s.entry e).progress = .waiting ∧
      (s.entry e).answers = [] ∧ e < s.entryTotal := by
  obtain ⟨before, slot, after, whole, _⟩ := leaves.taken
  obtain ⟨held, lane⟩ := (invariant.placed.queued l slot e).mp (by simp [whole])
  have queued : (s.entry e).slot ≠ none := by simp [held]
  obtain ⟨waiting, unanswered⟩ := invariant.unanswered e queued
  refine ⟨queued, lane, waiting, unanswered, ?_⟩
  by_contra isFresh
  rw [invariant.placed.fresh e (Nat.not_lt.mp isFresh)] at queued
  exact queued rfl

theorem settles_reject (whole : s.Whole) (leaves : s.Leaves l e queue)
    (error : StateMutationError) :
    s.Settles ((s.leaveQueue l queue e).answer e (.rejected error)) l := by
  have invariant := whole.invariant
  obtain ⟨queued, lane, waiting, unanswered, isKnown⟩ := leaves.facts invariant
  have left := invariant_leaveQueue invariant leaves
  have eq : s.leaveQueue l queue e = _ := leaveQueue_eq (leaves.credit invariant.placed)
  have answered : ((s.leaveQueue l queue e).answer e (.rejected error)).Invariant := by
    apply invariant_updateEntry left
    · rw [eq]
      exact isKnown
    · exact ⟨rfl, rfl, rfl, rfl, rfl⟩
    · exact Iff.rfl
    · exact Iff.rfl
    · rw [eq]
      simp
    · exact left.fenced e
  have entries : ((s.leaveQueue l queue e).answer e (.rejected error)).entry =
      update s.entry e
        { s.entry e with
          slot := none, queuedCreditHeld := false, answers := [.rejected error] } := by
    rw [eq]
    simp [answer, updateEntry, unanswered]
  have rest : ((s.leaveQueue l queue e).answer e (.rejected error)).lane =
      update s.lane l { s.lane l with queue := queue } := by
    rw [eq]
    rfl
  have total : ((s.leaveQueue l queue e).answer e (.rejected error)).entryTotal =
      s.entryTotal := by
    rw [eq]
    rfl
  constructor
  case whole =>
    refine ⟨answered, ?_⟩
    intro other isOther
    have old := whole.accounted other (total ▸ isOther)
    unfold Accounted Refused at old ⊢
    rw [total, entries]
    grind [update_apply]
  case refused =>
    intro other
    unfold Refused
    rw [total, entries]
    grind [update_apply]
  case policy => rw [eq]; rfl
  case laneTotal => rw [eq]; rfl
  case entryTotal => exact total
  case started => rw [eq]; rfl
  case keys =>
    intro other
    rw [entries]
    grind [update_apply]
  case lanes =>
    rw [eq]
    exact List.Sublist.refl _
  case count =>
    rw [eq]
    change s.queuedCount - 1 ≤ s.queuedCount
    omega
  case manned =>
    intro other different
    unfold Manned contents
    rw [rest, update_of_ne different]
    exact id

theorem mem_of_lookup (found : lanes.lookup key = some l) : (key, l) ∈ lanes := by
  induction lanes with
  | nil => cases found
  | cons first rest induction =>
    rw [List.lookup_cons] at found
    split at found
    · rename_i same
      cases found
      rw [eq_of_beq same]
      exact List.mem_cons_self
    · exact List.mem_cons_of_mem _ (induction found)

theorem lookup_of_mem (nodup : (lanes.map fst).Nodup) (member : (key, l) ∈ lanes) :
    lanes.lookup key = some l := by
  induction lanes with
  | nil => cases member
  | cons first rest induction =>
    rw [List.map_cons, List.nodup_cons] at nodup
    rw [List.lookup_cons]
    rcases List.mem_cons.mp member with rfl | later
    · simp
    · have different : key ≠ first.1 := by
        rintro rfl
        exact nodup.1 (List.mem_map.mpr ⟨_, later, rfl⟩)
      rw [beq_false_of_ne different]
      exact induction nodup.2 later

theorem lane_unique (mapped : s.Mapped) (first : (key, l) ∈ s.lanes)
    (second : (key, other) ∈ s.lanes) : l = other := by
  have same := (lookup_of_mem mapped.keys first).symm.trans (lookup_of_mem mapped.keys second)
  exact some.inj same

theorem key_unique (mapped : s.Mapped) (first : (key, l) ∈ s.lanes)
    (second : (other, l) ∈ s.lanes) : key = other := by
  have same := List.inj_on_of_nodup_map mapped.ids first second rfl
  exact congrArg fst same

theorem isBusy_eq_false : s.isBusy key = false ↔ ∀ e < s.entryTotal, (s.entry e).key = key →
      (s.entry e).slot = none ∧ (s.entry e).progress.isActive = false := by
  unfold isBusy
  simp only [List.any_eq_false, List.mem_range, Bool.and_eq_true, decide_eq_true_eq,
    Bool.or_eq_true, not_and, not_or, Bool.not_eq_true, isSome_eq_false_iff,
    isNone_iff_eq_none]

structure Idle (s : Coordinator) (l : Nat) : Prop where
  active : (s.lane l).active = none
  poison : (s.lane l).poison = none
  empty : s.contents l = []

theorem Idle.notBusy (idle : s.Idle l) (invariant : s.Invariant) (member : (key, l) ∈ s.lanes) :
    s.isBusy key = false := by
  have placed := invariant.placed
  rw [isBusy_eq_false]
  intro e isKnown same
  by_contra busy
  have home := placed.home e (by
    rw [not_and_or] at busy
    exact busy.imp id (by simp))
  rw [same] at home
  have here : (s.entry e).lane = l := lane_unique invariant.mapped home member
  rw [not_and_or] at busy
  rcases busy with queued | active
  · obtain ⟨slot, held⟩ := ne_none_iff_exists'.mp queued
    have inside := (placed.queued l slot e).mpr ⟨held, here⟩
    rw [idle.empty] at inside
    cases inside
  · have isActive := (placed.active l e).mpr ⟨by simpa using active, here⟩
    rw [idle.active] at isActive
    cases isActive

/-- What a settled lane leaves: the map without it, its promise no longer pending. -/
structure Dropped (s next : Coordinator) (l : Nat) : Prop where
  policy : next.policy = s.policy
  laneTotal : next.laneTotal = s.laneTotal
  entry : next.entry = s.entry
  entryTotal : next.entryTotal = s.entryTotal
  queuedCount : next.queuedCount = s.queuedCount
  aborted : next.aborted = s.aborted
  started : next.started = s.started
  active : ∀ other, (next.lane other).active = (s.lane other).active
  poison : ∀ other, (next.lane other).poison = (s.lane other).poison
  queue : ∀ other, (next.lane other).queue = (s.lane other).queue

include invariant in
theorem settleLaneIfIdle_cases (owns : s.Owns key l) : s.settleLaneIfIdle key l = s ∨
      s.Idle l ∧ (key, l) ∈ s.lanes ∧ s.Dropped (s.settleLaneIfIdle key l) l ∧
        (s.settleLaneIfIdle key l).lanes = s.lanes.filter (fun mapped => mapped.1 ≠ key) ∧
        ((s.settleLaneIfIdle key l).lane l).idle ≠ .pending ∧
        (∀ other ≠ l, (s.settleLaneIfIdle key l).lane other = s.lane other) ∧
        (s.settleLaneIfIdle key l).resolutions ⊆ false :: s.resolutions := by
  unfold settleLaneIfIdle
  by_cases busy : (s.lane l).active.isSome || (s.lane l).poison.isSome ||
      decide ((s.lane l).queue.size > 0)
  · left
    rw [if_pos busy]
  · rw [if_neg busy]
    simp only [Bool.or_eq_true, decide_eq_true_eq, not_or, Bool.not_eq_true,
      isSome_eq_false_iff, isNone_iff_eq_none] at busy
    have idle : s.Idle l := by
      refine ⟨busy.1.1, busy.1.2, ?_⟩
      have empty : (s.lane l).queue.size = 0 := by omega
      rw [MutationQueue.size_eq] at empty
      exact List.eq_nil_of_length_eq_zero empty
    by_cases member : (key, l) ∈ s.lanes
    · right
      have found := lookup_of_mem invariant.mapped.keys member
      have notBusy : (s.dropLane key l).isBusy key = false := by
        have before := idle.notBusy invariant member
        unfold dropLane
        rw [if_pos found]
        exact before
      refine ⟨idle, member, ?_⟩
      unfold resolveIdle dropLane
      rw [if_pos found]
      unfold dropLane at notBusy
      rw [if_pos found] at notBusy
      split
      · refine ⟨⟨rfl, rfl, rfl, rfl, rfl, rfl, rfl, ?_, ?_, ?_⟩, rfl, ?_, ?_, ?_⟩
        · intro other
          dsimp only [updateLane]
          grind [update_apply]
        · intro other
          dsimp only [updateLane]
          grind [update_apply]
        · intro other
          dsimp only [updateLane]
          grind [update_apply]
        · simp [updateLane]
        · intro other different
          simp [updateLane, different]
        · rw [notBusy]
          exact List.Subset.refl _
      · rename_i settled
        exact ⟨⟨rfl, rfl, rfl, rfl, rfl, rfl, rfl, fun _ => rfl, fun _ => rfl, fun _ => rfl⟩, rfl,
          settled, fun _ _ => rfl, List.subset_cons_self _ _⟩
    · left
      have outside : l ∉ s.current := by
        intro inside
        obtain ⟨⟨other, number⟩, found, rfl⟩ := List.mem_map.mp inside
        exact member (owns.key other found ▸ found)
      have missing : s.lanes.lookup key ≠ some l := fun found => member (mem_of_lookup found)
      unfold resolveIdle dropLane
      rw [if_neg missing, if_neg (invariant.mapped.settled l owns.known outside)]

theorem sum_filter (length : Nat → Nat)
    (empty : ∀ mapped ∈ lanes, mapped.1 = key → length mapped.2 = 0) :
    ((lanes.filter fun mapped => mapped.1 ≠ key).map fun mapped => length mapped.2).sum =
      (lanes.map fun mapped => length mapped.2).sum := by
  induction lanes with
  | nil => rfl
  | cons first rest induction =>
    have tail := induction fun mapped member => empty mapped (List.mem_cons_of_mem _ member)
    by_cases same : first.1 = key
    · rw [List.filter_cons_of_neg (by simp [same]), tail, List.map_cons, List.sum_cons,
        empty first List.mem_cons_self same, Nat.zero_add]
    · rw [List.filter_cons_of_pos (by simp [same]), List.map_cons, List.sum_cons, tail,
        List.map_cons, List.sum_cons]

theorem settles_settleLaneIfIdle (whole : s.Whole) (owns : s.Owns key l) :
    s.Settles (s.settleLaneIfIdle key l) l := by
  have invariant := whole.invariant
  have mapped := invariant.mapped
  have placed := invariant.placed
  rcases settleLaneIfIdle_cases invariant owns with
    unchanged | ⟨idle, member, dropped, lanes, settled, others, quiet⟩
  · rw [unchanged]
    exact Settles.refl whole
  generalize s.settleLaneIfIdle key l = next at *
  have contents : ∀ other, next.contents other = s.contents other := fun other =>
    congrArg MutationQueue.contents (dropped.queue other)
  have sublist : next.lanes.Sublist s.lanes := lanes ▸ List.filter_sublist
  have inMap : ∀ other ∈ next.current, other ≠ l ∧ other ∈ s.current := by
    intro other inside
    obtain ⟨⟨found, number⟩, kept, rfl⟩ := List.mem_map.mp inside
    rw [lanes, List.mem_filter] at kept
    refine ⟨?_, List.mem_map_of_mem kept.1⟩
    rintro rfl
    exact absurd (key_unique mapped kept.1 member) (by simpa using kept.2)
  have outOfMap : ∀ other, other ∉ next.current → other = l ∨ other ∉ s.current := by
    intro other outside
    by_contra both
    rw [not_or, not_not] at both
    obtain ⟨⟨found, number⟩, inside, rfl⟩ := List.mem_map.mp both.2
    apply outside
    refine List.mem_map_of_mem ?_
    rw [lanes, List.mem_filter]
    refine ⟨inside, ?_⟩
    have different : found ≠ key := by
      rintro rfl
      exact both.1 (lane_unique mapped inside member)
    simpa using different
  have nextMapped : next.Mapped := by
    constructor
    case keys => exact mapped.keys.sublist (sublist.map _)
    case ids => exact mapped.ids.sublist (sublist.map _)
    case known =>
      intro other inside
      rw [dropped.laneTotal]
      exact mapped.known other (inMap other inside).2
    case dropped =>
      intro other outside
      rw [dropped.active, dropped.poison, contents]
      rcases outOfMap other outside with rfl | outside
      · exact ⟨idle.active, idle.poison, idle.empty⟩
      · exact mapped.dropped other outside
    case settled =>
      intro other isKnown outside
      rw [dropped.laneTotal] at isKnown
      by_cases same : other = l
      · exact same ▸ settled
      · rw [others other same]
        exact mapped.settled other isKnown ((outOfMap other outside).resolve_left same)
    case unsettled =>
      intro other inside
      obtain ⟨different, old⟩ := inMap other inside
      rw [others other different]
      exact mapped.unsettled other old
    case poison =>
      intro other e
      rw [dropped.poison, dropped.active]
      exact mapped.poison other e
    case capacity =>
      intro other
      rw [dropped.queue, dropped.policy]
      exact mapped.capacity other
  have nextPlaced : next.Placed := by
    constructor
    case queued =>
      intro other slot e
      rw [contents, dropped.entry]
      exact placed.queued other slot e
    case active =>
      intro other e
      rw [dropped.active, dropped.entry]
      exact placed.active other e
    case home =>
      intro e busy
      rw [dropped.entry] at busy ⊢
      rw [lanes, List.mem_filter]
      refine ⟨placed.home e busy, ?_⟩
      have different : (s.entry e).key ≠ key := by
        intro same
        have notBusy := isBusy_eq_false.mp (idle.notBusy invariant member) e (by
          by_contra isFresh
          rw [placed.fresh e (Nat.not_lt.mp isFresh)] at busy
          exact busy.elim (fun queued => queued rfl) (fun active => by cases active)) same
        rcases busy with queued | active
        · exact queued notBusy.1
        · rw [notBusy.2] at active
          cases active
      simpa using different
    case owned =>
      intro e isKnown
      rw [dropped.entryTotal] at isKnown
      rw [dropped.entry, dropped.laneTotal]
      obtain ⟨known, only⟩ := placed.owned e isKnown
      exact ⟨known, fun other inside => only other (sublist.subset inside)⟩
    case fresh =>
      intro e isFresh
      rw [dropped.entryTotal] at isFresh
      rw [dropped.entry]
      exact placed.fresh e isFresh
    case credit =>
      rw [dropped.entry]
      exact placed.credit
  have nextOrdered : next.Ordered := by
    obtain ⟨sorted, beforeQueued, beforeActive, started, startedOrder⟩ := invariant.ordered
    rw [← dropped.entry] at beforeQueued beforeActive started startedOrder
    rw [← dropped.started] at started startedOrder
    exact ⟨fun other => by rw [contents]; exact sorted other, beforeQueued, beforeActive, started,
      startedOrder⟩
  have nextTotal : next.queuedTotal = s.queuedTotal := by
    unfold queuedTotal
    simp only [contents]
    rw [lanes]
    apply sum_filter fun other => (s.contents other).length
    rintro ⟨found, number⟩ inside same
    subst same
    rw [lane_unique mapped inside member, idle.empty]
    rfl
  constructor
  case whole =>
    constructor
    · constructor
      · exact nextMapped
      · exact nextPlaced
      · exact nextOrdered
      · rw [nextTotal, dropped.queuedCount]
        exact invariant.counted
      · rw [dropped.entry]
        exact invariant.unanswered
      · rw [dropped.entry]
        exact invariant.fenced
      · intro busy resolved
        rcases List.mem_cons.mp (quiet resolved) with now | earlier
        · exact now
        · exact invariant.quiet busy earlier
    · intro e isKnown
      unfold Accounted Refused
      rw [dropped.entry, dropped.entryTotal]
      exact whole.accounted e (dropped.entryTotal ▸ isKnown)
  case refused =>
    intro e
    unfold Refused
    rw [dropped.entry, dropped.entryTotal]
    exact id
  case policy => exact dropped.policy
  case laneTotal => exact dropped.laneTotal
  case entryTotal => exact dropped.entryTotal
  case started => exact dropped.started
  case keys =>
    rw [dropped.entry]
    exact fun _ => rfl
  case lanes => exact sublist
  case count => exact Int.le_of_eq dropped.queuedCount
  case manned =>
    intro other _
    unfold Manned
    rw [contents, dropped.active]
    exact id

include invariant in
theorem manned_settleLaneIfIdle (owns : s.Owns key l)
    (manned : s.Manned l) : (s.settleLaneIfIdle key l).Manned l := by
  rcases settleLaneIfIdle_cases invariant owns with unchanged | ⟨idle, _, dropped, _⟩
  · rwa [unchanged]
  · intro queued
    have same := congrArg MutationQueue.contents (dropped.queue l)
    exact absurd (same.trans idle.empty) queued

end

end Coordinator

end LicoMesh.StateCoordinator
