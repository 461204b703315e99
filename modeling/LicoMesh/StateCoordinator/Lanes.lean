import LicoMesh.StateCoordinator.Invariant

namespace LicoMesh.StateCoordinator

open List Function Option MutationQueue

open Function (update)

/-! A lane takes its next entry, and a mutation that is accepted goes to the end of its lane. -/

variable {l e : Nat} {queue : MutationQueue Nat} {key : String}

namespace Coordinator

section

variable {s : Coordinator}

def take (s : Coordinator) (l : Nat) (queue : MutationQueue Nat) (e : Nat) : Coordinator :=
  let left := s.leaveQueue l queue e
  (left.updateLane l { left.lane l with active := some e }).updateEntry e
    { left.entry e with progress := .scheduled }

theorem take_eq (credit : (s.entry e).queuedCreditHeld = true) : s.take l queue e =
      { s with
        lane := update s.lane l { s.lane l with queue := queue, active := some e }
        entry := update s.entry e
          { s.entry e with slot := none, queuedCreditHeld := false, progress := .scheduled }
        queuedCount := s.queuedCount - 1 } := by
  unfold take
  rw [leaveQueue_eq credit]
  simp [updateLane, updateEntry]

structure Takes (s : Coordinator) (l e : Nat) (queue : MutationQueue Nat) : Prop where
  first : ∃ slot, s.contents l = (slot, e) :: queue.contents
  capacity : queue.capacity = (s.lane l).queue.capacity
  active : (s.lane l).active = none
  poison : (s.lane l).poison = none

theorem Takes.leaves (takes : s.Takes l e queue) : s.Leaves l e queue := by
  obtain ⟨slot, whole⟩ := takes.first
  exact ⟨⟨[], slot, queue.contents, whole, rfl⟩, takes.capacity⟩

variable (invariant : s.Invariant)
include invariant

section

variable (takes : s.Takes l e queue)
include takes

theorem mapped_take : (s.take l queue e).Mapped := by
  have leaves := takes.leaves
  have mapped := mapped_leaveQueue invariant leaves
  have inside := leaves.current invariant.mapped
  have poison := takes.poison
  rw [take_eq (leaves.credit invariant.placed)]
  rw [leaveQueue_eq (leaves.credit invariant.placed)] at mapped
  constructor
  case keys => exact mapped.keys
  case ids => exact mapped.ids
  case known => exact mapped.known
  case dropped =>
    intro other outside
    have different : other ≠ l := fun same => outside (same ▸ inside)
    have old := mapped.dropped other outside
    dsimp only [contents] at old ⊢
    rw [update_of_ne different] at old ⊢
    exact old
  case settled =>
    intro other isKnown outside
    have old := mapped.settled other isKnown outside
    grind [update_apply]
  case unsettled =>
    intro other isCurrent
    have old := mapped.unsettled other isCurrent
    grind [update_apply]
  case poison =>
    intro other poisoned
    have old := mapped.poison other poisoned
    grind [update_apply]
  case capacity =>
    intro other
    have old := mapped.capacity other
    grind [update_apply]

theorem placed_take : (s.take l queue e).Placed := by
  have leaves := takes.leaves
  obtain ⟨queued, lane, waiting, _, isKnown⟩ := leaves.facts invariant
  have placed := placed_leaveQueue invariant leaves
  have before := invariant.placed
  have inactive := takes.active
  rw [take_eq (leaves.credit invariant.placed)]
  rw [leaveQueue_eq (leaves.credit invariant.placed)] at placed
  constructor
  case queued =>
    intro other slot held
    have old := placed.queued other slot held
    dsimp only [contents] at old ⊢
    grind [update_apply]
  case active =>
    intro other held
    have old := before.active other held
    dsimp only at old ⊢
    by_cases sameLane : other = l
    · subst sameLane
      by_cases sameEntry : held = e
      · subst sameEntry
        simp [Progress.isActive, lane]
      · have different : e ≠ held := Ne.symm sameEntry
        grind
    · by_cases sameEntry : held = e
      · subst sameEntry
        rw [update_of_ne sameLane, update_self]
        constructor
        · intro isActive
          rw [waiting] at old
          exact absurd (old.mp isActive).1 (by decide)
        · rintro ⟨_, here⟩
          exact absurd (here.symm.trans lane) sameLane
      · rw [update_of_ne sameLane, update_of_ne sameEntry]
        exact old
  case home =>
    intro other busy
    have old := before.home other
    dsimp only at busy ⊢
    by_cases same : other = e
    · subst same
      rw [update_self]
      exact old (.inl queued)
    · rw [update_of_ne same] at busy ⊢
      exact old busy
  case owned =>
    intro other isOther
    have old := placed.owned other isOther
    grind [update_apply]
  case fresh =>
    intro other isFresh
    have different : other ≠ e := by
      rintro rfl
      exact absurd isKnown (Nat.not_lt.mpr isFresh)
    dsimp only
    rw [update_of_ne different]
    exact before.fresh other isFresh
  case credit =>
    intro other
    have old := placed.credit other
    grind [update_apply]

theorem ordered_take : (s.take l queue e).Ordered := by
  have leaves := takes.leaves
  obtain ⟨queued, lane, waiting, _, isKnown⟩ := leaves.facts invariant
  have ordered := ordered_leaveQueue invariant leaves
  have old := invariant.ordered
  have placed := invariant.placed
  have home := placed.home e (.inl queued)
  have alone : ∀ other, (s.entry other).key = (s.entry e).key →
      (s.entry other).progress.isActive = true → False := by
    intro other same active
    have there := placed.home other (.inr active)
    rw [same] at there
    have here := lane_unique invariant.mapped there home
    have isActive := (placed.active l other).mpr ⟨active, here.trans lane⟩
    rw [takes.active] at isActive
    cases isActive
  have later : ∀ other, (s.entry e).key = (s.entry other).key → other ≠ e →
      (s.entry other).slot ≠ none → e < other := by
    intro other same different waits
    have there := placed.home other (.inl waits)
    rw [← same] at there
    have here := lane_unique invariant.mapped there home
    obtain ⟨slot, held⟩ := ne_none_iff_exists'.mp waits
    have inside := (placed.queued l slot other).mpr ⟨held, here.trans lane⟩
    obtain ⟨first, whole⟩ := takes.first
    have sorted := old.sorted l
    rw [whole, map_cons, pairwise_cons] at sorted
    rw [whole] at inside
    rcases mem_cons.mp inside with equal | rest
    · cases equal
      exact absurd rfl different
    · exact sorted.1 other (mem_map.mpr ⟨_, rest, rfl⟩)
  rw [take_eq (leaves.credit invariant.placed)]
  rw [leaveQueue_eq (leaves.credit invariant.placed)] at ordered
  constructor
  case sorted =>
    intro other
    have before := ordered.sorted other
    dsimp only [contents] at before ⊢
    grind [update_apply]
  case beforeQueued =>
    intro first other
    have before := old.beforeQueued first other
    grind [update_apply]
  case beforeActive =>
    intro first other
    have before := old.beforeActive first other
    have before' := old.beforeQueued first other
    grind [update_apply, Progress.isActive]
  case started =>
    intro other
    have before := old.started other
    grind [update_apply]
  case startedOrder =>
    apply old.startedOrder.imp
    intro first second
    grind [update_apply]

theorem invariant_take : (s.take l queue e).Invariant := by
  have leaves := takes.leaves
  have left := invariant_leaveQueue invariant leaves
  have counted := left.counted
  have unanswered := left.unanswered
  have quiet := left.quiet
  refine ⟨mapped_take invariant takes, placed_take invariant takes, ordered_take invariant takes,
    ?_, ?_, ?_, ?_⟩
  · have contents : (s.take l queue e).contents = (s.leaveQueue l queue e).contents := by
      funext other
      rw [take_eq (leaves.credit invariant.placed), leaveQueue_eq (leaves.credit invariant.placed)]
      dsimp only [Coordinator.contents]
      grind [update_apply]
    unfold queuedTotal at counted ⊢
    rw [contents]
    rw [take_eq (leaves.credit invariant.placed)]
    rw [leaveQueue_eq (leaves.credit invariant.placed)] at counted ⊢
    exact counted
  · intro other
    have old := unanswered other
    rw [take_eq (leaves.credit invariant.placed)]
    rw [leaveQueue_eq (leaves.credit invariant.placed)] at old
    grind [update_apply]
  · intro other
    have old := invariant.fenced other
    rw [take_eq (leaves.credit invariant.placed)]
    grind [update_apply]
  · rw [take_eq (leaves.credit invariant.placed)]
    rw [leaveQueue_eq (leaves.credit invariant.placed)] at quiet
    exact quiet

end

omit invariant

theorem settles_take (whole : s.Whole) (takes : s.Takes l e queue) :
    s.Settles (s.take l queue e) l := by
  have invariant := whole.invariant
  have leaves := takes.leaves
  obtain ⟨queued, _⟩ := leaves.facts invariant
  have taken := invariant_take invariant takes
  have eq : s.take l queue e = _ := take_eq (leaves.credit invariant.placed)
  rw [eq] at taken ⊢
  constructor
  case whole =>
    refine ⟨taken, ?_⟩
    intro other isKnown
    have old := whole.accounted other isKnown
    unfold Accounted Refused at old ⊢
    grind [update_apply]
  case refused =>
    intro other
    unfold Refused
    grind [update_apply]
  case policy => rfl
  case laneTotal => rfl
  case entryTotal => rfl
  case started => rfl
  case keys =>
    intro other
    grind [update_apply]
  case lanes => exact .refl _
  case count =>
    dsimp only
    omega
  case manned =>
    intro other different
    unfold Manned contents
    dsimp only
    rw [update_of_ne different]
    exact id

variable (taken : (s.lane l).queue.dequeue = some (e, queue))
include taken

theorem takes_of_dequeue (active : (s.lane l).active = none) (poison : (s.lane l).poison = none) :
    s.Takes l e queue := by
  obtain ⟨slot, first, capacity⟩ := dequeue_some taken
  exact ⟨⟨slot, first⟩, capacity, active, poison⟩

theorem leaves_of_dequeue : s.Leaves l e queue := by
  obtain ⟨slot, first, capacity⟩ := dequeue_some taken
  exact ⟨⟨[], slot, queue.contents, first, rfl⟩, capacity⟩

omit taken

theorem settles_startNextMutation (whole : s.Whole) (owns : s.Owns key l) :
    s.Settles (s.startNextMutation key l) l ∧ (s.startNextMutation key l).Manned l := by
  induction s using startNextMutation.induct l with
  | case1 s busy =>
    rw [startNextMutation, if_pos busy]
    refine ⟨.refl whole, fun _ => ?_⟩
    rw [Bool.or_eq_true, isSome_iff_exists, isSome_iff_exists] at busy
    rcases busy with ⟨e, active⟩ | ⟨e, poison⟩
    · simp [active]
    · simp [whole.invariant.mapped.poison l e poison]
  | case2 s free empty =>
    rw [startNextMutation, if_neg free]
    have nothing : s.Manned l := fun queued =>
      absurd (dequeue_none empty) queued
    split
    · exact ⟨settles_settleLaneIfIdle whole owns,
        manned_settleLaneIfIdle whole.invariant owns nothing⟩
    · rename_i taken
      rw [empty] at taken
      cases taken
  | case3 s free e queue taken left aborted induction =>
    rw [startNextMutation, if_neg free]
    split
    · rename_i empty
      rw [taken] at empty
      cases empty
    · rename_i first taken'
      rw [taken] at taken'
      cases taken'
      rw [if_pos aborted]
      have rejected := settles_reject whole (leaves_of_dequeue taken) queueAbortedError
      obtain ⟨rest, manned⟩ := induction rejected.whole (rejected.owns owns)
      exact ⟨rejected.trans rest, manned⟩
  | case4 s free e queue taken left notAborted =>
    rw [startNextMutation, if_neg free]
    split
    · rename_i empty
      rw [taken] at empty
      cases empty
    · rename_i first taken'
      rw [taken] at taken'
      cases taken'
      rw [if_neg notAborted]
      simp only [Bool.or_eq_true, not_or, Bool.not_eq_true, isSome_eq_false_iff,
        isNone_iff_eq_none] at free
      refine ⟨settles_take whole (takes_of_dequeue taken free.1 free.2), fun _ => ?_⟩
      simp [updateLane, updateEntry]

theorem settles_rejectQueuedMutations (whole : s.Whole) (owns : s.Owns key l) :
    s.Settles (s.rejectQueuedMutations key l) l ∧ (s.rejectQueuedMutations key l).Manned l := by
  induction s using rejectQueuedMutations.induct l with
  | case1 s empty =>
    rw [rejectQueuedMutations]
    have nothing : s.Manned l := fun queued =>
      absurd (dequeue_none empty) queued
    split
    · exact ⟨settles_settleLaneIfIdle whole owns,
        manned_settleLaneIfIdle whole.invariant owns nothing⟩
    · rename_i taken
      rw [empty] at taken
      cases taken
  | case2 s e queue taken induction =>
    rw [rejectQueuedMutations]
    split
    · rename_i empty
      rw [taken] at empty
      cases empty
    · rename_i first taken'
      rw [taken] at taken'
      cases taken'
      have rejected := settles_reject whole (leaves_of_dequeue taken) fencedError
      obtain ⟨rest, manned⟩ := induction rejected.whole (rejected.owns owns)
      exact ⟨rejected.trans rest, manned⟩

structure Sound (s : Coordinator) : Prop where
  whole : s.Whole
  manned : ∀ l, s.Manned l
  global : s.queuedCount ≤ s.policy.maxQueuedGlobal
  active : s.lanes.length ≤ s.policy.maxActiveLanes

structure Ensured (s next : Coordinator) (key : String) (l : Nat) : Prop where
  sound : next.Sound
  member : (key, l) ∈ next.lanes
  room : (next.lane l).queue.size < (next.lane l).queue.capacity
  entry : next.entry = s.entry
  entryTotal : next.entryTotal = s.entryTotal
  queuedCount : next.queuedCount = s.queuedCount
  policy : next.policy = s.policy
  started : next.started = s.started

theorem ensureLane_of_lookup (sound : s.Sound) (found : s.lanes.lookup key = some l)
    (room : (s.lane l).queue.size < s.policy.maxQueuedPerLane) :
    s.ensureLane key = (s, l) ∧ s.Ensured s key l := by
  unfold ensureLane
  rw [found]
  refine ⟨rfl, sound, mem_of_lookup found, ?_, rfl, rfl, rfl, rfl, rfl⟩
  rwa [sound.whole.invariant.mapped.capacity]

theorem not_mem_of_lookup {lanes : List (String × Nat)} (missing : lanes.lookup key = none)
    (l : Nat) : (key, l) ∉ lanes := by
  induction lanes with
  | nil => simp
  | cons first rest induction =>
    rw [lookup_cons] at missing
    split at missing
    · cases missing
    · rename_i different
      rw [mem_cons, not_or]
      refine ⟨?_, induction missing⟩
      rintro rfl
      simp at different

def addLane (s : Coordinator) (key : String) : Coordinator :=
  { s.updateLane s.laneTotal (newLane s.policy) with
    lanes := s.lanes ++ [(key, s.laneTotal)]
    laneTotal := s.laneTotal + 1 }

theorem contents_addLane (mapped : s.Mapped) (l : Nat) :
    (s.addLane key).contents l = s.contents l := by
  unfold addLane updateLane contents
  dsimp only
  by_cases same : l = s.laneTotal
  · subst same
    have outside : s.laneTotal ∉ s.current := fun inside =>
      absurd (mapped.known _ inside) (Nat.lt_irrefl _)
    have empty := (mapped.dropped _ outside).2.2
    rw [update_self]
    exact empty.symm
  · rw [update_of_ne same]

theorem active_addLane (mapped : s.Mapped) (l : Nat) :
    ((s.addLane key).lane l).active = (s.lane l).active := by
  unfold addLane updateLane
  dsimp only
  by_cases same : l = s.laneTotal
  · subst same
    have outside : s.laneTotal ∉ s.current := fun inside =>
      absurd (mapped.known _ inside) (Nat.lt_irrefl _)
    rw [update_self, (mapped.dropped _ outside).1]
    rfl
  · rw [update_of_ne same]

include invariant in
theorem invariant_addLane (missing : s.lanes.lookup key = none) : (s.addLane key).Invariant := by
  have mapped := invariant.mapped
  have placed := invariant.placed
  have unknown : s.laneTotal ∉ s.current := fun inside =>
    absurd (mapped.known _ inside) (Nat.lt_irrefl _)
  have current : (s.addLane key).current = s.current ++ [s.laneTotal] := by
    simp [addLane, Coordinator.current]
  have others : ∀ l ≠ s.laneTotal, (s.addLane key).lane l = s.lane l := by
    intro l different
    simp [addLane, updateLane, different]
  have own : (s.addLane key).lane s.laneTotal = newLane s.policy := by
    simp [addLane, updateLane]
  constructor
  case mapped =>
    constructor
    case keys =>
      change ((s.lanes ++ [(key, s.laneTotal)]).map Prod.fst).Nodup
      rw [map_append, nodup_append]
      refine ⟨mapped.keys, by simp, ?_⟩
      rintro other member single isKey rfl
      simp only [map_cons, map_nil, mem_singleton] at isKey
      obtain ⟨⟨found, number⟩, inside, same⟩ := mem_map.mp member
      subst same isKey
      exact not_mem_of_lookup missing number inside
    case ids =>
      rw [current, nodup_append]
      refine ⟨mapped.ids, by simp, ?_⟩
      rintro other member single isNew rfl
      rw [mem_singleton] at isNew
      exact unknown (isNew ▸ member)
    case known =>
      intro l inside
      rw [current, mem_append, mem_singleton] at inside
      rcases inside with old | rfl
      · exact Nat.lt_succ_of_lt (mapped.known l old)
      · exact Nat.lt_succ_self _
    case dropped =>
      intro l outside
      rw [current, mem_append, mem_singleton, not_or] at outside
      rw [others l outside.2, contents_addLane mapped]
      exact mapped.dropped l outside.1
    case settled =>
      intro l isKnown outside
      rw [current, mem_append, mem_singleton, not_or] at outside
      rw [others l outside.2]
      change l < s.laneTotal + 1 at isKnown
      exact mapped.settled l (by omega) outside.1
    case unsettled =>
      intro l inside
      rw [current, mem_append, mem_singleton] at inside
      by_cases same : l = s.laneTotal
      · rw [same, own]
        exact fun impossible => by cases impossible
      · rw [others l same]
        exact mapped.unsettled l (inside.resolve_right same)
    case poison =>
      intro l e
      by_cases same : l = s.laneTotal
      · rw [same, own]
        exact fun impossible => by cases impossible
      · rw [others l same]
        exact mapped.poison l e
    case capacity =>
      intro l
      by_cases same : l = s.laneTotal
      · rw [same, own]
        rfl
      · rw [others l same]
        exact mapped.capacity l
  case placed =>
    constructor
    case queued =>
      intro l slot e
      rw [contents_addLane mapped]
      exact placed.queued l slot e
    case active =>
      intro l e
      rw [active_addLane mapped]
      exact placed.active l e
    case home => exact fun e busy => mem_append_left _ (placed.home e busy)
    case owned =>
      intro e isKnown
      obtain ⟨known, only⟩ := placed.owned e isKnown
      refine ⟨Nat.lt_succ_of_lt known, ?_⟩
      intro other member
      change (other, (s.entry e).lane) ∈ s.lanes ++ [(key, s.laneTotal)] at member
      rw [mem_append, mem_singleton] at member
      rcases member with old | new
      · exact only other old
      · have isNew : (s.entry e).lane = s.laneTotal := congrArg Prod.snd new
        omega
    case fresh => exact placed.fresh
    case credit => exact placed.credit
  case ordered =>
    obtain ⟨sorted, beforeQueued, beforeActive, started, startedOrder⟩ := invariant.ordered
    refine ⟨fun l => ?_, beforeQueued, beforeActive, started, startedOrder⟩
    rw [contents_addLane mapped]
    exact sorted l
  case counted =>
    unfold queuedTotal
    simp only [contents_addLane mapped]
    change s.queuedCount =
      (((s.lanes ++ [(key, s.laneTotal)]).map fun lane => (s.contents lane.2).length).sum : Nat)
    have empty := (mapped.dropped _ unknown).2.2
    have counted := invariant.counted
    unfold queuedTotal at counted
    simpa [empty] using counted
  case unanswered => exact invariant.unanswered
  case fenced => exact invariant.fenced
  case quiet => exact invariant.quiet

theorem ensureLane_of_missing (sound : s.Sound) (missing : s.lanes.lookup key = none)
    (room : s.lanes.length < s.policy.maxActiveLanes) : s.ensureLane key =
      (s.addLane key, s.laneTotal) ∧ s.Ensured (s.addLane key) key s.laneTotal := by
  have mapped := sound.whole.invariant.mapped
  have own : (s.addLane key).lane s.laneTotal = newLane s.policy := by
    simp [addLane, updateLane]
  constructor
  · unfold ensureLane
    rw [missing]
    rfl
  · constructor
    case sound =>
      constructor
      case whole =>
        exact ⟨invariant_addLane sound.whole.invariant missing, sound.whole.accounted⟩
      case manned =>
        intro l
        unfold Manned
        rw [contents_addLane mapped, active_addLane mapped]
        exact sound.manned l
      case global => exact sound.global
      case active =>
        change (s.lanes ++ [(key, s.laneTotal)]).length ≤ s.policy.maxActiveLanes
        rw [length_append]
        exact room
    case member => exact mem_append_right _ mem_cons_self
    case room =>
      rw [own, size_eq]
      exact s.policy.perLane_pos
    case entry => rfl
    case entryTotal => rfl
    case queuedCount => rfl
    case policy => rfl
    case started => rfl

def append (s : Coordinator) (key : String) (l : Nat) (signal : Option Nat) (slot : Nat)
    (queue : MutationQueue Nat) : Coordinator :=
  { s with
    lane := update s.lane l { s.lane l with queue := queue }
    entry := update s.entry s.entryTotal
      ⟨key, l, signal, true, some slot, none, false, .waiting, []⟩
    entryTotal := s.entryTotal + 1
    queuedCount := s.queuedCount + 1 }

section

variable {key : String} {l slot : Nat} {signal : Option Nat} {queue : MutationQueue Nat}

theorem mapped_append (mapped : s.Mapped) (member : (key, l) ∈ s.lanes)
    (capacity : queue.capacity = (s.lane l).queue.capacity) :
    (s.append key l signal slot queue).Mapped := by
  have inside : l ∈ s.current := mem_map.mpr ⟨_, member, rfl⟩
  unfold append
  constructor
  case keys => exact mapped.keys
  case ids => exact mapped.ids
  case known => exact mapped.known
  case dropped =>
    intro other outside
    have different : other ≠ l := fun same => outside (same ▸ inside)
    dsimp only [contents]
    rw [update_of_ne different]
    exact mapped.dropped other outside
  case settled =>
    intro other isKnown outside
    have old := mapped.settled other isKnown outside
    grind [update_apply]
  case unsettled =>
    intro other isCurrent
    have old := mapped.unsettled other isCurrent
    grind [update_apply]
  case poison =>
    intro other poisoned
    have old := mapped.poison other poisoned
    grind [update_apply]
  case capacity =>
    intro other
    have old := mapped.capacity other
    grind [update_apply]

include invariant in
theorem placed_append (member : (key, l) ∈ s.lanes)
    (contents : queue.contents = s.contents l ++ [(slot, s.entryTotal)]) :
    (s.append key l signal slot queue).Placed := by
  have placed := invariant.placed
  have mapped := invariant.mapped
  have inside : l ∈ s.current := mem_map.mpr ⟨_, member, rfl⟩
  have blank := placed.fresh s.entryTotal (Nat.le_refl _)
  unfold append
  constructor
  case queued =>
    intro other found held
    have old := placed.queued other found held
    dsimp only [Coordinator.contents] at old contents ⊢
    by_cases isEntry : held = s.entryTotal
    · subst isEntry
      rw [blank] at old
      have absent : (found, s.entryTotal) ∉ (s.lane other).queue.contents := fun member => by
        cases (old.mp member).1
      by_cases sameLane : other = l
      · subst sameLane
        simp [contents, absent, eq_comm]
      · simp [update_of_ne sameLane, absent, Ne.symm sameLane]
    · rw [update_of_ne isEntry]
      by_cases sameLane : other = l
      · subst sameLane
        rw [update_self]
        rw [contents, mem_append, mem_singleton, ← old]
        simp [isEntry]
      · rw [update_of_ne sameLane]
        exact old
  case active =>
    intro other held
    have old := placed.active other held
    by_cases isEntry : held = s.entryTotal
    · subst isEntry
      grind [update_apply, Progress.isActive, blankEntry]
    · grind [update_apply]
  case home =>
    intro other busy
    have old := placed.home other
    dsimp only at busy ⊢
    by_cases isEntry : other = s.entryTotal
    · subst isEntry
      rw [update_self]
      exact member
    · rw [update_of_ne isEntry] at busy ⊢
      exact old busy
  case owned =>
    intro other isKnown
    dsimp only at isKnown ⊢
    by_cases isEntry : other = s.entryTotal
    · subst isEntry
      rw [update_self]
      exact ⟨mapped.known l inside, fun _ found => key_unique mapped found member⟩
    · rw [update_of_ne isEntry]
      exact placed.owned other (by omega)
  case fresh =>
    intro other isFresh
    dsimp only at isFresh ⊢
    rw [update_of_ne (by omega)]
    exact placed.fresh other (by omega)
  case credit =>
    intro other
    have old := placed.credit other
    grind [update_apply]

theorem known_of_contents (placed : s.Placed)
    (member : e ∈ (s.contents other).map Prod.snd) : e < s.entryTotal := by
  obtain ⟨⟨slot, held⟩, inside, rfl⟩ := mem_map.mp member
  have queued := ((placed.queued other slot held).mp inside).1
  by_contra isFresh
  rw [placed.fresh held (Nat.not_lt.mp isFresh)] at queued
  cases queued

theorem known_of_progress (placed : s.Placed) (progress : (s.entry e).progress ≠ .waiting) :
    e < s.entryTotal := by
  by_contra isFresh
  rw [placed.fresh e (Nat.not_lt.mp isFresh)] at progress
  exact progress rfl

include invariant in
theorem ordered_append (contents : queue.contents = s.contents l ++ [(slot, s.entryTotal)]) :
    (s.append key l signal slot queue).Ordered := by
  have placed := invariant.placed
  have ordered := invariant.ordered
  have blank := placed.fresh s.entryTotal (Nat.le_refl _)
  unfold append
  constructor
  case sorted =>
    intro other
    have old := ordered.sorted other
    dsimp only [Coordinator.contents] at old contents ⊢
    by_cases same : other = l
    · subst same
      rw [update_self]
      rw [contents, map_append, pairwise_append]
      refine ⟨old, by simp, ?_⟩
      intro first inside last isNew
      simp only [map_cons, map_nil, mem_singleton] at isNew
      rw [isNew]
      exact known_of_contents placed inside
    · rwa [update_of_ne same]
  case beforeQueued =>
    intro first other
    have old := ordered.beforeQueued first other
    have isKnown : (s.entry first).progress ≠ .waiting → _ := known_of_progress placed
    grind [update_apply]
  case beforeActive =>
    intro first other
    have old := ordered.beforeActive first other
    grind [update_apply, Progress.isActive]
  case started =>
    intro other
    have old := ordered.started other
    grind [update_apply, blankEntry]
  case startedOrder =>
    have isKnown : ∀ e ∈ s.started, e < s.entryTotal := fun e member =>
      known_of_progress placed ((ordered.started e).mp member).1
    dsimp only
    refine .imp_of_mem ?_ ordered.startedOrder
    intro first later firstIn laterIn
    rw [update_of_ne (Nat.ne_of_lt (isKnown first firstIn)),
      update_of_ne (Nat.ne_of_lt (isKnown later laterIn))]
    exact id

theorem whole_append (whole : s.Whole) (member : (key, l) ∈ s.lanes)
    (capacity : queue.capacity = (s.lane l).queue.capacity)
    (contents : queue.contents = s.contents l ++ [(slot, s.entryTotal)]) :
    (s.append key l signal slot queue).Whole := by
  have invariant := whole.invariant
  have inside : l ∈ s.current := mem_map.mpr ⟨_, member, rfl⟩
  constructor
  · refine ⟨mapped_append invariant.mapped member capacity,
      placed_append invariant member contents, ordered_append invariant contents, ?_, ?_, ?_, ?_⟩
    · have total : (s.append key l signal slot queue).queuedTotal + _ = _ :=
        queuedTotal_update invariant.mapped inside rfl rfl
      rw [contents, length_append] at total
      have counted := invariant.counted
      change s.queuedCount + 1 = ((s.append key l signal slot queue).queuedTotal : Int)
      simp only [length_cons, length_nil] at total
      omega
    · intro other
      have old := invariant.unanswered other
      unfold append
      grind [update_apply]
    · intro other
      have old := invariant.fenced other
      unfold append
      grind [update_apply]
    · exact invariant.quiet
  · intro other isKnown
    have old := whole.accounted other
    unfold Accounted Refused append at *
    grind [update_apply]

theorem refused_append (refused : s.Refused other) :
    (s.append key l signal slot queue).Refused other := by
  obtain ⟨isKnown, rest⟩ := refused
  unfold Refused append
  dsimp only
  rw [update_of_ne (Nat.ne_of_lt isKnown)]
  exact ⟨Nat.lt_succ_of_lt isKnown, rest⟩

end

end

end Coordinator

end LicoMesh.StateCoordinator
