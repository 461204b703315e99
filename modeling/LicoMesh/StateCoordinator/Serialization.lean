import LicoMesh.Library.Path
import LicoMesh.StateCoordinator.Lanes

namespace LicoMesh.StateCoordinator

open List Option Function MutationQueue Progress

open Library
open Function (update)

/-! Every reachable coordinator runs the tasks of a key one after the other, loses none and keeps its
counters. -/

variable {s next : Coordinator} {signal : Option Nat} {l e : Nat} {key : String}
  {lane : MutationLane}

namespace Coordinator

section

variable {s : Coordinator}

structure Moves (s next : Coordinator) : Prop where
  sound : next.Sound
  refused : ∀ e, s.Refused e → next.Refused e
  started : next.started = s.started

theorem Moves.refl (sound : s.Sound) : s.Moves s := ⟨sound, fun _ => id, rfl⟩

theorem Settles.moves (settles : s.Settles next l) (others : ∀ other ≠ l, s.Manned other)
    (manned : next.Manned l) (global : s.queuedCount ≤ s.policy.maxQueuedGlobal)
    (active : s.lanes.length ≤ s.policy.maxActiveLanes) : s.Moves next where
  sound :=
    { whole := settles.whole
      manned := fun other => by
        by_cases same : other = l
        · exact same ▸ manned
        · exact settles.manned other same (others other same)
      global := by
        rw [settles.policy]
        exact Int.le_trans settles.count global
      active := by
        rw [settles.policy]
        exact Nat.le_trans settles.lanes.length_le active }
  refused := settles.refused
  started := settles.started

theorem owns_of_entry (placed : s.Placed) (isKnown : e < s.entryTotal) :
    s.Owns (s.entry e).key (s.entry e).lane :=
  ⟨(placed.owned e isKnown).1, (placed.owned e isKnown).2⟩

theorem owns_of_mem (mapped : s.Mapped) (member : (key, l) ∈ s.lanes) : s.Owns key l :=
  ⟨mapped.known l (mem_map.mpr ⟨_, member, rfl⟩), fun _ found =>
    key_unique mapped found member⟩

theorem refuse_none (accepted : s.refuse key signal = none) :
    s.queuedCount < s.policy.maxQueuedGlobal ∧
      (∀ l, s.lanes.lookup key = some l → (s.lane l).queue.size < s.policy.maxQueuedPerLane) ∧
      (s.lanes.lookup key = none → s.lanes.length < s.policy.maxActiveLanes) := by
  unfold refuse at accepted
  cases found : s.lanes.lookup key with
  | none =>
    grind
  | some l =>
    grind

theorem ensureLane_spec (sound : s.Sound) (accepted : s.refuse key signal = none) :
    s.Ensured (s.ensureLane key).1 key (s.ensureLane key).2 := by
  obtain ⟨_, perLane, lanes⟩ := refuse_none accepted
  cases found : s.lanes.lookup key with
  | none =>
    obtain ⟨eq, ensured⟩ := ensureLane_of_missing sound found (lanes found)
    rw [eq]
    exact ensured
  | some l =>
    obtain ⟨eq, ensured⟩ := ensureLane_of_lookup sound found (perLane l found)
    rw [eq]
    exact ensured

theorem moves_queueStateMutation (sound : s.Sound) (key : String) (signal : Option Nat) :
    s.Moves (s.queueStateMutation key signal).1 := by
  unfold queueStateMutation
  generalize normalizeKey key = key
  dsimp only
  cases accepted : s.refuse key signal with
  | some error => exact Moves.refl sound
  | none =>
    have ensured := ensureLane_spec sound accepted
    obtain ⟨global, _⟩ := refuse_none accepted
    generalize s.ensureLane key = made at ensured
    obtain ⟨next, l⟩ := made
    have same : (next.createEntry key l signal).lane l = next.lane l := rfl
    rw [same, ← ensured.entryTotal]
    obtain ⟨⟨slot, queue⟩, enqueued⟩ := isSome_iff_exists.mp
      (enqueue_isSome next.entryTotal ensured.room)
    obtain ⟨contents, capacity⟩ := enqueue_contents enqueued
    rw [enqueued]
    dsimp only [createEntry, updateLane, updateEntry]
    rw [update_self, update_idem]
    change s.Moves ((next.append key l signal slot queue).startNextMutation key l)
    have whole : (next.append key l signal slot queue).Whole :=
      whole_append ensured.sound.whole ensured.member capacity contents
    have owns : (next.append key l signal slot queue).Owns key l :=
      owns_of_mem whole.invariant.mapped ensured.member
    obtain ⟨settles, manned⟩ := settles_startNextMutation whole owns
    have moves := settles.moves
      (by
        intro other different
        unfold Manned Coordinator.contents append
        dsimp only
        rw [update_of_ne different]
        exact ensured.sound.manned other)
      manned
      (by
        change next.queuedCount + 1 ≤ next.policy.maxQueuedGlobal
        rw [ensured.queuedCount, ensured.policy]
        exact global)
      ensured.sound.active
    refine ⟨moves.sound, ?_, ?_⟩
    · intro e refused
      apply moves.refused e
      apply refused_append
      unfold Refused at refused ⊢
      rwa [ensured.entry, ensured.entryTotal]
    · rw [moves.started]
      exact ensured.started

theorem moves_cancelQueued (sound : s.Sound) (e : Nat) (error : StateMutationError) :
    s.Moves (s.cancelQueued e error) := by
  have placed := sound.whole.invariant.placed
  unfold cancelQueued
  cases slot : (s.entry e).slot with
  | none => exact .refl sound
  | some slot' =>
    dsimp only
    cases removed : (s.lane (s.entry e).lane).queue.remove slot' with
    | none => exact .refl sound
    | some taken =>
      obtain ⟨other, queue⟩ := taken
      obtain ⟨before, after, whole, rest, capacity⟩ := remove_some removed
      have inside : (slot', e) ∈ s.contents (s.entry e).lane :=
        (placed.queued _ slot' e).mpr ⟨slot, rfl⟩
      have same : other = e := by
        have member : (slot', other) ∈ s.contents (s.entry e).lane := by
          unfold contents
          rw [whole]
          simp
        have nodup : ((s.contents (s.entry e).lane).map Prod.fst).Nodup := slots_nodup
        have equal := inj_on_of_nodup_map nodup member inside rfl
        exact congrArg Prod.snd equal
      subst same
      have isKnown : other < s.entryTotal := by
        by_contra isFresh
        rw [placed.fresh other (Nat.not_lt.mp isFresh)] at slot
        cases slot
      have rejected := settles_reject sound.whole ⟨⟨before, slot', after, whole, rest⟩, capacity⟩
        error
      have owns := rejected.owns (owns_of_entry placed isKnown)
      have settled := settles_settleLaneIfIdle rejected.whole owns
      refine (rejected.trans settled).moves (fun lane _ => sound.manned lane) ?_ sound.global
        sound.active
      apply manned_settleLaneIfIdle rejected.whole.invariant owns
      have active := sound.manned (s.entry other).lane (by
        intro empty
        rw [empty] at inside
        cases inside)
      intro _
      change ((s.leaveQueue (s.entry other).lane queue other).lane _).active ≠ none
      rwa [active_leaveQueue]

structure SameTask (s : Coordinator) (l : Nat) (lane : MutationLane) : Prop where
  active : lane.active = (s.lane l).active
  queue : lane.queue = (s.lane l).queue
  poison : ∀ e, lane.poison = some e → lane.active = some e
  settled : (s.lane l).idle ≠ .pending → lane.idle ≠ .pending
  unsettled : (s.lane l).idle ≠ .resolved → lane.idle ≠ .resolved

theorem contents_updateLane (same : s.SameTask l lane) (other : Nat) :
    (s.updateLane l lane).contents other = s.contents other := by
  have queue := same.queue
  unfold contents updateLane
  grind [update_apply]

theorem active_updateLane (same : s.SameTask l lane) (other : Nat) :
    ((s.updateLane l lane).lane other).active = (s.lane other).active := by
  have active := same.active
  unfold updateLane
  grind [update_apply]

theorem mapped_updateLane (mapped : s.Mapped) (same : s.SameTask l lane) :
    (s.updateLane l lane).Mapped := by
  have active := same.active
  have queue := same.queue
  have poison := same.poison
  have settled := same.settled
  have unsettled := same.unsettled
  constructor
  case keys => exact mapped.keys
  case ids => exact mapped.ids
  case known => exact mapped.known
  case dropped =>
    intro other outside
    have old := mapped.dropped other outside
    rw [contents_updateLane same, active_updateLane same]
    refine ⟨old.1, ?_, old.2.2⟩
    unfold updateLane
    dsimp only
    by_cases here : other = l
    · subst here
      rw [update_self]
      by_contra poisoned
      obtain ⟨e, isPoison⟩ := ne_none_iff_exists'.mp poisoned
      have isActive := poison e isPoison
      rw [active, old.1] at isActive
      cases isActive
    · rw [update_of_ne here]
      exact old.2.1
  case settled =>
    intro other isKnown outside
    have old := mapped.settled other isKnown outside
    unfold updateLane
    grind [update_apply]
  case unsettled =>
    intro other inside
    have old := mapped.unsettled other inside
    unfold updateLane
    grind [update_apply]
  case poison =>
    intro other e
    have old := mapped.poison other e
    unfold updateLane
    grind [update_apply]
  case capacity =>
    intro other
    have old := mapped.capacity other
    unfold updateLane
    grind [update_apply]

theorem invariant_updateLane (invariant : s.Invariant) (same : s.SameTask l lane) :
    (s.updateLane l lane).Invariant := by
  have placed := invariant.placed
  constructor
  case mapped => exact mapped_updateLane invariant.mapped same
  case placed =>
    refine ⟨?_, ?_, placed.home, placed.owned, placed.fresh, placed.credit⟩
    · intro other slot e
      rw [contents_updateLane same]
      exact placed.queued other slot e
    · intro other e
      rw [active_updateLane same]
      exact placed.active other e
  case ordered =>
    obtain ⟨sorted, beforeQueued, beforeActive, started, startedOrder⟩ := invariant.ordered
    refine ⟨fun other => ?_, beforeQueued, beforeActive, started, startedOrder⟩
    rw [contents_updateLane same]
    exact sorted other
  case counted =>
    unfold queuedTotal
    simp only [contents_updateLane same]
    exact invariant.counted
  case unanswered => exact invariant.unanswered
  case fenced => exact invariant.fenced
  case quiet => exact invariant.quiet

theorem sound_updateLane (sound : s.Sound) (same : s.SameTask l lane) :
    (s.updateLane l lane).Sound where
  whole := ⟨invariant_updateLane sound.whole.invariant same, sound.whole.accounted⟩
  manned other := by
    unfold Manned
    rw [contents_updateLane same, active_updateLane same]
    exact sound.manned other
  global := sound.global
  active := sound.active

theorem slot_of_progress (invariant : s.Invariant) (progress : (s.entry e).progress ≠ .waiting) :
    (s.entry e).slot = none := by
  by_contra queued
  exact progress (invariant.unanswered e queued).1

theorem moves_updateEntry (entry : MutationEntry) (sound : s.Sound)
    (progress : (s.entry e).progress ≠ .waiting) (same : SamePlace (s.entry e) entry)
    (waiting : entry.progress ≠ .waiting)
    (scheduled : entry.progress = .scheduled ↔ (s.entry e).progress = .scheduled) :
    s.Moves (s.updateEntry e entry) := by
  have invariant := sound.whole.invariant
  have isKnown := known_of_progress invariant.placed progress
  have slot := slot_of_progress invariant progress
  have refused : ∀ other, s.Refused other → (s.updateEntry e entry).Refused other := by
    intro other
    unfold Refused updateEntry
    grind [update_apply]
  refine ⟨⟨⟨?_, ?_⟩, sound.manned, sound.global, sound.active⟩, refused, rfl⟩
  · exact invariant_updateEntry invariant isKnown same (iff_of_false waiting progress) scheduled
      slot fun _ => waiting
  · intro other isOther
    have old := sound.whole.accounted other isOther
    unfold Accounted Refused updateEntry at *
    grind [update_apply]

theorem moves_fenceActiveEntry (sound : s.Sound) (e : Nat) (error : StateMutationError) :
    s.Moves (s.fenceActiveEntry e error) := by
  have placed := sound.whole.invariant.placed
  unfold fenceActiveEntry
  dsimp only
  split
  · exact .refl sound
  · rename_i fences
    rw [not_or, not_not] at fences
    have active := ((placed.active _ e).mp fences.1).1
    have progress : (s.entry e).progress ≠ .waiting := by
      intro waiting
      rw [waiting] at active
      cases active
    have same : s.SameTask (s.entry e).lane
        { s.lane (s.entry e).lane with poison := some e } := by
      refine ⟨rfl, rfl, ?_, id, id⟩
      intro other poisoned
      cases poisoned
      exact fences.1
    have moves := moves_updateEntry { s.entry e with terminalError := some error, fencing := true }
      (sound_updateLane sound same) progress ⟨rfl, rfl, rfl, rfl, rfl⟩ progress Iff.rfl
    exact ⟨moves.sound, moves.refused, moves.started⟩

theorem Moves.trans (first : s.Moves middle) (second : middle.Moves next) : s.Moves next :=
  ⟨second.sound, fun e refused => second.refused e (first.refused e refused),
    second.started.trans first.started⟩

theorem moves_rejectIdle (sound : s.Sound) (l : Nat) : s.Moves (s.rejectIdle l) := by
  unfold rejectIdle
  split
  · have same : s.SameTask l { s.lane l with idle := .rejected } :=
      ⟨rfl, rfl, sound.whole.invariant.mapped.poison l, (fun _ settled => by cases settled),
        (fun _ resolved => by cases resolved)⟩
    exact ⟨sound_updateLane sound same, fun _ => id, rfl⟩
  · exact .refl sound

theorem moves_fenceRest (sound : s.Sound) (e : Nat) : s.Moves (s.fenceRest e) := by
  have invariant := sound.whole.invariant
  unfold fenceRest
  split
  · rename_i error fencing terminal
    dsimp only
    have progress := invariant.fenced e fencing
    have owns := owns_of_entry invariant.placed (known_of_progress invariant.placed progress)
    have answered := moves_updateEntry
      { s.entry e with
        fencing := false, answers := (s.entry e).answers ++ [.rejected error] }
      sound progress ⟨rfl, rfl, rfl, rfl, rfl⟩ progress Iff.rfl
    have eq : (s.updateEntry e { s.entry e with fencing := false }).answer e (.rejected error) =
        s.updateEntry e { s.entry e with
          fencing := false, answers := (s.entry e).answers ++ [.rejected error] } := by
      simp [answer, updateEntry]
    rw [eq]
    obtain ⟨settles, manned⟩ :=
      settles_rejectQueuedMutations answered.sound.whole ⟨owns.known, owns.key⟩
    have rejected := settles.moves (fun other _ => answered.sound.manned other) manned
      answered.sound.global answered.sound.active
    exact (answered.trans rejected).trans (moves_rejectIdle rejected.sound _)
  · exact .refl sound

theorem moves_endTask (sound : s.Sound) (e : Nat) (fails : Bool) : s.Moves (s.endTask e fails) := by
  unfold endTask
  split
  · rename_i running
    apply moves_updateEntry _ sound (by simp [running])
    · exact ⟨rfl, rfl, rfl, rfl, by simp [running, isActive]⟩
    · simp
    · simp [running]
  · exact .refl sound

theorem moves_answerTask (sound : s.Sound) (e : Nat) : s.Moves (s.answerTask e) := by
  unfold answerTask
  split
  · rename_i fails ended
    have answered : ∀ answers, s.Moves
        (s.updateEntry e { s.entry e with progress := .answered, answers := answers }) := by
      intro answers
      apply moves_updateEntry _ sound (by simp [ended])
      · exact ⟨rfl, rfl, rfl, rfl, by simp [ended, isActive]⟩
      · simp
      · simp [ended]
    split
    · exact answered _
    · have eq : ∀ given, (s.updateEntry e { s.entry e with progress := .answered }).answer e given =
          s.updateEntry e { s.entry e with
            progress := .answered, answers := (s.entry e).answers ++ [given] } := by
        intro given
        simp [answer, updateEntry]
      rw [eq]
      exact answered _
  all_goals exact .refl sound

def finished (s : Coordinator) (e : Nat) : Coordinator :=
  let finished := s.updateEntry e { s.entry e with progress := .finished }
  finished.updateLane (s.entry e).lane
    { finished.lane (s.entry e).lane with active := none, poison := none }

theorem whole_finished (whole : s.Whole) (answered : (s.entry e).progress = .answered) :
    (s.finished e).Whole := by
  have invariant := whole.invariant
  obtain ⟨mapped, placed, ordered, counted, unanswered, fenced, quiet⟩ := invariant
  have isActive : (s.entry e).progress.isActive = true := by rw [answered]; rfl
  have active := (placed.active (s.entry e).lane e).mpr ⟨isActive, rfl⟩
  have alone : ∀ other, (s.entry other).lane = (s.entry e).lane →
      (s.entry other).progress.isActive = true → other = e := by
    intro other same otherActive
    have there := (placed.active (s.entry e).lane other).mpr ⟨otherActive, same⟩
    rw [active] at there
    exact (some.inj there).symm
  have contents : ∀ other, (s.finished e).contents other = s.contents other := by
    intro other
    unfold finished Coordinator.contents updateLane updateEntry
    dsimp only
    grind [update_apply]
  have poison := mapped.poison
  constructor
  · constructor
    case mapped =>
      constructor
      case keys => exact mapped.keys
      case ids => exact mapped.ids
      case known => exact mapped.known
      case dropped =>
        intro other outside
        have old := mapped.dropped other outside
        rw [contents]
        unfold finished updateLane updateEntry
        dsimp only
        grind [update_apply]
      case settled =>
        intro other isKnown outside
        have old := mapped.settled other isKnown outside
        unfold finished updateLane updateEntry
        grind [update_apply]
      case unsettled =>
        intro other inside
        have old := mapped.unsettled other inside
        unfold finished updateLane updateEntry
        grind [update_apply]
      case poison =>
        intro other held
        have old := poison other held
        unfold finished updateLane updateEntry
        grind [update_apply]
      case capacity =>
        intro other
        have old := mapped.capacity other
        unfold finished updateLane updateEntry
        grind [update_apply]
    case placed =>
      constructor
      case queued =>
        intro other slot held
        have old := placed.queued other slot held
        rw [contents]
        unfold finished updateLane updateEntry
        grind [update_apply]
      case active =>
        intro other held
        have old := placed.active other held
        unfold finished updateLane updateEntry
        dsimp only
        by_cases sameEntry : held = e
        · subst sameEntry
          by_cases sameLane : other = (s.entry held).lane
          · subst sameLane
            simp [Progress.isActive]
          · simp [sameLane, Progress.isActive]
            grind
        · rw [update_of_ne sameEntry]
          by_cases sameLane : other = (s.entry e).lane
          · subst sameLane
            grind
          · rw [update_of_ne sameLane]
            exact old
      case home =>
        intro other
        have old := placed.home other
        unfold finished updateLane updateEntry
        grind [update_apply, Progress.isActive]
      case owned =>
        intro other isKnown
        have old := placed.owned other isKnown
        unfold finished updateLane updateEntry
        grind [update_apply]
      case fresh =>
        intro other isFresh
        have old := placed.fresh other isFresh
        unfold finished updateLane updateEntry
        grind [update_apply, blankEntry]
      case credit =>
        intro other
        have old := placed.credit other
        unfold finished updateLane updateEntry
        grind [update_apply]
    case ordered =>
      constructor
      case sorted =>
        intro other
        rw [contents]
        exact ordered.sorted other
      case beforeQueued =>
        intro first other
        have old := ordered.beforeQueued first other
        unfold finished updateLane updateEntry
        grind [update_apply]
      case beforeActive =>
        intro first other
        have old := ordered.beforeActive first other
        unfold finished updateLane updateEntry
        grind [update_apply, Progress.isActive]
      case started =>
        intro other
        have old := ordered.started other
        unfold finished updateLane updateEntry
        grind [update_apply]
      case startedOrder =>
        apply ordered.startedOrder.imp
        intro first later
        unfold finished updateLane updateEntry
        grind [update_apply]
    case counted =>
      unfold queuedTotal
      simp only [contents]
      exact counted
    case unanswered =>
      intro other
      unfold finished updateLane updateEntry
      grind [update_apply]
    case fenced =>
      intro other
      unfold finished updateLane updateEntry
      grind [update_apply]
    case quiet => exact quiet
  · intro other isKnown
    have old := whole.accounted other isKnown
    unfold Accounted Refused finished updateLane updateEntry at *
    grind [update_apply]

theorem moves_finishTask (sound : s.Sound) (e : Nat) : s.Moves (s.finishTask e) := by
  unfold finishTask
  split
  · rename_i answered
    have placed := sound.whole.invariant.placed
    have active := (placed.active (s.entry e).lane e).mpr ⟨by rw [answered]; rfl, rfl⟩
    have poison : (if (s.lane (s.entry e).lane).poison = some e then none
        else (s.lane (s.entry e).lane).poison) = none := by
      split
      · rfl
      · rename_i other
        by_contra poisoned
        obtain ⟨p, isPoison⟩ := ne_none_iff_exists'.mp poisoned
        have same := sound.whole.invariant.mapped.poison _ p isPoison
        rw [active] at same
        cases same
        exact other isPoison
    rw [if_neg (by simp [active]), poison]
    have isKnown := known_of_progress placed (by rw [answered]; decide)
    have owns := owns_of_entry placed isKnown
    have whole := whole_finished sound.whole answered
    obtain ⟨settles, manned⟩ := settles_startNextMutation whole ⟨owns.known, owns.key⟩
    have moves := settles.moves
      (by
        intro other different
        have old := sound.manned other
        unfold Manned Coordinator.contents finished updateLane updateEntry at *
        dsimp only
        rwa [update_of_ne different])
      manned sound.global sound.active
    refine ⟨moves.sound, fun other refused => moves.refused other ?_, moves.started⟩
    unfold Refused finished updateLane updateEntry at *
    grind [update_apply]
  · exact .refl sound

theorem alone_of_active (invariant : s.Invariant)
    (same : (s.entry other).key = (s.entry e).key) (active : (s.entry e).progress.isActive = true)
    (otherActive : (s.entry other).progress.isActive = true) : other = e := by
  have placed := invariant.placed
  have here := placed.home e (.inr active)
  have there := placed.home other (.inr otherActive)
  rw [same] at there
  have lane := lane_unique invariant.mapped there here
  have first := (placed.active (s.entry e).lane e).mpr ⟨active, rfl⟩
  have second := (placed.active (s.entry e).lane other).mpr ⟨otherActive, lane⟩
  rw [first] at second
  exact (some.inj second).symm

theorem not_started_of_scheduled (ordered : s.Ordered)
    (scheduled : (s.entry e).progress = .scheduled) : e ∉ s.started :=
  fun member => ((ordered.started e).mp member).2 scheduled

theorem ordered_startTask (ordered : s.Ordered) (scheduled : (s.entry e).progress = .scheduled) :
    ({ s.updateEntry e { s.entry e with progress := .running } with
      started := s.started ++ [e] } : Coordinator).Ordered := by
  have isActive : (s.entry e).progress.isActive = true := by rw [scheduled]; rfl
  have fresh := not_started_of_scheduled ordered scheduled
  unfold updateEntry
  constructor
  case sorted => exact ordered.sorted
  case beforeQueued =>
    intro first other
    have old := ordered.beforeQueued first other
    grind [update_apply]
  case beforeActive =>
    intro first other
    have old := ordered.beforeActive first other
    grind [update_apply, isActive]
  case started =>
    intro other
    have old := ordered.started other
    grind [update_apply]
  case startedOrder =>
    have keys : ∀ other, (update s.entry e
        { s.entry e with progress := .running } other).key = (s.entry other).key := by
      intro other
      grind [update_apply]
    simp only [keys]
    rw [pairwise_append]
    refine ⟨ordered.startedOrder, pairwise_singleton _ _, ?_⟩
    intro first member last isLast same
    rw [mem_singleton] at isLast
    subst isLast
    have before := ordered.beforeActive first last same ((ordered.started first).mp member).1
      isActive
    exact Nat.lt_of_le_of_ne before fun equal => fresh (equal ▸ member)

theorem startTask_spec (sound : s.Sound) (e : Nat) :
    (s.startTask e).Sound ∧ ∀ other, s.Refused other → (s.startTask e).Refused other := by
  unfold startTask
  split
  · rename_i scheduled
    have progress : (s.entry e).progress ≠ .waiting := by simp [scheduled]
    have invariant := sound.whole.invariant
    have isKnown := known_of_progress invariant.placed progress
    have refused : ∀ other, s.Refused other →
        ({ s.updateEntry e { s.entry e with progress := .running } with
          started := s.started ++ [e] } : Coordinator).Refused other := by
      intro other
      unfold Refused updateEntry
      grind [update_apply]
    refine ⟨⟨⟨?_, ?_⟩, sound.manned, sound.global, sound.active⟩, refused⟩
    · constructor
      case mapped =>
        obtain ⟨keys, ids, known, dropped, settled, unsettled, poison, capacity⟩ := invariant.mapped
        exact ⟨keys, ids, known, dropped, settled, unsettled, poison, capacity⟩
      case placed =>
        have placed : (s.updateEntry e { s.entry e with progress := .running }).Placed := by
          apply placed_updateEntry invariant.placed _ isKnown
          exact ⟨rfl, rfl, rfl, rfl, by simp [scheduled, isActive]⟩
        exact ⟨placed.queued, placed.active, placed.home, placed.owned, placed.fresh, placed.credit⟩
      case ordered => exact ordered_startTask invariant.ordered scheduled
      case counted => exact invariant.counted
      case unanswered =>
        intro other
        have old := invariant.unanswered other
        unfold updateEntry
        grind [update_apply]
      case fenced =>
        intro other
        have old := invariant.fenced other
        unfold updateEntry
        grind [update_apply]
      case quiet => exact invariant.quiet
    · intro other isOther
      have old := sound.whole.accounted other isOther
      unfold Accounted Refused updateEntry at *
      grind [update_apply]
  · exact ⟨sound, fun _ => id⟩

theorem moves_resolution (sound : s.Sound) (quiet : s.isBusy key = false) :
    s.Moves { s with resolutions := s.isBusy key :: s.resolutions } := by
  obtain ⟨⟨⟨mapped, placed, ordered, counted, unanswered, fenced, resolved⟩, accounted⟩, manned,
    global, active⟩ := sound
  refine ⟨⟨⟨⟨?_, ?_, ?_, counted, unanswered, fenced, ?_⟩, accounted⟩, manned, global, active⟩,
    fun _ => id, rfl⟩
  · exact ⟨mapped.keys, mapped.ids, mapped.known, mapped.dropped, mapped.settled,
      mapped.unsettled, mapped.poison, mapped.capacity⟩
  · exact ⟨placed.queued, placed.active, placed.home, placed.owned, placed.fresh, placed.credit⟩
  · exact ⟨ordered.sorted, ordered.beforeQueued, ordered.beforeActive, ordered.started,
      ordered.startedOrder⟩
  · intro busy member
    rcases mem_cons.mp member with now | earlier
    · exact now.trans quiet
    · exact resolved busy earlier

theorem moves_waitForStateIdle (sound : s.Sound) (key : String) :
    s.Moves (s.waitForStateIdle key) := by
  have invariant := sound.whole.invariant
  unfold waitForStateIdle
  generalize normalizeKey key = key
  dsimp only
  split
  · exact .refl sound
  split
  · rename_i missing
    apply moves_resolution sound
    rw [isBusy_eq_false]
    intro e isKnown same
    by_contra busy
    rw [not_and_or] at busy
    have home := invariant.placed.home e (busy.imp id (by simp))
    rw [same] at home
    exact not_mem_of_lookup missing _ home
  · rename_i l found
    split
    · exact .refl sound
    · split
      · rename_i resolved
        have inside : l ∈ s.current := mem_map.mpr ⟨_, mem_of_lookup found, rfl⟩
        exact absurd resolved (invariant.mapped.unsettled l inside)
      · exact .refl sound

end

end Coordinator

open Coordinator

theorem step_sound (sound : s.Sound) (event : Event) :
    (step s event).Sound ∧ ∀ e, s.Refused e → (step s event).Refused e := by
  have of_moves : ∀ {next : Coordinator}, s.Moves next →
      next.Sound ∧ ∀ e, s.Refused e → next.Refused e := fun moves => ⟨moves.sound, moves.refused⟩
  cases event with
  | queue key signal => exact of_moves (moves_queueStateMutation sound key signal)
  | wait key => exact of_moves (moves_waitForStateIdle sound key)
  | abort signal =>
    obtain ⟨⟨⟨mapped, placed, ordered, counted, unanswered, fenced, resolved⟩, accounted⟩, manned,
      global, active⟩ := sound
    refine ⟨⟨⟨⟨?_, ?_, ?_, counted, unanswered, fenced, resolved⟩, accounted⟩, manned, global,
      active⟩, fun _ => id⟩
    · exact ⟨mapped.keys, mapped.ids, mapped.known, mapped.dropped, mapped.settled,
        mapped.unsettled, mapped.poison, mapped.capacity⟩
    · exact ⟨placed.queued, placed.active, placed.home, placed.owned, placed.fresh,
        placed.credit⟩
    · exact ⟨ordered.sorted, ordered.beforeQueued, ordered.beforeActive, ordered.started,
        ordered.startedOrder⟩
  | queueWaitTimeout e => exact of_moves (moves_cancelQueued sound e queueWaitTimeoutError)
  | queueAbort e => exact of_moves (moves_cancelQueued sound e queueAbortedError)
  | executionTimeout e => exact of_moves (moves_fenceActiveEntry sound e timeoutError)
  | activeAbort e => exact of_moves (moves_fenceActiveEntry sound e activeAbortedError)
  | fenceRest e => exact of_moves (moves_fenceRest sound e)
  | startTask e => exact startTask_spec sound e
  | endTask e fails => exact of_moves (moves_endTask sound e fails)
  | answerTask e => exact of_moves (moves_answerTask sound e)
  | finishTask e => exact of_moves (moves_finishTask sound e)

theorem initial_sound (policy : StateMutationPolicy) :
    (createStateMutationCoordinator policy).Sound := by
  constructor
  case whole =>
    constructor
    · constructor
      case mapped =>
        refine ⟨nodup_nil, nodup_nil, ?_, fun _ _ => ⟨rfl, rfl, rfl⟩, ?_, ?_, ?_,
          fun _ => rfl⟩
        · intro l inside
          cases inside
        · intro l isKnown
          cases isKnown
        · intro l inside
          cases inside
        · intro l e poisoned
          cases poisoned
      case placed =>
        refine ⟨?_, ?_, ?_, ?_, fun _ _ => rfl, ?_⟩
        · intro l slot e
          exact iff_of_false (fun inside => by cases inside) (fun held => by cases held.1)
        · intro l e
          exact iff_of_false (fun active => by cases active) (fun active => by cases active.1)
        · intro e busy
          exact busy.elim (fun queued => absurd rfl queued) (fun active => by cases active)
        · intro e isKnown
          cases isKnown
        · intro e
          exact iff_of_false (fun held => by cases held) (fun queued => queued rfl)
      case ordered =>
        refine ⟨fun _ => .nil, ?_, ?_, ?_, .nil⟩
        · intro e other _ progress
          exact absurd rfl progress
        · intro e other _ progress
          exact absurd rfl progress
        · intro e
          exact iff_of_false (fun member => by cases member) (fun progress => progress.1 rfl)
      case counted => rfl
      case unanswered =>
        intro e queued
        exact absurd rfl queued
      case fenced =>
        intro e fencing
        cases fencing
      case quiet =>
        intro busy member
        cases member
    · intro e isKnown
      cases isKnown
  case manned =>
    intro l queued
    exact absurd rfl queued
  case global => exact Int.natCast_nonneg _
  case active => exact Nat.zero_le _

namespace Coordinator

/-- The entry waits behind a task of its key that is not over. -/
def IsQueued (s : Coordinator) (e : Nat) : Prop :=
  e ∈ (s.contents (s.entry e).lane).map Prod.snd ∧
    ((s.entry e).key, (s.entry e).lane) ∈ s.lanes ∧ (s.entry e).answers = [] ∧
    ∃ task, (s.lane (s.entry e).lane).active = some task ∧
      (s.entry task).progress.isActive = true ∧ (s.entry task).key = (s.entry e).key

structure Serialized (s : Coordinator) : Prop where
  exclusive : ∀ e other, (s.entry e).key = (s.entry other).key →
    (s.entry e).progress.isActive = true → (s.entry other).progress.isActive = true → e = other
  ordered : s.started.Pairwise fun e later =>
    (s.entry e).key = (s.entry later).key → e < later
  once : s.started.Nodup
  accounted : ∀ e < s.entryTotal,
    s.IsQueued e ∨ (s.entry e).progress = .scheduled ∨ e ∈ s.started ∨ s.Refused e
  unstarted : ∀ e, s.IsQueued e ∨ (s.entry e).progress = .scheduled ∨ s.Refused e →
    e ∉ s.started
  counted : s.queuedCount =
    ((s.lanes.map fun mapped => (s.lane mapped.2).queue.size).sum : Nat)
  global : s.queuedCount ≤ s.policy.maxQueuedGlobal
  perLane : ∀ mapped ∈ s.lanes, (s.lane mapped.2).queue.size ≤ s.policy.maxQueuedPerLane
  lanes : s.lanes.length ≤ s.policy.maxActiveLanes
  dropped : ∀ l, l ∉ s.lanes.map Prod.snd → s.Idle l
  quiet : ∀ busy ∈ s.resolutions, busy = false

theorem isQueued_of_slot (sound : s.Sound) (queued : (s.entry e).slot ≠ none) : s.IsQueued e := by
  have invariant := sound.whole.invariant
  have placed := invariant.placed
  obtain ⟨slot, held⟩ := ne_none_iff_exists'.mp queued
  have inside := (placed.queued (s.entry e).lane slot e).mpr ⟨held, rfl⟩
  have home := placed.home e (.inl queued)
  have manned := sound.manned (s.entry e).lane fun empty => by
    rw [empty] at inside
    cases inside
  obtain ⟨task, active⟩ := ne_none_iff_exists'.mp manned
  obtain ⟨isActive, lane⟩ := (placed.active _ task).mp active
  have taskHome := placed.home task (.inr isActive)
  rw [lane] at taskHome
  exact ⟨mem_map.mpr ⟨_, inside, rfl⟩, home, (invariant.unanswered e queued).2, task, active,
    isActive, key_unique invariant.mapped taskHome home⟩

theorem slot_of_isQueued (placed : s.Placed) (queued : s.IsQueued e) : (s.entry e).slot ≠ none := by
  obtain ⟨⟨slot, held⟩, inside, same⟩ := mem_map.mp queued.1
  subst same
  rw [((placed.queued _ slot held).mp inside).1]
  exact fun impossible => by cases impossible

theorem Sound.serialized (sound : s.Sound) : s.Serialized := by
  have invariant := sound.whole.invariant
  have ordered := invariant.ordered
  constructor
  case exclusive =>
    intro e other same active otherActive
    exact alone_of_active invariant same otherActive active
  case ordered => exact ordered.startedOrder
  case once =>
    apply ordered.startedOrder.imp
    intro e later before same
    subst same
    exact Nat.lt_irrefl _ (before rfl)
  case accounted =>
    intro e isKnown
    by_cases queued : (s.entry e).slot = none
    · right
      by_cases waiting : (s.entry e).progress = .waiting
      · exact Or.inr (Or.inr (sound.whole.accounted e isKnown queued waiting))
      · by_cases scheduled : (s.entry e).progress = .scheduled
        · exact Or.inl scheduled
        · exact Or.inr (Or.inl ((ordered.started e).mpr ⟨waiting, scheduled⟩))
    · exact Or.inl (isQueued_of_slot sound queued)
  case unstarted =>
    rintro e (queued | scheduled | refused) member
    · have slot := slot_of_isQueued invariant.placed queued
      exact ((ordered.started e).mp member).1 (invariant.unanswered e slot).1
    · exact ((ordered.started e).mp member).2 scheduled
    · exact ((ordered.started e).mp member).1 refused.2.2.1
  case counted =>
    rw [invariant.counted]
    unfold queuedTotal contents
    simp only [size_eq]
  case global => exact sound.global
  case perLane =>
    intro mapped _
    rw [← invariant.mapped.capacity]
    exact size_le _
  case lanes => exact sound.active
  case dropped =>
    intro l outside
    obtain ⟨active, poison, empty⟩ := invariant.mapped.dropped l outside
    exact ⟨active, poison, empty⟩
  case quiet => exact invariant.quiet

theorem Sound.starts_alone (sound : s.Sound)
    (starts : e ∈ (step s event).started) (isNew : e ∉ s.started) (earlier : other ∈ s.started)
    (same : (s.entry other).key = (s.entry e).key) : (s.entry other).progress = .finished := by
  have invariant := sound.whole.invariant
  have unchanged : ∀ {next : Coordinator}, s.Moves next → e ∉ next.started := by
    intro next moves
    rw [moves.started]
    exact isNew
  cases event with
  | queue key signal => exact absurd starts (unchanged (moves_queueStateMutation sound key signal))
  | wait key => exact absurd starts (unchanged (moves_waitForStateIdle sound key))
  | abort signal => exact absurd starts isNew
  | queueWaitTimeout e => exact absurd starts (unchanged (moves_cancelQueued sound e _))
  | queueAbort e => exact absurd starts (unchanged (moves_cancelQueued sound e _))
  | executionTimeout e => exact absurd starts (unchanged (moves_fenceActiveEntry sound e _))
  | activeAbort e => exact absurd starts (unchanged (moves_fenceActiveEntry sound e _))
  | fenceRest e => exact absurd starts (unchanged (moves_fenceRest sound e))
  | endTask e fails => exact absurd starts (unchanged (moves_endTask sound e fails))
  | answerTask e => exact absurd starts (unchanged (moves_answerTask sound e))
  | finishTask e => exact absurd starts (unchanged (moves_finishTask sound e))
  | startTask task =>
    dsimp only [step, startTask] at starts
    split at starts
    · rename_i scheduled
      rcases mem_append.mp starts with old | new
      · exact absurd old isNew
      rw [mem_singleton] at new
      subst new
      obtain ⟨waiting, notScheduled⟩ := (invariant.ordered.started other).mp earlier
      by_contra unfinished
      have otherActive : (s.entry other).progress.isActive = true := by
        cases progress : (s.entry other).progress with
        | waiting => exact absurd progress waiting
        | finished => exact absurd progress unfinished
        | scheduled | running | ended fails | answered => rfl
      have equal := alone_of_active invariant same (by rw [scheduled]; rfl) otherActive
      exact isNew (equal ▸ earlier)
    · exact absurd starts isNew

end Coordinator

theorem run_sound (policy : StateMutationPolicy) (events : List Event) :
    (runAll step (createStateMutationCoordinator policy) events).Sound := by
  have keeps : ∀ s event, Sound s → Sound (step s event) :=
    fun s event sound => (step_sound sound event).1
  exact runAll_invariant keeps (initial_sound policy) events

/-- Along every run the tasks of a key are called one after the other in the order in which they were
accepted, and none is lost. -/
theorem mutations_serialized (input : PolicyInput) (events : List Event) :
    let s := runAll step
      (createStateMutationCoordinator (normalizeStateMutationPolicy input)) events
    s.Serialized ∧
      (∀ event e other, e ∈ (step s event).started → e ∉ s.started → other ∈ s.started →
        (s.entry other).key = (s.entry e).key → (s.entry other).progress = .finished) ∧
      ∀ later e, s.Refused e → (runAll step s later).Refused e := by
  intro s
  have sound : s.Sound := run_sound _ events
  refine ⟨sound.serialized, ?_, ?_⟩
  · intro event e other starts isNew earlier same
    exact sound.starts_alone starts isNew earlier same
  · intro later e refused
    let kept := fun s : Coordinator => s.Sound ∧ s.Refused e
    have keeps : ∀ s event, kept s → kept (step s event) := by
      intro s event both
      obtain ⟨next, stays⟩ := step_sound both.1 event
      exact ⟨next, stays e both.2⟩
    have start : kept s := ⟨sound, refused⟩
    exact (runAll_invariant keeps start later).2

end LicoMesh.StateCoordinator
