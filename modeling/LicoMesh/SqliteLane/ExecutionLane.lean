import LicoMesh.Library.Path
import Mathlib.Algebra.GroupWithZero.Nat
import Mathlib.Data.List.Nodup

namespace LicoMesh.SqliteLane

open List

open Library

inductive LaneError
  | closed
  | crashed
  | commandRejected
  | payloadRejected
  | capacityExceeded
  | deadlineExceeded
  | notSerializable
  | remote (code : String)

/-- `bytes` is missing when the payload cannot be cloned or written as JSON. -/
structure Payload where
  isFunction : Bool := false
  hasSql : Bool := false
  hasPath : Bool := false
  bytes : Option Nat

structure Request where
  command : String
  payload : Payload

structure LaneOptions where
  allowedCommands : List String
  maxPending : Nat
  maxPendingBytes : Nat

structure PendingEntry where
  id : Nat
  bytes : Nat

inductive Outcome
  | resolved
  | rejected (error : LaneError)

/-- A call of `close` between its awaits. -/
inductive CloseCall
  | refused
  | requested (id : Nat)
  | awaitsExit

/-- `settlements` records every call of an entry's `resolve` or `reject`. -/
structure Lane where
  pending : List PendingEntry
  timers : List Nat
  sequence : Nat
  pendingBytes : Int
  closed : Bool
  crashed : Bool
  exitCode : Option Int
  closing : List CloseCall
  settlements : List (Nat × Outcome)

def createSqliteExecutionLane : Lane where
  pending := []
  timers := []
  sequence := 0
  pendingBytes := 0
  closed := false
  crashed := false
  exitCode := none
  closing := []
  settlements := []

/-- A reply that is `ok`, or the code of its error. -/
structure Reply where
  id : Nat
  error : Option String

inductive Event
  | execute (request : Request)
  | message (reply : Reply)
  | deadline (id : Nat)
  | error
  | exit (code : Int)
  | close
  | closeResumes (index : Nat)

namespace Lane

variable (lane : Lane)

def closedError : LaneError := if lane.crashed then .crashed else .closed

def findEntry (id : Nat) : Option PendingEntry := lane.pending.find? (·.id = id)

/-- `pending.delete(id)` and `pendingBytes -= entry.bytes`. -/
def release (entry : PendingEntry) : Lane :=
  { lane with
    pending := lane.pending.filter (·.id ≠ entry.id)
    pendingBytes := lane.pendingBytes - entry.bytes }

def clearTimeout (id : Nat) : Lane := { lane with timers := lane.timers.filter (· ≠ id) }

def settle (id : Nat) (outcome : Outcome) : Lane :=
  { lane with settlements := (id, outcome) :: lane.settlements }

def rejectAll (error : LaneError) : Lane :=
  { lane with
    pending := []
    pendingBytes := 0
    timers := lane.timers.filter fun id => (lane.findEntry id).isNone
    settlements := lane.pending.map (fun entry => (entry.id, .rejected error)) ++ lane.settlements }

def execute (options : LaneOptions) (request : Request) : Lane × Except LaneError Nat :=
  if lane.closed then (lane, .error lane.closedError)
  else if request.command ∉ options.allowedCommands then (lane, .error .commandRejected)
  else if request.payload.isFunction || request.payload.hasSql || request.payload.hasPath then
    (lane, .error .payloadRejected)
  else
    match request.payload.bytes with
    | none => (lane, .error .notSerializable)
    | some bytes =>
      if options.maxPending ≤ lane.pending.length ∨
          options.maxPendingBytes < lane.pendingBytes + bytes then
        (lane, .error .capacityExceeded)
      else
        let id := lane.sequence + 1
        ({ lane with
            sequence := id
            timers := id :: lane.timers
            pending := lane.pending ++ [⟨id, bytes⟩]
            pendingBytes := lane.pendingBytes + bytes }, .ok id)

def onMessage (reply : Reply) : Lane :=
  match lane.findEntry reply.id with
  | none => lane
  | some entry =>
    ((lane.release entry).clearTimeout entry.id).settle reply.id
      (reply.error.elim .resolved fun code => .rejected (.remote code))

/-- The timer fires only while it is armed, and once. -/
def onDeadline (id : Nat) : Lane :=
  if id ∈ lane.timers then
    match lane.findEntry id with
    | none => lane.clearTimeout id
    | some entry =>
      ((lane.release entry).clearTimeout id).settle id (.rejected .deadlineExceeded)
  else lane

def onError : Lane := { lane with crashed := true, closed := true }.rejectAll .crashed

def onExit (code : Int) : Lane :=
  let ended := { lane with
    crashed := lane.crashed || !lane.closed && code ≠ 0
    closed := true
    exitCode := some code }
  ended.rejectAll ended.closedError

/-- `close` up to its first await; its request carries an empty record. -/
def close (options : LaneOptions) : Lane :=
  if lane.closed then lane
  else
    match lane.execute options ⟨"close", { bytes := some 2 }⟩ with
    | (next, .ok id) => { next with closing := lane.closing ++ [.requested id] }
    | (next, .error _) => { next with closing := lane.closing ++ [.refused] }

def isResolved (id : Nat) : Bool :=
  lane.settlements.any fun (settled, outcome) => settled = id && outcome matches .resolved

/-- The continuation of a `close` whose awaited promise has settled. -/
def closeResumes (index : Nat) : Lane :=
  match lane.closing[index]? with
  | none => lane
  | some .refused => { lane with closed := true, closing := lane.closing.eraseIdx index }
  | some (.requested id) =>
    if (lane.findEntry id).isSome then lane
    else if lane.isResolved id then
      { lane with closed := true, closing := lane.closing.set index .awaitsExit }
    else { lane with closed := true, closing := lane.closing.eraseIdx index }
  | some .awaitsExit =>
    match lane.exitCode with
    | none => lane
    | some code =>
      { lane with
        crashed := lane.crashed || code ≠ 0
        closing := lane.closing.eraseIdx index }

def step (options : LaneOptions) (lane : Lane) : Event → Lane
  | .execute request => (lane.execute options request).1
  | .message reply => lane.onMessage reply
  | .deadline id => lane.onDeadline id
  | .error => lane.onError
  | .exit code => lane.onExit code
  | .close => lane.close options
  | .closeResumes index => lane.closeResumes index

def settledTimes (id : Nat) : Nat := (lane.settlements.map Prod.fst).count id

def IsAccepted (id : Nat) : Prop := 1 ≤ id ∧ id ≤ lane.sequence

def IsPending (id : Nat) : Prop := id ∈ lane.pending.map (·.id)

/-- Which of a sequence of requests the lane accepts. -/
def accepts (options : LaneOptions) : Lane → List Request → List Bool
  | _, [] => []
  | lane, request :: rest =>
    (lane.execute options request).2.isOk :: accepts options (lane.execute options request).1 rest

structure Sound (options : LaneOptions) (lane : Lane) : Prop where
  drawn : ∀ entry ∈ lane.pending, lane.IsAccepted entry.id
  distinct : (lane.pending.map (·.id)).Nodup
  bytes : lane.pendingBytes = (lane.pending.map (·.bytes)).sum
  withinBytes : (lane.pending.map (·.bytes)).sum ≤ options.maxPendingBytes
  withinCount : lane.pending.length ≤ options.maxPending
  armed : ∀ id, lane.IsPending id → id ∈ lane.timers
  waiting : ∀ id, lane.IsPending id → lane.settledTimes id = 0
  once : ∀ id, lane.IsAccepted id → ¬ lane.IsPending id → lane.settledTimes id = 1
  unknown : ∀ id, ¬ lane.IsAccepted id → lane.settledTimes id = 0

variable {lane} {options : LaneOptions} {entry : PendingEntry} {id : Nat}

theorem findEntry_some (found : lane.findEntry id = some entry) :
    entry ∈ lane.pending ∧ entry.id = id :=
  ⟨mem_of_find?_eq_some found, by simpa using find?_some found⟩

theorem findEntry_none : lane.findEntry id = none ↔ ¬ lane.IsPending id := by
  simp [findEntry, IsPending]

theorem sum_filter {entries : List PendingEntry} (distinct : (entries.map (·.id)).Nodup)
    (member : entry ∈ entries) :
    ((entries.filter (·.id ≠ entry.id)).map (·.bytes)).sum + entry.bytes =
      (entries.map (·.bytes)).sum := by
  induction entries with
  | nil => cases member
  | cons first rest induction =>
    rw [map_cons, nodup_cons] at distinct
    by_cases same : first = entry
    · subst same
      have others : rest.filter (·.id ≠ first.id) = rest := by
        refine filter_eq_self.mpr fun other inRest => ?_
        simp only [ne_eq, decide_not, Bool.not_eq_eq_eq_not, Bool.not_true, decide_eq_false_iff_not]
        exact fun equal => distinct.1 (equal ▸ mem_map_of_mem inRest)
      rw [filter_cons_of_neg (by simp), others, map_cons, sum_cons, Nat.add_comm]
    · have inRest := (mem_cons.mp member).resolve_left fun equal => same equal.symm
      have differs : first.id ≠ entry.id := fun equal =>
        distinct.1 (equal ▸ mem_map_of_mem inRest)
      rw [filter_cons_of_pos (by simpa using differs), map_cons, sum_cons,
        map_cons, sum_cons, Nat.add_assoc, induction distinct.2 inRest]

theorem settledTimes_settle (outcome : Outcome) (other : Nat) :
    (lane.settle id outcome).settledTimes other =
      if other = id then lane.settledTimes other + 1 else lane.settledTimes other := by
  simp only [settle, settledTimes, map_cons, count_cons, beq_iff_eq]
  by_cases same : other = id
  · rw [if_pos same.symm, if_pos same]
  · rw [if_neg (Ne.symm same), if_neg same, Nat.add_zero]

theorem Sound.congr {next : Lane} (sound : lane.Sound options)
    (pending : next.pending = lane.pending) (timers : next.timers = lane.timers)
    (sequence : next.sequence = lane.sequence) (pendingBytes : next.pendingBytes = lane.pendingBytes)
    (settlements : next.settlements = lane.settlements) : next.Sound options := by
  obtain ⟨drawn, distinct, bytes, withinBytes, withinCount, armed, waiting, once, unknown⟩ := sound
  constructor <;>
    simp only [IsAccepted, IsPending, settledTimes, pending, timers, sequence, pendingBytes,
      settlements] <;> assumption

theorem Sound.settles (sound : lane.Sound options) (member : entry ∈ lane.pending)
    (outcome : Outcome) :
    (((lane.release entry).clearTimeout entry.id).settle entry.id outcome).Sound options := by
  have sum := sum_filter sound.distinct member
  have pending : ∀ other, (lane.release entry).IsPending other ↔
      lane.IsPending other ∧ other ≠ entry.id := by
    intro other
    simp only [IsPending, release, mem_map, mem_filter]
    constructor
    · rintro ⟨found, ⟨inPending, differs⟩, rfl⟩
      exact ⟨⟨found, inPending, rfl⟩, by simpa using differs⟩
    · rintro ⟨⟨found, inPending, rfl⟩, differs⟩
      exact ⟨found, ⟨inPending, by simpa using differs⟩, rfl⟩
  have isPending : lane.IsPending entry.id := mem_map_of_mem member
  refine ⟨?_, ?_, ?_, ?_, ?_, ?_, ?_, ?_, ?_⟩
  · exact fun other inPending => sound.drawn other (mem_of_mem_filter inPending)
  · exact sound.distinct.sublist (filter_sublist.map _)
  · change lane.pendingBytes - entry.bytes = _
    rw [sound.bytes, ← sum, Int.natCast_add, Int.add_sub_cancel]
    rfl
  · exact Nat.le_trans (Nat.le_trans (Nat.le_add_right _ _) (Nat.le_of_eq sum)) sound.withinBytes
  · exact Nat.le_trans (length_filter_le ..) sound.withinCount
  · intro other isPending
    obtain ⟨before, differs⟩ := (pending other).mp isPending
    exact mem_filter.mpr ⟨sound.armed other before, by simpa using differs⟩
  · intro other isPending
    obtain ⟨before, differs⟩ := (pending other).mp isPending
    rw [settledTimes_settle, if_neg differs]
    exact sound.waiting other before
  · intro other accepted notPending
    rw [settledTimes_settle]
    by_cases same : other = entry.id
    · rw [if_pos same, same]
      exact congrArg (· + 1) (sound.waiting entry.id isPending)
    · rw [if_neg same]
      exact sound.once other accepted fun before => notPending ((pending other).mpr ⟨before, same⟩)
  · intro other notAccepted
    have differs : other ≠ entry.id := fun same =>
      notAccepted (same ▸ sound.drawn entry member)
    rw [settledTimes_settle, if_neg differs]
    exact sound.unknown other notAccepted

theorem settledTimes_rejectAll (error : LaneError) (other : Nat) :
    (lane.rejectAll error).settledTimes other =
      (lane.pending.map (·.id)).count other + lane.settledTimes other := by
  simp [rejectAll, settledTimes, map_append, count_append, Function.comp_def]

theorem Sound.rejectAll (sound : lane.Sound options) (error : LaneError) :
    (lane.rejectAll error).Sound options := by
  have none : ∀ other, ¬ (lane.rejectAll error).IsPending other := fun _ => not_mem_nil
  refine ⟨nofun, nodup_nil, rfl, Nat.zero_le _, Nat.zero_le _,
    fun other pending => absurd pending (none other),
    fun other pending => absurd pending (none other), ?_, ?_⟩
  · intro other accepted _
    rw [settledTimes_rejectAll]
    by_cases pending : lane.IsPending other
    · rw [sound.waiting other pending, count_eq_one_of_mem sound.distinct pending]
    · rw [sound.once other accepted pending, count_eq_zero.mpr pending]
  · intro other notAccepted
    rw [settledTimes_rejectAll, sound.unknown other notAccepted, count_eq_zero.mpr]
    intro pending
    obtain ⟨found, member, rfl⟩ := mem_map.mp pending
    exact notAccepted (sound.drawn found member)

theorem execute_cases (request : Request) :
    (∃ error, lane.execute options request = (lane, .error error)) ∨
      ∃ bytes : Nat, lane.pending.length < options.maxPending ∧
        lane.pendingBytes + bytes ≤ options.maxPendingBytes ∧ lane.execute options request =
          ({ lane with
              sequence := lane.sequence + 1
              timers := (lane.sequence + 1) :: lane.timers
              pending := lane.pending ++ [⟨lane.sequence + 1, bytes⟩]
              pendingBytes := lane.pendingBytes + bytes }, .ok (lane.sequence + 1)) := by
  unfold execute
  split
  · exact .inl ⟨_, rfl⟩
  split
  · exact .inl ⟨_, rfl⟩
  split
  · exact .inl ⟨_, rfl⟩
  split
  · exact .inl ⟨_, rfl⟩
  split
  · exact .inl ⟨_, rfl⟩
  · rename_i bytes _ fits
    rw [not_or, Nat.not_le, Int.not_lt] at fits
    exact .inr ⟨bytes, fits.1, fits.2, rfl⟩

theorem Sound.execute (sound : lane.Sound options) (request : Request) :
    (lane.execute options request).1.Sound options := by
  obtain ⟨error, refused⟩ | ⟨bytes, room, fits, accepted⟩ := @execute_cases lane options request
  · rw [refused]
    exact sound
  · rw [accepted]
    have fresh : ¬ lane.IsAccepted (lane.sequence + 1) := fun old => Nat.not_succ_le_self _ old.2
    have unused : lane.sequence + 1 ∉ lane.pending.map (·.id) := by
      intro pending
      obtain ⟨found, member, same⟩ := mem_map.mp pending
      exact fresh (same ▸ sound.drawn found member)
    let entry : PendingEntry := ⟨lane.sequence + 1, bytes⟩
    have sum : ((lane.pending ++ [entry]).map (·.bytes)).sum =
        (lane.pending.map (·.bytes)).sum + bytes := by
      simp [entry]
    have isPending : ∀ other, other ∈ (lane.pending ++ [entry]).map (·.id) ↔
        lane.IsPending other ∨ other = lane.sequence + 1 := by
      simp [IsPending, entry]
    refine ⟨?_, ?_, ?_, ?_, ?_, ?_, ?_, ?_, ?_⟩
    · intro entry member
      obtain old | new := mem_append.mp member
      · exact ⟨(sound.drawn entry old).1, Nat.le_succ_of_le (sound.drawn entry old).2⟩
      · obtain rfl := mem_singleton.mp new
        exact ⟨Nat.succ_pos _, Nat.le_refl _⟩
    · rw [map_append, map_singleton, nodup_append_comm, singleton_append]
      exact nodup_cons.mpr ⟨unused, sound.distinct⟩
    · rw [sum, Int.natCast_add, ← sound.bytes]
    · rw [sound.bytes] at fits
      rw [sum]
      exact_mod_cast fits
    · rw [length_append]
      exact room
    · intro other pending
      obtain old | rfl := (isPending other).mp pending
      · exact mem_cons_of_mem _ (sound.armed other old)
      · exact mem_cons_self
    · intro other pending
      obtain old | rfl := (isPending other).mp pending
      · exact sound.waiting other old
      · exact sound.unknown _ fresh
    · intro other drawn notPending
      refine sound.once other ⟨drawn.1, ?_⟩ fun old => notPending ((isPending other).mpr (.inl old))
      exact Nat.le_of_lt_succ (Nat.lt_of_le_of_ne drawn.2 fun same =>
        notPending ((isPending other).mpr (.inr same)))
    · exact fun other notDrawn => sound.unknown other fun old =>
        notDrawn ⟨old.1, Nat.le_succ_of_le old.2⟩

theorem Sound.onMessage (sound : lane.Sound options) (reply : Reply) :
    (lane.onMessage reply).Sound options := by
  unfold Lane.onMessage
  split
  · exact sound
  · rename_i entry found
    obtain ⟨member, same⟩ := findEntry_some found
    rw [← same]
    exact sound.settles member _

theorem Sound.onDeadline (sound : lane.Sound options) (id : Nat) :
    (lane.onDeadline id).Sound options := by
  unfold Lane.onDeadline
  split
  · split
    · rename_i missing
      obtain ⟨drawn, distinct, bytes, withinBytes, withinCount, armed, waiting, once, unknown⟩ := sound
      refine ⟨drawn, distinct, bytes, withinBytes, withinCount, ?_, waiting, once, unknown⟩
      refine fun other pending => mem_filter.mpr ⟨armed other pending, ?_⟩
      simpa using fun same : other = id => findEntry_none.mp missing (same ▸ pending)
    · rename_i entry found
      obtain ⟨member, rfl⟩ := findEntry_some found
      exact sound.settles member _
  · exact sound

theorem Sound.expires (sound : lane.Sound options) (pending : lane.IsPending id) :
    (lane.onDeadline id).sequence = lane.sequence ∧ ¬ (lane.onDeadline id).IsPending id := by
  unfold Lane.onDeadline
  rw [if_pos (sound.armed id pending)]
  split
  · rename_i missing
    exact absurd pending (findEntry_none.mp missing)
  · rename_i entry found
    obtain ⟨-, rfl⟩ := findEntry_some found
    refine ⟨rfl, fun stays => ?_⟩
    obtain ⟨other, member, same⟩ := mem_map.mp stays
    simpa [same] using (mem_filter.mp member).2

theorem Sound.close (sound : lane.Sound options) : (lane.close options).Sound options := by
  unfold Lane.close
  split
  · exact sound
  · have executed := sound.execute ⟨"close", { bytes := some 2 }⟩
    split <;> rename_i answer <;> rw [answer] at executed <;>
      exact executed.congr rfl rfl rfl rfl rfl

theorem Sound.closeResumes (sound : lane.Sound options) (index : Nat) :
    (lane.closeResumes index).Sound options := by
  unfold Lane.closeResumes
  repeat' split
  all_goals first
    | exact sound
    | exact sound.congr rfl rfl rfl rfl rfl

theorem Sound.step (sound : lane.Sound options) (event : Event) :
    (lane.step options event).Sound options := by
  cases event with
  | execute request => exact sound.execute request
  | message reply => exact sound.onMessage reply
  | deadline id => exact sound.onDeadline id
  | error =>
    refine .rejectAll ?_ _
    exact sound.congr rfl rfl rfl rfl rfl
  | exit code =>
    refine .rejectAll ?_ _
    exact sound.congr rfl rfl rfl rfl rfl
  | close => exact sound.close
  | closeResumes index => exact sound.closeResumes index

theorem sound_initial (options : LaneOptions) : createSqliteExecutionLane.Sound options where
  drawn := nofun
  distinct := nodup_nil
  bytes := rfl
  withinBytes := Nat.zero_le _
  withinCount := Nat.zero_le _
  armed := nofun
  waiting := nofun
  once _ accepted := absurd (Nat.le_trans accepted.1 accepted.2) (Nat.not_succ_le_zero 0)
  unknown _ _ := rfl

theorem sound_run (options : LaneOptions) (events : List Event) :
    (runAll (step options) createSqliteExecutionLane events).Sound options :=
  Library.runAll_invariant (fun _ event sound => sound.step event) (sound_initial options) events

theorem accepts_congr (requests : List Request) (closed : other.closed = lane.closed)
    (count : other.pending.length = lane.pending.length)
    (bytes : other.pendingBytes = lane.pendingBytes) :
    accepts options other requests = accepts options lane requests := by
  induction requests generalizing lane other with
  | nil => rfl
  | cons request rest induction =>
    rw [accepts, accepts]
    unfold Lane.execute
    rw [closed, count, bytes]
    split
    · exact congrArg _ (induction closed count bytes)
    split
    · exact congrArg _ (induction closed count bytes)
    split
    · exact congrArg _ (induction closed count bytes)
    split
    · exact congrArg _ (induction closed count bytes)
    split
    · exact congrArg _ (induction closed count bytes)
    · exact congrArg _ (induction rfl (by simp [count]) rfl)

/-- Every accepted request settles once, its armed timer seeing to it, within the lane's budget. -/
theorem requests_settle_once (options : LaneOptions) (events : List Event) :
    let lane := runAll (step options) createSqliteExecutionLane events
    (∀ id, lane.IsAccepted id →
      if id ∈ lane.pending.map (·.id) then
        lane.settledTimes id = 0 ∧ (lane.step options (.deadline id)).settledTimes id = 1
      else lane.settledTimes id = 1) ∧
    (∀ id, ¬ lane.IsAccepted id → lane.settledTimes id = 0) ∧
    lane.pendingBytes = (lane.pending.map (·.bytes)).sum ∧
    lane.pendingBytes ≤ options.maxPendingBytes ∧ lane.pending.length ≤ options.maxPending ∧
    (lane.pending = [] → lane.closed = false → ∀ requests,
      accepts options lane requests = accepts options createSqliteExecutionLane requests) ∧
    (lane.closed = true → ∀ request,
      (lane.execute options request).2 = .error lane.closedError) := by
  have sound := sound_run options events
  generalize runAll (step options) createSqliteExecutionLane events = lane at sound
  refine ⟨?_, sound.unknown, sound.bytes, ?_, sound.withinCount, ?_, ?_⟩
  · intro id accepted
    split
    · rename_i pending
      obtain ⟨sequence, expired⟩ := sound.expires pending
      exact ⟨sound.waiting id pending,
        (sound.onDeadline id).once id ⟨accepted.1, sequence ▸ accepted.2⟩ expired⟩
    · rename_i settled
      exact sound.once id accepted settled
  · rw [sound.bytes]
    exact_mod_cast sound.withinBytes
  · intro empty opened requests
    refine accepts_congr requests opened (by rw [empty]; rfl) ?_
    rw [sound.bytes, empty]
    rfl
  · intro closed request
    unfold Lane.execute
    rw [if_pos closed]

def sampleOptions : LaneOptions where
  allowedCommands := ["close", "read"]
  maxPending := 2
  maxPendingBytes := 8

/-- A lane that was closed accepts nothing. -/
theorem closed_lane_refuses :
    let lane := runAll (step sampleOptions) createSqliteExecutionLane
      [.close, .message ⟨1, none⟩, .closeResumes 0, .exit 0]
    lane.pending.length = 0 ∧ ¬ ∀ requests, accepts sampleOptions lane requests =
        accepts sampleOptions createSqliteExecutionLane requests := by
  refine ⟨by decide, fun same => ?_⟩
  have single := same [⟨"read", { bytes := some 2 }⟩]
  revert single
  decide

end Lane

end LicoMesh.SqliteLane
