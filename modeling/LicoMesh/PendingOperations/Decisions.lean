import LicoMesh.PendingOperations.Invariant

namespace LicoMesh.PendingOperations

open Steps NotOwner

variable {approval : Option WrittenApproval} {resolution : Status} {now index : Nat}
  {approving : Approving} {s : Shared} {row : PendingOperation} {call : Call} {reply : Reply}
  {approvalStore : Bool}

/-- A refusal meets the operation before an approving call has taken it, and the governance store
neither fails after it has written a single-use approval nor before it has revoked one. -/
def meets (w : Calls) : Event → Bool
  | .step index reply =>
    match w.agents[index]? with
    | none => true
    | some call =>
      match call.point with
      | .resolving _ => w.shared.row.approvalActorId = none
      | .recording _ record => !(reply.throws && reply.effect && record.grantKind == "once")
      | .revoking _ => !(reply.throws && !reply.effect)
      | _ => true
  | _ => true

def StepMeets (s : Shared) (call : Call) (reply : Reply) : Prop :=
  match call.point with
  | .resolving _ => s.row.approvalActorId = none
  | .recording _ record => reply.throws = true → reply.effect = true → record.grantKind ≠ "once"
  | .revoking _ => reply.throws = true → reply.effect = true
  | _ => True

structure Advances (s : Shared) (index : Nat) (call : Call) (result : Shared × Point) : Prop where
  sound : SharedSound result.1
  steps : Steps index s result.1
  call : CallSound result.1 index { call with point := result.2 }

variable (sound : SharedSound s)
include sound

theorem SharedSound.moved (moves : RowMoves s.row row)
    (refused : row.status.refused → s.taken = none)
    (completed : row.status = .completed → Ran s true) : SharedSound { s with row := row } where
  actor := by
    rw [moves.same]
    exact sound.actor
  fresh := sound.fresh
  pending := fun pending => sound.pending (moves.stays pending)
  refused := refused
  once := sound.once
  found := by
    rw [moves.same]
    exact sound.found
  completed := completed
  writer := sound.writer
  runner := sound.runner
  authorised := by
    rw [moves.same]
    exact sound.authorised

theorem SharedSound.expired (now : Nat) :
    SharedSound { s with row := expirePendingOperations s.row now } := by
  refine sound.moved (expire_moves _ _) ?_ ?_
  · rcases expire_status s.row now with same | expired
    · rw [same]
      exact sound.refused
    · rw [expired]
      exact False.elim
  · rcases expire_status s.row now with same | expired
    · rw [same]
      exact sound.completed
    · rw [expired]
      exact nofun

section

variable (settles : resolution ≠ .pending) (refused : resolution.refused → s.taken = none)
  (completed : resolution = .completed → Ran s true)
include settles refused completed

theorem SharedSound.resolved :
    SharedSound { s with row := (resolvePendingOperation s.row now resolution).1 } := by
  refine sound.moved (resolve_moves settles) ?_ ?_
  · rcases resolve_status s.row now resolution with isResolution | same | expired
    · rw [isResolution]
      exact refused
    · rw [same]
      exact sound.refused
    · rw [expired]
      exact False.elim
  · rcases resolve_status s.row now resolution with isResolution | same | expired
    · rw [isResolution]
      exact completed
    · rw [same]
      exact sound.completed
    · rw [expired]
      exact nofun

theorem SharedSound.written (reply : Reply) : SharedSound { s with
      row := written reply s.row (resolvePendingOperation s.row now resolution).1 } := by
  rcases written_cases reply s.row (resolvePendingOperation s.row now resolution).1 with
    same | same
  · rw [same]
    exact sound
  · rw [same]
    exact sound.resolved settles refused completed

end

omit sound

theorem written_steps (settles : resolution ≠ .pending) (reply : Reply) (index : Nat) :
    Steps index s { s with
      row := written reply s.row (resolvePendingOperation s.row now resolution).1 } := by
  rcases written_cases reply s.row (resolvePendingOperation s.row now resolution).1 with
    same | same
  · rw [same]
    exact .refl index s
  · rw [same]
    exact (resolve_moves settles).steps index

theorem Idle.moved (idle : Idle s index) (moved : PendingOperation) :
    Idle { s with row := moved } index := idle

theorem endsThrew (idle : Idle next index) :
    CallSound next index { call with point := .ended .threw } :=
  ⟨fun _ reported => (nomatch reported), idle⟩

theorem endsFailed (idle : Idle next index) (code : String) :
    CallSound next index { call with point := .ended (.failed code) } :=
  ⟨fun _ reported => (nomatch reported), idle⟩

theorem endsReplayed (next : Shared) (sound : SharedSound next) (notOwner : NotOwner next index) :
    CallSound next index { call with point := .ended (.replayed next.row.status) } := by
  refine ⟨fun status reported isRefused => ?_, notOwner.idle sound⟩
  rw [← Option.some.inj reported] at isRefused
  refine ⟨fun pending => ?_, sound.refused isRefused⟩
  rw [pending] at isRefused
  exact isRefused

theorem decidePending_sound (next : Shared) (sound : SharedSound next)
    (notOwner : NotOwner next index) : CallSound next index { call with
      point := decidePending approvalStore call.request next.row next.getAgentBinding } := by
  unfold decidePending
  dsimp only
  split_ifs with settled cancels rejects unknown mismatch projection unavailable
  · exact endsReplayed next sound notOwner
  · exact notOwner
  · exact notOwner
  · exact ⟨fun _ reported => (nomatch reported), notOwner.idle sound⟩
  · exact notOwner
  · exact ⟨fun _ reported => (nomatch reported), notOwner.idle sound⟩
  · exact notOwner.idle sound
  · split
    next => exact ⟨fun _ reported => (nomatch reported), notOwner.idle sound⟩
    next approved =>
      refine ⟨notOwner, not_not.mp unknown, fun layer isIn => ?_⟩
      refine approverCanApprovePending_ok approved layer ?_
      obtain ⟨isLayer, isText⟩ := mem_uniqueStrings.mp isIn
      exact mem_uniqueStrings.mpr ⟨isIn, isText⟩

include sound in
theorem reading_advances (isReading : call.point = .reading) (known : CallSound s index call) :
    Advances s index call (advance approvalStore s index call reply) := by
  unfold CallSound at known
  unfold advance
  rw [isReading] at known ⊢
  dsimp only
  split_ifs
  · exact ⟨sound, refl index s, endsThrew (idle sound known)⟩
  · exact ⟨sound.expired s.clock, (expire_moves _ _).steps index,
      decidePending_sound { s with row := expirePendingOperations s.row s.clock }
        (sound.expired s.clock) known⟩

theorem decision_settles (decision : Decision) : decision.status ≠ .pending := by
  cases decision <;> exact nofun

include sound

theorem resolving_advances (isResolving : call.point = .resolving decision)
    (known : CallSound s index call) (meets : StepMeets s call reply) :
    Advances s index call (advance approvalStore s index call reply) := by
  unfold CallSound at known
  unfold StepMeets at meets
  unfold advance
  rw [isResolving] at known meets ⊢
  dsimp only at known meets ⊢
  have untaken := sound.actor meets
  refine ⟨sound.written (decision_settles decision) (fun _ => untaken) ?_ reply,
    written_steps (decision_settles decision) reply index, ?_⟩
  · cases decision <;> exact nofun
  · split_ifs with throws
    · exact endsThrew (Idle.moved (idle sound known) _)
    · rw [written_of_returned (Bool.eq_false_iff.mpr throws)]
      refine ⟨fun pending => ?_, untaken⟩
      rcases resolve_cases s.row s.clock decision.status with ⟨-, -, isNext⟩ | ⟨-, source, isNext⟩
      · rw [isNext] at pending
        exact decision_settles decision pending
      · rw [isNext] at pending
        rw [pending] at source
        exact source (by cases decision <;> decide)

theorem failing_advances (isFailing : call.point = .failing code) (known : CallSound s index call) :
    Advances s index call (advance approvalStore s index call reply) := by
  unfold CallSound at known
  unfold advance
  rw [isFailing] at known ⊢
  dsimp only at known ⊢
  have settles : Status.failed ≠ .pending := nofun
  refine ⟨sound.written settles False.elim nofun reply, written_steps settles reply index, ?_⟩
  split_ifs
  · exact endsThrew (Idle.moved known _)
  · exact endsFailed (Idle.moved known _) code

theorem completing_advances
    (isCompleting : call.point = .completing ok) (known : CallSound s index call) :
    Advances s index call (advance approvalStore s index call reply) := by
  unfold CallSound at known
  unfold advance
  rw [isCompleting] at known ⊢
  obtain ⟨ran, idle, -⟩ := known
  have settles : (if ok = true then Status.completed else .failed) ≠ .pending := by
    cases ok <;> exact nofun
  refine ⟨sound.written settles ?_ ?_ reply, written_steps settles reply index, ?_⟩
  · cases ok <;> exact False.elim
  · cases ok with
    | false => exact nofun
    | true => exact fun _ => ran
  · dsimp only
    cases reply.throws with
    | true => exact endsThrew (Idle.moved idle _)
    | false => exact Idle.moved idle _

omit sound

theorem Authorised.waits (authorised : Authorised s call approving) (point : Point) :
    Authorised s { call with point := point } approving :=
  ⟨authorised.resolution, authorised.layers⟩

include sound in
theorem authorizing_advances
    (isAuthorizing : call.point = .authorizing approving) (known : CallSound s index call) :
    Advances s index call (advance approvalStore s index call reply) := by
  unfold CallSound at known
  unfold advance
  rw [isAuthorizing] at known ⊢
  dsimp only at known ⊢
  have idle := idle sound known.1
  split_ifs
  · exact ⟨sound, refl index s, idle⟩
  · exact ⟨sound, refl index s, known.1, known.2.waits _⟩
  · exact ⟨sound, refl index s, endsThrew idle⟩
  · exact ⟨sound, refl index s, idle⟩
  · exact ⟨sound, refl index s, known.1, known.2.waits _⟩

def takenBy (s : Shared) (index : Nat) (actor : String) : Shared :=
  { s with
    row := { s.row with status := .approved, approvalActorId := some actor }
    taken := some ⟨index, s.row, s.clock⟩ }

include sound in
theorem takenBy_sound (pending : s.row.status = .pending)
    (unexpired : s.row.isOver s.clock = false) (index : Nat) (actor : String) :
    SharedSound (takenBy s index actor) where
  actor := nofun
  fresh := nofun
  pending := nofun
  refused := False.elim
  once := sound.once
  found := by
    rintro taken ⟨⟩
    exact ⟨pending, unexpired, rfl⟩
  completed := nofun
  writer := fun approval written => by
    have untaken := sound.fresh (sound.pending pending)
    have none : s.approval = none := untaken.2
    exact nomatch none.symm.trans written
  runner := fun e isIn => by
    have none : s.executions = [] := (sound.fresh (sound.pending pending)).1
    exact nomatch none ▸ isIn
  authorised := sound.authorised

theorem takenBy_steps (pending : s.row.status = .pending) (index : Nat) (actor : String) :
    Steps index s (takenBy s index actor) where
  row := rfl
  status := .inr (.inl pending)
  stays := nofun
  taken := .inr ⟨pending, _, rfl, rfl⟩
  executions := .inl rfl
  approval := .inl rfl
  approvals := fun approval written => .inr ⟨approval, written, rfl, rfl, id⟩

include sound

theorem taking_advances (isTaking : call.point = .taking approving)
    (known : CallSound s index call) :
    Advances s index call (advance approvalStore s index call reply) := by
  unfold CallSound at known
  unfold advance
  rw [isTaking] at known ⊢
  dsimp only at known ⊢
  obtain ⟨notOwner, authorised⟩ := known
  have idle := idle sound notOwner
  rcases resolve_cases s.row s.clock .approved with ⟨isTaken, source, isNext⟩ | ⟨lost, -, isNext⟩
  · have pending : (expirePendingOperations s.row s.clock).status = .pending :=
      List.mem_singleton.mp source
    obtain ⟨same, wasPending, unexpired⟩ := expire_pending pending
    have isTakenBy : { s with
        row := { (resolvePendingOperation s.row s.clock .approved).1 with
          approvalActorId := some call.request.resolvedBy }
        taken := some ⟨index, expirePendingOperations s.row s.clock, s.clock⟩ } =
        takenBy s index call.request.resolvedBy := by
      rw [isNext, same]
      rfl
    rw [isTaken, isTakenBy, if_neg nofun]
    have next := takenBy_sound sound wasPending unexpired index call.request.resolvedBy
    have steps := takenBy_steps wasPending index call.request.resolvedBy
    obtain ⟨none, unwritten⟩ := sound.fresh (sound.pending wasPending)
    have nextIdle : Idle (takenBy s index call.request.resolvedBy) index := idle
    have owner : Owner (takenBy s index call.request.resolvedBy) index := ⟨_, rfl, rfl⟩
    split_ifs with failed threw
    · exact ⟨sound, refl index s, endsThrew idle⟩
    · exact ⟨next, steps, endsThrew nextIdle⟩
    · refine ⟨next, steps, ?_⟩
      cases isRecord : approving.record with
      | none =>
        refine ⟨owner, (steps.authorised authorised).waits _, none, fun approval written => ?_⟩
        exact nomatch unwritten.symm.trans written
      | some record =>
        exact ⟨owner, (steps.authorised authorised).waits _, isRecord, none, unwritten⟩
  · rw [lost, isNext, if_pos rfl]
    split_ifs
    · exact ⟨sound, refl index s, endsThrew idle⟩
    · exact ⟨sound.expired s.clock, (expire_moves _ _).steps index, notOwner⟩

theorem rereading_advances (isRereading : call.point = .rereading)
    (known : CallSound s index call) :
    Advances s index call (advance approvalStore s index call reply) := by
  unfold CallSound at known
  unfold advance
  rw [isRereading] at known ⊢
  dsimp only at known ⊢
  split_ifs
  · exact ⟨sound, refl index s, endsThrew (idle sound known)⟩
  · exact ⟨sound.expired s.clock, (expire_moves _ _).steps index,
      endsReplayed { s with row := expirePendingOperations s.row s.clock }
        (sound.expired s.clock) known⟩

theorem SharedSound.wrote (owner : Owner s index)
    (writer : ∀ w, approval = some w → w.writer = index) :
    SharedSound { s with approval := approval } where
  actor := sound.actor
  fresh := fun untaken => by
    obtain ⟨taken, isTaken, -⟩ := owner
    exact nomatch isTaken.symm.trans untaken
  pending := sound.pending
  refused := sound.refused
  once := sound.once
  found := sound.found
  completed := sound.completed
  writer := fun w written => by
    obtain ⟨taken, isTaken, isIndex⟩ := owner
    exact ⟨taken, isTaken, (writer w written).trans isIndex.symm⟩
  runner := sound.runner
  authorised := sound.authorised

omit sound

theorem owner_approval_steps (owner : Owner s index)
    (writer : ∀ w, approval = some w → w.writer = index) :
    Steps index s { s with approval := approval } where
  row := rfl
  status := .inl rfl
  stays := id
  taken := .inl rfl
  executions := .inl rfl
  approval := .inr owner
  approvals := fun w written => .inl (writer w written)

include sound

theorem recording_advances (isRecording : call.point = .recording approving record)
    (known : CallSound s index call) (meets : StepMeets s call reply) :
    Advances s index call (advance approvalStore s index call reply) := by
  unfold CallSound at known
  unfold StepMeets at meets
  unfold advance
  rw [isRecording] at known meets ⊢
  dsimp only at known meets ⊢
  obtain ⟨owner, authorised, isRecord, none, unwritten⟩ := known
  have writer : ∀ w, some (WrittenApproval.mk record index false) = some w → w.writer = index := by
    rintro w ⟨⟩
    rfl
  split_ifs with throws effect
  · refine ⟨sound.wrote owner writer, owner_approval_steps owner writer, ?_⟩
    rintro approval ⟨⟩ - once
    exact absurd once (meets throws effect)
  · refine ⟨sound, refl index s, fun approval written => ?_⟩
    exact nomatch unwritten.symm.trans written
  · refine ⟨sound.wrote owner writer, owner_approval_steps owner writer, owner,
      ⟨authorised.resolution, authorised.layers⟩, none, ?_⟩
    rintro approval ⟨⟩
    exact isRecord

theorem announcing_advances
    (isAnnouncing : call.point = .announcing approving) (known : CallSound s index call) :
    Advances s index call (advance approvalStore s index call reply) := by
  unfold CallSound at known
  unfold advance
  rw [isAnnouncing] at known ⊢
  obtain ⟨owner, authorised, none, wrote⟩ := known
  rw [none]
  have isTaken : s.taken ≠ .none := fun untaken => by
    obtain ⟨taken, isTaken, -⟩ := owner
    exact nomatch isTaken.symm.trans untaken
  refine ⟨?_, ?_, owner, wrote, _, rfl, rfl, rfl⟩
  · exact {
      actor := sound.actor
      fresh := fun untaken => absurd untaken isTaken
      pending := sound.pending
      refused := sound.refused
      once := Nat.le_refl _
      found := sound.found
      completed := fun completed => by
        obtain ⟨e, isIn, -⟩ := sound.completed completed
        rw [none] at isIn
        exact nomatch isIn
      writer := sound.writer
      runner := fun e isIn => by
        obtain ⟨taken, isTaken, isIndex⟩ := owner
        rw [List.mem_singleton.mp isIn]
        exact ⟨taken, isTaken, isIndex.symm⟩
      authorised := fun e isIn => by
        rw [List.mem_singleton.mp isIn]
        exact ⟨authorised.resolution, authorised.layers⟩ }
  · exact { refl index s with executions := Or.inr owner }

theorem executing_advances
    (isExecuting : call.point = .executing approving) (known : CallSound s index call) :
    Advances s index call (advance approvalStore s index call reply) := by
  unfold CallSound at known
  unfold advance
  rw [isExecuting] at known ⊢
  dsimp only at known ⊢
  obtain ⟨owner, wrote, e, isOnly, own, unfinished⟩ := known
  have marked : (s.executions.map fun execution =>
      if execution.index = index then
        { execution with result := if reply.throws = true then none else some reply.ok }
      else execution) =
      [{ e with result := if reply.throws = true then none else some reply.ok }] := by
    rw [isOnly, List.map_singleton, if_pos own]
  rw [marked]
  have authorised := sound.authorised e (by rw [isOnly]; exact List.mem_singleton.mpr rfl)
  have next : SharedSound { s with executions :=
      [{ e with result := if reply.throws = true then none else some reply.ok }] } := {
    actor := sound.actor
    fresh := fun untaken => by
      obtain ⟨taken, isTaken, -⟩ := owner
      exact nomatch isTaken.symm.trans untaken
    pending := sound.pending
    refused := sound.refused
    once := Nat.le_refl _
    found := sound.found
    completed := fun completed => by
      obtain ⟨found, isIn, succeeded⟩ := sound.completed completed
      rw [isOnly] at isIn
      rw [List.mem_singleton.mp isIn, unfinished] at succeeded
      exact nomatch succeeded
    writer := sound.writer
    runner := fun found isIn => by
      rw [List.mem_singleton.mp isIn]
      exact sound.runner e (by rw [isOnly]; exact List.mem_singleton.mpr rfl)
    authorised := fun found isIn => by
      rw [List.mem_singleton.mp isIn]
      exact authorised }
  have steps : Steps index s { s with executions :=
      [{ e with result := if reply.throws = true then none else some reply.ok }] } :=
    { refl index s with executions := Or.inr owner }
  refine ⟨next, steps, ?_⟩
  by_cases once : approving.record.map (·.grantKind) = some "once"
  · rw [if_pos once]
    exact ⟨owner, fun ok isOk => ⟨_, List.mem_singleton.mpr rfl, isOk⟩⟩
  · rw [if_neg once]
    have idle : Idle s index := fun approval written _ isOnce => by
      rw [wrote approval written, Option.map_some, isOnce] at once
      exact absurd rfl once
    cases throws : reply.throws with
    | true => exact endsThrew idle
    | false => exact ⟨⟨_, List.mem_singleton.mpr rfl, rfl⟩, idle, owner⟩

theorem quiet_advances (known : CallSound s index { call with point := point }) :
    Advances s index call (s, point) :=
  ⟨sound, .refl index s, known⟩

theorem revoking_advances (isRevoking : call.point = .revoking ok) (known : CallSound s index call)
    (meets : StepMeets s call reply) :
    Advances s index call (advance approvalStore s index call reply) := by
  unfold CallSound at known
  unfold StepMeets at meets
  unfold advance
  rw [isRevoking] at known meets ⊢
  obtain ⟨owner, ran⟩ := known
  have revokes : ¬ (reply.throws = true ∧ reply.effect = false) :=
    fun fails => nomatch fails.2.symm.trans (meets fails.1)
  rw [if_neg revokes]
  have writer : ∀ w, (s.approval.map fun written => { written with revoked := true }) = some w →
      w.writer = index := by
    intro w isWritten
    obtain ⟨before, wasWritten, rfl⟩ := Option.map_eq_some_iff.mp isWritten
    obtain ⟨taken, isTaken, isWriter⟩ := sound.writer before wasWritten
    obtain ⟨found, isFound, isIndex⟩ := owner
    rw [isTaken] at isFound
    rw [isWriter, Option.some.inj isFound, isIndex]
  have idle : Idle { s with
      approval := s.approval.map fun written => { written with revoked := true } } index := by
    intro w isWritten _ _
    obtain ⟨before, -, rfl⟩ := Option.map_eq_some_iff.mp isWritten
    rfl
  refine ⟨sound.wrote owner writer, owner_approval_steps owner writer, ?_⟩
  cases reply.throws with
  | true => exact endsThrew idle
  | false =>
    cases ok with
    | none => exact endsThrew idle
    | some result => exact ⟨ran result rfl, idle, owner⟩

theorem advance_advances (known : CallSound s index call) (meets : StepMeets s call reply) :
    Advances s index call (advance approvalStore s index call reply) := by
  cases isPoint : call.point with
  | reading => exact reading_advances sound isPoint known
  | resolving decision => exact resolving_advances sound isPoint known meets
  | measuring decision =>
    unfold CallSound at known
    unfold advance
    rw [isPoint] at known ⊢
    cases reply.throws with
    | true => exact quiet_advances sound (endsThrew (Closed.idle sound known))
    | false => exact quiet_advances sound known
  | publishing decision =>
    unfold CallSound at known
    unfold advance
    rw [isPoint] at known ⊢
    exact quiet_advances sound ⟨fun _ _ _ => known, Closed.idle sound known⟩
  | failing code => exact failing_advances sound isPoint known
  | authorizing approving => exact authorizing_advances sound isPoint known
  | taking approving => exact taking_advances sound isPoint known
  | rereading => exact rereading_advances sound isPoint known
  | recording approving record => exact recording_advances sound isPoint known meets
  | announcing approving => exact announcing_advances sound isPoint known
  | executing approving => exact executing_advances sound isPoint known
  | revoking ok => exact revoking_advances sound isPoint known meets
  | completing ok => exact completing_advances sound isPoint known
  | reporting ok =>
    unfold CallSound at known
    unfold advance
    rw [isPoint] at known ⊢
    exact quiet_advances sound ⟨fun _ reported => (nomatch reported), known⟩
  | ended answer =>
    unfold CallSound at known
    unfold advance
    rw [isPoint] at known ⊢
    exact quiet_advances sound known

end LicoMesh.PendingOperations
