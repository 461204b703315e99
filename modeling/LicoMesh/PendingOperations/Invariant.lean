import LicoMesh.PendingOperations.Calls

namespace LicoMesh.PendingOperations

/-! What is known of the operation and of every call on it, while the operation is refused only
before an approving call has taken it. -/

variable {approving : Approving} {s next : Shared} {row : PendingOperation} {now index : Nat}
  {call : Call}

def Status.refused : Status → Prop
  | .rejected | .cancelled | .payloadMismatch => True
  | _ => False

structure RowMoves (before after : PendingOperation) : Prop where
  same : after = { before with status := after.status }
  moves : after.status = before.status ∨ before.status = .pending ∨ before.status = .approved
  stays : after.status = .pending → before.status = .pending

theorem RowMoves.refl (row : PendingOperation) : RowMoves row row := ⟨rfl, .inl rfl, id⟩

theorem expire_moves (row : PendingOperation) (now : Nat) :
    RowMoves row (expirePendingOperations row now) := by
  unfold expirePendingOperations
  split_ifs with lapsed
  · exact ⟨rfl, .inr (.inl lapsed.1), nofun⟩
  · exact .refl row

theorem expire_status (row : PendingOperation) (now : Nat) :
    (expirePendingOperations row now).status = row.status ∨
      (expirePendingOperations row now).status = .expired := by
  unfold expirePendingOperations
  split_ifs
  · exact .inr rfl
  · exact .inl rfl

theorem expire_pending (pending : (expirePendingOperations row now).status = .pending) :
    expirePendingOperations row now = row ∧ row.status = .pending ∧ row.isOver now = false := by
  unfold expirePendingOperations at pending ⊢
  split_ifs at pending ⊢ with lapsed
  exact ⟨rfl, pending, Bool.eq_false_iff.mpr fun isOver => lapsed ⟨pending, isOver⟩⟩

theorem resolve_cases (row : PendingOperation) (now : Nat) (resolution : Status) :
    ((resolvePendingOperation row now resolution).2 = true ∧
      (expirePendingOperations row now).status ∈ sourceStatuses resolution ∧
      (resolvePendingOperation row now resolution).1 =
        { expirePendingOperations row now with status := resolution }) ∨
    ((resolvePendingOperation row now resolution).2 = false ∧
      (expirePendingOperations row now).status ∉ sourceStatuses resolution ∧
      (resolvePendingOperation row now resolution).1 = expirePendingOperations row now) := by
  unfold resolvePendingOperation
  dsimp only
  split_ifs with source
  · exact .inl ⟨rfl, source, rfl⟩
  · exact .inr ⟨rfl, source, rfl⟩

theorem sourceStatuses_open (h : status ∈ sourceStatuses resolution) :
    status = .pending ∨ status = .approved := by
  unfold sourceStatuses at h
  split at h <;> simp at h <;> simp [h]

theorem resolve_moves (settles : resolution ≠ .pending) :
    RowMoves row (resolvePendingOperation row now resolution).1 := by
  have before := expire_moves row now
  rcases resolve_cases row now resolution with ⟨-, source, isNext⟩ | ⟨-, -, isNext⟩
  · rw [isNext]
    refine ⟨?_, ?_, fun pending => absurd pending settles⟩
    · dsimp only
      rw [before.same]
    · have isOpen := sourceStatuses_open source
      rcases expire_status row now with same | expired
      · rw [same] at isOpen
        exact .inr isOpen
      · rw [expired] at isOpen
        exact isOpen.elim nofun nofun
  · rw [isNext]
    exact before

theorem resolve_status (row : PendingOperation) (now : Nat) (resolution : Status) :
    (resolvePendingOperation row now resolution).1.status = resolution ∨
    (resolvePendingOperation row now resolution).1.status = row.status ∨
    (resolvePendingOperation row now resolution).1.status = .expired := by
  rcases resolve_cases row now resolution with ⟨-, -, isNext⟩ | ⟨-, -, isNext⟩
  · exact .inl (by rw [isNext])
  · rw [isNext]
    exact .inr (expire_status row now)

theorem written_cases (reply : Reply) (before after : PendingOperation) :
    written reply before after = before ∨ written reply before after = after := by
  unfold written
  split_ifs
  · exact .inl rfl
  · exact .inr rfl

theorem written_of_returned (returned : reply.throws = false)
    (before after : PendingOperation) : written reply before after = after := by
  simp [written, returned]

structure SharedSound (s : Shared) : Prop where
  actor : s.row.approvalActorId = none → s.taken = none
  fresh : s.taken = none → s.executions = [] ∧ s.approval = none
  pending : s.row.status = .pending → s.taken = none
  refused : s.row.status.refused → s.taken = none
  once : s.executions.length ≤ 1
  found : ∀ taken, s.taken = some taken → taken.found.status = .pending ∧
    taken.found.isOver taken.timestamp = false ∧
    taken.found.requiredApproval = s.row.requiredApproval
  completed : s.row.status = .completed → ∃ e ∈ s.executions, e.result = some true
  writer : ∀ approval, s.approval = some approval →
    ∃ taken, s.taken = some taken ∧ approval.writer = taken.index
  runner : ∀ e ∈ s.executions, ∃ taken, s.taken = some taken ∧ e.index = taken.index
  authorised : ∀ e ∈ s.executions, e.request.resolution = "approved" ∧
    ∀ layer ∈ uniqueStrings s.row.requiredApproval.approvalLayers,
      Satisfies s.row.requiredApproval e.request.approver e.bindings layer

def Closed (s : Shared) : Prop := s.row.status ≠ .pending ∧ s.taken = none

def Owner (s : Shared) (index : Nat) : Prop := ∃ taken, s.taken = some taken ∧ taken.index = index

def NotOwner (s : Shared) (index : Nat) : Prop :=
  ∀ taken, s.taken = some taken → taken.index ≠ index

/-- A single-use approval that the call has written is revoked. -/
def Idle (s : Shared) (index : Nat) : Prop :=
  ∀ approval, s.approval = some approval → approval.writer = index →
    approval.record.grantKind = "once" → approval.revoked = true

structure Authorised (s : Shared) (call : Call) (approving : Approving) : Prop where
  resolution : call.request.resolution = "approved"
  layers : ∀ layer ∈ uniqueStrings s.row.requiredApproval.approvalLayers,
    Satisfies s.row.requiredApproval call.request.approver approving.bindings layer

/-- The approval in the store is the one the call carries. -/
def Wrote (s : Shared) (approving : Approving) : Prop :=
  ∀ approval, s.approval = some approval → approving.record = some approval.record

def Ran (s : Shared) (ok : Bool) : Prop := ∃ e ∈ s.executions, e.result = some ok

def CallSound (s : Shared) (index : Nat) (call : Call) : Prop :=
  match call.point with
  | .reading | .resolving _ | .rereading => NotOwner s index
  | .measuring _ | .publishing _ => Closed s
  | .failing _ => Idle s index
  | .authorizing approving | .taking approving => NotOwner s index ∧ Authorised s call approving
  | .recording approving record =>
    Owner s index ∧ Authorised s call approving ∧ approving.record = some record ∧
      s.executions = [] ∧ s.approval = none
  | .announcing approving =>
    Owner s index ∧ Authorised s call approving ∧ s.executions = [] ∧ Wrote s approving
  | .executing approving =>
    Owner s index ∧ Wrote s approving ∧
      ∃ e, s.executions = [e] ∧ e.index = index ∧ e.result = none
  | .revoking ok => Owner s index ∧ ∀ result, ok = some result → Ran s result
  | .completing ok => Ran s ok ∧ Idle s index ∧ Owner s index
  | .reporting _ => Idle s index
  | .ended answer => (∀ status, answer.status = some status → status.refused → Closed s) ∧
      Idle s index

theorem NotOwner.idle (sound : SharedSound s) (notOwner : NotOwner s index) : Idle s index := by
  intro approval written isWriter
  obtain ⟨taken, isTaken, writer⟩ := sound.writer approval written
  exact absurd (writer.symm.trans isWriter) (notOwner taken isTaken)

theorem Closed.idle (sound : SharedSound s) (closed : Closed s) : Idle s index := by
  intro approval written
  rw [(sound.fresh closed.2).2] at written
  exact nomatch written

structure Steps (index : Nat) (s next : Shared) : Prop where
  row : next.row.requiredApproval = s.row.requiredApproval
  status : next.row.status = s.row.status ∨ s.row.status = .pending ∨ s.row.status = .approved
  stays : next.row.status = .pending → s.row.status = .pending
  taken : next.taken = s.taken ∨
    s.row.status = .pending ∧ ∃ taken, next.taken = some taken ∧ taken.index = index
  executions : next.executions = s.executions ∨ Owner s index
  approval : next.approval = s.approval ∨ Owner s index
  approvals : ∀ approval, next.approval = some approval → approval.writer = index ∨
    ∃ before, s.approval = some before ∧ before.writer = approval.writer ∧
      before.record = approval.record ∧ (before.revoked = true → approval.revoked = true)

theorem Steps.refl (index : Nat) (s : Shared) : Steps index s s where
  row := rfl
  status := .inl rfl
  stays := id
  taken := .inl rfl
  executions := .inl rfl
  approval := .inl rfl
  approvals := fun approval written => .inr ⟨approval, written, rfl, rfl, id⟩

theorem RowMoves.steps (moves : RowMoves s.row row) (index : Nat) :
    Steps index s { s with row := row } where
  row := by rw [moves.same]
  status := moves.moves
  stays := moves.stays
  taken := .inl rfl
  executions := .inl rfl
  approval := .inl rfl
  approvals := fun approval written => .inr ⟨approval, written, rfl, rfl, id⟩

section Stable

variable {other : Nat} (steps : Steps other s next)
include steps

theorem Steps.closed (closed : Closed s) : Closed next := by
  refine ⟨fun pending => closed.1 (steps.stays pending), ?_⟩
  rcases steps.taken with same | ⟨pending, -⟩
  · rw [same]
    exact closed.2
  · exact absurd pending closed.1

variable (differs : index ≠ other)

include differs in
theorem Steps.notOwner (notOwner : NotOwner s index) : NotOwner next index := by
  intro taken isTaken
  rcases steps.taken with same | ⟨-, found, isFound, isOther⟩
  · exact notOwner taken (same ▸ isTaken)
  · rw [isTaken] at isFound
    rw [Option.some.inj isFound, isOther]
    exact Ne.symm differs

theorem Steps.owner (sound : SharedSound s) (owner : Owner s index) : Owner next index := by
  rcases steps.taken with same | ⟨pending, -⟩
  · unfold Owner
    rw [same]
    exact owner
  · obtain ⟨taken, isTaken, -⟩ := owner
    rw [sound.pending pending] at isTaken
    exact nomatch isTaken

omit steps

variable (owner : Owner s index)

include owner in
theorem Owner.unique (second : Owner s other) : index = other := by
  obtain ⟨taken, isTaken, rfl⟩ := owner
  obtain ⟨found, isFound, rfl⟩ := second
  rw [isTaken] at isFound
  rw [Option.some.inj isFound]

include steps differs

include owner

theorem Steps.executions_eq : next.executions = s.executions :=
  steps.executions.resolve_right fun second => differs (owner.unique second)

theorem Steps.approval_eq : next.approval = s.approval :=
  steps.approval.resolve_right fun second => differs (owner.unique second)

omit owner

theorem Steps.idle (idle : Idle s index) : Idle next index := by
  intro approval written isWriter once
  rcases steps.approvals approval written with isOther | ⟨before, wasWritten, sameWriter, same, kept⟩
  · exact absurd (isWriter.symm.trans isOther) differs
  · exact kept (idle before wasWritten (sameWriter.trans isWriter) (by rw [same]; exact once))

omit differs

theorem Steps.authorised (authorised : Authorised s call approving) :
    Authorised next call approving where
  resolution := authorised.resolution
  layers := by
    rw [steps.row]
    exact authorised.layers

include differs owner

theorem Steps.wrote (wrote : Wrote s approving) : Wrote next approving := by
  unfold Wrote
  rw [steps.approval_eq differs owner]
  exact wrote

theorem Steps.ran (ran : Ran s ok) : Ran next ok := by
  unfold Ran
  rw [steps.executions_eq differs owner]
  exact ran

omit owner differs

theorem Steps.callSound (sound : SharedSound s)
    (differs : index ≠ other) (known : CallSound s index call) : CallSound next index call := by
  unfold CallSound at known ⊢
  split at known
  · exact steps.notOwner differs known
  · exact steps.notOwner differs known
  · exact steps.notOwner differs known
  · exact steps.closed known
  · exact steps.closed known
  · exact steps.idle differs known
  · exact ⟨steps.notOwner differs known.1, steps.authorised known.2⟩
  · exact ⟨steps.notOwner differs known.1, steps.authorised known.2⟩
  · obtain ⟨owner, authorised, record, none, unwritten⟩ := known
    exact ⟨steps.owner sound owner, steps.authorised authorised, record,
      (steps.executions_eq differs owner).trans none,
      (steps.approval_eq differs owner).trans unwritten⟩
  · obtain ⟨owner, authorised, none, wrote⟩ := known
    exact ⟨steps.owner sound owner, steps.authorised authorised,
      (steps.executions_eq differs owner).trans none, steps.wrote differs owner wrote⟩
  · obtain ⟨owner, wrote, execution⟩ := known
    refine ⟨steps.owner sound owner, steps.wrote differs owner wrote, ?_⟩
    rw [steps.executions_eq differs owner]
    exact execution
  · exact ⟨steps.owner sound known.1,
      fun result isResult => steps.ran differs known.1 (known.2 result isResult)⟩
  · obtain ⟨ran, idle, owner⟩ := known
    exact ⟨steps.ran differs owner ran, steps.idle differs idle, steps.owner sound owner⟩
  · exact steps.idle differs known
  · exact ⟨fun status reported refused => steps.closed (known.1 status reported refused),
      steps.idle differs known.2⟩

end Stable

end LicoMesh.PendingOperations
