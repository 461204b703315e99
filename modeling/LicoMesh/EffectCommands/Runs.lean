import LicoMesh.EffectCommands.Runtime

namespace LicoMesh.EffectCommands

open Library WorkQueue ProtectedSink List

/-! The sink is called at most once for an effect, under current authority, and with a record. -/

variable {compensates : Option OpaqueId} {phase : CallPhase} {records : EffectRecords}
  {permits : ActivePermits} {pending : PendingEffect} {answer : Option Json}
  {allowed : CurrentEffectAuthorization × PermitConsumptionReceipt} {runtime : EffectRuntime}
  {row : EffectCall} {env : EffectEnv}

namespace EffectRuntime

def sinkCalls (runtime : EffectRuntime) : List SinkCall :=
  runtime.trace.filterMap fun event =>
    match event with
    | .sinkCalled sinkCall => some sinkCall
    | _ => none

def Performs (runtime : EffectRuntime) (call : CallId) (bound : EffectBinding) : Prop :=
  ∃ row, runtime.calls.find? call = some row ∧ row.phase = .performing bound

def Records (runtime : EffectRuntime) (effectId : OpaqueId) : Prop :=
  (runtime.records.find? effectId.val).isSome = true

end EffectRuntime

/-- What was done before a call of the sink: a revalidation of the seven lookups that allowed it,
and the consumption of a permit. -/
structure AuthorizedBy (env : EffectEnv) (sinkCall : SinkCall) (earlier : List EffectEvent) :
    Prop where
  revalidated : ∃ request decision,
    .revalidated sinkCall.call request decision sinkCall.authority ∈ earlier ∧
      (∀ field ∈ sinkCall.bound.lookups.fields, request.get field.1 = field.2) ∧
        decision.get "allowed" = .bool true ∧
          sinkCall.authority.lookups = sinkCall.bound.lookups
  consumed : .consumed sinkCall.call sinkCall.input.permitReceipt ∈ earlier ∧
    PermitFor env sinkCall.bound sinkCall.authority sinkCall.input.permitReceipt

structure Sound (env : EffectEnv) (runtime : EffectRuntime) : Prop where
  once : (runtime.sinkCalls.map fun sinkCall => sinkCall.bound.effectId).Nodup
  unsettled : ∀ sinkCall ∈ runtime.sinkCalls, sinkCall.recordThen = none
  authorized : ∀ later sinkCall earlier,
    runtime.trace = later ++ .sinkCalled sinkCall :: earlier → AuthorizedBy env sinkCall earlier
  recorded : ∀ sinkCall ∈ runtime.sinkCalls,
    runtime.Performs sinkCall.call sinkCall.bound ∨ runtime.Records sinkCall.bound.effectId

structure Undisturbed (runtime : EffectRuntime) (effectId : OpaqueId) : Prop where
  unrecorded : ¬runtime.Records effectId
  alone : ∀ call bound, runtime.Performs call bound → bound.effectId ≠ effectId

/-- When an allowed revalidation comes back, no other execution of the effect has overtaken this
one; when a sink answers, there is room for its record. -/
def Unhindered (env : EffectEnv) (runtime : EffectRuntime) : EffectAction → Prop
  | .authorityAnswers call answer clock token =>
    ∀ row pending allowed, runtime.calls.find? call = some row →
      row.phase = .revalidating pending →
      (authorize env runtime.permits pending answer clock token).2 = .ok allowed →
      Undisturbed runtime pending.bound.effectId
  | .sinkAnswers call _ =>
    ∀ bound, runtime.Performs call bound →
      runtime.Records bound.effectId ∨ runtime.records.rows.length < maxRecords
  | _ => True

structure Accounted (env : EffectEnv) (runtime : EffectRuntime) : Prop where
  row_old : ∀ call row, runtime.calls.find? call = some row → call < runtime.nextCall
  call_old : ∀ sinkCall ∈ runtime.sinkCalls, sinkCall.call < runtime.nextCall
  called : ∀ call bound, runtime.Performs call bound →
    ∃ sinkCall ∈ runtime.sinkCalls, sinkCall.call = call ∧ sinkCall.bound = bound
  passed : ∀ sinkCall ∈ runtime.sinkCalls, ∀ row, runtime.calls.find? sinkCall.call = some row →
      row.phase = .performing sinkCall.bound ∨ ∃ outcome, row.phase = .settled outcome
  authorized : ∀ later sinkCall earlier,
    runtime.trace = later ++ .sinkCalled sinkCall :: earlier → AuthorizedBy env sinkCall earlier

def Grows (records later : EffectRecords) : Prop :=
  ∀ effectId, (records.find? effectId).isSome = true → (later.find? effectId).isSome = true

theorem Grows.refl (records : EffectRecords) : Grows records records := fun _ present => present

theorem remember_grows (ok : remember records record = .ok remembered) : Grows records remembered ∧
      (remembered.find? record.binding.effectId.val).isSome = true := by
  unfold remember at ok
  split at ok
  · cases ok
  · cases ok
    refine ⟨fun effectId present => ?_, ?_⟩
    · rw [Table.find?_set]
      split
      · rfl
      · exact present
    · rw [Table.find?_set, if_pos rfl]
      rfl

theorem rememberOutcome_grows (records : EffectRecords)
    (settled : Except EffectError EffectRecord) (extras : EffectRecord → Extras) :
    Grows records (rememberOutcome records settled extras).1 := by
  unfold rememberOutcome
  split
  · exact .refl records
  · split
    · exact .refl records
    · rename_i remembered ok
      exact (remember_grows ok).1

theorem settledRecord_ok (bound : EffectBinding) (resultState : ResultState)
    (cancellationState : CancellationState) (resolved : Bool) (reasonCode : String) :
    settledRecord bound resultState cancellationState resolved reasonCode =
      .ok ⟨bound, ⟨bound, cancellationState, resultState⟩, resultState, cancellationState,
        resolved, reasonCode⟩ := by
  unfold settledRecord
  rw [EffectBinding.toCommand_ok]
  rfl

theorem rememberOutcome_record (records : EffectRecords) (record : EffectRecord)
    (extras : EffectRecord → Extras) :
    ((records.find? record.binding.effectId.val).isSome = true ∨ records.rows.length < maxRecords →
      ((rememberOutcome records (.ok record) extras).1.find?
        record.binding.effectId.val).isSome = true) ∧
    (¬((records.find? record.binding.effectId.val).isSome = true ∨
        records.rows.length < maxRecords) →
      (rememberOutcome records (.ok record) extras).1 = records) := by
  have decided : remember records record =
      if (records.find? record.binding.effectId.val).isSome = true ∨
          records.rows.length < maxRecords then .ok (records.set record)
      else .error .backpressure := by
    unfold remember
    cases found : records.find? record.binding.effectId.val with
    | none =>
      simp only [true_and, Option.isSome_none, Bool.false_eq_true, false_or]
      split
      · rename_i full
        rw [if_neg (Nat.not_lt.mpr full)]
      · rename_i room
        rw [if_pos (Nat.not_le.mp room)]
    | some existing => simp
  constructor
  · intro room
    unfold rememberOutcome
    dsimp only
    rw [decided, if_pos room]
    rw [Table.find?_set, if_pos rfl]
    rfl
  · intro full
    unfold rememberOutcome
    dsimp only
    rw [decided, if_neg full]

theorem beginExecution_spec (records : EffectRecords) (input : Json) :
    Grows records (beginExecution records input).1 ∧
      ∀ bound, (beginExecution records input).2 ≠ .performing bound := by
  unfold beginExecution
  split
  · exact ⟨.refl records, by simp⟩
  · split
    · exact ⟨.refl records, by simp⟩
    · split
      · exact ⟨rememberOutcome_grows records _ _, by simp⟩
      · exact ⟨.refl records, by simp⟩

theorem cancel_grows (records : EffectRecords) (input : Json) :
    Grows records (cancel records input).1 := by
  unfold cancel
  split
  · exact .refl records
  · split
    · exact .refl records
    · split
      · exact .refl records
      · exact rememberOutcome_grows records _ _

theorem request_lookups (pending : PendingEffect) :
    ∀ field ∈ pending.bound.lookups.fields, pending.request.get field.1 = field.2 := by
  have nonempty : ∀ id : OpaqueId, id.val ≠ "" := fun id => id.property.1
  intro field member
  unfold Lookups.fields at member
  simp only [mem_cons, not_mem_nil, or_false] at member
  obtain rfl | rfl | rfl | rfl | rfl | rfl | rfl := member <;>
    simp [PendingEffect.request, PendingEffect.input, spread, fieldsOf, Json.get, EffectBinding.fields, Lookups.fields,
      orElse, Json.isTruthy, nonempty]

theorem authorize_ok (ok : (authorize env permits pending answer clock token).2 = .ok allowed) :
    (∃ decision, answer = some decision ∧ decision.get "allowed" = .bool true) ∧
      allowed.1.lookups = pending.bound.lookups ∧ PermitFor env pending.bound allowed.1 allowed.2 := by
  unfold authorize at ok
  split at ok
  · cases ok
  · rename_i authority current
    split at ok
    · cases ok
    · split at ok
      · cases ok
      · rename_i same
        dsimp only at ok
        cases consumed :
            (consumeEffectPermit env permits pending.bound authority clock token).2 with
        | error reason =>
          rw [consumed] at ok
          cases ok
        | ok receipt =>
          rw [consumed] at ok
          cases ok
          exact ⟨currentAuthority_ok current, Decidable.not_not.mp same,
            consumeEffectPermit_ok consumed⟩

namespace EffectRuntime

end EffectRuntime

variable (accounted : Accounted env runtime)
include accounted

theorem addCall_accounted (waits : ∀ bound, phase ≠ .performing bound) :
    Accounted env (runtime.addCall records compensates phase) := by
  have finds : ∀ call, (runtime.addCall records compensates phase).calls.find? call =
      if call = runtime.nextCall then some ⟨runtime.nextCall, compensates, phase⟩
      else runtime.calls.find? call := fun call => Table.find?_set _ _ call
  constructor
  case row_old =>
    intro call row found
    rw [finds] at found
    split at found
    · rename_i isNew
      exact isNew ▸ Nat.lt_succ_self call
    · exact Nat.lt_succ_of_lt (accounted.row_old call row found)
  case call_old =>
    intro sinkCall member
    exact Nat.lt_succ_of_lt (accounted.call_old sinkCall member)
  case called =>
    rintro call bound ⟨row, found, performs⟩
    rw [finds] at found
    split at found
    · cases found
      exact absurd performs (waits bound)
    · exact accounted.called call bound ⟨row, found, performs⟩
  case passed =>
    intro sinkCall member row found
    have old := accounted.call_old sinkCall member
    rw [finds, if_neg (Nat.ne_of_lt old)] at found
    exact accounted.passed sinkCall member row found
  case authorized => exact accounted.authorized

variable (sound : Sound env runtime)

include sound in
theorem addCall_sound (grows : Grows runtime.records records) :
    Sound env (runtime.addCall records compensates phase) := by
  refine ⟨sound.once, sound.unsettled, sound.authorized, ?_⟩
  intro sinkCall member
  obtain ⟨row, found, performs⟩ | recorded := sound.recorded sinkCall member
  · have old := accounted.call_old sinkCall member
    refine .inl ⟨row, ?_, performs⟩
    change (runtime.calls.set _).find? sinkCall.call = some row
    rw [Table.find?_set, if_neg (Nat.ne_of_lt old)]
    exact found
  · exact .inr (grows _ recorded)

variable (found : runtime.calls.find? row.call = some row)

include found in
theorem settle_accounted : Accounted env
      ({ runtime with records := records, permits := permits }.settle row outcome) := by
  have finds : ∀ call,
      ({ runtime with records := records, permits := permits }.settle row outcome).calls.find?
          call =
        if call = row.call then
          some { row with phase := .settled (outcome.map (compensationResult row.compensates)) }
        else runtime.calls.find? call := fun call => Table.find?_set _ _ call
  constructor
  case row_old =>
    intro call other foundOther
    rw [finds] at foundOther
    split at foundOther
    · rename_i same
      exact accounted.row_old call row (same ▸ found)
    · exact accounted.row_old call other foundOther
  case call_old => exact accounted.call_old
  case called =>
    rintro call bound ⟨other, foundOther, performs⟩
    rw [finds] at foundOther
    split at foundOther
    · cases foundOther
      cases performs
    · exact accounted.called call bound ⟨other, foundOther, performs⟩
  case passed =>
    intro sinkCall member other foundOther
    rw [finds] at foundOther
    split at foundOther
    · cases foundOther
      exact .inr ⟨_, rfl⟩
    · exact accounted.passed sinkCall member other foundOther
  case authorized => exact accounted.authorized

omit accounted

include sound in
theorem settle_sound
    (grows : Grows runtime.records records) (found : runtime.calls.find? row.call = some row)
    (ends : ∀ bound, row.phase = .performing bound →
      (records.find? bound.effectId.val).isSome = true) :
    Sound env ({ runtime with records := records, permits := permits }.settle row outcome) := by
  refine ⟨sound.once, sound.unsettled, sound.authorized, ?_⟩
  intro sinkCall member
  obtain ⟨other, foundOther, performs⟩ | recorded := sound.recorded sinkCall member
  · by_cases same : sinkCall.call = row.call
    · rw [same, found] at foundOther
      cases foundOther
      exact .inr (ends sinkCall.bound performs)
    · refine .inl ⟨other, ?_, performs⟩
      change (runtime.calls.set _).find? sinkCall.call = some other
      rw [Table.find?_set]
      exact (if_neg same).trans foundOther
  · exact .inr (grows _ recorded)

def performed (runtime : EffectRuntime) (row : EffectCall) (pending : PendingEffect)
    (answer : Option Json) (permits : ActivePermits) (authority : CurrentEffectAuthorization)
    (receipt : PermitConsumptionReceipt) : EffectRuntime :=
  { runtime with
    permits := permits
    trace :=
      .sinkCalled ⟨row.call, pending.bound, authority,
          sinkInput env pending.bound authority receipt,
          runtime.records.find? pending.bound.effectId.val⟩ ::
        .consumed row.call receipt :: EffectRuntime.revalidation row pending answer authority ::
          runtime.trace }.setPhase row (.performing pending.bound)

theorem answerAuthority_eq (env : EffectEnv) (runtime : EffectRuntime) (row : EffectCall) (pending : PendingEffect)
    (answer : Option Json) (clock : Int) (token : PermitToken) :
    (∃ reason, (authorize env runtime.permits pending answer clock token).2 = .error reason ∧
        runtime.answerAuthority env row pending answer clock token =
          { runtime with
            permits := (authorize env runtime.permits pending answer clock token).1 }.settle row
              (.ok (denied none reason pending.bound.effectId.val true true))) ∨
    ∃ allowed, (authorize env runtime.permits pending answer clock token).2 = .ok allowed ∧
      runtime.answerAuthority env row pending answer clock token =
        @performed env runtime row pending answer
          (authorize env runtime.permits pending answer clock token).1 allowed.1 allowed.2 := by
  unfold EffectRuntime.answerAuthority
  dsimp only
  cases (authorize env runtime.permits pending answer clock token).2 with
  | error reason => exact .inl ⟨reason, rfl, rfl⟩
  | ok allowed => exact .inr ⟨allowed, rfl, rfl⟩

theorem performed_sinkCalls (env : EffectEnv) (runtime : EffectRuntime) (row : EffectCall) (pending : PendingEffect)
    (answer : Option Json) (permits : ActivePermits) (authority : CurrentEffectAuthorization)
    (receipt : PermitConsumptionReceipt) :
    (@performed env runtime row pending answer permits authority receipt).sinkCalls =
      ⟨row.call, pending.bound, authority, sinkInput env pending.bound authority receipt,
        runtime.records.find? pending.bound.effectId.val⟩ :: runtime.sinkCalls := rfl

theorem performed_find? (runtime : EffectRuntime) (row : EffectCall) (pending : PendingEffect)
    (answer : Option Json) (permits : ActivePermits) (authority : CurrentEffectAuthorization)
    (receipt : PermitConsumptionReceipt) (call : CallId) :
    (@performed env runtime row pending answer permits authority receipt).calls.find? call =
      if call = row.call then some { row with phase := .performing pending.bound }
      else runtime.calls.find? call :=
  Table.find?_set _ _ call

theorem performed_authorized
    (decided : ∃ decision, answer = some decision ∧ decision.get "allowed" = .bool true)
    (same : allowed.1.lookups = pending.bound.lookups)
    (permit : PermitFor env pending.bound allowed.1 allowed.2)
    (authorized : ∀ later sinkCall earlier,
      runtime.trace = later ++ .sinkCalled sinkCall :: earlier →
        AuthorizedBy env sinkCall earlier) : ∀ later sinkCall earlier,
      (@performed env runtime row pending answer permits allowed.1 allowed.2).trace =
        later ++ .sinkCalled sinkCall :: earlier → AuthorizedBy env sinkCall earlier := by
  obtain ⟨decision, rfl, isAllowed⟩ := decided
  intro later sinkCall earlier split
  cases later with
  | nil =>
    obtain ⟨first, rfl⟩ := cons.inj split
    cases first
    refine ⟨⟨pending.request, decision, ?_, request_lookups pending, isAllowed, same⟩, ?_, permit⟩
    · exact mem_cons_of_mem _ mem_cons_self
    · exact mem_cons_self
  | cons _ later =>
    obtain ⟨_, split⟩ := cons.inj split
    cases later with
    | nil =>
      obtain ⟨first, _⟩ := cons.inj split
      cases first
    | cons _ later =>
      obtain ⟨_, split⟩ := cons.inj split
      cases later with
      | nil =>
        obtain ⟨first, _⟩ := cons.inj split
        cases first
      | cons _ later =>
        obtain ⟨_, split⟩ := cons.inj split
        exact authorized later sinkCall earlier split

include accounted

include found in
theorem performed_accounted (waits : row.phase = .revalidating pending)
    (decided : ∃ decision, answer = some decision ∧ decision.get "allowed" = .bool true)
    (same : allowed.1.lookups = pending.bound.lookups)
    (permit : PermitFor env pending.bound allowed.1 allowed.2) : Accounted env
      (@performed env runtime row pending answer permits allowed.1 allowed.2) := by
  constructor
  case row_old =>
    intro call other foundOther
    rw [performed_find?] at foundOther
    split at foundOther
    · rename_i isRow
      exact accounted.row_old call row (isRow ▸ found)
    · exact accounted.row_old call other foundOther
  case call_old =>
    intro sinkCall member
    obtain rfl | member := mem_cons.mp member
    · exact accounted.row_old row.call row found
    · exact accounted.call_old sinkCall member
  case called =>
    rintro call bound ⟨other, foundOther, performs⟩
    rw [performed_find?] at foundOther
    split at foundOther
    · rename_i isRow
      cases foundOther
      cases performs
      exact ⟨_, mem_cons_self, isRow.symm, rfl⟩
    · obtain ⟨sinkCall, member, facts⟩ := accounted.called call bound ⟨other, foundOther, performs⟩
      exact ⟨sinkCall, mem_cons_of_mem _ member, facts⟩
  case passed =>
    intro sinkCall member other foundOther
    rw [performed_find?] at foundOther
    obtain rfl | member := mem_cons.mp member
    · rw [if_pos rfl] at foundOther
      cases foundOther
      exact .inl rfl
    · -- A call that waited for its revalidation has not called the sink.
      have isOther : sinkCall.call ≠ row.call := by
        intro isRow
        obtain performs | ⟨outcome, settled⟩ := accounted.passed sinkCall member row (isRow ▸ found)
        · rw [waits] at performs
          cases performs
        · rw [waits] at settled
          cases settled
      rw [if_neg isOther] at foundOther
      exact accounted.passed sinkCall member other foundOther
  case authorized => exact performed_authorized decided same permit accounted.authorized

include sound found

theorem performed_sound (waits : row.phase = .revalidating pending)
    (decided : ∃ decision, answer = some decision ∧ decision.get "allowed" = .bool true)
    (same : allowed.1.lookups = pending.bound.lookups)
    (permit : PermitFor env pending.bound allowed.1 allowed.2) :
    Undisturbed runtime pending.bound.effectId ↔
      Sound env (@performed env runtime row pending answer permits allowed.1 allowed.2) := by
  constructor
  · intro undisturbed
    have unrecorded : runtime.records.find? pending.bound.effectId.val = none := by
      cases stored : runtime.records.find? pending.bound.effectId.val with
      | none => rfl
      | some record =>
        refine absurd ?_ undisturbed.unrecorded
        unfold EffectRuntime.Records
        rw [stored]
        rfl
    constructor
    case once =>
      rw [performed_sinkCalls, map_cons, nodup_cons]
      refine ⟨?_, sound.once⟩
      intro again
      obtain ⟨sinkCall, member, sameEffect⟩ := mem_map.mp again
      obtain performs | recorded := sound.recorded sinkCall member
      · exact undisturbed.alone sinkCall.call sinkCall.bound performs sameEffect
      · rw [sameEffect] at recorded
        exact undisturbed.unrecorded recorded
    case unsettled =>
      intro sinkCall member
      obtain rfl | member := mem_cons.mp member
      · exact unrecorded
      · exact sound.unsettled sinkCall member
    case authorized => exact performed_authorized decided same permit accounted.authorized
    case recorded =>
      intro sinkCall member
      obtain rfl | member := mem_cons.mp member
      · refine .inl ⟨{ row with phase := .performing pending.bound }, ?_, rfl⟩
        rw [performed_find?, if_pos rfl]
      · obtain ⟨other, foundOther, performs⟩ | recorded := sound.recorded sinkCall member
        · refine .inl ⟨other, ?_, performs⟩
          have isOther : sinkCall.call ≠ row.call := by
            intro isRow
            rw [isRow, found] at foundOther
            cases foundOther
            rw [waits] at performs
            cases performs
          rw [performed_find?, if_neg isOther]
          exact foundOther
        · exact .inr recorded
  · intro next
    constructor
    · intro recorded
      have empty := next.unsettled _ (performed_sinkCalls env runtime row pending answer
        permits allowed.1 allowed.2 ▸ mem_cons_self)
      dsimp only at empty
      unfold EffectRuntime.Records at recorded
      rw [empty] at recorded
      cases recorded
    · intro call bound performs sameEffect
      obtain ⟨sinkCall, member, _, sameBound⟩ := accounted.called call bound performs
      have once := next.once
      rw [performed_sinkCalls, map_cons, nodup_cons] at once
      refine once.1 (mem_map.mpr ⟨sinkCall, member, ?_⟩)
      rw [sameBound]
      exact sameEffect

theorem answerSink_sound (performs : row.phase = .performing bound) :
    (runtime.Records bound.effectId ∨ runtime.records.rows.length < maxRecords) ↔
      Sound env (runtime.answerSink row bound answer) := by
  have ends : ∃ record extras, record.binding = bound ∧
      (endExecution runtime.records bound answer) =
        rememberOutcome runtime.records (.ok record) extras := by
    unfold endExecution
    cases answer with
    | none =>
      rw [settledRecord_ok]
      exact ⟨_, _, rfl, rfl⟩
    | some answer =>
      dsimp only
      rw [settledRecord_ok]
      exact ⟨_, _, rfl, rfl⟩
  obtain ⟨record, extras, rfl, ended⟩ := ends
  obtain ⟨remembers, forgets⟩ := rememberOutcome_record runtime.records record extras
  unfold EffectRuntime.answerSink
  dsimp only
  rw [ended]
  constructor
  · intro room
    refine settle_sound sound (rememberOutcome_grows runtime.records _ extras) found ?_
    intro other performsOther
    rw [performs] at performsOther
    cases performsOther
    exact remembers room
  · intro next
    apply Classical.byContradiction
    intro full
    obtain ⟨sinkCall, member, sameCall, sameBound⟩ :=
      accounted.called row.call record.binding ⟨row, found, performs⟩
    obtain ⟨other, foundOther, performsOther⟩ | recorded := next.recorded sinkCall member
    · change (runtime.calls.set _).find? sinkCall.call = some other at foundOther
      rw [Table.find?_set, if_pos sameCall] at foundOther
      cases foundOther
      cases performsOther
    · rw [sameBound] at recorded
      rw [forgets full] at recorded
      exact full (.inl recorded)

omit found sound

omit accounted

theorem compensate_eq (runtime : EffectRuntime) (input : Json) : ∃ records compensates phase,
      runtime.compensate input = runtime.addCall records compensates phase ∧
      Grows runtime.records records ∧ ∀ bound, phase ≠ .performing bound := by
  unfold EffectRuntime.compensate
  dsimp only
  split
  · exact ⟨_, _, _, rfl, .refl _, by simp⟩
  · rename_i existing _
    split
    · exact ⟨_, _, _, rfl, .refl _, by simp⟩
    · rename_i compensation _
      obtain ⟨grows, waits⟩ := beginExecution_spec runtime.records compensation
      refine ⟨_, _, _, rfl, grows, ?_⟩
      intro bound
      cases phase : (beginExecution runtime.records compensation).2 with
      | performing other => exact absurd phase (waits other)
      | revalidating pending => simp [EffectRuntime.settleCompensation]
      | settled outcome => simp [EffectRuntime.settleCompensation]

theorem step_spec (runtime : EffectRuntime) (action : EffectAction)
    (accounted : Accounted env runtime) :
    Accounted env (runtime.step env action) ∧ (Sound env runtime →
        (Unhindered env runtime action ↔ Sound env (runtime.step env action))) := by
  have adds : ∀ records compensates phase, Grows runtime.records records →
      (∀ bound, phase ≠ .performing bound) →
      Accounted env (runtime.addCall records compensates phase) ∧
        (Sound env runtime → Sound env (runtime.addCall records compensates phase)) :=
    fun records compensates phase grows waits =>
      ⟨addCall_accounted accounted waits, fun sound => addCall_sound accounted sound grows⟩
  cases action with
  | execute input =>
    obtain ⟨grows, waits⟩ := beginExecution_spec runtime.records input
    obtain ⟨keeps, stays⟩ := adds _ none _ grows waits
    exact ⟨keeps, fun sound => ⟨fun _ => stays sound, fun _ => trivial⟩⟩
  | retry input =>
    obtain ⟨keeps, stays⟩ := adds _ none
      (.settled (.ok (retry runtime.records input))) (.refl _) (by simp)
    exact ⟨keeps, fun sound => ⟨fun _ => stays sound, fun _ => trivial⟩⟩
  | cancel input =>
    obtain ⟨keeps, stays⟩ := adds _ none (.settled (cancel runtime.records input).2)
      (cancel_grows runtime.records input) (by simp)
    exact ⟨keeps, fun sound => ⟨fun _ => stays sound, fun _ => trivial⟩⟩
  | compensate input =>
    obtain ⟨records, compensates, phase, same, grows, waits⟩ := compensate_eq runtime input
    obtain ⟨keeps, stays⟩ := adds records compensates phase grows waits
    change Accounted env (runtime.compensate input) ∧
      (Sound env runtime → (True ↔ Sound env (runtime.compensate input)))
    rw [same]
    exact ⟨keeps, fun sound => ⟨fun _ => stays sound, fun _ => trivial⟩⟩
  | permitsChange permits =>
    refine ⟨⟨accounted.row_old, accounted.call_old, accounted.called, accounted.passed,
      accounted.authorized⟩, fun sound => ⟨fun _ => ?_, fun _ => trivial⟩⟩
    exact ⟨sound.once, sound.unsettled, sound.authorized, sound.recorded⟩
  | authorityAnswers call answer clock token =>
    have idle : ∀ row, runtime.calls.find? call = row →
        (∀ found pending, row = some found → found.phase ≠ .revalidating pending) →
        Unhindered env runtime (.authorityAnswers call answer clock token) := by
      intro row found other found' pending allowed foundAgain waits
      exact absurd waits (other found' pending (found.symm.trans foundAgain))
    unfold EffectRuntime.step
    dsimp only
    split
    · rename_i other compensates pending found
      obtain rfl : other = call := runtime.calls.key_of_find? found
      obtain ⟨reason, refused, same⟩ | ⟨allowed, ok, same⟩ :=
        answerAuthority_eq env runtime ⟨other, compensates, .revalidating pending⟩
          pending answer clock token
      · rw [same]
        refine ⟨settle_accounted accounted found, fun sound => ⟨fun _ => ?_, fun _ => ?_⟩⟩
        · apply settle_sound sound (.refl _) found
          intro bound performs
          cases performs
        · intro row pending' allowed foundAgain waits ok
          cases found.symm.trans foundAgain
          cases waits
          rw [refused] at ok
          cases ok
      · obtain ⟨decided, sameLookups, permit⟩ := authorize_ok ok
        rw [same]
        refine ⟨performed_accounted accounted found rfl decided sameLookups permit,
          fun sound => ?_⟩
        rw [← performed_sound accounted sound found rfl decided sameLookups permit]
        constructor
        · intro unhindered
          exact unhindered _ pending allowed found rfl ok
        · intro undisturbed row pending' allowed' foundAgain waits _
          cases found.symm.trans foundAgain
          cases waits
          exact undisturbed
    · rename_i other
      refine ⟨accounted, fun sound => ⟨fun _ => sound, fun _ => idle _ rfl ?_⟩⟩
      rintro ⟨own, compensates, phase⟩ pending found waits
      cases waits
      exact other own compensates pending found
  | sinkAnswers call answer =>
    unfold EffectRuntime.step
    dsimp only
    split
    · rename_i other compensates bound found
      obtain rfl : other = call := runtime.calls.key_of_find? found
      refine ⟨settle_accounted accounted found, fun sound => ?_⟩
      rw [← answerSink_sound accounted sound found rfl]
      constructor
      · intro unhindered
        exact unhindered bound ⟨_, found, rfl⟩
      · rintro room bound' ⟨row, foundAgain, performs⟩
        cases found.symm.trans foundAgain
        cases performs
        exact room
    · rename_i other
      refine ⟨accounted, fun sound => ⟨fun _ => sound, fun _ => ?_⟩⟩
      rintro bound ⟨⟨own, compensates, phase⟩, found, performs⟩
      cases performs
      exact absurd found (other own compensates bound)

theorem initial_accounted (env : EffectEnv) (permits : ActivePermits) :
    Accounted env (.initial permits) ∧ Sound env (.initial permits) := by
  have empty : ∀ later sinkCall earlier,
      ([] : List EffectEvent) = later ++ .sinkCalled sinkCall :: earlier →
        AuthorizedBy env sinkCall earlier := by
    intro later sinkCall earlier same
    cases later <;> cases same
  have noCall : ∀ sinkCall, sinkCall ∉ (EffectRuntime.initial permits).sinkCalls :=
    fun _ => not_mem_nil
  refine ⟨⟨?_, ?_, ?_, ?_, empty⟩, ⟨nodup_nil, ?_, empty, ?_⟩⟩
  · exact fun call row found => absurd found (by simp [EffectRuntime.initial])
  · exact fun sinkCall member => absurd member (noCall sinkCall)
  · rintro call bound ⟨row, found, _⟩
    exact absurd found (by simp [EffectRuntime.initial])
  · exact fun sinkCall member => absurd member (noCall sinkCall)
  · exact fun sinkCall member => absurd member (noCall sinkCall)
  · exact fun sinkCall member => absurd member (noCall sinkCall)

/-- Also along a run with hindered steps each call of the sink comes after a revalidation that allowed
it and a permit that was consumed for it, and its execution performs it or has settled. -/
theorem sink_calls_authorized (env : EffectEnv) (permits : ActivePermits)
    (actions : List EffectAction) : Accounted env (.run env permits actions) :=
  runAll_invariant (fun runtime action accounted => (step_spec runtime action accounted).1)
    (initial_accounted env permits).1 actions

/-- The promises about the sink hold at every point of a run exactly when none of its steps is
hindered. -/
theorem sink_calls_sound_iff (env : EffectEnv) (permits : ActivePermits)
    (actions : List EffectAction) :
    (∀ earlier, earlier <+: actions → Sound env (EffectRuntime.run env permits earlier)) ↔
      EachCommand (EffectRuntime.step env) (Unhindered env) (.initial permits) actions := by
  have stays : ∀ runtime action, Accounted env runtime →
      Accounted env (runtime.step env action) :=
    fun runtime action accounted => (step_spec runtime action accounted).1
  have exact_step : ∀ runtime action, Accounted env runtime → Sound env runtime →
      (Unhindered env runtime action ↔ Sound env (runtime.step env action)) :=
    fun runtime action accounted => (step_spec runtime action accounted).2
  obtain ⟨accounted, sound⟩ := initial_accounted env permits
  exact eachCommand_iff_prefixes stays exact_step accounted sound actions

def plainEnv : EffectEnv where
  sha256 := fun _ => ⟨replicate 32 0, rfl⟩
  digestGovernedExecutionRequest := fun _ => "request"

def plainLookups : List (String × Json) :=
  [("principalLookup", .str "prin.1"), ("grantLookup", .str "gr.1"), ("targetRef", .str "tgt.1"),
    ("policyRef", .str "pol.1"), ("approvalLookup", .str "apr.1"), ("audienceRef", .str "aud.1"),
    ("requestRef", .str "req.1")]

def plainEffect : Json :=
  .obj ([("effectId", .str "eff.1"), ("idempotency", .str "non_idempotent")] ++ plainLookups)

def plainToken : PermitToken := ⟨"mxp_token", by decide +kernel⟩

def allowedAnswer : Json := .obj [("allowed", .bool true)]

/-- The second execution begins before the first one has a record. -/
def overlappingExecutions : List EffectAction :=
  [.execute plainEffect, .execute plainEffect,
    .authorityAnswers 0 (some allowedAnswer) 0 plainToken,
    .authorityAnswers 1 (some allowedAnswer) 0 plainToken]

/-- Both executions reach the sink. -/
theorem overlapping_executions_not_sound : ¬∀ earlier, earlier <+: overlappingExecutions →
      Sound plainEnv (EffectRuntime.run plainEnv .empty earlier) := by
  intro all
  have once := (all overlappingExecutions (prefix_refl _)).once
  have twice : ¬((EffectRuntime.run plainEnv .empty overlappingExecutions).sinkCalls.map
      fun sinkCall => sinkCall.bound.effectId).Nodup := by
    decide +kernel
  exact twice once

end LicoMesh.EffectCommands
