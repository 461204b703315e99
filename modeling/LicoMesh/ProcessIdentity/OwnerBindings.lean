import LicoMesh.ProcessIdentity.LoadedStates

namespace LicoMesh.ProcessIdentity

open List

open Library WorkQueue

/-! Owner process bindings over whole runs: retirement, revocation and idempotent issue. -/

variable {state after : State} {env : ServiceEnv} {config : Config} {operation : Operation}
  {body : Instant → State → Body} {id : CallId} {event : Event} {owner : OwnerBindingDecision}
  {stateFile : Option SealedRecord} {holds : State → Prop} {binding other : OwnerProcessBinding}
  {ownerId ownerGenerationDigest : String} {now : Instant} {decision : Decision}
  {loaded : SealedRecord} {input : OwnerBindingInput} {call : Call}

def OwnerProcessBinding.issued (binding : OwnerProcessBinding) : OwnerProcessBinding :=
  { binding with status := .valid, revokedAt := none, receiptDigest := "" }

open OwnerProcessBinding

variable (same : other.issued = binding.issued)
include same

theorem OwnerProcessBinding.ref_of_issued :
    other.processIdentityRef = binding.processIdentityRef := by
  change other.issued.processIdentityRef = binding.issued.processIdentityRef
  rw [same]

theorem OwnerProcessBinding.key_of_issued :
    other.idempotencyKeyDigest = binding.idempotencyKeyDigest := by
  change other.issued.idempotencyKeyDigest = binding.issued.idempotencyKeyDigest
  rw [same]

theorem OwnerProcessBinding.owner_of_issued : other.ownerId = binding.ownerId ∧
      other.ownerGenerationDigest = binding.ownerGenerationDigest := by
  change other.issued.ownerId = binding.issued.ownerId ∧
    other.issued.ownerGenerationDigest = binding.issued.ownerGenerationDigest
  rw [same]
  exact ⟨rfl, rfl⟩

omit same

namespace State

/-- What `normalizeState` leaves of bindings and retired generations. -/
structure Named (state : State) : Prop where
  bindings : ∀ binding ∈ state.ownerProcessBindings,
    binding.processIdentityRef ≠ "" ∧ binding.bindingRef ≠ ""
  generations : ∀ entry ∈ state.retiredOwnerProcessBindingGenerations,
    entry.ownerId ≠ "" ∧ isDigestText entry.ownerGenerationDigest = true

theorem Named.bindings_normalizeState (named : state.Named) :
    (normalizeState state).ownerProcessBindings = state.ownerProcessBindings := by
  refine filter_eq_self.mpr ?_
  intro binding member
  simpa using named.bindings binding member

theorem Named.generations_normalizeState (named : state.Named) :
    (normalizeState state).retiredOwnerProcessBindingGenerations =
      state.retiredOwnerProcessBindingGenerations := by
  refine filter_eq_self.mpr ?_
  intro entry member
  simpa using named.generations entry member

/-- One binding for each idempotency key, and only revoked ones in a retired generation. -/
structure Consistent (state : State) : Prop where
  named : state.Named
  keys : (state.ownerProcessBindings.map (·.idempotencyKeyDigest)).Nodup
  retired : ∀ binding ∈ state.ownerProcessBindings,
    state.IsRetired binding.ownerId binding.ownerGenerationDigest = true → binding.status = .revoked

/-- Two bindings have different references: no two digests collide. -/
abbrev DistinctRefs (state : State) : Prop :=
  (state.ownerProcessBindings.map (·.processIdentityRef)).Nodup

/-- Nothing retired or revoked comes back, and no binding is dropped. -/
structure Retains (state next : State) : Prop where
  generations : ∀ ownerId ownerGenerationDigest,
    state.IsRetired ownerId ownerGenerationDigest = true →
      next.IsRetired ownerId ownerGenerationDigest = true
  bindings : ∀ binding ∈ state.ownerProcessBindings, ∃ later ∈ next.ownerProcessBindings,
    later.issued = binding.issued ∧ (binding.status = .revoked → later.status = .revoked)

theorem Retains.refl (state : State) : state.Retains state where
  generations _ _ retired := retired
  bindings binding member := ⟨binding, member, rfl, fun revoked => revoked⟩

theorem Retains.trans {first second third : State} (left : first.Retains second)
    (right : second.Retains third) : first.Retains third where
  generations ownerId digest retired :=
    right.generations ownerId digest (left.generations ownerId digest retired)
  bindings binding member := by
    obtain ⟨middle, middleMember, same, revoked⟩ := left.bindings binding member
    obtain ⟨later, laterMember, same', revoked'⟩ := right.bindings middle middleMember
    exact ⟨later, laterMember, same'.trans same, fun h => revoked' (revoked h)⟩

variable {next : State}

theorem Consistent.of_equal (consistent : state.Consistent)
    (bindings : next.ownerProcessBindings = state.ownerProcessBindings)
    (generations : next.retiredOwnerProcessBindingGenerations =
      state.retiredOwnerProcessBindingGenerations) : next.Consistent where
  named := ⟨bindings ▸ consistent.named.bindings, generations ▸ consistent.named.generations⟩
  keys := bindings ▸ consistent.keys
  retired := by
    intro binding member retired
    rw [bindings] at member
    unfold IsRetired at retired
    rw [generations] at retired
    exact consistent.retired binding member retired

theorem Retains.of_equal (bindings : next.ownerProcessBindings = state.ownerProcessBindings)
    (generations : next.retiredOwnerProcessBindingGenerations =
      state.retiredOwnerProcessBindingGenerations) : state.Retains next where
  generations _ _ retired := by
    unfold IsRetired at retired ⊢
    rw [generations]
    exact retired
  bindings binding member := ⟨binding, bindings ▸ member, rfl, fun revoked => revoked⟩

theorem Consistent.normalizeState (consistent : state.Consistent) :
    (normalizeState state).Consistent :=
  consistent.of_equal consistent.named.bindings_normalizeState
    consistent.named.generations_normalizeState

theorem Consistent.retains_normalizeState (consistent : state.Consistent) :
    state.Retains (ProcessIdentity.normalizeState state) :=
  .of_equal consistent.named.bindings_normalizeState
    consistent.named.generations_normalizeState

theorem consistent_fresh (identity : ServerIdentity) : (State.fresh identity).Consistent where
  named := ⟨by simp [State.fresh], by simp [State.fresh]⟩
  keys := nodup_nil
  retired := by simp [State.fresh]

theorem Consistent.insertBinding (consistent : state.Consistent)
    (live : state.IsRetired binding.ownerId binding.ownerGenerationDigest = false)
    (absent : ∀ existing ∈ state.ownerProcessBindings,
      existing.idempotencyKeyDigest ≠ binding.idempotencyKeyDigest)
    (named : binding.processIdentityRef ≠ "" ∧ binding.bindingRef ≠ "") :
    (state.insertBinding binding).Consistent where
  named := by
    refine ⟨?_, consistent.named.generations⟩
    intro existing member
    obtain member | member := mem_append.mp member
    · exact consistent.named.bindings existing member
    · rw [mem_singleton.mp member]
      exact named
  keys := by
    simp only [State.insertBinding, map_append, map_cons, map_nil]
    refine nodup_append.mpr ⟨consistent.keys, nodup_singleton _, ?_⟩
    intro key member other isNew same
    obtain ⟨existing, existingMember, rfl⟩ := mem_map.mp member
    exact absent existing existingMember (same.trans (mem_singleton.mp isNew))
  retired := by
    intro existing member retired
    obtain member | member := mem_append.mp member
    · exact consistent.retired existing member retired
    · rw [mem_singleton.mp member] at retired
      exact absurd (retired.symm.trans live) Bool.false_ne_true.symm

theorem retains_insertBinding (state : State) (binding : OwnerProcessBinding) :
    state.Retains (state.insertBinding binding) where
  generations _ _ retired := retired
  bindings existing member :=
    ⟨existing, mem_append_left _ member, rfl, fun revoked => revoked⟩

def OnlyRevokes (change : OwnerProcessBinding → OwnerProcessBinding) : Prop :=
  ∀ binding, change binding = binding ∨
    (change binding).issued = binding.issued ∧ (change binding).status = .revoked

theorem OnlyRevokes.issued {change : OwnerProcessBinding → OwnerProcessBinding}
    (changes : OnlyRevokes change) (binding : OwnerProcessBinding) :
    (change binding).issued = binding.issued := by
  obtain same | revoked := changes binding
  · rw [same]
  · exact revoked.1

theorem OnlyRevokes.revoked (changes : OnlyRevokes change) (revoked : binding.status = .revoked) :
    (change binding).status = .revoked := by
  obtain same | revoked' := changes binding
  · rw [same]
    exact revoked
  · exact revoked'.2

section Revise

variable {state next : State} {change : OwnerProcessBinding → OwnerProcessBinding}

theorem retains_of_revised (changes : OnlyRevokes change)
    (bindings : next.ownerProcessBindings = state.ownerProcessBindings.map change)
    (generations : ∀ ownerId ownerGenerationDigest,
      state.IsRetired ownerId ownerGenerationDigest = true →
        next.IsRetired ownerId ownerGenerationDigest = true) : state.Retains next where
  generations := generations
  bindings binding member :=
    ⟨change binding, bindings ▸ mem_map_of_mem member, changes.issued binding, changes.revoked⟩

theorem Consistent.revise (consistent : state.Consistent) (changes : OnlyRevokes change)
    (bindings : next.ownerProcessBindings = state.ownerProcessBindings.map change)
    (named : ∀ entry ∈ next.retiredOwnerProcessBindingGenerations,
      entry.ownerId ≠ "" ∧ isDigestText entry.ownerGenerationDigest = true)
    (revokes : ∀ binding ∈ state.ownerProcessBindings,
      next.IsRetired binding.ownerId binding.ownerGenerationDigest = true →
        (change binding).status = .revoked) : next.Consistent where
  named := by
    refine ⟨?_, named⟩
    intro later member
    rw [bindings] at member
    obtain ⟨binding, source, rfl⟩ := mem_map.mp member
    have same := changes.issued binding
    obtain ⟨ref, bindingRef⟩ := consistent.named.bindings binding source
    refine ⟨by rwa [ref_of_issued same], ?_⟩
    change (change binding).issued.bindingRef ≠ ""
    rw [same]
    exact bindingRef
  keys := by
    have kept : (state.ownerProcessBindings.map change).map (·.idempotencyKeyDigest) =
        state.ownerProcessBindings.map (·.idempotencyKeyDigest) := by
      rw [map_map]
      exact map_congr_left fun binding _ =>
        key_of_issued (changes.issued binding)
    rw [bindings, kept]
    exact consistent.keys
  retired := by
    intro later member retired
    rw [bindings] at member
    obtain ⟨binding, source, rfl⟩ := mem_map.mp member
    obtain ⟨owner, generation⟩ := owner_of_issued (changes.issued binding)
    rw [owner, generation] at retired
    exact revokes binding source retired

end Revise

theorem replaceBinding_revoke (distinct : state.DistinctRefs)
    (member : binding ∈ state.ownerProcessBindings) (now : Instant) (receiptDigest : String) :
    (state.replaceBinding binding.processIdentityRef
      (binding.revoke now receiptDigest)).ownerProcessBindings =
      state.ownerProcessBindings.map fun candidate =>
        if candidate.processIdentityRef = binding.processIdentityRef then
          candidate.revoke now receiptDigest
        else candidate := by
  refine map_congr_left ?_
  intro candidate candidateMember
  split
  · rename_i same
    rw [inj_on_of_nodup_map distinct candidateMember member same]
  · rfl

theorem onlyRevokes_ref (ref : String) (now : Instant) (receiptDigest : String) :
    OnlyRevokes fun candidate =>
      if candidate.processIdentityRef = ref then candidate.revoke now receiptDigest
      else candidate := by
  intro candidate
  dsimp only
  split
  · exact .inr ⟨rfl, rfl⟩
  · exact .inl rfl

theorem onlyRevokes_generation (env : ServiceEnv) (ownerId ownerGenerationDigest : String)
    (now : Instant) : OnlyRevokes fun binding =>
      if binding.revokedWith ownerId ownerGenerationDigest then
        binding.revoke now (generationReceiptDigest env binding now)
      else binding := by
  intro binding
  dsimp only
  split
  · exact .inr ⟨rfl, rfl⟩
  · exact .inl rfl

theorem isRetired_retire {owner generation : String} :
    (state.retire env ownerId ownerGenerationDigest now).IsRetired owner generation = true ↔
      state.IsRetired owner generation = true ∨
        (ownerId = owner ∧ ownerGenerationDigest = generation) := by
  unfold retire
  by_cases already : state.IsRetired ownerId ownerGenerationDigest = true
  · simp only [already, if_true]
    refine ⟨.inl, ?_⟩
    intro retired
    obtain retired | ⟨rfl, rfl⟩ := retired
    · exact retired
    · exact already
  · simp only [already, Bool.false_eq_true, if_false]
    simp [IsRetired, any_append]

theorem Consistent.retire (consistent : state.Consistent) (named : isOwnerId ownerId = true)
    (digest : isDigestText ownerGenerationDigest = true) (now : Instant) :
    (state.retire env ownerId ownerGenerationDigest now).Consistent := by
  refine consistent.revise (onlyRevokes_generation env ownerId ownerGenerationDigest now) rfl ?_ ?_
  · intro entry member
    simp only [State.retire] at member
    split at member
    · exact consistent.named.generations entry member
    · obtain member | member := mem_append.mp member
      · exact consistent.named.generations entry member
      · rw [mem_singleton.mp member]
        refine ⟨?_, digest⟩
        intro empty
        change ownerId = "" at empty
        simp [isOwnerId, empty] at named
  · intro binding member retired
    obtain retired | ⟨rfl, rfl⟩ := isRetired_retire.mp retired
    · exact (onlyRevokes_generation env ownerId ownerGenerationDigest now).revoked
        (consistent.retired binding member retired)
    · by_cases revoked : binding.status = .revoked
      · exact (onlyRevokes_generation env _ _ now).revoked revoked
      · have revokes : binding.revokedWith binding.ownerId binding.ownerGenerationDigest = true := by
          simp [revokedWith, belongsTo, revoked]
        simp [revokes, revoke]

theorem retains_retire (env : ServiceEnv) (state : State) (ownerId ownerGenerationDigest : String)
    (now : Instant) : state.Retains (state.retire env ownerId ownerGenerationDigest now) :=
  retains_of_revised (onlyRevokes_generation env ownerId ownerGenerationDigest now) rfl
    fun _ _ retired => isRetired_retire.mpr (.inl retired)

theorem Consistent.change (consistent : state.Consistent)
    (distinct : state.DistinctRefs) (change : Change env ranAt state saved rollsBack decision) :
    saved.Consistent ∧ state.Retains saved := by
  cases change with
  | claimed => exact ⟨consistent.of_equal rfl rfl, .of_equal rfl rfl⟩
  | nonceRecorded => exact ⟨consistent.of_equal rfl rfl, .of_equal rfl rfl⟩
  | packageRotated => exact ⟨consistent.of_equal rfl rfl, .of_equal rfl rfl⟩
  | packageRevoked => exact ⟨consistent.of_equal rfl rfl, .of_equal rfl rfl⟩
  | bindingIssued live absent =>
    refine ⟨consistent.insertBinding live absent ⟨?_, ?_⟩, retains_insertBinding _ _⟩
    · simp [newOwnerProcessBinding]
    · simp [newOwnerProcessBinding]
  | bindingRevoked found valid =>
    rename_i binding receiptDigest now
    have member := mem_of_find?_eq_some found
    have revised := replaceBinding_revoke distinct member now receiptDigest
    have changes := onlyRevokes_ref binding.processIdentityRef now receiptDigest
    refine ⟨consistent.revise changes revised consistent.named.generations ?_,
      retains_of_revised changes revised fun _ _ retired => retired⟩
    intro other otherMember retired
    exact changes.revoked (consistent.retired other otherMember retired)
  | generationRetired named digest =>
    exact ⟨consistent.retire named digest _, retains_retire env state _ _ _⟩

theorem Consistent.succeeds {next : State} (consistent : state.Consistent)
    (distinct : state.DistinctRefs) (succeeds : Succeeds env ranAt state next) :
    next.Consistent ∧ state.Retains next := by
  obtain ⟨saved, rollsBack, decision, change, rfl⟩ := succeeds
  obtain ⟨consistent', retains⟩ := consistent.change distinct change
  exact ⟨consistent'.normalizeState, retains.trans consistent'.retains_normalizeState⟩

end State

namespace Config

variable {env : ServiceEnv} {config next : Config} {event : Event} {id : CallId}

def distinctRefs (config : Config) : Bool :=
  config.memory.all fun loaded => decide loaded.state.DistinctRefs

theorem distinctRefs_loaded (distinct : config.distinctRefs = true)
    (held : config.memory = some loaded) : loaded.state.DistinctRefs := by
  simpa [distinctRefs, held] using distinct

/-- Every state in play is consistent, and those that ran have distinct references. -/
structure Coherent (env : ServiceEnv) (config : Config) : Prop where
  serial : config.Serial env
  consistent : config.Throughout State.Consistent
  distinct : ∀ loaded, config.memory = some loaded → loaded.state.DistinctRefs
  ran : ∀ id record keyStored before decision,
    config.phase id = some (.saving record keyStored (some before) decision) →
    before.state.DistinctRefs

/-- A load puts no older state back, and no digest collision gives two bindings one reference. -/
def BindingsPermitted (env : ServiceEnv) (config : Config) (event : Event) : Prop :=
  config.KeepsLoaded event ∧
    ∀ next, step env config event = some next → next.distinctRefs = true

theorem Coherent.step (coherent : config.Coherent env)
    (permitted : config.BindingsPermitted env event)
    (taken : ProcessIdentity.step env config event = some next) : next.Coherent env := by
  obtain ⟨keeps, distinct⟩ := permitted
  refine ⟨coherent.serial.step keeps taken, ?_,
    fun loaded held => distinctRefs_loaded (distinct next taken) held, ?_⟩
  · refine coherent.consistent.step coherent.serial keeps taken State.consistent_fresh
      (fun _ consistent => consistent.normalizeState) ?_
    intro loaded after held _ consistent succeeds
    exact (consistent.succeeds (coherent.distinct loaded held) succeeds).1
  · intro id record keyStored before decision found
    obtain ⟨keyStored, earlier⟩ | rolledBack := coherent.serial.rollback_of_step keeps taken found
    · exact coherent.ran id record keyStored before decision earlier
    · exact coherent.distinct before rolledBack

theorem Coherent.start_config (env : ServiceEnv) (now : Instant) (keyFile : Option SealingKey)
    (consistent : ∀ sealed, stateFile = some sealed → (normalizeState sealed.state).Consistent) :
    (Config.start now keyFile stateFile).Coherent env where
  serial := .start_config env now keyFile stateFile
  consistent := .start_config now keyFile consistent
  distinct := by simp [Config.start]
  ran := by simp [Config.start, Config.phase]

theorem Coherent.within_step (coherent : config.Coherent env)
    (survives : ∀ state next, state.Retains next → holds state → holds next)
    (within : config.Within holds) (permitted : config.BindingsPermitted env event)
    (taken : ProcessIdentity.step env config event = some next) : next.Within holds := by
  obtain ⟨loaded, held, holdsLoaded⟩ := within.memory
  have consistent := coherent.consistent.memory loaded held
  refine (coherent.serial.advances held permitted.1 taken).within held within ?_
  intro after _ succeeds
  exact survives _ _ (consistent.succeeds (coherent.distinct loaded held) succeeds).2 holdsLoaded

end Config

def Operation.ownerBody (env : ServiceEnv) : Operation → Option (Instant → State → Body)
  | .issueOwnerProcessBinding input => some (ProcessIdentity.issueOwnerProcessBinding env input)
  | .revokeOwnerProcessBinding input =>
    some (ProcessIdentity.revokeOwnerProcessBinding env input)
  | .revokeOwnerProcessBindings input =>
    some (ProcessIdentity.revokeOwnerProcessBindings env input)
  | _ => none

open Operation

section OwnerBody

variable {env : ServiceEnv} {operation : Operation} {body : Instant → State → Body}

theorem Operation.program_ownerBody (owner : operation.ownerBody env = some body) :
    operation.program env = .mutates body := by
  cases operation <;> simp_all [ownerBody, program]

theorem Operation.ownerBody_answers (owner : operation.ownerBody env = some body)
    (now : Instant) (state : State) : (∃ decision, body now state = .returns decision) ∨
      ∃ next decision, body now state = .saves next true decision := by
  cases operation with
  | issueOwnerProcessBinding input =>
    obtain rfl : ProcessIdentity.issueOwnerProcessBinding env input = body := Option.some.inj owner
    unfold ProcessIdentity.issueOwnerProcessBinding
    dsimp only
    repeat' split
    all_goals first
      | exact .inl ⟨_, rfl⟩
      | exact .inr ⟨_, _, rfl⟩
  | revokeOwnerProcessBinding input =>
    obtain rfl : ProcessIdentity.revokeOwnerProcessBinding env input = body := Option.some.inj owner
    unfold ProcessIdentity.revokeOwnerProcessBinding
    dsimp only
    repeat' split
    all_goals first
      | exact .inl ⟨_, rfl⟩
      | exact .inr ⟨_, _, rfl⟩
  | revokeOwnerProcessBindings input =>
    obtain rfl : ProcessIdentity.revokeOwnerProcessBindings env input = body :=
      Option.some.inj owner
    unfold ProcessIdentity.revokeOwnerProcessBindings
    dsimp only
    repeat' split
    all_goals first
      | exact .inl ⟨_, rfl⟩
      | exact .inr ⟨_, _, rfl⟩
  | _ => cases owner

end OwnerBody

/-- A call that still has its mutation ahead, or saves what the mutation made of `before`. -/
def Phase.Performs (body : Instant → State → Body) : Phase → Prop
  | .waiting _ entry => entry = .mutates body
  | .reading _ _ entry => entry = .mutates body
  | .storing _ _ entry => entry = .mutates body
  | .ready entry => entry = .mutates body
  | .acting _ => False
  | .deciding _ => False
  | .saving record _ rollback decision =>
    ∃ before now next, body now before.state = .saves next true decision ∧
      record.state = normalizeState next ∧ rollback = some before
  | _ => True

namespace Config

variable {env : ServiceEnv} {config next : Config} {event : Event} {id : CallId}

/-- The calls on owner bindings do what their operations say. -/
def Performs (env : ServiceEnv) (config : Config) : Prop :=
  ∀ id call body, config.calls id = some call → call.operation.ownerBody env = some body →
    call.phase.Performs body

theorem Performs.step (performs : config.Performs env)
    (taken : step env config event = some next) : next.Performs env := by
  intro id after body present owner
  have move := callMove_of_step taken id
  rw [present] at move
  generalize before : config.calls id = call at move
  cases move with
  | still => exact performs id after body before owner
  | opens operation =>
    dsimp only at owner ⊢
    rw [program_ownerBody owner]
    exact rfl
  | moves move ran =>
    rename_i call phase ranAt
    have holds := performs id call body before owner
    have answers := ownerBody_answers owner
    generalize call.phase = earlier at move holds
    cases move with
    | runs held =>
      rename_i body' loaded _ _
      obtain rfl : body' = body := Entry.mutates.inj holds
      obtain ⟨decision, answer⟩ | ⟨saved, decision, answer⟩ := answers config.now loaded.state
      · rw [answer]
        trivial
      · rw [answer]
        exact ⟨loaded, config.now, saved, answer, rfl, rfl⟩
    | resumes => exact holds.elim
    | reads => exact Entry.noConfusion holds
    | decides => exact holds.elim
    | failsRead => trivial
    | failsStore => trivial
    | failsSave => trivial
    | saves => trivial
    | startsLoad => exact holds
    | skipsLoad => exact holds
    | readsKey => exact holds
    | readsState => exact holds
    | loads => exact holds
    | loadsFirst => exact holds
    | storesKey => exact holds
    | storesState => exact holds
    | savesKey => exact holds

end Config

structure IssuedFor (env : ServiceEnv) (input : OwnerBindingInput) (decision : Decision)
    (state : State) (owner : OwnerBindingDecision) (binding : OwnerProcessBinding) : Prop where
  context : ownerProcessBindingDecision env input none = .ok owner
  member : binding ∈ state.ownerProcessBindings
  answer : decision.binding.map (·.issued) = some binding.issued
  key : binding.idempotencyKeyDigest = idempotencyKeyDigest env owner.ownerId
    owner.ownerGenerationDigest (toText input.idempotencyKey)
  sameContext : binding.contextDigest = owner.contextDigest
  sameTarget : binding.targetRef = owner.context.target

/-- What the answer ok of a call on owner bindings says. -/
def Operation.Achieves (env : ServiceEnv) (decision : Decision) (state : State) : Operation → Prop
  | .issueOwnerProcessBinding input => ∃ owner binding,
      IssuedFor env input decision state owner binding
  | .revokeOwnerProcessBindings input =>
    state.IsRetired (toText input.ownerId) (toText input.ownerGenerationDigest) = true
  | _ => True

theorem Operation.Achieves.retained {next : State} (retains : state.Retains next)
    (achieves : operation.Achieves env decision state) : operation.Achieves env decision next := by
  cases operation with
  | issueOwnerProcessBinding input =>
    obtain ⟨owner, binding, issued⟩ := achieves
    obtain ⟨later, member, same, -⟩ := retains.bindings binding issued.member
    refine ⟨owner, later, issued.context, member, issued.answer.trans (congrArg some same.symm),
      (key_of_issued same).trans issued.key, ?_, ?_⟩
    · change later.issued.contextDigest = owner.contextDigest
      rw [same]
      exact issued.sameContext
    · change later.issued.targetRef = owner.context.target
      rw [same]
      exact issued.sameTarget
  | revokeOwnerProcessBindings input => exact retains.generations _ _ achieves
  | _ => trivial

def Body.Answers (body : Body) (state : State) (decision : Decision) (after : State) : Prop :=
  (body = .returns decision ∧ after = state) ∨ body = .saves after true decision

theorem ownerProcessBindingDecision_owner {binding : Option OwnerProcessBinding}
    (decided : ownerProcessBindingDecision env input binding = .ok owner) : owner.ownerId =
      toText input.ownerId ∧ owner.ownerGenerationDigest = toText input.ownerGenerationDigest := by
  unfold ownerProcessBindingDecision at decided
  dsimp only at decided
  repeat' split at decided
  all_goals cases decided
  exact ⟨rfl, rfl⟩

theorem ownerProcessBindingDecision_denied {binding : Option OwnerProcessBinding}
    {denial : Decision} (decided : ownerProcessBindingDecision env input binding = .error denial) :
    denial.ok = false := by
  unfold ownerProcessBindingDecision at decided
  dsimp only at decided
  repeat' split at decided
  all_goals cases decided
  all_goals rfl

variable {answer : Decision}

theorem Body.Answers.of_returns (answers : (returns answer).Answers state decision after) :
    answer = decision ∧ after = state := by
  obtain ⟨same, unchanged⟩ | saves := answers
  · exact ⟨returns.inj same, unchanged⟩
  · cases saves

theorem Body.Answers.of_saves {next : State}
    (answers : (saves next true answer).Answers state decision after) :
    answer = decision ∧ after = next := by
  obtain ⟨same, -⟩ | saves := answers
  · cases same
  · cases saves
    exact ⟨rfl, rfl⟩

theorem issueOwnerProcessBinding_ok
    (answers : (issueOwnerProcessBinding env input now state).Answers state decision after)
    (ok : decision.ok = true) :
    (∃ owner binding, IssuedFor env input decision after owner binding) ∧
      state.IsRetired (toText input.ownerId) (toText input.ownerGenerationDigest) = false := by
  have denied : ∀ denial : Decision, denial.ok = false →
      (Body.returns denial).Answers state decision after → False := by
    intro denial notOk answers
    rw [← answers.of_returns.1, notOk] at ok
    cases ok
  unfold issueOwnerProcessBinding at answers
  cases decided : ownerProcessBindingDecision env input none with
  | error denial =>
    rw [decided] at answers
    exact (denied denial (ownerProcessBindingDecision_denied decided) answers).elim
  | ok owner =>
    obtain ⟨sameOwner, sameGeneration⟩ := ownerProcessBindingDecision_owner decided
    rw [decided] at answers
    dsimp only at answers
    rw [← sameOwner, ← sameGeneration]
    split at answers
    · exact (denied _ rfl answers).elim
    rename_i live
    refine ⟨?_, by simpa using live⟩
    split at answers
    · exact (denied _ rfl answers).elim
    split at answers
    · rename_i existing found
      split at answers
      · exact (denied _ rfl answers).elim
      rename_i agrees
      simp only [Bool.or_eq_true, decide_eq_true_eq, not_or, not_not] at agrees
      obtain ⟨rfl, rfl⟩ := answers.of_returns
      exact ⟨owner, existing, decided, mem_of_find?_eq_some found, rfl,
        by simpa using find?_some found, agrees.1, agrees.2⟩
    · obtain ⟨rfl, rfl⟩ := answers.of_saves
      exact ⟨owner, _, decided, mem_append_right _ (mem_singleton_self _), rfl, rfl, rfl, rfl⟩

theorem revokeOwnerProcessBindings_ok
    (answers : (revokeOwnerProcessBindings env input now state).Answers state decision after)
    (ok : decision.ok = true) :
    after.IsRetired (toText input.ownerId) (toText input.ownerGenerationDigest) = true := by
  have denied : ∀ denial : Decision, denial.ok = false →
      (Body.returns denial).Answers state decision after → False := by
    intro denial notOk answers
    rw [← answers.of_returns.1, notOk] at ok
    cases ok
  unfold revokeOwnerProcessBindings at answers
  dsimp only at answers
  split at answers
  · exact (denied _ rfl answers).elim
  split at answers
  · exact (denied _ rfl answers).elim
  split at answers
  · obtain ⟨-, rfl⟩ := answers.of_saves
    exact State.isRetired_retire.mpr (.inr ⟨rfl, rfl⟩)
  · rename_i nothing
    obtain ⟨-, rfl⟩ := answers.of_returns
    simp only [Bool.or_eq_true, not_or, Bool.not_eq_true, Bool.not_eq_false'] at nothing
    exact nothing.2

theorem Operation.achieves_of_answers (owner : operation.ownerBody env = some body)
    (answers : (body now state).Answers state decision after) (ok : decision.ok = true) :
    operation.Achieves env decision after := by
  cases operation with
  | issueOwnerProcessBinding input =>
    obtain rfl : ProcessIdentity.issueOwnerProcessBinding env input = body := Option.some.inj owner
    exact (issueOwnerProcessBinding_ok answers ok).1
  | revokeOwnerProcessBindings input =>
    obtain rfl : ProcessIdentity.revokeOwnerProcessBindings env input = body :=
      Option.some.inj owner
    exact revokeOwnerProcessBindings_ok answers ok
  | _ => trivial

namespace Config

variable {env : ServiceEnv} {config next : Config} {event : Event} {id : CallId}

def Performed (config : Config) (id : CallId) (operation : Operation) (decision : Decision) :
    Prop :=
  ∃ call, config.calls id = some call ∧ call.operation = operation ∧ call.phase = .returned decision

/-- What the answers given so far say still holds. -/
def Achieved (env : ServiceEnv) (config : Config) : Prop :=
  ∀ id operation body decision, config.Performed id operation decision →
    operation.ownerBody env = some body → decision.ok = true →
    config.Within fun state => operation.Achieves env decision state

theorem Performs.answers (performs : config.Performs env) (coherent : config.Coherent env)
    (taken : ProcessIdentity.step env config event = some next)
    (owner : operation.ownerBody env = some body)
    (performed : next.Performed id operation decision) : config.Performed id operation decision ∨
      ∃ phase loaded, config.phase id = some phase ∧ phase.Queued = true ∧ config.memory =
      some loaded ∧ (decision.ok = true → operation.Achieves env decision loaded.state) ∧
      ∃ now state after, (body now state).Answers state decision after ∧ ∀ holds : State → Prop,
      config.Within holds → holds state := by
  obtain ⟨after, present, rfl, returned⟩ := performed
  have move := callMove_of_step taken id
  rw [present] at move
  generalize before : config.calls id = call at move
  cases move with
  | still => exact .inl ⟨after, before, rfl, returned⟩
  | opens operation =>
    dsimp only at owner returned
    rw [Operation.program_ownerBody owner] at returned
    exact Phase.noConfusion returned
  | moves move ran =>
    rename_i call phase ranAt
    have was : config.phase id = some call.phase := by simp [Config.phase, before]
    have holds := performs id call body before owner
    dsimp only at owner returned ⊢
    refine .inr ⟨call.phase, ?_⟩
    generalize call.phase = earlier at move holds was
    cases move with
    | runs held =>
      rename_i body' loaded _ _
      obtain rfl : body' = body := Entry.mutates.inj holds
      have answer : body' config.now loaded.state = .returns decision := by
        cases run : body' config.now loaded.state <;> simp_all [Body.phase]
      have answers : (body' config.now loaded.state).Answers loaded.state decision
        loaded.state := .inl ⟨answer, rfl⟩
      refine ⟨loaded, was, rfl, held, Operation.achieves_of_answers owner answers,
        config.now, loaded.state, loaded.state, answers, ?_⟩
      intro holds within
      obtain ⟨current, present, holdsCurrent⟩ := within.memory
      obtain rfl : loaded = current := by simpa [held] using present
      exact holdsCurrent
    | resumes => exact holds.elim
    | reads => exact Entry.noConfusion holds
    | decides => exact holds.elim
    | saves =>
      cases returned
      obtain ⟨previous, ran, saved, answer, same, rollback⟩ := holds
      subst rollback
      obtain ⟨⟨loaded, held, current⟩, -⟩ := coherent.serial.sound id _ was
      have consistent := coherent.consistent.rollback id _ _ previous _ was
      have distinct := coherent.ran id _ _ previous _ was
      have changes := call.operation.program_changes env
      rw [Operation.program_ownerBody owner] at changes
      have change := changes ran previous.state
      rw [answer] at change
      refine ⟨loaded, was, rfl, held, ?_, ran, previous.state, saved, .inr answer,
        fun holds within => within.rollback id _ _ previous _ was⟩
      intro ok
      rw [current, same]
      exact (Operation.achieves_of_answers owner (.inr answer) ok).retained
        (consistent.change distinct change).1.retains_normalizeState
    | _ => exact Phase.noConfusion returned

theorem Achieved.step (achieved : config.Achieved env) (coherent : config.Coherent env)
    (performs : config.Performs env) (permitted : config.BindingsPermitted env event)
    (taken : step env config event = some next) : next.Achieved env := by
  intro id operation body decision performed owner ok
  obtain earlier | ⟨phase, loaded, found, mutation, held, achieves, -⟩ :=
    performs.answers coherent taken owner performed
  · exact coherent.within_step (fun _ _ retains holds => holds.retained retains)
      (achieved id operation body decision earlier owner ok) permitted taken
  · obtain ⟨after, present, -, returned⟩ := performed
    have completes : next.phase id = some (.returned decision) := by
      simp [Config.phase, present, returned]
    exact coherent.serial.within_of_completed permitted.1 taken held (achieves ok) found mutation
      completes

/-- Everything the results on owner bindings carry along a run. -/
structure Governed (env : ServiceEnv) (config : Config) : Prop where
  coherent : config.Coherent env
  performs : config.Performs env
  achieved : config.Achieved env

theorem Governed.step (governed : config.Governed env)
    (permitted : config.BindingsPermitted env event)
    (taken : step env config event = some next) : next.Governed env where
  coherent := governed.coherent.step permitted taken
  performs := governed.performs.step taken
  achieved := governed.achieved.step governed.coherent governed.performs permitted taken

theorem Governed.start_config (env : ServiceEnv) (now : Instant) (keyFile : Option SealingKey)
    (consistent : ∀ sealed, stateFile = some sealed → (normalizeState sealed.state).Consistent) :
    (Config.start now keyFile stateFile).Governed env where
  coherent := .start_config env now keyFile consistent
  performs := fun _ _ _ present => nomatch present
  achieved := fun _ _ _ _ performed => nomatch performed.choose_spec.1

end Config

abbrev BindingRun (env : ServiceEnv) : Config → Config → Prop :=
  Path (Steps env) (Config.BindingsPermitted env)

namespace BindingRun

variable {env : ServiceEnv} {config last : Config} (run : BindingRun env config last)
include run

theorem governed (governed : config.Governed env) : last.Governed env := by
  have keeps : ∀ {config : Config} {event : Event} {next : Config},
      config.BindingsPermitted env event → Steps env config event next →
      config.Governed env → next.Governed env :=
    fun permitted taken governed => governed.step permitted taken
  exact run.preserves keeps governed

section

variable (governed : config.Governed env)
include governed

theorem within (survives : ∀ state next, state.Retains next → holds state → holds next)
    (within : config.Within holds) : last.Within holds := by
  have keeps : ∀ {config : Config} {event : Event} {next : Config},
      config.BindingsPermitted env event → Steps env config event next →
      config.Governed env ∧ config.Within holds → next.Governed env ∧ next.Within holds :=
    fun permitted taken both => ⟨both.1.step permitted taken,
      both.1.coherent.within_step survives both.2 permitted taken⟩
  exact (run.preserves keeps ⟨governed, within⟩).2

theorem issue_before_retired (retired : config.Within fun state =>
      state.IsRetired ownerId ownerGenerationDigest = true)
    (sameOwner : toText input.ownerId = ownerId)
    (sameGeneration : toText input.ownerGenerationDigest = ownerGenerationDigest)
    (performed : last.Performed id (.issueOwnerProcessBinding input) decision)
    (ok : decision.ok = true) : config.Performed id (.issueOwnerProcessBinding input) decision := by
  have keeps : ∀ {middle : Config} {event : Event} {next : Config},
      middle.BindingsPermitted env event → Steps env middle event next →
      (middle.Governed env ∧ (middle.Within fun state =>
          state.IsRetired ownerId ownerGenerationDigest = true) ∧
        (middle.Performed id (.issueOwnerProcessBinding input) decision →
          config.Performed id (.issueOwnerProcessBinding input) decision)) →
      (next.Governed env ∧ (next.Within fun state =>
          state.IsRetired ownerId ownerGenerationDigest = true) ∧
        (next.Performed id (.issueOwnerProcessBinding input) decision →
          config.Performed id (.issueOwnerProcessBinding input) decision)) := by
    intro middle event next permitted taken holds
    obtain ⟨governed, within, earlier⟩ := holds
    refine ⟨governed.step permitted taken, governed.coherent.within_step
      (fun _ _ retains retired => retains.generations _ _ retired) within permitted taken, ?_⟩
    intro performed
    obtain before | ⟨-, -, -, -, -, -, ran, state, after, answers, inPlay⟩ :=
      governed.performs.answers governed.coherent taken rfl performed
    · exact earlier before
    · have live := (issueOwnerProcessBinding_ok answers ok).2
      have retired := inPlay _ within
      rw [sameOwner, sameGeneration, retired] at live
      cases live
  exact (run.preserves keeps ⟨governed, retired, fun performed => performed⟩).2.2 performed

theorem revoked_stays (idle : ∀ id record keyStored rollback decision,
      config.phase id ≠ some (.saving record keyStored rollback decision))
    {current : SealedRecord} (held : config.memory = some loaded)
    (present : last.memory = some current) (member : binding ∈ loaded.state.ownerProcessBindings)
    (revoked : binding.status = .revoked) : ∃ later ∈ current.state.ownerProcessBindings,
      later.issued = binding.issued ∧ later.status = .revoked := by
  have within : config.Within loaded.state.Retains :=
    ⟨⟨loaded, held, .refl _⟩, fun id record keyStored before decision found =>
      absurd found (idle id record keyStored (some before) decision)⟩
  obtain ⟨⟨after, held', retains⟩, -⟩ :=
    run.within governed (fun _ _ later retains => retains.trans later) within
  obtain rfl : after = current := by simpa [present] using held'.symm
  obtain ⟨later, laterMember, same, stays⟩ := retains.bindings binding member
  exact ⟨later, laterMember, same, stays revoked⟩

end

omit run

/-- Where a call on owner bindings is once its mutation ran in `loaded`. -/
def Ran (loaded : SealedRecord) : Phase → Prop
  | .saving _ _ rollback _ => rollback = some loaded
  | .returned _ => True
  | .threw => True
  | _ => False

theorem ran_of_run (governed : ready.Governed env) (present : ready.calls id = some call)
    (owner : call.operation.ownerBody env = some body)
    (ran : step env ready (.run id) = some config) : ∃ loaded phase, ready.memory = some loaded ∧
      config.phase id = some phase ∧ Ran loaded phase := by
  have holds := governed.performs id call body present owner
  simp only [step] at ran
  split at ran
  case h_1 body' loaded found held =>
    have same : call.phase = .ready (.mutates body') := by
      simpa [Config.phase, present] using found
    rw [same] at holds
    obtain rfl : body' = body := Entry.mutates.inj holds
    cases ran
    have moved : ((ready.markRun id).runBody id loaded (body' ready.now loaded.state)).phase id =
        some ((body' ready.now loaded.state).phase loaded) := by
      simp only [Config.phase, Config.calls_runBody]
      simp [Config.setPhase, Config.markRun, present]
    refine ⟨loaded, _, held, moved, ?_⟩
    obtain ⟨decision, answer⟩ | ⟨saved, decision, answer⟩ :=
      Operation.ownerBody_answers owner ready.now loaded.state
    · rw [answer]
      trivial
    · rw [answer]
      exact rfl
  case h_2 reading loaded found held =>
    have same : call.phase = .ready (.reads reading) := by
      simpa [Config.phase, present] using found
    rw [same] at holds
    exact Entry.noConfusion holds
  case h_3 => cases ran

theorem ran_step {next : Config} (taken : step env middle event = some next)
    (before : ∃ phase, middle.phase id = some phase ∧ Ran loaded phase) :
    (∃ phase, next.phase id = some phase ∧ Ran loaded phase) ∧
    (middle.phase id ≠ some .threw → next.phase id = some .threw → next.memory = some loaded) := by
  obtain ⟨phase, found, ran⟩ := before
  obtain ⟨call, present, rfl⟩ := Config.calls_of_phase found
  have move := callMove_of_step taken id
  rw [present] at move
  generalize after : next.calls id = later at move
  cases move with
  | still =>
    have same : next.phase id = some call.phase := by simp [Config.phase, after]
    exact ⟨⟨_, same, ran⟩, fun live threw => absurd (found.trans (same.symm.trans threw)) live⟩
  | moves move ran' =>
    rename_i phase ranAt
    have same : next.phase id = some phase := by simp [Config.phase, after]
    rw [same]
    generalize call.phase = earlier at move ran ran'
    cases move with
    | savesKey => exact ⟨⟨_, rfl, ran⟩, fun _ threw => by simp at threw⟩
    | saves => exact ⟨⟨_, rfl, trivial⟩, fun _ threw => by simp at threw⟩
    | failsSave memory =>
      refine ⟨⟨_, rfl, trivial⟩, fun _ _ => ?_⟩
      rw [memory, show _ = some loaded from ran, Option.some_or]
    | _ => exact ran.elim

theorem throws_unchanged (governed : ready.Governed env)
    (present : ready.calls id = some call) (owner : call.operation.ownerBody env = some body)
    (ran : step env ready (.run id) = some config) (run : BindingRun env config failing)
    (taken : step env failing event = some failed) (live : failing.phase id ≠ some .threw)
    (threw : failed.phase id = some .threw) : failed.state = ready.state := by
  obtain ⟨loaded, phase, held, found, ranIn⟩ := ran_of_run governed present owner ran
  have keeps : ∀ {middle : Config} {event : Event} {next : Config},
      middle.BindingsPermitted env event → Steps env middle event next →
      (∃ phase, middle.phase id = some phase ∧ Ran loaded phase) →
      ∃ phase, next.phase id = some phase ∧ Ran loaded phase :=
    fun _ taken before => (ran_step taken before).1
  have before := run.preserves keeps ⟨phase, found, ranIn⟩
  have memory := (ran_step taken before).2 live threw
  simp [Config.state, memory, held]

theorem throws_unrun {next : Config} (governed : config.Governed env)
    (taken : step env config event = some next) (present : config.calls id = some call)
    (owner : call.operation.ownerBody env = some body)
    (unsaved : ∀ record keyStored rollback decision,
      call.phase ≠ .saving record keyStored rollback decision) (live : call.phase ≠ .threw)
    (threw : next.phase id = some .threw) : next.state = config.state := by
  have holds := governed.performs id call body present owner
  obtain ⟨after, present', isThrew⟩ := Config.calls_of_phase threw
  have move := callMove_of_step taken id
  rw [present, present'] at move
  cases move with
  | still => exact absurd isThrew live
  | moves move ran =>
    generalize call.phase = earlier at move ran unsaved holds live
    cases move with
    | failsRead state => exact state
    | failsStore memory => simp [Config.state, memory]
    | runs =>
      rename_i body' loaded _ _ _
      obtain rfl : body' = body := Entry.mutates.inj holds
      obtain ⟨decision, answer⟩ | ⟨saved, decision, answer⟩ :=
        ownerBody_answers owner config.now loaded.state
      · simp [answer, Body.phase] at isThrew
      · simp [answer, Body.phase] at isThrew
    | resumes => exact holds.elim
    | reads => exact Entry.noConfusion holds
    | decides => exact holds.elim
    | failsSave => exact absurd rfl (unsaved _ _ _ _)
    | _ => exact Phase.noConfusion isThrew

theorem issued_unique (consistent : state.Consistent)
    (sameOwner : toText input.ownerId = toText input'.ownerId)
    (sameGeneration : toText input.ownerGenerationDigest = toText input'.ownerGenerationDigest)
    (sameKey : toText input.idempotencyKey = toText input'.idempotencyKey)
    {binding' : OwnerProcessBinding} (issued : IssuedFor env input decision state owner binding)
    (issued' : IssuedFor env input' decision' state owner' binding') :
    owner.contextDigest = owner'.contextDigest ∧ owner.context.target = owner'.context.target ∧
      decision.binding.map (·.issued) = decision'.binding.map (·.issued) := by
  obtain ⟨ownerId, generation⟩ := ownerProcessBindingDecision_owner issued.context
  obtain ⟨ownerId', generation'⟩ := ownerProcessBindingDecision_owner issued'.context
  have keys : binding.idempotencyKeyDigest = binding'.idempotencyKeyDigest := by
    rw [issued.key, issued'.key, ownerId, ownerId', generation, generation', sameOwner,
      sameGeneration, sameKey]
  obtain rfl : binding = binding' :=
    inj_on_of_nodup_map consistent.keys issued.member issued'.member keys
  exact ⟨issued.sameContext.symm.trans issued'.sameContext,
    issued.sameTarget.symm.trans issued'.sameTarget, issued.answer.trans issued'.answer.symm⟩

end BindingRun

/-- `runEvents` that stops where a binding run does. -/
def runBindings (env : ServiceEnv) : Config → List Event → Option Config
  | config, [] => some config
  | config, event :: rest =>
    (step env config event).bind fun next =>
      if config.keepsLoaded event && next.distinctRefs then runBindings env next rest else none

theorem run_of_runBindings
    (finished : runBindings env config events = some last) : BindingRun env config last := by
  induction events generalizing config with
  | nil =>
    obtain rfl : config = last := by simpa [runBindings] using finished
    exact .refl config
  | cons event rest induction =>
    obtain ⟨next, taken, finished⟩ := Option.bind_eq_some_iff.mp finished
    split at finished
    · rename_i permitted
      obtain ⟨keeps, distinct⟩ := Bool.and_eq_true_iff.mp permitted
      refine .step event ⟨keeps, ?_⟩ taken (induction finished)
      intro next' taken'
      obtain rfl : next = next' := by simpa [taken] using taken'
      exact distinct
    · cases finished

def sampleBinding : OwnerBindingInput where
  ownerId := "owner-a"
  ownerGenerationDigest := sampleGeneration
  identityContext := { tenant := "t", subject := "s" }
  targetRef := "target-1"
  idempotencyKey := "key-1"
  processIdentityRef := "procbind_0189f352ee875836a78138387170033b"

def issueEvents : List Event :=
  [.call 0 (.issueOwnerProcessBinding sampleBinding)] ++ loadEvents 0 ++ saveEvents 0

def sampleRetired : Option Config :=
  runBindings sampleEnv sampleStart
    (issueEvents ++ [.call 1 (retireGeneration "owner-a"), .start 1] ++ saveEvents 1)

def sampleReissued : Option Config :=
  sampleRetired.bind fun config => runBindings sampleEnv config
    [.call 2 (.issueOwnerProcessBinding sampleBinding), .start 2, .run 2]

theorem Config.performed_of_returned (called : (config.calls id).map (·.operation) = some operation)
    (returned : config.returned id = some decision) : config.Performed id operation decision := by
  obtain ⟨call, present, rfl⟩ := Option.map_eq_some_iff.mp called
  obtain ⟨call', present', phase⟩ := calls_of_phase (phase_of_returned returned)
  obtain rfl : call = call' := by simpa [present] using present'
  exact ⟨call, present, rfl, phase⟩

def bindingStatuses (events : List Event) : Option (List BindingStatus) :=
  ((runEvents sampleEnv sampleStart events).bind (·.state)).map
    (·.ownerProcessBindings.map (·.status))

end LicoMesh.ProcessIdentity
