import LicoMesh.ToolGrants.Steps

namespace LicoMesh.ToolGrants

variable {state : AuthorityState} {owner : Owner} {store after : Store} {next : Point}
  {id : GrantId} {key : String} {request : RetireRequest}

theorem authorityState_setAuthority : (store.setAuthority owner state).authorityState other =
      if other = owner then (store.authorityState other).map fun _ => state
      else store.authorityState other := by
  unfold Store.authorityState
  rw [Store.setAuthority_authorities]
  induction store.authorities with
  | nil => simp
  | cons first rest induction =>
    rw [List.map_cons, List.find?_cons, List.find?_cons]
    by_cases isFirst : first.owner = owner
    · by_cases isOther : other = owner
      · simp [isFirst, isOther]
      · have apart : ¬ owner = other := fun same => isOther same.symm
        rw [if_pos isFirst]
        simp only [isFirst, apart, decide_false]
        exact induction
    · rw [if_neg isFirst]
      by_cases found : first.owner = other
      · have isOther : ¬ other = owner := fun same => isFirst (found.trans same)
        simp [found, isOther]
      · simp only [found, decide_false]
        exact induction

theorem authorityState_append (absent : store.authorityState owner = none) :
    Store.authorityState { store with authorities := store.authorities ++ [⟨owner, state⟩] } other =
      if other = owner then some state else store.authorityState other := by
  unfold Store.authorityState at absent ⊢
  rw [List.find?_append]
  rw [Option.map_eq_none_iff] at absent
  by_cases same : other = owner
  · rw [same, absent]
    simp
  · have differs : ¬ owner = other := fun eq => same eq.symm
    simp [same, differs]

theorem ownersActive_not_mem (active : store.ownersActive owners = true)
    (inactive : store.authorityState owner ≠ some .active) : owner ∉ owners := by
  intro isIn
  exact inactive (of_decide_eq_true (List.all_eq_true.mp active owner isIn))

theorem grantOwnersActive_not_mem (active : store.grantOwnersAreActive id = true)
    (inactive : store.authorityState owner ≠ some .active) : owner ∉ store.owners id :=
  ownersActive_not_mem (of_decide_eq_true active).2 inactive

inductive Opens (store : Store) (request : RetireRequest) : Store → Prop
  | opened {job : Job} (present : store.job request.idempotencyKey = some job) :
      Opens store request store
  | retired (absent : store.job request.idempotencyKey = none)
      (state : store.authorityState request.owner = some .retired) :
      Opens store request (store.setJob request.idempotencyKey
        { pluginId := request.pluginId, ownerGeneration := request.generation, complete := true })
  | active (absent : store.job request.idempotencyKey = none)
      (state : store.authorityState request.owner = some .active) : Opens store request
        ((store.setAuthority request.owner .retiring).setJob request.idempotencyKey
        { pluginId := request.pluginId, ownerGeneration := request.generation })

theorem openJob_some (done : store.openJob request = some after) : Opens store request after := by
  unfold Store.openJob at done
  split at done
  · next job present =>
      cases done
      exact .opened present
  · next absent =>
      split at done
      · next state => cases done; exact .retired absent state
      · next state => cases done; exact .active absent state
      · exact nomatch done
      · exact nomatch done

/-- What a call has been told, or with which targets it goes on. -/
inductive Begins (after : Store) (request : RetireRequest) (job : Job) : Point → Prop
  | refused : Begins after request job (.ended .failed)
  | answered (own : job.pluginId = request.pluginId ∧ job.ownerGeneration = request.generation)
      (known : job.complete = true ∨ (request.cursor = none ∧ job.cursorToken ≠ none)) :
      Begins after request job (.ended (.receipt job.receipt))
  | goesOn (own : job.pluginId = request.pluginId ∧ job.ownerGeneration = request.generation)
      (pending : job.complete = false) (cursor : request.cursor = job.cursorToken) :
      Begins after request job
        (.retiringKeys request false (after.revocationTargets request.idempotencyKey request.limit))

theorem startRetire_some (done : startRetire store request = some (after, next)) :
    Opens store request after ∧
      ∃ job, after.job request.idempotencyKey = some job ∧ Begins after request job next := by
  unfold startRetire at done
  split_ifs at done
  obtain ⟨opened, isOpen, rest⟩ := Option.bind_eq_some_iff.mp done
  obtain ⟨job, present, same⟩ := Option.map_eq_some_iff.mp rest
  split_ifs at same with foreign stale complete asked
  all_goals cases same
  · exact ⟨openJob_some isOpen, job, present, .refused⟩
  · exact ⟨openJob_some isOpen, job, present, .refused⟩
  · push Not at foreign
    exact ⟨openJob_some isOpen, job, present, .answered foreign (.inl complete)⟩
  · push Not at foreign
    exact ⟨openJob_some isOpen, job, present, .answered foreign (.inr asked)⟩
  · push Not at foreign stale asked
    refine ⟨openJob_some isOpen, job, present,
      .goesOn foreign (Bool.eq_false_of_not_eq_true complete) ?_⟩
    by_cases missing : request.cursor = none
    · rw [missing, asked missing]
    · exact stale missing

structure Stages (store after : Store) (key : String) (rows : List GrantId) : Prop where
  same : after = { store with grant := after.grant, targets := after.targets }
  others : ∀ other, other ≠ key → after.targets other = store.targets other
  kept : ∀ id, after.grant id = store.grant id ∨
    ∃ grant, store.grant id = some grant ∧ after.grant id = some (grant.revoke store.clock)
  staged : ∀ id ∈ rows, ∃ grant, after.grant id = some grant ∧ grant.terminal = true
  targets : ∃ added : List Target, added.map (·.grantId) = rows ∧
    (∀ target ∈ added, target.accounted = false ∧ target.capabilityInvalidated = false ∧
      target.bindingInvalidated = false) ∧ after.targets key =
      added.foldl (fun targets target => insertTarget target targets) (store.targets key)

variable (known : ∀ id, (store.grant id).isSome → id ∈ store.grantIds)

include known in
theorem stageTarget_some
    (done : store.stageTarget key id = some after) : Stages store after key [id] := by
  obtain ⟨grant, present, same⟩ := Option.map_eq_some_iff.mp done
  have isKnown : id ∈ store.grantIds := known id (by rw [present]; rfl)
  dsimp only at same
  cases terminal : grant.terminal with
  | true =>
    rw [if_pos terminal] at same
    subst same
    refine ⟨rfl, fun other apart => setAt_of_ne apart, fun _ => .inl rfl, ?_, ?_⟩
    · intro other isIn
      rw [List.mem_singleton.mp isIn]
      exact ⟨grant, present, terminal⟩
    · exact ⟨[⟨id, false, false, !grant.terminal, false⟩], rfl, by simp, by simp⟩
  | false =>
    rw [if_neg (by rw [terminal]; exact Bool.false_ne_true)] at same
    subst same
    refine ⟨?_, fun other apart => setAt_of_ne apart, fun other => ?_, ?_, ?_⟩
    · have ids : (store.upsertGrant id (grant.revoke store.clock)).grantIds = store.grantIds :=
        Store.upsertGrant_grantIds_of_mem isKnown
      unfold Store.upsertGrant at ids ⊢
      rw [ids]
    · by_cases same : other = id
      · exact .inr ⟨grant, same ▸ present, by rw [same, Store.upsertGrant_grant, setAt_self]⟩
      · exact .inl (by rw [Store.upsertGrant_grant, setAt_of_ne same])
    · intro other isIn
      rw [List.mem_singleton.mp isIn]
      exact ⟨grant.revoke store.clock, by rw [Store.upsertGrant_grant, setAt_self], rfl⟩
    · exact ⟨[⟨id, false, false, !grant.terminal, false⟩], rfl, by simp, by simp⟩

theorem Stages.isSome (stages : Stages store after key rows) (id : GrantId) :
    (after.grant id).isSome = (store.grant id).isSome := by
  rcases stages.kept id with same | ⟨grant, before, now⟩
  · rw [same]
  · rw [before, now]
    rfl

theorem Stages.terminal (stages : Stages store after key rows)
    (present : store.grant id = some grant) (terminal : grant.terminal = true) :
    ∃ grant, after.grant id = some grant ∧ grant.terminal = true := by
  rcases stages.kept id with same | ⟨before, _, now⟩
  · exact ⟨grant, same.trans present, terminal⟩
  · exact ⟨_, now, rfl⟩

include known in
theorem stageTargets_some
    (done : store.stageTargets key rows = some after) : Stages store after key rows := by
  induction rows generalizing store with
  | nil =>
    cases done
    exact ⟨rfl, fun _ _ => rfl, fun _ => .inl rfl, (fun _ isIn => nomatch isIn),
      [], rfl, (fun _ isIn => nomatch isIn), rfl⟩
  | cons id rest induction =>
    obtain ⟨middle, isFirst, isRest⟩ := Option.bind_eq_some_iff.mp done
    have first := stageTarget_some known isFirst
    have ids : middle.grantIds = store.grantIds := by rw [first.same]
    have clock : middle.clock = store.clock := by rw [first.same]
    have second := induction (fun id present => by
      rw [ids]; exact known id (first.isSome id ▸ present)) isRest
    refine ⟨?_, fun other apart => (second.others other apart).trans (first.others other apart),
      fun other => ?_, fun other isIn => ?_, ?_⟩
    · rw [second.same, first.same]
    · rcases second.kept other with same | ⟨grant, before, now⟩
      · rw [same]
        exact first.kept other
      · rcases first.kept other with same | ⟨old, oldBefore, oldNow⟩
        · exact .inr ⟨grant, same ▸ before, clock ▸ now⟩
        · refine .inr ⟨old, oldBefore, ?_⟩
          rw [oldNow] at before
          cases before
          rw [now, clock, revoke_revoke]
    · rcases List.mem_cons.mp isIn with rfl | isLater
      · obtain ⟨grant, present, terminal⟩ := first.staged other (List.mem_singleton_self other)
        exact second.terminal present terminal
      · exact second.staged other isLater
    · obtain ⟨added, names, fresh, same⟩ := first.targets
      obtain ⟨more, moreNames, moreFresh, moreSame⟩ := second.targets
      refine ⟨added ++ more, by rw [List.map_append, names, moreNames]; rfl, ?_, ?_⟩
      · intro target isIn
        exact (List.mem_append.mp isIn).elim (fresh target) (moreFresh target)
      · rw [moreSame, same, List.foldl_append]

end LicoMesh.ToolGrants
