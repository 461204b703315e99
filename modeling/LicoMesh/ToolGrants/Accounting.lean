import LicoMesh.ToolGrants.Ledger

namespace LicoMesh.ToolGrants

open Library

variable {targets accounted pending : List Target} {owner : Owner} {key : String}
  {store after : Store} {owned : List GrantId} {job : Job}

@[simp] theorem grantIdsOf_append (left right : List Target) :
    grantIdsOf (left ++ right) = grantIdsOf left ++ grantIdsOf right :=
  List.map_append

variable (ledger : Ledger key owned store job accounted pending)

include ledger in
theorem Ledger.filter_pending :
    (store.targets key).filter (fun target => !target.accounted) = pending := by
  rw [ledger.targets, List.filter_append]
  have none : accounted.filter (fun target => !target.accounted) = [] := by
    refine List.filter_eq_nil_iff.mpr fun target isIn => ?_
    simp [(ledger.isAccounted target isIn).1]
  rw [none, List.nil_append]
  refine List.filter_eq_self.mpr fun target isIn => ?_
  simp [ledger.isPending target isIn]

def Target.account (target : Target) : Target := { target with accounted := true }

theorem grantIdsOf_account (targets : List Target) :
    grantIdsOf (targets.map .account) = grantIdsOf targets := by
  unfold grantIdsOf
  rw [List.map_map]
  rfl

include ledger

theorem Ledger.pending_eq_nil (complete : job.complete = true) : pending = [] := by
  obtain ⟨rest, same⟩ := ledger.staged
  have length := congrArg List.length same
  rw [← ledger.complete complete] at length
  simp only [List.length_append, grantIdsOf, List.length_map] at length
  exact List.length_eq_zero_iff.mp (by omega)

theorem Ledger.account (isLast : pending.getLast? = some last) (out : ∀ target ∈ pending,
      target.capabilityInvalidated = true ∧ target.bindingInvalidated = true) :
    Ledger key owned { store with
        job := setAt store.job key (some (job.account pending last))
        targets := setAt store.targets key ((store.targets key).map .account) }
      (job.account pending last) ((accounted ++ pending).map .account) [] where
  targets := by
    dsimp only
    rw [setAt_self, ledger.targets, List.append_nil]
  isAccounted target isIn := by
    obtain ⟨old, wasIn, rfl⟩ := List.mem_map.mp isIn
    refine ⟨rfl, ?_⟩
    rcases List.mem_append.mp wasIn with wasAccounted | wasPending
    · exact (ledger.isAccounted old wasAccounted).2
    · exact out old wasPending
  isPending _ isIn := by cases isIn
  staged := by
    obtain ⟨rest, same⟩ := ledger.staged
    exact ⟨rest, by rw [grantIdsOf_account, grantIdsOf_append, same]; simp [grantIdsOf]⟩
  terminal target isIn := by
    rw [List.append_nil] at isIn
    obtain ⟨old, wasIn, rfl⟩ := List.mem_map.mp isIn
    exact ledger.terminal old wasIn
  keysOut target isIn isOut := by
    rw [List.append_nil] at isIn
    obtain ⟨old, wasIn, rfl⟩ := List.mem_map.mp isIn
    exact ledger.keysOut old wasIn isOut
  bindingsOut target isIn isOut := by
    rw [List.append_nil] at isIn
    obtain ⟨old, wasIn, rfl⟩ := List.mem_map.mp isIn
    exact ledger.bindingsOut old wasIn isOut
  cursor := by
    rw [grantIdsOf_account, grantIdsOf_append, List.getLast?_append]
    unfold grantIdsOf
    rw [List.getLast?_map, isLast]
    rfl
  token _ := rfl
  processed := by
    rw [List.length_map, List.length_append, ← ledger.processed]
    rfl
  counts := by
    have bound : pending.countP (·.newlyRevoked) ≤ pending.length := List.countP_le_length
    have counts := ledger.counts
    rw [List.length_map, List.length_append]
    unfold Job.account
    dsimp only
    omega
  complete isComplete := by
    have empty := ledger.pending_eq_nil isComplete
    rw [empty] at isLast
    cases isLast

omit ledger

theorem insertTarget_of_mem (ascending : (grantIdsOf targets).Pairwise (· < ·))
    (isIn : target.grantId ∈ grantIdsOf targets) : insertTarget target targets = targets := by
  induction targets with
  | nil => exact nomatch isIn
  | cons first rest induction =>
    obtain ⟨before, ascendingRest⟩ := List.pairwise_cons.mp ascending
    unfold insertTarget
    rcases List.mem_cons.mp isIn with same | later
    · rw [if_neg (same ▸ lt_irrefl _), if_pos same]
    · have less := before _ later
      rw [if_neg (not_lt_of_gt less), if_neg (ne_of_gt less), induction ascendingRest later]

theorem insertTarget_last (later : ∀ other ∈ targets, other.grantId < target.grantId) :
    insertTarget target targets = targets ++ [target] := by
  induction targets with
  | nil => rfl
  | cons first rest induction =>
    obtain ⟨less, lessRest⟩ := List.forall_mem_cons.mp later
    unfold insertTarget
    rw [if_neg (not_lt_of_gt less), if_neg (ne_of_gt less), induction lessRest, List.cons_append]

theorem foldl_insertTarget
    (ascending : owned.Pairwise (· < ·)) (staged : owned = grantIdsOf targets ++ rest)
    (continues : owned = passed ++ grantIdsOf added ++ tail)
    (isPassed : grantIdsOf targets = passed ++ more) : ∃ fresh,
      added.foldl (fun targets target => insertTarget target targets) targets = targets ++ fresh ∧
      fresh.Sublist added ∧
      (∃ rest, owned = grantIdsOf (targets ++ fresh) ++ rest) ∧
      ∃ more, grantIdsOf (targets ++ fresh) = passed ++ grantIdsOf added ++ more := by
  induction added generalizing targets passed rest more with
  | nil =>
    refine ⟨[], (List.append_nil _).symm, .refl _, ⟨rest, ?_⟩, more, ?_⟩
    · rw [List.append_nil]
      exact staged
    · rw [List.append_nil, isPassed]
      simp [grantIdsOf]
  | cons target others induction =>
    rw [List.foldl_cons]
    have names : grantIdsOf (target :: others) = target.grantId :: grantIdsOf others := rfl
    have continuesRest : owned = passed ++ [target.grantId] ++ grantIdsOf others ++ tail := by
      rw [continues, names]
      simp
    cases more with
    | nil =>
      rw [List.append_nil] at isPassed
      have isLast : insertTarget target targets = targets ++ [target] := by
        refine insertTarget_last fun other isIn => ?_
        rw [continuesRest, List.append_assoc, List.append_assoc] at ascending
        refine (List.pairwise_append.mp ascending).2.2 other.grantId ?_ target.grantId ?_
        · rw [← isPassed]
          exact List.mem_map_of_mem isIn
        · exact List.mem_append_left _ (List.mem_singleton_self _)
      have namesNow : grantIdsOf (targets ++ [target]) = passed ++ [target.grantId] := by
        rw [grantIdsOf_append, isPassed]
        rfl
      have stagedNow : owned = grantIdsOf (targets ++ [target]) ++ (grantIdsOf others ++ tail) := by
        rw [namesNow, continuesRest, List.append_assoc]
      obtain ⟨fresh, same, isAdded, later, covers⟩ :=
        induction stagedNow continuesRest (namesNow.trans (List.append_nil _).symm)
      refine ⟨target :: fresh, ?_, ?_, ?_, ?_⟩
      · rw [isLast, same, List.append_assoc]
        rfl
      · exact isAdded.cons_cons target
      · rwa [List.append_assoc] at later
      · rw [List.append_assoc] at covers
        obtain ⟨more, covered⟩ := covers
        exact ⟨more, by rw [names]; simpa using covered⟩
    | cons row rows =>
      have isRow : row = target.grantId := by
        have both := continues.symm.trans staged
        rw [isPassed, names, List.append_assoc, List.append_assoc] at both
        exact (List.cons.inj (List.append_cancel_left both)).1.symm
      have isIn : target.grantId ∈ grantIdsOf targets := by
        rw [isPassed, isRow]
        exact List.mem_append_right _ List.mem_cons_self
      have unchanged : insertTarget target targets = targets := by
        refine insertTarget_of_mem ?_ isIn
        rw [staged] at ascending
        exact (List.pairwise_append.mp ascending).1
      rw [unchanged]
      obtain ⟨fresh, same, isAdded, later, more, covered⟩ :=
        induction staged continuesRest
          (isPassed.trans (by rw [isRow, List.append_assoc]; rfl))
      refine ⟨fresh, same, isAdded.cons target, later, more, ?_⟩
      rw [covered, names]
      simp

include ledger

theorem Ledger.ownerRows (sound : store.Sound) (isOwned : store.ownedGrantIds owner = owned)
    (behind : owned = grantIdsOf accounted ++ later) (limit : Nat) :
    store.ownerRows owner job.ownerCursorGrantId limit = later.take limit := by
  have ascending : owned.Pairwise (· < ·) := isOwned ▸ sound.ascending.filter _
  unfold Store.ownerRows
  rw [isOwned, ledger.cursor]
  rw [behind] at ascending ⊢
  rw [filter_isAfter ascending]

theorem Ledger.later : ∃ later, owned = grantIdsOf accounted ++ later := by
  obtain ⟨rest, same⟩ := ledger.staged
  exact ⟨grantIdsOf pending ++ rest, by rw [same, List.append_assoc]⟩

theorem Ledger.stages (sound : store.Sound) (isOwned : store.ownedGrantIds owner = owned)
    {later : List GrantId} (behind : owned = grantIdsOf accounted ++ later) {limit : Nat}
    (stages : Stages store after key (later.take limit)) :
    ∃ fresh, Ledger key owned after job accounted (pending ++ fresh) ∧
      fresh.length ≤ (later.take limit).length ∧
      ∃ more, grantIdsOf (pending ++ fresh) = later.take limit ++ more := by
  have ascending : owned.Pairwise (· < ·) := isOwned ▸ sound.ascending.filter _
  obtain ⟨rest, staged⟩ := ledger.staged
  obtain ⟨added, names, isFresh, same⟩ := stages.targets
  have namesNow : grantIdsOf added = later.take limit := names
  have joined : grantIdsOf (accounted ++ pending) = grantIdsOf accounted ++ grantIdsOf pending :=
    grantIdsOf_append accounted pending
  have stagedNow : owned = grantIdsOf (accounted ++ pending) ++ rest := by
    rw [joined, staged]
  have continues : owned = grantIdsOf accounted ++ grantIdsOf added ++ later.drop limit := by
    rw [namesNow, List.append_assoc, List.take_append_drop]
    exact behind
  obtain ⟨fresh, folded, isAdded, further, more, covered⟩ :=
    foldl_insertTarget ascending stagedNow continues joined
  have targets : after.targets key = accounted ++ (pending ++ fresh) := by
    rw [same, ledger.targets, folded, List.append_assoc]
  have isNew : ∀ target ∈ fresh, target.accounted = false ∧
      target.capabilityInvalidated = false ∧ target.bindingInvalidated = false :=
    fun target isIn => isFresh target (isAdded.subset isIn)
  have keys : after.keys = store.keys := by rw [stages.same]
  have bindings : after.bindings = store.bindings := by rw [stages.same]
  refine ⟨fresh, { ledger with
    targets := targets
    isPending := ?_
    staged := ?_
    terminal := ?_
    keysOut := ?_
    bindingsOut := ?_ }, ?_, more, ?_⟩
  · intro target isIn
    rcases List.mem_append.mp isIn with wasPending | isFreshTarget
    · exact ledger.isPending target wasPending
    · exact (isNew target isFreshTarget).1
  · obtain ⟨rest, same⟩ := further
    exact ⟨rest, by rw [same, List.append_assoc, grantIdsOf_append]⟩
  · intro target isIn
    rw [← List.append_assoc] at isIn
    rcases List.mem_append.mp isIn with wasThere | isFreshTarget
    · obtain ⟨grant, present, terminal⟩ := ledger.terminal target wasThere
      exact stages.terminal present terminal
    · refine stages.staged target.grantId ?_
      rw [← names]
      exact List.mem_map_of_mem (isAdded.subset isFreshTarget)
  · intro target isIn out
    rw [← List.append_assoc] at isIn
    unfold Store.KeysInvalid
    rw [keys]
    rcases List.mem_append.mp isIn with wasThere | isFreshTarget
    · exact ledger.keysOut target wasThere out
    · rw [(isNew target isFreshTarget).2.1] at out
      exact nomatch out
  · intro target isIn out
    rw [← List.append_assoc] at isIn
    unfold Store.BindingsInvalid
    rw [bindings]
    rcases List.mem_append.mp isIn with wasThere | isFreshTarget
    · exact ledger.bindingsOut target wasThere out
    · rw [(isNew target isFreshTarget).2.2] at out
      exact nomatch out
  · rw [← namesNow, grantIdsOf, List.length_map]
    exact isAdded.length_le
  · rw [List.append_assoc, grantIdsOf_append] at covered
    rw [namesNow, List.append_assoc] at covered
    exact List.append_cancel_left covered

theorem Ledger.completes (all : owned = grantIdsOf accounted) :
    Ledger key owned store { job with complete := true, cursorToken := none } accounted pending :=
  { ledger with
    token := fun isPending => nomatch isPending
    complete := fun _ => all.symm }

end LicoMesh.ToolGrants
