import LicoMesh.ToolGrants.OwnerResults

namespace LicoMesh.ToolGrants

open Library List Store

variable {mark : Target → Target} {targets accounted pending : List Target} {count : Nat}
  {owner : Owner} {key : String} {store middle after : Store} {point next : Point}
  {owned : List GrantId} {job : Job} {command : Command} {request : RetireRequest}

inductive Advances (command : Command) : Nat → Store → Point → Store → Point → Prop
  | refl {store : Store} {point : Point} : Advances command 0 store point store point
  | step {count : Nat} {store middle after : Store} {point next last : Point}
      (performed : perform store command point = some (middle, next))
      (rest : Advances command count middle next after last) :
      Advances command (count + 1) store point after last

namespace Advances

theorem single (performed : perform store command point = some (after, next)) :
    Advances command 1 store point after next :=
  .step performed .refl

theorem trans (left : Advances command first store point middle next)
    (right : Advances command second middle next after last) :
    Advances command (first + second) store point after last := by
  induction left with
  | refl => exact (Nat.zero_add second).symm ▸ right
  | @step count _ _ _ _ _ _ performed _ induction =>
    rw [Nat.add_right_comm]
    exact .step performed (induction right)

theorem sound (advances : Advances command count store point after next) (sound : store.Sound) :
    after.Sound := by
  induction advances with
  | refl => exact sound
  | step performed _ induction => exact induction (perform_sound sound performed)

theorem ended (answer : Answer) (count : Nat) :
    Advances command count store (.ended answer) store (.ended answer) := by
  induction count with
  | zero => exact .refl
  | succ count induction => exact .step rfl induction

theorem extend (advances : Advances command count store point after (.ended answer))
    (enough : count ≤ steps) : Advances command steps store point after (.ended answer) := by
  have split := advances.trans (ended answer (steps - count))
  rwa [Nat.add_sub_cancel' enough] at split

theorem run (advances : Advances command count world.shared point after next)
    (isCall : world.agents[index]? = some ⟨command, point⟩) :
    runAll ToolGrants.step world (replicate count (.proceed index .ok)) =
      world.update index after ⟨command, next⟩ := by
  generalize same : world.shared = store at advances
  induction advances generalizing world with
  | refl =>
    obtain ⟨bound, found⟩ := List.getElem?_eq_some_iff.mp isCall
    unfold World.update
    rw [← same, ← found, set_getElem_self]
    rfl
  | @step count store middle after point next last performed _ induction =>
    have stepped : ToolGrants.step world (.proceed index .ok) =
        world.update index middle ⟨command, next⟩ := by
      unfold ToolGrants.step
      dsimp only
      rw [isCall]
      dsimp only
      unfold Call.proceed
      rw [same, performed]
    rw [replicate_succ, runAll_cons, stepped, induction
      (by rw [World.getElem?_update isCall, if_pos rfl]) rfl]
    unfold World.update
    rw [set_set]

end Advances

def Target.Out (target : Target) : Prop :=
  target.capabilityInvalidated = true ∧ target.bindingInvalidated = true

structure Raises (mark : Target → Target) : Prop where
  grantId : ∀ target, (mark target).grantId = target.grantId
  keys : ∀ target, target.capabilityInvalidated = true → (mark target).capabilityInvalidated = true
  bindings : ∀ target, target.bindingInvalidated = true → (mark target).bindingInvalidated = true

theorem Raises.refl : Raises id := ⟨fun _ => rfl, fun _ was => was, fun _ was => was⟩

theorem Raises.comp (left : Raises first) (right : Raises second) : Raises (second ∘ first) where
  grantId target := (right.grantId _).trans (left.grantId target)
  keys target was := right.keys _ (left.keys target was)
  bindings target was := right.bindings _ (left.bindings target was)

theorem Raises.names (raises : Raises mark) (targets : List Target) :
    grantIdsOf (targets.map mark) = grantIdsOf targets := by
  unfold grantIdsOf
  rw [map_map]
  exact map_congr_left fun target _ => raises.grantId target

theorem raises_markKey (target : Target) : Raises (markKey target) := by
  refine ⟨fun read => ?_, fun read was => ?_, fun read was => ?_⟩
  all_goals
    unfold markKey markIn
    split
  · rfl
  · rfl
  · rfl
  · exact was
  · exact was
  · exact was

theorem raises_markBinding (target : Target) : Raises (markBinding target) := by
  refine ⟨fun read => ?_, fun read was => ?_, fun read was => ?_⟩
  all_goals
    unfold markBinding markIn
    split
  · rfl
  · rfl
  · exact was
  · exact was
  · rfl
  · exact was

variable (retiring : Retiring owner key owned store job accounted pending)
include retiring

theorem Retiring.markKey
    (target : Target) (read : target.capabilityInvalidated = true → ∀ other ∈ pending,
      other.grantId = target.grantId → other.capabilityInvalidated = true) :
    ∃ mark, Raises mark ∧ Retiring owner key owned (store.invalidateTargetKey key target) job
        (accounted.map mark) (pending.map mark) ∧
      ∀ other ∈ pending, other.grantId = target.grantId →
        (mark other).capabilityInvalidated = true := by
  cases live : target.capabilityInvalidated with
  | true =>
    refine ⟨id, .refl, ?_, read live⟩
    unfold Store.invalidateTargetKey
    rw [live, map_id, map_id]
    exact retiring
  | false =>
    refine ⟨ToolGrants.markKey target, raises_markKey target,
      retiring.markedKey live, fun other _ same => ?_⟩
    unfold ToolGrants.markKey markIn
    rw [if_pos same]

theorem Retiring.markBinding
    (target : Target) (read : target.bindingInvalidated = true → ∀ other ∈ pending,
      other.grantId = target.grantId → other.bindingInvalidated = true) :
    ∃ mark, Raises mark ∧ Retiring owner key owned (store.invalidateTargetBinding key target) job
        (accounted.map mark) (pending.map mark) ∧
      ∀ other ∈ pending, other.grantId = target.grantId →
        (mark other).bindingInvalidated = true := by
  cases live : target.bindingInvalidated with
  | true =>
    refine ⟨id, .refl, ?_, read live⟩
    unfold Store.invalidateTargetBinding
    rw [live, map_id, map_id]
    exact retiring
  | false =>
    refine ⟨ToolGrants.markBinding target, raises_markBinding target,
      retiring.markedBinding live, fun other _ same => ?_⟩
    unfold ToolGrants.markBinding markIn
    rw [if_pos same]

omit retiring

def ReadOf (pending targets : List Target) : Prop :=
  ∀ target ∈ targets, ∀ other ∈ pending, other.grantId = target.grantId →
    (target.capabilityInvalidated = true → other.capabilityInvalidated = true) ∧
      (target.bindingInvalidated = true → other.bindingInvalidated = true)

theorem ReadOf.raise (read : ReadOf pending targets) (raises : Raises mark) :
    ReadOf (pending.map mark) targets := by
  intro target isIn other isOther same
  obtain ⟨old, wasIn, rfl⟩ := mem_map.mp isOther
  have facts := read target isIn old wasIn ((raises.grantId old).symm.trans same)
  exact ⟨fun out => raises.keys old (facts.1 out), fun out => raises.bindings old (facts.2 out)⟩

theorem Retiring.markTarget (command : Command)
    (retiring : Retiring owner key owned store job accounted pending)
    (isKey : request.idempotencyKey = key) (read : ReadOf pending (target :: rest)) :
    ∃ after mark, Advances command 2 store (.retiringKeys request second (target :: rest)) after
        (.retiringKeys request second rest) ∧ Raises mark ∧
      Retiring owner key owned after job (accounted.map mark) (pending.map mark) ∧
      ∀ other ∈ pending, other.grantId = target.grantId → (mark other).Out := by
  subst isKey
  have readHere := read target mem_cons_self
  obtain ⟨first, raisesFirst, retiringFirst, keysOut⟩ :=
    retiring.markKey target fun out other isIn same => (readHere other isIn same).1 out
  obtain ⟨last, raisesLast, retiringLast, bindingsOut⟩ :=
    retiringFirst.markBinding target fun out other isIn same =>
      (read.raise raisesFirst target mem_cons_self other isIn same).2 out
  refine ⟨_, last ∘ first, .step rfl (.single rfl), raisesFirst.comp raisesLast,
    ?_, fun other isIn same => ?_⟩
  · rw [← map_map, ← map_map]
    exact retiringLast
  · exact ⟨raisesLast.keys _ (keysOut other isIn same),
      bindingsOut (first other) (mem_map_of_mem isIn) ((raisesFirst.grantId other).trans same)⟩

theorem Retiring.round (command : Command)
    (retiring : Retiring owner key owned store job accounted pending)
    (isKey : request.idempotencyKey = key) (read : ReadOf pending targets) :
    ∃ after mark, Advances command (2 * targets.length) store
        (.retiringKeys request second targets) after (.retiringKeys request second []) ∧
      Raises mark ∧ Retiring owner key owned after job (accounted.map mark) (pending.map mark) ∧
      ∀ other ∈ pending, other.grantId ∈ grantIdsOf targets ∨ other.Out → (mark other).Out := by
  induction targets generalizing store accounted pending with
  | nil =>
    refine ⟨store, id, .refl, .refl, by rwa [map_id, map_id], ?_⟩
    exact fun other _ out => out.elim (fun isIn => nomatch isIn) fun was => was
  | cons target rest induction =>
    obtain ⟨middle, first, advances, raisesFirst, retiringFirst, outFirst⟩ :=
      retiring.markTarget command isKey read
    have readRest : ReadOf (pending.map first) rest := fun other isIn =>
      read.raise raisesFirst other (mem_cons_of_mem _ isIn)
    obtain ⟨after, last, advancesRest, raisesLast, retiringLast, outRest⟩ :=
      induction retiringFirst readRest
    refine ⟨after, last ∘ first, ?_, raisesFirst.comp raisesLast, ?_, fun other isIn out => ?_⟩
    · have both := advances.trans advancesRest
      rwa [show 2 + 2 * rest.length = 2 * (target :: rest).length by
        rw [length_cons]; omega] at both
    · rw [← map_map, ← map_map]
      exact retiringLast
    · refine outRest (first other) (mem_map_of_mem isIn) ?_
      rcases out with isTarget | was
      · rcases mem_cons.mp isTarget with same | isRest
        · exact .inr (outFirst other isIn same)
        · exact .inl ((raisesFirst.grantId other).symm ▸ isRest)
      · exact .inr ⟨raisesFirst.keys other was.1, raisesFirst.bindings other was.2⟩

include retiring in
theorem Retiring.finish (out : ∀ target ∈ pending, target.Out) :
    ∃ after later accountedNow, store.finalizeTargets key = some after ∧
      Retiring owner key owned after later accountedNow [] ∧ later.complete = job.complete ∧
      grantIdsOf accountedNow = grantIdsOf accounted ++ grantIdsOf pending := by
  have total : ∃ after, store.finalizeTargets key = some after := by
    unfold finalizeTargets
    dsimp only
    split
    · exact ⟨_, rfl⟩
    · split
      · exact ⟨_, rfl⟩
      · rw [retiring.present]
        exact ⟨_, rfl⟩
  obtain ⟨after, done⟩ := total
  refine ⟨after, ?_⟩
  cases finalizeTargets_some done with
  | waits isIn isPending live =>
    rw [retiring.ledger.targets] at isIn
    rcases mem_append.mp isIn with isAccounted | isPendingTarget
    · cases isPending.symm.trans (retiring.ledger.isAccounted _ isAccounted).1
    · have facts := out _ isPendingTarget
      rcases live with keyLive | bindingLive
      · cases keyLive.symm.trans facts.1
      · cases bindingLive.symm.trans facts.2
  | nothing empty =>
    rw [retiring.ledger.filter_pending] at empty
    subst empty
    exact ⟨job, accounted, done, retiring, rfl, (append_nil _).symm⟩
  | accounts pending_eq isLast allOut present =>
    rw [retiring.ledger.filter_pending] at pending_eq
    cases pending_eq
    cases retiring.present.symm.trans present
    have isPending : job.complete = false := by
      refine Bool.eq_false_of_not_eq_true fun complete => ?_
      rw [retiring.ledger.pending_eq_nil complete] at isLast
      cases isLast
    refine ⟨_, _, done, ⟨retiring.isOwned, setAt_self _ _ _, retiring.own,
      fun _ => retiring.retiring isPending,
      (fun complete => by cases isPending.symm.trans complete),
      retiring.ledger.account isLast allOut⟩, rfl, ?_⟩
    rw [grantIdsOf_account, grantIdsOf_append]

theorem stageTargets_isSome (key : String) (rows : List GrantId)
    (known : ∀ id ∈ rows, (store.grant id).isSome)
    (ids : ∀ id, (store.grant id).isSome → id ∈ store.grantIds) :
    ∃ after, store.stageTargets key rows = some after := by
  induction rows generalizing store with
  | nil => exact ⟨store, rfl⟩
  | cons id rest induction =>
    obtain ⟨here, knownRest⟩ := forall_mem_cons.mp known
    obtain ⟨grant, present⟩ := Option.isSome_iff_exists.mp here
    obtain ⟨middle, staged⟩ : ∃ middle, store.stageTarget key id = some middle := by
      unfold stageTarget
      rw [present]
      exact ⟨_, rfl⟩
    have stages := stageTarget_some ids staged
    have knownNow : ∀ other ∈ rest, (middle.grant other).isSome := fun other isIn => by
      rw [stages.isSome]
      exact knownRest other isIn
    obtain ⟨after, done⟩ := induction knownNow
      (fun other isThere => by
        rw [stages.same]
        exact ids other (stages.isSome other ▸ isThere))
    refine ⟨after, ?_⟩
    unfold stageTargets
    rw [staged]
    exact done

theorem Retiring.stageNext (retiring : Retiring owner key owned store job accounted [])
    (sound : store.Sound) (isPending : job.complete = false) (isKey : request.idempotencyKey = key)
    (isOwner : request.owner = owner) (behind : owned = grantIdsOf accounted ++ later) :
    (∃ after last,
      stageOrComplete store request = some (after, .announcing false (.receipt last.receipt)) ∧
        Retiring owner key owned after last accounted [] ∧ last.complete = true) ∨
      (later ≠ [] ∧ ∃ after fresh, stageOrComplete store request = some (after,
          .retiringKeys request true fresh) ∧ Retiring owner key owned after job accounted fresh ∧
        grantIdsOf fresh = later.take request.limit) := by
  subst isKey isOwner
  have rows := retiring.ledger.ownerRows sound retiring.isOwned behind request.limit
  have positive : request.limit ≠ 0 := by
    unfold RetireRequest.limit
    split <;> omega
  unfold stageOrComplete
  dsimp only
  rw [retiring.present, Option.bind_some, rows]
  cases later with
  | nil =>
    have isRetiring := retiring.retiring isPending
    have changed : (store.setAuthority request.owner .retired).authorityState request.owner =
        some .retired := by
      rw [authorityState_setAuthority, if_pos rfl, isRetiring]
      rfl
    rw [take_nil]
    rw [if_pos isRetiring]
    refine .inl ⟨_, { job with complete := true, cursorToken := none }, rfl,
      ⟨retiring.isOwned, setAt_self _ _ _, retiring.own, (fun isPending => nomatch isPending),
        fun _ => changed,
        { retiring.ledger.completes (by rw [behind, append_nil]) with }⟩, rfl⟩
  | cons first others =>
    refine .inr ⟨cons_ne_nil first others, ?_⟩
    have known : ∀ row ∈ (first :: others).take request.limit, (store.grant row).isSome := by
      intro row isRow
      have isOwned : row ∈ store.ownedGrantIds request.owner := by
        rw [retiring.isOwned, behind]
        exact mem_append_right _ (mem_of_mem_take isRow)
      exact (sound.known row).mp (mem_ownedGrantIds.mp isOwned).1
    obtain ⟨after, staged⟩ := stageTargets_isSome request.idempotencyKey _ known
      fun id => (sound.known id).mpr
    have stages := stageTargets_some (fun id => (sound.known id).mpr) staged
    obtain ⟨fresh, ledger, short, more, covers⟩ :=
      retiring.ledger.stages sound retiring.isOwned behind stages
    rw [nil_append] at covers ledger
    have names : grantIdsOf fresh = (first :: others).take request.limit := by
      have length := congrArg length covers
      rw [length_append, grantIdsOf, length_map] at length
      have noMore : more = [] := length_eq_zero_iff.mp (by omega)
      rw [covers, noMore, append_nil]
    have authorities : after.authorities = store.authorities := by rw [stages.same]
    have now : Retiring request.owner request.idempotencyKey owned after job accounted fresh := by
      refine ⟨?_, ?_, retiring.own, fun isPending => ?_, fun complete => ?_, ledger⟩
      · rw [← retiring.isOwned, stages.same]
        rfl
      · rw [stages.same]
        exact retiring.present
      · unfold authorityState
        rw [authorities]
        exact retiring.retiring isPending
      · unfold authorityState
        rw [authorities]
        exact retiring.retired complete
    have read : after.revocationTargets request.idempotencyKey request.limit = fresh := by
      unfold revocationTargets
      rw [ledger.filter_pending]
      refine take_of_length_le ?_
      have length := congrArg length names
      rw [grantIdsOf, length_map, length_take] at length
      omega
    refine ⟨after, fresh, ?_, now, names⟩
    obtain ⟨size, isSize⟩ := Nat.exists_eq_succ_of_ne_zero positive
    have split : (first :: others).take request.limit = first :: others.take size := by
      rw [isSize, take_succ_cons]
    rw [split] at staged ⊢
    dsimp only
    rw [staged, Option.map_some, read]

end LicoMesh.ToolGrants
