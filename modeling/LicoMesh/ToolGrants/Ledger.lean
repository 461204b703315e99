import LicoMesh.ToolGrants.Retirement

namespace LicoMesh.ToolGrants

open List

/-! The targets of a job: those that are accounted for come first, then those that are staged, in
the order of the owner's grants. -/

variable {update : Target → Target} {target : Target} {owner : Owner} {key : String}
  {store after : Store} {id : GrantId} {owned : List GrantId} {job : Job}
  {accounted pending : List Target}

def grantIdsOf (targets : List Target) : List GrantId := targets.map (·.grantId)

structure Ledger (key : String) (owned : List GrantId) (store : Store) (job : Job)
    (accounted pending : List Target) : Prop where
  targets : store.targets key = accounted ++ pending
  isAccounted : ∀ target ∈ accounted, target.accounted = true ∧
    target.capabilityInvalidated = true ∧ target.bindingInvalidated = true
  isPending : ∀ target ∈ pending, target.accounted = false
  staged : ∃ rest, owned = grantIdsOf accounted ++ grantIdsOf pending ++ rest
  terminal : ∀ target ∈ accounted ++ pending, store.Terminal target.grantId
  keysOut : ∀ target ∈ accounted ++ pending, target.capabilityInvalidated = true →
    store.KeysInvalid target.grantId
  bindingsOut : ∀ target ∈ accounted ++ pending, target.bindingInvalidated = true →
    store.BindingsInvalid target.grantId
  cursor : job.ownerCursorGrantId = (grantIdsOf accounted).getLast?
  token : job.complete = false → job.cursorToken = job.ownerCursorGrantId
  processed : job.processedCount = accounted.length
  counts : job.revokedCount + job.alreadyRevokedCount = accounted.length
  complete : job.complete = true → grantIdsOf accounted = owned

variable (ledger : Ledger key owned store job accounted pending)

include ledger in
theorem Ledger.mem_owned (isIn : target ∈ accounted ++ pending) : target.grantId ∈ owned := by
  obtain ⟨rest, same⟩ := ledger.staged
  rw [same, grantIdsOf, grantIdsOf, ← map_append]
  exact mem_append_left rest (mem_map_of_mem isIn)

theorem Ledger.opened (job : Job) (targets : store.targets key = []) : Ledger key owned store
      { pluginId := job.pluginId, ownerGeneration := job.ownerGeneration } [] [] where
  targets := targets
  isAccounted _ isIn := nomatch isIn
  isPending _ isIn := nomatch isIn
  staged := ⟨owned, rfl⟩
  terminal _ isIn := nomatch isIn
  keysOut _ isIn := nomatch isIn
  bindingsOut _ isIn := nomatch isIn
  cursor := rfl
  token _ := rfl
  processed := rfl
  counts := rfl
  complete isComplete := nomatch isComplete

variable (isOwned : store.ownedGrantIds owner = owned)

include isOwned in
include ledger in
theorem Ledger.keeps (keeps : Keeps owner key store after) :
    Ledger key owned after job accounted pending :=
  { ledger with
    targets := keeps.targets.trans ledger.targets
    terminal := fun target isIn =>
      keeps.terminal _ (isOwned ▸ ledger.mem_owned isIn) (ledger.terminal target isIn)
    keysOut := fun target isIn out =>
      keeps.keys _ (isOwned ▸ ledger.mem_owned isIn) (ledger.keysOut target isIn out)
    bindingsOut := fun target isIn out =>
      keeps.bindings _ (isOwned ▸ ledger.mem_owned isIn) (ledger.bindingsOut target isIn out) }

structure Marks (store : Store) (id : GrantId) (update : Target → Target) : Prop where
  grantId : ∀ target, (update target).grantId = target.grantId
  accounted : ∀ target, (update target).accounted = target.accounted
  keysIn : ∀ target, target.capabilityInvalidated = true →
    (update target).capabilityInvalidated = true
  bindingsIn : ∀ target, target.bindingInvalidated = true →
    (update target).bindingInvalidated = true
  keysOut : ∀ target, (update target).capabilityInvalidated = true →
    target.capabilityInvalidated = true ∨ store.KeysInvalid id
  bindingsOut : ∀ target, (update target).bindingInvalidated = true →
    target.bindingInvalidated = true ∨ store.BindingsInvalid id

def markIn (id : GrantId) (update : Target → Target) (target : Target) : Target :=
  if target.grantId = id then update target else target

theorem grantIdsOf_map (marks : Marks store id update) (targets : List Target) :
    grantIdsOf (targets.map (markIn id update)) = grantIdsOf targets := by
  unfold grantIdsOf
  rw [map_map]
  refine map_congr_left fun target _ => ?_
  dsimp only [Function.comp_apply, markIn]
  split
  · exact marks.grantId target
  · rfl

include ledger in
theorem Ledger.updateTarget (marks : Marks store id update) :
    Ledger key owned (store.updateTarget key id update) job
      (accounted.map (markIn id update)) (pending.map (markIn id update)) where
  targets := by
    rw [Store.updateTarget_targets, setAt_self, ledger.targets, ← map_append]
    rfl
  isAccounted target isIn := by
    obtain ⟨old, wasIn, rfl⟩ := mem_map.mp isIn
    obtain ⟨isAccounted, keysOut, bindingsOut⟩ := ledger.isAccounted old wasIn
    unfold markIn
    split
    · exact ⟨(marks.accounted old).trans isAccounted, marks.keysIn old keysOut,
        marks.bindingsIn old bindingsOut⟩
    · exact ⟨isAccounted, keysOut, bindingsOut⟩
  isPending target isIn := by
    obtain ⟨old, wasIn, rfl⟩ := mem_map.mp isIn
    unfold markIn
    split
    · exact (marks.accounted old).trans (ledger.isPending old wasIn)
    · exact ledger.isPending old wasIn
  staged := by
    rw [grantIdsOf_map marks, grantIdsOf_map marks]
    exact ledger.staged
  terminal target isIn := by
    rw [← map_append] at isIn
    obtain ⟨old, wasIn, rfl⟩ := mem_map.mp isIn
    unfold markIn
    split
    · rw [marks.grantId old]
      exact ledger.terminal old wasIn
    · exact ledger.terminal old wasIn
  keysOut target isIn out := by
    rw [← map_append] at isIn
    obtain ⟨old, wasIn, rfl⟩ := mem_map.mp isIn
    unfold markIn at out ⊢
    split at out
    · next here =>
        rw [if_pos here, marks.grantId old]
        rcases marks.keysOut old out with wasOut | isOut
        · exact ledger.keysOut old wasIn wasOut
        · exact here ▸ isOut
    · next elsewhere =>
        rw [if_neg elsewhere]
        exact ledger.keysOut old wasIn out
  bindingsOut target isIn out := by
    rw [← map_append] at isIn
    obtain ⟨old, wasIn, rfl⟩ := mem_map.mp isIn
    unfold markIn at out ⊢
    split at out
    · next here =>
        rw [if_pos here, marks.grantId old]
        rcases marks.bindingsOut old out with wasOut | isOut
        · exact ledger.bindingsOut old wasIn wasOut
        · exact here ▸ isOut
    · next elsewhere =>
        rw [if_neg elsewhere]
        exact ledger.bindingsOut old wasIn out
  cursor := by
    rw [grantIdsOf_map marks]
    exact ledger.cursor
  token := ledger.token
  processed := by rw [length_map]; exact ledger.processed
  counts := by rw [length_map]; exact ledger.counts
  complete := by
    rw [grantIdsOf_map marks]
    exact ledger.complete

def markKey (target read : Target) : Target :=
  markIn target.grantId (fun other => { other with capabilityInvalidated := true }) read

def markBinding (target read : Target) : Target :=
  markIn target.grantId (fun other => { other with bindingInvalidated := true }) read

include ledger isOwned

theorem Ledger.invalidateTargetKey (live : target.capabilityInvalidated = false) :
    Ledger key owned (store.invalidateTargetKey key target) job
      (accounted.map (markKey target)) (pending.map (markKey target)) := by
  unfold Store.invalidateTargetKey
  rw [live]
  have keeps : Keeps owner key store (store.invalidateCredential target.grantId) :=
    .invalidateCredential
  exact (ledger.keeps isOwned keeps).updateTarget
    ⟨fun _ => rfl, fun _ => rfl, fun _ _ => rfl, fun _ was => was,
      fun _ _ => .inr keysInvalid_self, fun _ was => .inl was⟩

theorem Ledger.invalidateTargetBinding (live : target.bindingInvalidated = false) :
    Ledger key owned (store.invalidateTargetBinding key target) job
      (accounted.map (markBinding target)) (pending.map (markBinding target)) := by
  unfold Store.invalidateTargetBinding
  rw [live]
  have keeps : Keeps owner key store (store.invalidateBinding target.grantId) := .invalidateBinding
  exact (ledger.keeps isOwned keeps).updateTarget
    ⟨fun _ => rfl, fun _ => rfl, fun _ was => was, fun _ _ => rfl, fun _ was => .inl was,
      fun _ _ => .inr bindingsInvalid_self⟩

end LicoMesh.ToolGrants
