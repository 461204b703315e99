import LicoMesh.ToolGrants.Calls
import LicoMesh.Library.Forest

namespace LicoMesh.ToolGrants

open Library

/-! What the statements of the store do to its tables, and the rows that a cascade writes. -/

theorem revoke_revoke (grant : Grant) (now : Nat) :
    (grant.revoke now).revoke now = grant.revoke now :=
  rfl

theorem terminal_revoke (grant : Grant) (now : Nat) : (grant.revoke now).terminal = true := rfl

namespace Store

structure Sound (store : Store) : Prop where
  ascending : store.grantIds.Pairwise (· < ·)
  known : ∀ id, id ∈ store.grantIds ↔ (store.grant id).isSome
  owned : ∀ id, store.owners id ≠ [] → id ∈ store.grantIds
  unopened : ∀ key, store.job key = none → store.targets key = []

variable {store : Store} {id other : GrantId} {grant : Grant}

theorem sound_empty : Sound {} where
  ascending := .nil
  known _ := by simp
  owned _ notEmpty := absurd rfl notEmpty
  unopened _ _ := rfl

theorem Sound.mem (sound : store.Sound) (present : store.grant id = some grant) :
    id ∈ store.grantIds :=
  (sound.known id).mpr (by rw [present]; rfl)

theorem upsertGrant_grantIds_of_mem (present : id ∈ store.grantIds) :
    (store.upsertGrant id grant).grantIds = store.grantIds :=
  if_pos present

/-- Only the tables of grants matter for `Sound`, next to the targets of missing jobs. -/
theorem Sound.of_tables (sound : store.Sound) {after : Store}
    (ids : after.grantIds = store.grantIds)
    (rows : ∀ id, (after.grant id).isSome ↔ (store.grant id).isSome)
    (owners : after.owners = store.owners)
    (unopened : ∀ key, after.job key = none → after.targets key = []) : after.Sound where
  ascending := ids ▸ sound.ascending
  known id := by rw [ids, sound.known id, rows id]
  owned id := by rw [ids, owners]; exact sound.owned id
  unopened := unopened

theorem Sound.upsertGrant (sound : store.Sound) : (store.upsertGrant id grant).Sound where
  ascending := ascending_insertKey sound.ascending
  known other := by
    rw [upsertGrant_grantIds, mem_insertKey, sound.known other, upsertGrant_grant]
    by_cases same : other = id
    · rw [same, setAt_self]
      exact iff_of_true (.inl rfl) rfl
    · rw [setAt_of_ne same]
      exact or_iff_right same
  owned other notEmpty := mem_insertKey.mpr (.inr (sound.owned other notEmpty))
  unopened := sound.unopened

theorem Sound.setOwners (owners : List Owner) (sound : store.Sound)
    (present : id ∈ store.grantIds) :
    Sound { store with owners := setAt store.owners id owners } where
  ascending := sound.ascending
  known := sound.known
  owned other notEmpty := by
    by_cases same : other = id
    · exact same ▸ present
    · refine sound.owned other fun empty => notEmpty ?_
      dsimp only
      rw [setAt_of_ne same, empty]
  unopened := sound.unopened

theorem revokeGrants_eq (known : ∀ id, (store.grant id).isSome → id ∈ store.grantIds)
    (ids : List GrantId) : store.revokeGrants ids = { store with
      grant := fun id =>
        if id ∈ ids then (store.grant id).map (·.revoke store.clock) else store.grant id } := by
  induction ids generalizing store with
  | nil => simp [revokeGrants]
  | cons first rest induction =>
    unfold revokeGrants at induction ⊢
    rw [List.foldl_cons]
    cases present : store.grant first with
    | none =>
      rw [induction known]
      congr 1
      funext id
      by_cases same : id = first
      · simp [same, present]
      · simp [same]
    | some row =>
      have isKnown : first ∈ store.grantIds := known first (by rw [present]; rfl)
      have same : (store.upsertGrant first (row.revoke store.clock)).grantIds =
        store.grantIds :=
        upsertGrant_grantIds_of_mem isKnown
      rw [induction (fun id isRow => ?_)]
      · unfold Store.upsertGrant at same ⊢
        dsimp only at same ⊢
        congr 1
        funext id
        by_cases isFirst : id = first
        · rw [isFirst, setAt_self, present, if_pos List.mem_cons_self]
          split <;> rfl
        · rw [setAt_of_ne isFirst]
          simp [isFirst]
      · rw [same]
        rw [upsertGrant_grant] at isRow
        by_cases isFirst : id = first
        · exact isFirst ▸ isKnown
        · rw [setAt_of_ne isFirst] at isRow
          exact known id isRow

theorem Sound.revokeGrants (sound : store.Sound) (ids : List GrantId) :
    (store.revokeGrants ids).Sound := by
  rw [revokeGrants_eq fun id => (sound.known id).mpr]
  refine sound.of_tables rfl (fun id => ?_) rfl sound.unopened
  dsimp only
  split
  · rw [Option.isSome_map]
  · rfl

variable {store : Store} {id root node child : GrantId} {grant : Grant}

def parentOf (store : Store) (id : GrantId) : GrantId := (store.grant id).elim "" (·.parentGrantId)

@[simp] theorem mem_childrenOf : child ∈ store.childrenOf node ↔ child ∈ store.grantIds ∧ ∃ grant,
      store.grant child = some grant ∧ grant.delegated = true ∧ grant.parentGrantId = node := by
  unfold childrenOf
  rw [List.mem_filter]
  refine and_congr_right fun _ => ?_
  cases present : store.grant child with
  | none => simp
  | some grant => simp

theorem parentOf_childrenOf (isChild : child ∈ store.childrenOf node) :
    store.parentOf child = node := by
  obtain ⟨_, grant, present, _, isParent⟩ := mem_childrenOf.mp isChild
  rw [parentOf, present]
  exact isParent

theorem descendantsFrom_eq (depth : Nat) (parents : List GrantId) :
    store.descendantsFrom depth parents = generations store.childrenOf depth parents := by
  induction depth generalizing parents with
  | zero => rfl
  | succ depth induction => simp only [descendantsFrom, generations, induction]

theorem delegatedDescendants_eq (isId : root ≠ "") : store.delegatedDescendants root =
      generations store.childrenOf store.grantIds.length [root] := by
  rw [delegatedDescendants, if_neg isId, descendantsFrom_eq]

theorem delegatedDescendants_first (isId : root ≠ "") (isChild : child ∈ store.childrenOf root) :
    child ∈ store.delegatedDescendants root := by
  rw [delegatedDescendants_eq isId, mem_generations]
  refine ⟨root, List.mem_singleton_self root, 0, ?_, .first isChild⟩
  exact List.length_pos_of_mem (mem_childrenOf.mp isChild).1

theorem delegatedDescendants_closed (isRoot : root ∈ store.grantIds)
    (acyclic : root ∉ store.delegatedDescendants root)
    (isIn : node ∈ store.delegatedDescendants root) (isChild : child ∈ store.childrenOf node) :
    child ∈ store.delegatedDescendants root := by
  by_cases isId : root = ""
  · rw [delegatedDescendants, if_pos isId] at isIn
    exact nomatch isIn
  · rw [delegatedDescendants_eq isId] at acyclic isIn ⊢
    exact generations_closed (fun _ _ => parentOf_childrenOf)
      (fun _ _ isChild => (mem_childrenOf.mp isChild).1) isRoot acyclic isIn isChild

theorem delegatedDescendants_induction {property : GrantId → Prop} (isRoot : property root)
    (passes : ∀ node child, property node → child ∈ store.childrenOf node → property child) :
    ∀ node ∈ store.delegatedDescendants root, property node := by
  intro node isIn
  by_cases isId : root = ""
  · rw [delegatedDescendants, if_pos isId] at isIn
    exact nomatch isIn
  · rw [delegatedDescendants_eq isId] at isIn
    obtain ⟨_, isOnly, level, _, descends⟩ := mem_generations.mp isIn
    obtain rfl := List.mem_singleton.mp isOnly
    exact descends.preserves isRoot passes

theorem delegatedDescendants_row (isIn : node ∈ store.delegatedDescendants root) :
    ∃ grant, store.grant node = some grant := by
  by_cases isId : root = ""
  · rw [delegatedDescendants, if_pos isId] at isIn
    exact nomatch isIn
  · rw [delegatedDescendants_eq isId] at isIn
    obtain ⟨_, _, _, _, descends⟩ := mem_generations.mp isIn
    cases descends with
    | child _ isChild =>
      obtain ⟨_, grant, present, _⟩ := mem_childrenOf.mp isChild
      exact ⟨grant, present⟩

end Store

end LicoMesh.ToolGrants
