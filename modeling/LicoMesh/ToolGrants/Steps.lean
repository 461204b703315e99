import LicoMesh.ToolGrants.Tables

namespace LicoMesh.ToolGrants

open Option Bool

variable {parent : Option (GrantId × Grant)} {request : AuthorizationRequest} {store after : Store}
  {next : Point} {id : GrantId}

theorem replaceGrantOwners_some (done : store.replaceGrantOwners id owners = some after) :
    store.ownersActive owners = true ∧
      after = { store with owners := setAt store.owners id owners } := by
  unfold Store.replaceGrantOwners at done
  split_ifs at done with active
  exact ⟨active, (some.inj done).symm⟩

theorem startCreate_some (done : startCreate store input = some (after, next)) : after = store ∧
      input.capabilities ≠ [] ∧ store.grant input.id = none ∧ ∃ owners,
      store.resolveGrantOwners input.delegated (input.grant store.clock).parentGrantId input.tools =
      some owners ∧ next = .issuing ⟨input.id, input.grant store.clock, owners, false⟩ := by
  unfold startCreate at done
  dsimp only at done
  split_ifs at done with empty reserved
  split at done
  · exact nomatch done
  · next owners resolved =>
      cases done
      exact ⟨rfl, empty, not_isSome_iff_eq_none.mp reserved, owners, resolved, rfl⟩

structure Updates (store after : Store) (id : GrantId) (patch : GrantPatch) (existing : Grant)
    (owners : List Owner) : Prop where
  present : store.grant id = some existing
  live : existing.terminal = false
  wereActive : store.grantOwnersAreActive id = true
  active : store.ownersActive owners = true
  resolved : store.resolveGrantOwners (patch.apply existing store.clock).delegated
    (patch.apply existing store.clock).parentGrantId patch.tools = some owners
  after_eq : after = { store.upsertGrant id (patch.apply existing store.clock) with
    owners := setAt store.owners id owners }

theorem startUpdate_some (done : startUpdate store id patch = some (after, next)) :
    (after = store ∧ next = .ended .missing) ∨ (next = .cascading (.update id) ∧ ∃ existing owners,
        Updates store after id patch existing owners) := by
  unfold startUpdate at done
  split at done
  · cases done
    exact .inl ⟨rfl, rfl⟩
  · next existing present =>
      split at done
      · exact nomatch done
      · next live =>
          dsimp only at done
          split at done
          · exact nomatch done
          · next owners resolved =>
              split_ifs at done with inactive
              obtain ⟨written, replaced, same⟩ := map_eq_some_iff.mp done
              cases same
              obtain ⟨active, rfl⟩ := replaceGrantOwners_some replaced
              exact .inr ⟨rfl, existing, owners, present, eq_false_of_not_eq_true live,
                eq_true_of_not_eq_false inactive, active, resolved, rfl⟩

theorem startRotate_some (done : startRotate store id = some (after, next)) :
    after = store ∧ (next = .ended .missing ∨
      ∃ existing, store.grant id = some existing ∧ existing.terminal = false ∧
        store.grantOwnersAreActive id = true ∧
        next = .cascading (.rotate ⟨id, existing, store.owners id, true⟩)) := by
  unfold startRotate at done
  split at done
  · cases done
    exact ⟨rfl, .inl rfl⟩
  · next existing present =>
      split_ifs at done with terminal inactive
      cases done
      exact ⟨rfl, .inr ⟨existing, present, eq_false_of_not_eq_true terminal,
        eq_true_of_not_eq_false inactive, rfl⟩⟩

theorem startRevoke_some (done : startRevoke store id delete = some (after, next)) :
    (after = store ∧ (next = .ended .missing ∨ ∃ existing, store.grant id = some existing ∧
        existing.terminal = true ∧ (next = .announcing false .done ∨ next = .ended .done))) ∨
      (∃ existing, store.grant id = some existing ∧ existing.terminal = false ∧
        after = store.upsertGrant id (existing.revoke store.clock) ∧
        next = .cascading (.revoke id delete)) := by
  unfold startRevoke at done
  split at done
  · cases done
    exact .inl ⟨rfl, .inl rfl⟩
  · next existing present =>
      split_ifs at done with terminal deleted
      · cases done
        exact .inl ⟨rfl, .inr ⟨existing, present, terminal, .inl rfl⟩⟩
      · cases done
        exact .inl ⟨rfl, .inr ⟨existing, present, terminal, .inr rfl⟩⟩
      · cases done
        exact .inr ⟨existing, present, eq_false_of_not_eq_true terminal, rfl, rfl⟩

theorem persistIssue_some (done : persistIssue store issue token = some after) :
    store.ownersActive issue.owners = true ∧
      ((issue.rotation = true ∧ after = store.upsertGrant issue.id { issue.grant with
          enabled := true
          revokedAt := none
          tokenHash := token
          updatedAt := store.clock }) ∨
        (issue.rotation = false ∧
          after = { store.upsertGrant issue.id { issue.grant with tokenHash := token } with
            owners := setAt store.owners issue.id issue.owners
            created := ⟨issue.id, issue.owners⟩ :: store.created })) := by
  unfold persistIssue at done
  split_ifs at done with rotation active
  · exact ⟨active, .inl ⟨rotation, (some.inj done).symm⟩⟩
  · obtain ⟨written, replaced, rfl⟩ := map_eq_some_iff.mp done
    obtain ⟨active, rfl⟩ := replaceGrantOwners_some replaced
    exact ⟨active, .inr ⟨eq_false_of_not_eq_true rotation, rfl⟩⟩

theorem revokeDescendantRows_some
    (done : store.revokeDescendantRows id = some (after, descendants)) :
    descendants = store.delegatedDescendants id ∧ id ∉ descendants ∧
      after = store.revokeGrants descendants := by
  unfold Store.revokeDescendantRows at done
  dsimp only at done
  split_ifs at done with cycle
  cases done
  exact ⟨rfl, cycle, rfl⟩

theorem startAuthorize_some (done : startAuthorize store request = some (after, next)) :
    after = store ∧ (next = .ended .denied ∨ ∃ id grant parent, store.grant id = some grant ∧
      store.findByToken request.token = some id ∧ next = .verifying request id grant parent) := by
  unfold startAuthorize at done
  split at done
  · cases done
    exact ⟨rfl, .inl rfl⟩
  · next id found =>
      obtain ⟨grant, present, result⟩ := map_eq_some_iff.mp done
      split_ifs at result
      · cases result
        exact ⟨rfl, .inl rfl⟩
      · split at result
        · cases result
          exact ⟨rfl, .inl rfl⟩
        · next parent _ =>
            cases result
            exact ⟨rfl, .inr ⟨id, grant, parent, present, found, rfl⟩⟩

theorem verifyRequest_eq (done : verifyRequest store request id grant parent = (after, next)) :
    after = store ∧ (next = .deciding request id grant parent ∨ next = .ended .denied) := by
  unfold verifyRequest at done
  split at done
  · cases done
    exact ⟨rfl, .inl rfl⟩
  · split_ifs at done
    · cases done
      exact ⟨rfl, .inl rfl⟩
    · cases done
      exact ⟨rfl, .inr rfl⟩

structure Accepts (store after : Store) (id : GrantId) (recordUse : Bool) : Prop where
  active : store.grantOwnersAreActive id = true
  after_eq : ∃ row, after = (if recordUse then
      { store with accepted := ⟨id, store.owners id, recordUse⟩ :: store.accepted }.upsertGrant id
        { row with useCount := row.useCount + 1 }
    else { store with accepted := ⟨id, store.owners id, recordUse⟩ :: store.accepted }) ∧
    (recordUse = true → store.grant id = some row ∧ row.withinLimits store.clock = true)

theorem decideRequest_eq (done : decideRequest store request id grant parent = (after, next)) :
    (after = store ∧ next = .ended .denied) ∨
      (next = .ended .accepted ∧ Accepts store after id request.recordUse) := by
  unfold decideRequest at done
  split_ifs at done with beyond silent active consumable
  · cases done
    exact .inl ⟨rfl, rfl⟩
  · cases done
    exact .inr ⟨rfl, active.1, {}, by rw [silent]; rfl, fun isTrue => by
      rw [silent] at isTrue; exact nomatch isTrue⟩
  · cases done
    exact .inl ⟨rfl, rfl⟩
  · have records : request.recordUse = true := eq_true_of_not_eq_false silent
    unfold Store.consumable at consumable
    rw [decide_eq_true_eq] at consumable
    split at done
    · cases done
      exact .inl ⟨rfl, rfl⟩
    · next row present =>
        cases done
        refine .inr ⟨rfl, consumable.2.1, row, by rw [records]; rfl, fun _ => ⟨present, ?_⟩⟩
        have limits := consumable.1
        rw [present, any_some, decide_eq_true_eq] at limits
        exact limits.2.2.2
  · cases done
    exact .inl ⟨rfl, rfl⟩

end LicoMesh.ToolGrants
