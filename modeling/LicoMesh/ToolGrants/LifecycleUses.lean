import LicoMesh.ToolGrants.LifecycleSteps

namespace LicoMesh.ToolGrants

/-! Authorizations beside the lifecycle commands: they count uses and leave the rest alone. -/

variable {store after : Store} {id other : GrantId} {grant row : Grant} {issue : Issue}
  {token : Token} {opened left : List GrantId} {sequel : Sequel} {point next : Point}

/-- Only uses, owners' authorities and the clock differ. -/
structure Alike (store after : Store) : Prop where
  grant : ∀ id, ∃ uses,
    after.grant id = (store.grant id).map fun row => { row with useCount := uses }
  keys : after.keys = store.keys
  bindings : after.bindings = store.bindings
  returned : after.returned = store.returned

namespace Alike

theorem of_rows (grant : after.grant = store.grant) (keys : after.keys = store.keys)
    (bindings : after.bindings = store.bindings) (returned : after.returned = store.returned) :
    Alike store after where
  grant id := by
    cases present : store.grant id with
    | none => exact ⟨0, by rw [grant, present]; rfl⟩
    | some row => exact ⟨row.useCount, by rw [grant, present]; rfl⟩
  keys := keys
  bindings := bindings
  returned := returned

theorem refl (store : Store) : Alike store store := .of_rows rfl rfl rfl rfl

variable (alike : Alike store after)
include alike

theorem some (present : store.grant id = some row) :
    ∃ uses, after.grant id = .some { row with useCount := uses } := by
  obtain ⟨uses, same⟩ := alike.grant id
  exact ⟨uses, by rw [same, present]; rfl⟩

theorem none (absent : store.grant id = .none) : after.grant id = .none := by
  obtain ⟨uses, same⟩ := alike.grant id
  rw [same, absent]
  rfl

theorem of_some (present : after.grant id = .some row) :
    ∃ old uses, store.grant id = .some old ∧ row = { old with useCount := uses } := by
  obtain ⟨uses, same⟩ := alike.grant id
  rw [same] at present
  obtain ⟨old, isOld, rfl⟩ := Option.map_eq_some_iff.mp present
  exact ⟨old, uses, isOld, rfl⟩

theorem keyFor (key : KeyFor store id grant token)
    (uses : Nat) : KeyFor after id { grant with useCount := uses } token :=
  (key.congr (congrFun alike.keys id)).like rfl rfl

theorem bindingFor (binding : BindingFor store id grant token)
    (uses : Nat) : BindingFor after id { grant with useCount := uses } token :=
  (binding.congr (congrFun alike.bindings id)).like rfl rfl

theorem keysInvalid (invalid : store.KeysInvalid id) : after.KeysInvalid id :=
  keysInvalid_congr invalid (congrFun alike.keys id)

theorem bindingsInvalid (invalid : store.BindingsInvalid id) : after.BindingsInvalid id :=
  bindingsInvalid_congr invalid (congrFun alike.bindings id)

theorem revoked (revoked : store.Revoked id) : after.Revoked id := by
  obtain ⟨row, present, facts⟩ := revoked
  obtain ⟨uses, same⟩ := alike.some present
  exact ⟨_, same, facts⟩

theorem settled (settled : Settled store id) : Settled after id := by
  cases settled with
  | live row token present isLive returned key binding =>
    obtain ⟨uses, same⟩ := alike.some present
    exact .live _ token same isLive (by rw [alike.returned, returned]) (alike.keyFor key uses)
      (alike.bindingFor binding uses)
  | lapsed facts keys bindings =>
    refine .lapsed (fun row present => ?_) (alike.keysInvalid keys) (alike.bindingsInvalid bindings)
    obtain ⟨old, uses, isOld, rfl⟩ := alike.of_some present
    exact facts old isOld

theorem closed (closed : Closed store opened) : Closed after opened where
  linked id row present delegated := by
    obtain ⟨old, uses, isOld, rfl⟩ := alike.of_some present
    exact closed.linked id old isOld delegated
  below id row present delegated parent isParent terminal notOpened := by
    obtain ⟨old, uses, isOld, rfl⟩ := alike.of_some present
    obtain ⟨above, _, isAbove, rfl⟩ := alike.of_some isParent
    exact closed.below id old isOld delegated above isAbove terminal notOpened

theorem idle (idle : Idle store) : Idle after where
  settled id := alike.settled (idle.settled id)
  closed := alike.closed idle.closed

theorem rotates (rotates : ∃ row, Rotates store issue row) : ∃ row, Rotates after issue row := by
  obtain ⟨row, rotates⟩ := rotates
  obtain ⟨uses, same⟩ := alike.some rotates.present
  exact ⟨_, same, rotates.isLive, rotates.delegated, rotates.parentGrantId⟩

theorem cleaning (cleaning : Cleaning store opened left sequel) :
    Cleaning after opened left sequel where
  closed := alike.closed cleaning.closed
  settled other notLeft notOwn := alike.settled (cleaning.settled other notLeft notOwn)
  revoked other isLeft := alike.revoked (cleaning.revoked other isLeft)
  apart := cleaning.apart
  own := by
    have own := cleaning.own
    cases sequel with
    | update =>
      obtain ⟨row, present⟩ := own
      obtain ⟨uses, same⟩ := alike.some present
      exact ⟨_, same⟩
    | rotate => exact ⟨own.1, alike.rotates own.2⟩
    | revoke => exact alike.revoked own

theorem fresh (fresh : sequel.Fresh store) : sequel.Fresh after := by
  cases sequel with
  | update | revoke => trivial
  | rotate => exact alike.settled fresh

theorem issuing (issuing : Issuing store issue) : Issuing after issue where
  closed := alike.closed issuing.closed
  others other apart := alike.settled (issuing.others other apart)
  row := by
    rcases issuing.row with ⟨rotation, rotates⟩ | ⟨creation, creates⟩
    · exact .inl ⟨rotation, alike.rotates rotates⟩
    · refine .inr ⟨creation, alike.none creates.absent, creates.isLive, creates.linked, ?_⟩
      intro delegated parent isParent
      obtain ⟨old, uses, isOld, rfl⟩ := alike.of_some isParent
      exact creates.underLive delegated old isOld

theorem issued (issued : Issued store id token) : Issued after id token where
  closed := alike.closed issued.closed
  others other apart := alike.settled (issued.others other apart)
  row := by
    obtain ⟨row, present, isLive, key, binding⟩ := issued.row
    obtain ⟨uses, same⟩ := alike.some present
    exact ⟨_, same, isLive, alike.keyFor key uses, alike.bindingFor binding uses⟩

theorem holds (holds : At store point) : At after point := by
  cases point with
  | starting => exact alike.idle holds
  | cascading => exact ⟨alike.cleaning holds.1, alike.fresh holds.2⟩
  | invalidatingKey | notifying =>
    obtain ⟨left, listed, cleaning, fresh⟩ := holds
    exact ⟨left, listed, alike.cleaning cleaning, alike.fresh fresh⟩
  | invalidatingBinding =>
    obtain ⟨keys, ⟨left, listed, cleaning, fresh⟩ | ⟨none, own, cleaning⟩⟩ := holds
    · exact ⟨alike.keysInvalid keys, .inl ⟨left, listed, alike.cleaning cleaning,
        alike.fresh fresh⟩⟩
    · exact ⟨alike.keysInvalid keys, .inr ⟨none, own, alike.cleaning cleaning⟩⟩
  | issuing =>
    obtain ⟨issuing, keys, bindings⟩ := holds
    exact ⟨alike.issuing issuing, alike.keysInvalid keys, alike.bindingsInvalid bindings⟩
  | binding =>
    obtain ⟨issuing, key, bindings⟩ := holds
    exact ⟨alike.issuing issuing, key.congr (congrFun alike.keys _), alike.bindingsInvalid bindings⟩
  | persisting =>
    obtain ⟨issuing, key, binding⟩ := holds
    exact ⟨alike.issuing issuing, key.congr (congrFun alike.keys _),
      binding.congr (congrFun alike.bindings _)⟩
  | announcing again answer =>
    cases answer with
    | granted => exact alike.issued holds
    | failed | missing | done | receipt | accepted | denied => exact alike.idle holds
  | ended => exact alike.idle holds
  | rollingBack | retiringKeys | retiringBinding | staging | verifying | deciding =>
    exact absurd holds id

end Alike

def Point.isAuthorizing : Point → Bool
  | .starting | .verifying _ _ _ _ | .deciding _ _ _ _ | .ended _ => true
  | _ => false

theorem Accepts.alike (accepts : Accepts store after id recordUse) : Alike store after := by
  obtain ⟨row, same, facts⟩ := accepts.after_eq
  cases recordUse with
  | false => exact same ▸ .of_rows rfl rfl rfl rfl
  | true =>
    obtain ⟨present, _⟩ := facts rfl
    subst same
    refine ⟨fun other => ?_, rfl, rfl, rfl⟩
    by_cases isOther : other = id
    · subst isOther
      exact ⟨row.useCount + 1, by rw [present]; exact setAt_self _ _ _⟩
    · obtain ⟨uses, same⟩ := (Alike.refl store).grant other
      exact ⟨uses, (setAt_of_ne isOther).trans same⟩

theorem authorization_alike (isPoint : point.isAuthorizing = true)
    (done : perform store (.authorizeRequest request) point = some (after, next)) :
    Alike store after ∧ next.isAuthorizing = true := by
  cases point with
  | starting =>
    obtain ⟨rfl, rfl | ⟨_, _, _, _, _, rfl⟩⟩ := startAuthorize_some done
    · exact ⟨.refl _, rfl⟩
    · exact ⟨.refl _, rfl⟩
  | verifying request id grant parent =>
    obtain ⟨rfl, rfl | rfl⟩ := verifyRequest_eq (Option.some.inj done)
    · exact ⟨.refl _, rfl⟩
    · exact ⟨.refl _, rfl⟩
  | deciding request id grant parent =>
    rcases decideRequest_eq (Option.some.inj done) with ⟨rfl, rfl⟩ | ⟨rfl, accepts⟩
    · exact ⟨.refl _, rfl⟩
    · exact ⟨accepts.alike, rfl⟩
  | ended =>
    cases done
    exact ⟨.refl _, rfl⟩
  | _ => exact nomatch isPoint

end LicoMesh.ToolGrants
