import LicoMesh.ToolGrants.LifecycleTables

namespace LicoMesh.ToolGrants

open List

/-! A step of a lifecycle command leads from what holds at one point to what holds at the next. -/

variable {rest opened left : List GrantId} {store after : Store} {id other : GrantId}
  {row : Grant} {issue : Issue} {token : Token} {sequel : Sequel} {command : Command} {next : Point}

/-- The change has been made and is only announced. -/
def Point.isDone : Point → Bool
  | .announcing _ .done | .ended .done => true
  | _ => false

structure Goes (store after : Store) (command : Command) (next : Point) : Prop where
  holds : At after next
  isOf : next.IsOf command
  revoked : ∀ id, store.Revoked id → after.Revoked id
  answered : ∀ id, command.revokes = some id → next.isDone = true → after.Revoked id

theorem Cleaning.idle (cleaning : Cleaning store [] [] (.update id)) : Idle store where
  settled other := cleaning.settled other not_mem_nil not_mem_nil
  closed := cleaning.closed

theorem At.invalidateNext (cleaning : Cleaning store [] left sequel) (fresh : sequel.Fresh store) :
    At store (invalidateNext (left ++ sequel.own) sequel) := by
  cases listed : left ++ sequel.own with
  | cons id rest => exact ⟨left, listed.symm, cleaning, fresh⟩
  | nil =>
    obtain ⟨rfl, none⟩ := append_eq_nil_iff.mp listed
    cases sequel with
    | update => exact cleaning.idle
    | rotate | revoke => exact nomatch none

theorem isOf_next (issues : command.issues = sequel.issues)
    (revokes : command.revokes = sequel.revokes) : sequel.next.IsOf command := by
  cases sequel with
  | update | revoke => trivial
  | rotate => exact ⟨issues, revokes⟩

theorem isOf_invalidateNext (ids : List GrantId) (issues : command.issues = sequel.issues)
    (revokes : command.revokes = sequel.revokes) : (invalidateNext ids sequel).IsOf command := by
  cases ids with
  | nil => exact isOf_next issues revokes
  | cons => exact ⟨issues, revokes⟩

theorem isDone_invalidateNext (revokes : sequel.revokes = some id) :
    (invalidateNext (left ++ sequel.own) sequel).isDone = false := by
  cases sequel with
  | update | rotate => exact nomatch revokes
  | revoke => cases left <;> rfl

theorem Cleaning.elsewhere (cleaning : Cleaning store opened left sequel)
    (rows : after.grant = store.grant) (returned : after.returned = store.returned)
    (keys : ∀ other, other ∉ left → other ∉ sequel.own → after.keys other = store.keys other)
    (bindings : ∀ other, other ∉ left → other ∉ sequel.own →
      after.bindings other = store.bindings other) : Cleaning after opened left sequel where
  closed := cleaning.closed.congr rows
  settled other notLeft notOwn := (cleaning.settled other notLeft notOwn).congr
    (congrFun rows other) (congrFun returned other) (keys other notLeft notOwn)
    (bindings other notLeft notOwn)
  revoked other isLeft := (cleaning.revoked other isLeft).congr (congrFun rows other)
  apart := cleaning.apart
  own := by
    have own := cleaning.own
    cases sequel with
    | update =>
      obtain ⟨row, present⟩ := own
      exact ⟨row, by rw [rows, present]⟩
    | rotate =>
      obtain ⟨rotation, row, rotates⟩ := own
      exact ⟨rotation, row, { rotates with present := rows ▸ rotates.present }⟩
    | revoke => exact .congr own (congrFun rows _)

theorem Sequel.Fresh.elsewhere (fresh : sequel.Fresh store) (apart : id ∉ sequel.own)
    (rows : after.grant = store.grant) (returned : after.returned = store.returned)
    (keys : ∀ other, other ≠ id → after.keys other = store.keys other)
    (bindings : ∀ other, other ≠ id → after.bindings other = store.bindings other) :
    sequel.Fresh after := by
  cases sequel with
  | update | revoke => trivial
  | rotate issue =>
    have other : issue.id ≠ id := fun same => apart (mem_singleton.mpr same.symm)
    exact .congr fresh (congrFun rows _) (congrFun returned _) (keys _ other) (bindings _ other)

theorem revoked_of_rows (rows : after.grant = store.grant) (id : GrantId)
    (revoked : store.Revoked id) : after.Revoked id :=
  revoked.congr (congrFun rows id)

variable (idle : Idle store)
include idle

theorem Idle.startCreate (modest : Modest store (.createGrant input))
    (done : startCreate store input = some (after, next)) :
    Goes store after (.createGrant input) next := by
  obtain ⟨rfl, _, absent, owners, resolved, rfl⟩ := startCreate_some done
  obtain ⟨keys, bindings⟩ := (idle.settled input.id).absent absent
  have linked : input.delegated = true → (input.grant after.clock).parentGrantId ≠ "" := by
    intro delegated
    unfold Store.resolveGrantOwners at resolved
    split_ifs at resolved with known
    exact known.1
  have creates : Creates after ⟨input.id, input.grant after.clock, owners, false⟩ :=
    ⟨absent, modest.1, linked, modest.2⟩
  exact ⟨⟨⟨idle.closed, fun other _ => idle.settled other, .inr ⟨rfl, creates⟩⟩, keys, bindings⟩,
    ⟨rfl, rfl⟩, fun _ was => was, fun _ isRevoked => nomatch isRevoked⟩

theorem Idle.startUpdate (modest : Modest store (.updateGrant id patch))
    (done : startUpdate store id patch = some (after, next)) :
    Goes store after (.updateGrant id patch) next := by
  rcases startUpdate_some done with ⟨rfl, rfl⟩ | ⟨rfl, existing, owners, updates⟩
  · exact ⟨idle, trivial, fun _ was => was, fun _ isRevoked => by cases isRevoked⟩
  obtain ⟨isLive, underLive, narrows⟩ := modest existing updates.present updates.live
  have rows : after.grant = setAt store.grant id (patch.apply existing store.clock) := by
    rw [updates.after_eq]
    rfl
  have keys : after.keys = store.keys := by rw [updates.after_eq]; rfl
  have bindings : after.bindings = store.bindings := by rw [updates.after_eq]; rfl
  have returned : after.returned = store.returned := by rw [updates.after_eq]; rfl
  have linked : (patch.apply existing store.clock).delegated = true →
      (patch.apply existing store.clock).parentGrantId ≠ "" := by
    intro delegated
    have resolved := updates.resolved
    unfold Store.resolveGrantOwners at resolved
    split_ifs at resolved with known
    exact known.1
  have settled : ∀ other, Settled after other := by
    intro other
    by_cases same : other = id
    · subst same
      cases idle.settled other with
      | live found token present _ isReturned key binding =>
        rw [updates.present] at present
        cases present
        refine .live _ token (by rw [rows, setAt_self]) isLive (by rw [returned, isReturned]) ?_ ?_
        · exact (key.narrow narrows).congr (congrFun keys _)
        · exact (binding.narrow narrows).congr (congrFun bindings _)
      | lapsed facts =>
        have facts := facts existing updates.present
        have live := updates.live
        rw [Grant.terminal, facts.1] at live
        cases live
    · exact (idle.settled other).congr (by rw [rows, setAt_of_ne same]) (congrFun returned _)
        (congrFun keys _) (congrFun bindings _)
  have closed : Closed after [] := idle.closed.write rows isLive linked underLive
  have cleaning : Cleaning after [] [] (.update id) :=
    ⟨closed, fun other _ _ => settled other,
      fun _ isIn => (by cases isIn), fun _ isIn => (by cases isIn), _, by rw [rows, setAt_self]⟩
  refine ⟨⟨cleaning, trivial⟩, ⟨rfl, rfl⟩, fun other was => ?_, fun _ isRevoked => by
    cases isRevoked⟩
  refine was.congr ?_
  rw [rows, setAt_of_ne]
  rintro rfl
  cases (was.terminal updates.present).symm.trans updates.live

theorem Idle.startRotate (done : startRotate store id = some (after, next)) :
    Goes store after (.rotateGrantToken id) next := by
  obtain ⟨rfl, rfl | ⟨existing, present, live, _, rfl⟩⟩ := startRotate_some done
  · exact ⟨idle, trivial, fun _ was => was, fun _ isRevoked => nomatch isRevoked⟩
  have cleaning : Cleaning after [] [] (.rotate ⟨id, existing, after.owners id, true⟩) :=
    ⟨idle.closed, fun other _ _ => idle.settled other, nofun, nofun,
      rfl, existing, present, live, rfl, rfl⟩
  exact ⟨⟨cleaning, idle.settled id⟩, ⟨rfl, rfl⟩, fun _ was => was,
    fun _ isRevoked => nomatch isRevoked⟩

theorem Idle.startRevoke (issues : command.issues = none) (revokes : command.revokes = some id)
    (done : startRevoke store id delete = some (after, next)) : Goes store after command next := by
  rcases startRevoke_some done with ⟨rfl, rfl | ⟨existing, present, terminal, isNext⟩⟩ |
    ⟨existing, present, live, rfl, rfl⟩
  · exact ⟨idle, trivial, fun _ was => was, fun _ _ isDone => nomatch isDone⟩
  · have revoked := (idle.settled id).revoked present terminal
    have same : ∀ other, command.revokes = some other → after.Revoked other := by
      intro other isOther
      rw [revokes] at isOther
      cases isOther
      exact revoked
    rcases isNext with rfl | rfl
    · exact ⟨idle, trivial, fun _ was => was, fun other isOther _ => same other isOther⟩
    · exact ⟨idle, trivial, fun _ was => was, fun other isOther _ => same other isOther⟩
  · have own : (store.upsertGrant id (existing.revoke store.clock)).Revoked id := by
      exact ⟨_, setAt_self _ _ _, rfl, rfl⟩
    have closed : Closed (store.upsertGrant id (existing.revoke store.clock)) [id] :=
      idle.closed.revoke present rfl
    have cleaning : Cleaning (store.upsertGrant id (existing.revoke store.clock)) [id] []
        (.revoke id delete) := by
      refine ⟨closed, fun other _ notOwn => ?_, nofun, nofun, own⟩
      have apart : other ≠ id := fun same => notOwn (mem_singleton.mpr same)
      exact (idle.settled other).congr (setAt_of_ne apart) rfl rfl rfl
    refine ⟨⟨cleaning, trivial⟩, ⟨issues, revokes⟩, fun other was => ?_,
      fun _ _ isDone => nomatch isDone⟩
    by_cases same : other = id
    · exact same ▸ own
    · exact was.congr (setAt_of_ne same)

omit idle

theorem At.cascading (sound : store.Sound) (holds : At store (.cascading sequel))
    (issues : command.issues = sequel.issues) (revokes : command.revokes = sequel.revokes)
    (done : perform store command (.cascading sequel) = some (after, next)) :
    Goes store after command next := by
  obtain ⟨cleaning, fresh⟩ := holds
  obtain ⟨⟨middle, descendants⟩, cascade, same⟩ := Option.map_eq_some_iff.mp done
  cases same
  obtain ⟨rfl, acyclic, rfl⟩ := revokeDescendantRows_some cascade
  have present : ∃ row, store.grant sequel.grantId = some row := by
    have own := cleaning.own
    cases sequel with
    | update => exact own
    | rotate =>
      obtain ⟨_, row, rotates⟩ := own
      exact ⟨row, rotates.present⟩
    | revoke =>
      obtain ⟨row, isRow, _⟩ := own
      exact ⟨row, isRow⟩
  obtain ⟨root, isRoot⟩ := present
  have isOpened : ∀ other ∈ sequel.revokes.toList, other = sequel.grantId := by
    intro other isIn
    cases sequel with
    | update | rotate => exact nomatch isIn
    | revoke => exact mem_singleton.mp isIn
  have ownRoot : ∀ other ∈ sequel.own, other = sequel.grantId := by
    intro other isIn
    cases sequel with
    | update => exact nomatch isIn
    | rotate | revoke => exact mem_singleton.mp isIn
  have rows := store.revokeGrants_eq (fun other => (sound.known other).mpr)
    (store.delegatedDescendants sequel.grantId)
  have unchanged : ∀ other, other ∉ store.delegatedDescendants sequel.grantId →
      (store.revokeGrants (store.delegatedDescendants sequel.grantId)).grant other =
        store.grant other := by
    intro other spared
    rw [rows]
    exact if_neg spared
  have apart : ∀ other ∈ store.delegatedDescendants sequel.grantId, other ∉ sequel.own :=
    fun other isBelow isOwn => acyclic (ownRoot other isOwn ▸ isBelow)
  have revoked : ∀ other ∈ store.delegatedDescendants sequel.grantId,
      (store.revokeGrants (store.delegatedDescendants sequel.grantId)).Revoked other := by
    intro other isBelow
    obtain ⟨row, isRow⟩ := Store.delegatedDescendants_row isBelow
    refine ⟨row.revoke store.clock, ?_, rfl, rfl⟩
    rw [rows]
    dsimp only
    rw [if_pos isBelow, isRow]
    rfl
  have settled : ∀ other, other ∉ store.delegatedDescendants sequel.grantId →
      Settled store other →
      Settled (store.revokeGrants (store.delegatedDescendants sequel.grantId)) other := by
    intro other spared was
    exact was.congr (unchanged other spared) (by rw [rows]) (by rw [rows]) (by rw [rows])
  have cleaned : Cleaning (store.revokeGrants (store.delegatedDescendants sequel.grantId)) []
      (store.delegatedDescendants sequel.grantId) sequel := by
    refine ⟨cleaning.closed.cascade sound isOpened isRoot acyclic, ?_, revoked, apart, ?_⟩
    · exact fun other spared notOwn =>
        settled other spared (cleaning.settled other not_mem_nil notOwn)
    · have own := cleaning.own
      have same := unchanged sequel.grantId acyclic
      cases sequel with
      | update =>
        obtain ⟨row, isRow⟩ := own
        exact ⟨row, same.trans isRow⟩
      | rotate =>
        obtain ⟨rotation, row, rotates⟩ := own
        exact ⟨rotation, row, { rotates with present := same.trans rotates.present }⟩
      | revoke => exact .congr own same
  have isFresh : sequel.Fresh (store.revokeGrants (store.delegatedDescendants sequel.grantId)) := by
    cases sequel with
    | update | revoke => trivial
    | rotate issue => exact settled issue.id acyclic fresh
  refine ⟨.invalidateNext cleaned isFresh, isOf_invalidateNext _ issues revokes,
    fun other was => ?_, fun other isOther isDone => ?_⟩
  · by_cases isBelow : other ∈ store.delegatedDescendants sequel.grantId
    · exact revoked other isBelow
    · exact was.congr (unchanged other isBelow)
  · rw [revokes] at isOther
    exact nomatch (isDone_invalidateNext isOther).symm.trans isDone

theorem At.invalidatingKey (holds : At store (.invalidatingKey id rest sequel))
    (issues : command.issues = sequel.issues) (revokes : command.revokes = sequel.revokes)
    (done : perform store command (.invalidatingKey id rest sequel) = some (after, next)) :
    Goes store after command next := by
  obtain ⟨left, listed, cleaning, fresh⟩ := holds
  cases done
  have keys : ∀ other, other ≠ id →
      (store.invalidateCredential id).keys other = store.keys other :=
    fun other apart => setAt_of_ne apart
  refine ⟨⟨keysInvalid_self, ?_⟩, ⟨issues, revokes⟩, revoked_of_rows rfl,
    fun _ _ isDone => nomatch isDone⟩
  cases left with
  | nil =>
    rw [nil_append] at listed
    have isOwn : id ∈ sequel.own := listed ▸ mem_cons_self
    have single : rest = [] ∧ sequel.own = [id] := by
      cases sequel with
      | update => exact nomatch isOwn
      | rotate | revoke =>
        obtain ⟨rfl, rfl⟩ := cons.inj listed
        exact ⟨rfl, rfl⟩
    refine .inr ⟨single.1, single.2, cleaning.elsewhere rfl rfl (fun other _ notOwn => ?_)
      fun _ _ _ => rfl⟩
    exact keys other fun same => notOwn (same ▸ isOwn)
  | cons first left =>
    obtain ⟨rfl, rfl⟩ := cons.inj listed
    have apart := cleaning.apart id mem_cons_self
    refine .inl ⟨left, rfl, cleaning.elsewhere rfl rfl (fun other notLeft _ => ?_)
      (fun _ _ _ => rfl), fresh.elsewhere apart rfl rfl keys fun _ _ => rfl⟩
    exact keys other fun same => notLeft (same ▸ mem_cons_self)

theorem At.invalidatingBinding (holds : At store (.invalidatingBinding id rest sequel))
    (issues : command.issues = sequel.issues) (revokes : command.revokes = sequel.revokes)
    (done : perform store command (.invalidatingBinding id rest sequel) = some (after, next)) :
    Goes store after command next := by
  obtain ⟨keysOut, left⟩ := holds
  cases done
  have bindings : ∀ other, other ≠ id →
      (store.invalidateBinding id).bindings other = store.bindings other :=
    fun other apart => setAt_of_ne apart
  have out : (store.invalidateBinding id).Revoked id → Settled (store.invalidateBinding id) id :=
    fun revoked => revoked.lapsed keysOut bindingsInvalid_self
  rcases left with ⟨left, rfl, cleaning, fresh⟩ | ⟨rfl, isOwn, cleaning⟩
  · have more : ¬ (left ++ sequel.own = [] ∧ sequel.own ≠ []) := by
      rintro ⟨none, some⟩
      exact some (append_eq_nil_iff.mp none).2
    rw [if_neg more]
    have apart := cleaning.apart id mem_cons_self
    have invalidated : Cleaning (store.invalidateBinding id) [] (id :: left) sequel :=
      cleaning.elsewhere rfl rfl (fun _ _ _ => rfl) fun other notLeft _ =>
        bindings other fun same => notLeft (same ▸ mem_cons_self)
    refine ⟨⟨left, rfl, ?_, fresh.elsewhere apart rfl rfl (fun _ _ => rfl) bindings⟩,
      ⟨issues, revokes⟩, revoked_of_rows rfl, fun _ _ isDone => nomatch isDone⟩
    refine ⟨invalidated.closed, fun other notLeft notOwn => ?_,
      fun other isLeft => invalidated.revoked other (mem_cons_of_mem _ isLeft),
      fun other isLeft => invalidated.apart other (mem_cons_of_mem _ isLeft),
      invalidated.own⟩
    by_cases same : other = id
    · exact same ▸ out (invalidated.revoked id mem_cons_self)
    · refine invalidated.settled other (fun isIn => ?_) notOwn
      exact (mem_cons.mp isIn).elim same notLeft
  · have isIn : id ∈ sequel.own := isOwn ▸ mem_cons_self
    have invalidated : Cleaning (store.invalidateBinding id) [] [] sequel :=
      cleaning.elsewhere rfl rfl (fun _ _ _ => rfl) fun other _ notOwn =>
        bindings other fun same => notOwn (same ▸ isIn)
    have isOf : sequel.next.IsOf command := isOf_next issues revokes
    cases sequel with
    | update => exact nomatch isOwn
    | rotate issue =>
      obtain rfl : issue.id = id := (cons.inj isOwn).1
      refine ⟨⟨⟨invalidated.closed, fun other apart => ?_, .inl invalidated.own⟩, keysOut,
        bindingsInvalid_self⟩, isOf, revoked_of_rows rfl, fun _ _ isDone => nomatch isDone⟩
      exact invalidated.settled other not_mem_nil
        fun isIn => apart (mem_singleton.mp isIn)
    | revoke grantId delete =>
      obtain rfl : grantId = id := (cons.inj isOwn).1
      have own : (store.invalidateBinding grantId).Revoked grantId := invalidated.own
      have idle : Idle (store.invalidateBinding grantId) := by
        refine ⟨fun other => ?_, invalidated.closed⟩
        by_cases same : other = grantId
        · exact same ▸ out own
        · exact invalidated.settled other not_mem_nil
            fun isIn => same (mem_singleton.mp isIn)
      refine ⟨idle, isOf, revoked_of_rows rfl, fun other isOther _ => ?_⟩
      rw [revokes] at isOther
      cases isOther
      exact own

theorem At.notifying (holds : At store (.notifying rest sequel))
    (issues : command.issues = sequel.issues) (revokes : command.revokes = sequel.revokes)
    (done : perform store command (.notifying rest sequel) = some (after, next)) :
    Goes store after command next := by
  obtain ⟨left, rfl, cleaning, fresh⟩ := holds
  cases done
  refine ⟨.invalidateNext cleaning fresh, isOf_invalidateNext _ issues revokes,
    fun _ was => was, fun other isOther isDone => ?_⟩
  rw [revokes] at isOther
  exact nomatch (isDone_invalidateNext isOther).symm.trans isDone

theorem Issuing.elsewhere (issuing : Issuing store issue) (rows : after.grant = store.grant)
    (returned : after.returned = store.returned)
    (keys : ∀ other, other ≠ issue.id → after.keys other = store.keys other)
    (bindings : ∀ other, other ≠ issue.id → after.bindings other = store.bindings other) :
    Issuing after issue where
  closed := issuing.closed.congr rows
  others other apart := (issuing.others other apart).congr (congrFun rows other)
    (congrFun returned other) (keys other apart) (bindings other apart)
  row := by
    rcases issuing.row with ⟨rotation, row, rotates⟩ | ⟨creation, creates⟩
    · exact .inl ⟨rotation, row, { rotates with present := rows ▸ rotates.present }⟩
    · refine .inr ⟨creation, { creates with absent := rows ▸ creates.absent, underLive := ?_ }⟩
      rw [UnderLive, rows]
      exact creates.underLive

theorem At.issuing (holds : At store (.issuing issue)) (isOf : (Point.issuing issue).IsOf command)
    (done : perform store command (.issuing issue) = some (after, next)) :
    Goes store after command next := by
  obtain ⟨issuing, _, bindingsOut⟩ := holds
  cases done
  exact ⟨⟨issuing.elsewhere rfl rfl (fun _ apart => setAt_of_ne apart) fun _ _ => rfl,
    keyFor_issueKey, bindingsOut⟩, isOf, revoked_of_rows rfl, fun _ _ isDone => nomatch isDone⟩

theorem At.binding (holds : At store (.binding issue token))
    (isOf : (Point.binding issue token).IsOf command)
    (done : perform store command (.binding issue token) = some (after, next)) :
    Goes store after command next := by
  obtain ⟨issuing, key, _⟩ := holds
  cases done
  exact ⟨⟨issuing.elsewhere rfl rfl (fun _ _ => rfl) fun _ apart => setAt_of_ne apart,
    key.congr rfl, bindingFor_bindKey⟩, isOf, revoked_of_rows rfl,
    fun _ _ isDone => nomatch isDone⟩

theorem Issuing.persist (issuing : Issuing store issue)
    (key : KeyFor store issue.id issue.grant token)
    (binding : BindingFor store issue.id issue.grant token)
    (done : persistIssue store issue token = some after) :
    Issued after issue.id token ∧ ∀ id, store.Revoked id → after.Revoked id := by
  obtain ⟨_, written⟩ := persistIssue_some done
  have writes : ∃ row : Grant, after.grant = setAt store.grant issue.id row ∧
      row.terminal = false ∧ row.delegated = issue.grant.delegated ∧
      row.parentGrantId = issue.grant.parentGrantId ∧
      row.capabilities = issue.grant.capabilities ∧ row.context = issue.grant.context ∧
      row.expiresAt = issue.grant.expiresAt := by
    rcases written with ⟨_, rfl⟩ | ⟨creation, rfl⟩
    · exact ⟨_, rfl, rfl, rfl, rfl, rfl, rfl, rfl⟩
    · rcases issuing.row with ⟨rotation, _⟩ | ⟨_, creates⟩
      · exact nomatch rotation.symm.trans creation
      · exact ⟨_, rfl, creates.isLive, rfl, rfl, rfl, rfl, rfl⟩
  have same : after.keys = store.keys ∧ after.bindings = store.bindings ∧
      after.returned = store.returned := by
    rcases written with ⟨_, rfl⟩ | ⟨_, rfl⟩ <;> exact ⟨rfl, rfl, rfl⟩
  obtain ⟨row, rows, isLive, delegated, parentGrantId, capabilities, context, expiresAt⟩ := writes
  obtain ⟨keys, bindings, returned⟩ := same
  have linked : (row.delegated = true → row.parentGrantId ≠ "") ∧ UnderLive store row := by
    rw [UnderLive, delegated, parentGrantId]
    rcases issuing.row with ⟨_, old, rotates⟩ | ⟨_, creates⟩
    · rw [← rotates.delegated, ← rotates.parentGrantId]
      refine ⟨issuing.closed.linked _ _ rotates.present, fun isDelegated parent isParent => ?_⟩
      refine Bool.eq_false_of_not_eq_true fun terminal => ?_
      have ended := issuing.closed.below _ _ rotates.present isDelegated parent isParent terminal
        not_mem_nil
      exact nomatch ended.symm.trans rotates.isLive
    · exact ⟨creates.linked, creates.underLive⟩
  refine ⟨⟨issuing.closed.write rows isLive linked.1 linked.2, fun other apart => ?_, row, ?_,
    isLive, ?_, ?_⟩, fun id was => was.congr ?_⟩
  · exact (issuing.others other apart).congr (by rw [rows, setAt_of_ne apart])
      (congrFun returned _) (congrFun keys _) (congrFun bindings _)
  · rw [rows, setAt_self]
  · exact (key.like capabilities expiresAt).congr (congrFun keys _)
  · exact (binding.like context expiresAt).congr (congrFun bindings _)
  · rw [rows, setAt_of_ne]
    rintro rfl
    rcases issuing.row with ⟨_, old, rotates⟩ | ⟨_, creates⟩
    · exact nomatch (was.terminal rotates.present).symm.trans rotates.isLive
    · obtain ⟨found, present, _⟩ := was
      exact nomatch creates.absent.symm.trans present

theorem At.persisting (holds : At store (.persisting issue token))
    (isOf : (Point.persisting issue token).IsOf command)
    (done : perform store command (.persisting issue token) = some (after, next)) :
    Goes store after command next := by
  obtain ⟨issuing, key, binding⟩ := holds
  obtain ⟨persisted, written, same⟩ := Option.map_eq_some_iff.mp done
  cases same
  obtain ⟨issued, revoked⟩ := issuing.persist key binding written
  exact ⟨issued, isOf, revoked, fun _ _ isDone => nomatch isDone⟩

theorem Issued.return (issued : Issued store id token) :
    Idle (returnAnswer store (.granted id token)) where
  closed := issued.closed.congr rfl
  settled other := by
    by_cases same : other = id
    · subst same
      obtain ⟨row, present, isLive, key, binding⟩ := issued.row
      exact .live row token present isLive (setAt_self _ _ _) (key.congr rfl) (binding.congr rfl)
    · exact (issued.others other same).congr rfl (setAt_of_ne same) rfl rfl

theorem At.announcing (holds : At store (.announcing again answer))
    (isOf : (Point.announcing again answer).IsOf command)
    (answered : ∀ id, command.revokes = some id →
      (Point.announcing again answer).isDone = true → store.Revoked id)
    (done : perform store command (.announcing again answer) = some (after, next)) :
    Goes store after command next := by
  cases again with
  | true =>
    cases done
    cases answer with
    | granted | done => exact ⟨holds, isOf, fun _ was => was, answered⟩
    | failed | missing | receipt | accepted | denied =>
      exact ⟨holds, isOf, fun _ was => was, fun _ _ isDone => nomatch isDone⟩
  | false =>
    cases done
    cases answer with
    | granted id token =>
      exact ⟨Issued.return holds, trivial, revoked_of_rows rfl,
        fun _ _ isDone => nomatch isDone⟩
    | done => exact ⟨holds, trivial, fun _ was => was, answered⟩
    | failed | missing | receipt | accepted | denied =>
      exact ⟨holds, trivial, fun _ was => was, fun _ _ isDone => nomatch isDone⟩

end LicoMesh.ToolGrants
