import LicoMesh.ToolGrants.LifecycleRuns

namespace LicoMesh.ToolGrants

open Library

variable {grantId id : GrantId} {recordUse : Bool} {store after : Store} {point next : Point}
  {call : Call} {reply : Reply} {world : GrantWorld} {event : Event} {command : Command}

def Store.acceptedUses (store : Store) (id : GrantId) : Nat :=
  store.accepted.countP fun entry => entry.grantId = id ∧ entry.recordUse

open Store

def FixesMaxUses (id : GrantId) (world : GrantWorld) : Event → Prop
  | .proceed index _ => ∀ call ∈ world.agents[index]?, call.point = .starting →
      match call.command with
      | .updateGrant grantId patch => grantId = id → ∀ row ∈ world.shared.grant id,
          patch.maxUses.getD row.maxUses = row.maxUses
      | _ => True
  | _ => True

def Call.rotates (id : GrantId) (call : Call) : Prop :=
  ∃ issue, call.point.issueAhead = some issue ∧ issue.rotation = true ∧ issue.id = id

def CountsUses (id : GrantId) (world : GrantWorld) : Event → Prop
  | .proceed index _ => ∀ call ∈ world.agents[index]?,
      match call.point with
      | .deciding request grantId grant parent => grantId = id → request.recordUse = true →
          (decideRequest world.shared request grantId grant parent).2 = .ended .accepted →
          ∀ other ∈ world.agents, ¬ other.rotates id
      | _ => True
  | _ => True

structure Limited (id : GrantId) (world : GrantWorld) (event : Event) : Prop where
  fixes : FixesMaxUses id world event
  counts : CountsUses id world event

structure Counts (store : Store) (id : GrantId) : Prop where
  absent : store.grant id = none → store.acceptedUses id = 0
  counted : ∀ row, store.grant id = some row → store.acceptedUses id ≤ row.useCount
  within : ∀ row, store.grant id = some row → row.maxUses ≠ 0 → store.acceptedUses id ≤ row.maxUses

/-- A rotation will write the uses and the limit as they are. -/
def Snapshot (id : GrantId) (store : Store) (point : Point) : Prop :=
  ∀ issue, point.issueAhead = some issue → issue.rotation = true → issue.id = id →
    ∃ row, store.grant id = some row ∧ row.useCount = issue.grant.useCount ∧
      row.maxUses = issue.grant.maxUses

theorem snapshot_of_none (none : point.issueAhead = none) : Snapshot id store point :=
  fun _ isIssue => absurd (isIssue.symm.trans none) (Option.some_ne_none _)

structure SameUses (store after : Store) (id : GrantId) : Prop where
  accepted : after.acceptedUses id = store.acceptedUses id
  absent : after.grant id = none → store.grant id = none
  row : ∀ row, after.grant id = some row → ∀ old, store.grant id = some old →
    row.useCount = old.useCount ∧ row.maxUses = old.maxUses

open SameUses

namespace SameUses

theorem of_eq (accepted : after.accepted = store.accepted)
    (same : after.grant id = store.grant id) : SameUses store after id where
  accepted := by rw [acceptedUses, accepted]; rfl
  absent absent := same.symm.trans absent
  row row present old isOld := by
    rw [same, isOld] at present
    cases present
    exact ⟨rfl, rfl⟩

theorem refl (store : Store) (id : GrantId) : SameUses store store id := .of_eq rfl rfl

theorem write {written : Grant} (accepted : after.accepted = store.accepted)
    (rows : after.grant = setAt store.grant grantId written)
    (same : ∀ old, store.grant grantId = some old → grantId = id →
      written.useCount = old.useCount ∧ written.maxUses = old.maxUses) :
    SameUses store after id := by
  by_cases isId : grantId = id
  · subst isId
    refine ⟨by rw [acceptedUses, accepted]; rfl, fun absent => ?_,
      fun row present old isOld => ?_⟩
    · rw [rows, setAt_self] at absent
      exact nomatch absent
    · rw [rows, setAt_self] at present
      cases present
      exact same old isOld rfl
  · exact .of_eq accepted (by rw [rows, setAt_of_ne (Ne.symm isId)])

variable (same : SameUses store after id)
include same

theorem counts (counts : Counts store id) : Counts after id where
  absent absent := same.accepted.trans (counts.absent (same.absent absent))
  counted row present := by
    rw [same.accepted]
    cases isOld : store.grant id with
    | none =>
      rw [counts.absent isOld]
      exact Nat.zero_le _
    | some old =>
      rw [(same.row row present old isOld).1]
      exact counts.counted old isOld
  within row present limited := by
    rw [same.accepted]
    cases isOld : store.grant id with
    | none =>
      rw [counts.absent isOld]
      exact Nat.zero_le _
    | some old =>
      rw [(same.row row present old isOld).2] at limited ⊢
      exact counts.within old isOld limited

theorem snapshot (snapshot : Snapshot id store point) : Snapshot id after point := by
  intro issue isIssue rotation isId
  obtain ⟨old, isOld, uses, limit⟩ := snapshot issue isIssue rotation isId
  cases present : after.grant id with
  | none => exact nomatch (same.absent present).symm.trans isOld
  | some row =>
    obtain ⟨sameUses, sameLimit⟩ := same.row row present old isOld
    exact ⟨row, rfl, sameUses.trans uses, sameLimit.trans limit⟩

theorem keeps (snapshot : Snapshot id store point)
    (ahead : ∀ issue, next.issueAhead = some issue → point.issueAhead = some issue) :
    SameUses store after id ∧ Snapshot id after next :=
  ⟨same, fun issue isIssue => same.snapshot snapshot issue (ahead issue isIssue)⟩

end SameUses

theorem sameUses_revokeGrants (sound : store.Sound) (ids : List GrantId) :
    SameUses store (store.revokeGrants ids) id := by
  rw [revokeGrants_eq fun other => (sound.known other).mpr]
  refine ⟨rfl, fun absent => ?_, fun row present old isOld => ?_⟩
  · dsimp only at absent
    split at absent
    · exact Option.map_eq_none_iff.mp absent
    · exact absent
  · dsimp only at present
    split at present
    · rw [isOld] at present
      cases present
      exact ⟨rfl, rfl⟩
    · rw [isOld] at present
      cases present
      exact ⟨rfl, rfl⟩

theorem startCommand_sameUses (isLifecycle : command.isLifecycle = true)
    (fixes : ∀ patch, command = .updateGrant id patch → ∀ row ∈ store.grant id,
      patch.maxUses.getD row.maxUses = row.maxUses)
    (done : startCommand store command = some (after, next)) :
    SameUses store after id ∧ Snapshot id after next := by
  have revoking : ∀ {grantId : GrantId} {delete : Bool},
      startRevoke store grantId delete = some (after, next) →
      SameUses store after id ∧ Snapshot id after next := by
    intro grantId delete done
    rcases startRevoke_some done with ⟨rfl, rfl | ⟨_, _, _, rfl | rfl⟩⟩ |
      ⟨existing, present, _, rfl, rfl⟩
    · exact ⟨.refl _ _, snapshot_of_none rfl⟩
    · exact ⟨.refl _ _, snapshot_of_none rfl⟩
    · exact ⟨.refl _ _, snapshot_of_none rfl⟩
    · refine ⟨.write rfl rfl fun old isOld _ => ?_, snapshot_of_none rfl⟩
      rw [present] at isOld
      cases isOld
      exact ⟨rfl, rfl⟩
  cases command with
  | createGrant input =>
    obtain ⟨rfl, _, _, owners, _, rfl⟩ := startCreate_some done
    refine ⟨.refl _ _, fun issue isIssue rotation => ?_⟩
    cases isIssue
    exact nomatch rotation
  | updateGrant grantId patch =>
    rcases startUpdate_some done with ⟨rfl, rfl⟩ | ⟨rfl, existing, owners, updates⟩
    · exact ⟨.refl _ _, snapshot_of_none rfl⟩
    · refine ⟨?_, snapshot_of_none rfl⟩
      rw [updates.after_eq]
      refine .write rfl rfl fun old isOld isId => ?_
      rw [updates.present] at isOld
      cases isOld
      subst isId
      exact ⟨rfl, fixes patch rfl _ updates.present⟩
  | rotateGrantToken grantId =>
    obtain ⟨rfl, rfl | ⟨existing, present, _, _, rfl⟩⟩ := startRotate_some done
    · exact ⟨.refl _ _, snapshot_of_none rfl⟩
    · refine ⟨.refl _ _, fun issue isIssue _ isId => ?_⟩
      cases isIssue
      subst isId
      exact ⟨existing, present, rfl, rfl⟩
  | revokeGrant grantId => exact revoking done
  | deleteGrant grantId => exact revoking done
  | revokeGrantsByPluginOwner | authorizeRequest => exact nomatch isLifecycle

theorem issueAhead_of_next (isIssue : (invalidateNext ids sequel).issueAhead = some issue) :
    sequel.issue = some issue := by
  cases ids with
  | cons => exact isIssue
  | nil =>
    cases sequel with
    | update | revoke => exact nomatch isIssue
    | rotate => exact isIssue

theorem persistIssue_sameUses (issuing : Issuing store issue)
    (snapshot : Snapshot id store (.persisting issue token))
    (done : persistIssue store issue token = some after) : SameUses store after id := by
  obtain ⟨_, ⟨rotation, rfl⟩ | ⟨creation, rfl⟩⟩ := persistIssue_some done
  · refine .write rfl rfl fun old isOld isId => ?_
    obtain ⟨row, present, uses, limit⟩ := snapshot issue rfl rotation isId
    subst isId
    rw [present] at isOld
    cases isOld
    exact ⟨uses.symm, limit.symm⟩
  · refine .write rfl rfl fun old isOld _ => ?_
    rcases issuing.row with ⟨rotation, _⟩ | ⟨_, creates⟩
    · exact nomatch rotation.symm.trans creation
    · exact nomatch creates.absent.symm.trans isOld

theorem perform_sameUses (sound : store.Sound) (isLifecycle : call.command.isLifecycle = true)
    (holds : At store call.point) (snapshot : Snapshot id store call.point)
    (fixes : call.point = .starting → ∀ patch, call.command = .updateGrant id patch →
      ∀ row ∈ store.grant id, patch.maxUses.getD row.maxUses = row.maxUses)
    (done : perform store call.command call.point = some (after, next)) :
    SameUses store after id ∧ Snapshot id after next := by
  obtain ⟨command, point⟩ := call
  cases point with
  | starting => exact startCommand_sameUses isLifecycle (fixes rfl) done
  | cascading sequel =>
    obtain ⟨⟨middle, descendants⟩, cascade, same⟩ := Option.map_eq_some_iff.mp done
    cases same
    obtain ⟨rfl, _, rfl⟩ := revokeDescendantRows_some cascade
    exact (sameUses_revokeGrants sound _).keeps snapshot fun _ => issueAhead_of_next
  | invalidatingKey =>
    cases done
    exact keeps (.of_eq rfl rfl) snapshot fun _ isIssue => isIssue
  | invalidatingBinding grantId rest sequel =>
    cases done
    refine keeps (.of_eq rfl rfl) snapshot fun issue isIssue => ?_
    split at isIssue
    · have atEnd : (invalidateNext [] sequel).issueAhead = some issue := isIssue
      exact issueAhead_of_next atEnd
    · exact isIssue
  | notifying =>
    cases done
    exact keeps (.refl _ _) snapshot fun _ => issueAhead_of_next
  | issuing =>
    cases done
    exact keeps (.of_eq rfl rfl) snapshot fun _ isIssue => isIssue
  | binding =>
    cases done
    exact keeps (.of_eq rfl rfl) snapshot fun _ isIssue => isIssue
  | persisting issue token =>
    obtain ⟨persisted, written, same⟩ := Option.map_eq_some_iff.mp done
    cases same
    exact ⟨persistIssue_sameUses holds.1 snapshot written, snapshot_of_none rfl⟩
  | announcing again answer =>
    cases again with
    | true => cases done; exact ⟨.refl _ _, snapshot_of_none rfl⟩
    | false =>
      cases done
      refine ⟨?_, snapshot_of_none rfl⟩
      cases answer with
      | granted => exact .of_eq rfl rfl
      | failed | missing | done | receipt | accepted | denied => exact .refl _ _
  | ended => cases done; exact ⟨.refl _ _, snapshot_of_none rfl⟩
  | rollingBack | retiringKeys | retiringBinding | staging | verifying | deciding =>
    exact False.elim holds

variable (accepts : Accepts store after grantId recordUse)
include accepts

theorem Accepts.accepted :
    after.accepted = ⟨grantId, store.owners grantId, recordUse⟩ :: store.accepted := by
  obtain ⟨row, rfl, _⟩ := accepts.after_eq
  cases recordUse <;> rfl

theorem Accepts.rows : (recordUse = false ∧ after.grant = store.grant) ∨
      (recordUse = true ∧ ∃ row, store.grant grantId = some row ∧
        row.withinLimits store.clock = true ∧ after.grant = setAt store.grant grantId
          (some { row with useCount := row.useCount + 1 })) := by
  obtain ⟨row, rfl, facts⟩ := accepts.after_eq
  cases recordUse with
  | false => exact .inl ⟨rfl, rfl⟩
  | true => exact .inr ⟨rfl, row, (facts rfl).1, (facts rfl).2, rfl⟩

theorem Accepts.sameUses
    (other : ¬ (grantId = id ∧ recordUse = true)) : SameUses store after id := by
  have uses : after.acceptedUses id = store.acceptedUses id := by
    rw [acceptedUses, accepts.accepted]
    exact List.countP_cons_of_neg (by simpa using other)
  have same : after.grant id = store.grant id := by
    rcases accepts.rows with ⟨_, rows⟩ | ⟨records, row, _, _, rows⟩
    · rw [rows]
    · rw [rows, setAt_of_ne]
      exact fun same => other ⟨same.symm, records⟩
  refine ⟨uses, fun absent => same.symm.trans absent, fun later isLater old isOld => ?_⟩
  rw [same, isOld] at isLater
  cases isLater
  exact ⟨rfl, rfl⟩

theorem Accepts.counts (counts : Counts store id) : Counts after id := by
  by_cases other : grantId = id ∧ recordUse = true
  · obtain ⟨rfl, rfl⟩ := other
    rcases accepts.rows with ⟨silent, _⟩ | ⟨_, row, present, limits, rows⟩
    · exact nomatch silent
    have uses : after.acceptedUses grantId = store.acceptedUses grantId + 1 := by
      rw [acceptedUses, accepts.accepted]
      exact List.countP_cons_of_pos (by simp)
    have bound := counts.counted row present
    have limit : row.maxUses ≠ 0 → row.useCount < row.maxUses := by
      unfold Grant.withinLimits at limits
      rw [decide_eq_true_eq] at limits
      exact limits.2.resolve_left
    have written := congrFun rows grantId
    rw [setAt_self] at written
    refine ⟨(fun absent => nomatch written.symm.trans absent), fun later isLater => ?_,
      fun later isLater limited => ?_⟩
    · rw [written] at isLater
      cases isLater
      rw [uses]
      exact Nat.succ_le_succ bound
    · rw [written] at isLater
      cases isLater
      rw [uses]
      exact Nat.succ_le_of_lt (Nat.lt_of_le_of_lt bound (limit limited))
  · exact (accepts.sameUses other).counts counts

omit accepts

theorem authorization_counts (isPoint : point.isAuthorizing = true) (counts : Counts store id)
    (done : perform store (.authorizeRequest request) point = some (after, next)) :
    Counts after id ∧ (SameUses store after id ∨ ∃ asked grant parent,
      point = .deciding asked id grant parent ∧ asked.recordUse = true ∧
        (decideRequest store asked id grant parent).2 = .ended .accepted) := by
  cases point with
  | starting =>
    obtain ⟨rfl, _⟩ := startAuthorize_some done
    exact ⟨counts, .inl (.refl _ _)⟩
  | verifying asked grantId grant parent =>
    obtain ⟨rfl, _⟩ := verifyRequest_eq (Option.some.inj done)
    exact ⟨counts, .inl (.refl _ _)⟩
  | deciding asked grantId grant parent =>
    have decided := Option.some.inj done
    rcases decideRequest_eq decided with ⟨rfl, _⟩ | ⟨rfl, accepts⟩
    · exact ⟨counts, .inl (.refl _ _)⟩
    · refine ⟨accepts.counts counts, ?_⟩
      by_cases other : grantId = id ∧ asked.recordUse = true
      · obtain ⟨rfl, records⟩ := other
        exact .inr ⟨asked, grant, parent, rfl, records, by rw [decided]⟩
      · exact .inl (accepts.sameUses other)
  | ended =>
    cases done
    exact ⟨counts, .inl (.refl _ _)⟩
  | _ => exact nomatch isPoint

structure Spending (id : GrantId) (world : GrantWorld) : Prop where
  counts : Counts world.shared id
  snapshots : world.Holds fun store _ call => Snapshot id store call.point

theorem Spending.proceed (orderly : Orderly world) (spending : Spending id world)
    (allowed : Allowed world (.proceed index reply))
    (limited : Limited id world (.proceed index reply)) :
    Spending id (step world (.proceed index reply)) := by
  unfold step
  dsimp only
  cases isCall : world.agents[index]? with
  | none => exact spending
  | some call =>
    dsimp only
    have known := orderly.known index call isCall
    have own := spending.snapshots index call isCall
    have fixes := limited.fixes call isCall
    have alone := limited.counts call isCall
    have performed : ∀ {after next},
        perform world.shared call.command call.point = some (after, next) →
        Counts after id ∧ Snapshot id after next ∧
          (∀ other found, other ≠ index → world.agents[other]? = some found →
            Snapshot id world.shared found.point → Snapshot id after found.point) := by
      intro after next performed
      rcases known.kind with isLifecycle | ⟨⟨request, isCommand⟩, isAuthorizing⟩
      · cases resting : call.isResting with
        | true =>
          have ended := resting_lifecycle isLifecycle resting
          obtain ⟨command, point⟩ := call
          cases point with
          | ended answer =>
            cases performed
            exact ⟨spending.counts, own, fun _ _ _ _ was => was⟩
          | _ => exact nomatch ended
        | false =>
          have running : At world.shared call.point := by
            cases orderly.phase with
            | resting all =>
              exact nomatch (all call (List.mem_of_getElem? isCall)).symm.trans resting
            | running other found isRun =>
              by_cases same : index = other
              · subst same
                rw [isRun.isCall] at isCall
                cases isCall
                exact isRun.holds
              · exact nomatch (isRun.others index call same isCall).symm.trans resting
          obtain ⟨same, ahead⟩ := perform_sameUses orderly.sound isLifecycle running own
            (fun isStart patch isCommand row isRow => by
              have fixed := fixes isStart
              rw [isCommand] at fixed
              exact fixed rfl row isRow) performed
          exact ⟨same.counts spending.counts, ahead, fun _ _ _ _ was => same.snapshot was⟩
      · rw [isCommand] at performed
        obtain ⟨counts, used⟩ := authorization_counts isAuthorizing spending.counts performed
        have still := (authorization_alike isAuthorizing performed).2
        have ahead : Snapshot id after next := by
          refine snapshot_of_none ?_
          cases next with
          | starting | verifying | deciding | ended => rfl
          | _ => exact nomatch still
        refine ⟨counts, ahead, fun other found _ isFound was => ?_⟩
        rcases used with same | ⟨asked, grant, parent, isPoint, records, accepted⟩
        · exact same.snapshot was
        · rw [isPoint] at alone
          intro issue isIssue rotation isId
          exact absurd ⟨issue, isIssue, rotation, isId⟩
            (alone rfl records accepted found (List.mem_of_getElem? isFound))
    have breaks := Call.breaks (allowed.finished call isCall)
    revert breaks
    generalize call.proceed world.shared reply = result
    intro breaks
    cases breaks with
    | done done =>
      obtain ⟨counts, ahead, others⟩ := performed done
      exact ⟨counts, spending.snapshots.update isCall ahead others⟩
    | stuck =>
      exact ⟨spending.counts, spending.snapshots.update isCall
        (snapshot_of_none (onFailure_issueAhead _)) fun _ _ _ _ was => was⟩
    | cut done =>
      obtain ⟨counts, _, others⟩ := performed done
      exact ⟨counts, spending.snapshots.update isCall
        (snapshot_of_none (onFailure_issueAhead _)) others⟩

theorem Spending.step (orderly : Orderly world) (spending : Spending id world)
    (allowed : Allowed world event) (limited : Limited id world event) :
    Spending id (ToolGrants.step world event) := by
  cases event with
  | proceed index reply => exact spending.proceed orderly allowed limited
  | call command => exact ⟨spending.counts, spending.snapshots.spawn (snapshot_of_none rfl)⟩
  | registerPluginGrantOwner pluginId generation =>
    unfold ToolGrants.step
    dsimp only
    split
    · exact spending
    · next after registered =>
        have same : SameUses world.shared after id := by
          cases registerPluginGrantOwner_some registered with
          | known => exact .refl _ _
          | fresh => exact .of_eq rfl rfl
        exact ⟨same.counts spending.counts,
          spending.snapshots.interfere fun _ _ _ was => same.snapshot was⟩
  | wait duration =>
    have same : SameUses world.shared
        { world.shared with clock := world.shared.clock + duration } id := .of_eq rfl rfl
    exact ⟨same.counts spending.counts,
      spending.snapshots.interfere fun _ _ _ was => same.snapshot was⟩
  | crash => exact ⟨spending.counts, fun _ _ isCall => nomatch isCall⟩

theorem spending_empty : Spending id ⟨{}, []⟩ where
  counts := ⟨fun _ => rfl, (fun _ present => nomatch present), fun _ present => nomatch present⟩
  snapshots _ _ isCall := nomatch isCall

theorem Spending.run (orderly : Orderly world) (spending : Spending id world)
    (allowed : EachCommand ToolGrants.step Allowed world events)
    (limited : EachCommand ToolGrants.step (Limited id) world events) :
    Spending id (runAll ToolGrants.step world events) := by
  induction events generalizing world with
  | nil => exact spending
  | cons event rest induction =>
    exact induction (orderly.step allowed.1).1 (spending.step orderly allowed.1 limited.1)
      allowed.2 limited.2

end LicoMesh.ToolGrants
