import LicoMesh.WorkQueue.CanonicalJson
import LicoMesh.WorkQueue.Evolution

namespace LicoMesh.WorkQueue

open Library Transaction

/-! A dedupe key is bound to one retained item, and to the request it was
enqueued with. -/

variable {left right row existing : WorkItemRow} {admission : Admission} {item : Option WorkItem}
  {requested : DedupeFingerprint} {value : Json}

def EnqueueInput.dedupeId (input : EnqueueInput) : Except QueueError (String × String × String) :=
  (resolveQueueDefinition input.queue true false).map fun definition =>
    (definition.queueDefinitionId, resolveScopeKey input.scopeKey input.scope.normalize,
      toText input.dedupeKey)

def EnqueueInput.queueVersion (input : EnqueueInput) : Except QueueError Nat :=
  (resolveQueueDefinition input.queue true false).map fun definition =>
    definition.queueDefinitionVersion

/-- The parts a dedupe key binds are equal, up to the order of object keys. -/
structure EnqueueInput.SameRequest (input first : EnqueueInput) : Prop where
  queueVersion : input.queueVersion = first.queueVersion
  payloadRef : input.payloadRef.SameUpToKeyOrder first.payloadRef
  ownerRef : (normalizeOwnerRef input.ownerRef).SameUpToKeyOrder
    (normalizeOwnerRef first.ownerRef)
  schedulingScope : input.hierarchy = first.hierarchy

structure WorkItemRow.SharesKey (left right : WorkItemRow) : Prop where
  queue : left.queueDefinitionId = right.queueDefinitionId
  scope : left.scopeKey = right.scopeKey
  key : left.dedupeKey = right.dedupeKey
  keyed : left.dedupeKey ≠ ""

def Store.DedupeKeysUnique (store : Store) : Prop :=
  ∀ left right, store.getWorkItem left.workItemId = some left →
    store.getWorkItem right.workItemId = some right → left.SharesKey right →
    left.workItemId = right.workItemId

open Store

variable {env : QueueEnv} {store next : Store}

section Fingerprint

theorem hierarchicalScopeParts_normalize (scope : QueueScope) :
    hierarchicalScopeParts scope.normalize = hierarchicalScopeParts scope := by
  unfold hierarchicalScopeParts QueueScope.normalize
  simp only [toText_toText]

def DedupeFingerprint.toJson (fingerprint : DedupeFingerprint) : Json :=
  .obj
    [("queueDefinitionVersion", .num (toString fingerprint.queueDefinitionVersion)),
      ("payloadRef", fingerprint.payloadRef), ("ownerRef", fingerprint.ownerRef),
      ("schedulingScope", .obj
        [("tenantId", .str fingerprint.schedulingScope.tenantId),
          ("workspaceId", .str fingerprint.schedulingScope.workspaceId),
          ("projectId", .str fingerprint.schedulingScope.projectId)])]

theorem DedupeFingerprint.isValue_toJson {fingerprint : DedupeFingerprint}
    (payloadRef : fingerprint.payloadRef.isValue) (ownerRef : fingerprint.ownerRef.isValue) :
    fingerprint.toJson.isValue := by
  unfold toJson
  rw [Json.isValue_obj]
  refine ⟨(by decide : ["queueDefinitionVersion", "payloadRef", "ownerRef",
    "schedulingScope"].Nodup), ?_⟩
  simp only [List.forall_mem_cons]
  refine ⟨isNumberText_toString _, payloadRef, ownerRef, ?_, nofun⟩
  rw [Json.isValue_obj]
  refine ⟨(by decide : ["tenantId", "workspaceId", "projectId"].Nodup), ?_⟩
  simp only [List.forall_mem_cons]
  exact ⟨rfl, rfl, rfl, nofun⟩

theorem DedupeFingerprint.text_eq_iff {bound : DedupeFingerprint}
    (payloadRef : bound.payloadRef.isValue) (ownerRef : bound.ownerRef.isValue)
    (payloadRef' : requested.payloadRef.isValue) (ownerRef' : requested.ownerRef.isValue) :
    bound.text = requested.text ↔ bound.queueDefinitionVersion = requested.queueDefinitionVersion ∧
      bound.payloadRef.SameUpToKeyOrder requested.payloadRef ∧
      bound.ownerRef.SameUpToKeyOrder requested.ownerRef ∧ bound.schedulingScope =
      requested.schedulingScope := by
  have isValue := isValue_toJson payloadRef ownerRef
  refine (canonicalJson_eq_iff isValue (isValue_toJson payloadRef' ownerRef')).trans ?_
  constructor
  · intro same
    have version := (same.get isValue "queueDefinitionVersion").num_eq (isNumberText_toString _)
    have scope := same.get isValue "schedulingScope"
    have scopeIsValue : (bound.toJson.get "schedulingScope").isValue := by
      refine (Json.isValue_obj.mp isValue).2 ("schedulingScope", _) ?_
      exact List.mem_cons_of_mem _ (List.mem_cons_of_mem _ (List.mem_cons_of_mem _
        List.mem_cons_self))
    have tenantId := (scope.get scopeIsValue "tenantId").str_eq
    have workspaceId := (scope.get scopeIsValue "workspaceId").str_eq
    have projectId := (scope.get scopeIsValue "projectId").str_eq
    refine ⟨toString_injective version, same.get isValue "payloadRef",
      same.get isValue "ownerRef", ?_⟩
    exact Hierarchy.ext tenantId workspaceId projectId
  · intro ⟨version, samePayload, sameOwner, scope⟩
    unfold toJson
    rw [version, scope]
    refine .trans (@Json.SameUpToKeyOrder.field [_] [_, _] _ _ _ samePayload) ?_
    exact @Json.SameUpToKeyOrder.field [_, _] [_] _ _ _ sameOwner

theorem isValue_normalizeOwnerRef (isValue : value.isValue) :
    (normalizeOwnerRef value).isValue := by
  unfold normalizeOwnerRef
  split
  · exact isValue
  · rfl

theorem parseJson_normalizeOwnerRef (isValue : value.isValue) (fallback : Json) :
    parseJson (String.ofList (normalizeOwnerRef value).render) fallback =
      normalizeOwnerRef value := by
  have normalized := isValue_normalizeOwnerRef isValue
  have shape : ∃ fields, normalizeOwnerRef value = .obj fields := by
    unfold normalizeOwnerRef
    split
    · exact ⟨_, rfl⟩
    · exact ⟨[], rfl⟩
  obtain ⟨fields, shape⟩ := shape
  rw [shape] at normalized ⊢
  exact parseJson_render normalized fallback

theorem parseJson_payloadRef (isValue : value.isValue)
    (structured : normalizePayloadRef value = .ok value) (fallback : Json) :
    parseJson (String.ofList value.render) fallback = value := by
  unfold normalizePayloadRef at structured
  split at structured
  · exact parseJson_render isValue fallback
  · cases structured

def WorkItemRow.fingerprint (row : WorkItemRow) : DedupeFingerprint where
  queueDefinitionVersion := row.queueDefinitionVersion
  payloadRef := parseJson row.payloadRefJson .emptyObject
  ownerRef := parseJson row.ownerRefJson .emptyObject
  schedulingScope := row.toHierarchy

theorem assertDedupeFingerprint_ok (same : existing.fingerprint.text = requested.text) :
    assertDedupeFingerprint existing requested = .ok () :=
  if_pos same

theorem assertDedupeFingerprint_conflict (different : existing.fingerprint.text ≠ requested.text) :
    ∃ error, assertDedupeFingerprint existing requested = .error error ∧
      error.code = some "work_queue_dedupe_conflict" :=
  ⟨_, if_neg different, rfl⟩

variable {input first : EnqueueInput} {definition firstDefinition : ResolvedQueueDefinition}

theorem sameRequest_iff (resolved : resolveQueueDefinition input.queue true false = .ok definition)
    (firstResolved : resolveQueueDefinition first.queue true false = .ok firstDefinition) :
    (first.fingerprint firstDefinition).text = (input.fingerprint definition).text ↔
      input.SameRequest first := by
  refine (DedupeFingerprint.text_eq_iff first.payloadRefIsValue
    (isValue_normalizeOwnerRef first.ownerRefIsValue) input.payloadRefIsValue
    (isValue_normalizeOwnerRef input.ownerRefIsValue)).trans ?_
  have version : input.queueVersion = .ok definition.queueDefinitionVersion := by
    unfold EnqueueInput.queueVersion
    rw [resolved]
    rfl
  have firstVersion : first.queueVersion = .ok firstDefinition.queueDefinitionVersion := by
    unfold EnqueueInput.queueVersion
    rw [firstResolved]
    rfl
  have scope : (input.fingerprint definition).schedulingScope = input.hierarchy :=
    hierarchicalScopeParts_normalize _
  have firstScope : (first.fingerprint firstDefinition).schedulingScope = first.hierarchy :=
    hierarchicalScopeParts_normalize _
  rw [scope, firstScope]
  constructor
  · intro ⟨sameVersion, payloadRef, ownerRef, sameScope⟩
    refine ⟨?_, payloadRef.symm, ownerRef.symm, sameScope.symm⟩
    rw [version, firstVersion]
    exact congrArg Except.ok sameVersion.symm
  · intro ⟨sameVersion, payloadRef, ownerRef, sameScope⟩
    rw [version, firstVersion] at sameVersion
    exact ⟨(Except.ok.inj sameVersion).symm, payloadRef.symm, ownerRef.symm, sameScope.symm⟩

theorem fingerprint_of_request
    (structured : normalizePayloadRef first.payloadRef = .ok first.payloadRef)
    (request : existing.toWorkItemRequest = first.request env firstDefinition policy expiresAtMs) :
    existing.fingerprint = first.fingerprint firstDefinition := by
  have payloadRef := parseJson_payloadRef first.payloadRefIsValue structured .emptyObject
  have ownerRef := parseJson_normalizeOwnerRef first.ownerRefIsValue .emptyObject
  have scope := hierarchicalScopeParts_normalize (first.schedulingScope.getD first.scope.normalize)
  unfold WorkItemRow.fingerprint EnqueueInput.fingerprint
  rw [request, scope]
  unfold EnqueueInput.request
  rw [payloadRef, ownerRef]
  rfl

end Fingerprint

section Keys

theorem WorkItemRow.SharesKey.congr {left' right' : WorkItemRow} (shares : left.SharesKey right)
    (sameLeft : left'.toWorkItemRequest = left.toWorkItemRequest)
    (sameRight : right'.toWorkItemRequest = right.toWorkItemRequest) : left'.SharesKey right' := by
  obtain ⟨queue, scope, key, keyed⟩ := shares
  rw [← sameLeft, ← sameRight] at queue scope key
  rw [← sameLeft] at keyed
  exact ⟨queue, scope, key, keyed⟩

theorem WorkItemRow.SharesKey.symm (shares : left.SharesKey right) : right.SharesKey left :=
  ⟨shares.queue.symm, shares.scope.symm, shares.key.symm, shares.key ▸ shares.keyed⟩

theorem not_sharesKey_of_insertWorkItem (inserts : store.insertWorkItem row = some inserted)
    (present : store.getWorkItem other.workItemId = some other) : ¬ row.SharesKey other := by
  intro ⟨queue, scope, key, keyed⟩
  unfold insertWorkItem at inserts
  split at inserts
  · cases inserts
  · rename_i free
    refine free ((Bool.and_eq_true _ _).mpr ⟨decide_eq_true keyed, List.any_eq_true.mpr
      ⟨other, mem_of_getWorkItem present, ?_⟩⟩)
    simp only [Bool.and_eq_true, decide_eq_true_eq]
    exact ⟨⟨queue.symm, scope.symm⟩, key.symm⟩

section

variable (step : Step env store effect next) (replayed : store.Replayed False)
include step replayed

theorem Step.request_cases (present : next.getWorkItem later.workItemId = some later) :
    (∃ row inserted, store.insertWorkItem row = some inserted ∧
        row.toWorkItemRequest = later.toWorkItemRequest ∧
        ∀ other, next.getWorkItem other.workItemId = some other →
          other.workItemId ≠ row.workItemId → store.getWorkItem other.workItemId = some other) ∨
      ∃ row, store.getWorkItem later.workItemId = some row ∧
        row.toWorkItemRequest = later.toWorkItemRequest := by
  rcases step.row_cases replayed present with
    enrolled | ⟨row, _, _, _, moved⟩ | ⟨row, kept⟩
  · obtain ⟨row, policy, nowMs, rfl, _, _, same⟩ := enrolled.enrolls
    cases step with
    | enroll inserts =>
      refine .inl ⟨row, _, inserts, same.request, ?_⟩
      intro other present different
      rw [getWorkItem_admitRow inserts, if_neg different] at present
      exact present
  · exact .inr ⟨row, moved.found, moved.request⟩
  · exact .inr ⟨row, kept.found, kept.request⟩

theorem Step.dedupeKeysUnique (unique : store.DedupeKeysUnique) : next.DedupeKeysUnique := by
  intro left right presentLeft presentRight shares
  by_contra different
  rcases step.request_cases replayed presentLeft with
    ⟨row, inserted, inserts, same, others⟩ | ⟨row, found, same⟩
  · have here : row.workItemId = left.workItemId := by rw [same]
    refine not_sharesKey_of_insertWorkItem inserts (others right presentRight ?_)
      (shares.congr same rfl)
    rw [here]
    exact Ne.symm different
  · rcases step.request_cases replayed presentRight with
      ⟨row', inserted, inserts, same', others⟩ | ⟨row', found', same'⟩
    · have here : row'.workItemId = right.workItemId := by rw [same']
      refine not_sharesKey_of_insertWorkItem inserts (others left presentLeft ?_)
        (shares.symm.congr same' rfl)
      rw [here]
      exact different
    · have id : row.workItemId = left.workItemId := by rw [same]
      have id' : row'.workItemId = right.workItemId := by rw [same']
      rw [← id] at found
      rw [← id'] at found'
      have one := unique row row' found found' (shares.congr same same')
      exact different (id.symm.trans (one.trans id'))

end

theorem applyCommand_dedupeKeysUnique (replayed : store.Replayed False)
    (unique : store.DedupeKeysUnique) : (applyCommand env store command).DedupeKeysUnique := by
  have keeps : ∀ {state effect after}, Permits env store command state effect →
      Step env state effect after → state.Replayed False ∧ state.DedupeKeysUnique →
      after.Replayed False ∧ after.DedupeKeysUnique :=
    fun _ step ⟨replayed, unique⟩ =>
      ⟨step.replayed nofun replayed, step.dedupeKeysUnique replayed unique⟩
  exact ((applyCommand_path env store command).preserves keeps ⟨replayed, unique⟩).2

theorem runCommands_dedupeKeysUnique (replayed : store.Replayed False)
    (unique : store.DedupeKeysUnique) : (runCommands env store commands).DedupeKeysUnique := by
  have keeps : ∀ state command, state.Replayed False ∧ state.DedupeKeysUnique →
      (applyCommand env state command).Replayed False ∧
        (applyCommand env state command).DedupeKeysUnique :=
    fun _ _ ⟨replayed, unique⟩ =>
      ⟨applyCommand_replayed False.elim replayed, applyCommand_dedupeKeysUnique replayed unique⟩
  exact (runAll_invariant keeps ⟨replayed, unique⟩ commands).2

theorem getDedupe_of_unique (unique : store.DedupeKeysUnique)
    (present : store.getWorkItem row.workItemId = some row) (keyed : row.dedupeKey ≠ "") :
    store.getDedupe row.queueDefinitionId row.scopeKey row.dedupeKey = some row := by
  cases found : store.getDedupe row.queueDefinitionId row.scopeKey row.dedupeKey with
  | some other =>
    unfold getDedupe at found
    obtain ⟨member, matching⟩ := mem_selectRows (List.mem_of_mem_head? found)
    simp only [Bool.and_eq_true, decide_eq_true_eq] at matching
    obtain ⟨⟨⟨queue, scope⟩, key⟩, keyed'⟩ := matching
    have there := getWorkItem_of_mem member
    have one := unique other row there present ⟨queue, scope, key, keyed'⟩
    rw [one, present] at there
    rw [there]
  | none =>
    unfold getDedupe selectRows at found
    rw [List.head?_take, if_neg (by decide), List.head?_eq_none_iff] at found
    have member : row ∈ (store.workItems.rows.filter fun other =>
        other.queueDefinitionId = row.queueDefinitionId && other.scopeKey = row.scopeKey &&
          other.dedupeKey = row.dedupeKey && other.dedupeKey ≠ "").insertionSort
          fun a b => decide (a.createdAtMs ≤ b.createdAtMs) := by
      rw [List.mem_insertionSort, List.mem_filter]
      refine ⟨mem_of_getWorkItem present, ?_⟩
      simpa using keyed
    rw [found] at member
    cases member

end Keys

section Enqueue

variable {input first : EnqueueInput}

theorem admission_ok (admits : input.admission env = .ok admission) :
    resolveQueueDefinition input.queue true false = .ok admission.definition ∧
      normalizePayloadRef input.payloadRef = .ok input.payloadRef ∧ ∃ expiresAtMs, admission.row =
      input.row env admission.definition admission.policy expiresAtMs := by
  unfold EnqueueInput.admission at admits
  simp only [bind_eq_ok] at admits
  obtain ⟨definition, resolved, payloadRef, structured, policy, _, expiresAtMs, _, _, _, _, _,
    result⟩ := admits
  cases result
  refine ⟨resolved, ?_, expiresAtMs, rfl⟩
  unfold normalizePayloadRef at structured ⊢
  split at structured
  · rename_i shape
    rw [shape]
  · cases structured

theorem enqueue_of_dedupe (admits : input.admission env = .ok admission)
    (bound : store.getDedupe admission.row.queueDefinitionId admission.row.scopeKey
      admission.row.dedupeKey = some existing) :
    enqueue env input store = dedupedItem existing input admission.definition store := by
  unfold enqueue
  simp only [admits, check, bind, StateT.bind, Except.bind, pure, stateT_pure, Except.pure, get,
    getThe, MonadStateOf.get, StateT.get, bound]

theorem enqueue_accepted (accepted : (enqueue env input).Commits store (.accepted seq item) next) :
    ∃ admission inserted, input.admission env = .ok admission ∧
      store.insertWorkItem admission.row = some inserted ∧
      Path (Step env) (fun _ effect => effect.EnrollsNone)
        (inserted.admitRow admission.row input.nowMs) next := by
  unfold enqueue at accepted
  simp only [commits_bind, commits_check, commits_get] at accepted
  obtain ⟨admission, _, ⟨admitted, rfl⟩, _, _, ⟨rfl, rfl⟩, accepted⟩ := accepted
  split at accepted
  · obtain ⟨_, result⟩ := dedupedItem_commits accepted
    cases result
  · unfold insertAdmitted at accepted
    simp only [commits_bind, commits_check, commits_get] at accepted
    obtain ⟨_, _, ⟨rfl, rfl⟩, _, _, ⟨capacity, rfl⟩, accepted⟩ := accepted
    split at accepted
    · split at accepted
      · obtain ⟨_, result⟩ := dedupedItem_commits accepted
        cases result
      · exact absurd accepted commits_throw
    · rename_i inserted inserts
      simp only [commits_bind, commits_set, commits_get, commits_pure] at accepted
      obtain ⟨_, _, rfl, seq, _, appended, _, _, ⟨rfl, rfl⟩, _, rfl⟩ := accepted
      obtain ⟨_, housekeeping⟩ := appendTransitionInternal_cases appended
      refine ⟨admission, inserted, admitted, inserts, housekeeping.mono ?_⟩
      intro _ effect h
      cases effect <;> trivial

theorem request_of_accepted (replayed : store.Replayed False)
    (accepted : (enqueue env first).Commits store (.accepted seq item) next)
    (retained : RetainedAlong env first.resolvedWorkItemId next after) :
    ∃ admission row expiresAtMs, first.admission env = .ok admission ∧
      row.workItemId = first.resolvedWorkItemId ∧
      (runCommands env next after).getWorkItem row.workItemId = some row ∧ row.toWorkItemRequest =
        first.request env admission.definition admission.policy expiresAtMs := by
  obtain ⟨admission, inserted, admitted, inserts, housekeeping⟩ := enqueue_accepted accepted
  obtain ⟨resolved, _, expiresAtMs, shape⟩ := admission_ok admitted
  have admits : (inserted.admitRow admission.row first.nowMs).Replayed False :=
    replayed.enroll inserts (admission_isNew admitted)
  obtain ⟨enrolled, hfound⟩ := Option.isSome_iff_exists.mp retained.1
  have here := id_of_getWorkItem hfound
  rw [← here] at hfound retained
  obtain ⟨row, found, evolves⟩ := Path.evolves housekeeping admits enrolled hfound
  have named : enrolled.workItemId = admission.row.workItemId := by
    rw [here, shape]
    rfl
  rw [getWorkItem_admitRow inserts, if_pos named] at found
  obtain ⟨later, present, evolves'⟩ := runCommands_holds
    (Path.preserves housekeeping (fun _ step => step.replayed nofun) admits) hfound retained
  have id := id_of_getWorkItem present
  refine ⟨admission, later, expiresAtMs, admitted, id.trans here, by rw [id]; exact present, ?_⟩
  rw [← evolves'.request, ← evolves.request, ← Option.some.inj found, shape]
  rfl

end Enqueue

structure EnqueueInput.Deduplicates (env : QueueEnv) (input first : EnqueueInput)
    (store : Store) : Prop where
  unchanged : (enqueue env input).applied store = store
  rejected : ∀ error, input.admission env = .error error → enqueue env input store = .error error
  deduped : ∀ admission, input.admission env = .ok admission → input.SameRequest first →
    ∃ row, store.getWorkItem first.resolvedWorkItemId = some row ∧
      enqueue env input store = .ok (.deduped (rowToWorkItem row), store)
  conflict : ∀ admission, input.admission env = .ok admission → ¬ input.SameRequest first →
    ∃ error, enqueue env input store = .error error ∧
      error.code = some "work_queue_dedupe_conflict"

theorem enqueue_deduplicates (env : QueueEnv) (before after : List QueueCommand)
    (first input : EnqueueInput) {seq : Nat} {item : Option WorkItem} {admitted : Store}
    (accepted : (enqueue env first).Commits (runCommands env .empty before)
      (.accepted seq item) admitted)
    (retained : RetainedAlong env first.resolvedWorkItemId admitted after)
    (keyed : toText first.dedupeKey ≠ "") (sameKey : input.dedupeId = first.dedupeId) :
    input.Deduplicates env first (runCommands env admitted after) := by
  have replayed := runCommands_replayed env before
  obtain ⟨firstAdmission, row, expiresAtMs, firstAdmits, named, present, request⟩ :=
    request_of_accepted replayed accepted retained
  obtain ⟨firstResolved, structured, _, _⟩ := admission_ok firstAdmits
  have unique : (runCommands env admitted after).DedupeKeysUnique := by
    have applied : applyCommand env (runCommands env .empty before) (.enqueue first) = admitted :=
      accepted.applied_eq
    refine runCommands_dedupeKeysUnique ?_ ?_
    · rw [← applied]
      exact applyCommand_replayed False.elim replayed
    · rw [← applied]
      refine applyCommand_dedupeKeysUnique replayed (runCommands_dedupeKeysUnique replayed_empty ?_)
      intro left _ found
      cases found
  have rejected : ∀ error, input.admission env = .error error →
      enqueue env input (runCommands env admitted after) = .error error := by
    intro error fails
    unfold enqueue
    simp only [fails, check, bind, StateT.bind, Except.bind]
    rfl
  have bound : ∀ admission, input.admission env = .ok admission →
      enqueue env input (runCommands env admitted after) =
        dedupedItem row input admission.definition (runCommands env admitted after) := by
    intro admission admits
    obtain ⟨resolved, _, _, shape⟩ := admission_ok admits
    refine enqueue_of_dedupe admits ?_
    unfold EnqueueInput.dedupeId at sameKey
    rw [resolved, firstResolved] at sameKey
    have same := Except.ok.inj sameKey
    simp only [Prod.mk.injEq] at same
    obtain ⟨queue, scope, key⟩ := same
    have rowQueue : admission.row.queueDefinitionId = row.queueDefinitionId := by
      rw [shape, request]
      exact queue
    have rowScope : admission.row.scopeKey = row.scopeKey := by
      rw [shape, request]
      exact scope
    have rowKey : admission.row.dedupeKey = row.dedupeKey := by
      rw [shape, request]
      exact key
    rw [rowQueue, rowScope, rowKey]
    refine getDedupe_of_unique unique present ?_
    rw [request]
    exact keyed
  have fingerprint := fingerprint_of_request structured request
  refine ⟨?_, rejected, ?_, ?_⟩
  · rcases applied_cases (enqueue env input) (runCommands env admitted after) with
      ⟨result, commits⟩ | same
    · cases admits : input.admission env with
      | error error =>
        have fails := (rejected error admits).symm.trans commits
        cases fails
      | ok admission =>
        have commits : (dedupedItem row input admission.definition).Commits
            (runCommands env admitted after) result _ :=
          (bound admission admits).symm.trans commits
        exact (dedupedItem_commits commits).1.symm
    · exact same
  · intro admission admits same
    obtain ⟨resolved, _⟩ := admission_ok admits
    refine ⟨row, named ▸ present, ?_⟩
    rw [bound admission admits]
    have text := (sameRequest_iff resolved firstResolved).mpr same
    rw [← fingerprint] at text
    unfold dedupedItem
    simp only [assertDedupeFingerprint_ok text]
    rfl
  · intro admission admits different
    obtain ⟨resolved, _⟩ := admission_ok admits
    rw [bound admission admits]
    have text := fun same => different ((sameRequest_iff resolved firstResolved).mp same)
    rw [← fingerprint] at text
    obtain ⟨error, conflict, code⟩ := assertDedupeFingerprint_conflict text
    refine ⟨error, ?_, code⟩
    unfold dedupedItem
    simp only [conflict]
    rfl

theorem isValue_emptyObject : Json.emptyObject.isValue := by decide

def keyedEnqueue (kind : String) (nowMs : Int) : EnqueueInput where
  nowMs := nowMs
  queue := sampleQueue
  scopeKey := some "scope"
  dedupeKey := "key"
  expiresAtMs := some 1000
  payloadRef := .obj [("kind", .str kind), ("id", .num "7")]
  ownerRefIsValue := isValue_emptyObject
  payloadRefIsValue := by
    rw [Json.isValue_obj]
    refine ⟨(by decide : ["kind", "id"].Nodup), ?_⟩
    simp only [List.forall_mem_cons]
    exact ⟨rfl, rfl, nofun⟩
  workItemId := some "item"
  generatedWorkItemId := generatedId

theorem enqueue_deduplicates_retried :
    ∃ seq item admitted, (enqueue (sampleEnv .sqlite defaultQueuePolicy)
        (keyedEnqueue "job" 10)).Commits empty (.accepted seq item) admitted ∧
      (keyedEnqueue "job" 20).Deduplicates (sampleEnv .sqlite defaultQueuePolicy)
        (keyedEnqueue "job" 10) (runCommands (sampleEnv .sqlite defaultQueuePolicy) admitted
          [.claim (sampleClaim leaseA 1 15)]) := by
  have accepts : (enqueue (sampleEnv .sqlite defaultQueuePolicy) (keyedEnqueue "job" 10)).passes
      empty (fun result admitted => (match result with
        | .accepted _ _ => true
        | .deduped _ => false) &&
        (admitted.getWorkItem (keyedEnqueue "job" 10).resolvedWorkItemId).isSome &&
        ((applyCommand (sampleEnv .sqlite defaultQueuePolicy) admitted
          (.claim (sampleClaim leaseA 1 15))).getWorkItem
            (keyedEnqueue "job" 10).resolvedWorkItemId).isSome) := by
    decide +kernel
  obtain ⟨result, admitted, commits, test⟩ := passes_iff.mp accepts
  simp only [Bool.and_eq_true] at test
  cases result with
  | deduped item => cases test.1.1
  | accepted seq item =>
    exact ⟨seq, item, admitted, commits, enqueue_deduplicates
      (sampleEnv .sqlite defaultQueuePolicy) [] [.claim (sampleClaim leaseA 1 15)]
      (keyedEnqueue "job" 10) (keyedEnqueue "job" 20) commits
      ⟨test.1.2, test.2, trivial⟩ (by decide +kernel) rfl⟩

def EnqueueDeduplicates (env : QueueEnv) (before : List QueueCommand) : Prop :=
  ∀ (after : List QueueCommand) (first input : EnqueueInput) (seq : Nat) (item : Option WorkItem)
    (admitted : Store),
    (enqueue env first).Commits (runCommands env .empty before) (.accepted seq item) admitted →
    RetainedAlong env first.resolvedWorkItemId admitted after → toText first.dedupeKey ≠ "" →
    input.dedupeId = first.dedupeId →
    (enqueue env input).applied (runCommands env admitted after) =
        runCommands env admitted after ∧ (input.SameRequest first → ∃ row,
        (runCommands env admitted after).getWorkItem first.resolvedWorkItemId = some row ∧
          enqueue env input (runCommands env admitted after) =
            .ok (.deduped (rowToWorkItem row), runCommands env admitted after)) ∧
      (¬ input.SameRequest first → ∃ error,
        enqueue env input (runCommands env admitted after) = .error error ∧
          error.code = some "work_queue_dedupe_conflict")

/-- The same request is rejected once its own deadline has passed. -/
theorem keyedEnqueue_not_deduplicates :
    ¬ EnqueueDeduplicates (sampleEnv .sqlite defaultQueuePolicy) [] := by
  intro deduplicates
  have accepts : (enqueue (sampleEnv .sqlite defaultQueuePolicy) (keyedEnqueue "job" 10)).passes
      empty (fun result admitted => (match result with
        | .accepted _ _ => true
        | .deduped _ => false) &&
        (admitted.getWorkItem (keyedEnqueue "job" 10).resolvedWorkItemId).isSome &&
        !(enqueue (sampleEnv .sqlite defaultQueuePolicy) (keyedEnqueue "job" 1000)).passes admitted
          fun _ _ => true) := by
    decide +kernel
  obtain ⟨result, admitted, commits, test⟩ := passes_iff.mp accepts
  simp only [Bool.and_eq_true, Bool.not_eq_true'] at test
  cases result with
  | deduped item => cases test.1.1
  | accepted seq item =>
    have claimed := deduplicates [] (keyedEnqueue "job" 10) (keyedEnqueue "job" 1000) seq item
      admitted commits ⟨test.1.2, trivial⟩ (by decide +kernel) rfl
    have same : (keyedEnqueue "job" 1000).SameRequest (keyedEnqueue "job" 10) :=
      ⟨rfl, .refl _, .refl _, rfl⟩
    obtain ⟨row, _, returned⟩ := claimed.2.1 same
    have passes : (enqueue (sampleEnv .sqlite defaultQueuePolicy)
        (keyedEnqueue "job" 1000)).passes admitted (fun _ _ => true) :=
      passes_iff.mpr ⟨_, _, returned, rfl⟩
    rw [test.2] at passes
    cases passes

end LicoMesh.WorkQueue
