import LicoMesh.ToolGrants.OwnerProgress

namespace LicoMesh.ToolGrants

open Library

/-! Further calls come to an end: each accounts for more grants, until none is left. -/

variable {targets accounted pending : List Target} {world : GrantWorld} {steps : Nat}
  {cursor : Option GrantId} {batchSize : Int} {rest : List Int} {owner : Owner} {key : String}
  {store after : Store} {owned : List GrantId} {job : Job} {request : RetireRequest}

def Covers (pending : List Target) (request : RetireRequest) : Prop :=
  ∀ target ∈ pending.drop request.limit, target.Out

theorem Retiring.startRetire (retiring : Retiring owner key owned store job accounted pending)
    (isKey : request.idempotencyKey = key) (isOwner : request.owner = owner) :
    startRetire store request = some (
      if request.cursor ≠ none ∧ request.cursor ≠ job.cursorToken then (store, .ended .failed)
      else if job.complete ∨ (request.cursor = none ∧ job.cursorToken ≠ none) then
        (store, .ended (.receipt job.receipt))
      else (store, .retiringKeys request false (pending.take request.limit))) := by
  subst isKey isOwner
  have known : store.authorityState request.owner ≠ none := by
    intro absent
    cases complete : job.complete with
    | false => exact nomatch absent.symm.trans (retiring.retiring complete)
    | true => exact nomatch absent.symm.trans (retiring.retired complete)
  have opened : store.openJob request = some store := by
    unfold Store.openJob
    rw [retiring.present]
  have own := retiring.own
  obtain ⟨samePlugin, sameGeneration⟩ := Owner.plugin.inj own
  unfold startRetire
  rw [if_neg known, opened, Option.bind_some, retiring.present, Option.map_some,
    if_neg (by rw [samePlugin, sameGeneration]; simp)]
  unfold Store.revocationTargets
  rw [retiring.ledger.filter_pending]
  congr 1
  by_cases stale : request.cursor ≠ none ∧ request.cursor ≠ job.cursorToken
  · rw [if_pos stale, if_pos stale]
  · rw [if_neg stale, if_neg stale]
    cases complete : job.complete with
    | true => simp
    | false => simp

theorem ReadOf.own (distinct : (grantIdsOf pending).Nodup)
    (isIn : ∀ target ∈ targets, target ∈ pending) : ReadOf pending targets := by
  intro target isTarget other isOther same
  have isSame : other = target :=
    List.inj_on_of_nodup_map distinct isOther (isIn target isTarget) same
  rw [isSame]
  exact ⟨fun out => out, fun out => out⟩

variable (ledger : Ledger key owned store job accounted pending)
include ledger

theorem Ledger.distinct (ascending : owned.Pairwise (· < ·)) : (grantIdsOf pending).Nodup := by
  obtain ⟨rest, same⟩ := ledger.staged
  rw [same] at ascending
  have middle := (List.pairwise_append.mp (List.pairwise_append.mp ascending).1).2.1
  exact middle.imp fun less => less.ne

theorem Ledger.lengths : accounted.length + pending.length ≤ owned.length := by
  obtain ⟨rest, same⟩ := ledger.staged
  have length := congrArg List.length same
  simp only [List.length_append, grantIdsOf, List.length_map] at length
  omega

omit ledger

theorem Retiring.ascending (retiring : Retiring owner key owned store job accounted pending)
    (sound : store.Sound) : owned.Pairwise (· < ·) :=
  retiring.isOwned ▸ sound.ascending.filter _

theorem Retiring.roundUp (command : Command) (second : Bool)
    (retiring : Retiring owner key owned store job accounted pending) (sound : store.Sound)
    (isKey : request.idempotencyKey = key) (isIn : ∀ target ∈ targets, target ∈ pending)
    (covers : ∀ target ∈ pending, target.grantId ∈ grantIdsOf targets ∨ target.Out) :
    ∃ middle after later accountedNow,
      Advances command (2 * targets.length) store (.retiringKeys request second targets) middle
        (.retiringKeys request second []) ∧ middle.finalizeTargets key = some after ∧
      Retiring owner key owned after later accountedNow [] ∧ later.complete = job.complete ∧
      grantIdsOf accountedNow = grantIdsOf accounted ++ grantIdsOf pending := by
  have read := ReadOf.own (retiring.ledger.distinct (retiring.ascending sound)) isIn
  obtain ⟨middle, mark, advances, raises, marked, out⟩ := retiring.round command isKey read
  have allOut : ∀ target ∈ pending.map mark, target.Out := by
    intro target isMarked
    obtain ⟨old, wasIn, rfl⟩ := List.mem_map.mp isMarked
    exact out old wasIn (covers old wasIn)
  obtain ⟨after, later, accountedNow, done, now, same, names⟩ := marked.finish allOut
  refine ⟨middle, after, later, accountedNow, advances, done, now, same, ?_⟩
  rw [names, raises.names, raises.names]

theorem Retiring.serve (request : RetireRequest)
    (retiring : Retiring owner key owned store job accounted pending)
    (sound : store.Sound) (isPending : job.complete = false) (isKey : request.idempotencyKey = key)
    (isOwner : request.owner = owner) (cursor : request.cursor = job.cursorToken)
    (covers : Covers pending request) :
    ∃ count after later accountedNow, count ≤ 4 * owned.length + 6 ∧
      Advances (.revokeGrantsByPluginOwner request) count store .starting after
        (.ended (.receipt later.receipt)) ∧ Retiring owner key owned after later accountedNow [] ∧
      (later.complete = true ∨ accounted.length < accountedNow.length) := by
  have started : ToolGrants.perform store (.revokeGrantsByPluginOwner request) .starting =
      some (store, .retiringKeys request false (pending.take request.limit)) := by
    have start := retiring.startRetire isKey isOwner
    rw [if_neg fun stale => stale.2 cursor, if_neg (by
      rw [isPending]
      rintro (complete | ⟨missing, present⟩)
      · exact nomatch complete
      · exact present (cursor ▸ missing))] at start
    exact start
  have covered : ∀ target ∈ pending,
      target.grantId ∈ grantIdsOf (pending.take request.limit) ∨ target.Out := by
    intro target isIn
    rw [← List.take_append_drop request.limit pending] at isIn
    rcases List.mem_append.mp isIn with isTaken | isLeft
    · exact .inl (List.mem_map_of_mem isTaken)
    · exact .inr (covers target isLeft)
  obtain ⟨middle, cleared, clearedJob, clearedAccounted, first, finished, now, same, names⟩ :=
    retiring.roundUp (.revokeGrantsByPluginOwner request) false sound isKey
      (fun _ isTaken => List.mem_of_mem_take isTaken) covered
  have clearedPending : clearedJob.complete = false := same.trans isPending
  have toStaging : ToolGrants.perform middle (.revokeGrantsByPluginOwner request)
      (.retiringKeys request false []) = some (cleared, .staging request) := by
    change finishRound middle request false = _
    unfold finishRound
    rw [isKey, finished]
    rfl
  have toHere := (Advances.single started).trans (first.trans (.single toStaging))
  have soundCleared := toHere.sound sound
  have sizes := retiring.ledger.lengths
  have taken : (pending.take request.limit).length ≤ pending.length := List.length_take_le' _ _
  have atLeast : accounted.length ≤ clearedAccounted.length := by
    have length := congrArg List.length names
    simp only [List.length_append, grantIdsOf, List.length_map] at length
    omega
  obtain ⟨later, behind⟩ := now.ledger.later
  rcases now.stageNext soundCleared clearedPending isKey isOwner behind with
    ⟨after, last, staged, complete, isComplete⟩ | ⟨more, after, fresh, staged, staging, freshNames⟩
  · have announced : ToolGrants.perform after (.revokeGrantsByPluginOwner request)
        (.announcing false (.receipt last.receipt)) = some
          (after, .ended (.receipt last.receipt)) :=
      rfl
    have atStaging : ToolGrants.perform cleared (.revokeGrantsByPluginOwner request)
        (.staging request) = some (after, .announcing false (.receipt last.receipt)) := staged
    have whole := toHere.trans ((Advances.single atStaging).trans (.single announced))
    exact ⟨_, after, last, clearedAccounted, by omega, whole, complete, .inl isComplete⟩
  · have atStaging : ToolGrants.perform cleared (.revokeGrantsByPluginOwner request)
        (.staging request) = some (after, .retiringKeys request true fresh) := staged
    have soundAfter := (toHere.trans (.single atStaging)).sound sound
    obtain ⟨middle, final, finalJob, finalAccounted, second, finishedAgain, nowAgain, _,
      finalNames⟩ :=
      staging.roundUp (.revokeGrantsByPluginOwner request) true soundAfter isKey
        (fun _ isIn => isIn)
        (fun _ isIn => .inl (List.mem_map_of_mem isIn))
    have toEnd : ToolGrants.perform middle (.revokeGrantsByPluginOwner request)
        (.retiringKeys request true []) = some (final, .ended (.receipt finalJob.receipt)) := by
      change finishRound middle request true = _
      unfold finishRound
      rw [isKey, finishedAgain, Option.bind_some, if_pos rfl, nowAgain.present]
      rfl
    have whole := toHere.trans ((Advances.single atStaging).trans (second.trans (.single toEnd)))
    have freshSizes := staging.ledger.lengths
    refine ⟨_, final, finalJob, finalAccounted, ?_, whole, nowAgain, .inr ?_⟩
    · omega
    · have freshLength := congrArg List.length freshNames
      have length := congrArg List.length finalNames
      have positive : request.limit ≠ 0 := by
        unfold RetireRequest.limit
        split <;> omega
      have moreLength : later.length ≠ 0 := fun none => more (List.length_eq_zero_iff.mp none)
      simp only [List.length_append, grantIdsOf, List.length_map,
        List.length_take] at length freshLength
      omega

def serve (world : GrantWorld) (request : RetireRequest) (steps : Nat) : GrantWorld :=
  runAll step (step world (.call (.revokeGrantsByPluginOwner request)))
    (List.replicate steps (.proceed world.agents.length .ok))

def answerAt (world : GrantWorld) (index : Nat) : Option Receipt :=
  (world.agents[index]?).bind fun call =>
    match call.point with
    | .ended (.receipt receipt) => some receipt
    | _ => none

/-- Calls of these batch sizes, each given the cursor of the previous answer, up to the one that
answers complete. -/
def furtherCalls (steps : Nat) (request : RetireRequest) :
    GrantWorld → Option GrantId → List Int → Option Receipt
  | _, _, [] => none
  | world, cursor, batchSize :: rest =>
    let served := serve world { request with cursor := cursor, batchSize := batchSize } steps
    (answerAt served world.agents.length).bind fun receipt =>
      if receipt.complete then some receipt
      else furtherCalls steps request served receipt.cursor rest

theorem serve_eq
    (advances : Advances (.revokeGrantsByPluginOwner request) count world.shared .starting after
      (.ended (.receipt receipt))) (enough : count ≤ steps) :
    (serve world request steps).shared = after ∧
      answerAt (serve world request steps) world.agents.length = some receipt := by
  have isCall : (step world (.call (.revokeGrantsByPluginOwner request))).agents[
      world.agents.length]? = some ⟨.revokeGrantsByPluginOwner request, .starting⟩ := by
    exact List.getElem?_concat_length
  have advanced : Advances (.revokeGrantsByPluginOwner request) steps
      (step world (.call (.revokeGrantsByPluginOwner request))).shared .starting after
      (.ended (.receipt receipt)) := advances.extend enough
  unfold serve answerAt
  rw [advanced.run isCall]
  refine ⟨rfl, ?_⟩
  rw [World.getElem?_update isCall, if_pos rfl]
  rfl

theorem furtherCalls_complete
    (answer : answerAt (serve world { request with cursor := cursor, batchSize := batchSize } steps)
      world.agents.length = some job.receipt) (complete : job.complete = true) :
    furtherCalls steps request world cursor (batchSize :: rest) = some job.receipt := by
  unfold furtherCalls
  dsimp only
  rw [answer, Option.bind_some]
  exact if_pos complete

theorem furtherCalls_pending
    (answer : answerAt (serve world { request with cursor := cursor, batchSize := batchSize } steps)
      world.agents.length = some job.receipt) (isPending : job.complete = false) :
    furtherCalls steps request world cursor (batchSize :: rest) = furtherCalls steps request
        (serve world { request with cursor := cursor, batchSize := batchSize } steps)
        job.cursorToken rest := by
  have cursorNow : job.receipt.cursor = job.cursorToken := by
    unfold Job.receipt
    rw [isPending]
    rfl
  rw [furtherCalls]
  rw [answer, Option.bind_some, cursorNow]
  refine if_neg fun complete => ?_
  exact nomatch isPending.symm.trans complete

theorem furtherCalls_clear (enough : 4 * owned.length + 6 ≤ steps)
    (isKey : request.idempotencyKey = key) (isOwner : request.owner = owner) (batches : List Int)
    (retiring : Retiring owner key owned world.shared job accounted []) (sound : world.shared.Sound)
    (isPending : job.complete = false) (many : owned.length - accounted.length < batches.length) :
    ∃ receipt, furtherCalls steps request world job.cursorToken batches = some receipt ∧
      receipt.complete = true := by
  induction batches generalizing world job accounted with
  | nil => exact absurd many (Nat.not_lt_zero _)
  | cons batchSize rest induction =>
    obtain ⟨count, after, later, accountedNow, bound, advances, now, progress⟩ :=
      retiring.serve { request with cursor := job.cursorToken, batchSize := batchSize }
        sound isPending isKey isOwner rfl (fun _ isIn => nomatch List.mem_of_mem_drop isIn)
    obtain ⟨shared, answer⟩ := serve_eq advances (bound.trans enough)
    have soundAfter := advances.sound sound
    cases complete : later.complete with
    | true => exact ⟨later.receipt, furtherCalls_complete answer complete, complete⟩
    | false =>
      rw [furtherCalls_pending answer complete]
      rw [← shared] at now soundAfter
      have longer := progress.resolve_left (by rw [complete]; exact Bool.false_ne_true)
      have within := now.ledger.lengths
      rw [List.length_cons] at many
      exact induction now soundAfter complete (by omega)

/-- The cursor is the job's or is left out, and the first batch that is used covers what is
pending. -/
def Suits (request : RetireRequest) (job : Job) (pending : List Target) (cursor : Option GrantId) :
    List Int → Prop
  | [] => True
  | first :: rest =>
    if cursor = job.cursorToken then Covers pending { request with batchSize := first }
    else cursor = none ∧
      ∀ second ∈ rest.head?, Covers pending { request with batchSize := second }

variable (retiring : Retiring owner key owned world.shared job accounted pending)

include retiring in
theorem Retiring.firstCall (sound : world.shared.Sound) (isKey : request.idempotencyKey = key)
    (isOwner : request.owner = owner) (enough : 4 * owned.length + 6 ≤ steps)
    (isPending : job.complete = false) (current : cursor = job.cursorToken)
    (covers : Covers pending { request with batchSize := batchSize })
    (many : owned.length < rest.length) :
    ∃ receipt, furtherCalls steps request world cursor (batchSize :: rest) =
      some receipt ∧ receipt.complete = true := by
  obtain ⟨count, after, later, accountedNow, bound, advances, now, _⟩ :=
    retiring.serve { request with cursor := cursor, batchSize := batchSize }
      sound isPending isKey isOwner current covers
  obtain ⟨shared, answer⟩ := serve_eq advances (bound.trans enough)
  have soundAfter := advances.sound sound
  cases complete : later.complete with
  | true => exact ⟨later.receipt, furtherCalls_complete answer complete, complete⟩
  | false =>
    rw [furtherCalls_pending answer complete]
    rw [← shared] at now soundAfter
    exact furtherCalls_clear enough isKey isOwner rest now soundAfter complete (by omega)

theorem Retiring.answered (request : RetireRequest)
    (retiring : Retiring owner key owned store job accounted pending)
    (isKey : request.idempotencyKey = key) (isOwner : request.owner = owner)
    (current : request.cursor = none ∨ request.cursor = job.cursorToken)
    (known : job.complete = true ∨ (request.cursor = none ∧ job.cursorToken ≠ none)) :
    Advances (.revokeGrantsByPluginOwner request) 1 store .starting store
      (.ended (.receipt job.receipt)) := by
  have start := retiring.startRetire isKey isOwner
  rw [if_neg fun stale => current.elim stale.1 stale.2, if_pos known] at start
  exact .single start

include retiring in
theorem Retiring.furtherCalls (sound : world.shared.Sound) (isKey : request.idempotencyKey = key)
    (isOwner : request.owner = owner) (enough : 4 * owned.length + 6 ≤ steps)
    (many : owned.length + 2 < batches.length) (suits : Suits request job pending cursor batches) :
    ∃ receipt, furtherCalls steps request world cursor batches = some receipt ∧
      receipt.complete = true := by
  match batches with
  | [] => exact absurd many (Nat.not_lt_zero _)
  | [_] => exact absurd many (by rw [List.length_singleton]; omega)
  | first :: second :: rest =>
    rw [List.length_cons, List.length_cons] at many
    have current : cursor = none ∨ cursor = job.cursorToken := by
      by_cases same : cursor = job.cursorToken
      · exact .inr same
      · rw [Suits, if_neg same] at suits
        exact .inl suits.1
    cases complete : job.complete with
    | true =>
      obtain ⟨_, answer⟩ := serve_eq (retiring.answered
        { request with cursor := cursor, batchSize := first } isKey isOwner current
        (.inl complete)) (show 1 ≤ steps by omega)
      exact ⟨job.receipt, furtherCalls_complete answer complete, complete⟩
    | false =>
      by_cases same : cursor = job.cursorToken
      · rw [Suits, if_pos same] at suits
        exact retiring.firstCall sound isKey isOwner enough complete same suits
          (by rw [List.length_cons]; omega)
      · rw [Suits, if_neg same] at suits
        obtain ⟨missing, covers⟩ := suits
        have present : job.cursorToken ≠ none := fun none => same (missing.trans none.symm)
        obtain ⟨shared, answer⟩ := serve_eq (retiring.answered
          { request with cursor := cursor, batchSize := first } isKey isOwner
          (.inl missing) (.inr ⟨missing, present⟩)) (show 1 ≤ steps by omega)
        rw [furtherCalls_pending answer complete]
        rw [← shared] at retiring sound
        exact retiring.firstCall sound isKey isOwner enough complete rfl (covers second rfl)
          (by omega)

end LicoMesh.ToolGrants
