import LicoMesh.ToolGrants.OwnerSteps

namespace LicoMesh.ToolGrants

open Library

variable {index : Nat} {pluginId generation key : String} {owner : Owner} {store after : Store}
  {next : Point} {id : GrantId} {owned : List GrantId} {job : Job} {accounted pending : List Target}
  {call : Call} {world : GrantWorld} {event : Event}

def OneKey (owner : Owner) (key : String) : Event → Prop
  | .call (.revokeGrantsByPluginOwner request) =>
    request.owner = owner → request.idempotencyKey = key
  | _ => True

def Undisturbed (owner : Owner) (key : String) (world : GrantWorld) : Event → Prop
  | .proceed index _ => ∀ call ∈ world.agents[index]?, IsFirst owner key world.shared call →
      ∀ other ∈ world.agents, ∀ issue ∈ other.point.issueAhead,
        issue.id ∉ world.shared.ownedGrantIds owner
  | _ => True

structure Permitted (owner : Owner) (key : String) (world : GrantWorld) (event : Event) : Prop where
  oneKey : OneKey owner key event
  undisturbed : Undisturbed owner key world event

structure Told (owner : Owner) (key : String) (owned : List GrantId) (job : Job) (call : Call) :
    Prop where
  quiet : ∀ issue, call.point.issueAhead = some issue → issue.id ∉ owned
  answer : ∀ request receipt, call.command = .revokeGrantsByPluginOwner request →
    request.owner = owner → request.idempotencyKey = key → call.point.receipt = some receipt →
      receipt.complete = true → job.complete = true ∧ receipt = job.receipt

def Retired (owner : Owner) (key : String) (world : GrantWorld) : Prop :=
  ∃ owned job accounted pending, Retiring owner key owned world.shared job accounted pending ∧
    world.Holds fun _ _ call => Told owner key owned job call

structure Invariant (owner : Owner) (key : String) (world : GrantWorld) : Prop where
  sound : world.shared.Sound
  fits : world.Holds fun store _ call => Fits owner key store call
  phase : Waiting owner key world.shared ∨ Retired owner key world

variable (told : Told owner key owned job call)

include told in
theorem Told.later {later : Job}
    (same : job.complete = true → later = job) : Told owner key owned later call where
  quiet := told.quiet
  answer request receipt isCommand isOwner isKey isReceipt complete := by
    obtain ⟨isComplete, isAnswer⟩ :=
      told.answer request receipt isCommand isOwner isKey isReceipt complete
    rw [same isComplete]
    exact ⟨isComplete, isAnswer⟩

inductive Proceeds (store : Store) (call : Call) : Store × Call → Prop
  | stuck : Proceeds store call (store, { call with point := call.point.onFailure })
  | done {after : Store} {next : Point}
      (performed : perform store call.command call.point = some (after, next)) :
      Proceeds store call (after, { call with point := next })
  | cut {after : Store} {next : Point}
      (performed : perform store call.command call.point = some (after, next)) :
      Proceeds store call (after, { call with point := call.point.onFailure })

theorem proceeds (store : Store) (call : Call) (reply : Reply) :
    Proceeds store call (call.proceed store reply) := by
  unfold Call.proceed
  split
  · exact .stuck
  · next after next performed =>
      cases reply with
      | ok => exact .done performed
      | failed effect =>
        cases effect with
        | true => exact .cut performed
        | false => exact .stuck

theorem Call.request_onFailure (call : Call) :
    ({ call with point := call.point.onFailure } : Call).request = none := by
  obtain ⟨command, point⟩ := call
  cases point <;> rfl

theorem Fits.onFailure (fits : Fits owner key store call) :
    Fits owner key store { call with point := call.point.onFailure } where
  oneKey _ isRequest := nomatch (Call.request_onFailure call).symm.trans isRequest
  own _ isRequest := nomatch (Call.request_onFailure call).symm.trans isRequest
  opened _ isRequest := nomatch (onFailure_request call.point).symm.trans isRequest
  told request receipt isCommand isReceipt :=
    fits.told request receipt isCommand (onFailure_receipt isReceipt)

include told in
theorem Told.onFailure : Told owner key owned job { call with point := call.point.onFailure } where
  quiet _ isIssue := nomatch (onFailure_issueAhead call.point).symm.trans isIssue
  answer request receipt isCommand isOwner isKey isReceipt :=
    told.answer request receipt isCommand isOwner isKey (onFailure_receipt isReceipt)

theorem Call.request_of_point {request : RetireRequest} (moved : next ≠ .starting)
    (isRequest : ({ call with point := next } : Call).request = some request) :
    next.request = some request := by
  cases next with
  | starting => exact absurd rfl moved
  | _ => exact isRequest

theorem Fits.moves (fits : Fits owner key store call) (carries : Carries store after call next)
    (jobs : JobsStay store after) : Fits owner key after { call with point := next } where
  oneKey request isRequest isOwner :=
    fits.oneKey request
      (carries.request request (Call.request_of_point carries.moved isRequest)).1 isOwner
  own request isRequest :=
    fits.own request (carries.request request (Call.request_of_point carries.moved isRequest)).1
  opened request isRequest := (carries.request request isRequest).2
  told request receipt isCommand isReceipt := by
    rcases carries.receipt receipt isReceipt with was | ⟨other, job, isOther, present, same, _⟩
    · obtain ⟨job, present, same⟩ := fits.told request receipt isCommand was
      obtain ⟨later, presentLater, sameLater⟩ := jobs _ job present
      exact ⟨later, presentLater, sameLater.trans same⟩
    · have isSame := isCommand.symm.trans (fits.own other isOther)
      cases isSame
      exact ⟨job, present, same⟩

include told in
theorem Told.moves (sound : store.Sound) (fits : Fits owner key store call)
    (carries : Carries store after call next)
    (retiring : Retiring owner key owned store job accounted pending) {later : Job}
    (presentLater : after.job key = some later) (same : job.complete = true → later = job) :
    Told owner key owned later { call with point := next } where
  quiet issue isIssue := by
    intro isOwned
    have isIn : issue.id ∈ store.ownedGrantIds owner := retiring.isOwned ▸ isOwned
    rcases carries.issue issue isIssue with ahead | absent | active
    · exact told.quiet issue ahead isOwned
    · have present := (sound.known issue.id).mp (mem_ownedGrantIds.mp isIn).1
      rw [absent] at present
      exact nomatch present
    · exact grantOwnersActive_not_mem active retiring.inactive (mem_ownedGrantIds.mp isIn).2
  answer request receipt isCommand isOwner isKey isReceipt complete := by
    rcases carries.receipt receipt isReceipt with was | ⟨other, found, isOther, present, _, rfl⟩
    · exact (told.later same).answer request receipt isCommand isOwner isKey was complete
    · have isSame := isCommand.symm.trans (fits.own other isOther)
      cases isSame
      rw [isKey, presentLater] at present
      cases present
      exact ⟨complete, rfl⟩

theorem Retired.advance (sound : world.shared.Sound)
    (fits : world.Holds fun store _ call => Fits owner key store call)
    (retired : Retired owner key world) (isCall : world.agents[index]? = some call)
    (performed : perform world.shared call.command call.point = some (after, next)) :
    Retired owner key (world.update index after { call with point := next }) ∧
      Retired owner key (world.update index after { call with point := call.point.onFailure }) := by
  obtain ⟨owned, job, accounted, pending, retiring, told⟩ := retired
  have own := told index call isCall
  have fit := fits index call isCall
  have touches := perform_touches (fun id => (sound.known id).mpr) performed
  have carries := perform_carries fit performed touches.jobs
  obtain ⟨later, accountedNow, pendingNow, now, same⟩ :=
    retiring.perform sound fit own.quiet performed
  have heldLater : world.Holds fun _ _ call => Told owner key owned later call :=
    fun other found isFound => (told other found isFound).later same
  exact ⟨⟨owned, later, accountedNow, pendingNow, now, heldLater.update isCall
      (own.moves sound fit carries retiring now.present same) fun _ _ _ _ was => was⟩,
    ⟨owned, later, accountedNow, pendingNow, now, heldLater.update isCall
      (own.later same).onFailure fun _ _ _ _ was => was⟩⟩

theorem Retired.opened (fits : world.Holds fun store _ call => Fits owner key store call)
    (isCall : world.agents[index]? = some call) (isFirst : IsFirst owner key world.shared call)
    (quiet : ∀ other ∈ world.agents, ∀ issue, other.point.issueAhead = some issue →
      issue.id ∉ world.shared.ownedGrantIds owner)
    (performed : perform world.shared call.command call.point = some (after, next))
    (retiring : Retiring owner key (world.shared.ownedGrantIds owner) after job [] []) :
    Retired owner key (world.update index after { call with point := next }) ∧
      Retired owner key (world.update index after { call with point := call.point.onFailure }) := by
  obtain ⟨isStart, absent, request, isRequest, isOwner, isKey⟩ := isFirst
  have isCommand := (fits index call isCall).own request isRequest
  obtain ⟨command, point⟩ := call
  subst isStart isCommand
  have held : world.Holds fun _ _ call =>
      Told owner key (world.shared.ownedGrantIds owner) job call := by
    intro other found isFound
    refine ⟨quiet found (List.mem_of_getElem? isFound), ?_⟩
    intro request receipt isCommand _ isKey isReceipt _
    obtain ⟨job, present, _⟩ := (fits other found isFound).told request receipt isCommand isReceipt
    rw [isKey, absent] at present
    exact nomatch present
  have told : Told owner key (world.shared.ownedGrantIds owner) job
      { command := .revokeGrantsByPluginOwner request, point := next } := by
    obtain ⟨_, found, present, begins⟩ := startRetire_some performed
    rw [isKey, retiring.present] at present
    cases present
    cases begins with
    | refused => exact ⟨(fun _ isIssue => nomatch isIssue),
        fun _ _ _ _ _ isReceipt => nomatch isReceipt⟩
    | answered =>
      refine ⟨(fun _ isIssue => nomatch isIssue), fun _ _ _ _ _ isReceipt complete => ?_⟩
      cases isReceipt
      exact ⟨complete, rfl⟩
    | goesOn => exact ⟨(fun _ isIssue => nomatch isIssue),
        fun _ _ _ _ _ isReceipt => nomatch isReceipt⟩
  exact ⟨⟨_, job, [], [], retiring, held.update isCall told fun _ _ _ _ was => was⟩,
    ⟨_, job, [], [], retiring, held.update isCall (held index _ isCall).onFailure
      fun _ _ _ _ was => was⟩⟩

theorem Waiting.advance (sound : world.shared.Sound)
    (fits : world.Holds fun store _ call => Fits owner key store call)
    (waiting : Waiting owner key world.shared) (isCall : world.agents[index]? = some call)
    (quiet : IsFirst owner key world.shared call → ∀ other ∈ world.agents,
      ∀ issue, other.point.issueAhead = some issue → issue.id ∉ world.shared.ownedGrantIds owner)
    (performed : ToolGrants.perform world.shared call.command call.point = some (after, next)) :
    (Waiting owner key after) ∨
      (Retired owner key (world.update index after { call with point := next }) ∧
        Retired owner key (world.update index after
          { call with point := call.point.onFailure })) := by
  rcases waiting.perform sound (fits index call isCall) performed with
    stillWaiting | ⟨isFirst, job, retiring⟩
  · exact .inl stillWaiting
  · exact .inr (Retired.opened fits isCall isFirst (quiet isFirst) performed retiring)

variable (invariant : Invariant owner key world)

include invariant in
theorem Invariant.proceed (permitted : Permitted owner key world (.proceed index reply)) :
    Invariant owner key (step world (.proceed index reply)) := by
  unfold step
  dsimp only
  cases isCall : world.agents[index]? with
  | none => exact invariant
  | some call =>
    dsimp only
    have fit := invariant.fits index call isCall
    have cases := proceeds world.shared call reply
    revert cases
    generalize call.proceed world.shared reply = result
    intro cases
    cases cases with
    | stuck =>
      refine ⟨invariant.sound,
        invariant.fits.update isCall fit.onFailure fun _ _ _ _ was => was, ?_⟩
      rcases invariant.phase with waiting | ⟨owned, job, accounted, pending, retiring, told⟩
      · exact .inl waiting
      · exact .inr ⟨owned, job, accounted, pending, retiring,
          told.update isCall (told index call isCall).onFailure fun _ _ _ _ was => was⟩
    | done performed =>
      have touches := perform_touches (fun id => (invariant.sound.known id).mpr) performed
      have carries := perform_carries fit performed touches.jobs
      refine ⟨perform_sound invariant.sound performed,
        invariant.fits.update isCall (fit.moves carries touches.jobs)
          fun _ _ _ _ was => was.stays touches.jobs, ?_⟩
      rcases invariant.phase with waiting | retired
      · rcases waiting.advance invariant.sound invariant.fits isCall
          (permitted.undisturbed call isCall) performed with still | retired
        · exact .inl still
        · exact .inr retired.1
      · exact .inr (retired.advance invariant.sound invariant.fits isCall performed).1
    | cut performed =>
      have touches := perform_touches (fun id => (invariant.sound.known id).mpr) performed
      refine ⟨perform_sound invariant.sound performed,
        invariant.fits.update isCall (fit.stays touches.jobs).onFailure
          fun _ _ _ _ was => was.stays touches.jobs, ?_⟩
      rcases invariant.phase with waiting | retired
      · rcases waiting.advance invariant.sound invariant.fits isCall
          (permitted.undisturbed call isCall) performed with still | retired
        · exact .inl still
        · exact .inr retired.2
      · exact .inr (retired.advance invariant.sound invariant.fits isCall performed).2

inductive Registers (store : Store) (pluginId generation : String) : Store → Prop
  | known (state : store.authorityState (.plugin pluginId generation) = some .active) :
      Registers store pluginId generation store
  | fresh (absent : store.authorityState (.plugin pluginId generation) = none) :
      Registers store pluginId generation { store with
        authorities := store.authorities ++ [⟨.plugin pluginId generation, .active⟩] }

theorem registerPluginGrantOwner_some
    (done : store.registerPluginGrantOwner pluginId generation = some after) :
    Registers store pluginId generation after := by
  unfold Store.registerPluginGrantOwner at done
  dsimp only at done
  split at done
  · next state => cases done; exact .known state
  · exact nomatch done
  · exact nomatch done
  · next absent =>
      split_ifs at done
      cases done
      exact .fresh absent

theorem Registers.authority (registers : Registers store pluginId generation after)
    (owner : Owner) : after.authorityState owner = store.authorityState owner ∨
      (store.authorityState owner = none ∧ after.authorityState owner = some .active) := by
  cases registers with
  | known => exact .inl rfl
  | fresh absent =>
    rw [authorityState_append absent]
    by_cases same : owner = .plugin pluginId generation
    · rw [if_pos same]
      exact .inr ⟨same ▸ absent, rfl⟩
    · rw [if_neg same]
      exact .inl rfl

theorem Retiring.registers (retiring : Retiring owner key owned store job accounted pending)
    (registers : Registers store pluginId generation after) :
    Retiring owner key owned after job accounted pending := by
  have authority : after.authorityState owner = store.authorityState owner := by
    rcases registers.authority owner with same | ⟨absent, _⟩
    · exact same
    · cases complete : job.complete with
      | false => exact nomatch absent.symm.trans (retiring.retiring complete)
      | true => exact nomatch absent.symm.trans (retiring.retired complete)
  have keeps : Keeps owner key store after := by
    cases registers with
    | known => exact .refl store
    | fresh =>
      exact ⟨rfl, authority, rfl, rfl, fun _ _ was => was, fun _ _ was => was, fun _ _ was => was⟩
  exact retiring.keeps keeps

include invariant

theorem Invariant.register (pluginId generation : String) :
    Invariant owner key (step world (.registerPluginGrantOwner pluginId generation)) := by
  unfold step
  dsimp only
  cases done : world.shared.registerPluginGrantOwner pluginId generation with
  | none => exact invariant
  | some after =>
    have registers := registerPluginGrantOwner_some done
    have jobs : JobsStay world.shared after := by
      cases registers <;> exact .of_eq rfl
    have sound : after.Sound := by
      cases registers with
      | known => exact invariant.sound
      | fresh => exact invariant.sound.elsewhere rfl rfl rfl rfl rfl
    refine ⟨sound, invariant.fits.interfere fun _ _ _ was => was.stays jobs, ?_⟩
    rcases invariant.phase with waiting | ⟨owned, job, accounted, pending, retiring, told⟩
    · refine .inl ⟨fun job present => ?_, ?_⟩
      · refine waiting.job job ?_
        cases registers <;> exact present
      · rcases registers.authority owner with same | ⟨_, active⟩
        · rw [same]
          exact waiting.authority
        · exact .inr active
    · exact .inr ⟨owned, job, accounted, pending, retiring.registers registers, told⟩

theorem Invariant.wait (duration : Nat) : Invariant owner key (step world (.wait duration)) := by
  refine ⟨invariant.sound.elsewhere rfl rfl rfl rfl rfl,
    invariant.fits.interfere fun _ _ _ was => was.stays (.of_eq rfl), ?_⟩
  rcases invariant.phase with waiting | ⟨owned, job, accounted, pending, retiring, told⟩
  · exact .inl ⟨waiting.job, waiting.authority⟩
  · exact .inr ⟨owned, job, accounted, pending,
      retiring.keeps (.credentials _ rfl (fun _ _ was => was) fun _ _ was => was), told⟩

theorem Invariant.crash : Invariant owner key (step world .crash) := by
  refine ⟨invariant.sound, (fun _ _ isCall => nomatch isCall), ?_⟩
  rcases invariant.phase with waiting | ⟨owned, job, accounted, pending, retiring, _⟩
  · exact .inl waiting
  · exact .inr ⟨owned, job, accounted, pending, retiring, fun _ _ isCall => nomatch isCall⟩

theorem Invariant.spawn (permitted : Permitted owner key world (.call command)) :
    Invariant owner key (step world (.call command)) := by
  have request : ∀ request, (⟨command, .starting⟩ : Call).request = some request →
      command = .revokeGrantsByPluginOwner request := by
    intro request isRequest
    cases command with
    | revokeGrantsByPluginOwner => cases isRequest; rfl
    | _ => exact nomatch isRequest
  refine ⟨invariant.sound, invariant.fits.spawn ⟨fun read isRequest isOwner => ?_, request,
    (fun _ isRequest => nomatch isRequest), fun _ _ _ isReceipt => nomatch isReceipt⟩, ?_⟩
  · have oneKey := permitted.oneKey
    rw [request read isRequest] at oneKey
    exact oneKey isOwner
  · rcases invariant.phase with waiting | ⟨owned, job, accounted, pending, retiring, told⟩
    · exact .inl waiting
    · exact .inr ⟨owned, job, accounted, pending, retiring, told.spawn
        ⟨(fun _ isIssue => nomatch isIssue), fun _ _ _ _ _ isReceipt => nomatch isReceipt⟩⟩

theorem Invariant.step
    (permitted : Permitted owner key world event) : Invariant owner key (step world event) := by
  cases event with
  | call => exact invariant.spawn permitted
  | proceed => exact invariant.proceed permitted
  | registerPluginGrantOwner pluginId generation => exact invariant.register pluginId generation
  | wait duration => exact invariant.wait duration
  | crash => exact invariant.crash

omit invariant

theorem invariant_initial (isPlugin : owner ≠ .core "core-platform") :
    Invariant owner key ⟨{}, []⟩ where
  sound := Store.sound_empty
  fits _ _ isCall := nomatch isCall
  phase := by
    refine .inl ⟨(fun _ present => nomatch present), .inl ?_⟩
    unfold Store.authorityState
    simp [isPlugin.symm]

theorem run_invariant (isPlugin : owner ≠ .core "core-platform")
    (permitted : EachCommand step (Permitted owner key) ⟨{}, []⟩ events) :
    Invariant owner key (run events) :=
  runAll_preserves (fun _ _ permitted invariant => invariant.step permitted) permitted
    (invariant_initial isPlugin)

end LicoMesh.ToolGrants
