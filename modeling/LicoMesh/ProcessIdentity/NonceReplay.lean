import LicoMesh.ProcessIdentity.LoadedStates

namespace LicoMesh.ProcessIdentity

open Library WorkQueue

variable {request : SignedRequest} {config : Config} {body : Instant → State → Body}
  {signed : SignedHeaders} {usedNonces : List UsedNonce} {loaded : SealedRecord}

namespace State

variable {env : ServiceEnv} {state saved : State} {ranAt : Instant} {rollsBack : Bool}
  {decision : Decision}

def ClaimedFirst (state : State) : Prop := state.claimed = false → state.clients = []

def Remembers (nonceHash : Sha256Digest) (expiry : Instant) (state : State) : Prop :=
  state.claimed = true ∧
    ∃ entry ∈ state.usedNonces, entry.nonceHash = nonceHash ∧ entry.expiresAt = expiry

theorem claimed_of_change (change : Change env ranAt state saved rollsBack decision)
    (claimed : state.claimed = true) : saved.claimed = true := by
  cases change with
  | claimed => rfl
  | _ => exact claimed

theorem claimed_of_rollback (change : Change env ranAt state saved true decision) :
    saved.claimed = state.claimed := by
  cases change <;> rfl

theorem ClaimedFirst.change (first : state.ClaimedFirst)
    (change : Change env ranAt state saved rollsBack decision) : saved.ClaimedFirst := by
  intro unclaimed
  cases change with
  | claimed => simp [State.claim] at unclaimed
  | packageRotated active =>
    have absent : state.clients = [] := first unclaimed
    simp [absent] at active
  | packageRevoked =>
    have absent : state.clients = [] := first unclaimed
    simp [State.revokePackage, absent]
  | _ => exact first unclaimed

theorem ClaimedFirst.normalizeState (first : state.ClaimedFirst) :
    (normalizeState state).ClaimedFirst := by
  intro unclaimed
  have absent : state.clients = [] := first unclaimed
  simp [ProcessIdentity.normalizeState, absent]

theorem Remembers.normalizeState (remembers : state.Remembers nonceHash expiry) :
    (normalizeState state).Remembers nonceHash expiry := remembers

end State

theorem recordNonce_recorded (recorded : recordNonce env signed now state = .recorded usedNonces) :
    (∀ entry ∈ state.usedNonces, now < entry.expiresAt →
      entry.nonceHash ≠ signed.nonceHash env ∧ entry ∈ usedNonces) ∧
    ∃ entry ∈ usedNonces, entry.nonceHash = signed.nonceHash env ∧
      entry.expiresAt = nonceExpiry env now (signed.timestampMs env) := by
  unfold recordNonce at recorded
  dsimp only at recorded
  split at recorded
  · cases recorded
  rename_i unused
  split at recorded
  · cases recorded
  split at recorded
  · cases recorded
  · cases recorded
    refine ⟨?_, _, List.mem_append_right _ (List.mem_singleton_self _), rfl, rfl⟩
    intro entry member live
    have fresh : entry ∈ state.usedNonces.filter (now < ·.expiresAt) :=
      List.mem_filter.mpr ⟨member, by simpa using live⟩
    refine ⟨?_, List.mem_append_left _ fresh⟩
    intro same
    exact unused (List.any_eq_true.mpr ⟨entry, fresh, by simpa using same⟩)

theorem State.Remembers.change (remembers : state.Remembers nonceHash expiry)
    (live : ranAt < expiry) (change : Change env ranAt state saved rollsBack decision) :
    saved.Remembers nonceHash expiry := by
  refine ⟨claimed_of_change change remembers.1, ?_⟩
  obtain ⟨claimed, entry, member, hash, expires⟩ := remembers
  cases change with
  | claimed unclaimed => simp [claimed] at unclaimed
  | nonceRecorded recorded =>
    exact ⟨entry, ((recordNonce_recorded recorded).1 entry member (expires ▸ live)).2, hash,
      expires⟩
  | _ => exact ⟨entry, member, hash, expires⟩

def Decision.accepted (decision : Decision) : Bool := decision.ok && decision.applicable = some true

@[simp] theorem accepted_deny (status : Nat) (reasonCode error : String) :
    (deny status reasonCode error).accepted = false := rfl

def Reading.Accepts (env : ServiceEnv) (signed : SignedHeaders) : Reading → Prop
  | .returns decision => decision.accepted = false
  | .throws => True
  | .awaits resume => ∀ reply, (resume reply).Accepts env signed
  | .mutates body => ∃ client, body = acceptSignedRequest env client signed

theorem awaitCapability_accepts (accepts : accepted.Accepts env signed)
    (requireBinding : Bool) (capability binding : String) :
    (awaitCapability requireBinding capability binding accepted).Accepts env signed := by
  intro reply
  cases reply with
  | threw => exact .intro
  | answered ok applicable value reasonCode =>
    by_cases denied : ok = false
    · simp [denied, Reading.Accepts]
    · simp only [denied, Bool.not_eq_true']
      intro reply
      cases reply with
      | threw => exact .intro
      | answered ok applicable value reasonCode =>
        dsimp only
        split
        · exact accepted_deny ..
        · exact accepts

theorem checkFingerprint_error (mismatch : checkFingerprint env headers expected = .error denial) :
    denial.accepted = false := by
  unfold checkFingerprint at mismatch
  repeat' split at mismatch
  all_goals cases mismatch
  all_goals rfl

theorem verifySignedRequest_cases (env : ServiceEnv) (request : SignedRequest) (now : Instant)
    (state : State) : (∃ decision, verifySignedRequest env request now state = .returns decision ∧
      decision.accepted = false) ∨ state.clients ≠ [] ∧
      (verifySignedRequest env request now state).Accepts env request.signedHeaders := by
  unfold verifySignedRequest verifySignedHeaders
  split
  · exact .inl ⟨_, rfl, rfl⟩
  split
  · exact .inl ⟨_, rfl, rfl⟩
  split
  · exact .inl ⟨_, rfl, rfl⟩
  split
  · exact .inl ⟨_, rfl, rfl⟩
  split
  · exact .inl ⟨_, rfl, rfl⟩
  · rename_i client active
    refine .inr ⟨List.ne_nil_of_mem (List.mem_of_find?_eq_some active), ?_⟩
    split
    · rename_i denial mismatch
      exact checkFingerprint_error mismatch
    · split
      · exact accepted_deny ..
      · have accepts : (Reading.mutates
            (acceptSignedRequest env client request.signedHeaders)).Accepts env
            request.signedHeaders := ⟨client, rfl⟩
        exact awaitCapability_accepts accepts _ _ _

theorem acceptSignedRequest_cases (env : ServiceEnv) (client : ClientRecord)
    (signed : SignedHeaders) (now : Instant) (state : State) :
    (∃ decision, acceptSignedRequest env client signed now state = .returns decision ∧
      decision.accepted = false) ∨ acceptSignedRequest env client signed now state = .throws ∨
    ∃ usedNonces decision, recordNonce env signed now state = .recorded usedNonces ∧
      acceptSignedRequest env client signed now state =
        .saves { state with usedNonces := usedNonces } false decision := by
  unfold acceptSignedRequest
  cases recorded : recordNonce env signed now state with
  | replay => exact .inl ⟨_, rfl, rfl⟩
  | capacityExhausted => exact .inl ⟨_, rfl, rfl⟩
  | unrepresentable => exact .inr (.inl rfl)
  | recorded usedNonces => exact .inr (.inr ⟨usedNonces, _, rfl, rfl⟩)

namespace Config

variable {env : ServiceEnv} {config next : Config} {event : Event} {id : CallId}

theorem now_runBody (loaded : SealedRecord) (body : Body) :
    (config.runBody id loaded body).now = config.now := by
  cases body <;> rfl

theorem now_runReading (reading : Reading) : (config.runReading id reading).now = config.now := by
  cases reading <;> rfl

theorem now_write (outcome : WriteOutcome) (record : SealedRecord) (keyStored : Bool) :
    (config.write outcome record keyStored).now = config.now := by
  unfold write
  repeat' split
  all_goals rfl

theorem now_le_of_step (taken : step env config event = some next) : config.now ≤ next.now := by
  cases event with
  | tick elapsed =>
    cases taken
    exact Int.le_add_of_nonneg_right (Int.natCast_nonneg elapsed)
  | call id operation =>
    simp only [step] at taken
    split at taken
    · cases taken
    · cases taken
      cases operation.program env <;> exact le_refl _
  | store id outcome =>
    simp only [step] at taken
    repeat' split at taken
    all_goals cases taken
    all_goals exact (now_write ..).ge
  | run id =>
    simp only [step] at taken
    split at taken
    all_goals cases taken
    · exact (now_runBody ..).ge
    · exact (now_runReading _).ge
  | resume id reply =>
    simp only [step] at taken
    split at taken
    all_goals cases taken
    · exact (now_runBody ..).ge
    · exact (now_runReading _).ge
  | _ =>
    simp only [step] at taken
    repeat' split at taken
    all_goals cases taken
    all_goals exact le_refl _

theorem phase_runBody_ne (different : other ≠ id) (loaded : SealedRecord)
    (body : Body) : (config.runBody id loaded body).phase other = config.phase other := by
  simp only [Config.phase, calls_runBody]
  exact phase_setPhase_ne different _

theorem phase_runReading_ne (different : other ≠ id) (reading : Reading) :
    (config.runReading id reading).phase other = config.phase other := by
  simp only [Config.phase, calls_runReading]
  exact phase_setPhase_ne different _

theorem ran_of_step (taken : step env config event = some next)
    (found : config.phase id = some (.ready (.mutates body)))
    (moved : next.phase id ≠ some (.ready (.mutates body))) : event = .run id := by
  rw [← found] at moved
  cases event with
  | tick elapsed =>
    cases taken
    exact absurd rfl moved
  | call other operation =>
    simp only [step] at taken
    split at taken
    · cases taken
    · rename_i absent
      cases taken
      have different : id ≠ other := by
        intro same
        subst same
        simp [Config.phase, absent] at found
      exact absurd (phase_openCall_ne different operation _) moved
  | run other =>
    by_cases same : other = id
    · rw [same]
    · simp only [step] at taken
      split at taken
      all_goals cases taken
      · rw [phase_runBody_ne (Ne.symm same), phase_markRun] at moved
        exact absurd rfl moved
      · rw [phase_runReading_ne (Ne.symm same)] at moved
        exact absurd rfl moved
  | resume other reply =>
    have different : id ≠ other := by
      intro same
      subst same
      simp [step, found] at taken
    simp only [step] at taken
    split at taken
    all_goals cases taken
    · exact absurd (phase_runBody_ne different _ _) moved
    · exact absurd (phase_runReading_ne different _) moved
  | store other outcome =>
    have different : id ≠ other := by
      intro same
      subst same
      simp [step, found] at taken
    simp only [step] at taken
    repeat' split at taken
    all_goals cases taken
    all_goals refine absurd ((phase_setPhase_ne different _).trans (phase_write ..)) moved
  | start other | readKey other | readState other | readFails other
    | assign other freshKey freshIdentity =>
      have different : id ≠ other := by
        intro same
        subst same
        simp [step, found] at taken
      simp only [step] at taken
      repeat' split at taken
      all_goals cases taken
      all_goals exact absurd (phase_setPhase_ne different _) moved

abbrev Claimed (config : Config) : Prop := config.Within fun state => state.claimed = true

def Recalls (env : ServiceEnv) (config : Config) (signed : SignedHeaders) (ranAt : Instant) :
    Prop :=
  nonceExpiry env ranAt (signed.timestampMs env) ≤ config.now ∨
    config.Within (State.Remembers (signed.nonceHash env)
      (nonceExpiry env ranAt (signed.timestampMs env)))

variable (serial : config.Serial env)
include serial

section

variable (keeps : config.KeepsLoaded event)
  (taken : ProcessIdentity.step env config event = some next)
include keeps taken

theorem Serial.claimed_step (claimed : config.Claimed) : next.Claimed := by
  obtain ⟨loaded, held, claimedLoaded⟩ := claimed.memory
  refine (serial.advances held keeps taken).within held claimed ?_
  intro after _ succeeds
  obtain ⟨saved, rollsBack, decision, change, same⟩ := succeeds
  have claimedSaved : saved.claimed = true := State.claimed_of_change change claimedLoaded
  rw [same]
  exact claimedSaved

theorem Serial.recalls_step
    (recalls : config.Recalls env signed ranAt) : next.Recalls env signed ranAt := by
  have later := now_le_of_step taken
  obtain expired | within := recalls
  · exact .inl (expired.trans later)
  by_cases live : config.now < nonceExpiry env ranAt (signed.timestampMs env)
  · obtain ⟨loaded, held, remembers⟩ := within.memory
    refine .inr ((serial.advances held keeps taken).within held within ?_)
    intro after _ succeeds
    obtain ⟨saved, rollsBack, decision, change, same⟩ := succeeds
    rw [same]
    exact (remembers.change live change).normalizeState
  · exact .inl ((Int.not_lt.mp live).trans later)

end

theorem Serial.claimed_of_clients (held : config.memory = some loaded)
    (claimed : loaded.state.claimed = true) : config.Claimed := by
  refine ⟨⟨loaded, held, claimed⟩, ?_⟩
  intro id record keyStored before decision found
  obtain ⟨⟨current, held', same⟩, ranAt, earlier, saved, rollsBack, change, stored, rolledBack⟩ :=
    serial.sound id _ found
  obtain rfl : loaded = current := by simpa [held] using held'
  cases rollsBack with
  | false => simp at rolledBack
  | true =>
    obtain rfl : before = earlier := by simpa using rolledBack
    rw [← State.claimed_of_rollback change]
    rw [same, stored] at claimed
    exact claimed

end Config

/-- A call that has passed the nonce check, or returned that it did. -/
def Phase.accepted : Phase → Bool
  | .saving _ _ _ _ => true
  | .returned decision => decision.accepted
  | _ => false

def Entry.Verifies (env : ServiceEnv) (request : SignedRequest) (config : Config) : Entry → Prop
  | .reads reading => reading = verifySignedRequest env request
  | .mutates body =>
    config.Claimed ∧ ∃ client, body = acceptSignedRequest env client request.signedHeaders

theorem Entry.Verifies.later {entry : Entry} (claimed : config.Claimed → next.Claimed)
    (verifies : entry.Verifies env request config) : entry.Verifies env request next := by
  cases entry with
  | reads reading => exact verifies
  | mutates body => exact ⟨claimed verifies.1, verifies.2⟩

/-- What the phase of a `verifySignedRequest` call promises. -/
def Phase.Verifies (env : ServiceEnv) (request : SignedRequest) (config : Config)
    (ranAt : Option Instant) (phase : Phase) : Prop :=
  match phase with
  | .waiting _ entry => entry.Verifies env request config
  | .reading _ _ entry => entry.Verifies env request config
  | .storing _ _ entry => entry.Verifies env request config
  | .ready entry => entry.Verifies env request config
  | .acting _ => False
  | .deciding resume =>
    config.Claimed ∧ ∀ reply, (resume reply).Accepts env request.signedHeaders
  | .saving _ _ _ _ => ∃ ran, ranAt = some ran ∧ config.Recalls env request.signedHeaders ran
  | .returned decision =>
    decision.accepted = true →
      ∃ ran, ranAt = some ran ∧ config.Recalls env request.signedHeaders ran
  | .threw => True

variable {phase : Phase}

theorem Phase.Verifies.recalls
    (verifies : phase.Verifies env request config ranAt) (accepted : phase.accepted = true) :
    ∃ ran, ranAt = some ran ∧ config.Recalls env request.signedHeaders ran := by
  cases phase with
  | saving => exact verifies
  | returned decision => exact verifies accepted
  | _ => cases accepted

theorem Phase.Verifies.later (claimed : config.Claimed → next.Claimed)
    (recalls : ∀ signed ran, config.Recalls env signed ran → next.Recalls env signed ran)
    (verifies : phase.Verifies env request config ranAt) :
    phase.Verifies env request next ranAt := by
  cases phase with
  | waiting blockers entry => exact Entry.Verifies.later claimed verifies
  | reading key sealed entry => exact Entry.Verifies.later claimed verifies
  | storing record keyStored entry => exact Entry.Verifies.later claimed verifies
  | ready entry => exact Entry.Verifies.later claimed verifies
  | acting resume => exact verifies
  | deciding resume => exact ⟨claimed verifies.1, verifies.2⟩
  | saving record keyStored rollback decision =>
    obtain ⟨ran, same, recalled⟩ := verifies
    exact ⟨ran, same, recalls _ _ recalled⟩
  | returned decision =>
    intro accepted
    obtain ⟨ran, same, recalled⟩ := verifies accepted
    exact ⟨ran, same, recalls _ _ recalled⟩
  | threw => exact .intro

variable {reading : Reading}

theorem Reading.Accepts.phase_accepted (accepts : reading.Accepts env signed)
    (queue : List CallId) : (reading.phase queue).accepted = false := by
  cases reading with
  | returns decision => exact accepts
  | _ => rfl

namespace Config

variable {env : ServiceEnv} {config next : Config} {event : Event} {id : CallId}

def Verifies (env : ServiceEnv) (config : Config) : Prop :=
  ∀ id call request, config.calls id = some call → call.operation = .verifySignedRequest request →
    call.phase.Verifies env request config call.ranAt

theorem verifies_reading
    (claimed : next.Claimed) (accepts : reading.Accepts env request.signedHeaders) :
    (reading.phase queue).Verifies env request next ranAt := by
  cases reading with
  | returns decision =>
    intro accepted
    rw [show decision.accepted = false from accepts] at accepted
    cases accepted
  | throws => exact .intro
  | awaits resume => exact ⟨claimed, accepts⟩
  | mutates body => exact ⟨claimed, accepts⟩

theorem Serial.recalls_of_runs (serial : next.Serial env) (claimed : next.Claimed) {now : Instant}
    (recorded : recordNonce env signed now loaded.state = .recorded usedNonces)
    (held : next.memory = some record) (holds : record.state.usedNonces = usedNonces)
    (saving : next.phase id = some (.saving record false none decision)) :
    next.Recalls env signed now := by
  obtain ⟨entry, member, hash, expires⟩ := (recordNonce_recorded recorded).2
  obtain ⟨current, held', claimedCurrent⟩ := claimed.memory
  obtain rfl : record = current := by simpa [held] using held'
  refine .inr ⟨⟨record, held, claimedCurrent, entry, holds ▸ member, hash, expires⟩, ?_⟩
  intro other record' keyStored before decision' found
  have different : other ≠ id := by
    intro same
    subst same
    simp [saving] at found
  have waits := serial.running_unique saving rfl rfl found rfl different
  simp [Phase.Waits] at waits

theorem Verifies.step (verifies : config.Verifies env) (serial : config.Serial env)
    (first : config.Throughout State.ClaimedFirst) (keeps : config.KeepsLoaded event)
    (taken : ProcessIdentity.step env config event = some next) : next.Verifies env := by
  have claimed : config.Claimed → next.Claimed := serial.claimed_step keeps taken
  have recalls : ∀ signed ran, config.Recalls env signed ran → next.Recalls env signed ran :=
    fun signed ran recalled => serial.recalls_step keeps taken recalled
  intro id after request present verifying
  have move := callMove_of_step taken id
  rw [present] at move
  generalize before : config.calls id = call at move
  cases move with
  | still => exact (verifies id after request before verifying).later claimed recalls
  | opens operation =>
    obtain rfl : operation = .verifySignedRequest request := verifying
    exact rfl
  | moves move ran =>
    rename_i call phase ranAt
    have holds := verifies id call request before verifying
    have was : config.phase id = some call.phase := by simp [Config.phase, before]
    have moved : next.phase id = some phase := by simp [Config.phase, present]
    dsimp only at ran holds ⊢
    generalize call.phase = earlier at move ran holds was
    cases move with
    | failsRead => exact .intro
    | failsStore => exact .intro
    | failsSave => exact .intro
    | runs held memory =>
      rename_i body loaded _
      obtain ⟨claimedBefore, client, rfl⟩ := holds
      obtain ⟨decision, answer, denied⟩ | answer | ⟨usedNonces, decision, recorded, answer⟩ :=
        acceptSignedRequest_cases env client request.signedHeaders config.now loaded.state
      · rw [answer]
        intro accepted
        rw [denied] at accepted
        cases accepted
      · rw [answer]
        exact .intro
      · rw [answer] at moved memory ⊢
        refine ⟨config.now, ran, ?_⟩
        exact (serial.step keeps taken).recalls_of_runs (claimed claimedBefore) recorded
          memory rfl moved
    | resumes => exact holds.elim
    | reads held memory =>
      rename_i reading loaded
      obtain rfl : reading = verifySignedRequest env request := holds
      obtain ⟨decision, answer, denied⟩ | ⟨clients, accepts⟩ :=
        verifySignedRequest_cases env request config.now loaded.state
      · rw [answer]
        intro accepted
        rw [denied] at accepted
        cases accepted
      · refine verifies_reading (claimed (serial.claimed_of_clients held ?_)) accepts
        by_contra unclaimed
        exact clients (first.memory loaded held (by simpa using unclaimed))
    | decides memory => exact verifies_reading (claimed holds.1) (holds.2 _)
    | savesKey =>
      subst ran
      obtain ⟨ran, same, recalled⟩ := holds
      exact ⟨ran, same, recalls _ _ recalled⟩
    | saves =>
      subst ran
      obtain ⟨ran, same, recalled⟩ := holds
      exact fun _ => ⟨ran, same, recalls _ _ recalled⟩
    | _ => exact Entry.Verifies.later claimed holds

theorem Verifies.accepted_of_step (verifies : config.Verifies env)
    (taken : ProcessIdentity.step env config event = some next) {after : Call}
    (present : next.calls id = some after)
    (verifying : after.operation = .verifySignedRequest request)
    (accepted : after.phase.accepted = true) :
    ∃ call, config.calls id = some call ∧ call.operation = .verifySignedRequest request ∧
      (call.phase.accepted = true ∨
        ∃ body loaded usedNonces, call.phase = .ready (.mutates body) ∧ event = .run id ∧
          config.memory = some loaded ∧
          recordNonce env request.signedHeaders config.now loaded.state =
            .recorded usedNonces) := by
  have move := callMove_of_step taken id
  rw [present] at move
  generalize before : config.calls id = call at move
  cases move with
  | still => exact ⟨after, rfl, verifying, .inl accepted⟩
  | opens operation =>
    obtain rfl : operation = .verifySignedRequest request := verifying
    cases accepted
  | moves move ran =>
    rename_i call phase ranAt
    refine ⟨call, rfl, verifying, ?_⟩
    have holds := verifies id call request before verifying
    have was : config.phase id = some call.phase := by simp [Config.phase, before]
    have moved : next.phase id = some phase := by simp [Config.phase, present]
    dsimp only at accepted holds
    generalize call.phase = earlier at move holds was
    cases move with
    | runs held =>
      rename_i body loaded _ _
      obtain ⟨-, client, rfl⟩ := holds
      obtain ⟨decision, answer, denied⟩ | answer | ⟨usedNonces, decision, recorded, answer⟩ :=
        acceptSignedRequest_cases env client request.signedHeaders config.now loaded.state
      · rw [answer] at accepted
        exact absurd (denied.symm.trans accepted) Bool.false_ne_true
      · rw [answer] at accepted
        cases accepted
      · refine .inr ⟨_, loaded, usedNonces, rfl, ran_of_step taken was ?_, held, recorded⟩
        rw [moved, answer]
        exact fun same => Phase.noConfusion (Option.some.inj same)
    | resumes => exact holds.elim
    | reads =>
      rename_i reading loaded _ _
      obtain rfl : reading = verifySignedRequest env request := holds
      obtain ⟨decision, answer, denied⟩ | ⟨-, accepts⟩ :=
        verifySignedRequest_cases env request config.now loaded.state
      · rw [answer] at accepted
        exact absurd (denied.symm.trans accepted) Bool.false_ne_true
      · exact absurd ((accepts.phase_accepted _).symm.trans accepted) Bool.false_ne_true
    | decides =>
      exact absurd (((holds.2 _).phase_accepted _).symm.trans accepted) Bool.false_ne_true
    | savesKey => exact .inl rfl
    | saves => exact .inl rfl
    | _ => cases accepted

end Config

def SignedRequest.Replays (request other : SignedRequest) : Prop :=
  request.signedHeaders.packageId = other.signedHeaders.packageId ∧
    request.signedHeaders.nonce = other.signedHeaders.nonce ∧
    request.signedHeaders.timestamp = other.signedHeaders.timestamp

namespace SignedRequest.Replays

variable {env : ServiceEnv} {request other : SignedRequest} (replays : request.Replays other)
include replays

theorem symm : other.Replays request := ⟨replays.1.symm, replays.2.1.symm, replays.2.2.symm⟩

theorem nonceHash : request.signedHeaders.nonceHash env = other.signedHeaders.nonceHash env := by
  simp only [SignedHeaders.nonceHash, replays.1, replays.2.1]

theorem timestampMs :
    request.signedHeaders.timestampMs env = other.signedHeaders.timestampMs env := by
  simp only [SignedHeaders.timestampMs, replays.2.2]

end SignedRequest.Replays

namespace Config

variable {env : ServiceEnv} {config next : Config} {event : Event} {id : CallId}

/-- A load puts no older state back, and no nonce check runs once the nonce of an accepted
request with the same package id, nonce and timestamp has expired. -/
def NoncesPermitted (env : ServiceEnv) (config : Config) (event : Event) : Prop :=
  config.KeepsLoaded event ∧
    ∀ id body other call call' request request' ran, event = .run id →
      config.calls id = some call → call.operation = .verifySignedRequest request →
      call.phase = .ready (.mutates body) →
      config.calls other = some call' → call'.operation = .verifySignedRequest request' →
      request'.Replays request → call'.phase.accepted = true → call'.ranAt = some ran →
      config.now < nonceExpiry env ran (request.signedHeaders.timestampMs env)

def AcceptsOnce (config : Config) : Prop :=
  ∀ id other call call' request request', id ≠ other → config.calls id = some call →
    config.calls other = some call' → call.operation = .verifySignedRequest request →
    call'.operation = .verifySignedRequest request' → request.Replays request' →
    call.phase.accepted = true → call'.phase.accepted = true → False

theorem Verifies.unrecorded (verifies : config.Verifies env)
    (permitted : config.NoncesPermitted env event)
    {request' : SignedRequest} (runs : event = .run id) (present : config.calls id = some call)
    (verifying : call.operation = .verifySignedRequest request)
    (ready : call.phase = .ready (.mutates body)) (present' : config.calls other = some call')
    (verifying' : call'.operation = .verifySignedRequest request')
    (replays : request'.Replays request) (accepted : call'.phase.accepted = true)
    (held : config.memory = some loaded) :
    recordNonce env request.signedHeaders config.now loaded.state ≠ .recorded usedNonces := by
  intro recorded
  obtain ⟨ran, same, recalled⟩ :=
    (verifies other call' request' present' verifying').recalls accepted
  have live := permitted.2 id body other call call' request request' ran runs present verifying
    ready present' verifying' replays accepted same
  unfold Recalls at recalled
  rw [replays.timestampMs, replays.nonceHash] at recalled
  obtain expired | within := recalled
  · exact absurd live (Int.not_lt.mpr expired)
  · obtain ⟨current, held', -, entry, member, hash, expires⟩ := within.memory
    obtain rfl : loaded = current := by simpa [held] using held'
    exact ((recordNonce_recorded recorded).1 entry member (expires ▸ live)).1 hash

theorem AcceptsOnce.step (once : config.AcceptsOnce) (verifies : config.Verifies env)
    (permitted : config.NoncesPermitted env event)
    (taken : ProcessIdentity.step env config event = some next) : next.AcceptsOnce := by
  intro id other after after' request request' different present present' verifying verifying'
    replays accepted accepted'
  obtain ⟨call, before, operation, accepted | ran⟩ :=
    verifies.accepted_of_step taken present verifying accepted
  all_goals obtain ⟨call', before', operation', accepted' | ran'⟩ :=
    verifies.accepted_of_step taken present' verifying' accepted'
  · exact once id other call call' request request' different before before' operation operation'
      replays accepted accepted'
  · obtain ⟨body, loaded, usedNonces, ready, runs, held, recorded⟩ := ran'
    exact verifies.unrecorded permitted runs before' operation' ready before operation replays
      accepted held recorded
  · obtain ⟨body, loaded, usedNonces, ready, runs, held, recorded⟩ := ran
    exact verifies.unrecorded permitted runs before operation ready before' operation'
      replays.symm accepted' held recorded
  · obtain ⟨-, -, -, -, runs, -⟩ := ran
    obtain ⟨-, -, -, -, runs', -⟩ := ran'
    rw [runs] at runs'
    exact different (Event.run.inj runs')

/-- What holds in every run in which nonce checks are in time. -/
structure Guarded (env : ServiceEnv) (config : Config) : Prop where
  serial : config.Serial env
  first : config.Throughout State.ClaimedFirst
  verifies : config.Verifies env
  once : config.AcceptsOnce

theorem Guarded.step (guarded : config.Guarded env) (permitted : config.NoncesPermitted env event)
    (taken : ProcessIdentity.step env config event = some next) : next.Guarded env where
  serial := guarded.serial.step permitted.1 taken
  first := by
    refine guarded.first.step guarded.serial permitted.1 taken (fun _ _ => rfl)
      (fun _ first => first.normalizeState) ?_
    intro loaded after held present first succeeds
    obtain ⟨saved, rollsBack, decision, change, same⟩ := succeeds
    rw [same]
    exact (first.change change).normalizeState
  verifies := guarded.verifies.step guarded.serial guarded.first permitted.1 taken
  once := guarded.once.step guarded.verifies permitted taken

end Config

/-- Two calls with one package id, nonce and timestamp are not both answered ok, as long as
nonce checks are in time. -/
theorem replayed_request_refused {env : ServiceEnv} {now : Instant} {keyFile : Option SealingKey}
    {stateFile : Option SealedRecord}
    (claimed : ∀ sealed, stateFile = some sealed → (normalizeState sealed.state).ClaimedFirst)
    {config : Config}
    (run : Path (Steps env) (Config.NoncesPermitted env) (.start now keyFile stateFile) config)
    {id other : CallId} (different : id ≠ other) {request request' : SignedRequest}
    (replays : request.Replays request') {call call' : Call} (present : config.calls id = some call)
    (present' : config.calls other = some call')
    (verifying : call.operation = .verifySignedRequest request)
    (verifying' : call'.operation = .verifySignedRequest request') {decision decision' : Decision}
    (returned : call.phase = .returned decision) (returned' : call'.phase = .returned decision') :
    ¬((decision.ok = true ∧ decision.applicable = some true) ∧
      decision'.ok = true ∧ decision'.applicable = some true) := by
  have keeps : ∀ {config : Config} {event : Event} {next : Config},
      config.NoncesPermitted env event → Steps env config event next → config.Guarded env →
      next.Guarded env := fun permitted taken guarded => guarded.step permitted taken
  have start : (Config.start now keyFile stateFile).Guarded env :=
    { serial := .start_config env now keyFile stateFile
      first := .start_config now keyFile claimed
      verifies := by intro id call request present; cases present
      once := by intro id other call call' request request' different present; cases present }
  have once := (run.preserves keeps start).once
  intro ⟨⟨ok, applicable⟩, ok', applicable'⟩
  refine once id other call call' request request' different present present' verifying verifying'
    replays ?_ ?_
  · simp [returned, Phase.accepted, Decision.accepted, ok, applicable]
  · simp [returned', Phase.accepted, Decision.accepted, ok', applicable']

theorem lifetime_le_nonceExpiry (env : ServiceEnv) (now timestampMs : Instant) :
    timestampMs + env.nonceLifetimeMs ≤ nonceExpiry env now timestampMs := by
  exact Int.add_le_add_right (le_max_right now timestampMs) _

/-- A run whose nonce checks come before the nonce of any request like theirs can expire. -/
def Config.runsEarly (env : ServiceEnv) (config : Config) : Event → Bool
  | .run id =>
    match config.calls id with
    | some ⟨.verifySignedRequest request, _, _⟩ =>
      config.now < request.signedHeaders.timestampMs env + env.nonceLifetimeMs
    | _ => true
  | _ => true

theorem Config.noncesPermitted_of_early (keeps : config.KeepsLoaded event)
    (early : config.runsEarly env event = true) : config.NoncesPermitted env event := by
  refine ⟨keeps, ?_⟩
  intro id body other call call' request request' ran runs present verifying _ _ _ _ _ _
  subst runs
  have before : config.now <
      request.signedHeaders.timestampMs env + env.nonceLifetimeMs := by
    obtain ⟨operation, phase, ranAt⟩ := call
    obtain rfl : operation = .verifySignedRequest request := verifying
    simpa [runsEarly, present] using early
  exact lt_of_lt_of_le before (lifetime_le_nonceExpiry env ran _)

def runEarly (env : ServiceEnv) : Config → List Event → Option Config
  | config, [] => some config
  | config, event :: rest =>
    if config.keepsLoaded event && config.runsEarly env event then
      (step env config event).bind fun next => runEarly env next rest
    else none

theorem run_of_runEarly (finished : runEarly env config events = some last) :
    Path (Steps env) (Config.NoncesPermitted env) config last := by
  induction events generalizing config with
  | nil =>
    obtain rfl : config = last := by simpa [runEarly] using finished
    exact .refl config
  | cons event rest induction =>
    simp only [runEarly] at finished
    split at finished
    · rename_i permitted
      obtain ⟨keeps, early⟩ := Bool.and_eq_true_iff.mp permitted
      obtain ⟨next, taken, finished⟩ := Option.bind_eq_some_iff.mp finished
      exact .step event (Config.noncesPermitted_of_early keeps early) taken (induction finished)
    · cases finished

def samplePublicKeyPem : String :=
  "-----BEGIN PUBLIC KEY-----\n" ++
    "MCowBQYDK2VwAyEAoW/7RG6BsNjEA+10Vx3J54E2Hn1tuqo4k71jo75oOeU=\n" ++
    "-----END PUBLIC KEY-----\n"

def sampleCanonical : String :=
  "MESHRIX-PROCESS-IDENTITY-V1\nGET\n/\n" ++
    "e3b0c44298fc1c149afbf4c8996fb92427ae41e4649b934ca495991b7852b855\n1700000000000\n" ++
    "nonce-1\nclient-a\ncidpkg_a\npk_a"

def sampleSignature : String :=
  "b6LNOaO2SvKxpgrAnNUizTRRm7kM0w_xFrUhJfJhx7J-686zontPFkZlT9r2Ld_yRgAuLRGv-2PRTEE6H22oBA"

/-- The sample platform with the shortest window and lifetime, and one signature. -/
def signingEnv : ServiceEnv :=
  { sampleEnv with
    maxTimestampSkewMs := 1000
    nonceTtlMs := 1000
    verifySignature := fun publicKeyPem canonical signature =>
      publicKeyPem = samplePublicKeyPem && canonical = sampleCanonical &&
        signature = sampleSignature }

def sampleClient : ClientRecord where
  packageId := "cidpkg_a"
  clientId := "client-a"
  processKeyId := "pk_a"
  processPublicKeyPem := samplePublicKeyPem
  clientFingerprint := {}
  identityGeneration := 1
  capabilityCredentialId := ""
  status := .valid
  issuedAt := 0
  expiresAt := ""

def claimedFile : SealedRecord where
  key := 7
  state := { State.fresh sampleIdentity with
    claimed := true
    claimedAt := some 0
    claimCount := 1
    clients := [sampleClient] }

def sampleRequest : SignedRequest where
  headers :=
    [("x-meshrix-client-id", "client-a"), ("x-meshrix-identity-package-id", "cidpkg_a"),
      ("x-meshrix-process-key-id", "pk_a"), ("x-meshrix-timestamp", "1700000000000"),
      ("x-meshrix-nonce", "nonce-1"),
      ("x-meshrix-body-sha256",
        "e3b0c44298fc1c149afbf4c8996fb92427ae41e4649b934ca495991b7852b855"),
      ("x-meshrix-signature", sampleSignature), ("x-meshrix-capability-key", "ock_sample")]

def verifyEvents (id : CallId) : List Event :=
  [.run id, .resume id (.answered true true "" ""), .resume id (.answered true true "" ""),
    .start id, .run id]

/-- A request is verified at its timestamp and repeated after `elapsed`. -/
def replayEvents (elapsed : Nat) : List Event :=
  [.call 0 (.verifySignedRequest sampleRequest)] ++ loadEvents 0 ++ verifyEvents 0 ++
    [.store 0 .written, .store 0 .written, .tick elapsed,
      .call 1 (.verifySignedRequest sampleRequest), .start 1] ++ verifyEvents 1

def claimedStart : Config := .start 1700000000000 (some 7) (some claimedFile)

/-- One millisecond before the nonce expires, the request is refused. -/
theorem replayed_request_refused_in_time :
    ∃ config, runEarly signingEnv claimedStart (replayEvents 999) = some config ∧
      (config.returned 0).map (·.reasonCode) = some "process_identity_verified" ∧
      (config.returned 1).map (·.reasonCode) = some "process_identity_nonce_replay" ∧
      ∀ decision decision', config.returned 0 = some decision → config.returned 1 = some decision' →
        ¬((decision.ok = true ∧ decision.applicable = some true) ∧
          decision'.ok = true ∧ decision'.applicable = some true) := by
  have outcome : (runEarly signingEnv claimedStart (replayEvents 999)).map (fun config =>
      (((config.returned 0).map (·.reasonCode), (config.returned 1).map (·.reasonCode)),
        (config.calls 0).map (·.operation), (config.calls 1).map (·.operation))) =
      some ((some "process_identity_verified", some "process_identity_nonce_replay"),
        some (.verifySignedRequest sampleRequest), some (.verifySignedRequest sampleRequest)) := by
    decide +kernel
  obtain ⟨config, finished, outcome⟩ := Option.map_eq_some_iff.mp outcome
  simp only [Prod.mk.injEq] at outcome
  obtain ⟨answers, called⟩ := outcome
  refine ⟨config, finished, answers.1, answers.2, ?_⟩
  intro decision decision' returned returned'
  obtain ⟨call, present, verifying⟩ := Option.map_eq_some_iff.mp called.1
  obtain ⟨call', present', verifying'⟩ := Option.map_eq_some_iff.mp called.2
  have phase : call.phase = .returned decision := by
    simpa [Config.phase, present] using Config.phase_of_returned returned
  have phase' : call'.phase = .returned decision' := by
    simpa [Config.phase, present'] using Config.phase_of_returned returned'
  have claimed : ∀ sealed, some claimedFile = some sealed →
      (normalizeState sealed.state).ClaimedFirst := by
    intro sealed same unclaimed
    obtain rfl : claimedFile = sealed := Option.some.inj same
    cases unclaimed
  exact replayed_request_refused claimed (run_of_runEarly finished) Nat.zero_ne_one
    ⟨rfl, rfl, rfl⟩ present present' verifying verifying' phase phase'

/-- The window and the nonce end at one instant: there the request is accepted again. -/
theorem replayed_request_accepted :
    signingEnv.timestampSkewMs = 1000 ∧ signingEnv.nonceLifetimeMs = 1000 ∧
    (runEvents signingEnv claimedStart
      (replayEvents 1000 ++ [.store 1 .written, .store 1 .written])).map (fun config =>
        ((config.returned 0).map fun decision => (decision.ok, decision.applicable),
          (config.returned 1).map fun decision => (decision.ok, decision.applicable))) =
      some (some (true, some true), some (true, some true)) := by
  decide +kernel

end LicoMesh.ProcessIdentity
