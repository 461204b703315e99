import LicoMesh.ProtectedSink.Attempts

namespace LicoMesh.ProtectedSink

open Library Transaction WorkQueue Option

/-! A receipt is returned at most once for an attempt, and only under current authority. -/

variable {binding : Binding} {attempt : AttemptState} {options : ClaimOptions}
  {receipt : PermitConsumptionReceipt} {id : AttemptId} {phase : ClaimPhase} {env : SinkEnv}

theorem requiredText_toJson (text : SinkText) : requiredText (SinkText.toJson text) = .ok text :=
  requiredText_str text

structure NormalizedParts (value : Json) (binding : Binding) : Prop where
  audience : requiredText (value.get "audience") = .ok binding.audience
  subject : normalizeSubject (value.get "subject") = .ok binding.subject
  operationId : requiredText (value.get "operationId") = .ok binding.operationId
  effect : normalizeEffect (value.get "effect") = .ok binding.effect
  requestDigest : requiredDigest (value.get "requestDigest") = .ok binding.requestDigest
  context : normalizeContext (value.get "context") = .ok binding.context

theorem normalizeBinding_ok (ok : normalizeBinding value = .ok binding) :
    NormalizedParts value binding := by
  obtain ⟨_, -, ok⟩ := bind_eq_ok.mp ok
  obtain ⟨audience, readAudience, ok⟩ := bind_eq_ok.mp ok
  obtain ⟨subject, readSubject, ok⟩ := bind_eq_ok.mp ok
  obtain ⟨operationId, readOperationId, ok⟩ := bind_eq_ok.mp ok
  obtain ⟨effect, readEffect, ok⟩ := bind_eq_ok.mp ok
  obtain ⟨requestDigest, readRequestDigest, ok⟩ := bind_eq_ok.mp ok
  obtain ⟨context, readContext, ok⟩ := bind_eq_ok.mp ok
  cases ok
  exact ⟨readAudience, readSubject, readOperationId, readEffect, readRequestDigest, readContext⟩

theorem normalizeContext_ok (ok : normalizeContext value = .ok context) :
    normalizeAttemptContext value = .ok context.toAttemptContext ∧
      requiredText (value.get "resourceRevision") = .ok context.resourceRevision := by
  obtain ⟨_, -, ok⟩ := bind_eq_ok.mp ok
  obtain ⟨attempt, readAttempt, ok⟩ := bind_eq_ok.mp ok
  obtain ⟨resourceRevision, readRevision, ok⟩ := bind_eq_ok.mp ok
  cases ok
  exact ⟨readAttempt, readRevision⟩

theorem contextWith_fields (context : AttemptContext) (revision : Json) :
    contextWith context.fields revision =
      .obj (context.fields ++ [("resourceRevision", revision)]) := by
  simp [contextWith, AttemptContext.fields]

theorem normalizeAttemptContext_fields (context : AttemptContext) (revision : Json) :
    normalizeAttemptContext (contextWith context.fields revision) = .ok context := by
  rw [contextWith_fields]
  simp [normalizeAttemptContext, AttemptContext.fields, Json.get, SinkText.toJson, bind,
    Except.bind, pure, Except.pure]

/-- The binding a claim is checked against is that of the attempt, with the claim's effect and
resource revision. -/
structure BindsClaim (attempt : AttemptState) (options : ClaimOptions) (binding : Binding) :
    Prop where
  audience : binding.audience = attempt.audience
  subject : binding.subject = attempt.subject
  operationId : binding.operationId = attempt.operationId
  requestDigest : binding.requestDigest = attempt.requestDigest
  context : binding.context.toAttemptContext = attempt.context
  effect : normalizeEffect options.effect = .ok binding.effect
  resourceRevision : requiredText options.resourceRevision = .ok binding.context.resourceRevision

theorem bindsClaim (ok : normalizeBinding (claimedBinding attempt options) = .ok binding) :
    BindsClaim attempt options binding := by
  have parts := normalizeBinding_ok ok
  obtain ⟨context, revision⟩ := normalizeContext_ok parts.context
  have audience : requiredText (SinkText.toJson attempt.audience) = .ok binding.audience :=
    parts.audience
  have subject : normalizeSubject attempt.subject.toJson = .ok binding.subject := parts.subject
  have operationId : requiredText (SinkText.toJson attempt.operationId) =
      .ok binding.operationId := parts.operationId
  have requestDigest : requiredDigest (SinkDigest.toJson attempt.requestDigest) =
      .ok binding.requestDigest := parts.requestDigest
  have contextValue : (claimedBinding attempt options).get "context" =
      contextWith attempt.context.fields options.resourceRevision := rfl
  rw [contextValue] at context revision
  rw [normalizeAttemptContext_fields] at context
  rw [requiredText_toJson] at audience operationId
  rw [normalizeSubject_toJson] at subject
  rw [SinkDigest.toJson, requiredDigest_str] at requestDigest
  refine ⟨(Except.ok.inj audience).symm, (Except.ok.inj subject).symm,
    (Except.ok.inj operationId).symm, (Except.ok.inj requestDigest).symm,
    (Except.ok.inj context).symm, parts.effect, ?_⟩
  rw [contextWith_fields] at revision
  simpa [Json.get, AttemptContext.fields] using revision

/-- What `checkClaim` has established. -/
structure Checked (env : SinkEnv) (state : SinkState) (attempt : AttemptState)
    (options : ClaimOptions) (binding : Binding) (consumedAt : Int) : Prop where
  clock : options.consumedAt = some consumedAt
  inTime : consumedAt < attempt.expiresAt
  selector : selectorDigest env options.targetSelector = .ok attempt.targetSelectorDigest
  normalized : normalizeBinding (claimedBinding attempt options) = .ok binding

theorem checkClaim_ok (ok : checkClaim env state attempt options = .ok (binding, consumedAt)) :
    Checked env state attempt options binding consumedAt := by
  unfold checkClaim at ok
  split at ok
  · cases ok
  · rename_i clock
    split at ok
    · cases ok
    · rename_i inTime
      split at ok
      · cases ok
      · obtain ⟨digest, read, ok⟩ := bind_eq_ok.mp ok
        split at ok
        · cases ok
        · rename_i same
          split at ok
          · cases ok
          · obtain ⟨normalized, readBinding, ok⟩ := bind_eq_ok.mp ok
            cases ok
            exact ⟨clock, not_le.mp inTime, (not_not.mp same) ▸ read, readBinding⟩

theorem textOf_sinkText (text : SinkText) : textOf (SinkText.toJson text) = text.val := by
  obtain ⟨text, nonempty, bounded⟩ := text
  have normalized : toText text = text := by
    unfold boundedText at bounded
    dsimp only at bounded
    split at bounded
    · exact absurd bounded.symm nonempty
    · exact bounded
  exact normalized

structure BoundReceipt (env : SinkEnv) (binding : Binding) (receipt : PermitConsumptionReceipt) :
    Prop where
  operationId : receipt.operationId = binding.operationId.val
  audience : receipt.audience = binding.audience.val
  principal : receipt.principalDigest = env.digestGovernedExecutionPrincipal binding.subject.toJson
  resource : receipt.resourceDigest = env.canonicalDigest (resourceJson binding)
  request : receipt.requestDigest = binding.requestDigest.val.val

theorem usePermit_ok
    (ok : usePermit env permits attempt binding consumedAt options = (next, .ok receipt)) :
    BoundReceipt env binding receipt := by
  unfold usePermit at ok
  split at ok
  · cases ok
  · rename_i minted mint
    rw [normalizeBinding_toJson] at ok
    have consume := congrArg Prod.snd ok
    obtain ⟨operationId, audience, principal, resource, request⟩ := consume_minted mint consume
    exact ⟨operationId.trans (textOf_sinkText _), audience.trans (textOf_sinkText _), principal,
      resource, request.trans (textOf_sinkText _)⟩

structure Admitted (env : SinkEnv) (state : SinkState) (options : ClaimOptions)
    (pending : PendingClaim) : Prop where
  checked : ∃ consumedAt, Checked env state pending.state options pending.binding consumedAt
  receipt : BoundReceipt env pending.binding pending.consumptionReceipt

theorem claimAttempt_cases (env : SinkEnv) (state : SinkState) (attempt : AttemptState) (options : ClaimOptions) :
    (∃ error, (claimAttempt env state attempt options).2 = .refused error) ∨
      ∃ pending, (claimAttempt env state attempt options).2 = .revalidating pending ∧
        pending.state = attempt ∧ Admitted env state options pending := by
  unfold claimAttempt
  split
  · rename_i error _
    exact .inl ⟨error, rfl⟩
  · rename_i binding consumedAt checked
    split
    · rename_i error _
      exact .inl ⟨error, rfl⟩
    · rename_i permits receipt used
      split
      · exact .inl ⟨_, rfl⟩
      · exact .inr ⟨_, rfl, rfl, ⟨consumedAt, checkClaim_ok checked⟩, usePermit_ok used⟩

theorem answerAuthority_cases (state : SinkState) (pending : PendingClaim)
    (answer : Option AuthorityAnswer) :
    (∃ error, answerAuthority state pending answer = .refused error) ∨
      ∃ authority, answer = some authority ∧
        answerAuthority state pending answer = .resolving pending authority ∧
          authority.allowed = .bool true ∧ authority.revoked ≠ .bool true := by
  cases answer with
  | none => exact .inl ⟨_, rfl⟩
  | some authority =>
    unfold answerAuthority
    dsimp only
    split
    · exact .inl ⟨_, rfl⟩
    · rename_i passes
      split
      · exact .inl ⟨_, rfl⟩
      · refine .inr ⟨authority, rfl, rfl, ?_⟩
        unfold AuthorityAnswer.phase at passes
        split at passes
        · cases passes
        · rename_i allowed revoked
          exact ⟨allowed, revoked⟩
        · cases passes

theorem answerResource_cases (state : SinkState) (pending : PendingClaim)
    (authority : AuthorityAnswer) (answer : Option ResourceAnswer) :
    (∃ error, answerResource state pending authority answer = .refused error) ∨
      ∃ resource, answer = some resource ∧
        answerResource state pending authority answer = .returned pending.consumptionReceipt ∧
          state.isAborted pending.state.signal = false ∧
            normalizeBinding (currentBinding pending.binding authority resource) =
              .ok pending.binding := by
  cases answer with
  | none => exact .inl ⟨_, rfl⟩
  | some resource =>
    unfold answerResource
    dsimp only
    split
    · exact .inl ⟨_, rfl⟩
    · rename_i live
      split
      · rename_i current
        exact .inr ⟨resource, rfl, rfl, by simpa using live, currentBindingMatches_iff.mp current⟩
      · exact .inl ⟨_, rfl⟩

variable {options : CreateOptions}

theorem attempt_of_create
    (ok : createFinalProtectedSinkAttempt env id options = .ok attempt) : attempt.attempt = id := by
  unfold createFinalProtectedSinkAttempt at ok
  split at ok
  · split at ok
    · cases ok
    · obtain ⟨_, -, ok⟩ := bind_eq_ok.mp ok
      obtain ⟨_, -, ok⟩ := bind_eq_ok.mp ok
      obtain ⟨_, -, ok⟩ := bind_eq_ok.mp ok
      obtain ⟨_, -, ok⟩ := bind_eq_ok.mp ok
      obtain ⟨_, -, ok⟩ := bind_eq_ok.mp ok
      obtain ⟨_, -, ok⟩ := bind_eq_ok.mp ok
      obtain ⟨_, -, ok⟩ := bind_eq_ok.mp ok
      cases ok
      rfl
  · cases ok

def Created (env : SinkEnv) (events : List SinkEvent) (attempt : AttemptState) : Prop :=
  ∃ before options after, events = before ++ .create options :: after ∧
    createFinalProtectedSinkAttempt env (SinkState.run env before).nextAttempt options = .ok attempt

def Started (env : SinkEnv) (events : List SinkEvent) (claim : ClaimId) (pending : PendingClaim) :
    Prop :=
  ∃ before options after, events = before ++ .claim options :: after ∧
    (SinkState.run env before).nextClaim = claim ∧
      options.attempt = some pending.state.attempt ∧ Created env before pending.state ∧
        Admitted env (.run env before) options pending

def Revalidated (env : SinkEnv) (events : List SinkEvent) (claim : ClaimId)
    (pending : PendingClaim) (authority : AuthorityAnswer) : Prop :=
  ∃ before after, events = before ++ .authorityAnswers claim (some authority) :: after ∧
    Started env before claim pending ∧
      authority.allowed = .bool true ∧ authority.revoked ≠ .bool true

def Resolved (env : SinkEnv) (events : List SinkEvent) (claim : ClaimId) (attempt : AttemptId)
    (receipt : PermitConsumptionReceipt) : Prop :=
  ∃ before resource after pending authority,
    events = before ++ .resourceAnswers claim (some resource) :: after ∧
      Revalidated env before claim pending authority ∧
        (SinkState.run env before).isAborted pending.state.signal = false ∧
          normalizeBinding (currentBinding pending.binding authority resource) =
            .ok pending.binding ∧ receipt = pending.consumptionReceipt ∧
              pending.state.attempt = attempt

section Extension

variable {events : List SinkEvent} {claim : ClaimId} {pending : PendingClaim}

theorem Created.extend (created : Created env events attempt) (more : List SinkEvent) :
    Created env (events ++ more) attempt := by
  obtain ⟨before, options, after, rfl, made⟩ := created
  exact ⟨before, options, after ++ more, by simp, made⟩

theorem Started.extend (started : Started env events claim pending) (more : List SinkEvent) :
    Started env (events ++ more) claim pending := by
  obtain ⟨before, options, after, rfl, rest⟩ := started
  exact ⟨before, options, after ++ more, by simp, rest⟩

theorem Revalidated.extend (revalidated : Revalidated env events claim pending authority)
    (more : List SinkEvent) : Revalidated env (events ++ more) claim pending authority := by
  obtain ⟨before, after, rfl, rest⟩ := revalidated
  exact ⟨before, after ++ more, by simp, rest⟩

theorem Resolved.extend {attempt : AttemptId} (resolved : Resolved env events claim attempt receipt)
    (more : List SinkEvent) : Resolved env (events ++ more) claim attempt receipt := by
  obtain ⟨before, resource, after, pending, authority, rfl, rest⟩ := resolved
  exact ⟨before, resource, after ++ more, pending, authority, by simp, rest⟩

end Extension

def ClaimPhase.IsRefused : ClaimPhase → Prop
  | .refused _ => True
  | _ => False

def Justified (env : SinkEnv) (events : List SinkEvent) (claim : ClaimId)
    (attempt : Option AttemptId) : ClaimPhase → Prop
  | .revalidating pending =>
    attempt = some pending.state.attempt ∧ Started env events claim pending
  | .resolving pending authority =>
    attempt = some pending.state.attempt ∧ Revalidated env events claim pending authority
  | .returned receipt => ∃ id, attempt = some id ∧ Resolved env events claim id receipt
  | .refused _ => True

variable {claim : ClaimId}

theorem Justified.extend {events : List SinkEvent} {attempt : Option AttemptId}
    (justified : Justified env events claim attempt phase) (more : List SinkEvent) :
    Justified env (events ++ more) claim attempt phase := by
  cases phase with
  | revalidating pending => exact ⟨justified.1, justified.2.extend more⟩
  | resolving pending authority => exact ⟨justified.1, justified.2.extend more⟩
  | returned receipt =>
    obtain ⟨id, same, resolved⟩ := justified
    exact ⟨id, same, resolved.extend more⟩
  | refused error => exact .intro

structure Sound (env : SinkEnv) (events : List SinkEvent) (state : SinkState) : Prop where
  created : ∀ a row, state.attempts.find? a = some row →
    Created env events row ∧ a < state.nextAttempt
  claimed : ∀ c row, state.claims.find? c = some row → c < state.nextClaim
  justified : ∀ c row, state.claims.find? c = some row →
    Justified env events c row.attempt row.phase
  used : ∀ c row, state.claims.find? c = some row → ¬row.phase.IsRefused →
    ∃ a, row.attempt = some a ∧ a < state.nextAttempt ∧ state.attempts.find? a = none
  once : ∀ c row c' row', state.claims.find? c = some row → state.claims.find? c' = some row' →
    ¬row.phase.IsRefused → ¬row'.phase.IsRefused → row.attempt = row'.attempt → c = c'

theorem sound_initial (env : SinkEnv) : Sound env [] .initial := by
  constructor <;> simp [SinkState.initial]

namespace Sound

variable {events : List SinkEvent} {state : SinkState} (sound : Sound env events state)
include sound

theorem extend (more : List SinkEvent) : Sound env (events ++ more) state where
  created a row found := ⟨(sound.created a row found).1.extend more, (sound.created a row found).2⟩
  claimed := sound.claimed
  justified c row found := (sound.justified c row found).extend more
  used := sound.used
  once := sound.once

theorem setPhase {row : ClaimRow} (found : state.claims.find? claim = some row)
    (active : ¬row.phase.IsRefused) (justified : Justified env events claim row.attempt phase) :
    Sound env events (state.setPhase row phase) := by
  have key : row.claim = claim := state.claims.key_of_find? found
  have lookup : ∀ c, (state.setPhase row phase).claims.find? c =
      if c = claim then some { row with phase := phase } else state.claims.find? c := by
    intro c
    rw [← key]
    exact Table.find?_set ..
  refine ⟨sound.created, ?_, ?_, ?_, ?_⟩
  · intro c other present
    rw [lookup] at present
    split at present
    · rename_i same
      exact same ▸ sound.claimed claim row found
    · exact sound.claimed c other present
  · intro c other present
    rw [lookup] at present
    split at present
    · rename_i same
      cases present
      exact same ▸ justified
    · exact sound.justified c other present
  · intro c other present admitted
    rw [lookup] at present
    split at present
    · cases present
      exact sound.used claim row found active
    · exact sound.used c other present admitted
  · intro c other c' other' present present' admitted admitted' same
    rw [lookup] at present present'
    split at present
    · rename_i here
      cases present
      split at present'
      · rename_i there
        rw [here, there]
      · rw [here]
        exact sound.once claim row c' other' found present' active admitted' same
    · split at present'
      · rename_i there
        cases present'
        rw [there]
        exact sound.once c other claim row present found admitted active same
      · exact sound.once c other c' other' present present' admitted admitted' same

theorem addClaim {attempt : Option AttemptId}
    (justified : Justified env events state.nextClaim attempt phase)
    (takes : ¬phase.IsRefused → ∃ a, attempt = some a ∧ a < state.nextAttempt ∧
      state.attempts.find? a = none ∧ ∀ c row, state.claims.find? c = some row →
        ¬row.phase.IsRefused → row.attempt ≠ some a) :
    Sound env events (state.addClaim attempt phase) := by
  have lookup : ∀ c, (state.addClaim attempt phase).claims.find? c =
      if c = state.nextClaim then some ⟨state.nextClaim, attempt, phase⟩
      else state.claims.find? c := fun c => Table.find?_set ..
  refine ⟨sound.created, ?_, ?_, ?_, ?_⟩
  · intro c row present
    rw [lookup] at present
    change c < state.nextClaim + 1
    split at present
    · rename_i same
      rw [same]
      exact Nat.lt_succ_self state.nextClaim
    · exact Nat.lt_succ_of_lt (sound.claimed c row present)
  · intro c row present
    rw [lookup] at present
    split at present
    · rename_i same
      cases present
      exact same ▸ justified
    · exact sound.justified c row present
  · intro c row present admitted
    rw [lookup] at present
    split at present
    · cases present
      obtain ⟨a, named, below, gone, -⟩ := takes admitted
      exact ⟨a, named, below, gone⟩
    · exact sound.used c row present admitted
  · intro c row c' row' present present' admitted admitted' same
    rw [lookup] at present present'
    split at present
    · rename_i here
      cases present
      split at present'
      · rename_i there
        rw [here, there]
      · obtain ⟨a, named, -, -, others⟩ := takes admitted
        exact absurd (same.symm.trans named) (others c' row' present' admitted')
    · split at present'
      · rename_i there
        cases present'
        obtain ⟨a, named, -, -, others⟩ := takes admitted'
        exact absurd (same.trans named) (others c row present admitted)
      · exact sound.once c row c' row' present present' admitted admitted' same

variable (reached : SinkState.run env events = state)

include reached in
theorem step_create (options : CreateOptions) : Sound env (events ++ [.create options])
      (state.step env (.create options)) := by
  have kept := sound.extend [.create options]
  cases made : createFinalProtectedSinkAttempt env state.nextAttempt
      options with
  | error error =>
    simp only [SinkState.step, made]
    exact kept
  | ok attempt =>
    simp only [SinkState.step, made]
    have key : attempt.attempt = state.nextAttempt := attempt_of_create made
    refine ⟨?_, kept.claimed, kept.justified, ?_, kept.once⟩
    · intro a row present
      rw [Table.find?_set, key] at present
      split at present
      · rename_i same
        cases present
        refine ⟨⟨events, options, [], rfl, reached ▸ made⟩, ?_⟩
        rw [same]
        exact Nat.lt_succ_self _
      · obtain ⟨created, below⟩ := kept.created a row present
        exact ⟨created, Nat.lt_succ_of_lt below⟩
    · intro c row present admitted
      obtain ⟨a, named, below, gone⟩ := kept.used c row present admitted
      refine ⟨a, named, Nat.lt_succ_of_lt below, ?_⟩
      rw [Table.find?_set, key, if_neg (Nat.ne_of_lt below)]
      exact gone

theorem takeAttempt (attempt : AttemptId) (permits : ActivePermits) : Sound env events
      { state with
        attempts := state.attempts.deleteWhere fun other => other.attempt = attempt
        permits := permits } where
  created a row found := sound.created a row (Table.find?_deleteWhere.mp found).1
  claimed := sound.claimed
  justified := sound.justified
  used := by
    intro c row present admitted
    obtain ⟨a, named, below, gone⟩ := sound.used c row present admitted
    refine ⟨a, named, below, ?_⟩
    apply eq_none_iff_forall_ne_some.mpr
    intro other found
    have live := (Table.find?_deleteWhere.mp found).1
    rw [gone] at live
    cases live
  once := sound.once

include reached in
theorem step_claim (options : ClaimOptions) : Sound env (events ++ [.claim options])
      (state.step env (.claim options)) := by
  have kept := sound.extend [.claim options]
  cases found : options.attempt.bind state.attempts.find? with
  | none =>
    simp only [SinkState.step, found]
    exact kept.addClaim .intro fun admitted => absurd .intro admitted
  | some attempt =>
    simp only [SinkState.step, found]
    obtain ⟨a, named, live⟩ := bind_eq_some_iff.mp found
    obtain rfl : attempt.attempt = a := Table.key_of_find? _ live
    obtain ⟨created, below⟩ := sound.created _ attempt live
    have taken := kept.takeAttempt attempt.attempt
      (claimAttempt env state attempt options).1
    apply taken.addClaim
    · obtain ⟨error, refused⟩ | ⟨pending, waits, rfl, admitted⟩ :=
        claimAttempt_cases env state attempt options
      · rw [refused]
        exact .intro
      · rw [waits]
        subst reached
        exact ⟨named, events, options, [], rfl, rfl, named, created, admitted⟩
    · intro _
      refine ⟨attempt.attempt, named, below, ?_, ?_⟩
      · apply eq_none_iff_forall_ne_some.mpr
        intro other present
        obtain ⟨inTable, kept⟩ := Table.find?_deleteWhere.mp present
        have key : other.attempt = attempt.attempt := Table.key_of_find? _ inTable
        simp [key] at kept
      · intro c row present active same
        obtain ⟨b, names, -, gone⟩ := sound.used c row present active
        obtain rfl : b = attempt.attempt := some.inj (names.symm.trans same)
        rw [gone] at live
        cases live

theorem withPermits (permits : ActivePermits) :
    Sound env events { state with permits := permits } :=
  ⟨sound.created, sound.claimed, sound.justified, sound.used, sound.once⟩

theorem step_authority (claim : ClaimId)
    (answer : Option AuthorityAnswer) : Sound env (events ++ [.authorityAnswers claim answer])
      (state.step env (.authorityAnswers claim answer)) := by
  have kept := sound.extend [.authorityAnswers claim answer]
  unfold SinkState.step
  dsimp only
  split
  · rename_i named attempt pending found
    obtain rfl : named = claim := Table.key_of_find? _ found
    apply kept.setPhase found (by exact id)
    obtain ⟨error, refused⟩ | ⟨authority, rfl, resolving, allowed⟩ :=
      answerAuthority_cases state pending answer
    · rw [refused]
      exact .intro
    · rw [resolving]
      obtain ⟨same, started⟩ := sound.justified _ _ found
      exact ⟨same, events, [], rfl, started, allowed⟩
  · exact kept

include reached

theorem step_resource (claim : ClaimId)
    (answer : Option ResourceAnswer) : Sound env (events ++ [.resourceAnswers claim answer])
      (state.step env (.resourceAnswers claim answer)) := by
  have kept := sound.extend [.resourceAnswers claim answer]
  unfold SinkState.step
  dsimp only
  split
  · rename_i named attempt pending authority found
    obtain rfl : named = claim := Table.key_of_find? _ found
    apply kept.setPhase found (by exact id)
    obtain ⟨error, refused⟩ | ⟨resource, rfl, returned, notAborted, current⟩ :=
      answerResource_cases state pending authority answer
    · rw [refused]
      exact .intro
    · rw [returned]
      subst reached
      obtain ⟨same, revalidated⟩ := sound.justified _ _ found
      exact ⟨_, same, events, resource, [], pending, authority, rfl, revalidated, notAborted,
        current, rfl, rfl⟩
  · exact kept

theorem step (event : SinkEvent) : Sound env (events ++ [event]) (state.step env event) := by
  cases event with
  | create options => exact sound.step_create reached options
  | claim options => exact sound.step_claim reached options
  | authorityAnswers claim answer => exact sound.step_authority claim answer
  | resourceAnswers claim answer => exact sound.step_resource reached claim answer
  | abort signal =>
    have kept := sound.extend [.abort signal]
    exact ⟨kept.created, kept.claimed, kept.justified, kept.used, kept.once⟩
  | mint input token =>
    have kept := sound.extend [.mint input token]
    unfold SinkState.step
    dsimp only
    split
    · exact kept
    · exact kept.withPermits _
  | consume token expected now => exact (sound.extend [.consume token expected now]).withPermits _

end Sound

theorem sound_run (env : SinkEnv) (events : List SinkEvent) :
    Sound env events (.run env events) := by
  induction events using List.reverseRecOn with
  | nil => exact sound_initial env
  | append_singleton events event induction =>
    rw [SinkState.run, runAll_append]
    exact induction.step rfl event

/-- The four events behind a receipt, with all that happens around them. -/
structure ClaimHistory where
  beforeCreate : List SinkEvent
  createOptions : CreateOptions
  beforeClaim : List SinkEvent
  claimOptions : ClaimOptions
  beforeAuthority : List SinkEvent
  authority : AuthorityAnswer
  beforeResource : List SinkEvent
  resource : ResourceAnswer
  after : List SinkEvent

namespace ClaimHistory

variable (history : ClaimHistory) (claim : ClaimId)

def untilClaim : List SinkEvent :=
  history.beforeCreate ++ .create history.createOptions :: history.beforeClaim

/-- Up to the answer of the resource, where the signal is checked last. -/
def untilResource : List SinkEvent :=
  (history.untilClaim ++ .claim history.claimOptions :: history.beforeAuthority) ++
    .authorityAnswers claim (some history.authority) :: history.beforeResource

def events : List SinkEvent :=
  history.untilResource claim ++ .resourceAnswers claim (some history.resource) :: history.after

structure Authorises (env : SinkEnv) (attempt : AttemptState) (binding : Binding)
    (receipt : PermitConsumptionReceipt) : Prop where
  created : createFinalProtectedSinkAttempt env
    (SinkState.run env history.beforeCreate).nextAttempt history.createOptions = .ok attempt
  started : history.claimOptions.attempt = some attempt.attempt ∧
    (SinkState.run env history.untilClaim).nextClaim = claim
  inTime : ∃ consumedAt, history.claimOptions.consumedAt = some consumedAt ∧
    consumedAt < attempt.expiresAt
  selector : history.claimOptions.targetSelector.val.SameUpToKeyOrder
    history.createOptions.targetSelector.val
  notAborted : (SinkState.run env (history.untilResource claim)).isAborted attempt.signal = false
  allowed : history.authority.allowed = .bool true ∧ history.authority.revoked ≠ .bool true
  bound : BindsClaim attempt history.claimOptions binding
  subject : normalizeSubject history.authority.subject = .ok binding.subject
  context : normalizeContext (contextWith (fieldsOf history.authority.context)
    history.resource.resourceRevision) = .ok binding.context
  effect : normalizeEffect history.resource.effect = .ok binding.effect
  receipt : BoundReceipt env binding receipt

end ClaimHistory

def selectors (events : List SinkEvent) : List JsonValue :=
  events.filterMap fun
    | .create options => some options.targetSelector
    | .claim options => some options.targetSelector
    | _ => none

def CollisionFree (env : SinkEnv) (events : List SinkEvent) : Prop :=
  ∀ left ∈ selectors events, ∀ right ∈ selectors events,
    env.canonicalDigest left.val = env.canonicalDigest right.val →
      canonicalJson left.val = canonicalJson right.val

theorem selectorDigest_ok
    (ok : selectorDigest env value = .ok digest) : env.canonicalDigest value.val = digest := by
  unfold selectorDigest at ok
  split at ok
  · exact Except.ok.inj ok
  · cases ok

theorem selector_of_create (ok : createFinalProtectedSinkAttempt env id options = .ok attempt) :
    env.canonicalDigest options.targetSelector.val = attempt.targetSelectorDigest := by
  unfold createFinalProtectedSinkAttempt at ok
  split at ok
  · split at ok
    · cases ok
    · obtain ⟨_, -, ok⟩ := bind_eq_ok.mp ok
      obtain ⟨_, -, ok⟩ := bind_eq_ok.mp ok
      obtain ⟨_, -, ok⟩ := bind_eq_ok.mp ok
      obtain ⟨_, -, ok⟩ := bind_eq_ok.mp ok
      obtain ⟨_, -, ok⟩ := bind_eq_ok.mp ok
      obtain ⟨_, -, ok⟩ := bind_eq_ok.mp ok
      obtain ⟨_, digest, ok⟩ := bind_eq_ok.mp ok
      cases ok
      exact selectorDigest_ok digest
  · cases ok

theorem Resolved.history {events : List SinkEvent} (resolved : Resolved env events claim id receipt)
    (collisionFree : CollisionFree env events) : ∃ history : ClaimHistory, history.events claim =
      events ∧ ∃ attempt binding, attempt.attempt = id ∧
      history.Authorises claim env attempt binding receipt := by
  obtain ⟨_, resource, after, pending, authority, rfl, revalidated, notAborted, current, rfl,
    rfl⟩ := resolved
  obtain ⟨_, beforeResource, rfl, started, allowed⟩ := revalidated
  obtain ⟨_, claimOptions, beforeAuthority, rfl, number, named, created, admitted⟩ := started
  obtain ⟨beforeCreate, createOptions, beforeClaim, rfl, made⟩ := created
  obtain ⟨consumedAt, checked⟩ := admitted.checked
  have parts := normalizeBinding_ok current
  refine ⟨⟨beforeCreate, createOptions, beforeClaim, claimOptions, beforeAuthority, authority,
    beforeResource, resource, after⟩, rfl, pending.state, pending.binding, rfl, ?_⟩
  refine ⟨made, ⟨named, number⟩, ⟨consumedAt, checked.clock, checked.inTime⟩, ?_, notAborted,
    allowed, bindsClaim checked.normalized, parts.subject, parts.context, parts.effect,
    admitted.receipt⟩
  apply (canonicalJson_eq_iff claimOptions.targetSelector.property
    createOptions.targetSelector.property).mp
  apply collisionFree
  · simp [selectors]
  · simp [selectors]
  · rw [selectorDigest_ok checked.selector, selector_of_create made]

/-- At most one claim of an attempt returns a receipt, and only under current authority. -/
theorem receipts_once_under_current_authority (env : SinkEnv) (events : List SinkEvent)
    (collisionFree : CollisionFree env events) : (∀ claim row claim' row' receipt receipt',
      (SinkState.run env events).claims.find? claim = some row →
        (SinkState.run env events).claims.find? claim' = some row' →
          row.phase = .returned receipt → row'.phase = .returned receipt' →
            row.attempt = row'.attempt → claim = claim') ∧
      ∀ claim row receipt, (SinkState.run env events).claims.find? claim = some row →
        row.phase = .returned receipt →
          ∃ history : ClaimHistory, history.events claim = events ∧
            ∃ attempt binding, row.attempt = some attempt.attempt ∧
              history.Authorises claim env attempt binding receipt := by
  have sound := sound_run env events
  constructor
  · intro claim row claim' row' receipt receipt' found found' returned returned' same
    apply sound.once claim row claim' row' found found' _ _ same
    · rw [returned]
      exact id
    · rw [returned']
      exact id
  · intro claim row receipt found returned
    have justified := sound.justified claim row found
    rw [returned] at justified
    obtain ⟨id, same, resolved⟩ := justified
    obtain ⟨history, whole, attempt, binding, rfl, authorises⟩ := resolved.history collisionFree
    exact ⟨history, whole, attempt, binding, same, authorises⟩

def sampleDigests : List (String × String) :=
  [("\x7b\"url\":\"https://a\"\x7d",
      "93d365137e46281e8b8cac2dd3f436e82b289681da7b771258d0f57a1d82dc77"),
    ("mxp_AAAAAAAAAAAAAAAAAAAAAAAAAAAAAAAAAAAAAAAAAAA",
      "0564eb97aaf682542d5d98d14042f761cd5beb86b0f38857c1f8824421991e99"),
    ("\x7b\"proofRef\":\"p\",\"schemaVersion\":\"v0.0.1:security:governed-execution-" ++
      "proof-reference-1\"\x7d",
      "3f209e22d4de1ae3436e874f6b716b7a69b650b4759dc095f3365ad62578ba51"),
    ("\x7b\"generation\":\"1\",\"grantId\":\"\",\"orgId\":\"\",\"subjectId\":\"u\"," ++
      "\"tenantId\":\"t\",\"type\":\"user\"\x7d",
      "b2fb390726665eb593472cedd10187dfeadf42a3278fc09a4bc5210029268f38"),
    ("\x7b\"context\":\x7b\"approvalRevision\":\"1\",\"grantRevision\":\"1\",\"polic" ++
      "yRevision\":\"1\",\"resourceRevision\":\"1\",\"riskRevision\":\"1\",\"workload" ++
      "Generation\":\"1\"\x7d,\"effect\":\x7b\"kind\":\"http\",\"targetDigest\":\"93d" ++
      "365137e46281e8b8cac2dd3f436e82b289681da7b771258d0f57a1d82dc77\"\x7d\x7d",
      "50600046e841fb85fe9ea4095629dc3e5bf6b6ef2f5d1d3cf191dcc69d6a28c2"),
    ("\x7b\x7d",
      "44136fa355b3678a1146ad16f7e8649e94fb4fc21fe77e8310c060f61caaff8a")]

def sampleEnv : SinkEnv where
  sha256 := fun text => digestOfHex ((sampleDigests.lookup text).getD "")

def sampleSelector : JsonValue := ⟨.obj [("url", .str "https://a")], rfl⟩

def sampleToken : PermitToken :=
  ⟨"mxp_AAAAAAAAAAAAAAAAAAAAAAAAAAAAAAAAAAAAAAAAAAA", by decide +kernel⟩

def sampleSubject : Json :=
  .obj [("generation", .str "1"), ("subjectId", .str "u"), ("tenantId", .str "t"),
    ("type", .str "user")]

def sampleContext : Json :=
  .obj [("approvalRevision", .str "1"), ("grantRevision", .str "1"), ("policyRevision", .str "1"),
    ("riskRevision", .str "1"), ("workloadGeneration", .str "1")]

def sampleEffect : Json :=
  .obj [("kind", .str "http"), ("targetDigest",
    .str "93d365137e46281e8b8cac2dd3f436e82b289681da7b771258d0f57a1d82dc77")]

def sampleCreate : CreateOptions where
  audience := .str "sink"
  subject := sampleSubject
  operationId := .str "fetch"
  requestDigest := .str "44136fa355b3678a1146ad16f7e8649e94fb4fc21fe77e8310c060f61caaff8a"
  context := sampleContext
  targetSelector := sampleSelector
  proofRef := .str "p"
  authorization := .obj []
  approval := .obj []
  risk := .obj []
  dependenciesAreFunctions := true
  signal := none
  issuedAt := some 0
  ttlMs := 15000

def sampleClaim : ClaimOptions where
  attempt := some 0
  targetSelector := sampleSelector
  effect := sampleEffect
  resourceRevision := .str "1"
  resolverIsFunction := true
  consumedAt := some 10
  now := some 11
  token := sampleToken

/-- A second claim comes while the first one waits. -/
def sampleEvents : List SinkEvent :=
  [.create sampleCreate, .claim sampleClaim, .claim sampleClaim,
    .authorityAnswers 0 (some ⟨.bool true, .bool false, sampleSubject, sampleContext⟩),
    .resourceAnswers 0 (some ⟨sampleEffect, .str "1"⟩)]

def returnedClaims (state : SinkState) : List ClaimId :=
  state.claims.rows.filterMap fun row =>
    match row.phase with
    | .returned _ => some row.claim
    | _ => none

theorem fieldMatches_sinkText (text : SinkText) :
    fieldMatches (textOf (SinkText.toJson text)) (SinkText.toJson text) = true := by
  simp [fieldMatches, textOf_sinkText, text.property.1]

variable {attempt : AttemptState} {options : ClaimOptions} {now : Int}

/-- A permit is accepted by the sink that has just minted it. -/
theorem usePermit_accepts (proof : env.proofReferenceDigest attempt.proofRef = .ok proofRef)
    (answered : options.now = some now)
    (live : now < consumedAt + lifetimeOf defaultTtlMs (max 1 (attempt.expiresAt - consumedAt)))
    (permits : ActivePermits) (binding : Binding) : ∃ next receipt,
      usePermit env permits attempt binding consumedAt options = (next, .ok receipt) := by
  have filled (text : SinkText) : textOf (SinkText.toJson text) ≠ "" := by
    rw [textOf_sinkText]
    exact text.property.1
  have digest : SinkDigest.toJson binding.requestDigest =
    SinkText.toJson binding.requestDigest.val := rfl
  unfold usePermit mintGovernedExecutionPermit
  simp only [mintInput, proof, bind, Except.bind, digest, filled, decide_false, Bool.or_self,
    Bool.false_eq_true, if_false, normalizeBinding_toJson, consumeGovernedExecutionPermit,
    options.token.property.2, options.token.property.1, Bool.not_true, Table.find?_set, if_true]
  unfold PermitBinding.consume
  simp [answered, authorityBinding, not_le.mpr live, digest, fieldMatches_sinkText]

/-- A claim that meets every check waits for the current authority. -/
theorem claimAttempt_accepts
    (clock : options.consumedAt = some consumedAt) (quiet : attempt.signal = none)
    (selector : selectorDigest env options.targetSelector = .ok attempt.targetSelectorDigest)
    (resolver : options.resolverIsFunction = true)
    (claimed : normalizeBinding (claimedBinding attempt options) = .ok binding)
    (proof : env.proofReferenceDigest attempt.proofRef = .ok proofRef)
    (answered : options.now = some now)
    (live : now < consumedAt + lifetimeOf defaultTtlMs (max 1 (attempt.expiresAt - consumedAt)))
    (inTime : consumedAt < attempt.expiresAt) (state : SinkState) :
    ∃ permits receipt, claimAttempt env state attempt options =
      (permits, .revalidating ⟨attempt, binding, receipt⟩) := by
  have notAborted : state.isAborted attempt.signal = false := by
    rw [quiet]
    rfl
  have checked : checkClaim env state attempt options = .ok (binding, consumedAt) := by
    simp [checkClaim, clock, inTime, notAborted, resolver, selector, claimed, bind,
      Except.bind, pure, Except.pure]
  obtain ⟨permits, receipt, used⟩ := usePermit_accepts proof answered live state.permits binding
  exact ⟨permits, receipt, by simp [claimAttempt, checked, used, notAborted]⟩

def afterCreate (attempt : AttemptState) : SinkState :=
  { SinkState.initial with
    attempts := SinkState.initial.attempts.set attempt
    nextAttempt := 1 }

/-- A second claim of the attempt comes while the first one waits. -/
theorem returnedClaims_of_answers {create : CreateOptions} {claim : ClaimOptions}
    {pending : PendingClaim} {authority : AuthorityAnswer} {resource : ResourceAnswer}
    {permits : ActivePermits} (created : createFinalProtectedSinkAttempt env 0 create = .ok attempt)
    (named : claim.attempt = some attempt.attempt)
    (claimed : claimAttempt env (afterCreate attempt) attempt claim =
      (permits, .revalidating pending))
    (allowed : ∀ state, answerAuthority state pending (some authority) =
      .resolving pending authority)
    (current : ∀ state, answerResource state pending authority (some resource) =
      .returned receipt) :
    returnedClaims (SinkState.run env [.create create, .claim claim, .claim claim,
      .authorityAnswers 0 (some authority), .resourceAnswers 0 (some resource)]) = [0] := by
  have first : SinkState.initial.step env (.create create) = afterCreate attempt := by
    have fresh : createFinalProtectedSinkAttempt env SinkState.initial.nextAttempt create =
      .ok attempt := created
    simp only [SinkState.step, fresh]
    rfl
  have found : (afterCreate attempt).attempts.find? attempt.attempt = some attempt := by
    simp [afterCreate, Table.find?_set]
  have second : (afterCreate attempt).step env (.claim claim) =
      { afterCreate attempt with
        attempts := (afterCreate attempt).attempts.deleteWhere fun other =>
          other.attempt = attempt.attempt
        permits := permits }.addClaim claim.attempt (.revalidating pending) := by
    simp only [SinkState.step, named, bind_some, found, claimed]
  have gone : ((afterCreate attempt).attempts.deleteWhere fun other =>
      other.attempt = attempt.attempt).find? attempt.attempt = none := by
    apply eq_none_iff_forall_ne_some.mpr
    intro other present
    obtain ⟨inTable, kept⟩ := Table.find?_deleteWhere.mp present
    simp [Table.key_of_find? _ inTable] at kept
  rw [SinkState.run, Library.runAll_cons, first, Library.runAll_cons, second, Library.runAll_cons]
  generalize state : ({ afterCreate attempt with
      attempts := (afterCreate attempt).attempts.deleteWhere fun other =>
        other.attempt = attempt.attempt
      permits := permits } : SinkState).addClaim claim.attempt (.revalidating pending) = waiting
  have third : waiting.step env (.claim claim) =
      waiting.addClaim claim.attempt (.refused .unknownOrReplayed) := by
    subst state
    simp only [SinkState.step, SinkState.addClaim, named, bind_some, gone]
  have rows : (waiting.addClaim claim.attempt (.refused .unknownOrReplayed)).claims.rows =
      [⟨0, claim.attempt, .revalidating pending⟩,
        ⟨1, claim.attempt, .refused .unknownOrReplayed⟩] := by
    subst state
    rfl
  rw [third]
  generalize kept : waiting.addClaim claim.attempt (.refused .unknownOrReplayed) = refused at rows
  have fourth : refused.step env (.authorityAnswers 0 (some authority)) =
      refused.setPhase ⟨0, claim.attempt, .revalidating pending⟩
        (.resolving pending authority) := by
    simp [SinkState.step, Table.find?, rows, allowed]
  have fifth : (refused.step env (.authorityAnswers 0 (some authority))).step env
      (.resourceAnswers 0 (some resource)) =
        (refused.setPhase ⟨0, claim.attempt, .revalidating pending⟩
          (.resolving pending authority)).setPhase
            ⟨0, claim.attempt, .resolving pending authority⟩ (.returned receipt) := by
    rw [fourth]
    simp [SinkState.step, SinkState.setPhase, Table.find?_set, current]
  rw [Library.runAll_cons, Library.runAll_cons, Library.runAll_nil, fifth]
  subst kept state
  rfl

def sampleBinding : Binding where
  audience := ⟨"sink", by decide +kernel⟩
  subject := ⟨⟨"1", by decide +kernel⟩, ⟨"u", by decide +kernel⟩, ⟨"t", by decide +kernel⟩,
    ⟨"user", by decide +kernel⟩⟩
  operationId := ⟨"fetch", by decide +kernel⟩
  effect := ⟨⟨"http", by decide +kernel⟩,
    ⟨⟨"93d365137e46281e8b8cac2dd3f436e82b289681da7b771258d0f57a1d82dc77", by decide +kernel⟩,
      by decide +kernel⟩⟩
  requestDigest :=
    ⟨⟨"44136fa355b3678a1146ad16f7e8649e94fb4fc21fe77e8310c060f61caaff8a", by decide +kernel⟩,
      by decide +kernel⟩
  context := ⟨⟨⟨"1", by decide +kernel⟩, ⟨"1", by decide +kernel⟩, ⟨"1", by decide +kernel⟩,
    ⟨"1", by decide +kernel⟩, ⟨"1", by decide +kernel⟩⟩, ⟨"1", by decide +kernel⟩⟩

def sampleAttempt : AttemptState where
  attempt := 0
  audience := sampleBinding.audience
  subject := sampleBinding.subject
  operationId := sampleBinding.operationId
  requestDigest := sampleBinding.requestDigest
  context := sampleBinding.context.toAttemptContext
  targetSelectorDigest := sampleEnv.canonicalDigest sampleSelector.val
  proofRef := .str "p"
  authorization := .obj []
  approval := .obj []
  risk := .obj []
  signal := none
  expiresAt := 15000

theorem selector_sample :
    selectorDigest sampleEnv sampleSelector = .ok sampleAttempt.targetSelectorDigest := by
  simp only [selectorDigest, sampleSelector, sampleAttempt]

theorem create_sample :
    createFinalProtectedSinkAttempt sampleEnv 0 sampleCreate = .ok sampleAttempt := by
  have keys : requireKeys sampleContext attemptContextKeys = .ok () := requireKeys_obj rfl
  have fields : sampleContext = .obj sampleBinding.context.toAttemptContext.fields := rfl
  have context : normalizeAttemptContext sampleContext =
      .ok sampleBinding.context.toAttemptContext := by
    rw [fields]
    simp [normalizeAttemptContext, AttemptContext.fields, Json.get, SinkText.toJson, bind,
      Except.bind, pure, Except.pure]
  have subject : normalizeSubject sampleSubject = .ok sampleBinding.subject :=
    normalizeSubject_toJson sampleBinding.subject
  have audience : requiredText sampleCreate.audience = .ok sampleBinding.audience :=
    requiredText_str sampleBinding.audience
  have operationId : requiredText sampleCreate.operationId = .ok sampleBinding.operationId :=
    requiredText_str sampleBinding.operationId
  have requestDigest : requiredDigest sampleCreate.requestDigest =
      .ok sampleBinding.requestDigest := requiredDigest_str sampleBinding.requestDigest
  have selector : sampleCreate.targetSelector = sampleSelector := rfl
  have functions : sampleCreate.dependenciesAreFunctions = true := rfl
  have clock : sampleCreate.issuedAt = some 0 := rfl
  simp only [createFinalProtectedSinkAttempt, functions, clock, audience, operationId,
    requestDigest, selector, selector_sample, show sampleCreate.context = sampleContext from rfl, keys, context,
    show sampleCreate.subject = sampleSubject from rfl, subject, bind, Except.bind, pure,
    Except.pure, if_true]
  rfl

theorem claim_sample (state : SinkState) :
    ∃ permits receipt, claimAttempt sampleEnv state sampleAttempt sampleClaim =
      (permits, .revalidating ⟨sampleAttempt, sampleBinding, receipt⟩) := by
  have accepted : ("p" = "" || SinkEnv.maxProofRefBytes < Json.byteLength "p".toList ||
      "p".toList.any SinkEnv.isControlOrFormat) = false := by decide +kernel
  have proof : ∃ digest, sampleEnv.proofReferenceDigest (.str "p") = .ok digest := by
    simp only [SinkEnv.proofReferenceDigest, accepted, Bool.false_eq_true, if_false]
    exact ⟨_, rfl⟩
  obtain ⟨digest, proof⟩ := proof
  have same : claimedBinding sampleAttempt sampleClaim = sampleBinding.toJson := rfl
  have claimed : normalizeBinding (claimedBinding sampleAttempt sampleClaim) =
      .ok sampleBinding := by
    rw [same]
    exact normalizeBinding_toJson sampleBinding
  have selector : selectorDigest sampleEnv sampleClaim.targetSelector =
      .ok sampleAttempt.targetSelectorDigest := selector_sample
  have clock : sampleClaim.consumedAt = some 10 := rfl
  have answered : sampleClaim.now = some 11 := rfl
  exact claimAttempt_accepts clock rfl selector rfl claimed proof answered (by decide)
    (by decide) state

theorem resource_sample (state : SinkState) (receipt : PermitConsumptionReceipt) :
    answerResource state ⟨sampleAttempt, sampleBinding, receipt⟩
      ⟨.bool true, .bool false, sampleSubject, sampleContext⟩
      (some ⟨sampleEffect, .str "1"⟩) = .returned receipt := by
  have same : currentBinding sampleBinding ⟨.bool true, .bool false, sampleSubject, sampleContext⟩
      ⟨sampleEffect, .str "1"⟩ = sampleBinding.toJson := rfl
  have current : currentBindingMatches sampleBinding.toJson sampleBinding = true :=
    currentBindingMatches_iff.mpr (normalizeBinding_toJson sampleBinding)
  have notAborted : state.isAborted sampleAttempt.signal = false := rfl
  simp [answerResource, same, current, notAborted]

theorem sample_returned : returnedClaims (.run sampleEnv sampleEvents) = [0] := by
  obtain ⟨permits, receipt, claimed⟩ := claim_sample (afterCreate sampleAttempt)
  have allowed (state : SinkState) : answerAuthority state ⟨sampleAttempt, sampleBinding, receipt⟩
      (some ⟨.bool true, .bool false, sampleSubject, sampleContext⟩) =
        .resolving ⟨sampleAttempt, sampleBinding, receipt⟩
          ⟨.bool true, .bool false, sampleSubject, sampleContext⟩ := rfl
  exact returnedClaims_of_answers create_sample rfl claimed allowed
    fun state => resource_sample state receipt

theorem collisionFree_sample : CollisionFree sampleEnv sampleEvents := by
  intro left member right member' _
  have only : ∀ value ∈ selectors sampleEvents, value = sampleSelector := by
    simp [selectors, sampleEvents, sampleCreate, sampleClaim]
  rw [only left member, only right member']

theorem receipts_once_under_current_authority_sample : ∃ row receipt,
      (SinkState.run sampleEnv sampleEvents).claims.find? 0 = some row ∧ row.phase =
      .returned receipt ∧ ∃ history : ClaimHistory, history.events 0 = sampleEvents ∧
      ∃ attempt binding, row.attempt = some attempt.attempt ∧
      history.Authorises 0 sampleEnv attempt binding receipt := by
  have member : 0 ∈ returnedClaims (SinkState.run sampleEnv sampleEvents) := by
    rw [sample_returned]
    exact List.mem_singleton_self 0
  obtain ⟨row, present, shown⟩ := List.mem_filterMap.mp member
  cases phase : row.phase with
  | returned receipt =>
    rw [phase] at shown
    have claim : row.claim = 0 := some.inj shown
    have found := Table.find?_of_mem _ present
    rw [claim] at found
    exact ⟨row, receipt, found, phase, (receipts_once_under_current_authority sampleEnv
      sampleEvents collisionFree_sample).2 0 row receipt found phase⟩
  | revalidating pending =>
    rw [phase] at shown
    cases shown
  | resolving pending authority =>
    rw [phase] at shown
    cases shown
  | refused error =>
    rw [phase] at shown
    cases shown

end LicoMesh.ProtectedSink
