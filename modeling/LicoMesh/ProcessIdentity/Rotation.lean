import LicoMesh.WorkQueue.CanonicalJson
import LicoMesh.ProcessIdentity.Service
import LicoMesh.ProcessIdentity.Custody

namespace LicoMesh.ProcessIdentity

open WorkQueue
open Relation (ReflTransGen)

variable {current : ClientRecord} {existing : CapabilityKeyRecord} {input : RotateInput}
  {replies : RotationReplies} {now : Instant} {verified : Verification}
  {clients : List ClientRecord} {capabilityKey : String}

theorem createCapabilityKey_injective
    (same : createCapabilityKey drawn = createCapabilityKey other) : drawn = other := by
  have digits := congrArg String.toList same
  simp only [createCapabilityKey, String.toList_append, List.append_cancel_left_eq] at digits
  exact toString_injective (String.toList_inj.mp digits)

def oneValid (clients : List ClientRecord) : Prop := (clients.filter (·.status = .valid)).length ≤ 1

inductive CustodyChange (custody : Custody) : Custody → Prop
  | keyInvalidated (capabilityKey : String) :
      CustodyChange custody (custody.invalidateKey capabilityKey)
  | keyPut (record : CapabilityKeyRecord)
      (drawn : record.capabilityKey = createCapabilityKey custody.keysDrawn) :
      CustodyChange custody (custody.putKey record)
  | bindingInvalidated (capabilityKey credentialId : String) :
      CustodyChange custody (custody.invalidateCapabilityKeyBinding capabilityKey credentialId)
  | bound (binding : CapabilityBindingRecord) :
      CustodyChange custody (custody.bindCapabilityKey binding)
  | claimed (client : ClientRecord) (now : Instant) :
      CustodyChange custody { custody with state := custody.state.claim client now }
  | rotated (current next : ClientRecord) (now : Instant)
      (active : current ∈ custody.state.clients) (valid : current.status = .valid) :
      CustodyChange custody { custody with state := custody.state.rotate current.packageId next now }
  | revoked (packageId : String) (client : ClientRecord) (invalid : client.status ≠ .valid) :
      CustodyChange custody { custody with state := custody.state.revokePackage packageId client }
  | saved : CustodyChange custody { custody with savedState := custody.state }
  | restarted : CustodyChange custody { custody with state := custody.savedState }

abbrev CustodyMoves : Custody → Custody → Prop := ReflTransGen CustodyChange

theorem Write.done_andThen (before after : Custody) (next : Custody → Outcome) :
    Write.done.andThen before after next = next after := rfl

theorem Write.andThen_moves
    (write : Write) (reached : CustodyMoves start before) (changed : CustodyChange before after)
    (continues : CustodyMoves start after → CustodyMoves start (next after).1) :
    CustodyMoves start (write.andThen before after next).1 := by
  cases write with
  | done => exact continues (reached.tail changed)
  | failed tookEffect =>
    cases tookEffect with
    | false => exact reached
    | true => exact reached.tail changed

theorem findActiveClient_spec
    (found : findActiveClient state clientId packageId processKeyId = some client) :
    client ∈ state.clients ∧ client.status = .valid ∧ client.clientId = toText clientId ∧
      client.packageId = toText packageId ∧ client.processKeyId = toText processKeyId := by
  have matched := List.find?_some found
  simp only [Bool.and_eq_true, decide_eq_true_eq] at matched
  obtain ⟨⟨⟨valid, isClient⟩, isPackage⟩, isProcess⟩ := matched
  exact ⟨List.mem_of_find?_eq_some found, valid, isClient, isPackage, isProcess⟩

namespace Custody

variable {custody other : Custody}

theorem claim_moves (client : ClientRecord) (keyExpiresAt : String) (issue bind save : Write) :
    CustodyMoves custody (custody.claim client keyExpiresAt issue bind save).1 := by
  unfold claim
  split
  · exact .refl
  · refine issue.andThen_moves .refl (.keyPut _ rfl) fun issued => ?_
    refine bind.andThen_moves issued (.bound _) fun bound => ?_
    exact save.andThen_moves (bound.tail (.claimed _ _)) .saved id

theorem rotateKey_moves (active : current ∈ custody.state.clients)
    (valid : current.status = .valid) (invalidated : replies.invalidateKey ≠ .failed false) :
    CustodyMoves (custody.invalidateKey existing.capabilityKey)
      (custody.rotateKey current existing input replies now).1 := by
  unfold rotateKey
  cases isInvalidate : replies.invalidateKey with
  | failed tookEffect =>
    cases tookEffect with
    | false => exact absurd isInvalidate invalidated
    | true => exact .refl
  | done =>
    dsimp only [Write.done_andThen]
    refine replies.putKey.andThen_moves .refl (.keyPut _ rfl) fun put => ?_
    refine replies.invalidateBinding.andThen_moves put (.bindingInvalidated _ _) fun unbound => ?_
    refine replies.bindKey.andThen_moves unbound (.bound _) fun bound => ?_
    exact replies.save.andThen_moves (bound.tail (.rotated _ _ _ active valid)) .saved id

/-- The client and the key that a rotation replaces. -/
def rotatable (custody : Custody) (verified : Verification) :
    Option (ClientRecord × CapabilityKeyRecord) :=
  match findActiveClient custody.state verified.client.clientId verified.client.packageId
      verified.client.processKeyId,
    (custody.getKey verified.capabilityKey).filter (·.status = .valid) with
  | some current, some existing => some (current, existing)
  | _, _ => none

theorem rotate_spec (verified : Verification) (input : RotateInput) (replies : RotationReplies)
    (now : Instant) : (∃ current existing, custody.rotatable verified = some (current, existing) ∧
      replies.refusal = none ∧ custody.rotate verified input replies now =
        custody.rotateKey current existing input replies now) ∨
    ((custody.rotatable verified = none ∨ replies.refusal.isSome) ∧
      (custody.rotate verified input replies now).1 = custody ∧
      ∀ decision ∈ (custody.rotate verified input replies now).2, decision.ok = false) := by
  unfold rotate rotatable
  cases findActiveClient custody.state verified.client.clientId verified.client.packageId
      verified.client.processKeyId with
  | none =>
    exact .inr ⟨.inl rfl, rfl, by rintro _ ⟨⟩; rfl⟩
  | some current =>
    cases replies.refusal with
    | some refusal =>
      refine .inr ⟨.inr rfl, rfl, ?_⟩
      cases refusal <;> rintro _ ⟨⟩
      rfl
    | none =>
      cases (custody.getKey verified.capabilityKey).filter (·.status = .valid) with
      | none => exact .inr ⟨.inl rfl, rfl, by rintro _ ⟨⟩; rfl⟩
      | some existing => exact .inl ⟨current, existing, rfl, rfl, rfl⟩

theorem rotatable_spec (found : custody.rotatable verified = some (current, existing)) :
    findActiveClient custody.state verified.client.clientId verified.client.packageId
      verified.client.processKeyId = some current ∧
    custody.getKey verified.capabilityKey = some existing ∧ existing.status = .valid ∧
    existing.capabilityKey = verified.capabilityKey := by
  unfold rotatable at found
  split at found
  · rename_i isCurrent isExisting
    cases found
    obtain ⟨isKey, valid⟩ := Option.filter_eq_some_iff.mp isExisting
    have same := List.find?_some isKey
    exact ⟨isCurrent, isKey, by simpa using valid, by simpa using same⟩
  · cases found

theorem rotate_moves (verified : Verification) (input : RotateInput) (replies : RotationReplies)
    (now : Instant) : CustodyMoves custody (custody.rotate verified input replies now).1 := by
  obtain ⟨current, existing, found, _, isRotate⟩ | ⟨_, same, _⟩ :=
    custody.rotate_spec verified input replies now
  · rw [isRotate]
    obtain ⟨active, valid, _⟩ := findActiveClient_spec (rotatable_spec found).1
    by_cases isInvalidate : replies.invalidateKey = .failed false
    · simp only [rotateKey, isInvalidate, Write.andThen]
      exact .refl
    · exact .head (.keyInvalidated _) (rotateKey_moves active valid isInvalidate)
  · rw [same]

theorem revoke_moves (verified : Verification) (invalidateKey invalidateBinding save : Write) :
    CustodyMoves custody (custody.revoke verified invalidateKey invalidateBinding save).1 := by
  refine invalidateKey.andThen_moves .refl (.keyInvalidated _) fun invalidated => ?_
  refine invalidateBinding.andThen_moves invalidated (.bindingInvalidated _ _) fun unbound => ?_
  exact save.andThen_moves (unbound.tail (.revoked _ _ (by simp))) .saved id

theorem step_moves (event : CustodyEvent) : CustodyMoves custody (custody.step event) := by
  cases event with
  | claim client keyExpiresAt issue bind save => exact claim_moves client keyExpiresAt issue bind save
  | rotate verified input replies now => exact rotate_moves verified input replies now
  | revoke verified invalidateKey invalidateBinding save =>
    exact revoke_moves verified invalidateKey invalidateBinding save
  | restart => exact .single .restarted
  | issueKey credentialId expiresAt => exact .single (.keyPut _ rfl)
  | invalidateKey capabilityKey => exact .single (.keyInvalidated _)
  | bindKey drawn credentialId context expiresAt =>
    rw [step]
    split
    · exact .single (.bound _)
    · exact .refl
  | invalidateBinding capabilityKey credentialId => exact .single (.bindingInvalidated _ _)

theorem run_moves (events : List CustodyEvent) : CustodyMoves custody (custody.run events) := by
  induction events generalizing custody with
  | nil => exact .refl
  | cons event rest induction => exact (step_moves event).trans induction

/-- The key records have keys that were drawn, and each client list has at most one valid client. -/
structure Sound (custody : Custody) : Prop where
  drawn : ∀ record ∈ custody.keys, ∃ draw < custody.keysDrawn,
    record.capabilityKey = createCapabilityKey draw
  valid : oneValid custody.state.clients
  savedValid : oneValid custody.savedState.clients

structure Retired (custody : Custody) (capabilityKey : String) : Prop where
  drawn : ∃ draw < custody.keysDrawn, capabilityKey = createCapabilityKey draw
  invalid : ∀ record ∈ custody.keys, record.capabilityKey = capabilityKey → record.status = .invalid

end Custody

variable (only : oneValid clients)

include only in
theorem oneValid.eq (isFirst : first ∈ clients) (firstValid : first.status = .valid)
    (isSecond : second ∈ clients) (secondValid : second.status = .valid) : first = second := by
  have inFirst : first ∈ clients.filter (·.status = .valid) :=
    List.mem_filter.mpr ⟨isFirst, decide_eq_true firstValid⟩
  have inSecond : second ∈ clients.filter (·.status = .valid) :=
    List.mem_filter.mpr ⟨isSecond, decide_eq_true secondValid⟩
  unfold oneValid at only
  generalize clients.filter (·.status = .valid) = valid at *
  rcases valid with _ | ⟨client, _ | ⟨another, rest⟩⟩
  · cases inFirst
  · rw [List.mem_singleton] at inFirst inSecond
    rw [inFirst, inSecond]
  · rw [List.length_cons, List.length_cons] at only
    omega

theorem oneValid_claim (client : ClientRecord) : oneValid [client] :=
  (List.length_filter_le _ _).trans Nat.le.refl

include only

theorem rotated_invalid (active : current ∈ clients)
    (valid : current.status = .valid) (now : Instant) : ∀ client ∈ clients.map (fun client =>
      if client.packageId = current.packageId then
        { client with status := .rotated, rotatedAt := some now }
      else client), client.status ≠ .valid := by
  intro client member isValid
  obtain ⟨earlier, isEarlier, rfl⟩ := List.mem_map.mp member
  split at isValid
  · cases isValid
  · rename_i another
    rw [only.eq isEarlier isValid active valid] at another
    exact another rfl

theorem oneValid_rotate (active : current ∈ clients)
    (valid : current.status = .valid) (next : ClientRecord) (now : Instant) :
    oneValid (clients.map (fun client =>
      if client.packageId = current.packageId then
        { client with status := .rotated, rotatedAt := some now }
      else client) ++ [next]) := by
  have none_left := List.filter_eq_nil_iff.mpr fun client member isValid =>
    rotated_invalid only active valid now client member (of_decide_eq_true isValid)
  rw [oneValid, List.filter_append, none_left, List.nil_append]
  exact oneValid_claim next

theorem oneValid_revoke (invalid : revoked.status ≠ .valid) (packageId : String) :
    oneValid (clients.map fun client =>
      if client.packageId = packageId then revoked else client) := by
  refine le_trans ?_ only
  clear only
  induction clients with
  | nil => simp
  | cons client rest induction =>
    by_cases isPackage : client.packageId = packageId <;>
      by_cases isValid : client.status = .valid <;>
      simp [isPackage, isValid, invalid] <;> omega

omit only

namespace Custody

variable {custody other : Custody}

theorem Sound.change (sound : custody.Sound) (change : CustodyChange custody other) :
    other.Sound := by
  obtain ⟨drawn, valid, savedValid⟩ := sound
  cases change with
  | keyInvalidated capabilityKey =>
    refine ⟨fun record member => ?_, valid, savedValid⟩
    obtain ⟨earlier, isEarlier, rfl⟩ := List.mem_map.mp member
    split <;> exact drawn earlier isEarlier
  | keyPut record isDrawn =>
    refine ⟨fun found member => ?_, valid, savedValid⟩
    obtain member | member := List.mem_append.mp member
    · obtain ⟨draw, below, same⟩ := drawn found (List.mem_filter.mp member).1
      exact ⟨draw, below.trans (Nat.lt_succ_self _), same⟩
    · cases List.mem_singleton.mp member
      exact ⟨_, Nat.lt_succ_self _, isDrawn⟩
  | bindingInvalidated capabilityKey credentialId => exact ⟨drawn, valid, savedValid⟩
  | bound binding => exact ⟨drawn, valid, savedValid⟩
  | claimed client now => exact ⟨drawn, oneValid_claim client, savedValid⟩
  | rotated current next now active isValid =>
    exact ⟨drawn, oneValid_rotate valid active isValid next now, savedValid⟩
  | revoked packageId client invalid => exact ⟨drawn, oneValid_revoke valid invalid packageId, savedValid⟩
  | saved => exact ⟨drawn, valid, valid⟩
  | restarted => exact ⟨drawn, savedValid, savedValid⟩

theorem Retired.change (retired : custody.Retired capabilityKey)
    (change : CustodyChange custody other) : other.Retired capabilityKey := by
  obtain ⟨⟨draw, below, isDraw⟩, invalid⟩ := retired
  cases change with
  | keyInvalidated key =>
    refine ⟨⟨draw, below, isDraw⟩, fun record member same => ?_⟩
    obtain ⟨earlier, isEarlier, rfl⟩ := List.mem_map.mp member
    by_cases isKey : earlier.capabilityKey = key
    · rw [if_pos isKey]
    · rw [if_neg isKey] at same ⊢
      exact invalid earlier isEarlier same
  | keyPut record isDrawn =>
    refine ⟨⟨draw, below.trans (Nat.lt_succ_self _), isDraw⟩, fun found member same => ?_⟩
    obtain member | member := List.mem_append.mp member
    · exact invalid found (List.mem_filter.mp member).1 same
    · cases List.mem_singleton.mp member
      have later := createCapabilityKey_injective (isDrawn.symm.trans (same.trans isDraw))
      omega
  | bindingInvalidated | bound | claimed | rotated | revoked | saved | restarted =>
    exact ⟨⟨draw, below, isDraw⟩, invalid⟩

theorem Sound.moves (sound : custody.Sound) (moves : CustodyMoves custody other) : other.Sound := by
  induction moves with
  | refl => exact sound
  | tail _ change induction => exact induction.change change

theorem Retired.moves (retired : custody.Retired capabilityKey)
    (moves : CustodyMoves custody other) : other.Retired capabilityKey := by
  induction moves with
  | refl => exact retired
  | tail _ change induction => exact induction.change change

theorem sound_run (serverIdentity : ServerIdentity) (events : List CustodyEvent) :
    ((fresh serverIdentity).run events).Sound := by
  have start : (fresh serverIdentity).Sound := ⟨by simp [fresh], Nat.zero_le 1, Nat.zero_le 1⟩
  exact start.moves (run_moves events)

theorem Retired.verifies (retired : custody.Retired capabilityKey) (env : ServiceEnv)
    (client : ClientRecord) (now : Instant) :
    custody.verifies env client capabilityKey now = false := by
  have invalid : custody.verifyKey env capabilityKey now = false := by
    unfold verifyKey
    cases isKey : custody.getKey capabilityKey with
    | none => rfl
    | some record =>
      have same := List.find?_some isKey
      have status := retired.invalid record (List.mem_of_find?_eq_some isKey) (by simpa using same)
      simp [status]
  simp [Custody.verifies, invalid]

theorem Sound.retired (sound : custody.Sound) (isKey : custody.getKey capabilityKey = some record) :
    (custody.invalidateKey capabilityKey).Retired capabilityKey := by
  obtain ⟨draw, below, isDraw⟩ := sound.drawn record (List.mem_of_find?_eq_some isKey)
  have same := List.find?_some isKey
  refine ⟨⟨draw, below, (of_decide_eq_true same).symm.trans isDraw⟩, ?_⟩
  intro found member isFound
  obtain ⟨earlier, isEarlier, rfl⟩ := List.mem_map.mp member
  by_cases isKey : earlier.capabilityKey = capabilityKey
  · rw [if_pos isKey]
  · rw [if_neg isKey] at isFound
    exact absurd isFound isKey

/-- A rotation that answers `ok` with a new client leaves a package that verifies, and none with
the old key ever verifies again; any other leaves the package as it was. -/
def AllOrNothing (env : ServiceEnv) (custody : Custody) (verified : Verification)
    (input : RotateInput) (replies : RotationReplies) (now : Instant) : Prop :=
  match (custody.rotate verified input replies now).rotated with
  | some next =>
    (custody.rotate verified input replies now).1.verifies env next
        (createCapabilityKey custody.keysDrawn) now = true ∧
      ∀ (events : List CustodyEvent) (client : ClientRecord) (later : Instant),
        ((custody.rotate verified input replies now).1.run events).verifies env client
          verified.capabilityKey later = false
  | none =>
    ∀ later, (custody.rotate verified input replies now).1.verifies env verified.client
        verified.capabilityKey later =
      custody.verifies env verified.client verified.capabilityKey later

/-- The rotation stops before it has written anything, or none of its writes fails and neither
the expiry of the key nor the one of the new package has passed, or there was nothing to lose. -/
def RotatesSafely (env : ServiceEnv) (custody : Custody) (verified : Verification)
    (input : RotateInput) (replies : RotationReplies) (now : Instant) : Prop :=
  match custody.rotatable verified with
  | none => True
  | some (current, existing) =>
    replies.refusal.isSome ∨ replies.invalidateKey = .failed false ∨
      (replies = {} ∧ isExpired env existing.expiresAt now = false ∧
        isExpired env (rotatedExpiry input current) now = false) ∨
      (replies ≠ {} ∧
        ∀ later, custody.verifies env verified.client verified.capabilityKey later = false)

theorem rotateKey_fails (open_ : replies.refusal = none) (fails : replies ≠ {}) :
    (custody.rotateKey current existing input replies now).2 = none := by
  obtain ⟨refusal, invalidateKey, putKey, invalidateBinding, bindKey, save⟩ := replies
  cases open_
  cases invalidateKey with
  | failed tookEffect => rfl
  | done =>
  cases putKey with
  | failed tookEffect => rfl
  | done =>
  cases invalidateBinding with
  | failed tookEffect => rfl
  | done =>
  cases bindKey with
  | failed tookEffect => rfl
  | done =>
  cases save with
  | failed tookEffect => rfl
  | done => exact absurd rfl fails

end Custody

/-- The identifiers that the runtime makes up have no space around them. -/
structure RotateInput.Trimmed (input : RotateInput) : Prop where
  packageId : toText ("cidpkg_" ++ input.randomUUID) = "cidpkg_" ++ input.randomUUID
  processKeyId : ∀ key ∈ input.publicKey, toText key.processKeyId = key.processKeyId

theorem RotateInput.Trimmed.toText_packageId (trimmed : input.Trimmed) :
    toText (resolvePackageId input.packageId input.randomUUID) =
      resolvePackageId input.packageId input.randomUUID := by
  unfold resolvePackageId
  split
  · exact toText_toText _
  · exact trimmed.packageId

theorem matches_self (env : ServiceEnv) (capabilityKey credentialId : String)
    (client : ClientRecord) (now : Instant) : CapabilityBindingRecord.matches env
        ⟨capabilityKey, credentialId, .valid, clientBindingContext client, client.expiresAt⟩
        (clientBindingContext client) now =
      !isExpired env client.expiresAt now := by
  simp [CapabilityBindingRecord.matches, clientBindingContext]

namespace Custody

variable {custody other : Custody}

theorem rotateKey_done (current : ClientRecord) (existing : CapabilityKeyRecord)
    (input : RotateInput) (now : Instant) :
    ∃ bindings : List CapabilityBindingRecord, custody.rotateKey current existing input {} now =
        ({ custody with
            state := custody.state.rotate current.packageId (rotatedClient input current now) now
            savedState := custody.state.rotate current.packageId (rotatedClient input current now) now
            keys := ((custody.invalidateKey existing.capabilityKey).putKey
              { existing with
                capabilityKey := createCapabilityKey custody.keysDrawn
                credentialId := (rotatedClient input current now).capabilityCredentialId
                status := .valid }).keys
            bindings := bindings.filter (fun other =>
              !(other.capabilityKey = createCapabilityKey custody.keysDrawn &&
                other.credentialId = (rotatedClient input current now).capabilityCredentialId)) ++
              [⟨createCapabilityKey custody.keysDrawn,
                (rotatedClient input current now).capabilityCredentialId, .valid,
                clientBindingContext (rotatedClient input current now),
                (rotatedClient input current now).expiresAt⟩]
            keysDrawn := custody.keysDrawn + 1 },
          some { ok := true, status := some 200, client := some (rotatedClient input current now) }) :=
  ⟨_, rfl⟩

theorem findActiveClient_rotate (sound : custody.Sound) (now : Instant) (trimmed : input.Trimmed)
    (found : findActiveClient custody.state verified.client.clientId verified.client.packageId
      verified.client.processKeyId = some current) : findActiveClient
        (custody.state.rotate current.packageId (rotatedClient input current now) now)
        (rotatedClient input current now).clientId (rotatedClient input current now).packageId
        (rotatedClient input current now).processKeyId =
      some (rotatedClient input current now) := by
  obtain ⟨active, valid, isClient, _, isProcess⟩ := findActiveClient_spec found
  have sameClient : toText current.clientId = current.clientId := by rw [isClient, toText_toText]
  have sameProcess : toText (rotatedClient input current now).processKeyId =
      (rotatedClient input current now).processKeyId := by
    unfold rotatedClient
    cases isKey : input.publicKey with
    | none =>
      change toText current.processKeyId = current.processKeyId
      rw [isProcess, toText_toText]
    | some key => exact trimmed.processKeyId key isKey
  unfold findActiveClient State.rotate
  rw [List.find?_append, List.find?_eq_none.mpr, Option.none_or, List.find?_cons_of_pos]
  · have active : (rotatedClient input current now).status = .valid := rfl
    have isPackage : (rotatedClient input current now).packageId =
        resolvePackageId input.packageId input.randomUUID := rfl
    have isCurrent : (rotatedClient input current now).clientId = current.clientId := rfl
    rw [active, isPackage, isCurrent, sameClient, trimmed.toText_packageId, sameProcess]
    simp only [decide_true, Bool.and_self]
  · intro client member isActive
    simp only [Bool.and_eq_true, decide_eq_true_eq] at isActive
    exact rotated_invalid sound.valid active valid now client member isActive.1.1.1

theorem verifies_rotateKey (env : ServiceEnv) (sound : custody.Sound) (now later : Instant)
    (trimmed : input.Trimmed)
    (found : findActiveClient custody.state verified.client.clientId verified.client.packageId
      verified.client.processKeyId = some current) :
    (custody.rotateKey current existing input {} now).1.verifies env
        (rotatedClient input current now) (createCapabilityKey custody.keysDrawn) later =
      (!isExpired env existing.expiresAt later && !isExpired env (rotatedExpiry input current) later) := by
  obtain ⟨bindings, isRotate⟩ := custody.rotateKey_done current existing input now
  have named : (rotatedClient input current now).capabilityCredentialId ≠ "" := by
    intro empty
    have length := congrArg String.length empty
    simp [rotatedClient, credentialIdOf] at length
  have bound : (bindings.filter (fun other =>
        !(other.capabilityKey = createCapabilityKey custody.keysDrawn &&
          other.credentialId = (rotatedClient input current now).capabilityCredentialId))).filter
      (fun other => other.capabilityKey = createCapabilityKey custody.keysDrawn &&
        ((rotatedClient input current now).capabilityCredentialId = "" ||
          other.credentialId = (rotatedClient input current now).capabilityCredentialId)) = [] := by
    simp [List.filter_filter, List.filter_eq_nil_iff, named]
  rw [isRotate, Custody.verifies]
  rw [findActiveClient_rotate sound now trimmed found, Option.any_some]
  congr 1
  · rw [verifyKey, getKey, putKey, List.find?_append, List.find?_eq_none.mpr, Option.none_or]
    · simp
    · intro record member
      simpa using (List.mem_filter.mp member).2
  · rw [verifyBinding, List.filter_append, bound]
    simp [matches_self, named]
    rfl

theorem allOrNothing_of_unchanged (same : (custody.rotate verified input replies now).1 = custody)
    (refused : (custody.rotate verified input replies now).rotated = none) :
    AllOrNothing env custody verified input replies now := by
  unfold AllOrNothing
  rw [refused, same]
  exact fun _ => rfl

def sampleRotator : ClientRecord where
  packageId := "cidpkg_a"
  clientId := "client-a"
  processKeyId := "pk_a"
  processPublicKeyPem := "pem-a"
  clientFingerprint := {}
  identityGeneration := 1
  capabilityCredentialId := "procid_cidpkg_a"
  status := .valid
  issuedAt := 0
  expiresAt := ""

def sampleClaim : List CustodyEvent := [.claim sampleRotator "" .done .done .done]

def sampleVerification : Verification := ⟨sampleRotator, createCapabilityKey 0⟩

def sampleRotation : RotateInput := { packageId := "cidpkg_b" }

theorem sampleRotation_trimmed : sampleRotation.Trimmed := ⟨by decide, by rintro _ ⟨⟩⟩

end Custody

end LicoMesh.ProcessIdentity
