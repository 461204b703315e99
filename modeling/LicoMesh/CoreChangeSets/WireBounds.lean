import Mathlib.Data.Nat.Digits.Defs
import LicoMesh.CoreChangeSets.Preview
import LicoMesh.CoreChangeSets.Resync

namespace LicoMesh.CoreChangeSets

open ServiceCollaborationLimits Bool

open EffectCommands (isIdentity isIdentityChar)
open Library WorkQueue
open WorkQueue.Json (byteLength quote joinComma escapeChar)

/-! Which calls of an authorized client the wire contract lets the authority answer. -/

variable {operations : List Operation} {input : OpenInput} {request : CommitRequest}
  {lookup : AuthorityLookup}

section Size

/-- A character that JSON prints as itself, in one byte. -/
def isPlain (c : Char) : Prop := escapeChar c = [c] ∧ c.utf8Size = 1

instance (c : Char) : Decidable (isPlain c) := inferInstanceAs (Decidable (_ ∧ _))

theorem byteLength_append (left right : List Char) :
    byteLength (left ++ right) = byteLength left + byteLength right := by
  simp [byteLength]

theorem byteLength_cons (c : Char) (rest : List Char) :
    byteLength (c :: rest) = c.utf8Size + byteLength rest := by
  simp [byteLength]

theorem byteLength_plain (plain : ∀ c ∈ text, isPlain c) :
    byteLength text = text.length ∧ text.flatMap escapeChar = text := by
  induction text with
  | nil => exact ⟨rfl, rfl⟩
  | cons c rest induction =>
    obtain ⟨escaped, size⟩ := plain c List.mem_cons_self
    obtain ⟨length, same⟩ := induction fun c member => plain c (.tail _ member)
    rw [byteLength_cons, length, size, List.flatMap_cons, escaped, same, List.length_cons]
    exact ⟨Nat.add_comm _ _, rfl⟩

theorem byteLength_quote (plain : ∀ c ∈ text.toList, isPlain c) :
    byteLength (quote text) = text.toList.length + 2 := by
  obtain ⟨length, same⟩ := byteLength_plain plain
  rw [quote, byteLength_cons, byteLength_append, same, length]
  change 1 + (text.toList.length + 1) = _
  omega

theorem byteLength_joinComma (each : ∀ item ∈ items, byteLength item ≤ bound) :
    byteLength (joinComma items) ≤ items.length * (bound + 1) := by
  induction items with
  | nil => exact Nat.zero_le _
  | cons first rest induction =>
    have here := each first List.mem_cons_self
    have later := induction fun item member => each item (.tail _ member)
    cases rest with
    | nil =>
      rw [joinComma, List.length_singleton]
      omega
    | cons second rest =>
      have unfolded : joinComma (first :: second :: rest) =
          first ++ ',' :: joinComma (second :: rest) := rfl
      rw [unfolded, byteLength_append, byteLength_cons, List.length_cons, Nat.succ_mul]
      change byteLength first + (1 + _) ≤ _
      omega

theorem renderItems_str (texts : List String) :
    Json.renderItems (texts.map .str) = texts.map quote := by
  induction texts with
  | nil => rfl
  | cons text rest induction => rw [List.map_cons, Json.renderItems, induction]; rfl

theorem byteLength_texts {texts : List String}
    (each : ∀ text ∈ texts, (∀ c ∈ text.toList, isPlain c) ∧ text.toList.length ≤ bound) :
    byteLength (Json.arr (texts.map .str)).render ≤ texts.length * (bound + 2 + 1) + 2 := by
  have items : ∀ item ∈ texts.map quote, byteLength item ≤ bound + 2 := by
    intro item member
    obtain ⟨text, isText, rfl⟩ := List.mem_map.mp member
    obtain ⟨plain, short⟩ := each text isText
    rw [byteLength_quote plain]
    omega
  have joined := byteLength_joinComma items
  rw [List.length_map] at joined
  rw [Json.render, renderItems_str, byteLength_cons, byteLength_append]
  change 1 + (_ + 1) ≤ _
  omega

theorem isPlain_of_isIdentityChar (allowed : isIdentityChar c) : isPlain c := by
  have ascii : c.toNat < 128 := by
    unfold isIdentityChar Char.isAlphanum Char.isAlpha Char.isUpper Char.isLower
      Char.isDigit at allowed
    simp only [or_eq_true, decide_eq_true_eq, and_eq_true, UInt32.le_iff_toNat_le,
      ge_iff_le] at allowed
    rcases allowed with ((((((letter | letter) | digit) | rfl) | rfl) | rfl) | rfl)
    · exact Nat.lt_of_le_of_lt letter.2 (by decide)
    · exact Nat.lt_of_le_of_lt letter.2 (by decide)
    · exact Nat.lt_of_le_of_lt digit.2 (by decide)
    all_goals decide
  have table : ∀ code < 128, isIdentityChar (Char.ofNat code) → isPlain (Char.ofNat code) := by
    decide
  have plain := table c.toNat ascii
  rw [Char.ofNat_toNat] at plain
  exact plain allowed

def IsId (text : String) : Prop := opaqueId text ∧ toText text = text

theorem IsId.plain (isId : IsId text) :
    (∀ c ∈ text.toList, isPlain c) ∧ text.toList.length ≤ 127 := by
  obtain ⟨isOpaque, trimmed⟩ := isId
  unfold opaqueId boundedText at isOpaque
  rw [trimmed] at isOpaque
  split at isOpaque
  · cases chars : text.toList with
    | nil => exact ⟨nofun, Nat.zero_le _⟩
    | cons first rest =>
      rw [chars, isIdentity] at isOpaque
      simp only [and_eq_true, decide_eq_true_eq, List.all_eq_true] at isOpaque
      obtain ⟨⟨⟨letter, _⟩, short⟩, allowed⟩ := isOpaque
      refine ⟨fun c member => isPlain_of_isIdentityChar ?_, by rw [List.length_cons]; omega⟩
      cases member with
      | head => simp [isIdentityChar, letter]
      | tail _ member => exact allowed c member
  · cases isOpaque

theorem plain_resourceUri (isSet : IsId workingSetId) (isEntity : IsId entityId) :
    (∀ c ∈ (resourceUriFor workingSetId entityId).toList, isPlain c) ∧
      (resourceUriFor workingSetId entityId).toList.length ≤ 279 := by
  have slash : isPlain '/' := by decide
  have scheme : ∀ c ∈ resourceUriPrefix.toList, isPlain c := by
    rw [← List.forall_iff_forall_mem]
    decide
  have length : resourceUriPrefix.toList.length = 24 := by decide
  obtain ⟨setPlain, setShort⟩ := isSet.plain
  obtain ⟨entityPlain, entityShort⟩ := isEntity.plain
  unfold resourceUriFor
  simp only [String.toList_append, List.mem_append, List.length_append]
  refine ⟨?_, by change _ + _ + 1 + _ ≤ _; omega⟩
  rintro c (((member | member) | member) | member)
  · exact scheme c member
  · exact setPlain c member
  · cases List.mem_singleton.mp member
    exact slash
  · exact entityPlain c member

theorem plain_toString (safe : n ≤ maxSafeInteger) :
    (∀ c ∈ (toString n).toList, isPlain c) ∧ (toString n).toList.length ≤ 16 := by
  have text : (toString n).toList = Nat.toDigits 10 n := by
    rw [Nat.toString_eq_ofList_toDigits, String.toList_ofList]
  rw [text]
  constructor
  · intro c member
    have digit := Nat.isDigit_of_mem_toDigits (by decide) (by decide) member
    exact isPlain_of_isIdentityChar (by simp [isIdentityChar, Char.isAlphanum, digit])
  · rw [Nat.length_toDigits_le_iff (by decide) (by decide)]
    exact Nat.lt_of_le_of_lt safe (by decide)

theorem byteLength_snapshot {snapshot : SnapshotRecord}
    (isSet : IsId workingSetId) (ids : ∀ id ∈ snapshot.entityIds, IsId id)
    (few : snapshot.entityIds.length ≤ ServiceCollaborationLimits.maxResourceLinks)
    (uris : snapshot.resourceUris = snapshot.entityIds.map (resourceUriFor workingSetId))
    (sequence : snapshot.snapshotSeq ≤ maxSafeInteger) (head : snapshot.head ≤ maxSafeInteger) :
    snapshot.byteLength ≤ ServiceCollaborationLimits.maxSnapshotBytes := by
  have entities := byteLength_texts fun id member => (ids id member).plain
  have each : ∀ uri ∈ snapshot.resourceUris,
      (∀ c ∈ uri.toList, isPlain c) ∧ uri.toList.length ≤ 279 := by
    rw [uris]
    rintro _ member
    obtain ⟨id, isEntity, rfl⟩ := List.mem_map.mp member
    exact plain_resourceUri isSet (ids id isEntity)
  have links := byteLength_texts each
  obtain ⟨sequencePlain, sequenceShort⟩ := plain_toString sequence
  obtain ⟨headPlain, headShort⟩ := plain_toString head
  have name : byteLength (quote ("snap.ccs." ++ toString snapshot.snapshotSeq)) ≤ 27 := by
    have snap : ∀ c ∈ "snap.ccs.".toList, isPlain c := by
      rw [← List.forall_iff_forall_mem]
      decide
    rw [byteLength_quote]
    · rw [String.toList_append, List.length_append]
      change 9 + _ + 2 ≤ _
      omega
    · intro c member
      rw [String.toList_append, List.mem_append] at member
      exact member.elim (snap c) (sequencePlain c)
  have keys : byteLength (quote "snapshotId") = 12 ∧ byteLength (quote "head") = 6 ∧
      byteLength (quote "entityIds") = 11 ∧ byteLength (quote "resourceUris") = 14 ∧
      byteLength (quote "byteLength") = 12 := by decide
  have count : snapshot.resourceUris.length = snapshot.entityIds.length := by
    rw [uris, List.length_map]
  have number := (byteLength_plain headPlain).1
  have unfolded : snapshot.byteLength = byteLength ('\x7b' ::
      ((quote "snapshotId" ++ ':' :: quote ("snap.ccs." ++ toString snapshot.snapshotSeq)) ++ ',' ::
        ((quote "head" ++ ':' :: (toString snapshot.head).toList) ++ ',' ::
        ((quote "entityIds" ++ ':' :: (Json.arr (snapshot.entityIds.map .str)).render) ++ ',' ::
        ((quote "resourceUris" ++ ':' :: (Json.arr (snapshot.resourceUris.map .str)).render) ++
          ',' :: (quote "byteLength" ++ ':' :: ['0'])))) ++ ['\x7d'])) := by
    unfold SnapshotRecord.byteLength
    simp only [Json.render, Json.renderFields, joinComma, List.append_assoc, List.cons_append]
    rfl
  rw [unfolded]
  simp only [byteLength_cons, byteLength_append]
  obtain ⟨first, second, third, fourth, fifth⟩ := keys
  rw [first, second, third, fourth, fifth, number]
  change 1 + (12 + (1 + _) + (1 + (6 + (1 + _) + (1 + (11 + (1 + _) + (1 + (14 + (1 + _) +
    (1 + (12 + (1 + (1 + 0)))))))))) + (1 + 0)) ≤ 65536
  have bound : ServiceCollaborationLimits.maxResourceLinks = 64 := rfl
  rw [count] at links
  omega

end Size

def HistoryEntry.isAccepted (entry : HistoryEntry) : Bool :=
  opaqueId entry.changeId && entry.entityIds ≠ [] &&
    entry.entityIds.length ≤ ServiceCollaborationLimits.maxEntitiesPerWorkingSet &&
    entry.entityIds.all opaqueId && entry.entityIds.Nodup

structure ObserveResponse where
  workingSetId : String
  resourceUris : List String
  history : List HistoryEntry

/-- `parseObserveResponse`. -/
def ObserveResponse.isAccepted (response : ObserveResponse) : Bool :=
  opaqueId response.workingSetId && response.resourceUris ≠ [] &&
    response.resourceUris.length ≤ ServiceCollaborationLimits.maxResourceLinks &&
    response.resourceUris.all resourceUri && response.resourceUris.Nodup &&
    response.history.length ≤ ServiceCollaborationLimits.maxHistoryEntries &&
    response.history.all HistoryEntry.isAccepted

/-- `observe`; one that throws answers nothing. -/
def Authority.observe (options : Options) (authority : Authority) (id handle : String)
    (lookup : AuthorityLookup) : Option ObserveResponse :=
  (authority.workingSets id).bind fun set =>
    if options.resolveAuthorization lookup set.auth = some .ok ∧
        set.entityIdForHandle handle ≠ "" then
      (set.historyHeads.mapM set.historyByHead).bind fun history =>
        let response : ObserveResponse :=
          ⟨set.workingSetId, set.entityIds.map (resourceUriFor set.workingSetId), history⟩
        if response.isAccepted then some response else none
    else none

def Answer.isAccepted : Answer → Bool
  | .threw => false
  | .acknowledged acknowledgement | .committed acknowledgement => acknowledgement.isAccepted
  | .rebased response => response.isAccepted
  | .resynced response => response.isAccepted
  | .opened _ | .subscribed _ | .refused _ | .done | .notified _ => true

def areParsed (operations : List Operation) : Prop :=
  ∀ operation ∈ operations, IsId operation.entityId

def OpenInput.HasValidIds (input : OpenInput) : Prop :=
  opaqueId input.id ∧ ∀ id ∈ input.entityIds, opaqueId id

/-- The request satisfies the wire contract, or opens a bounded set with valid identifiers. -/
def Call.WellFormed (limits : Limits) : Call → Prop
  | .open input => input.isBounded limits ∧ input.HasValidIds ∧
      (∀ entry ∈ input.handles, handleToken entry.1) ∧
      (input.handles.map fun entry => toText entry.1).Nodup
  | .commitTurn request _ => ∃ parsed, request = some parsed ∧ ∀ changeSet ∈ parsed.changeSet,
      opaqueId changeSet.changeId ∧ areParsed changeSet.operations
  | .rebase _ _ operations _ _ => ∃ parsed, operations = some parsed ∧ areParsed parsed ∧
      parsed.length ≤ ServiceCollaborationLimits.maxOperationsPerChangeSet
  | .resync _ cursor _ => cursor.isAccepted
  | .subscribe .. | .revoke _ | .advanceGeneration _ | .notificationFor .. => True

open Call

def WorkingSet.colliding (set : WorkingSet) (operations : List Operation) (baselineHead : Int) :
    List Operation :=
  operations.filter (collides operations (if baselineHead < set.head then
    set.relevantInterveningOperations (uniqueStrings (operations.map Operation.entityId))
      baselineHead else []))

open WorkingSet

/-- A set has no more entities than an answer may link to, and the links are URIs of the wire; a
change set has no more collisions than an answer may list. -/
def Call.Fits (authority : Authority) : Call → Prop
  | .open input => input.entityIds.length ≤ ServiceCollaborationLimits.maxResourceLinks ∧
      ∀ id ∈ input.entityIds, resourceUri (resourceUriFor input.id id)
  | .commitTurn (some ⟨id, _, some changeSet⟩) _ => ∀ set, authority.workingSets id = some set →
      (set.colliding changeSet.operations changeSet.baselineHead).length ≤
        ServiceCollaborationLimits.maxConflicts
  | .rebase id _ (some operations) baselineHead _ => ∀ set, authority.workingSets id = some set →
      (set.colliding operations baselineHead).length ≤ ServiceCollaborationLimits.maxConflicts
  | _ => True

def Call.Authorized (options : Options) (authority : Authority) : Call → Prop
  | .open input => options.resolveAuthorization input.lookup
      (input.authorization.state options.defaultAuth) = some .ok
  | .commitTurn none _ => False
  | .commitTurn (some request) lookup => ∃ set, authority.workingSets request.workingSetId =
      some set ∧ options.resolveAuthorization { lookup with handle := request.handle } set.auth =
        some .ok
  | .rebase id _ _ _ lookup | .resync id _ lookup => ∃ set, authority.workingSets id = some set ∧
      options.resolveAuthorization lookup set.auth = some .ok
  | .subscribe .. | .revoke _ | .advanceGeneration _ | .notificationFor .. => False

structure WorkingSet.Fits (set : WorkingSet) (sequence : Nat) : Prop where
  id : IsId set.workingSetId
  nonempty : set.entityIds ≠ []
  few : set.entityIds.length ≤ maxResourceLinks
  ids : ∀ id ∈ set.entityIds, IsId id
  distinct : set.entityIds.Nodup
  uris : ∀ id ∈ set.entityIds, resourceUri (resourceUriFor set.workingSetId id)
  handles : ∀ entry ∈ set.handles, entry.2 ∈ set.entityIds ∨ entry.2 = ""
  head : set.head ≤ sequence
  results : ∀ changeId acknowledgement, set.changeResults changeId = some acknowledgement →
    acknowledgement.isAccepted
  committed : ∀ change ∈ set.committed, opaqueId change.changeId ∧ change.operations ≠ [] ∧
    ∀ operation ∈ change.operations, operation.entityId ∈ set.entityIds
  snapshots : ∀ head snapshot, set.snapshotsByHead head = some snapshot →
    snapshot.snapshotSeq ≤ sequence ∧ snapshot.head ≤ sequence ∧
      snapshot.entityIds = set.entityIds ∧
      snapshot.resourceUris = set.entityIds.map (resourceUriFor set.workingSetId)

structure Authority.Fits (authority : Authority) : Prop where
  keyed : Keyed authority
  sets : ∀ id set, authority.workingSets id = some set → set.Fits authority.snapshotSeq

section Sets

variable {options : Options} {authority next : Authority} {set : WorkingSet} {limits : Limits}
  {sequence later : Nat}

theorem WorkingSet.Fits.mono (fits : set.Fits sequence) (order : sequence ≤ later) :
    set.Fits later :=
  { fits with
    head := fits.head.trans order
    snapshots := fun head snapshot present =>
      let ⟨number, at_, same⟩ := fits.snapshots head snapshot present
      ⟨number.trans order, at_.trans order, same⟩ }

theorem Authority.Fits.keep (fits : authority.Fits) (same : next.workingSets = authority.workingSets)
    (order : authority.snapshotSeq ≤ next.snapshotSeq) : next.Fits := by
  refine ⟨fun id set present => fits.keyed id set (same ▸ present), fun id set present => ?_⟩
  exact (fits.sets id set (same ▸ present)).mono order

theorem Authority.Fits.write (fits : authority.Fits) (same : next.workingSets =
      (authority.setWorkingSet written.workingSetId (some written)).workingSets)
    (order : authority.snapshotSeq ≤ next.snapshotSeq) (fitting : written.Fits next.snapshotSeq) :
    next.Fits := by
  have cases' : ∀ id set, next.workingSets id = some set →
      (id = written.workingSetId ∧ set = written) ∨ authority.workingSets id = some set := by
    intro id set present
    rw [same] at present
    change (if id = _ then _ else _) = some set at present
    split at present
    · rename_i isId
      cases present
      exact .inl ⟨isId, rfl⟩
    · exact .inr present
  constructor
  · intro id set present
    obtain ⟨rfl, rfl⟩ | old := cases' id set present
    · rfl
    · exact fits.keyed id set old
  · intro id set present
    obtain ⟨_, rfl⟩ | old := cases' id set present
    · exact fitting
    · exact (fits.sets id set old).mono order

theorem Authority.Fits.close (fits : authority.Fits)
    (same : next.workingSets = (authority.setWorkingSet closed none).workingSets)
    (order : authority.snapshotSeq ≤ next.snapshotSeq) : next.Fits := by
  have open_ : ∀ id set, next.workingSets id = some set → authority.workingSets id = some set := by
    intro id set present
    rw [same] at present
    change (if id = closed then none else authority.workingSets id) = some set at present
    split at present
    · cases present
    · exact present
  exact ⟨fun id set present => fits.keyed id set (open_ id set present),
    fun id set present => (fits.sets id set (open_ id set present)).mono order⟩

theorem OpenInput.fits {input : OpenInput} (bounded : input.isBounded limits)
    (valid : input.HasValidIds) (fits : Fits authority (.open input)) (cursorSeq : Nat) :
    (input.workingSet options.defaultAuth cursorSeq (sequence + 1)).Fits (sequence + 1) := by
  obtain ⟨isOpaque, opaques⟩ := valid
  obtain ⟨few, uris⟩ := fits
  have trimmed : ∀ id ∈ input.entityIds, IsId id := by
    intro id member
    obtain ⟨_, given, _, rfl⟩ := mem_uniqueStrings.mp member
    exact ⟨opaques _ member, toText_toText given⟩
  unfold isBounded at bounded
  simp only [and_eq_true, decide_eq_true_eq] at bounded
  refine ⟨⟨isOpaque, toText_toText _⟩, fun none => ?_, few, trimmed, nodup_uniqueStrings _, uris,
    fun entry member => ?_, Nat.zero_le _, nofun, nofun, fun head snapshot present => ?_⟩
  · have length := bounded.2
    change input.entityIds = [] at none
    rw [none] at length
    exact bounded.1.1.2 (List.length_eq_zero_iff.mp length.symm)
  · obtain ⟨index, _, rfl⟩ := List.mem_mapIdx.mp member
    change input.entityIds.getD index "" ∈ input.entityIds ∨ _
    rcases Nat.lt_or_ge index input.entityIds.length with inside | outside
    · rw [List.getD_eq_getElem?_getD, List.getElem?_eq_getElem inside]
      exact .inl (List.getElem_mem inside)
    · rw [List.getD_eq_getElem?_getD, List.getElem?_eq_none outside]
      exact .inr rfl
  · change (if head = 0 then _ else _) = some snapshot at present
    split at present
    · cases present
      exact ⟨Nat.le_refl _, Nat.zero_le _, rfl, rfl⟩
    · cases present

theorem WorkingSet.Fits.keeps (fits : set.Fits sequence)
    (keeps : set.Keeps updated) : updated.Fits sequence := by
  obtain ⟨subscribers, auth, rfl⟩ := keeps
  exact ⟨fits.id, fits.nonempty, fits.few, fits.ids, fits.distinct, fits.uris, fits.handles,
    fits.head, fits.results, fits.committed, fits.snapshots⟩

theorem committedSet_fields (changeId : String) (operations : List Operation)
    (cursorSeq snapshotSeq : Nat) :
    let advanced := committedSet set limits cursorSeq snapshotSeq changeId operations
    advanced.entityIds = set.entityIds ∧ advanced.handles = set.handles ∧
    advanced.head = set.head + 1 ∧
    ∀ id, advanced.changeResults id =
      if id = changeId then some (newChange set changeId operations).acknowledgement
      else set.changeResults id := by
  unfold committedSet advanceHead dropOldest
  dsimp only
  rw [dropSnapshots_eq, dropHistory_eq]
  exact ⟨rfl, rfl, rfl, fun _ => rfl⟩

theorem WorkingSet.Fits.committedSet (fits : set.Fits sequence)
    (cursorSeq : Nat) (isOpaque : opaqueId changeId) (nonempty : operations ≠ [])
    (inside : ∀ operation ∈ operations, operation.entityId ∈ set.entityIds)
    (accepted : (newChange set changeId operations).acknowledgement.isAccepted) :
    (committedSet set limits cursorSeq (sequence + 1) changeId operations).Fits (sequence + 1) := by
  obtain ⟨entityIds, handles, head, results⟩ :=
    @committedSet_fields set limits changeId operations cursorSeq (sequence + 1)
  have id := @workingSetId_committedSet set limits cursorSeq (sequence + 1) changeId operations
  constructor
  case id => exact id ▸ fits.id
  case nonempty => exact entityIds ▸ fits.nonempty
  case few => exact entityIds ▸ fits.few
  case ids => exact entityIds ▸ fits.ids
  case distinct => exact entityIds ▸ fits.distinct
  case uris =>
    rw [entityIds, id]
    exact fits.uris
  case handles =>
    rw [entityIds, handles]
    exact fits.handles
  case head =>
    rw [head]
    exact Nat.succ_le_succ fits.head
  case results =>
    intro other acknowledgement found
    rw [results] at found
    split at found
    · cases found
      exact accepted
    · exact fits.results other acknowledgement found
  case committed =>
    intro change member
    rw [committed_committedSet] at member
    rw [entityIds]
    cases member with
    | head => exact ⟨isOpaque, nonempty, inside⟩
    | tail _ member => exact fits.committed change member
  case snapshots =>
    intro other snapshot present
    rw [snapshotsByHead_committedSet] at present
    rw [entityIds, id]
    split at present
    · cases present
    split at present
    · cases present
      exact ⟨Nat.le_refl _, Nat.succ_le_succ fits.head, rfl, rfl⟩
    · obtain ⟨number, at_, same⟩ := fits.snapshots other snapshot present
      exact ⟨Nat.le_succ_of_le number, Nat.le_succ_of_le at_, same⟩

end Sets

/-- What a run may contain: requests as the wire contract has read them, and no set whose links the
wire refuses. -/
def Call.Keeps (options : Options) (authority : Authority) : Call → Prop
  | .open input => input.isBounded options.limits → input.HasValidIds ∧ Fits authority (.open input)
  | .commitTurn (some request) _ => ∀ changeSet ∈ request.changeSet,
      opaqueId changeSet.changeId ∧ areParsed changeSet.operations
  | _ => True

section Runs

variable {options : Options} {authority : Authority} {set : WorkingSet}

theorem commit_authorized (committed : set.commit options cursorSeq snapshotSeq request lookup =
      .committed advanced acknowledgement) :
    options.resolveAuthorization { lookup with handle := request.handle } set.auth = some .ok := by
  unfold WorkingSet.commit at committed
  dsimp only at committed
  split at committed
  · cases committed
  · exact absurd committed answer_ne_committed
  · assumption

theorem Authority.Fits.withWorkingSet {id : String} {task : WorkingSet → Authority × Answer}
    (fits : authority.Fits)
    (each : ∀ set, authority.workingSets id = some set → (task set).1.Fits) :
    (authority.withWorkingSet id task).1.Fits := by
  unfold Authority.withWorkingSet
  split
  · exact fits
  · rename_i set present
    exact each set present

theorem Authority.Fits.commitTurn (fits : authority.Fits) (lookup : AuthorityLookup)
    (present : authority.workingSets request.workingSetId = some set)
    (parsed : ∀ changeSet ∈ request.changeSet,
      opaqueId changeSet.changeId ∧ areParsed changeSet.operations) :
    (authority.commitTurn options request lookup set).1.Fits := by
  unfold Authority.commitTurn
  cases outcome : set.commit options (authority.cursorSeq + 1) (authority.snapshotSeq + 1) request
      lookup with
  | failed => exact fits
  | answered acknowledgement => exact fits
  | committed advanced acknowledgement =>
    have authorized := commit_authorized outcome
    obtain ⟨changeSet, dirty, fresh, -⟩ := commit_spec outcome
    obtain ⟨isOpaque, isParsed⟩ := parsed changeSet dirty
    obtain ⟨workingSetId, handle, changeSet'⟩ := request
    cases dirty
    have isFresh : Proposal.IsFresh ⟨workingSetId, handle, changeSet, lookup⟩ options authority
        set := ⟨present, authorized, fresh, isParsed⟩
    rcases commit_cases isFresh (authority.cursorSeq + 1) (authority.snapshotSeq + 1) with
      ⟨_, code, _, answered⟩ | ⟨_, _, answered⟩ | ⟨guards, clean, applied⟩
    · exact absurd (answered.symm.trans outcome) answer_ne_committed
    · exact absurd (answered.symm.trans outcome) answer_ne_committed
    · obtain ⟨rfl, rfl⟩ := CommitOutcome.committed.inj (applied.symm.trans outcome)
      have entityIds := entityIds_rebased (conflicts_eq_nil_iff.mpr clean)
      dsimp only
      split
      · rename_i accepted
        have same : (newChange set changeSet.changeId (Proposal.rebased ⟨workingSetId, handle,
            changeSet, lookup⟩ set).rebasedOperations).acknowledgement =
            set.appliedAcknowledge (set.head + 1) (Proposal.changedIds ⟨workingSetId, handle,
              changeSet, lookup⟩) :=
          congrArg (fun ids => set.appliedAcknowledge (set.head + 1) (uniqueStrings ids)) entityIds
        refine fits.write rfl (Nat.le_succ _) ((fits.sets _ set present).committedSet _ isOpaque
          (fun none => ?_) (fun operation member => ?_) (same ▸ accepted))
        · have length := congrArg List.length entityIds
          rw [show (rebaseOperations _ _).rebasedOperations = [] from none, List.length_map,
            List.length_map] at length
          exact changeSet.nonempty (List.length_eq_zero_iff.mp length.symm)
        · have given : operation.entityId ∈ changeSet.operations.map Operation.entityId :=
            entityIds ▸ List.mem_map_of_mem member
          obtain ⟨original, isOriginal, here⟩ := List.mem_map.mp given
          exact here ▸ guards.entities _ (isFresh.parsed.mem_changedIds isOriginal)
      · exact fits.keep rfl (Nat.le_succ _)

theorem Authority.Fits.open (fits : authority.Fits)
    (keeps : Keeps options authority (.open input)) :
    (authority.openWorkingSet options input).1.Fits := by
  unfold openWorkingSet
  split
  · rename_i bounded
    obtain ⟨valid, fitting⟩ := keeps bounded
    have opened := @OpenInput.fits options authority options.limits authority.snapshotSeq input
      bounded valid fitting (authority.cursorSeq + 1)
    have later := Nat.le_succ authority.snapshotSeq
    have isId := workingSetId_workingSet input options.defaultAuth (authority.cursorSeq + 1)
      (authority.snapshotSeq + 1)
    dsimp only
    split
    · split
      · exact fits.write (isId ▸ authority.workingSets_opened ..) later opened
      · exact fits.close (setWorkingSet_twice (authority.workingSets_opened input.id _)) later
      · exact fits.write (isId ▸ authority.workingSets_issued ..) later opened
    · exact fits.write (isId ▸ authority.workingSets_opened ..) later opened
  · exact fits

theorem Authority.Fits.step (fits : authority.Fits) {call : Call}
    (keeps : call.Keeps options authority) : (step options authority call).Fits := by
  have updated : ∀ id set updated subscriberSeq, authority.workingSets id = some set →
      set.Keeps updated →
      ({ authority with subscriberSeq := subscriberSeq }.setWorkingSet id (some updated)).Fits := by
    intro id set updated subscriberSeq present kept
    have isId : updated.workingSetId = id := by
      obtain ⟨_, _, rfl⟩ := kept
      exact fits.keyed id set present
    subst isId
    exact fits.write rfl (Nat.le_refl _) ((fits.sets _ set present).keeps kept)
  cases call with
  | «open» input => exact fits.open keeps
  | commitTurn request lookup =>
    cases request with
    | none => exact fits
    | some request =>
      refine fits.withWorkingSet fun set present => ?_
      exact fits.commitTurn lookup present keeps
  | rebase id handle operations baselineHead lookup =>
    refine fits.withWorkingSet fun set _ => ?_
    unfold rebase
    dsimp only
    split
    · exact fits
    · exact fits
    · split
      · exact fits
      · exact fits.keep rfl (Nat.le_refl _)
  | resync id cursor lookup =>
    refine fits.withWorkingSet fun set _ => ?_
    unfold resync
    split
    · exact fits
    · exact fits
    · dsimp only
      split <;> exact fits.keep rfl (Nat.le_refl _)
  | subscribe id uri lookup =>
    refine fits.withWorkingSet fun set present => ?_
    unfold subscribe
    split
    · exact fits
    · exact fits
    · split
      · exact updated id set _ _ present ⟨_, set.auth, rfl⟩
      · exact fits
  | revoke id =>
    exact fits.withWorkingSet fun set present =>
      updated id set _ authority.subscriberSeq present ⟨set.subscriberById, _, rfl⟩
  | advanceGeneration id =>
    exact fits.withWorkingSet fun set present =>
      updated id set _ authority.subscriberSeq present ⟨set.subscriberById, _, rfl⟩
  | notificationFor id entityId =>
    refine fits.withWorkingSet fun set _ => ?_
    unfold notificationFor
    split <;> exact fits.keep rfl (Nat.le_refl _)

theorem run_fits
    (keeps : EachCommand (step options) (fun authority call => call.Keeps options authority) initial
      calls) : (run options calls).Fits :=
  runAll_preserves (fun _ _ keeps fits => fits.step keeps) keeps ⟨nofun, nofun⟩

end Runs

section Answers

variable {options : Options} {authority : Authority} {set : WorkingSet} {limits : Limits}
  {sequence : Nat}

theorem resourceUriFor_injective (workingSetId : String) :
    Function.Injective (resourceUriFor workingSetId) := fun _ _ same =>
  (String.append_right_inj _).mp same

theorem WorkingSet.Fits.links (fits : set.Fits sequence) :
    set.entityIds.map (resourceUriFor set.workingSetId) ≠ [] ∧
    (set.entityIds.map (resourceUriFor set.workingSetId)).length ≤ maxResourceLinks ∧
    (∀ uri ∈ set.entityIds.map (resourceUriFor set.workingSetId), resourceUri uri) ∧
    (set.entityIds.map (resourceUriFor set.workingSetId)).Nodup := by
  refine ⟨fun none => fits.nonempty (List.map_eq_nil_iff.mp none), ?_, ?_,
    fits.distinct.map (resourceUriFor_injective _)⟩
  · rw [List.length_map]
    exact fits.few
  · intro uri member
    obtain ⟨id, isEntity, rfl⟩ := List.mem_map.mp member
    exact fits.uris id isEntity

theorem open_accepted (wellFormed : Call.WellFormed options.limits (.open input))
    (fits : Call.Fits authority (.open input)) : input.isAccepted := by
  obtain ⟨bounded, valid, handles, distinct⟩ := wellFormed
  have fitting := @OpenInput.fits options authority _ 0 input bounded valid fits 0
  obtain ⟨_, few, uris, links⟩ := fitting.links
  unfold OpenInput.isAccepted
  simp only [and_eq_true, List.all_eq_true, decide_eq_true_eq]
  have room : ServiceCollaborationLimits.maxResourceLinks ≤
    ServiceCollaborationLimits.maxEntitiesPerWorkingSet := by decide
  exact ⟨⟨⟨⟨⟨⟨⟨⟨⟨valid.1, fitting.nonempty⟩, fits.1.trans room⟩, valid.2⟩, fitting.distinct⟩,
    handles⟩, distinct⟩, fits.1⟩, fits.2⟩, links⟩

theorem WorkingSet.Fits.entityIdForHandle (fits : set.Fits sequence)
    (known : set.entityIdForHandle handle ≠ "") : IsId (set.entityIdForHandle handle) := by
  unfold WorkingSet.entityIdForHandle at known ⊢
  cases found : set.handles.reverse.find? fun entry => entry.1 = handle with
  | none => rw [found] at known; exact absurd rfl known
  | some entry =>
    rw [found] at known
    have member := List.mem_reverse.mp (List.mem_of_find?_eq_some found)
    exact fits.ids _ ((fits.handles entry member).resolve_right known)

theorem commitTurn_accepted (fits : set.Fits sequence) (defaults : options.limits = {})
    (present : authority.workingSets request.workingSetId = some set)
    (authorized : options.resolveAuthorization { lookup with handle := request.handle } set.auth =
      some .ok) (wellFormed : Call.WellFormed options.limits (.commitTurn (some request) lookup))
    (few : Call.Fits authority (.commitTurn (some request) lookup)) :
    (authority.commitTurn options request lookup set).2.isAccepted := by
  have answers : ∀ acknowledgement : Acknowledge, acknowledgement.isAccepted →
      set.commit options (authority.cursorSeq + 1) (authority.snapshotSeq + 1) request lookup =
        .answer acknowledgement →
      (authority.commitTurn options request lookup set).2.isAccepted := by
    intro acknowledgement accepted outcome
    rw [commitTurn_of_answer outcome, if_pos accepted]
    exact accepted
  obtain ⟨workingSetId, handle, changeSet⟩ := request
  by_cases unknown : set.entityIdForHandle handle = ""
  · have known : "conflict.authorization_changed" ∈ conflictCodes := by simp [conflictCodes]
    have denied : opaqueId "ent.denied" := by decide +kernel
    refine answers _ ((denyAcknowledge_accepted known).mpr ⟨fits.id.1, denied⟩) ?_
    unfold WorkingSet.commit
    simp only [authorized, unknown, if_true]
    rfl
  cases changeSet with
  | none =>
    refine answers (set.conflictAcknowledge []) ?_ ?_
    · unfold Acknowledge.isAccepted WorkingSet.conflictAcknowledge
      simp [fits.id.1]
    · unfold WorkingSet.commit
      simp only [authorized, unknown, if_false]
      rfl
  | some changeSet =>
    cases fresh : set.changeResults changeSet.changeId with
    | some prior =>
      have outcome : set.commit options (authority.cursorSeq + 1) (authority.snapshotSeq + 1)
          ⟨workingSetId, handle, some changeSet⟩ lookup = .answered prior := by
        unfold WorkingSet.commit WorkingSet.commitChangeSet
        simp only [authorized, unknown, if_false, fresh]
      unfold Authority.commitTurn
      rw [outcome]
      exact fits.results _ prior fresh
    | none =>
      obtain ⟨_, same, parsed⟩ := wellFormed
      cases same
      have isFresh : Proposal.IsFresh ⟨workingSetId, handle, changeSet, lookup⟩ options
          authority set := ⟨present, authorized, fresh, (parsed changeSet rfl).2⟩
      rcases commit_cases isFresh (authority.cursorSeq + 1) (authority.snapshotSeq + 1) with
        ⟨_, code, isCode, outcome⟩ | ⟨_, _, outcome⟩ | ⟨guards, _, outcome⟩
      · refine answers _ ((denyAcknowledge_accepted isCode).mpr ⟨fits.id.1, ?_⟩) outcome
        unfold Proposal.refusedEntity orDefault
        rw [if_neg unknown]
        exact (fits.entityIdForHandle unknown).1
      · exact answers _ ((conflictAcknowledge_accepted isFresh.parsed).mpr
          ⟨fits.id.1, few set present⟩) outcome
      · have accepted := (@appliedAcknowledge_accepted set _ isFresh.parsed
          (set.head + 1)).mpr ⟨fits.id.1, by
            have bound := guards.invalidations
            rw [defaults] at bound
            exact Int.ofNat_le.mp bound, fun id member =>
              fits.uris id (guards.entities id member)⟩
        have applied : set.commit options (authority.cursorSeq + 1) (authority.snapshotSeq + 1)
          ⟨workingSetId, handle, some changeSet⟩ lookup = .committed _ _ := outcome
        rw [commitTurn_of_committed applied, if_pos accepted]
        exact accepted

theorem rebase_accepted (fits : set.Fits sequence) (handle : String)
    (authorized : options.resolveAuthorization lookup set.auth = some .ok)
    (parsed : areParsed operations)
    (bounded : operations.length ≤ ServiceCollaborationLimits.maxOperationsPerChangeSet)
    (few : (set.colliding operations baselineHead).length ≤
      ServiceCollaborationLimits.maxConflicts) :
    (authority.rebase options handle (some operations) baselineHead lookup set).2.isAccepted := by
  unfold Authority.rebase
  simp only [authorized]
  generalize remotes : (if baselineHead < set.head then set.relevantInterveningOperations
    (uniqueStrings (operations.map Operation.entityId)) baselineHead else []) = others
  have accepted : RebaseResponse.isAccepted ⟨set.workingSetId, set.head,
      if (rebaseOperations operations others).conflicts = [] then
        (rebaseOperations operations others).rebasedOperations else [],
      (rebaseOperations operations others).conflicts.map fun conflict =>
        { conflict with head := set.head },
      ⟨.minted (authority.cursorSeq + 1), set.head, .valid⟩⟩ = true := by
    unfold RebaseResponse.isAccepted
    simp only [and_eq_true, decide_eq_true_eq, List.all_eq_true, List.mem_map,
      forall_exists_index, and_imp, forall_apply_eq_imp_iff₂, List.length_map, length_conflicts]
    refine ⟨⟨⟨fits.id.1, ?_⟩, ?_⟩, fun conflict member => ?_⟩
    · split
      · exact length_rebasedOperations_le.trans bounded
      · exact Nat.zero_le _
    · rw [← remotes]
      exact few
    · obtain ⟨known, operation, isGiven, here⟩ := mem_conflicts member
      unfold ConflictFact.isAccepted
      rw [and_eq_true, List.contains_iff_mem]
      exact ⟨known, here ▸ (parsed operation isGiven).1⟩
  rw [if_pos accepted]
  exact accepted

theorem length_tailFrom (heads : List Nat) (room : (tail.length : Int) < limits.maxTailOps) :
    (set.tailFrom limits tail heads).length ≤ limits.maxTailOps := by
  induction heads generalizing tail with
  | nil => exact Int.le_of_lt room
  | cons head rest induction =>
    have longer : ((tail ++ takePage limits.maxTailOps tail.length
        (set.logAt head)).length : Int) ≤ limits.maxTailOps := by
      rw [takePage_eq, List.length_append]
      have page := List.length_take_le (max 1 (limits.maxTailOps - tail.length).toNat)
        (set.logAt head)
      omega
    rw [tailFrom]
    split
    · exact longer
    · exact induction (Int.not_le.mp ‹_›)

theorem WorkingSet.Fits.snapshot (fits : set.Fits sequence) {snapshot : SnapshotRecord}
    (ids : snapshot.entityIds = set.entityIds)
    (uris : snapshot.resourceUris = set.entityIds.map (resourceUriFor set.workingSetId))
    (number : snapshot.snapshotSeq ≤ maxSafeInteger) (head : snapshot.head ≤ maxSafeInteger) :
    snapshot.isAccepted := by
  obtain ⟨nonempty, few, accepted, distinct⟩ := fits.links
  have size := byteLength_snapshot fits.id (ids ▸ fits.ids) (ids ▸ fits.few) (ids ▸ uris) number head
  have room : ServiceCollaborationLimits.maxResourceLinks ≤
    ServiceCollaborationLimits.maxEntitiesPerWorkingSet := by decide
  unfold SnapshotRecord.isAccepted
  simp only [Bool.and_eq_true, List.all_eq_true, decide_eq_true_eq]
  rw [ids, uris]
  exact ⟨⟨⟨⟨⟨⟨⟨⟨fits.nonempty, fits.few.trans room⟩, fun id member => (fits.ids id member).1⟩,
    fits.distinct⟩, nonempty⟩, few⟩, accepted⟩, distinct⟩, size⟩

theorem resync_accepted (fits : set.Fits authority.snapshotSeq) (defaults : options.limits = {})
    (described : set.HistoryDescribed options.limits)
    (countable : authority.snapshotSeq < maxSafeInteger) (cursorSeq : Nat)
    (valid : cursor.isAccepted) :
    (set.resyncResponse options.limits cursorSeq (authority.snapshotSeq + 1) cursor).isAccepted := by
  unfold WorkingSet.resyncResponse
  split
  · rename_i indexedHead _
    have ordered := (orderedDeltas_iff described indexedHead).mpr (by
      rw [deltasFrom_eq described, defaults]
      exact List.length_take_le _ _)
    unfold ResyncResponse.isAccepted
    dsimp only
    rw [ordered]
    simp [fits.id.1, Cursor.isAccepted]
  · rename_i indexedHead _
    have token : cursor.token.orDefault (.other ("cur.expired." ++ set.workingSetId)) =
        cursor.token := by
      refine if_neg fun blank => ?_
      unfold Cursor.isAccepted at valid
      rw [blank] at valid
      exact absurd valid (by decide)
    have snapshot : ((set.snapshotsByHead (set.snapshotHeads.head?.getD set.head)).getD
        (set.mintSnapshot (authority.snapshotSeq + 1))).isAccepted := by
      cases present : set.snapshotsByHead (set.snapshotHeads.head?.getD set.head) with
      | none => exact fits.snapshot rfl rfl countable (fits.head.trans countable.le)
      | some snapshot =>
        obtain ⟨number, head, ids, uris⟩ := fits.snapshots _ snapshot present
        exact fits.snapshot ids uris (number.trans countable.le) (head.trans countable.le)
    generalize (set.snapshotsByHead (set.snapshotHeads.head?.getD set.head)).getD
      (set.mintSnapshot (authority.snapshotSeq + 1)) = record at snapshot
    have tail := @length_tailFrom set options.limits []
      (set.historyHeads.filter fun head => record.head < head) (by rw [defaults]; decide)
    rw [defaults] at tail
    unfold ResyncResponse.isAccepted
    dsimp only
    rw [snapshot, token, defaults, decide_eq_true (Int.ofNat_le.mp tail), fits.id.1]
    exact (Bool.and_true _).trans valid

theorem mapM_map_some {α β γ : Type} {key : α → β} {f : β → Option γ} {g : α → γ} {items : List α}
    (each : ∀ item ∈ items, f (key item) = some (g item)) :
    (items.map key).mapM f = some (items.map g) := by
  induction items with
  | nil => rfl
  | cons item rest induction =>
    rw [List.map_cons, List.mapM_cons, each item List.mem_cons_self,
      induction fun other member => each other (.tail _ member)]
    rfl

theorem WorkingSet.Fits.entry (fits : set.Fits sequence)
    (member : change ∈ set.committed) : change.entry.isAccepted := by
  obtain ⟨isOpaque, nonempty, inside⟩ := fits.committed change member
  have known : ∀ id ∈ change.entry.entityIds, id ∈ set.entityIds := by
    intro id isId
    obtain ⟨_, given, isGiven, rfl⟩ := mem_uniqueStrings.mp isId
    obtain ⟨operation, isOperation, rfl⟩ := List.mem_map.mp isGiven
    have entity := inside operation isOperation
    rw [(fits.ids _ entity).2]
    exact entity
  have distinct : change.entry.entityIds.Nodup := nodup_uniqueStrings _
  have few := (List.subperm_of_subset distinct known).length_le.trans fits.few
  have room : ServiceCollaborationLimits.maxResourceLinks ≤
    ServiceCollaborationLimits.maxEntitiesPerWorkingSet := by decide
  have some_ : change.entry.entityIds ≠ [] := by
    obtain ⟨operation, isOperation⟩ := List.exists_mem_of_ne_nil _ nonempty
    obtain ⟨isEntity, trimmed⟩ := fits.ids _ (inside operation isOperation)
    exact List.ne_nil_of_mem (mem_uniqueStrings.mpr ⟨trimmed ▸ toText_ne_empty isEntity,
      operation.entityId, List.mem_map_of_mem isOperation, trimmed⟩)
  unfold HistoryEntry.isAccepted
  simp only [and_eq_true, List.all_eq_true, decide_eq_true_eq]
  exact ⟨⟨⟨⟨isOpaque, some_⟩, few.trans room⟩, fun id isId => (fits.ids id (known id isId)).1⟩,
    distinct⟩

theorem observe_accepted (fits : set.Fits sequence) (defaults : options.limits = {})
    (described : set.HistoryDescribed options.limits) {id handle : String}
    (present : authority.workingSets id = some set)
    (authorized : options.resolveAuthorization lookup set.auth = some .ok)
    (known : set.entityIdForHandle handle ≠ "") :
    ∃ response, authority.observe options id handle lookup = some response := by
  have history : set.historyHeads.mapM set.historyByHead =
      some ((set.window options.limits).map CommittedChange.entry) := by
    rw [described.historyHeads]
    refine mapM_map_some fun change member => ?_
    rw [described.history, find?_window described member]
    rfl
  obtain ⟨nonempty, few, accepted, distinct⟩ := fits.links
  have entries : ∀ entry ∈ (set.window options.limits).map CommittedChange.entry,
      entry.isAccepted := by
    intro entry member
    obtain ⟨change, isRecent, rfl⟩ := List.mem_map.mp member
    exact fits.entry (List.mem_reverse.mp ((window_sublist set _).subset isRecent))
  have short : ((set.window options.limits).map CommittedChange.entry).length ≤
      ServiceCollaborationLimits.maxHistoryEntries := by
    rw [List.length_map, WorkingSet.window, length_recent, defaults]
    exact Nat.min_le_left _ _
  have response : ObserveResponse.isAccepted ⟨set.workingSetId,
      set.entityIds.map (resourceUriFor set.workingSetId),
      (set.window options.limits).map CommittedChange.entry⟩ = true := by
    unfold ObserveResponse.isAccepted
    simp only [and_eq_true, List.all_eq_true, decide_eq_true_eq]
    exact ⟨⟨⟨⟨⟨⟨fits.id.1, nonempty⟩, few⟩, accepted⟩, distinct⟩, short⟩, entries⟩
  unfold Authority.observe
  rw [present, Option.bind_some, if_pos ⟨authorized, known⟩, history, Option.bind_some]
  exact ⟨_, if_pos response⟩

theorem answers_accepted {options : Options} (defaults : options.limits = {}) {calls : List Call}
    (keeps : EachCommand (step options) (fun authority call => call.Keeps options authority) initial
      calls) (countable : (run options calls).snapshotSeq < maxSafeInteger) :
    (∀ call : Call, call.WellFormed options.limits → call.Authorized options (run options calls) →
      call.Fits (run options calls) → ((run options calls).perform options call).2.isAccepted) ∧
    ∀ id handle lookup set, (run options calls).workingSets id = some set →
      options.resolveAuthorization lookup set.auth = some .ok → set.entityIdForHandle handle ≠ "" →
      ∃ response, (run options calls).observe options id handle lookup = some response := by
  have fits := run_fits keeps
  have described := fun id set present => ((run_tracked options calls).sets id set present).history
  refine ⟨fun call wellFormed authorized few => ?_, fun id handle lookup set present allowed known =>
    observe_accepted (fits.sets id set present) defaults (described id set present) present allowed
      known⟩
  generalize run options calls = authority at *
  cases call with
  | «open» input =>
    unfold Authority.perform Authority.openWorkingSet
    dsimp only
    rw [if_pos wellFormed.1, if_pos (open_accepted wellFormed few)]
    rw [show (input.workingSet options.defaultAuth (authority.cursorSeq + 1)
      (authority.snapshotSeq + 1)).auth = input.authorization.state options.defaultAuth from rfl,
      show options.resolveAuthorization input.lookup _ = some .ok from authorized]
    rfl
  | commitTurn request lookup =>
    cases request with
    | none => exact absurd authorized id
    | some request =>
      obtain ⟨set, present, allowed⟩ := authorized
      unfold Authority.perform Authority.withWorkingSet
      dsimp only
      rw [present]
      exact commitTurn_accepted (fits.sets _ set present) defaults present allowed wellFormed few
  | rebase id handle operations baselineHead lookup =>
    obtain ⟨parsed, rfl, isParsed, bounded⟩ := wellFormed
    obtain ⟨set, present, allowed⟩ := authorized
    unfold Authority.perform Authority.withWorkingSet
    dsimp only
    rw [present]
    exact rebase_accepted (fits.sets id set present) handle allowed isParsed bounded
      (few set present)
  | resync id cursor lookup =>
    obtain ⟨set, present, allowed⟩ := authorized
    have accepted := resync_accepted (fits.sets id set present) defaults
      (described id set present) countable (authority.cursorSeq + 1) wellFormed
    rw [resync_performed present allowed]
    generalize set.resyncResponse options.limits _ _ cursor = response at accepted ⊢
    dsimp only
    rw [accepted]
    cases response.cursor.cursorState <;> exact accepted
  | subscribe | revoke | advanceGeneration | notificationFor => exact absurd authorized id

end Answers

theorem answers_accepted_oneTurn :
    ((run defaultOptions [.open documentInput]).perform defaultOptions
      (insertTurn "chg.ccs.1")).2.isAccepted := by
  obtain ⟨set, isFresh⟩ := sampleProposal_isFresh 0
  have opens : EachCommand (step defaultOptions)
      (fun authority call => call.Keeps defaultOptions authority) initial [.open documentInput] :=
    ⟨fun _ => ⟨⟨by decide +kernel, by decide +kernel⟩, by decide +kernel, by decide +kernel⟩,
      trivial⟩
  refine (answers_accepted rfl opens (by decide +kernel)).1 (insertTurn "chg.ccs.1")
    ⟨_, rfl, ?_⟩ ⟨set, isFresh.opened, isFresh.authorized⟩ fun _ _ => ?_
  · rintro _ ⟨rfl⟩
    exact ⟨by decide +kernel, isFresh.parsed⟩
  · exact (List.length_filter_le _ _).trans (by decide)

def crowdedInput : OpenInput where
  workingSetId := "ws.ccs.1"
  entities := (List.range 65).map fun index => ⟨"e" ++ toString index, toString index ++ "_handle"⟩
  authorization := {}
  lookup := {}

theorem crowdedInput_wellFormed : WellFormed defaultOptions.limits (.open crowdedInput) := by
  have ids : crowdedInput.entityIds = (List.range 65).map fun index => "e" ++ toString index := by
    decide +kernel
  refine ⟨?_, ⟨by decide +kernel, ?_⟩, by decide +kernel, by decide +kernel⟩
  · unfold OpenInput.isBounded
    rw [ids]
    decide +kernel
  · rw [ids]
    decide +kernel

/-- A set of 65 entities is opened, and its links are more than an answer may have. -/
theorem crowded_open_throws : ¬∀ options calls (call : Call), options.limits = {} →
      EachCommand (step options) (fun _ call => call.WellFormed options.limits) initial calls →
      call.WellFormed options.limits → call.Authorized options (run options calls) →
      ((run options calls).perform options call).2.isAccepted := by
  intro accepted
  have authorized : Call.Authorized defaultOptions (run defaultOptions []) (.open crowdedInput) :=
    show defaultOptions.resolveAuthorization _ _ = some .ok by decide +kernel
  have bounded := crowdedInput_wellFormed.1
  have crowded : crowdedInput.isAccepted = false := by
    unfold OpenInput.isBounded at bounded
    simp only [and_eq_true, decide_eq_true_eq] at bounded
    have many : ¬crowdedInput.entityIds.length ≤ ServiceCollaborationLimits.maxResourceLinks := by
      rw [bounded.2]
      decide +kernel
    unfold OpenInput.isAccepted
    simp [many]
  have holds := accepted defaultOptions [] (.open crowdedInput) rfl trivial crowdedInput_wellFormed
    authorized
  unfold Authority.perform Authority.openWorkingSet at holds
  dsimp only at holds
  rw [if_pos bounded, crowded] at holds
  cases holds

end LicoMesh.CoreChangeSets
