import LicoMesh.UploadCustody.Effects
import LicoMesh.Library.Path

namespace LicoMesh.UploadCustody

open Library Custody

variable {done new : List Bytes} {prepared : Option PreparedFrame} {used : Ciphertext}

/-- Under one key and nonce there is one plaintext with one associated data. -/
def NoReuse (custody : Custody) : Prop :=
  ∀ first ∈ custody.encrypted, ∀ second ∈ custody.encrypted, first.key = second.key →
    first.nonce = second.nonce → first.plaintext = second.plaintext ∧ first.aad = second.aad

def framesBefore (custody : Custody) (input : AppendInput) : List Ciphertext :=
  match headerOf (custody.objects input.custodyRef), (custody.objects input.custodyRef).row with
  | some header, some row =>
    if input.offset = row.committedPlaintextBytes then
      custody.encrypted.filter fun used =>
        used.key = header.dataKey ∧ used.nonce.index = row.committedFrameCount
    else []
  | _, _ => []

/-- An append where a frame was encrypted before begins with the bytes of that frame. -/
def Resends (custody : Custody) (event : CustodyEvent) : Prop :=
  match event.call with
  | .append input _ => input.bytes ≠ [] →
      ∀ used ∈ framesBefore custody input, input.bytes.take CHUNK_BYTES = used.plaintext
  | _ => True

instance (custody : Custody) (event : CustodyEvent) : Decidable (Resends custody event) :=
  match event with
  | ⟨.append input _, _⟩ => inferInstanceAs (Decidable (input.bytes ≠ [] →
      ∀ used ∈ framesBefore custody input, input.bytes.take CHUNK_BYTES = used.plaintext))
  | ⟨.begin _, _⟩ => .isTrue trivial
  | ⟨.seal _ _ _, _⟩ => .isTrue trivial
  | ⟨.describe _ _, _⟩ => .isTrue trivial

structure Spent (header : EnvelopeHeader) (row : CustodyRow) (used : Ciphertext) : Prop where
  noncePrefix : used.nonce.noncePrefix = header.noncePrefix
  index : used.nonce.index ≤ row.committedFrameCount
  last : used.nonce.index = row.committedFrameCount →
    used.aad = ⟨header.headerDigest, row.committedFrameCount, used.plaintext.length,
      row.committedCiphertextDigest⟩

structure Nonces (custody : Custody) : Prop where
  noReuse : NoReuse custody
  drawn : ∀ used ∈ custody.encrypted, used.key < custody.drawn
  headers : ∀ custodyRef header, headerOf (custody.objects custodyRef) = some header →
    header.dataKey < custody.drawn
  distinct : ∀ custodyRef other first second, headerOf (custody.objects custodyRef) = some first →
    headerOf (custody.objects other) = some second → first.dataKey = second.dataKey →
    custodyRef = other
  spent : ∀ custodyRef header, headerOf (custody.objects custodyRef) = some header →
    ∀ used ∈ custody.encrypted, used.key = header.dataKey →
    ∃ row, (custody.objects custodyRef).row = some row ∧ Spent header row used

variable {env : CustodyEnv} {custody next : Custody} {custodyRef : CustodyRef}
  {object : CustodyObject} {row : CustodyRow} {header : EnvelopeHeader} {chunks : List Bytes}

theorem Staged.headerOf_eq (holds : Staged env custodyRef object row header chunks) :
    headerOf object = some header := by
  obtain ⟨extra, partialBytes, pending⟩ := holds.pending
  unfold headerOf
  rw [pending]
  rfl

variable (nonces : Nonces custody)
include nonces

theorem Nonces.update (objects : next.objects = (custody.update custodyRef object).objects)
    (encrypted : next.encrypted = custody.encrypted) (drawn : custody.drawn ≤ next.drawn)
    (same : ∀ header, headerOf object = some header →
      headerOf (custody.objects custodyRef) = some header)
    (rows : ∀ row, (custody.objects custodyRef).row = some row → ∃ later, object.row = some later ∧
      later.committedFrameCount = row.committedFrameCount ∧
      later.committedCiphertextDigest = row.committedCiphertextDigest) : Nonces next := by
  have headers : ∀ other header, headerOf (next.objects other) = some header →
      headerOf (custody.objects other) = some header := by
    intro other header found
    rw [objects] at found
    by_cases own : other = custodyRef
    · rw [own, update_self] at found
      rw [own]
      exact same header found
    · rw [update_of_ne custody object own] at found
      exact found
  refine ⟨?_, ?_, ?_, ?_, ?_⟩
  · unfold NoReuse
    rw [encrypted]
    exact nonces.noReuse
  · rw [encrypted]
    exact fun used member => Nat.lt_of_lt_of_le (nonces.drawn used member) drawn
  · exact fun other header found =>
      Nat.lt_of_lt_of_le (nonces.headers other header (headers other header found)) drawn
  · exact fun left right first second here there =>
      nonces.distinct left right first second (headers left first here)
        (headers right second there)
  · intro other header found used member key
    rw [encrypted] at member
    obtain ⟨row, present, spent⟩ := nonces.spent other header (headers other header found) used
      member key
    by_cases own : other = custodyRef
    · rw [own] at present
      obtain ⟨later, there, count, digest⟩ := rows row present
      refine ⟨later, ?_, spent.noncePrefix, ?_, ?_⟩
      · rw [objects, own, update_self, there]
      · rw [count]
        exact spent.index
      · rw [count, digest]
        exact spent.last
    · refine ⟨row, ?_, spent⟩
      rw [objects, update_of_ne custody object own, present]

theorem Nonces.drawn_step (input : BeginInput) : Nonces (custody.withPending input.custodyRef
      (some ⟨[.header (newHeader env custody.drawn input.noncePrefix)], 0⟩)
      (custody.drawn + 1)) := by
  let next := custody.withPending input.custodyRef
    (some ⟨[.header (newHeader env custody.drawn input.noncePrefix)], 0⟩) (custody.drawn + 1)
  have headers : ∀ other header, headerOf (next.objects other) = some header →
      (other = input.custodyRef ∧ header.dataKey = custody.drawn) ∨
        (other ≠ input.custodyRef ∧ headerOf (custody.objects other) = some header) := by
    intro other header found
    by_cases own : other = input.custodyRef
    · subst own
      refine .inl ⟨rfl, ?_⟩
      have object : next.objects input.custodyRef = _ := update_self _ _ _
      rw [object] at found
      cases found
      rfl
    · have object : next.objects other = _ := update_of_ne custody _ own
      rw [object] at found
      exact .inr ⟨own, found⟩
  have used : ∀ used ∈ custody.encrypted, used.key ≠ custody.drawn :=
    fun used member same => absurd (nonces.drawn used member) (by omega)
  refine ⟨nonces.noReuse, ?_, ?_, ?_, ?_⟩
  · exact fun used member => Nat.lt_succ_of_lt (nonces.drawn used member)
  · intro other header found
    cases headers other header found with
    | inl new => exact new.2 ▸ Nat.lt_succ_self _
    | inr old => exact Nat.lt_succ_of_lt (nonces.headers other header old.2)
  · intro left right first second here there same
    cases headers left first here with
    | inl new =>
      cases headers right second there with
      | inl also => rw [new.1, also.1]
      | inr old =>
        have below := nonces.headers right second old.2
        omega
    | inr old =>
      cases headers right second there with
      | inl new =>
        have below := nonces.headers left first old.2
        omega
      | inr also => exact nonces.distinct left right first second old.2 also.2 same
  · intro other header found entry member key
    cases headers other header found with
    | inl new => exact absurd (key.trans new.2) (used entry member)
    | inr old =>
      obtain ⟨row, present, spent⟩ := nonces.spent other header old.2 entry member key
      refine ⟨row, ?_, spent⟩
      have object : next.objects other = _ := update_of_ne custody _ old.1
      rw [object, present]

omit nonces

theorem Committed.counts (holds : Committed env custodyRef row header chunks)
    (later : Committed env custodyRef other header chunks) :
    other.committedFrameCount = row.committedFrameCount ∧
      other.committedCiphertextDigest = row.committedCiphertextDigest := by
  rw [holds.frames, later.frames, holds.digest, later.digest]
  exact ⟨rfl, rfl⟩

theorem mem_encryptions (member : used ∈ encryptions env header row new) :
    ∃ before chunk after, new = before ++ chunk :: after ∧
      used = (nextFrame env header row before chunk).ciphertext := by
  obtain ⟨frame, inside, rfl⟩ := List.mem_map.mp member
  obtain ⟨before, chunk, after, split, rfl⟩ := mem_framesOf inside
  exact ⟨before, chunk, after, split, rfl⟩

theorem split_unique
    (left : new = before ++ chunk :: after) (right : new = before' ++ chunk' :: after')
    (same : before.length = before'.length) : before = before' ∧ chunk = chunk' := by
  obtain ⟨first, rest⟩ := List.append_inj (left.symm.trans right) same
  exact ⟨first, (List.cons.inj rest).1⟩

include nonces

variable (before : Staged env custodyRef (custody.objects custodyRef) row header chunks)
include before

theorem Nonces.spentBy (member : used ∈ custody.encrypted) (key : used.key = header.dataKey) :
    Spent header row used := by
  obtain ⟨found, present, spent⟩ := nonces.spent custodyRef header before.headerOf_eq used member
    key
  rw [before.present] at present
  cases present
  exact spent

theorem Nonces.noReuse_append (resends : ∀ used ∈ custody.encrypted, used.key = header.dataKey →
      used.nonce.index = row.committedFrameCount → ∀ chunk rest, new = chunk :: rest →
      used.plaintext = chunk) (member : old ∈ custody.encrypted)
    (added : fresh ∈ encryptions env header row new) (key : old.key = fresh.key)
    (nonce : old.nonce = fresh.nonce) : old.plaintext = fresh.plaintext ∧ old.aad = fresh.aad := by
  obtain ⟨earlier, chunk, after, split, rfl⟩ := mem_encryptions added
  have spent := nonces.spentBy before member key
  have index : old.nonce.index = row.committedFrameCount + earlier.length :=
    congrArg Nonce.index nonce
  -- the only number that both have is the next one
  have first : earlier = [] := by
    have bound := spent.index
    apply List.eq_nil_of_length_eq_zero
    omega
  subst first
  have same := resends old member key index chunk after split
  refine ⟨same, ?_⟩
  rw [spent.last index, same]
  rfl

omit before nonces

theorem noReuse_encryptions (left : first ∈ encryptions env header row new)
    (right : second ∈ encryptions env header row new) (nonce : first.nonce = second.nonce) :
    first = second := by
  obtain ⟨before, chunk, after, split, rfl⟩ := mem_encryptions left
  obtain ⟨earlier, other, later, cut, rfl⟩ := mem_encryptions right
  have index : row.committedFrameCount + before.length =
      row.committedFrameCount + earlier.length := congrArg Nonce.index nonce
  obtain ⟨same, also⟩ := split_unique split cut (Nat.add_left_cancel index)
  rw [same, also]

theorem Spent.advance (spent : Spent header row used) :
    Spent header (row.unprepared.advance env header done prepared) used where
  noncePrefix := spent.noncePrefix
  index := Nat.le_trans spent.index (Nat.le_add_right _ _)
  last := by
    intro last
    have index : used.nonce.index = row.committedFrameCount + done.length := last
    have nothing : done = [] := by
      have bound := spent.index
      apply List.eq_nil_of_length_eq_zero
      omega
    subst nothing
    exact spent.last index

theorem spent_encryptions (one : ahead.length ≤ 1)
    (member : used ∈ encryptions env header row (done ++ ahead)) :
    Spent header (row.unprepared.advance env header done prepared) used := by
  obtain ⟨before, chunk, after, split, rfl⟩ := mem_encryptions member
  have lengths := congrArg List.length split
  rw [List.length_append, List.length_append, List.length_cons] at lengths
  have bound : before.length ≤ done.length := by omega
  refine ⟨rfl, Nat.add_le_add_left bound _, ?_⟩
  intro last
  have index : row.committedFrameCount + before.length =
      row.committedFrameCount + done.length := last
  have same : before = done := (List.append_inj split.symm (Nat.add_left_cancel index)).1
  rw [same]
  rfl

include nonces

theorem Nonces.appended {input : AppendInput} {state : AppendState}
    (before : Staged env input.custodyRef (custody.objects input.custodyRef) row header chunks)
    (one : state.ahead.length ≤ 1)
    (resends : ∀ used ∈ custody.encrypted, used.key = header.dataKey →
      used.nonce.index = row.committedFrameCount → ∀ chunk rest,
      state.done ++ state.ahead = chunk :: rest → used.plaintext = chunk) :
    Nonces (state.custodyOf env custody input.custodyRef row.unprepared header chunks) := by
  have headers : ∀ other first, headerOf ((state.custodyOf env custody input.custodyRef
      row.unprepared header chunks).objects other) = some first →
      headerOf (custody.objects other) = some first := by
    intro other first found
    by_cases own : other = input.custodyRef
    · subst own
      have object : (state.custodyOf env custody input.custodyRef row.unprepared header
          chunks).objects input.custodyRef = _ := update_self _ _ _
      rw [object] at found
      cases found
      exact before.headerOf_eq
    · have object : (state.custodyOf env custody input.custodyRef row.unprepared header
          chunks).objects other = _ := update_of_ne custody _ own
      rw [object] at found
      exact found
  have members : ∀ used ∈ custody.encrypted ++
      encryptions env header row (state.done ++ state.ahead), used ∈ custody.encrypted ∨
      used ∈ encryptions env header row (state.done ++ state.ahead) :=
    fun used member => List.mem_append.mp member
  have keyed : ∀ used ∈ encryptions env header row (state.done ++ state.ahead),
      used.key = header.dataKey := by
    intro used member
    obtain ⟨_, _, _, _, rfl⟩ := mem_encryptions member
    rfl
  refine ⟨?_, ?_, ?_, ?_, ?_⟩
  · intro first left second right key nonce
    cases members first left with
    | inl old =>
      cases members second right with
      | inl also => exact nonces.noReuse first old second also key nonce
      | inr new => exact nonces.noReuse_append before resends old new key nonce
    | inr new =>
      cases members second right with
      | inl old =>
        obtain ⟨plaintext, aad⟩ := nonces.noReuse_append before resends old new key.symm nonce.symm
        exact ⟨plaintext.symm, aad.symm⟩
      | inr also =>
        rw [noReuse_encryptions new also nonce]
        exact ⟨rfl, rfl⟩
  · intro used member
    cases members used member with
    | inl old => exact nonces.drawn used old
    | inr new =>
      rw [keyed used new]
      exact nonces.headers _ header before.headerOf_eq
  · exact fun other first found => nonces.headers other first (headers other first found)
  · exact fun left right first second here there same =>
      nonces.distinct left right first second (headers left first here)
        (headers right second there) same
  · intro other first found used member key
    by_cases own : other = input.custodyRef
    · subst own
      have object : (state.custodyOf env custody input.custodyRef row.unprepared header
          chunks).objects input.custodyRef = _ := update_self _ _ _
      have same := (headers _ first found).symm.trans before.headerOf_eq
      cases same
      rw [object]
      refine ⟨_, rfl, ?_⟩
      cases members used member with
      | inl old => exact (nonces.spentBy before old key).advance
      | inr new => exact spent_encryptions one new
    · obtain ⟨found, present, spent⟩ := nonces.spent other first (headers other first found) used
        (by
          cases members used member with
          | inl old => exact old
          | inr new =>
            exact absurd (nonces.distinct other _ first header (headers other first found)
              before.headerOf_eq (key.symm.trans (keyed used new))) own) key
      have object : (state.custodyOf env custody input.custodyRef row.unprepared header
          chunks).objects other = _ := update_of_ne custody _ own
      rw [object]
      exact ⟨found, present, spent⟩

theorem Nonces.begun (input : BeginInput) (absent : Absent (custody.objects input.custodyRef)) :
    Nonces (begunCustody env custody input) := by
  have object : (custody.withPending input.custodyRef
      (some ⟨[.header (newHeader env custody.drawn input.noncePrefix)], 0⟩)
      (custody.drawn + 1)).objects input.custodyRef = _ := update_self _ _ _
  have objects : (begunCustody env custody input).objects = (Custody.update (custody.withPending
      input.custodyRef (some ⟨[.header (newHeader env custody.drawn input.noncePrefix)], 0⟩)
      (custody.drawn + 1)) input.custodyRef _).objects := rfl
  apply (nonces.drawn_step input).update objects rfl (Nat.le_refl _)
  · exact fun _ found => found
  · intro row present
    rw [object, absent.row] at present
    cases present

theorem Nonces.step (sound : Sound env custody)
    (resends : Resends custody event) : Nonces (event.next env custody) := by
  have effect := next_effect sound event
  unfold Resends at resends
  revert effect resends
  generalize event.call = call
  generalize event.next env custody = next
  intro resends effect
  cases effect with
  | unchanged => exact nonces
  | recovered call before after =>
    apply nonces.update rfl rfl (Nat.le_refl _)
    · intro first found
      rw [after.headerOf_eq] at found
      rw [before.headerOf_eq, found]
    · intro row present
      rw [before.present] at present
      cases present
      exact ⟨_, after.present, before.counts after.toCommitted⟩
  | appended state before continues split one =>
    apply nonces.appended before one
    intro used member key index chunk rest taken
    obtain ⟨later, whole⟩ := split
    rw [taken] at whole
    obtain ⟨some, head⟩ := head_chunksOf whole.symm
    rw [head]
    refine (resends some used ?_).symm
    unfold framesBefore
    rw [before.headerOf_eq, before.present]
    dsimp only
    rw [if_pos (continues.offset.trans before.bytes.symm)]
    exact List.mem_filter.mpr ⟨member, decide_eq_true ⟨key, index⟩⟩
  | sealed owns before after =>
    apply nonces.update rfl rfl (Nat.le_refl _)
    · intro first found
      rw [after.file first found]
      exact before.headerOf_eq
    · intro row present
      rw [before.present] at present
      cases present
      exact ⟨_, after.present, before.counts after.toCommitted⟩
  | @headerless input pending drawn absent none later =>
    have objects : (custody.withPending input.custodyRef pending drawn).objects =
        (custody.update input.custodyRef _).objects := rfl
    apply nonces.update objects rfl later
    · intro first found
      have nothing := none.symm.trans found
      cases nothing
    · exact fun row present => ⟨row, present, rfl, rfl⟩
  | drawn absent => exact nonces.drawn_step _
  | inserted absent free => exact nonces.begun _ absent
  | @lost input absent free unused failure =>
    have objects : ((begunCustody env custody input).change input.custodyRef fun object =>
        { object with pending := .none }).objects =
        ((begunCustody env custody input).update input.custodyRef _).objects := rfl
    apply (nonces.begun input absent).update objects rfl (Nat.le_refl _)
    · intro first found
      cases found
    · exact fun row present => ⟨row, present, rfl, rfl⟩

omit nonces

theorem nonces_empty : Nonces {} := ⟨nofun, nofun, nofun, nofun, nofun⟩

/-- In a run in which a client that resends at an offset sends the same bytes again, no key and
nonce encrypt two plaintexts. -/
theorem encryptions_never_reuse_nonce (env : CustodyEnv) {events : List CustodyEvent}
    (resends : EachCommand (CustodyEvent.next env) Resends {} events) :
    NoReuse (runAll (CustodyEvent.next env) {} events) := by
  have kept := runAll_preserves (fun custody event allowed
      (holds : Sound env custody ∧ Nonces custody) =>
    (⟨next_sound holds.1 event, holds.2.step holds.1 allowed⟩ :
      Sound env (event.next env custody) ∧ Nonces (event.next env custody)))
    resends ⟨sound_empty env, nonces_empty⟩
  exact kept.2.noReuse

/-- Over every run, its failures and crashes included, what is stored of a custody object fits its
row, and the resources name the objects that have rows. -/
theorem runs_keep_custody (env : CustodyEnv) (events : List CustodyEvent) :
    Sound env (runAll (CustodyEvent.next env) {} events) :=
  have keeps : ∀ custody event, Sound env custody → Sound env (CustodyEvent.next env custody event) :=
    fun _ event sound => next_sound sound event
  runAll_invariant keeps (sound_empty env) events

def sampleEnv : CustodyEnv where
  headerDigest _ := ZERO_DIGEST
  frameDigest _ := ZERO_DIGEST
  contentDigest _ := ZERO_DIGEST
  envelopeDigest _ := ZERO_DIGEST
  footerMac _ _ := ZERO_DIGEST

def sampleDeclaration : Declaration where
  sessionId := "session"
  fileIndex := 0
  expectedContentDigest := ZERO_DIGEST
  expectedByteSize := 2
  owner := "owner"
  idempotencyKey := "key"
  indexBounded := by decide
  sizeBounded := by decide

def sampleBegin : CustodyEvent := { call := .begin ⟨sampleDeclaration, 7, 0, none⟩ }

def sampleAppend (bytes : Bytes) (stop : Option Nat) : CustodyEvent :=
  { call := .append ⟨sampleDeclaration, "owner", 0, bytes⟩ 0, stop := stop }

/-- The first append dies after it has encrypted its frame; the second one sends other bytes. -/
theorem nonce_reused : ¬ NoReuse (runAll (CustodyEvent.next sampleEnv) {}
    [sampleBegin, sampleAppend [1] (some 1), sampleAppend [2] none]) := by
  unfold NoReuse
  decide +kernel

theorem encryptions_never_reuse_nonce_sample : EachCommand (CustodyEvent.next sampleEnv) Resends {}
      [sampleBegin, sampleAppend [1] (some 1), sampleAppend [1] none] ∧
    NoReuse (runAll (CustodyEvent.next sampleEnv) {}
      [sampleBegin, sampleAppend [1] (some 1), sampleAppend [1] none]) := by
  have resends : EachCommand (CustodyEvent.next sampleEnv) Resends {}
      [sampleBegin, sampleAppend [1] (some 1), sampleAppend [1] none] := by decide +kernel
  exact ⟨resends, encryptions_never_reuse_nonce sampleEnv resends⟩

end LicoMesh.UploadCustody
