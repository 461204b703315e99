import LicoMesh.OutboundEgress.Addresses

namespace LicoMesh.OutboundEgress

/-! Decisions about a URL and about the answers of a name lookup, and the address that a request
connects to. The URL parser and `net.isIP` are parameters. -/

variable {url : String}

structure Url where
  href : String
  protocol : String
  hostname : String
  port : String
  origin : String

structure EgressEnv where
  isIP : String → Nat
  parse : String → Option Url
  resolve : String → String → Option Url

structure OutboundEgressPolicies where
  allowLocalForConfiguredModelService : Bool
  allowLocalForDevelopment : Bool

structure OutboundEgressOptions where
  policyPreset : String
  policies : OutboundEgressPolicies
  label : String

def developmentLocalEgressPolicyPreset : String := "security.development-local"

def localEgressAllowed (options : OutboundEgressOptions) : Bool :=
  trim options.policyPreset = developmentLocalEgressPolicyPreset ||
    options.policies.allowLocalForDevelopment ||
    options.policies.allowLocalForConfiguredModelService

structure OutboundEgressDecision where
  ok : Bool
  label : String
  url : String
  /-- `none` for a text that is no URL. -/
  host : Option OutboundHostClassification
  allowLoopbackAndPrivate : Bool
  reason : String

/-- The text behind `restricted_address_` and `restricted_dns_address_`. -/
def restrictedCategory (host : OutboundHostClassification) : String :=
  if host.metadataEndpoint then "cloud-metadata" else host.category.text

variable (env : EgressEnv) (options : OutboundEgressOptions)

def evaluateOutboundEgressUrl (url : String) : OutboundEgressDecision :=
  let normalizedUrl := trim url
  match env.parse normalizedUrl with
  | none => ⟨false, options.label, normalizedUrl, none, false, "invalid_url"⟩
  | some parsed =>
    let host := classifyOutboundHost env.isIP parsed.hostname
    let allowLocal := localEgressAllowed options
    let allowed := outboundHostAllowed host allowLocal
    ⟨allowed, options.label, parsed.href, some host, allowLocal,
      if allowed then "allowed" else "restricted_address_" ++ restrictedCategory host⟩

structure DnsAddressDecision where
  address : String
  family : Nat
  classified : OutboundHostClassification

def dnsAddress (record : String) : Option DnsAddressDecision :=
  let address := trim record
  let family := env.isIP address
  if address ≠ "" ∧ (family = 4 ∨ family = 6) then
    some ⟨address, family, classifyOutboundHost env.isIP address⟩
  else none

def normalizeDnsLookupRecords (seen : List String) : List String → List DnsAddressDecision
  | [] => []
  | record :: rest =>
    match dnsAddress env record with
    | none => normalizeDnsLookupRecords seen rest
    | some found =>
      if seen.contains found.address then normalizeDnsLookupRecords seen rest
      else found :: normalizeDnsLookupRecords (found.address :: seen) rest

inductive DnsStatus
  | failed
  | resolved
  | skipped

structure DnsDecision where
  status : DnsStatus
  reason : Option String
  addresses : List DnsAddressDecision

structure OutboundRuntimeEgressDecision extends OutboundEgressDecision where
  dns : DnsDecision

def dnsDenied (allowLocal : Bool) (addresses : List DnsAddressDecision) : List DnsAddressDecision :=
  addresses.filter fun record => !outboundHostAllowed record.classified allowLocal

def resolvedReason (addresses denied : List DnsAddressDecision) : String :=
  if addresses.isEmpty then "dns_no_addresses"
  else
    match denied.head? with
    | some record => "restricted_dns_address_" ++ restrictedCategory record.classified
    | none => "allowed"

/-- With the records that the lookup of the host gives; `none` is a lookup that fails. -/
def evaluateOutboundEgressUrlWithDns (lookup : String → Option (List String)) (url : String) :
    OutboundRuntimeEgressDecision :=
  let decision := evaluateOutboundEgressUrl env options url
  match decision.host with
  | none => ⟨decision, ⟨.skipped, some "host_decision_denied", []⟩⟩
  | some host =>
    if !decision.ok then ⟨decision, ⟨.skipped, some "host_decision_denied", []⟩⟩
    else if host.kind ≠ .hostname ∨ host.category ≠ .hostname then
      ⟨decision, ⟨.skipped, some "literal_address", []⟩⟩
    else
      match lookup host.host with
      | none =>
        ⟨{ decision with ok := false, reason := "dns_lookup_failed" }, ⟨.failed, none, []⟩⟩
      | some records =>
        let addresses := normalizeDnsLookupRecords env [] records
        let denied := dnsDenied decision.allowLoopbackAndPrivate addresses
        ⟨{ decision with
            ok := !(addresses.isEmpty || !denied.isEmpty)
            reason := resolvedReason addresses denied },
          ⟨.resolved, none, addresses⟩⟩

def selectedPinnedDnsAddress (decision : OutboundRuntimeEgressDecision) :
    Option DnsAddressDecision :=
  (decision.dns.addresses.find? fun record => !record.classified.restricted).or
    decision.dns.addresses.head?

structure PinnedDnsDispatcher where
  expectedHost : String
  address : String
  family : Nat

def createPinnedDnsDispatcher (decision : OutboundRuntimeEgressDecision) :
    Option PinnedDnsDispatcher :=
  (selectedPinnedDnsAddress decision).map fun pinned =>
    ⟨normalizeHost (decision.host.elim "" (·.host)), trim pinned.address, pinned.family⟩

def PinnedDnsDispatcher.lookup (dispatcher : PinnedDnsDispatcher) (hostname : String) :
    Option String :=
  let requestedHost := normalizeHost hostname
  if requestedHost ≠ "" ∧ dispatcher.expectedHost ≠ "" ∧
      requestedHost ≠ dispatcher.expectedHost then none
  else some dispatcher.address

def isAddressText (host : String) : Bool :=
  env.isIP (normalizeHost host) = 4 || env.isIP (normalizeHost host) = 6

def connectionAddress (dispatcher : Option PinnedDnsDispatcher) (resolver : String → String)
    (hostname : String) : Option String :=
  if isAddressText env hostname then some hostname
  else
    match dispatcher with
    | some pinned => pinned.lookup hostname
    | none => some (resolver hostname)

/-- What the parser and `net.isIP` are relied on for. White space around a URL does not change its
host, an address is one in lower case and without brackets as well, and no address is a name. -/
structure EgressEnv.Laws : Prop where
  parse_trim : ∀ text given parsed, env.parse text = some given →
    env.parse (trim text) = some parsed → parsed.hostname = given.hostname
  isIP_normalizeHost : ∀ text, env.isIP text ≠ 0 → env.isIP (normalizeHost text) = env.isIP text
  isIP_localhost : ∀ text, isLocalhostName text = true → env.isIP text = 0

variable {env} {options}

theorem evaluateOutboundEgressUrl_ok
    (allowed : (evaluateOutboundEgressUrl env options url).ok = true) :
    ∃ parsed, env.parse (trim url) = some parsed ∧
      (evaluateOutboundEgressUrl env options url).host =
        some (classifyOutboundHost env.isIP parsed.hostname) ∧
      (evaluateOutboundEgressUrl env options url).allowLoopbackAndPrivate =
        localEgressAllowed options ∧
      outboundHostAllowed (classifyOutboundHost env.isIP parsed.hostname)
        (localEgressAllowed options) = true := by
  unfold evaluateOutboundEgressUrl at allowed ⊢
  dsimp only at allowed ⊢
  cases found : env.parse (trim url) with
  | none =>
    rw [found] at allowed
    cases allowed
  | some parsed =>
    rw [found] at allowed
    dsimp only at allowed ⊢
    exact ⟨parsed, rfl, rfl, rfl, allowed⟩

theorem trim_trim (text : String) : trim (trim text) = trim text := by
  unfold trim
  rw [String.toList_ofList, trimChars_trimChars]

theorem dnsAddress_spec (given : dnsAddress env record = some found) :
    (env.isIP found.address = 4 ∨ env.isIP found.address = 6) ∧
      found.classified = classifyOutboundHost env.isIP found.address ∧
      trim found.address = found.address := by
  unfold dnsAddress at given
  dsimp only at given
  split at given
  · rename_i usable
    rw [Option.some.injEq] at given
    subst given
    refine ⟨usable.2, ?_, trim_trim record⟩
    dsimp only
  · cases given

theorem normalizeDnsLookupRecords_spec (records : List String) :
    ∀ seen, ∀ found ∈ normalizeDnsLookupRecords env seen records,
      ∃ record, dnsAddress env record = some found := by
  induction records with
  | nil => exact fun seen found member => absurd member List.not_mem_nil
  | cons record rest induction =>
    intro seen found member
    unfold normalizeDnsLookupRecords at member
    split at member
    · exact induction seen found member
    · rename_i first given
      split at member
      · exact induction seen found member
      · obtain rfl | later := List.mem_cons.mp member
        · exact ⟨record, given⟩
        · exact induction (first.address :: seen) found later

structure AllowedRecord (env : EgressEnv) (options : OutboundEgressOptions)
    (record : DnsAddressDecision) : Prop where
  isAddress : env.isIP record.address = 4 ∨ env.isIP record.address = 6
  classified : record.classified = classifyOutboundHost env.isIP record.address
  trimmed : trim record.address = record.address
  allowed : outboundHostAllowed record.classified (localEgressAllowed options) = true

theorem evaluateOutboundEgressUrlWithDns_ok
    (allowed : (evaluateOutboundEgressUrlWithDns env options lookup url).ok = true) :
    ∃ parsed, env.parse (trim url) = some parsed ∧
      (evaluateOutboundEgressUrlWithDns env options lookup url).host =
        some (classifyOutboundHost env.isIP parsed.hostname) ∧
      outboundHostAllowed (classifyOutboundHost env.isIP parsed.hostname)
        (localEgressAllowed options) = true ∧
      (((classifyOutboundHost env.isIP parsed.hostname).kind ≠ .hostname ∨
          (classifyOutboundHost env.isIP parsed.hostname).category ≠ .hostname) ∧
        (evaluateOutboundEgressUrlWithDns env options lookup url).dns.addresses = [] ∨
      (evaluateOutboundEgressUrlWithDns env options lookup url).dns.addresses ≠ [] ∧
        ∀ record ∈ (evaluateOutboundEgressUrlWithDns env options lookup url).dns.addresses,
          AllowedRecord env options record) := by
  have urlAllowed : (evaluateOutboundEgressUrl env options url).ok = true := by
    cases urlOk : (evaluateOutboundEgressUrl env options url).ok with
    | true => rfl
    | false =>
      unfold evaluateOutboundEgressUrlWithDns at allowed
      dsimp only at allowed
      split at allowed
      · exact absurd allowed (by simp [urlOk])
      · rw [urlOk, Bool.not_false, if_pos rfl] at allowed
        exact absurd allowed (by simp [urlOk])
  obtain ⟨parsed, parses, host, locals, hostAllowed⟩ := evaluateOutboundEgressUrl_ok urlAllowed
  refine ⟨parsed, parses, ?_⟩
  unfold evaluateOutboundEgressUrlWithDns at allowed ⊢
  simp only [host, urlAllowed, locals, Bool.not_true, Bool.false_eq_true, if_false] at allowed ⊢
  split at allowed
  · rename_i literal
    rw [if_pos literal]
    exact ⟨host, hostAllowed, .inl ⟨literal, rfl⟩⟩
  · rename_i name
    rw [if_neg name]
    split at allowed
    · cases allowed
    · rename_i records _
      simp only [Bool.not_eq_true', Bool.or_eq_false_iff, Bool.not_eq_false'] at allowed
      refine ⟨rfl, hostAllowed, .inr ⟨?_, ?_⟩⟩
      · intro empty
        dsimp only at empty
        rw [empty] at allowed
        exact absurd allowed.1 (by decide)
      · intro record member
        obtain ⟨text, given⟩ := normalizeDnsLookupRecords_spec records [] record member
        obtain ⟨isAddress, classified, trimmed⟩ := dnsAddress_spec given
        refine ⟨isAddress, classified, trimmed, ?_⟩
        have noneDenied := List.isEmpty_iff.mp allowed.2
        unfold dnsDenied at noneDenied
        simpa using List.filter_eq_nil_iff.mp noneDenied record member

theorem address_not_hostname (isAddress : isAddressText env host = true)
    (noName : isLocalhostName (normalizeHost host) = false)
    (allowed : outboundHostAllowed (classifyOutboundHost env.isIP host) allowLocal = true) :
    (classifyOutboundHost env.isIP host).kind ≠ .hostname := by
  unfold isAddressText at isAddress
  unfold classifyOutboundHost at allowed ⊢
  dsimp only at allowed ⊢
  split
  · simp
  · rename_i present
    rw [if_neg present] at allowed
    split
    · rename_i metadata
      rw [if_pos metadata] at allowed
      exact absurd allowed (by simp [outboundHostAllowed])
    · rw [noName, if_neg Bool.false_ne_true]
      simp only [Bool.or_eq_true, decide_eq_true_eq] at isAddress
      obtain isV4 | isV6 := isAddress
      · simp [isV4, addressClassification]
      · simp [isV6, addressClassification]

theorem localhost_of_allowed (noAddress : isAddressText env host = false)
    (literal : (classifyOutboundHost env.isIP host).kind ≠ .hostname ∨
      (classifyOutboundHost env.isIP host).category ≠ .hostname)
    (allowed : outboundHostAllowed (classifyOutboundHost env.isIP host) allowLocal = true) :
    isLocalhostName (normalizeHost host) = true ∧ allowLocal = true := by
  unfold isAddressText at noAddress
  simp only [Bool.or_eq_false_iff, decide_eq_false_iff_not] at noAddress
  unfold classifyOutboundHost at allowed literal
  dsimp only at allowed literal
  split at allowed
  · exact absurd allowed (by simp [outboundHostAllowed])
  · rename_i present
    rw [if_neg present] at literal
    split at allowed
    · exact absurd allowed (by simp [outboundHostAllowed])
    · rename_i noMetadata
      rw [if_neg noMetadata] at literal
      split at allowed
      · rename_i isLocalhost
        exact ⟨isLocalhost, by simpa [outboundHostAllowed] using allowed⟩
      · rename_i noLocalhost
        rw [if_neg noLocalhost, if_neg noAddress.1, if_neg noAddress.2] at literal
        simp at literal

theorem AllowedRecord.permitted (laws : env.Laws) (known : AllowedRecord env options record) :
    ∃ value, addressValue env.isIP record.address = some value ∧
      value.IsPermitted (localEgressAllowed options) := by
  have isIP_nonzero : env.isIP record.address ≠ 0 := by
    obtain isV4 | isV6 := known.isAddress
    · rw [isV4]
      decide
    · rw [isV6]
      decide
  have normalized := laws.isIP_normalizeHost record.address isIP_nonzero
  have isAddress : isAddressText env record.address = true := by
    unfold isAddressText
    rw [normalized]
    simpa using known.isAddress
  have noName : isLocalhostName (normalizeHost record.address) = false := by
    cases named : isLocalhostName (normalizeHost record.address) with
    | false => rfl
    | true =>
      rw [laws.isIP_localhost _ named] at normalized
      exact absurd normalized.symm isIP_nonzero
  have allowed := known.allowed
  rw [known.classified] at allowed
  exact classification_permitted (address_not_hostname isAddress noName allowed) allowed

theorem selectedPinnedDnsAddress_mem (selected : selectedPinnedDnsAddress decision = some pinned) :
    pinned ∈ decision.dns.addresses := by
  unfold selectedPinnedDnsAddress at selected
  obtain found | ⟨_, first⟩ := Option.or_eq_some_iff.mp selected
  · exact List.mem_of_find?_eq_some found
  · exact List.mem_of_head? first

def OutboundRuntimeEgressDecision.Classifies (decision : OutboundRuntimeEgressDecision)
    (isIP : String → Nat) (address : String) : Prop :=
  decision.host = some (classifyOutboundHost isIP address) ∨
    ∃ record ∈ decision.dns.addresses, record.address = address ∧
      record.classified = classifyOutboundHost isIP address

/-- Where a request connects to once the decision about its URL allowed it: to a permitted address
that the decision classified, or for a localhost name to what the system's resolver answers. -/
theorem connectionAddress_permitted (laws : env.Laws)
    (allowed : (evaluateOutboundEgressUrlWithDns env options lookup url).ok = true)
    (parses : env.parse url = some given) (connects : connectionAddress env
      (createPinnedDnsDispatcher (evaluateOutboundEgressUrlWithDns env options lookup url))
      resolver given.hostname = some address) :
    ((evaluateOutboundEgressUrlWithDns env options lookup url).Classifies env.isIP address ∧
      ∃ value, addressValue env.isIP address = some value ∧
        value.IsPermitted (localEgressAllowed options)) ∨
    (isLocalhostName (normalizeHost given.hostname) = true ∧
      localEgressAllowed options = true ∧ address = resolver given.hostname) := by
  obtain ⟨parsed, trimParses, host, hostAllowed, checked⟩ :=
    evaluateOutboundEgressUrlWithDns_ok allowed
  have sameHost := laws.parse_trim url given parsed parses trimParses
  rw [sameHost] at host hostAllowed checked
  unfold connectionAddress at connects
  cases isAddress : isAddressText env given.hostname with
  | true =>
    rw [isAddress, if_pos rfl] at connects
    cases connects
    have noName : isLocalhostName (normalizeHost given.hostname) = false := by
      cases named : isLocalhostName (normalizeHost given.hostname) with
      | false => rfl
      | true =>
        unfold isAddressText at isAddress
        rw [laws.isIP_localhost _ named] at isAddress
        simp at isAddress
    exact .inl ⟨.inl host,
      classification_permitted (address_not_hostname isAddress noName hostAllowed) hostAllowed⟩
  | false =>
    rw [isAddress, if_neg Bool.false_ne_true] at connects
    unfold createPinnedDnsDispatcher at connects
    obtain ⟨literal, unresolved⟩ | ⟨resolved, known⟩ := checked
    · have unpinned : selectedPinnedDnsAddress
          (evaluateOutboundEgressUrlWithDns env options lookup url) = none := by
        unfold selectedPinnedDnsAddress
        rw [unresolved]
        rfl
      rw [unpinned] at connects
      cases connects
      obtain ⟨named, allowsLocal⟩ := localhost_of_allowed isAddress literal hostAllowed
      exact .inr ⟨named, allowsLocal, rfl⟩
    · cases selected : selectedPinnedDnsAddress
          (evaluateOutboundEgressUrlWithDns env options lookup url) with
      | none =>
        unfold selectedPinnedDnsAddress at selected
        have noHead := (Option.or_eq_none_iff.mp selected).2
        exact absurd (List.head?_eq_none_iff.mp noHead) resolved
      | some pinned =>
        have member := selectedPinnedDnsAddress_mem selected
        have record := known pinned member
        rw [selected] at connects
        dsimp only [Option.map] at connects
        unfold PinnedDnsDispatcher.lookup at connects
        dsimp only at connects
        rw [record.trimmed] at connects
        split at connects
        · cases connects
        · cases connects
          exact .inl ⟨.inr ⟨pinned, member, rfl, record.classified⟩, record.permitted laws⟩

end LicoMesh.OutboundEgress
