import LicoMesh.OutboundEgress.Addresses

namespace LicoMesh.ClientAddress

open List

open OutboundEgress

abbrev Text := List Char

def maxForwardedForChainLength : Nat := 32

inductive HeaderValue
  | text (value : Text)
  | list (values : List Text)

structure Request where
  forwardedFor : HeaderValue
  socketAddress : Text
  connectionAddress : Text

inductive TrustedProxyInput
  | text (value : Text)
  | list (entries : List Text)

def mappedMarker : Text := "::ffff:".toList

def normalizeIpAddress (value : Text) : Text :=
  let text := stripBrackets (trimChars value)
  if mappedMarker.isPrefixOf text then text.drop mappedMarker.length else text

section Attribution

variable (isIP : Text → Bool)

def normalizeNetworkIp (value : Text) : Text :=
  let normalized := normalizeIpAddress value
  if isIP normalized then normalized.map Char.toLower else []

def trustedProxySet (value : TrustedProxyInput) : List Text :=
  let entries :=
    match value with
    | .text text => text.splitOn ','
    | .list entries => entries
  (entries.map (normalizeNetworkIp isIP)).filter (· ≠ [])

def HeaderValue.joined : HeaderValue → Text
  | .text value => value
  | .list values => [','].intercalate values

def Request.forwardedEntries (request : Request) : List Text :=
  request.forwardedFor.joined.splitOn ','

def forwardedForChain (request : Request) : List Text :=
  if trimChars request.forwardedFor.joined = [] then []
  else
    let entries := request.forwardedEntries.map trimChars
    if entries.length = 0 ∨ entries.length > maxForwardedForChainLength ∨ [] ∈ entries then []
    else
      let normalized := entries.map (normalizeNetworkIp isIP)
      if [] ∈ normalized then [] else normalized

/-- The loop of `clientIpFromRequest`, its chain from the last entry to the first. -/
def walkChain (trusted : List Text) (clientAddress : Text) : List Text → Text
  | [] => clientAddress
  | next :: rest =>
    if clientAddress ∈ trusted then walkChain trusted next rest else clientAddress

def Request.remoteAddress (request : Request) : Text :=
  normalizeNetworkIp isIP
    (if request.socketAddress = [] then request.connectionAddress else request.socketAddress)

def clientIpFromRequest (request : Request) (unknown : Text) (trustedProxies : TrustedProxyInput) :
    Text :=
  let remoteAddress := request.remoteAddress isIP
  let trusted := trustedProxySet isIP trustedProxies
  let chain := forwardedForChain isIP request
  if remoteAddress ≠ [] ∧ remoteAddress ∈ trusted ∧ chain.length > 0 then
    walkChain trusted remoteAddress chain.reverse
  else if remoteAddress = [] then unknown else remoteAddress

/-- The suffix that the trusted proxies appended ends in this untrusted address. -/
def rightmostUntrusted (trusted suffix : List Text) : Option Text :=
  (suffix.map (normalizeNetworkIp isIP)).reverse.find? (· ∉ trusted)

def AllAddresses (entries : List Text) : Prop :=
  ∀ entry ∈ entries, normalizeNetworkIp isIP entry ≠ []

instance (entries : List Text) : Decidable (AllAddresses isIP entries) :=
  inferInstanceAs (Decidable (∀ entry ∈ entries, _))

/-- What stands in front of the suffix does not matter. -/
def IgnoresFront (request : Request) (unknown : Text) (trustedProxies : TrustedProxyInput) : Prop :=
  ∀ front suffix client, request.forwardedEntries = front ++ suffix → AllAddresses isIP suffix →
    rightmostUntrusted isIP (trustedProxySet isIP trustedProxies) suffix = some client →
    clientIpFromRequest isIP request unknown trustedProxies = client

variable {isIP}

theorem walkChain_of_find?
    (known : address ∈ trusted) (found : chain.find? (· ∉ trusted) = some client) :
    walkChain trusted address chain = client := by
  induction chain generalizing address with
  | nil => cases found
  | cons next rest induction =>
    rw [walkChain, if_pos known]
    by_cases trusts : next ∈ trusted
    · rw [find?_cons_of_neg (by simpa using trusts)] at found
      exact induction trusts found
    · rw [find?_cons_of_pos (by simpa using trusts)] at found
      obtain rfl := Option.some.inj found
      cases rest <;> simp [walkChain, trusts]

theorem normalizeIpAddress_blank (blank : trimChars value = []) :
    normalizeIpAddress value = [] := by
  unfold normalizeIpAddress
  rw [blank]
  rfl

theorem normalizeNetworkIp_trimChars (entry : Text) :
    normalizeNetworkIp isIP (trimChars entry) = normalizeNetworkIp isIP entry := by
  unfold normalizeNetworkIp normalizeIpAddress
  rw [trimChars_trimChars]

theorem normalizeNetworkIp_blank (blank : trimChars entry = []) :
    normalizeNetworkIp isIP entry = [] := by
  unfold normalizeNetworkIp
  rw [normalizeIpAddress_blank blank]
  simp

theorem isSpace_of_trimChars (blank : trimChars text = []) :
    ∀ char ∈ text, isSpace char = true := by
  intro char member
  have inner : text.dropWhile isSpace = [] := by
    have stripped : (text.dropWhile isSpace).rdropWhile isSpace = [] := blank
    rw [rdropWhile_eq_nil_iff] at stripped
    cases kept : text.dropWhile isSpace with
    | nil => rfl
    | cons first rest =>
      have stops : isSpace first = false := by
        have head := head?_dropWhile_not isSpace text
        simpa [kept] using head
      rw [kept] at stripped
      exact absurd (stripped first mem_cons_self) (by simp [stops])
  exact dropWhile_eq_nil_iff.mp inner char member

theorem not_allAddresses_of_blank (blank : trimChars text = []) :
    ¬ AllAddresses isIP (text.splitOn ',') := by
  have whole : text.splitOn ',' = [text] :=
    splitOn_eq_singleton fun member =>
      absurd (isSpace_of_trimChars blank ',' member) (by decide)
  intro all
  exact all text (by rw [whole]; exact mem_cons_self) (normalizeNetworkIp_blank blank)

/-- The chain is kept as a whole or not at all. -/
theorem forwardedForChain_eq (request : Request) : forwardedForChain isIP request =
      if request.forwardedEntries.length ≤ maxForwardedForChainLength ∧
          AllAddresses isIP request.forwardedEntries then
        request.forwardedEntries.map (normalizeNetworkIp isIP)
      else [] := by
  have trimmed : (request.forwardedEntries.map trimChars).map (normalizeNetworkIp isIP) =
      request.forwardedEntries.map (normalizeNetworkIp isIP) := by
    simp [normalizeNetworkIp_trimChars]
  have every : [] ∉ request.forwardedEntries.map (normalizeNetworkIp isIP) ↔
      AllAddresses isIP request.forwardedEntries := by
    simp [AllAddresses]
  unfold forwardedForChain
  split
  · rename_i blank
    rw [if_neg fun valid => not_allAddresses_of_blank blank valid.2]
  · dsimp only
    rw [length_map, trimmed]
    split
    · rename_i refused
      rw [if_neg]
      rintro ⟨short, all⟩
      obtain none | long | empty := refused
      · exact splitOn_ne_nil _ _ (length_eq_zero_iff.mp none)
      · exact Nat.not_lt_of_le short long
      · obtain ⟨entry, member, blank⟩ := mem_map.mp empty
        exact all entry member (normalizeNetworkIp_blank blank)
    · rename_i accepted
      have short : request.forwardedEntries.length ≤ maxForwardedForChainLength :=
        Nat.le_of_not_lt fun long => accepted (.inr (.inl long))
      by_cases all : AllAddresses isIP request.forwardedEntries
      · rw [if_neg (every.mpr all), if_pos ⟨short, all⟩]
      · rw [if_pos (not_not.mp fun absent => all (every.mp absent)), if_neg fun valid => all valid.2]

theorem nonempty_of_trusted
    (trusts : address ∈ trustedProxySet isIP trustedProxies) : address ≠ [] := by
  simpa using (mem_filter.mp trusts).2

/-- Behind a trusted socket address the proxies' own entries decide when the whole chain is valid,
and the socket address itself when it is not: never an address that the client chose. -/
theorem client_attributed (isIP : Text → Bool) (request : Request) (unknown : Text)
    (trustedProxies : TrustedProxyInput) : (request.remoteAddress isIP ≠ [] →
      request.remoteAddress isIP ∉ trustedProxySet isIP trustedProxies →
        clientIpFromRequest isIP request unknown trustedProxies = request.remoteAddress isIP) ∧
    (request.remoteAddress isIP ∈ trustedProxySet isIP trustedProxies →
      ∀ front suffix client, request.forwardedEntries = front ++ suffix → AllAddresses isIP suffix →
        rightmostUntrusted isIP (trustedProxySet isIP trustedProxies) suffix = some client →
        clientIpFromRequest isIP request unknown trustedProxies =
          if (front ++ suffix).length ≤ maxForwardedForChainLength ∧ AllAddresses isIP front then
            client
          else request.remoteAddress isIP) := by
  constructor
  · intro known untrusted
    unfold clientIpFromRequest
    rw [if_neg fun taken => untrusted taken.2.1, if_neg known]
  · intro trusts front suffix client entries addresses rightmost
    have known := nonempty_of_trusted trusts
    have whole : AllAddresses isIP (front ++ suffix) ↔ AllAddresses isIP front := by
      simp only [AllAddresses, forall_mem_append, and_iff_left_iff_imp]
      exact fun _ => addresses
    have chain := @forwardedForChain_eq isIP request
    rw [entries] at chain
    unfold clientIpFromRequest
    by_cases valid : (front ++ suffix).length ≤ maxForwardedForChainLength ∧ AllAddresses isIP front
    · rw [if_pos ⟨valid.1, whole.mpr valid.2⟩] at chain
      have found : ((front ++ suffix).map (normalizeNetworkIp isIP)).reverse.find?
          (· ∉ trustedProxySet isIP trustedProxies) = some client := by
        rw [map_append, reverse_append, find?_append]
        unfold rightmostUntrusted at rightmost
        rw [rightmost]
        rfl
      have filled : 0 < ((front ++ suffix).map (normalizeNetworkIp isIP)).length := by
        cases entries : front ++ suffix with
        | nil => rw [entries] at found; cases found
        | cons => exact Nat.succ_pos _
      rw [chain, if_pos ⟨known, trusts, filled⟩, if_pos valid]
      exact walkChain_of_find? trusts found
    · rw [if_neg fun kept => valid ⟨kept.1, whole.mp kept.2⟩] at chain
      rw [chain, if_neg fun taken => absurd taken.2.2 (Nat.lt_irrefl 0), if_neg known, if_neg valid]

def readsIpv4 (text : Text) : Bool := (ipv4Parts text).isSome

def proxied (header : String) : Request where
  forwardedFor := .text header.toList
  socketAddress := "10.0.0.9".toList
  connectionAddress := []

def oneProxy : TrustedProxyInput := .text "10.0.0.9".toList

theorem client_attributed_direct :
    clientIpFromRequest readsIpv4 { proxied "203.0.113.8" with socketAddress := "10.0.0.8".toList }
        [] oneProxy = "10.0.0.8".toList ∧
      clientIpFromRequest readsIpv4 (proxied "192.0.2.1,203.0.113.8") [] oneProxy =
        "203.0.113.8".toList := by
  constructor
  · exact (client_attributed readsIpv4 _ [] oneProxy).1 (by decide +kernel) (by decide +kernel)
  · exact (client_attributed readsIpv4 (proxied "192.0.2.1,203.0.113.8") [] oneProxy).2
      (by decide +kernel) ["192.0.2.1".toList] ["203.0.113.8".toList] _ (by decide +kernel)
      (by decide +kernel) (by decide +kernel)

/-- An entry in front of the suffix that is no address hides the client behind the proxy. -/
theorem malformed_front_not_ignored :
    ¬ IgnoresFront readsIpv4 (proxied "unknown,203.0.113.8") [] oneProxy := by
  intro ignores
  have found := ignores ["unknown".toList] ["203.0.113.8".toList] "203.0.113.8".toList
    (by decide +kernel) (by decide +kernel) (by decide +kernel)
  revert found
  decide +kernel

end Attribution

end LicoMesh.ClientAddress
