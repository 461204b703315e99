import LicoMesh.OutboundEgress.Policy
import Mathlib.Data.List.Dedup

namespace LicoMesh.OutboundEgress

open List

/-! `fetchWithPinnedDns` and `requestWithPinnedDns`: a request and the redirects that follow it.
The two differ in the transport and in how it is told not to follow redirects itself. -/

variable {headers : List (String × String)} {nextInit init : RequestInit} {connection : Connection}
  {url : String} {remaining : Nat} {visited : List String}

inductive Transport
  | fetch
  | request

open Transport

inductive RedirectMode
  | error
  | follow
  | manual
  deriving DecidableEq

structure RequestInit where
  /-- Empty when it is not given. -/
  method : String
  headers : List (String × String)
  body : Option String
  redirect : RedirectMode
  maxRedirections : Nat

namespace Transport

def withoutRedirects (transport : Transport) (init : RequestInit) : RequestInit :=
  match transport with
  | .fetch => { init with redirect := .manual }
  | .request => { init with maxRedirections := 0 }

def hopInit (transport : Transport) (init : RequestInit) : RequestInit :=
  match transport with
  | .fetch => init
  | .request => { init with maxRedirections := 0 }

def follows (transport : Transport) (init : RequestInit) : Bool :=
  match transport with
  | .fetch => init.redirect = .follow
  | .request => 0 < init.maxRedirections

end Transport

structure Response where
  status : Nat
  /-- Empty without the header. -/
  location : String

structure Connection where
  url : String
  target : Url
  address : String
  init : RequestInit
  decision : OutboundRuntimeEgressDecision

inductive RequestError
  | egressDenied (label reason : String)
  | redirectLimitInvalid
  | redirectLimitExceeded
  | redirectLoopDetected
  | requestFailed

/-- The connections that were opened, and how the request ended. -/
structure Run where
  connections : List Connection
  result : Except RequestError Response

structure Network where
  lookup : Nat → String → Option (List String)
  resolver : Nat → String → String
  reply : Nat → Option Response
  followed : Nat → List Connection

def redirectLimit (value : Option Rat) : Except RequestError Nat :=
  let parsed := value.getD 0
  if parsed.den ≠ 1 ∨ parsed.num < 0 ∨ 10 < parsed.num then .error .redirectLimitInvalid
  else .ok parsed.num.toNat

def redirectStatus (status : Nat) : Bool := 300 ≤ status && status < 400

def lowerText (text : String) : String := String.ofList (text.toList.map Char.toLower)

def upperText (text : String) : String := String.ofList (text.toList.map Char.toUpper)

/-- The entries of a `Headers` object: one for each name, in lower case. -/
def headerEntries (headers : List (String × String)) : List (String × String) :=
  (headers.map fun header => lowerText header.1).dedup.map fun name =>
    (name, ", ".intercalate
      ((headers.filter fun header => lowerText header.1 = name).map fun header => header.2))

def deleteHeaders (names : List String) (headers : List (String × String)) :
    List (String × String) :=
  headers.filter fun header => !names.contains (lowerText header.1)

def credentialHeaders : List String := ["authorization", "cookie", "proxy-authorization"]

def contentHeaders : List String := ["content-length", "content-type", "transfer-encoding"]

variable (transport : Transport) (env : EgressEnv) (options : OutboundEgressOptions)
  (network : Network)

/-- The init of a redirect; `none` when one of the URLs has no origin to compare. -/
def redirectInit (init : RequestInit) (sourceUrl targetUrl : String) (status : Nat) :
    Option RequestInit := do
  let source ← env.parse sourceUrl
  let target ← env.parse targetUrl
  let sourceMethod := upperText (if init.method = "" then "GET" else init.method)
  let switchToGet := status = 303 || ((status = 301 || status = 302) && sourceMethod = "POST")
  let crossing := if source.origin ≠ target.origin then credentialHeaders else []
  let content := if switchToGet then contentHeaders else []
  pure (transport.withoutRedirects { init with
    method := if switchToGet then "GET" else sourceMethod
    headers := headerEntries (deleteHeaders content (deleteHeaders crossing init.headers))
    body := if switchToGet then none else init.body })

structure OutboundRedirectDecision where
  ok : Bool
  reason : String
  /-- Empty when there is none. -/
  targetUrl : String

def evaluateOutboundRedirectLocation (sourceUrl : String) (status : Nat) (location : String) :
    OutboundRedirectDecision :=
  let normalizedLocation := trim location
  if !redirectStatus status then ⟨true, "not_redirect", ""⟩
  else if normalizedLocation = "" then ⟨false, "redirect_location_missing", ""⟩
  else
    match env.resolve normalizedLocation (trim sourceUrl) with
    | none => ⟨false, "invalid_redirect_location", ""⟩
    | some target =>
      if target.protocol ≠ "http:" ∧ target.protocol ≠ "https:" then
        ⟨false, "unsupported_redirect_protocol", target.href⟩
      else
        let decision := evaluateOutboundEgressUrl env options target.href
        ⟨decision.ok, if decision.ok then "redirect_location_allowed" else decision.reason,
          target.href⟩

/-- `fetchPinnedDnsHop` and `requestPinnedDnsHop`. -/
def pinnedDnsHop (hop : Nat) (url : String) (init : RequestInit) : Run :=
  let decision := evaluateOutboundEgressUrlWithDns env options (network.lookup hop) url
  if !decision.ok then ⟨[], .error (.egressDenied decision.label decision.reason)⟩
  else
    match env.parse url with
    | none => ⟨[], .error .requestFailed⟩
    | some target =>
      match connectionAddress env (createPinnedDnsDispatcher decision)
          (network.resolver hop) target.hostname with
      | none => ⟨[], .error .requestFailed⟩
      | some address =>
        let sent := transport.hopInit init
        ⟨⟨url, target, address, sent, decision⟩ ::
            (if transport.follows sent then network.followed hop else []),
          (network.reply hop).elim (.error .requestFailed) .ok⟩

inductive Next
  | returns
  | throws (error : RequestError)
  | requests (url : String) (init : RequestInit)

def nextRequest (maximum hop : Nat) (url : String) (init : RequestInit) (response : Response) :
    Next :=
  if !redirectStatus response.status then .returns
  else
    let decision :=
      evaluateOutboundRedirectLocation env options url response.status response.location
    if maximum = 0 then .returns
    else if !decision.ok || decision.targetUrl = "" then
      .throws (.egressDenied "redirect.location" decision.reason)
    else if hop = maximum then .throws .redirectLimitExceeded
    else
      match redirectInit transport env init url decision.targetUrl response.status with
      | none => .throws .requestFailed
      | some next => .requests decision.targetUrl next

def requestHops (maximum : Nat) : Nat → Nat → String → RequestInit → List String → Run
  | 0, _, _, _, _ => ⟨[], .error .redirectLimitExceeded⟩
  | remaining + 1, hop, url, init, visited =>
    if visited.contains url then ⟨[], .error .redirectLoopDetected⟩
    else
      let run := pinnedDnsHop transport env options network hop url init
      match run.result with
      | .error _ => run
      | .ok response =>
        match nextRequest transport env options maximum hop url init response with
        | .returns => run
        | .throws error => ⟨run.connections, .error error⟩
        | .requests next nextInit =>
          let later := requestHops maximum remaining (hop + 1) next nextInit (url :: visited)
          ⟨run.connections ++ later.connections, later.result⟩

def withPinnedDns (maxRedirects : Option Rat) (url : String) (init : RequestInit) : Run :=
  match redirectLimit maxRedirects with
  | .error error => ⟨[], .error error⟩
  | .ok maximum =>
    requestHops transport env options network maximum (maximum + 1) 0 url
      (transport.withoutRedirects init) []

def fetchWithPinnedDns (maxRedirects : Option Rat) (url : String) (init : RequestInit) : Run :=
  withPinnedDns .fetch env options network maxRedirects url init

def requestWithPinnedDns (maxRedirects : Option Rat) (url : String) (init : RequestInit) : Run :=
  withPinnedDns .request env options network maxRedirects url init

variable {transport} {env} {options} {network}

theorem Transport.withoutRedirects_follows (transport : Transport) (init : RequestInit) :
    transport.follows (transport.withoutRedirects init) = false := by
  cases transport <;> rfl

theorem Transport.hopInit_follows (still : transport.follows init = false) :
    transport.follows (transport.hopInit init) = false := by
  cases transport with
  | fetch => exact still
  | request => rfl

@[simp] theorem Transport.withoutRedirects_headers (transport : Transport) (init : RequestInit) :
    (transport.withoutRedirects init).headers = init.headers := by
  cases transport <;> rfl

@[simp] theorem Transport.hopInit_headers (transport : Transport) (init : RequestInit) :
    (transport.hopInit init).headers = init.headers := by
  cases transport <;> rfl

def CarriesCredentials (headers : List (String × String)) : Prop :=
  ∃ header ∈ headers, lowerText header.1 ∈ credentialHeaders

theorem toLower_toLower (char : Char) : char.toLower.toLower = char.toLower := by
  unfold Char.toLower
  split
  · split
    · rename_i upper again
      simp only [UInt32.le_iff_toNat_le, UInt32.toNat_add, seval] at upper again
      omega
    · simp
  · rfl

theorem lowerText_lowerText (text : String) : lowerText (lowerText text) = lowerText text := by
  unfold lowerText
  rw [String.toList_ofList, map_map]
  congr 1
  apply map_congr_left
  intro char _
  exact toLower_toLower char

theorem headerEntries_name (member : entry ∈ headerEntries headers) :
    ∃ header ∈ headers, lowerText entry.1 = lowerText header.1 := by
  obtain ⟨name, named, rfl⟩ := mem_map.mp member
  obtain ⟨header, present, rfl⟩ := mem_map.mp (mem_dedup.mp named)
  exact ⟨header, present, lowerText_lowerText header.1⟩

theorem deleteHeaders_subset (names : List String) (headers : List (String × String)) :
    deleteHeaders names headers ⊆ headers := by
  intro header present
  exact (mem_filter.mp present).1

theorem carriesCredentials_of_entries
    (carries : CarriesCredentials (headerEntries (deleteHeaders names headers))) :
    CarriesCredentials headers := by
  obtain ⟨entry, member, isCredential⟩ := carries
  obtain ⟨header, present, same⟩ := headerEntries_name member
  exact ⟨header, deleteHeaders_subset names headers present, same ▸ isCredential⟩

theorem not_carriesCredentials_deleteHeaders (headers : List (String × String)) :
    ¬CarriesCredentials (deleteHeaders credentialHeaders headers) := by
  intro carries
  obtain ⟨header, present, isCredential⟩ := carries
  have kept := (mem_filter.mp present).2
  rw [contains_iff_mem.mpr isCredential] at kept
  cases kept

theorem redirectInit_spec {next : RequestInit}
    (given : redirectInit transport env init sourceUrl targetUrl status = some next) :
    transport.follows next = false ∧
      (CarriesCredentials next.headers → CarriesCredentials init.headers) ∧
      ∀ source target, env.parse sourceUrl = some source → env.parse targetUrl = some target →
        source.origin ≠ target.origin → ¬CarriesCredentials next.headers := by
  unfold redirectInit at given
  obtain ⟨source, sourceParses, given⟩ := Option.bind_eq_some_iff.mp given
  obtain ⟨target, targetParses, given⟩ := Option.bind_eq_some_iff.mp given
  obtain rfl := Option.some.inj given
  refine ⟨transport.withoutRedirects_follows _, ?_, ?_⟩
  · intro carries
    rw [withoutRedirects_headers] at carries
    obtain ⟨header, present, isCredential⟩ := carriesCredentials_of_entries carries
    exact ⟨header, deleteHeaders_subset _ _ present, isCredential⟩
  · intro source' target' sourceParses' targetParses' crossing carries
    obtain rfl := Option.some.inj (sourceParses.symm.trans sourceParses')
    obtain rfl := Option.some.inj (targetParses.symm.trans targetParses')
    rw [withoutRedirects_headers] at carries
    rw [if_pos crossing] at carries
    exact not_carriesCredentials_deleteHeaders _ (carriesCredentials_of_entries carries)

def Connection.IsPermitted (env : EgressEnv) (options : OutboundEgressOptions)
    (connection : Connection) : Prop :=
  connection.decision.Classifies env.isIP connection.address ∧
    ∃ value, addressValue env.isIP connection.address = some value ∧
      value.IsPermitted (localEgressAllowed options)

def Connection.IsLocalhost (options : OutboundEgressOptions) (connection : Connection) : Prop :=
  isLocalhostName (normalizeHost connection.target.hostname) = true ∧
    localEgressAllowed options = true

def CredentialsStay (connections : List Connection) : Prop :=
  ∀ before first second after, connections = before ++ first :: second :: after →
    first.target.origin ≠ second.target.origin →
    ∀ later ∈ second :: after, ¬CarriesCredentials later.init.headers

theorem pinnedDnsHop_spec (laws : env.Laws) (still : transport.follows init = false) :
    ((pinnedDnsHop transport env options network hop url init).connections = [] ∧
      ∃ error, (pinnedDnsHop transport env options network hop url init).result = .error error) ∨
      ∃ connection,
        (pinnedDnsHop transport env options network hop url init).connections = [connection] ∧
        connection.url = url ∧ env.parse url = some connection.target ∧
        connection.init = transport.hopInit init ∧
        (connection.IsPermitted env options ∨ connection.IsLocalhost options) := by
  unfold pinnedDnsHop
  dsimp only
  split
  · exact .inl ⟨rfl, _, rfl⟩
  · rename_i allowed
    rw [Bool.not_eq_true, Bool.not_eq_false'] at allowed
    split
    · exact .inl ⟨rfl, _, rfl⟩
    · rename_i target parses
      split
      · exact .inl ⟨rfl, _, rfl⟩
      · rename_i address connects
        rw [hopInit_follows still, if_neg Bool.false_ne_true]
        refine .inr ⟨_, rfl, rfl, parses, rfl, ?_⟩
        obtain permitted | ⟨named, allowsLocal, _⟩ :=
          connectionAddress_permitted laws allowed parses connects
        · exact .inl permitted
        · exact .inr ⟨named, allowsLocal⟩

theorem nextRequest_requests {next : String} {maximum : Nat} (requested :
      nextRequest transport env options maximum hop url init response = .requests next nextInit) :
    redirectInit transport env init url next response.status = some nextInit := by
  unfold nextRequest at requested
  dsimp only at requested
  split at requested
  · cases requested
  split at requested
  · cases requested
  split at requested
  · cases requested
  split at requested
  · cases requested
  split at requested
  · cases requested
  · rename_i given
    cases requested
    exact given

variable (transport env) in
theorem requestHops_succ (maximum remaining hop : Nat) (url : String) (init : RequestInit)
    (visited : List String) :
    (requestHops transport env options network maximum (remaining + 1) hop url init
        visited).connections = [] ∨ (url ∉ visited ∧
        ((requestHops transport env options network maximum (remaining + 1) hop url init
            visited).connections =
          (pinnedDnsHop transport env options network hop url init).connections ∨
        ∃ response next nextInit,
          (pinnedDnsHop transport env options network hop url init).result = .ok response ∧
          redirectInit transport env init url next response.status = some nextInit ∧
          (requestHops transport env options network maximum (remaining + 1) hop url init
              visited).connections =
            (pinnedDnsHop transport env options network hop url init).connections ++
              (requestHops transport env options network maximum remaining (hop + 1) next nextInit
                (url :: visited)).connections)) := by
  rw [requestHops]
  dsimp only
  split
  · exact .inl rfl
  · rename_i fresh
    refine .inr ⟨fun seen => fresh (contains_iff_mem.mpr seen), ?_⟩
    split
    · exact .inl rfl
    · rename_i response answered
      split
      · exact .inl rfl
      · exact .inl rfl
      · rename_i next nextInit requested
        exact .inr ⟨response, next, nextInit, answered, nextRequest_requests requested, rfl⟩

/-- What holds of the connections of a request for a URL after some that were visited. -/
structure HopsSound (transport : Transport) (env : EgressEnv) (options : OutboundEgressOptions)
    (remaining : Nat) (url : String) (init : RequestInit) (visited : List String)
    (connections : List Connection) : Prop where
  permitted : ∀ connection ∈ connections,
    connection.IsPermitted env options ∨ connection.IsLocalhost options
  bounded : connections.length ≤ remaining
  distinct : (connections.map Connection.url).Nodup
  unvisited : ∀ connection ∈ connections, connection.url ∉ visited
  starts : ∀ first rest, connections = first :: rest → env.parse url = some first.target
  credentials : ¬CarriesCredentials init.headers → ∀ connection ∈ connections,
    ¬CarriesCredentials connection.init.headers
  stay : CredentialsStay connections

open HopsSound

theorem HopsSound.none : HopsSound transport env options remaining url init visited [] where
  permitted := fun connection member => absurd member not_mem_nil
  bounded := Nat.zero_le remaining
  distinct := nodup_nil
  unvisited := fun connection member => absurd member not_mem_nil
  starts := fun first rest same => absurd same (cons_ne_nil first rest).symm
  credentials := fun _ connection member => absurd member not_mem_nil
  stay := by
    intro before first second after same
    exact absurd same.symm (by simp)

section

variable (fresh : url ∉ visited) (urlSame : connection.url = url)
  (parses : env.parse url = some connection.target)
  (sent : connection.init = transport.hopInit init)
  (permitted : connection.IsPermitted env options ∨ connection.IsLocalhost options)
include fresh urlSame parses sent permitted

theorem HopsSound.cons {next : String}
    (redirected : redirectInit transport env init url next status = some nextInit)
    (sound : HopsSound transport env options remaining next nextInit (url :: visited) later) :
    HopsSound transport env options (remaining + 1) url init visited (connection :: later) := by
  obtain ⟨_, inherits, crosses⟩ := redirectInit_spec redirected
  constructor
  case permitted =>
    intro other member
    obtain rfl | member := mem_cons.mp member
    · exact permitted
    · exact sound.permitted other member
  case bounded =>
    exact Nat.succ_le_succ sound.bounded
  case distinct =>
    rw [map_cons, nodup_cons, urlSame]
    refine ⟨?_, sound.distinct⟩
    intro again
    obtain ⟨other, member, same⟩ := mem_map.mp again
    exact sound.unvisited other member (same ▸ mem_cons_self)
  case unvisited =>
    intro other member
    obtain rfl | member := mem_cons.mp member
    · exact urlSame ▸ fresh
    · exact fun seen => sound.unvisited other member (mem_cons_of_mem url seen)
  case starts =>
    intro first rest same
    obtain ⟨rfl, _⟩ := cons.inj same
    exact parses
  case credentials =>
    intro clean other member
    obtain rfl | member := mem_cons.mp member
    · rw [sent, hopInit_headers]
      exact clean
    · exact sound.credentials (fun carries => clean (inherits carries)) other member
  case stay =>
    intro before first second after same crossing
    cases before with
    | nil =>
      obtain ⟨isFirst, rfl⟩ := cons.inj same
      have target := sound.starts second after rfl
      rw [← isFirst] at crossing
      exact sound.credentials (crosses connection.target second.target parses target crossing)
    | cons head before =>
      obtain ⟨_, rest⟩ := cons.inj same
      exact sound.stay before first second after rest crossing

theorem HopsSound.single :
    HopsSound transport env options (remaining + 1) url init visited [connection] := by
  constructor
  case permitted =>
    intro other member
    obtain rfl := mem_singleton.mp member
    exact permitted
  case bounded => exact Nat.succ_le_succ (Nat.zero_le remaining)
  case distinct => exact nodup_singleton connection.url
  case unvisited =>
    intro other member
    obtain rfl := mem_singleton.mp member
    exact urlSame ▸ fresh
  case starts =>
    intro first rest same
    obtain ⟨rfl, _⟩ := cons.inj same
    exact parses
  case credentials =>
    intro clean other member
    obtain rfl := mem_singleton.mp member
    rw [sent, hopInit_headers]
    exact clean
  case stay =>
    intro before first second after same
    have lengths := congrArg length same
    simp only [length_append, length_cons, length_nil] at lengths
    omega

end

theorem requestHops_sound (laws : env.Laws) (maximum : Nat) (remaining : Nat) :
    ∀ hop url init visited, transport.follows init = false →
      HopsSound transport env options remaining url init visited
        (requestHops transport env options network maximum remaining hop url init
          visited).connections := by
  induction remaining with
  | zero =>
    intro hop url init visited _
    exact none
  | succ remaining induction =>
    intro hop url init visited still
    obtain none | ⟨fresh, last | ⟨response, next, nextInit, answered, redirected, more⟩⟩ :=
      requestHops_succ transport env maximum remaining hop url init
        visited
    · rw [none]
      exact HopsSound.none
    · rw [last]
      obtain ⟨closed, _⟩ | ⟨connection, opened, urlSame, parses, sent, permitted⟩ :=
        pinnedDnsHop_spec laws still
      · rw [closed]
        exact none
      · rw [opened]
        exact single fresh urlSame parses sent permitted
    · rw [more]
      obtain ⟨_, error, failed⟩ | ⟨connection, opened, urlSame, parses, sent, permitted⟩ :=
        pinnedDnsHop_spec laws still
      · rw [failed] at answered
        cases answered
      · rw [opened]
        have later := induction (hop + 1) next nextInit (url :: visited)
          (redirectInit_spec redirected).1
        exact cons fresh urlSame parses sent permitted redirected later

theorem withPinnedDns_sound (laws : env.Laws) (transport : Transport) (maxRedirects : Option Rat)
    (url : String) (init : RequestInit) : HopsSound transport env options
      ((redirectLimit maxRedirects).toOption.elim 0 (· + 1)) url
      (transport.withoutRedirects init) []
      (withPinnedDns transport env options network maxRedirects url init).connections := by
  unfold withPinnedDns
  cases redirectLimit maxRedirects with
  | error error => exact none
  | ok maximum =>
    exact requestHops_sound laws maximum (maximum + 1) 0 url _ []
      (transport.withoutRedirects_follows init)

def plainUrl (origin hostname : String) : Url := ⟨origin ++ "/", "http:", hostname, "", origin⟩

def smallUrls : List Url :=
  [plainUrl "http://localhost" "localhost", plainUrl "http://a.example" "a.example",
    plainUrl "http://b.example" "b.example"]

def smallEnv : EgressEnv where
  isIP := fun text => if text = "93.184.216.34" ∨ text = "169.254.169.254" then 4 else 0
  parse := fun text => smallUrls.find? (·.href = text)
  resolve := fun text _ => smallUrls.find? (·.href = text)

def smallNetwork : Network where
  lookup := fun _ _ => some ["93.184.216.34"]
  resolver := fun _ _ => "169.254.169.254"
  reply := fun hop => if hop = 0 then some ⟨302, "http://b.example/"⟩ else some ⟨200, ""⟩
  followed := fun _ => []

def developmentOptions : OutboundEgressOptions :=
  ⟨developmentLocalEgressPolicyPreset, ⟨false, false⟩, "outbound.url"⟩

def authorizedInit : RequestInit := ⟨"", [("Authorization", "secret")], none, .follow, 20⟩

theorem smallEnv_laws : smallEnv.Laws where
  parse_trim := by
    intro text given parsed found trimmed
    have among : smallUrls.find? (·.href = text) = some given := found
    have known : text = given.href := by
      have matched := find?_some among
      exact (of_decide_eq_true matched).symm
    have trims : ∀ url ∈ smallUrls, trim url.href = url.href := by decide +kernel
    rw [known, trims given (mem_of_find?_eq_some among), ← known] at trimmed
    exact congrArg Url.hostname (Option.some.inj (trimmed.symm.trans found))
  isIP_normalizeHost := by
    intro text isAddress
    have known : text = "93.184.216.34" ∨ text = "169.254.169.254" := by
      apply Decidable.byContradiction
      intro other
      exact isAddress (if_neg other)
    obtain rfl | rfl := known <;> decide +kernel
  isIP_localhost := by
    intro text named
    apply if_neg
    intro known
    obtain rfl | rfl := known <;> exact absurd named (by decide +kernel)

end LicoMesh.OutboundEgress
