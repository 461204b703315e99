import Mathlib.Data.List.DropRight

namespace LicoMesh.OutboundEgress

/-! The classification of hosts. `net.isIP` has accepted every address text before it is taken
apart, so a part that is no plain number or group makes the address invalid. -/

variable {allowLocal : Bool} {groups : List Nat}

inductive AddressCategory
  | benchmark
  | carrierGradeNat
  | cloudMetadata
  | hostname
  | invalid
  | linkLocal
  | loopback
  | multicast
  | privateRange
  | publicRange
  | reserved
  | unspecified
  deriving DecidableEq

def AddressCategory.text : AddressCategory → String
  | .benchmark => "benchmark"
  | .carrierGradeNat => "carrier-grade-nat"
  | .cloudMetadata => "cloud-metadata"
  | .hostname => "hostname"
  | .invalid => "invalid"
  | .linkLocal => "link-local"
  | .loopback => "loopback"
  | .multicast => "multicast"
  | .privateRange => "private"
  | .publicRange => "public"
  | .reserved => "reserved"
  | .unspecified => "unspecified"

inductive HostKind
  | hostname
  | ipv4
  | ipv6
  | missing
  deriving DecidableEq

structure OutboundHostClassification where
  host : String
  kind : HostKind
  category : AddressCategory
  restricted : Bool
  metadataEndpoint : Bool

/-- The white space that `trim` removes. -/
def isSpace (c : Char) : Bool :=
  c.toNat ∈ [0x9, 0xa, 0xb, 0xc, 0xd, 0x20, 0xa0, 0x1680, 0x2028, 0x2029, 0x202f, 0x205f, 0x3000,
    0xfeff] || (0x2000 ≤ c.toNat && c.toNat ≤ 0x200a)

def trimChars (chars : List Char) : List Char :=
  ((chars.dropWhile isSpace).reverse.dropWhile isSpace).reverse

theorem dropWhile_rdropWhile (drops : Char → Bool) (chars : List Char) :
    ((chars.dropWhile drops).rdropWhile drops).dropWhile drops =
      (chars.dropWhile drops).rdropWhile drops := by
  cases kept : (chars.dropWhile drops).rdropWhile drops with
  | nil => rfl
  | cons first rest =>
    have starts : first :: rest <+: chars.dropWhile drops :=
      kept ▸ List.rdropWhile_prefix drops (chars.dropWhile drops)
    obtain ⟨others, whole⟩ := starts
    have stays := List.dropWhile_idempotent drops chars
    rw [← whole, List.cons_append, List.dropWhile_cons] at stays
    rw [List.dropWhile_cons]
    split at stays
    · rename_i dropped
      have shorter := congrArg List.length stays
      have bound := (List.dropWhile_sublist drops (l := rest ++ others)).length_le
      simp only [List.length_cons] at shorter
      omega
    · rename_i stops
      rw [if_neg stops]

theorem trimChars_trimChars (chars : List Char) : trimChars (trimChars chars) = trimChars chars := by
  have leading := dropWhile_rdropWhile isSpace chars
  have trailing := List.rdropWhile_idempotent isSpace (chars.dropWhile isSpace)
  unfold List.rdropWhile at leading trailing
  unfold trimChars
  rw [leading, trailing]

def trim (text : String) : String := String.ofList (trimChars text.toList)

def stripBrackets (chars : List Char) : List Char :=
  let opened := if chars.head? = some '[' then chars.tail else chars
  if opened.getLast? = some ']' then opened.dropLast else opened

def normalizeHost (value : String) : String :=
  String.ofList (stripBrackets ((trimChars value.toList).map Char.toLower))

def digit (c : Char) : Option Nat :=
  if '0' ≤ c ∧ c ≤ '9' then some (c.toNat - '0'.toNat) else none

def hexDigit (c : Char) : Option Nat :=
  if 'a' ≤ c ∧ c ≤ 'f' then some (c.toNat - 'a'.toNat + 10) else digit c

def numberOf (base : Nat) (digits : List Nat) : Nat :=
  digits.foldl (fun value next => value * base + next) 0

structure Ipv4Address where
  first : Nat
  second : Nat
  third : Nat
  fourth : Nat
  deriving DecidableEq

open Ipv4Address

def octet (part : List Char) : Option Nat := do
  let value := numberOf 10 (← part.mapM digit)
  if value ≤ 255 then some value else none

def ipv4Parts (text : List Char) : Option Ipv4Address :=
  match (text.splitOn '.').mapM octet with
  | some [first, second, third, fourth] => some ⟨first, second, third, fourth⟩
  | _ => none

def ipv4Category (address : Ipv4Address) : AddressCategory :=
  let a := address.first
  let b := address.second
  if a = 0 then .unspecified
  else if a = 10 then .privateRange
  else if a = 127 then .loopback
  else if a = 169 ∧ b = 254 then .linkLocal
  else if a = 172 ∧ 16 ≤ b ∧ b ≤ 31 then .privateRange
  else if a = 192 ∧ b = 168 then .privateRange
  else if a = 100 ∧ 64 ≤ b ∧ b ≤ 127 then .carrierGradeNat
  else if a = 198 ∧ (b = 18 ∨ b = 19) then .benchmark
  else if 224 ≤ a ∧ a ≤ 239 then .multicast
  else if 240 ≤ a then .reserved
  else .publicRange

/-- `none` is the empty category. -/
def ipv4RangeCategory (text : List Char) : Option AddressCategory :=
  (ipv4Parts text).map ipv4Category

/-- The parts between the occurrences of `::`. -/
def splitDouble : List Char → List (List Char)
  | [] => [[]]
  | ':' :: ':' :: rest => [] :: splitDouble rest
  | c :: rest =>
    match splitDouble rest with
    | [] => [[c]]
    | head :: tail => (c :: head) :: tail

def nonEmptyParts (text : List Char) : List (List Char) := (text.splitOn ':').filter (· ≠ [])

def hexGroup (part : List Char) : Option Nat :=
  if 1 ≤ part.length ∧ part.length ≤ 4 then (part.mapM hexDigit).map (numberOf 16) else none

/-- A part behind `::` can be an IPv4 address, which is two groups. -/
def tailGroups (part : List Char) : Option (List Nat) :=
  if part.contains '.' then
    (ipv4Parts part).map fun address =>
      [address.first * 256 + address.second, address.third * 256 + address.fourth]
  else (hexGroup part).map ([·])

def expandIpv6 (text : List Char) : Option (List Nat) :=
  let input := text.map Char.toLower
  if !input.contains ':' then none
  else
    match splitDouble input with
    | [head] => do
        let groups ← (nonEmptyParts head).mapM hexGroup
        if groups.length = 8 then some groups else none
    | [head, tail] => do
        let groups ← (nonEmptyParts head).mapM hexGroup
        let last ← (nonEmptyParts tail).mapM tailGroups
        if groups.length + last.flatten.length ≤ 8 then
          some (groups ++ List.replicate (8 - groups.length - last.flatten.length) 0 ++
            last.flatten)
        else none
    | _ => none

def ipv6BigInt (groups : List Nat) : Nat := numberOf 65536 groups

def awsMetadataIpv6 : Nat := 0xfd000ec2000000000000000000000254

def cloudMetadataHosts : List String :=
  ["instance-data.ec2.internal", "metadata.google.internal", "metadata.goog"]

def cloudMetadataIpv4Addresses : List String :=
  ["169.254.169.254", "169.254.170.2", "169.254.170.23"]

/-- `cloudMetadataEndpoint` of a host that is normalized. -/
def cloudMetadataEndpoint (host : String) : Bool :=
  cloudMetadataHosts.contains host || cloudMetadataIpv4Addresses.contains host ||
    (expandIpv6 host.toList).any (ipv6BigInt · = awsMetadataIpv6)

def mappedAddress (high low : Nat) : Ipv4Address := ⟨high / 256, high % 256, low / 256, low % 256⟩

def ipv6Category (groups : List Nat) : AddressCategory :=
  let value := ipv6BigInt groups
  let first := groups.headD 0
  if value = 0 then .unspecified
  else if value = 1 then .loopback
  else if first &&& 0xfe00 = 0xfc00 then .privateRange
  else if first &&& 0xffc0 = 0xfe80 then .linkLocal
  else if first &&& 0xff00 = 0xff00 then .multicast
  else
    match groups with
    | [0, 0, 0, 0, 0, 0xffff, high, low] => ipv4Category (mappedAddress high low)
    | _ => .publicRange

def ipv6RangeCategory (text : List Char) : Option AddressCategory :=
  (expandIpv6 text).map ipv6Category

/-- `localhost` or a name below it. -/
def isLocalhostName (host : String) : Bool :=
  host = "localhost" || ".localhost".toList.isSuffixOf host.toList

def addressClassification (host : String) (kind : HostKind) (range : Option AddressCategory) :
    OutboundHostClassification :=
  let category := range.getD .invalid
  ⟨host, kind, category, category ≠ .publicRange, cloudMetadataEndpoint host⟩

def classifyOutboundHost (isIP : String → Nat) (host : String) : OutboundHostClassification :=
  let normalized := normalizeHost host
  if normalized = "" then ⟨"", .missing, .invalid, true, false⟩
  else if cloudMetadataHosts.contains normalized then
    ⟨normalized, .hostname, .cloudMetadata, true, true⟩
  else if isLocalhostName normalized then ⟨normalized, .hostname, .loopback, true, false⟩
  else if isIP normalized = 4 then
    addressClassification normalized .ipv4 (ipv4RangeCategory normalized.toList)
  else if isIP normalized = 6 then
    addressClassification normalized .ipv6 (ipv6RangeCategory normalized.toList)
  else ⟨normalized, .hostname, .hostname, false, false⟩

def outboundHostAllowed (host : OutboundHostClassification) (allowLocal : Bool) : Bool :=
  if host.metadataEndpoint || host.category = .linkLocal then false
  else if !host.restricted then true
  else allowLocal && (host.category = .loopback || host.category = .privateRange)

inductive AddressValue
  | v4 (address : Ipv4Address)
  | v6 (groups : List Nat)
  deriving DecidableEq

open AddressValue

namespace Ipv4Address

variable (address : Ipv4Address)

def IsLinkLocal : Prop := address.first = 169 ∧ address.second = 254

def IsLoopback : Prop := address.first = 127

def IsPrivate : Prop :=
  address.first = 10 ∨ (address.first = 172 ∧ 16 ≤ address.second ∧ address.second ≤ 31) ∨
    (address.first = 192 ∧ address.second = 168)

/-- Of a range that is not for the public network: unspecified, shared, benchmark, multicast or
reserved. -/
def IsSpecial : Prop :=
  address.first = 0 ∨ (address.first = 100 ∧ 64 ≤ address.second ∧ address.second ≤ 127) ∨
    (address.first = 198 ∧ (address.second = 18 ∨ address.second = 19)) ∨ 224 ≤ address.first

def IsMetadata : Prop :=
  address = ⟨169, 254, 169, 254⟩ ∨ address = ⟨169, 254, 170, 2⟩ ∨ address = ⟨169, 254, 170, 23⟩

def IsPermitted (allowLocal : Bool) : Prop :=
  ¬address.IsLinkLocal ∧ ¬address.IsMetadata ∧ ¬address.IsSpecial ∧
    ((address.IsLoopback ∨ address.IsPrivate) → allowLocal = true)

end Ipv4Address

namespace AddressValue

def mapped : AddressValue → Option Ipv4Address
  | .v6 [0, 0, 0, 0, 0, 0xffff, high, low] => some (mappedAddress high low)
  | _ => none

def IsPermitted (allowLocal : Bool) : AddressValue → Prop
  | .v4 address => address.IsPermitted allowLocal
  | .v6 groups =>
    groups.headD 0 &&& 0xffc0 ≠ 0xfe80 ∧ groups.headD 0 &&& 0xff00 ≠ 0xff00 ∧
      ipv6BigInt groups ≠ 0 ∧ ipv6BigInt groups ≠ awsMetadataIpv6 ∧
          ((ipv6BigInt groups = 1 ∨ groups.headD 0 &&& 0xfe00 = 0xfc00) →
            allowLocal = true) ∧
            ∀ address, (v6 groups).mapped = some address →
              address.IsPermitted allowLocal

end AddressValue

def addressValue (isIP : String → Nat) (text : String) : Option AddressValue :=
  let normalized := normalizeHost text
  if isIP normalized = 4 then (ipv4Parts normalized.toList).map .v4
  else if isIP normalized = 6 then (expandIpv6 normalized.toList).map .v6
  else none

theorem ipv4Category_spec (address : Ipv4Address) :
    (ipv4Category address = .publicRange → ¬address.IsLinkLocal ∧ ¬address.IsSpecial ∧
      ¬address.IsLoopback ∧ ¬address.IsPrivate) ∧
    (ipv4Category address = .loopback → address.IsLoopback) ∧
    (ipv4Category address = .privateRange → address.IsPrivate) := by
  unfold ipv4Category IsLinkLocal IsSpecial IsLoopback
    IsPrivate
  dsimp only
  split_ifs <;> simp_all <;> omega

variable {address : Ipv4Address}

theorem Ipv4Address.IsMetadata.linkLocal (metadata : address.IsMetadata) : address.IsLinkLocal := by
  obtain rfl | rfl | rfl := metadata <;> exact ⟨rfl, rfl⟩

theorem ipv4_permitted (allowed : ipv4Category address = .publicRange ∨ (allowLocal = true ∧
        (ipv4Category address = .loopback ∨ ipv4Category address = .privateRange))) :
    address.IsPermitted allowLocal := by
  obtain ⟨isPublic, isLoopback, isPrivate⟩ := ipv4Category_spec address
  have apart : ¬address.IsLinkLocal ∧ ¬address.IsSpecial := by
    obtain found | ⟨_, found | found⟩ := allowed
    · exact ⟨(isPublic found).1, (isPublic found).2.1⟩
    · have range := isLoopback found
      unfold IsLoopback at range
      unfold IsLinkLocal IsSpecial
      omega
    · have range := isPrivate found
      unfold IsPrivate at range
      unfold IsLinkLocal IsSpecial
      omega
  refine ⟨apart.1, fun metadata => apart.1 metadata.linkLocal, apart.2, ?_⟩
  intro isLocal
  obtain found | ⟨allows, _⟩ := allowed
  · obtain ⟨_, _, notLoopback, notPrivate⟩ := isPublic found
    exact (isLocal.elim notLoopback notPrivate).elim
  · exact allows

theorem le_foldl (base : Nat) (positive : 0 < base) (digits : List Nat) :
    ∀ value, value ≤ digits.foldl (fun value next => value * base + next) value := by
  induction digits with
  | nil => exact fun value => Nat.le_refl value
  | cons next rest induction =>
    intro value
    have grows : value ≤ value * base + next :=
      Nat.le_trans (Nat.le_mul_of_pos_right value positive) (Nat.le_add_right _ _)
    exact Nat.le_trans grows (induction (value * base + next))

theorem head_le_ipv6BigInt (groups : List Nat) : groups.headD 0 ≤ ipv6BigInt groups := by
  cases groups with
  | nil => exact Nat.zero_le _
  | cons first rest =>
    have grows := le_foldl 65536 (by decide) rest (0 * 65536 + first)
    simpa [ipv6BigInt, numberOf] using grows

theorem head_of_loopback (loopback : ipv6BigInt groups = 1) :
    groups.headD 0 = 0 ∨ groups.headD 0 = 1 := by
  have bounded := head_le_ipv6BigInt groups
  omega

theorem land_of_subset (submask : Nat)
    (masked : value &&& mask = wanted) (subset : mask &&& submask = submask) : value &&& submask = wanted &&& submask := by
  rw [← masked, Nat.and_assoc, subset]

theorem ipv6Category_spec
    (categories : ipv6Category groups = .publicRange ∨ ipv6Category groups = .loopback ∨
      ipv6Category groups = .privateRange) :
    groups.headD 0 &&& 0xffc0 ≠ 0xfe80 ∧ groups.headD 0 &&& 0xff00 ≠ 0xff00 ∧
      ipv6BigInt groups ≠ 0 := by
  unfold ipv6Category at categories
  dsimp only at categories
  split at categories
  · simp at categories
  rename_i nonzero
  split at categories
  · rename_i loopback
    refine ⟨?_, ?_, nonzero⟩ <;>
      obtain first | first := head_of_loopback loopback <;> rw [first] <;> decide
  split at categories
  · rename_i isPrivate
    refine ⟨?_, ?_, nonzero⟩
    · intro linkLocal
      have high := land_of_subset 0xfe00 linkLocal (by decide)
      rw [isPrivate] at high
      exact absurd high (by decide)
    · intro multicast
      have high := land_of_subset 0xfe00 multicast (by decide)
      rw [isPrivate] at high
      exact absurd high (by decide)
  split at categories
  · simp at categories
  rename_i notLinkLocal
  split at categories
  · simp at categories
  · rename_i notMulticast
    exact ⟨notLinkLocal, notMulticast, nonzero⟩

theorem ipv6Category_loopback (loopback : ipv6BigInt groups = 1) :
    ipv6Category groups = .loopback := by
  unfold ipv6Category
  rw [loopback, if_neg Nat.one_ne_zero, if_pos rfl]

theorem ipv6Category_private (nonzero : ipv6BigInt groups ≠ 0)
    (isPrivate : groups.headD 0 &&& 0xfe00 = 0xfc00) : ipv6Category groups = .privateRange := by
  have other : ipv6BigInt groups ≠ 1 := by
    intro loopback
    obtain first | first := head_of_loopback loopback <;> rw [first] at isPrivate <;>
      exact absurd isPrivate (by decide)
  unfold ipv6Category
  rw [if_neg nonzero, if_neg other, if_pos isPrivate]

theorem ipv6Category_mapped (high low : Nat) :
    ipv6Category [0, 0, 0, 0, 0, 0xffff, high, low] = ipv4Category (mappedAddress high low) := by
  have large : 65536 < ipv6BigInt [0, 0, 0, 0, 0, 0xffff, high, low] := by
    simp only [ipv6BigInt, numberOf, List.foldl]
    omega
  unfold ipv6Category
  dsimp only [List.headD_cons]
  rw [if_neg (by omega), if_neg (by omega), if_neg (by decide), if_neg (by decide),
    if_neg (by decide)]
  rfl

theorem ipv6_permitted (allowed : ipv6Category groups = .publicRange ∨ (allowLocal = true ∧
        (ipv6Category groups = .loopback ∨ ipv6Category groups = .privateRange)))
    (other : ipv6BigInt groups ≠ awsMetadataIpv6) : (v6 groups).IsPermitted allowLocal := by
  have categories : ipv6Category groups = .publicRange ∨ ipv6Category groups = .loopback ∨
      ipv6Category groups = .privateRange := by
    obtain found | ⟨_, found⟩ := allowed
    · exact .inl found
    · exact .inr found
  obtain ⟨notLinkLocal, notMulticast, nonzero⟩ := ipv6Category_spec categories
  refine ⟨notLinkLocal, notMulticast, nonzero, other, ?_, ?_⟩
  · intro isLocal
    have category : ipv6Category groups = .loopback ∨ ipv6Category groups = .privateRange :=
      isLocal.imp ipv6Category_loopback (ipv6Category_private nonzero)
    obtain found | ⟨allows, _⟩ := allowed
    · rw [found] at category
      simp at category
    · exact allows
  · intro address found
    unfold mapped at found
    split at found
    · rename_i high low same
      cases same
      cases found
      rw [ipv6Category_mapped] at allowed
      exact ipv4_permitted allowed
    · cases found

theorem allowed_address
    (allowed : outboundHostAllowed (addressClassification host kind range) allowLocal = true) :
    cloudMetadataEndpoint host = false ∧ ∃ category, range = some category ∧
      (category = .publicRange ∨
        (allowLocal = true ∧ (category = .loopback ∨ category = .privateRange))) := by
  unfold outboundHostAllowed addressClassification at allowed
  split at allowed
  · cases allowed
  rename_i passes
  simp only [Bool.or_eq_true, decide_eq_true_eq, not_or, Bool.not_eq_true] at passes
  refine ⟨passes.1, ?_⟩
  cases range with
  | none => simp at allowed
  | some category =>
    refine ⟨category, rfl, ?_⟩
    split at allowed
    · rename_i unrestricted
      exact .inl (by simpa using unrestricted)
    · exact .inr (by simpa using allowed)

theorem classification_cases (isIP : String → Nat) (host : String) :
    (classifyOutboundHost isIP host).kind = .hostname ∨
      classifyOutboundHost isIP host = ⟨"", .missing, .invalid, true, false⟩ ∨
      (isIP (normalizeHost host) = 4 ∧ classifyOutboundHost isIP host =
        addressClassification (normalizeHost host) .ipv4
          (ipv4RangeCategory (normalizeHost host).toList)) ∨
      (isIP (normalizeHost host) = 6 ∧ classifyOutboundHost isIP host =
        addressClassification (normalizeHost host) .ipv6
          (ipv6RangeCategory (normalizeHost host).toList)) := by
  unfold classifyOutboundHost
  dsimp only
  split
  · exact .inr (.inl rfl)
  split
  · exact .inl rfl
  split
  · exact .inl rfl
  split
  · rename_i isV4
    exact .inr (.inr (.inl ⟨isV4, rfl⟩))
  split
  · rename_i isV6
    exact .inr (.inr (.inr ⟨isV6, rfl⟩))
  · exact .inl rfl

theorem classification_permitted (isAddress : (classifyOutboundHost isIP host).kind ≠ .hostname)
    (allowed : outboundHostAllowed (classifyOutboundHost isIP host) allowLocal = true) :
    ∃ value, addressValue isIP host = some value ∧ value.IsPermitted allowLocal := by
  unfold addressValue
  dsimp only
  obtain name | missing | ⟨isV4, classified⟩ | ⟨isV6, classified⟩ := classification_cases isIP host
  · exact absurd name isAddress
  · rw [missing] at allowed
    simp [outboundHostAllowed] at allowed
  · rw [classified] at allowed
    obtain ⟨_, category, range, categories⟩ := allowed_address allowed
    obtain ⟨address, parts, rfl⟩ := Option.map_eq_some_iff.mp range
    rw [if_pos isV4, parts]
    exact ⟨.v4 address, rfl, ipv4_permitted categories⟩
  · rw [classified] at allowed
    obtain ⟨noMetadata, category, range, categories⟩ := allowed_address allowed
    obtain ⟨groups, parts, rfl⟩ := Option.map_eq_some_iff.mp range
    have notV4 : isIP (normalizeHost host) ≠ 4 := by
      rw [isV6]
      decide
    rw [if_neg notV4, if_pos isV6, parts]
    refine ⟨.v6 groups, rfl, ipv6_permitted categories ?_⟩
    unfold cloudMetadataEndpoint at noMetadata
    rw [parts] at noMetadata
    intro same
    simp [same] at noMetadata

end LicoMesh.OutboundEgress
