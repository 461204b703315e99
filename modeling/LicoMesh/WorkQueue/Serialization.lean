import LicoMesh.WorkQueue.Policies
import Mathlib.Data.List.DropRight
import Mathlib.Data.List.Sort

namespace LicoMesh.WorkQueue

/-- The code points `String.prototype.trim` strips. -/
def isTrimmedSpace (c : Char) : Bool :=
  let code := c.toNat
  (9 ≤ code && code ≤ 13) || code == 32 || code == 0xA0 || code == 0x1680 ||
    (0x2000 ≤ code && code ≤ 0x200A) || code == 0x2028 || code == 0x2029 ||
    code == 0x202F || code == 0x205F || code == 0x3000 || code == 0xFEFF

def trimChars (chars : List Char) : List Char :=
  ((chars.dropWhile isTrimmedSpace).reverse.dropWhile isTrimmedSpace).reverse

def toText (value : String) : String := String.ofList (trimChars value.toList)

theorem trimChars_trimChars (chars : List Char) : trimChars (trimChars chars) = trimChars chars := by
  have trimmed : ∀ chars, trimChars chars =
      (chars.dropWhile isTrimmedSpace).rdropWhile isTrimmedSpace := fun _ => rfl
  have leading : (trimChars chars).dropWhile isTrimmedSpace = trimChars chars := by
    rw [trimmed, List.dropWhile_eq_self_iff]
    intro nonempty space
    have kept : (chars.dropWhile isTrimmedSpace).rdropWhile isTrimmedSpace <+:
        chars.dropWhile isTrimmedSpace := List.rdropWhile_prefix _ _
    rw [kept.getElem nonempty] at space
    have start := @List.dropWhile_idempotent _ isTrimmedSpace chars
    rw [List.dropWhile_eq_self_iff] at start
    exact start (Nat.lt_of_lt_of_le nonempty kept.length_le) space
  rw [trimmed (trimChars chars), leading, trimmed, List.rdropWhile_idempotent]

theorem toText_toText (text : String) : toText (toText text) = toText text := by
  unfold toText
  rw [String.toList_ofList, trimChars_trimChars]

/-- `a || b || …` on optional texts. -/
def firstText (values : List (Option String)) : String :=
  (values.find? fun value => (value.getD "") ≠ "").join.getD ""

/-- An identity from the generator: neither blank nor padded. -/
abbrev Identifier := { text : String // text ≠ "" ∧ toText text = text }

/-- A JSON value; a number is kept as the text `JSON.stringify` prints for it. -/
inductive Json
  | null
  | bool (value : Bool)
  | num (text : String)
  | str (value : String)
  | arr (items : List Json)
  | obj (fields : List (String × Json))

namespace Json

def hexChars (code : Nat) : List Char :=
  [hexDigit (code / 4096 % 16), hexDigit (code / 256 % 16), hexDigit (code / 16 % 16),
    hexDigit (code % 16)]

def escapeChar (c : Char) : List Char :=
  match c.toNat with
  | 8 => ['\\', 'b']
  | 9 => ['\\', 't']
  | 10 => ['\\', 'n']
  | 12 => ['\\', 'f']
  | 13 => ['\\', 'r']
  | 34 => ['\\', '\"']
  | 92 => ['\\', '\\']
  | code => if code < 32 then '\\' :: 'u' :: hexChars code else [c]

def quote (text : String) : List Char := '\"' :: (text.toList.flatMap escapeChar ++ ['\"'])

def joinComma : List (List Char) → List Char
  | [] => []
  | [only] => only
  | head :: tail => head ++ ',' :: joinComma tail

mutual
/-- `JSON.stringify`. -/
def render : Json → List Char
  | .null => ['n', 'u', 'l', 'l']
  | .bool true => ['t', 'r', 'u', 'e']
  | .bool false => ['f', 'a', 'l', 's', 'e']
  | .num text => text.toList
  | .str value => quote value
  | .arr items => '[' :: (joinComma (renderItems items) ++ [']'])
  | .obj fields => '\x7b' :: (joinComma (renderFields fields) ++ ['\x7d'])

def renderItems : List Json → List (List Char)
  | [] => []
  | item :: rest => item.render :: renderItems rest

def renderFields : List (String × Json) → List (List Char)
  | [] => []
  | (key, value) :: rest => (quote key ++ ':' :: value.render) :: renderFields rest
end

def utf16Units (text : String) : List Nat :=
  text.toList.flatMap fun c =>
    let code := c.toNat
    if code < 0x10000 then [code]
    else [0xD800 + (code - 0x10000) / 0x400, 0xDC00 + (code - 0x10000) % 0x400]

def keyLe (left right : String × Json) : Bool := decide (¬ utf16Units right.1 < utf16Units left.1)

mutual
def canonical : Json → Json
  | .arr items => .arr (canonicalItems items)
  | .obj fields => .obj ((canonicalFields fields).insertionSort fun a b => keyLe a b)
  | value => value

def canonicalItems : List Json → List Json
  | [] => []
  | item :: rest => item.canonical :: canonicalItems rest

def canonicalFields : List (String × Json) → List (String × Json)
  | [] => []
  | (key, value) :: rest => (key, value.canonical) :: canonicalFields rest
end

mutual
/-- No part of the value lies more than `limit` levels below its root. -/
def withinDepth : Nat → Json → Bool
  | limit, .arr items => itemsWithinDepth limit items
  | limit, .obj fields => fieldsWithinDepth limit fields
  | _, _ => true

def itemsWithinDepth : Nat → List Json → Bool
  | _, [] => true
  | 0, _ :: _ => false
  | limit + 1, item :: rest => item.withinDepth limit && itemsWithinDepth (limit + 1) rest

def fieldsWithinDepth : Nat → List (String × Json) → Bool
  | _, [] => true
  | 0, _ :: _ => false
  | limit + 1, (_, value) :: rest =>
    value.withinDepth limit && fieldsWithinDepth (limit + 1) rest
end

mutual
/-- `String(value ?? "")`. -/
def text : Json → List Char
  | .null => []
  | .bool value => (Json.bool value).render
  | .num value => value.toList
  | .str value => value.toList
  | .arr items => joinComma (itemTexts items)
  | .obj _ => "[object Object]".toList

def itemTexts : List Json → List (List Char)
  | [] => []
  | item :: rest => item.text :: itemTexts rest
end

def isTruthy : Json → Bool
  | .null => false
  | .bool value => value
  | .num value => value ≠ "0"
  | .str value => value ≠ ""
  | _ => true

/-- Property access; an absent property is `null`. -/
def get (value : Json) (key : String) : Json :=
  match value with
  | .obj fields => (fields.find? fun field => field.1 = key).elim .null Prod.snd
  | _ => .null

def emptyObject : Json := .obj []

def byteLength (chars : List Char) : Nat := (chars.map Char.utf8Size).sum

end Json

/-- `stableJson`: the canonical JSON text. -/
def canonicalJson (value : Json) : List Char := value.canonical.render

structure QueueScope where
  tenantId : String := ""
  workspaceId : String := ""
  projectId : String := ""
  deploymentId : String := ""

namespace QueueScope

/-- `normalizeStructuredQueueScope`. -/
def normalize (scope : QueueScope) : QueueScope where
  tenantId := toText scope.tenantId
  workspaceId := toText scope.workspaceId
  projectId := toText scope.projectId
  deploymentId := toText scope.deploymentId

def toJson (scope : QueueScope) : Json :=
  .obj (([("tenantId", scope.tenantId), ("workspaceId", scope.workspaceId),
    ("projectId", scope.projectId), ("deploymentId", scope.deploymentId)].filter
      fun part => part.2 ≠ "").map fun part => (part.1, .str part.2))

end QueueScope

def scopeKeyFromScope (scope : QueueScope) : String :=
  String.ofList (canonicalJson scope.normalize.toJson)

/-- `input.scopeKey ? toText(input.scopeKey) : scopeKeyFromScope(scope)`. -/
def resolveScopeKey (scopeKey : Option String) (scope : QueueScope) : String :=
  if scopeKey.getD "" ≠ "" then toText (scopeKey.getD "") else scopeKeyFromScope scope

/-- The `queueDefinition` (or `definition`) object of a command. -/
structure QueueDefinitionInput where
  queueDefinitionId : Option String := none
  queueId : Option String := none
  queueDefinitionVersion : Option Int := none
  version : Option Int := none
  lifecycleState : Option String := none
  allowDeprecatedEnqueue : Bool := false
  policy : PolicyInput := {}

/-- How a command names its queue; an absent or empty definition object is `none`. -/
structure QueueReference where
  queueDefinitionId : Option String := none
  queueId : Option String := none
  queueDefinitionVersion : Option Int := none
  version : Option Int := none
  queueDefinition : Option QueueDefinitionInput := none

structure ResolvedQueueDefinition where
  queueDefinitionId : String
  queueDefinitionVersion : Nat
  queueDefinition : QueueDefinitionInput

def assertQueueDefinitionCanEnqueue (definition : QueueDefinitionInput) : Except QueueError Unit :=
  if definition.queueDefinitionId.getD "" = "" then
    .error { message := "Queue definition id is required." }
  else
    let state := firstText [definition.lifecycleState, some "active"]
    if state = "disabled" then .error { message := "Queue definition is disabled." }
    else if state = "deprecated" then
      if definition.allowDeprecatedEnqueue then .ok ()
      else .error { message := "Queue definition is deprecated." }
    else if state = "active" then .ok ()
    else .error { message := "Unknown queue definition lifecycle state: " ++ state }

/-- `resolveQueueDefinition`; version 0 stands for all versions. -/
def resolveQueueDefinition (input : QueueReference)
    (assertEnqueue allowAllVersions : Bool) : Except QueueError ResolvedQueueDefinition :=
  let definition := input.queueDefinition.getD {}
  let queueDefinitionId := toText (firstText [input.queueDefinitionId,
    definition.queueDefinitionId, input.queueId, definition.queueId])
  if queueDefinitionId = "" then .error { message := "queueDefinitionId is required." }
  else
    let rawVersion := input.queueDefinitionVersion <|> input.version <|>
      definition.queueDefinitionVersion <|> definition.version
    let queueDefinitionVersion :=
      match rawVersion with
      | none => if allowAllVersions then 0 else 1
      | some version => max 1 version.toNat
    let resolved : ResolvedQueueDefinition :=
      { queueDefinitionId, queueDefinitionVersion, queueDefinition := definition }
    if assertEnqueue && input.queueDefinition.isSome then
      (assertQueueDefinitionCanEnqueue definition).map fun _ => resolved
    else .ok resolved

def resolveWorkExpiryAtMs (nowMs availableAtMs : Int) (expiresAtMs : Option Int)
    (policy : QueuePolicy) : Except QueueError Int :=
  let defaultLifetimeMs := max 1 policy.workExpiry.defaultLifetimeMs
  let maxLifetimeMs := max defaultLifetimeMs policy.workExpiry.maxLifetimeMs
  let requested := expiresAtMs.getD (nowMs + defaultLifetimeMs)
  if maxSafeInteger < requested.natAbs then
    .error { message := "expiresAtMs must be a safe integer timestamp." }
  else if requested ≤ nowMs then
    .error { message := "expiresAtMs must be later than the admission time." }
  else if requested ≤ availableAtMs then
    .error { message := "expiresAtMs must be later than availableAtMs." }
  else if requested - nowMs > maxLifetimeMs then
    .error { message := "expiresAtMs exceeds the queue work lifetime limit." }
  else .ok requested

def normalizePayloadRef (value : Json) : Except QueueError Json :=
  match value with
  | .obj (field :: fields) => .ok (.obj (field :: fields))
  | _ => .error { message := "payloadRef is required and must be a structured reference." }

/-- `normalizeOwnerRef`: anything but an object counts as the empty one. -/
def normalizeOwnerRef (value : Json) : Json :=
  match value with
  | .obj fields => .obj fields
  | _ => Json.emptyObject

def serializePayloadRef (value : Json) : Except QueueError (List Char) :=
  if value.withinDepth 16 then .ok value.render
  else .error
    { message := "payloadRef must be a bounded JSON-compatible structured reference."
      code := some "work_queue_payload_ref_invalid" }

def workQueueMaxCheckpointRefBytes : Nat := 2 * 1024

/-- `CHECKPOINT_TOKEN`. -/
def isCheckpointToken (token : String) : Bool :=
  token ≠ "" && token.toList.all fun c =>
    c.isAlphanum || c = '.' || c = '_' || c = ':' || c = '-'

def isSha256Reference (token : String) : Bool :=
  let chars := token.toList
  chars.take 7 = ['s', 'h', 'a', '2', '5', '6', ':'] && (chars.drop 7).length = 64 &&
    (chars.drop 7).all fun c => c.isDigit || ('a' ≤ c && c ≤ 'f')

structure NormalizedCheckpoint where
  serialized : String
  checkpointDigest : String

def checkpointInvalid (message : String) : QueueError where
  message := message
  code := some "work_queue_checkpoint_invalid"

def normalizeCheckpointRef (sha256 : String → Sha256Digest) (value : Json) :
    Except QueueError NormalizedCheckpoint :=
  match value with
  | .obj fields =>
    if fields.any fun field => field.1 ∉ ["kind", "ref", "revision", "digest"] then
      .error (checkpointInvalid "Queue checkpointRef contains unsupported fields.")
    else
      let part := fun key => String.ofList (trimChars (value.get key).text)
      let kind := part "kind"
      let ref := part "ref"
      let revision := part "revision"
      let digest := part "digest"
      if kind = "" || ref = "" || !isCheckpointToken kind || !isCheckpointToken ref ||
          (revision ≠ "" && !isCheckpointToken revision) ||
          (digest ≠ "" && !isSha256Reference digest) then
        .error (checkpointInvalid
          "Queue checkpointRef must contain bounded opaque identifiers.")
      else
        let serialized := canonicalJson (.obj [("kind", .str kind), ("ref", .str ref),
          ("revision", .str revision), ("digest", .str digest)])
        if workQueueMaxCheckpointRefBytes < Json.byteLength serialized then
          .error
            { message := "Queue checkpointRef exceeds its byte budget."
              code := some "work_queue_checkpoint_capacity_exceeded"
              limit := some workQueueMaxCheckpointRefBytes }
        else
          .ok { serialized := String.ofList serialized
                checkpointDigest := (sha256 (String.ofList serialized)).hex }
  | _ => .error (checkpointInvalid "Queue checkpointRef must be an object.")

end LicoMesh.WorkQueue
