import LicoMesh.WorkQueue.Deduplication

namespace LicoMesh.ProtectedSink

open WorkQueue

inductive SinkError
  | bindingInvalid
  | denied
  | revoked
  | currentBindingMismatch
  | unknownOrReplayed
  | permitRequired
  | permitInvalid
  | permitExpired
  | bindingIncomplete
  | bindingMismatch
  | principalMismatch
  | resourceMismatch
  | proofRefInvalid
  | invalidDate
  | dependenciesInvalid
  | clockInvalid

/-- The `code` of an error; the ones without are a `RangeError` and two `TypeError`s. -/
def SinkError.code : SinkError → Option String
  | .bindingInvalid => some "final_protected_sink_permit_binding_invalid"
  | .denied => some "final_protected_sink_permit_denied"
  | .revoked => some "final_protected_sink_permit_revoked"
  | .currentBindingMismatch => some "final_protected_sink_permit_current_binding_mismatch"
  | .unknownOrReplayed => some "governed_execution_permit_unknown_or_replayed"
  | .permitRequired => some "final_protected_sink_permit_required"
  | .permitInvalid => some "governed_execution_permit_invalid"
  | .permitExpired => some "governed_execution_permit_expired"
  | .bindingIncomplete => some "governed_execution_permit_binding_incomplete"
  | .bindingMismatch => some "governed_execution_permit_binding_mismatch"
  | .principalMismatch => some "governed_execution_permit_principal_mismatch"
  | .resourceMismatch => some "governed_execution_permit_resource_mismatch"
  | .proofRefInvalid => some "governed_execution_permit_proof_ref_invalid"
  | .invalidDate | .dependenciesInvalid | .clockInvalid => none

def maxTextBytes : Nat := 256

def isRejectedControl (c : Char) : Bool := c.toNat ≤ 0x1F || c.toNat = 0x7F

def boundedText : Json → String
  | .str value =>
    let normalized := toText value
    if normalized = "" || maxTextBytes < Json.byteLength normalized.toList ||
        normalized.toList.any isRejectedControl then ""
    else normalized
  | _ => ""

theorem boundedText_boundedText (accepted : boundedText value ≠ "") :
    boundedText (.str (boundedText value)) = boundedText value := by
  cases value with
  | str text =>
    unfold boundedText at accepted ⊢
    dsimp only at accepted ⊢
    split at accepted
    · exact absurd rfl accepted
    · rename_i within
      rw [if_neg within]
      rw [toText_toText, if_neg within]
  | _ => exact absurd rfl accepted

abbrev SinkText := { text : String // text ≠ "" ∧ boundedText (.str text) = text }

def requiredText (value : Json) : Except SinkError SinkText :=
  if accepted : boundedText value ≠ "" then
    .ok ⟨boundedText value, accepted, boundedText_boundedText accepted⟩
  else .error .bindingInvalid

@[simp] theorem requiredText_str (text : SinkText) : requiredText (.str text.val) = .ok text := by
  obtain ⟨text, nonempty, bounded⟩ := text
  simp only [requiredText, bounded]
  exact dif_pos nonempty

/-- `/^[a-f0-9]{64}$/u`. -/
def isSha256Text (text : String) : Bool :=
  text.toList.length = 64 && text.toList.all fun c => ('a' ≤ c && c ≤ 'f') || c.isDigit

abbrev SinkDigest := { text : SinkText // isSha256Text text.val = true }

def requiredDigest (value : Json) : Except SinkError SinkDigest := do
  let normalized ← requiredText value
  if digest : isSha256Text normalized.val = true then .ok ⟨normalized, digest⟩
  else .error .bindingInvalid

@[simp] theorem requiredDigest_str (digest : SinkDigest) :
    requiredDigest (.str digest.val.val) = .ok digest := by
  unfold requiredDigest
  rw [requiredText_str]
  exact dif_pos digest.property

/-- `keys.sort().join("\u0000")`. -/
def joinedKeys (keys : List String) : String :=
  String.intercalate "\u0000" (keys.insertionSort fun a b => Json.keyLe (a, .null) (b, .null))

def hasExactKeys (value : Json) (expectedKeys : List String) : Bool :=
  match value with
  | .obj fields => joinedKeys (fields.map Prod.fst) = joinedKeys expectedKeys
  | _ => false

structure Subject where
  generation : SinkText
  subjectId : SinkText
  tenantId : SinkText
  type : SinkText

structure Effect where
  kind : SinkText
  targetDigest : SinkDigest

structure AttemptContext where
  approvalRevision : SinkText
  grantRevision : SinkText
  policyRevision : SinkText
  riskRevision : SinkText
  workloadGeneration : SinkText

structure Context extends AttemptContext where
  resourceRevision : SinkText

structure Binding where
  audience : SinkText
  subject : Subject
  operationId : SinkText
  effect : Effect
  requestDigest : SinkDigest
  context : Context

def subjectKeys : List String := ["generation", "subjectId", "tenantId", "type"]

def effectKeys : List String := ["kind", "targetDigest"]

def contextKeys : List String :=
  ["approvalRevision", "grantRevision", "policyRevision", "resourceRevision", "riskRevision",
    "workloadGeneration"]

def attemptContextKeys : List String := contextKeys.filter (· ≠ "resourceRevision")

def bindingKeys : List String :=
  ["audience", "context", "effect", "operationId", "requestDigest", "subject"]

def requireKeys (value : Json) (expectedKeys : List String) : Except SinkError Unit :=
  if hasExactKeys value expectedKeys then .ok () else .error .bindingInvalid

def normalizeSubject (value : Json) : Except SinkError Subject := do
  requireKeys value subjectKeys
  let generation ← requiredText (value.get "generation")
  let subjectId ← requiredText (value.get "subjectId")
  let tenantId ← requiredText (value.get "tenantId")
  let type ← requiredText (value.get "type")
  return { generation, subjectId, tenantId, type }

def normalizeEffect (value : Json) : Except SinkError Effect := do
  requireKeys value effectKeys
  let kind ← requiredText (value.get "kind")
  let targetDigest ← requiredDigest (value.get "targetDigest")
  return { kind, targetDigest }

def normalizeAttemptContext (value : Json) : Except SinkError AttemptContext := do
  let approvalRevision ← requiredText (value.get "approvalRevision")
  let grantRevision ← requiredText (value.get "grantRevision")
  let policyRevision ← requiredText (value.get "policyRevision")
  let riskRevision ← requiredText (value.get "riskRevision")
  let workloadGeneration ← requiredText (value.get "workloadGeneration")
  return { approvalRevision, grantRevision, policyRevision, riskRevision, workloadGeneration }

def normalizeContext (value : Json) : Except SinkError Context := do
  requireKeys value contextKeys
  let attempt ← normalizeAttemptContext value
  let resourceRevision ← requiredText (value.get "resourceRevision")
  return { attempt with resourceRevision }

def normalizeBinding (value : Json) : Except SinkError Binding := do
  requireKeys value bindingKeys
  let audience ← requiredText (value.get "audience")
  let subject ← normalizeSubject (value.get "subject")
  let operationId ← requiredText (value.get "operationId")
  let effect ← normalizeEffect (value.get "effect")
  let requestDigest ← requiredDigest (value.get "requestDigest")
  let context ← normalizeContext (value.get "context")
  return { audience, subject, operationId, effect, requestDigest, context }

def SinkText.toJson (text : SinkText) : Json := .str text.val

def SinkDigest.toJson (digest : SinkDigest) : Json := .str digest.val.val

def Subject.toJson (subject : Subject) : Json :=
  .obj [("generation", SinkText.toJson subject.generation),
    ("subjectId", SinkText.toJson subject.subjectId),
    ("tenantId", SinkText.toJson subject.tenantId), ("type", SinkText.toJson subject.type)]

def Effect.toJson (effect : Effect) : Json :=
  .obj [("kind", SinkText.toJson effect.kind),
    ("targetDigest", SinkDigest.toJson effect.targetDigest)]

def AttemptContext.fields (context : AttemptContext) : List (String × Json) :=
  [("approvalRevision", SinkText.toJson context.approvalRevision),
    ("grantRevision", SinkText.toJson context.grantRevision),
    ("policyRevision", SinkText.toJson context.policyRevision),
    ("riskRevision", SinkText.toJson context.riskRevision),
    ("workloadGeneration", SinkText.toJson context.workloadGeneration)]

/-- `{ ...context, resourceRevision }`. -/
def contextWith (fields : List (String × Json)) (resourceRevision : Json) : Json :=
  .obj (fields.filter (fun field => field.1 ≠ "resourceRevision") ++
    [("resourceRevision", resourceRevision)])

def Context.toJson (context : Context) : Json :=
  contextWith context.toAttemptContext.fields (SinkText.toJson context.resourceRevision)

def Binding.toJson (binding : Binding) : Json :=
  .obj [("audience", SinkText.toJson binding.audience), ("subject", binding.subject.toJson),
    ("operationId", SinkText.toJson binding.operationId), ("effect", binding.effect.toJson),
    ("requestDigest", SinkDigest.toJson binding.requestDigest),
    ("context", binding.context.toJson)]

def currentBindingMatches (currentBinding : Json) (expectedBinding : Binding) : Bool :=
  match normalizeBinding currentBinding with
  | .ok current => canonicalJson current.toJson = canonicalJson expectedBinding.toJson
  | .error _ => false

theorem requireKeys_obj (same : joinedKeys (fields.map Prod.fst) = joinedKeys expectedKeys) :
    requireKeys (.obj fields) expectedKeys = .ok () := by
  have exact_keys : hasExactKeys (.obj fields) expectedKeys = true := decide_eq_true same
  rw [requireKeys, if_pos exact_keys]

@[simp] theorem normalizeSubject_toJson (subject : Subject) :
    normalizeSubject subject.toJson = .ok subject := by
  have keys : requireKeys subject.toJson subjectKeys = .ok () := requireKeys_obj rfl
  rw [normalizeSubject, keys]
  simp [Subject.toJson, Json.get, SinkText.toJson, bind, Except.bind, pure, Except.pure]

@[simp] theorem normalizeEffect_toJson (effect : Effect) :
    normalizeEffect effect.toJson = .ok effect := by
  have keys : requireKeys effect.toJson effectKeys = .ok () := requireKeys_obj rfl
  rw [normalizeEffect, keys]
  simp [Effect.toJson, Json.get, SinkText.toJson, SinkDigest.toJson, bind,
    Except.bind, pure, Except.pure]

theorem context_toJson (context : Context) :
    context.toJson = .obj (context.toAttemptContext.fields ++
      [("resourceRevision", SinkText.toJson context.resourceRevision)]) := by
  simp [Context.toJson, contextWith, AttemptContext.fields]

@[simp] theorem normalizeContext_toJson (context : Context) :
    normalizeContext context.toJson = .ok context := by
  have keys : requireKeys context.toJson contextKeys = .ok () := by
    apply requireKeys_obj
    change joinedKeys ["approvalRevision", "grantRevision", "policyRevision", "riskRevision",
      "workloadGeneration", "resourceRevision"] = joinedKeys contextKeys
    decide +kernel
  rw [normalizeContext, keys, context_toJson]
  simp [normalizeAttemptContext, AttemptContext.fields, Json.get, SinkText.toJson, bind,
    Except.bind, pure, Except.pure]

theorem normalizeBinding_toJson (binding : Binding) :
    normalizeBinding binding.toJson = .ok binding := by
  have keys : requireKeys binding.toJson bindingKeys = .ok () := by
    apply requireKeys_obj
    change joinedKeys ["audience", "subject", "operationId", "effect", "requestDigest",
      "context"] = joinedKeys bindingKeys
    decide +kernel
  rw [normalizeBinding, keys]
  simp [Binding.toJson, Json.get, SinkText.toJson, SinkDigest.toJson, bind, Except.bind, pure,
    Except.pure]

theorem isValue_subject (subject : Subject) : subject.toJson.isValue = true := by
  simp [Subject.toJson, SinkText.toJson, Json.isValue, Json.areFields]

theorem isValue_effect (effect : Effect) : effect.toJson.isValue = true := by
  simp [Effect.toJson, SinkText.toJson, SinkDigest.toJson, Json.isValue, Json.areFields]

theorem isValue_context (context : Context) : context.toJson.isValue = true := by
  rw [context_toJson]
  simp [AttemptContext.fields, SinkText.toJson, Json.isValue, Json.areFields]

theorem isValue_binding (binding : Binding) : binding.toJson.isValue = true := by
  simp [Binding.toJson, SinkText.toJson, SinkDigest.toJson, Json.isValue, Json.areFields,
    isValue_subject, isValue_effect, isValue_context]

theorem text_of_same {value other : Json} (same : value.SameUpToKeyOrder other)
    (isValue : value.isValue = true) (key : String) {text text' : SinkText}
    (left : value.get key = .str text.val) (right : other.get key = .str text'.val) :
    text = text' := by
  have values := same.get isValue key
  rw [left, right] at values
  exact Subtype.ext values.str_eq

theorem subject_of_same {subject other : Subject}
    (same : subject.toJson.SameUpToKeyOrder other.toJson) : subject = other := by
  have text := text_of_same same (isValue_subject subject)
  have generation := text "generation" rfl rfl
  have subjectId := text "subjectId" rfl rfl
  have tenantId := text "tenantId" rfl rfl
  have type := text "type" rfl rfl
  cases subject
  cases other
  simp_all

theorem effect_of_same {effect other : Effect}
    (same : effect.toJson.SameUpToKeyOrder other.toJson) : effect = other := by
  have text := text_of_same same (isValue_effect effect)
  have kind := text "kind" rfl rfl
  have targetDigest : effect.targetDigest = other.targetDigest :=
    Subtype.ext (text "targetDigest" rfl rfl)
  cases effect
  cases other
  simp_all

theorem context_of_same {context other : Context}
    (same : context.toJson.SameUpToKeyOrder other.toJson) : context = other := by
  have isValue := isValue_context context
  have text := text_of_same same isValue
  have approvalRevision := text "approvalRevision" rfl rfl
  have grantRevision := text "grantRevision" rfl rfl
  have policyRevision := text "policyRevision" rfl rfl
  have resourceRevision := text "resourceRevision" rfl rfl
  have riskRevision := text "riskRevision" rfl rfl
  have workloadGeneration := text "workloadGeneration" rfl rfl
  obtain ⟨⟨_, _, _, _, _⟩, _⟩ := context
  obtain ⟨⟨_, _, _, _, _⟩, _⟩ := other
  simp_all

theorem binding_of_same {binding other : Binding}
    (same : binding.toJson.SameUpToKeyOrder other.toJson) : binding = other := by
  have isValue := isValue_binding binding
  have text := text_of_same same isValue
  have audience := text "audience" rfl rfl
  have operationId := text "operationId" rfl rfl
  have requestDigest : binding.requestDigest = other.requestDigest :=
    Subtype.ext (text "requestDigest" rfl rfl)
  have subject : binding.subject = other.subject := subject_of_same (same.get isValue "subject")
  have effect : binding.effect = other.effect := effect_of_same (same.get isValue "effect")
  have context : binding.context = other.context := context_of_same (same.get isValue "context")
  cases binding
  cases other
  simp_all

theorem currentBindingMatches_iff : currentBindingMatches currentBinding expectedBinding = true ↔
      normalizeBinding currentBinding = .ok expectedBinding := by
  unfold currentBindingMatches
  cases normalized : normalizeBinding currentBinding with
  | error error => simp
  | ok current =>
    rw [decide_eq_true_iff,
      canonicalJson_eq_iff (isValue_binding current) (isValue_binding expectedBinding)]
    constructor
    · intro same
      rw [binding_of_same same]
    · intro same
      rw [Except.ok.inj same]
      exact .refl _

end LicoMesh.ProtectedSink
