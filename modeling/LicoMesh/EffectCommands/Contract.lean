import LicoMesh.ProtectedSink.Permits

namespace LicoMesh.EffectCommands

open WorkQueue ProtectedSink

inductive EffectError
  | bindingIncomplete (field : String)
  | idempotencyRequired
  | backpressure
  | commandInvalid

/-- The `code` of an error; a `TypeError` has none. -/
def EffectError.code : EffectError → Option String
  | .bindingIncomplete _ => some "effect_command_binding_incomplete"
  | .idempotencyRequired => some "effect_command_idempotency_required"
  | .backpressure => some "effect_command_backpressure"
  | .commandInvalid => none

def maxTextBytes : Nat := 128

def text : Json → String
  | .str value =>
    let normalized := toText value
    if Json.byteLength normalized.toList ≤ maxTextBytes then normalized else ""
  | _ => ""

def isIdentityChar (c : Char) : Bool := c.isAlphanum || c = '.' || c = '_' || c = ':' || c = '-'

/-- `/^[A-Za-z0-9][A-Za-z0-9._:-]{1,126}$/u`. -/
def isIdentity : List Char → Bool
  | [] => false
  | first :: rest =>
    first.isAlphanum && 1 ≤ rest.length && rest.length ≤ 126 && rest.all isIdentityChar

def opaqueId (value : Json) : String :=
  if isIdentity (text value).toList then text value else ""

theorem opaqueId_opaqueId (accepted : opaqueId value ≠ "") :
    opaqueId (.str (opaqueId value)) = opaqueId value := by
  have matched : isIdentity (text value).toList = true := by
    apply Decidable.byContradiction
    intro rejected
    exact accepted (if_neg rejected)
  have kept : opaqueId value = text value := if_pos matched
  rw [kept] at accepted ⊢
  have again : text (.str (text value)) = text value := by
    cases value with
    | str given =>
      unfold text at accepted ⊢
      dsimp only at accepted ⊢
      split at accepted
      · rename_i short
        rw [if_pos short, toText_toText, if_pos short]
      · exact absurd rfl accepted
    | _ => exact absurd rfl accepted
  unfold opaqueId
  rw [again, if_pos matched]

abbrev OpaqueId := { id : String // id ≠ "" ∧ opaqueId (.str id) = id }

def requiredOpaque (value : Json) (field : String) : Except EffectError OpaqueId :=
  if accepted : opaqueId value ≠ "" then
    .ok ⟨opaqueId value, accepted, opaqueId_opaqueId accepted⟩
  else .error (.bindingIncomplete field)

@[simp] theorem requiredOpaque_str (id : OpaqueId) (field : String) :
    requiredOpaque (.str id.val) field = .ok id := by
  obtain ⟨id, nonempty, stable⟩ := id
  simp only [requiredOpaque, stable]
  exact dif_pos nonempty

def isPlainObject : Json → Bool
  | .obj _ => true
  | _ => false

def fieldsOf : Json → List (String × Json)
  | .obj fields => fields
  | _ => []

/-- `{ ...left, ...right }`; the fields of the right one are found first. -/
def spread (left right : Json) : Json := .obj (fieldsOf right ++ fieldsOf left)

/-- `value ? value : {}` for records. -/
def recordOr (value : Json) : Json := if isPlainObject value then value else .emptyObject

def isTrue : Json → Bool
  | .bool value => value
  | _ => false

def privacyForbiddenKeys : List String :=
  ["apiKey", "authorization", "backendRow", "content", "credential", "credentials", "grantId",
    "location", "log", "machinePath", "password", "path", "privateKey", "prompt", "prompts",
    "runtimeLog", "serviceLocation", "subject", "token"]

def crdtForbiddenKeys : List String :=
  ["automerge", "automergeChange", "crdt", "crdtLibrary", "crdtState", "yjs", "yjsUpdate"]

def isForbiddenKey (key : String) : Bool :=
  privacyForbiddenKeys.contains key || crdtForbiddenKeys.contains key

mutual
def containsForbiddenKeys : Json → Bool
  | .arr items => anyItemForbidden items
  | .obj fields =>
    (fields.map Prod.fst).any isForbiddenKey || anyFieldForbidden fields
  | _ => false

def anyItemForbidden : List Json → Bool
  | [] => false
  | item :: rest => containsForbiddenKeys item || anyItemForbidden rest

def anyFieldForbidden : List (String × Json) → Bool
  | [] => false
  | (_, value) :: rest => containsForbiddenKeys value || anyFieldForbidden rest
end

inductive Idempotency
  | idempotent
  | nonIdempotent
  deriving DecidableEq

inductive ResultState
  | accepted
  | terminal
  | uncertain
  | cancelled
  deriving DecidableEq

inductive CancellationState
  | none
  | requested
  | cancelled

def Idempotency.text : Idempotency → String
  | .idempotent => "idempotent"
  | .nonIdempotent => "non_idempotent"

def ResultState.text : ResultState → String
  | .accepted => "accepted"
  | .terminal => "terminal"
  | .uncertain => "uncertain"
  | .cancelled => "cancelled"

def CancellationState.text : CancellationState → String
  | .none => "none"
  | .requested => "requested"
  | .cancelled => "cancelled"

def enumValue {α : Type} (name : α → String) (allowed : List α) : Json → Option α
  | .str value => allowed.find? fun member => name member = value
  | _ => none

def idempotencyValue : Json → Option Idempotency :=
  enumValue Idempotency.text [.idempotent, .nonIdempotent]

def resultStateValue : Json → Option ResultState :=
  enumValue ResultState.text [.accepted, .terminal, .uncertain, .cancelled]

def cancellationStateValue : Json → Option CancellationState :=
  enumValue CancellationState.text [.none, .requested, .cancelled]

structure Lookups where
  principalLookup : OpaqueId
  grantLookup : OpaqueId
  targetRef : OpaqueId
  policyRef : OpaqueId
  approvalLookup : OpaqueId
  audienceRef : OpaqueId
  requestRef : OpaqueId
  deriving DecidableEq

def Lookups.fields (lookups : Lookups) : List (String × Json) :=
  [("principalLookup", .str lookups.principalLookup.val),
    ("grantLookup", .str lookups.grantLookup.val), ("targetRef", .str lookups.targetRef.val),
    ("policyRef", .str lookups.policyRef.val), ("approvalLookup", .str lookups.approvalLookup.val),
    ("audienceRef", .str lookups.audienceRef.val), ("requestRef", .str lookups.requestRef.val)]

structure EffectBinding where
  lookups : Lookups
  effectId : OpaqueId
  idempotency : Idempotency
  auditRef : OpaqueId
  compensationRef : Option OpaqueId

open EffectBinding

def EffectBinding.fields (bound : EffectBinding) : List (String × Json) :=
  bound.lookups.fields ++
    [("effectId", .str bound.effectId.val), ("idempotency", .str bound.idempotency.text),
      ("auditRef", .str bound.auditRef.val),
      ("compensationRef", bound.compensationRef.elim .null fun ref => .str ref.val)]

def readLookups (read : String → Json → Json) (value : Json) : Except EffectError Lookups := do
  let field := fun key => requiredOpaque (read key (value.get key)) key
  let principalLookup ← field "principalLookup"
  let grantLookup ← field "grantLookup"
  let targetRef ← field "targetRef"
  let policyRef ← field "policyRef"
  let approvalLookup ← field "approvalLookup"
  let audienceRef ← field "audienceRef"
  let requestRef ← field "requestRef"
  return ⟨principalLookup, grantLookup, targetRef, policyRef, approvalLookup, audienceRef,
    requestRef⟩

/-- `null` for an absent reference. -/
def optionalOpaque (value : Json) (field : String) : Except EffectError (Option OpaqueId) :=
  match value with
  | .null => .ok none
  | value => (requiredOpaque value field).map some

def requiredIdempotency (value : Json) : Except EffectError Idempotency :=
  match idempotencyValue value with
  | some idempotency => .ok idempotency
  | none => .error .idempotencyRequired

def readBinding (value auditRef : Json) : Except EffectError EffectBinding := do
  let lookups ← readLookups (fun _ given => given) value
  let effectId ← requiredOpaque (value.get "effectId") "effectId"
  let idempotency ← requiredIdempotency (value.get "idempotency")
  let auditRef ← requiredOpaque auditRef "auditRef"
  let compensationRef ← optionalOpaque (value.get "compensationRef") "compensationRef"
  return { lookups, effectId, idempotency, auditRef, compensationRef }

def bindLookups (value : Json) : Except EffectError EffectBinding :=
  readBinding value (orElse (value.get "auditRef")
    (.str ("audt." ++ String.ofList (value.get "effectId").text)))

structure EffectCommand where
  binding : EffectBinding
  cancellationState : CancellationState
  resultState : ResultState

/-- What `createEffectCommand` is given; the rest of the command is fixed. -/
structure CommandInput where
  binding : Json
  cancellationState : Json
  resultState : Json

def parseEffectCommand (input : CommandInput) : Option EffectCommand :=
  if anyFieldForbidden (fieldsOf input.binding) then none
  else
    match readBinding input.binding (input.binding.get "auditRef"),
        cancellationStateValue input.cancellationState, resultStateValue input.resultState with
    | .ok binding, some cancellationState, some resultState =>
      some { binding, cancellationState, resultState }
    | _, _, _ => none

def createEffectCommand (input : CommandInput) : Except EffectError EffectCommand :=
  match parseEffectCommand input with
  | some command => .ok command
  | none => .error .commandInvalid

def EffectBinding.toCommand (bound : EffectBinding) (resultState : ResultState)
    (cancellationState : CancellationState) : Except EffectError EffectCommand :=
  createEffectCommand ⟨.obj bound.fields, .str cancellationState.text, .str resultState.text⟩

@[simp] theorem readLookups_fields (lookups : Lookups) (rest : List (String × Json)) :
    readLookups (fun _ given => given) (.obj (lookups.fields ++ rest)) = .ok lookups := by
  unfold readLookups Lookups.fields
  simp [Json.get, bind, Except.bind, pure, Except.pure]

@[simp] theorem requiredIdempotency_text (idempotency : Idempotency) :
    requiredIdempotency (.str idempotency.text) = .ok idempotency := by
  cases idempotency <;> rfl

@[simp] theorem resultStateValue_text (state : ResultState) :
    resultStateValue (.str state.text) = some state := by
  cases state <;> rfl

@[simp] theorem cancellationStateValue_text (state : CancellationState) :
    cancellationStateValue (.str state.text) = some state := by
  cases state <;> rfl

theorem optionalOpaque_elim (ref : Option OpaqueId) (field : String) :
    optionalOpaque (ref.elim .null fun ref => .str ref.val) field = .ok ref := by
  cases ref with
  | none => rfl
  | some ref =>
    change (requiredOpaque (.str ref.val) field).map some = .ok (some ref)
    rw [requiredOpaque_str]
    rfl

variable (bound : EffectBinding)
include bound

theorem get_fields : (Json.obj bound.fields).get "effectId" = .str bound.effectId.val ∧
      (Json.obj bound.fields).get "idempotency" = .str bound.idempotency.text ∧
        (Json.obj bound.fields).get "auditRef" = .str bound.auditRef.val ∧
          (Json.obj bound.fields).get "compensationRef" =
            bound.compensationRef.elim .null fun ref => .str ref.val := by
  unfold EffectBinding.fields Lookups.fields
  simp [Json.get]

theorem readBinding_fields :
    readBinding (.obj bound.fields) (.str bound.auditRef.val) = .ok bound := by
  obtain ⟨effectId, idempotency, _, compensationRef⟩ := get_fields bound
  unfold readBinding
  rw [effectId, idempotency, compensationRef, optionalOpaque_elim]
  unfold fields
  rw [readLookups_fields, requiredIdempotency_text, requiredOpaque_str, requiredOpaque_str]
  rfl

theorem anyFieldForbidden_fields : anyFieldForbidden bound.fields = false := by
  unfold fields Lookups.fields
  cases bound.compensationRef <;> rfl

@[simp] theorem EffectBinding.toCommand_ok (resultState : ResultState)
    (cancellationState : CancellationState) : bound.toCommand resultState cancellationState =
      .ok ⟨bound, cancellationState, resultState⟩ := by
  have parses : parseEffectCommand
      ⟨.obj bound.fields, .str cancellationState.text, .str resultState.text⟩ =
        some ⟨bound, cancellationState, resultState⟩ := by
    have clean : ¬anyFieldForbidden (fieldsOf (.obj bound.fields)) = true := by
      intro forbidden
      exact Bool.false_ne_true ((anyFieldForbidden_fields bound).symm.trans forbidden)
    unfold parseEffectCommand
    rw [if_neg clean]
    dsimp only
    rw [(get_fields bound).2.2.1, readBinding_fields, cancellationStateValue_text,
      resultStateValue_text]
  unfold toCommand createEffectCommand
  rw [parses]

end LicoMesh.EffectCommands
