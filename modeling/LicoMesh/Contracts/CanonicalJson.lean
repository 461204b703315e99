import LicoMesh.WorkQueue.CanonicalJson

namespace LicoMesh.Contracts

open WorkQueue WorkQueue.Json

/-! The canonical JSON of values in memory, which every digest and signature is taken of. -/

/-- A value in memory. A finite number is given by the text `JSON.stringify` prints for it,
the keys of a `Map` by their `String(key)`; `enclosing` is a reference to an object that
the value lies in. -/
inductive Value
  | null
  | undefined
  | bool (value : Bool)
  | str (value : String)
  | finite (text : String)
  | negativeZero
  | notFinite
  | bigint
  | function
  | symbol
  | date (iso : Option String)
  | buffer (base64 : String)
  | enclosing
  | classInstance
  | arr (items : List Value)
  | map (entries : List (String × Value))
  | set (entries : List Value)
  | obj (fields : List (String × Value))

abbrev Serialized := Except String (List Char)

/-- `compareKeys` of two entries is not positive. -/
def entryLe (left right : String × Serialized) : Bool :=
  decide (¬ utf16Units right.1 < utf16Units left.1)

def textLe (left right : List Char) : Bool :=
  decide (¬ utf16Units (String.ofList right) < utf16Units (String.ofList left))

def serializedObject (entries : List (String × Serialized)) : Serialized := do
  let parts ← (entries.insertionSort fun left right => entryLe left right).mapM fun entry =>
    entry.2.map fun text => quote entry.1 ++ ':' :: text
  return '\x7b' :: (joinComma parts ++ ['\x7d'])

namespace Value

mutual
def serialize : Value → Serialized
  | .null => .ok ['n', 'u', 'l', 'l']
  | .undefined => .ok ['n', 'u', 'l', 'l']
  | .bool value => .ok (Json.bool value).render
  | .str value => .ok (quote value)
  | .finite text => .ok text.toList
  | .negativeZero => .ok ['0']
  | .notFinite => .ok ['n', 'u', 'l', 'l']
  | .bigint => .error "Unsupported canonical JSON value: bigint"
  | .function => .error "Unsupported canonical JSON value: function"
  | .symbol => .error "Unsupported canonical JSON value: symbol"
  | .date none => .error "Invalid Date in canonical JSON value"
  | .date (some iso) => .ok (quote iso)
  | .buffer base64 => .ok (quote base64)
  | .enclosing => .error "Cyclic canonical JSON value"
  | .classInstance => .error "Unsupported canonical JSON object prototype"
  | .arr items => do
      let texts ← serializeItems items
      return '[' :: (joinComma texts ++ [']'])
  | .map entries => serializedObject (serializeEntries entries)
  | .set entries => do
      let texts ← serializeItems entries
      return '[' :: (joinComma (texts.insertionSort fun left right => textLe left right) ++ [']'])
  | .obj fields => serializedObject (serializeEntries fields)

def serializeItems : List Value → Except String (List (List Char))
  | [] => .ok []
  | item :: rest => do
      let text ← item.serialize
      let texts ← serializeItems rest
      return text :: texts

def serializeEntries : List (String × Value) → List (String × Serialized)
  | [] => []
  | (key, value) :: rest => (key, value.serialize) :: serializeEntries rest
end

end Value

def canonicalJson (value : Value) : Serialized := value.serialize

def canonicalEqual (left right : Value) : Except String Bool := do
  let leftText ← canonicalJson left
  let rightText ← canonicalJson right
  return leftText = rightText

namespace Value

mutual
/-- Built of `null`, booleans, texts, finite numbers, arrays and objects without repeated keys. -/
def isJson : Value → Bool
  | .null => true
  | .bool _ => true
  | .str _ => true
  | .finite text => isNumberText text.toList
  | .negativeZero => true
  | .arr items => areJson items
  | .obj fields => decide (fields.map Prod.fst).Nodup && entriesAreJson fields
  | _ => false

def areJson : List Value → Bool
  | [] => true
  | item :: rest => item.isJson && areJson rest

def entriesAreJson : List (String × Value) → Bool
  | [] => true
  | (_, value) :: rest => value.isJson && entriesAreJson rest
end

mutual
/-- The JSON document a JSON value stands for, with `-0` read as `0`. -/
def document : Value → Json
  | .bool value => .bool value
  | .str value => .str value
  | .finite text => .num text
  | .negativeZero => .num "0"
  | .arr items => .arr (documents items)
  | .obj fields => .obj (documentFields fields)
  | _ => .null

def documents : List Value → List Json
  | [] => []
  | item :: rest => item.document :: documents rest

def documentFields : List (String × Value) → List (String × Json)
  | [] => []
  | (key, value) :: rest => (key, value.document) :: documentFields rest
end

theorem documentFields_keys (fields : List (String × Value)) :
    (documentFields fields).map Prod.fst = fields.map Prod.fst := by
  induction fields with
  | nil => rfl
  | cons field rest induction =>
    simp only [documentFields, List.map_cons, induction]

mutual
theorem isValue_document : ∀ value : Value, value.isJson → value.document.isValue
  | .null, _ => rfl
  | .bool _, _ => rfl
  | .str _, _ => rfl
  | .finite _, isJson => isJson
  | .negativeZero, _ => by decide
  | .arr items, isJson => areValues_documents items isJson
  | .obj fields, isJson => by
    rw [Value.isJson, Bool.and_eq_true] at isJson
    rw [document, Json.isValue, documentFields_keys, Bool.and_eq_true]
    exact ⟨isJson.1, areFields_documentFields fields isJson.2⟩

theorem areValues_documents : ∀ items : List Value, areJson items → areValues (documents items)
  | [], _ => rfl
  | item :: rest, areJson => by
    rw [Value.areJson, Bool.and_eq_true] at areJson
    rw [documents, areValues, isValue_document item areJson.1, areValues_documents rest areJson.2]
    rfl

theorem areFields_documentFields : ∀ fields : List (String × Value),
    entriesAreJson fields → areFields (documentFields fields)
  | [], _ => rfl
  | (_, value) :: rest, areJson => by
    rw [entriesAreJson, Bool.and_eq_true] at areJson
    rw [documentFields, areFields, isValue_document value areJson.1,
      areFields_documentFields rest areJson.2]
    rfl
end

def printed (field : String × Json) : String × Serialized := (field.1, .ok field.2.render)

theorem mapM_printed (fields : List (String × Json)) :
    ((fields.map printed).mapM fun entry => entry.2.map fun text => quote entry.1 ++ ':' :: text) =
      .ok (renderFields fields) := by
  induction fields with
  | nil => rfl
  | cons field rest induction =>
    rw [List.map_cons, List.mapM_cons, induction]
    rfl

theorem serializedObject_printed (fields : List (String × Json)) :
    serializedObject (fields.map printed) =
      .ok (Json.obj (fields.insertionSort fun left right => keyLe left right)).render := by
  have sorted : (fields.map printed).insertionSort (fun left right => entryLe left right) =
      (fields.insertionSort fun left right => keyLe left right).map printed :=
    (List.map_insertionSort (fun left right => keyLe left right)
      (fun left right => entryLe left right) printed fields fun _ _ _ _ => Iff.rfl).symm
  rw [serializedObject, sorted, mapM_printed]
  rfl

mutual
theorem serialize_eq : ∀ value : Value, value.isJson →
    value.serialize = .ok (value.document.canonical).render
  | .null, _ => rfl
  | .bool _, _ => rfl
  | .str _, _ => rfl
  | .finite _, _ => rfl
  | .negativeZero, _ => rfl
  | .arr items, isJson => by
    rw [serialize, serializeItems_eq items isJson]
    rfl
  | .obj fields, isJson => by
    rw [Value.isJson, Bool.and_eq_true] at isJson
    rw [serialize, serializeEntries_eq fields isJson.2, serializedObject_printed]
    rfl

theorem serializeItems_eq : ∀ items : List Value, areJson items →
    serializeItems items = .ok (renderItems (canonicalItems (documents items)))
  | [], _ => rfl
  | item :: rest, isJson => by
    rw [areJson, Bool.and_eq_true] at isJson
    rw [serializeItems, serialize_eq item isJson.1, serializeItems_eq rest isJson.2]
    rfl

theorem serializeEntries_eq : ∀ fields : List (String × Value), entriesAreJson fields →
    serializeEntries fields = (canonicalFields (documentFields fields)).map printed
  | [], _ => rfl
  | (key, value) :: rest, isJson => by
    rw [entriesAreJson, Bool.and_eq_true] at isJson
    rw [serializeEntries, serialize_eq value isJson.1, serializeEntries_eq rest isJson.2]
    rfl
end

end Value

theorem canonicalJson_eq (isJson : value.isJson) :
    canonicalJson value = .ok (WorkQueue.canonicalJson value.document) :=
  value.serialize_eq isJson

theorem parse_canonicalJson (isJson : value.isJson) : ∃ text parsed, canonicalJson value =
      .ok text ∧ Json.parse text = some parsed ∧ parsed.SameUpToKeyOrder value.document := by
  have isValue := value.isValue_document isJson
  exact ⟨_, _, canonicalJson_eq isJson, parse_render (isValue_canonical _ isValue),
    (same_canonical _).symm⟩

theorem canonicalJson_eq_canonicalJson_iff (leftIsJson : left.isJson) (rightIsJson : right.isJson) :
    canonicalJson left = canonicalJson right ↔ left.document.SameUpToKeyOrder right.document := by
  rw [canonicalJson_eq leftIsJson, canonicalJson_eq rightIsJson,
    ← WorkQueue.canonicalJson_eq_iff (left.isValue_document leftIsJson)
      (right.isValue_document rightIsJson)]
  exact ⟨Except.ok.inj, congrArg Except.ok⟩

theorem canonicalEqual_iff (leftIsJson : left.isJson) (rightIsJson : right.isJson) :
    canonicalEqual left right = .ok true ↔ canonicalJson left = canonicalJson right := by
  rw [canonicalEqual, canonicalJson_eq leftIsJson, canonicalJson_eq rightIsJson]
  constructor
  · intro same
    exact congrArg Except.ok (of_decide_eq_true (Except.ok.inj same))
  · intro same
    exact congrArg Except.ok (decide_eq_true (Except.ok.inj same))

/-- The canonical text parses back to the value it was made of, and two values have one
text exactly when they are one document up to the order of keys. -/
theorem canonicalJson_faithful :
    (∀ value : Value, value.isJson → ∃ text parsed, canonicalJson value = .ok text ∧
      Json.parse text = some parsed ∧ parsed.SameUpToKeyOrder value.document) ∧
    ∀ left right : Value, left.isJson → right.isJson → (canonicalJson left = canonicalJson right ↔
        left.document.SameUpToKeyOrder right.document) :=
  ⟨fun _ isJson => parse_canonicalJson isJson,
    fun _ _ leftIsJson rightIsJson => canonicalJson_eq_canonicalJson_iff leftIsJson rightIsJson⟩

/-- Nested keys in two orders, with a negative zero among the items. -/
theorem canonicalJson_faithful_sample :
    canonicalJson (.obj [("b", .arr [.negativeZero, .str "x"]), ("a", .obj [])]) =
      canonicalJson (.obj [("a", .obj []), ("b", .arr [.finite "0", .str "x"])]) ∧
    ∃ text parsed, canonicalJson (.obj [("b", .arr [.negativeZero])]) = .ok text ∧
      Json.parse text = some parsed ∧
      parsed.SameUpToKeyOrder (.obj [("b", .arr [.num "0"])]) :=
  ⟨(canonicalJson_faithful.2 _ _ (by decide) (by decide)).mpr (.keys (.swap _ _ [])),
    canonicalJson_faithful.1 (.obj [("b", .arr [.negativeZero])]) (by decide)⟩

end LicoMesh.Contracts
