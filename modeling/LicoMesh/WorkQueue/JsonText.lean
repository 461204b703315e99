import LicoMesh.WorkQueue.Serialization

namespace LicoMesh.WorkQueue

open List

/-! JSON texts in database columns: `JSON.parse`, and that it undoes `JSON.stringify`. -/

variable {literal : List Char} {fields : List (String × Json)} {c : Char}

namespace Json

def isSpace (c : Char) : Bool := c = ' ' || c = '\t' || c = '\n' || c = '\r'

def skipSpace (chars : List Char) : List Char := chars.dropWhile isSpace

def isNumberChar (c : Char) : Bool :=
  c.isDigit || c = '-' || c = '+' || c = '.' || c = 'e' || c = 'E'

def isDigits (chars : List Char) : Bool := chars ≠ [] && chars.all Char.isDigit

def dropSign : List Char → List Char
  | '+' :: rest => rest
  | '-' :: rest => rest
  | chars => chars

/-- `-?(0|[1-9]\d*)(\.\d+)?([eE][+-]?\d+)?`. -/
def isNumberText (chars : List Char) : Bool :=
  let unsigned := if chars.head? = some '-' then chars.tail else chars
  let whole := unsigned.takeWhile Char.isDigit
  let scaled := unsigned.dropWhile Char.isDigit
  let fraction := scaled.takeWhile fun c => c = '.' || c.isDigit
  let exponent := scaled.dropWhile fun c => c = '.' || c.isDigit
  chars.all isNumberChar && isDigits whole && (whole.head? ≠ some '0' || whole = ['0']) &&
    (fraction = [] || isDigits fraction.tail) &&
    (exponent = [] || ((exponent.head? = some 'e' || exponent.head? = some 'E') &&
      isDigits (dropSign exponent.tail)))

def hexValue (c : Char) : Option Nat :=
  if c.isDigit then some (c.toNat - 48)
  else if 'a' ≤ c && c ≤ 'f' then some (c.toNat - 87)
  else if 'A' ≤ c && c ≤ 'F' then some (c.toNat - 55)
  else none

/-- The character of `\uXXXX`; a surrogate is not a character of the model. -/
def hexChar (a b c d : Char) : Option Char := do
  let code := ((← hexValue a) * 4096 + (← hexValue b) * 256 + (← hexValue c) * 16 +
    (← hexValue d))
  if 0xD800 ≤ code && code ≤ 0xDFFF then none else some (Char.ofNat code)

def unescape (c : Char) : Option Char :=
  if c = '\"' || c = '\\' || c = '/' then some c
  else if c = 'b' then some (Char.ofNat 8)
  else if c = 't' then some (Char.ofNat 9)
  else if c = 'n' then some (Char.ofNat 10)
  else if c = 'f' then some (Char.ofNat 12)
  else if c = 'r' then some (Char.ofNat 13)
  else none

/-- The characters up to the closing quote, and the text behind it. -/
def parseString : List Char → Option (List Char × List Char)
  | [] => none
  | c :: rest =>
    if c = '\"' then some ([], rest)
    else if c = '\\' then
      match rest with
      | 'u' :: i :: j :: k :: l :: rest =>
        (hexChar i j k l).bind fun escaped =>
          (parseString rest).map fun parsed => (escaped :: parsed.1, parsed.2)
      | escape :: rest =>
        (unescape escape).bind fun escaped =>
          (parseString rest).map fun parsed => (escaped :: parsed.1, parsed.2)
      | [] => none
    else if c.toNat < 32 then none
    else (parseString rest).map fun parsed => (c :: parsed.1, parsed.2)

def parseWord (word : List Char) (value : Json) (chars : List Char) : Option (Json × List Char) :=
  if word.isPrefixOf chars then some (value, chars.drop word.length) else none

def parseNumber (chars : List Char) : Option (Json × List Char) :=
  let literal := chars.takeWhile isNumberChar
  if isNumberText literal then
    some (.num (String.ofList literal), chars.dropWhile isNumberChar)
  else none

def lastOfKey : List (String × Json) → List (String × Json)
  | [] => []
  | field :: rest =>
    if rest.any fun later => later.1 = field.1 then lastOfKey rest
    else field :: lastOfKey rest

mutual
def parseValue : Nat → List Char → Option (Json × List Char)
  | 0, _ => none
  | fuel + 1, chars =>
    match skipSpace chars with
    | [] => none
    | c :: rest =>
      if c = '\"' then
        (parseString rest).map fun parsed => (.str (String.ofList parsed.1), parsed.2)
      else if c = '[' then
        if (skipSpace rest).head? = some ']' then some (.arr [], (skipSpace rest).tail)
        else (parseItems fuel rest).map fun parsed => (.arr parsed.1, parsed.2)
      else if c = '\x7b' then
        if (skipSpace rest).head? = some '\x7d' then some (.obj [], (skipSpace rest).tail)
        else (parseFields fuel rest).map fun parsed => (.obj (lastOfKey parsed.1), parsed.2)
      else if c = 'n' then parseWord ['n', 'u', 'l', 'l'] .null (c :: rest)
      else if c = 't' then parseWord ['t', 'r', 'u', 'e'] (.bool true) (c :: rest)
      else if c = 'f' then parseWord ['f', 'a', 'l', 's', 'e'] (.bool false) (c :: rest)
      else parseNumber (c :: rest)

def parseItems : Nat → List Char → Option (List Json × List Char)
  | 0, _ => none
  | fuel + 1, chars =>
    (parseValue fuel chars).bind fun item =>
      match skipSpace item.2 with
      | ',' :: rest => (parseItems fuel rest).map fun parsed => (item.1 :: parsed.1, parsed.2)
      | ']' :: rest => some ([item.1], rest)
      | _ => none

def parseFields : Nat → List Char → Option (List (String × Json) × List Char)
  | 0, _ => none
  | fuel + 1, chars =>
    match skipSpace chars with
    | '\"' :: rest =>
      (parseString rest).bind fun key =>
        match skipSpace key.2 with
        | ':' :: rest =>
          (parseValue fuel rest).bind fun value =>
            match skipSpace value.2 with
            | ',' :: rest =>
              (parseFields fuel rest).map fun parsed =>
                ((String.ofList key.1, value.1) :: parsed.1, parsed.2)
            | '\x7d' :: rest => some ([(String.ofList key.1, value.1)], rest)
            | _ => none
        | _ => none
    | _ => none
end

/-- `JSON.parse`; the value of a number text is that text, as the store wrote it. -/
def parse (chars : List Char) : Option Json :=
  (parseValue (chars.length + 1) chars).bind fun parsed =>
    if skipSpace parsed.2 = [] then some parsed.1 else none

mutual
/-- Numbers are number texts, and no object repeats a key. -/
def isValue : Json → Bool
  | .num text => isNumberText text.toList
  | .arr items => areValues items
  | .obj fields => decide (fields.map Prod.fst).Nodup && areFields fields
  | _ => true

def areValues : List Json → Bool
  | [] => true
  | item :: rest => item.isValue && areValues rest

def areFields : List (String × Json) → Bool
  | [] => true
  | (_, value) :: rest => value.isValue && areFields rest
end

theorem skipSpace_cons {rest : List Char} (solid : isSpace c = false) :
    skipSpace (c :: rest) = c :: rest := by
  unfold skipSpace
  rw [dropWhile_cons_of_neg (by simp [solid])]

theorem hexValue_hexDigit : ∀ nibble < 16, hexValue (hexDigit nibble) = some nibble := by decide

theorem char_eq_of_toNat (same : c.toNat = d.toNat) : c = d := by
  rw [← Char.ofNat_toNat c, same, Char.ofNat_toNat]

theorem hexChar_hexDigits (control : c.toNat < 32) :
    hexChar (hexDigit (c.toNat / 4096 % 16)) (hexDigit (c.toNat / 256 % 16))
      (hexDigit (c.toNat / 16 % 16)) (hexDigit (c.toNat % 16)) = some c := by
  unfold hexChar
  rw [hexValue_hexDigit _ (by omega), hexValue_hexDigit _ (by omega),
    hexValue_hexDigit _ (by omega), hexValue_hexDigit _ (by omega)]
  have whole : c.toNat / 4096 % 16 * 4096 + c.toNat / 256 % 16 * 256 + c.toNat / 16 % 16 * 16 +
      c.toNat % 16 = c.toNat := by omega
  simp only [Option.bind_eq_bind, Option.bind_some, whole]
  rw [if_neg (by simp only [Bool.and_eq_true, decide_eq_true_eq]; omega), Char.ofNat_toNat]

theorem parseString_escapeChar (c : Char) (rest : List Char) : parseString (escapeChar c ++ rest) =
      (parseString rest).map fun parsed => (c :: parsed.1, parsed.2) := by
  unfold escapeChar
  split
  · rename_i code
    obtain rfl : c = Char.ofNat 8 := char_eq_of_toNat code
    rfl
  · rename_i code
    obtain rfl : c = Char.ofNat 9 := char_eq_of_toNat code
    rfl
  · rename_i code
    obtain rfl : c = Char.ofNat 10 := char_eq_of_toNat code
    rfl
  · rename_i code
    obtain rfl : c = Char.ofNat 12 := char_eq_of_toNat code
    rfl
  · rename_i code
    obtain rfl : c = Char.ofNat 13 := char_eq_of_toNat code
    rfl
  · rename_i code
    obtain rfl : c = '\"' := char_eq_of_toNat code
    rfl
  · rename_i code
    obtain rfl : c = '\\' := char_eq_of_toNat code
    rfl
  · rename_i quoted slashed
    split
    · rename_i control
      unfold hexChars
      rw [cons_append, cons_append, cons_append, cons_append,
        cons_append, cons_append, nil_append, parseString]
      rw [if_neg (by decide), if_pos rfl]
      simp only [hexChar_hexDigits control, Option.bind_some]
    · rename_i printed
      have noQuote : c ≠ '\"' := fun same => quoted (same ▸ rfl)
      have noSlash : c ≠ '\\' := fun same => slashed (same ▸ rfl)
      rw [singleton_append, parseString.eq_def]
      simp only
      rw [if_neg noQuote, if_neg noSlash, if_neg printed]

theorem parseString_quoted (chars rest : List Char) :
    parseString (chars.flatMap escapeChar ++ '\"' :: rest) = some (chars, rest) := by
  induction chars with
  | nil =>
    rw [flatMap_nil, nil_append, parseString.eq_def]
    exact if_pos rfl
  | cons c chars induction =>
    rw [flatMap_cons, append_assoc, parseString_escapeChar, induction]
    rfl
def EndsNumber (rest : List Char) : Prop := ∀ c, rest.head? = some c → isNumberChar c = false

theorem parseNumber_literal (number : isNumberText literal) (ends : EndsNumber rest) :
    parseNumber (literal ++ rest) = some (.num (String.ofList literal), rest) := by
  have digits : ∀ c ∈ literal, isNumberChar c := by
    unfold isNumberText at number
    simp only [Bool.and_eq_true, all_eq_true] at number
    exact number.1.1.1.1
  have stops : rest.takeWhile isNumberChar = [] ∧ rest.dropWhile isNumberChar = rest := by
    cases rest with
    | nil => exact ⟨rfl, rfl⟩
    | cons c rest =>
      have other := ends c rfl
      exact ⟨takeWhile_cons_of_neg (by simp [other]), dropWhile_cons_of_neg (by simp [other])⟩
  unfold parseNumber
  simp only [takeWhile_append_of_pos digits, dropWhile_append_of_pos digits, stops.1,
    stops.2, append_nil, number, if_true]

theorem isNumberText_head (number : isNumberText literal) :
    ∃ c rest, literal = c :: rest ∧ (c = '-' ∨ c.isDigit) := by
  unfold isNumberText at number
  simp only [Bool.and_eq_true] at number
  have whole := number.1.1.1.2
  cases literal with
  | nil => cases whole
  | cons c rest =>
    refine ⟨c, rest, rfl, ?_⟩
    by_cases signed : c = '-'
    · exact .inl signed
    · rw [head?_cons, if_neg (by simpa using signed)] at whole
      refine .inr ?_
      by_contra other
      rw [takeWhile_cons_of_neg other] at whole
      cases whole

theorem render_head {value : Json} (isValue : value.isValue) :
    ∃ c rest, value.render = c :: rest ∧ isSpace c = false ∧ c ≠ ']' := by
  cases value with
  | null => exact ⟨'n', _, rfl, rfl, by decide⟩
  | bool value => cases value with
      | true => exact ⟨'t', _, rfl, rfl, by decide⟩
      | false => exact ⟨'f', _, rfl, rfl, by decide⟩
  | num text =>
    obtain ⟨c, rest, opens, first⟩ := isNumberText_head isValue
    refine ⟨c, rest, opens, ?_⟩
    rcases first with rfl | digit
    · exact ⟨rfl, by decide⟩
    · refine ⟨?_, fun same => by rw [same] at digit; cases digit⟩
      unfold isSpace
      simp only [Bool.or_eq_false_iff, decide_eq_false_iff_not]
      refine ⟨⟨⟨?_, ?_⟩, ?_⟩, ?_⟩ <;> (intro same; rw [same] at digit; cases digit)
  | str value => exact ⟨'\"', _, rfl, rfl, by decide⟩
  | arr items => exact ⟨'[', _, rfl, rfl, by decide⟩
  | obj fields => exact ⟨'\x7b', _, rfl, rfl, by decide⟩

theorem joinComma_cons_cons (first second : List Char) (rest : List (List Char)) :
    joinComma (first :: second :: rest) = first ++ ',' :: joinComma (second :: rest) := rfl

theorem lastOfKey_eq (distinct : (fields.map Prod.fst).Nodup) : lastOfKey fields = fields := by
  induction fields with
  | nil => rfl
  | cons field rest induction =>
    obtain ⟨fresh, distinct⟩ := nodup_cons.mp distinct
    unfold lastOfKey
    rw [induction distinct, if_neg]
    intro repeated
    obtain ⟨later, member, same⟩ := any_eq_true.mp repeated
    refine fresh ?_
    rw [← of_decide_eq_true same]
    exact mem_map_of_mem member

theorem endsNumber_cons (other : isNumberChar c = false) (rest : List Char) :
    EndsNumber (c :: rest) := by
  intro d head
  obtain rfl : c = d := Option.some.inj head
  exact other

theorem parseWord_append (word rest : List Char) (value : Json) :
    parseWord word value (word ++ rest) = some (value, rest) := by
  unfold parseWord
  rw [if_pos (List.isPrefixOf_iff_prefix.mpr (prefix_append word rest)), drop_left]

theorem isNumberChar_first (first : c = '-' ∨ c.isDigit) :
    isSpace c = false ∧ c ≠ '\"' ∧ c ≠ '[' ∧ c ≠ '\x7b' ∧ c ≠ 'n' ∧ c ≠ 't' ∧ c ≠ 'f' := by
  rcases first with rfl | digit
  · decide
  · have other : ∀ d : Char, d.isDigit = false → c ≠ d := by
      intro d noDigit same
      rw [same, noDigit] at digit
      cases digit
    refine ⟨?_, other _ rfl, other _ rfl, other _ rfl, other _ rfl, other _ rfl, other _ rfl⟩
    unfold isSpace
    simp only [Bool.or_eq_false_iff, decide_eq_false_iff_not]
    exact ⟨⟨⟨other _ rfl, other _ rfl⟩, other _ rfl⟩, other _ rfl⟩

theorem renderItems_head (areValues : areValues (item :: items)) : ∃ c rest,
      joinComma (renderItems (item :: items)) = c :: rest ∧ isSpace c = false ∧ c ≠ ']' := by
  obtain ⟨isValue, _⟩ := (Bool.and_eq_true _ _).mp areValues
  obtain ⟨c, rest, opens, solid, noEnd⟩ := render_head isValue
  unfold renderItems
  cases items with
  | nil => exact ⟨c, rest, opens, solid, noEnd⟩
  | cons next items =>
    unfold renderItems
    rw [joinComma_cons_cons, opens]
    exact ⟨c, _, rfl, solid, noEnd⟩

theorem renderFields_head (field : String × Json) (fields : List (String × Json)) :
    ∃ rest, joinComma (renderFields (field :: fields)) = '\"' :: rest := by
  cases fields with
  | nil => exact ⟨_, rfl⟩
  | cons next fields => exact ⟨_, rfl⟩

mutual
theorem parseValue_render : ∀ (value : Json) (fuel : Nat) (rest : List Char),
    value.isValue → value.render.length < fuel → EndsNumber rest →
    parseValue fuel (value.render ++ rest) = some (value, rest)
  | _, 0, _, _, enough, _ => absurd enough (Nat.not_lt_zero _)
  | .null, fuel + 1, rest, _, _, _ => by
    show parseValue (fuel + 1) ('n' :: 'u' :: 'l' :: 'l' :: rest) = _
    rw [parseValue, skipSpace_cons rfl]
    exact parseWord_append ['n', 'u', 'l', 'l'] rest .null
  | .bool true, fuel + 1, rest, _, _, _ => by
    show parseValue (fuel + 1) ('t' :: 'r' :: 'u' :: 'e' :: rest) = _
    rw [parseValue, skipSpace_cons rfl]
    exact parseWord_append ['t', 'r', 'u', 'e'] rest (.bool true)
  | .bool false, fuel + 1, rest, _, _, _ => by
    show parseValue (fuel + 1) ('f' :: 'a' :: 'l' :: 's' :: 'e' :: rest) = _
    rw [parseValue, skipSpace_cons rfl]
    exact parseWord_append ['f', 'a', 'l', 's', 'e'] rest (.bool false)
  | .num text, fuel + 1, rest, isValue, _, ends => by
    unfold Json.isValue at isValue
    obtain ⟨c, digits, opens, first⟩ := isNumberText_head isValue
    obtain ⟨solid, noQuote, noArray, noObject, noN, noT, noF⟩ := isNumberChar_first first
    have parsed := parseNumber_literal isValue ends
    unfold render
    rw [opens] at parsed ⊢
    rw [cons_append] at parsed ⊢
    rw [parseValue, skipSpace_cons solid]
    simp only [if_neg noQuote, if_neg noArray, if_neg noObject, if_neg noN, if_neg noT, if_neg noF]
    rw [parsed, ← opens, String.ofList_toList]
  | .str text, fuel + 1, rest, _, _, _ => by
    unfold render quote
    rw [cons_append, append_assoc, parseValue, skipSpace_cons rfl]
    simp only [if_true]
    rw [singleton_append, parseString_quoted]
    exact congrArg (fun text => some (Json.str text, rest)) String.ofList_toList
  | .arr [], fuel + 1, rest, _, _, _ => by
    show parseValue (fuel + 1) ('[' :: ']' :: rest) = _
    rw [parseValue, skipSpace_cons rfl]
    rfl
  | .arr (item :: items), fuel + 1, rest, isValue, enough, _ => by
    unfold Json.isValue at isValue
    unfold render at enough ⊢
    have itemsParsed := parseItems_render item items fuel rest isValue (by
      simp only [length_cons, length_append, length_nil] at enough
      omega)
    obtain ⟨c, tail, opens, solid, noEnd⟩ := renderItems_head isValue
    rw [cons_append, append_assoc, singleton_append, parseValue, skipSpace_cons rfl]
    rw [opens, cons_append] at itemsParsed ⊢
    simp only [skipSpace_cons solid, head?_cons, Option.some.injEq, if_neg noEnd,
      itemsParsed, Option.map_some]
    rfl
  | .obj [], fuel + 1, rest, _, _, _ => by
    show parseValue (fuel + 1) ('\x7b' :: '\x7d' :: rest) = _
    rw [parseValue, skipSpace_cons rfl]
    rfl
  | .obj (field :: fields), fuel + 1, rest, isValue, enough, _ => by
    unfold Json.isValue at isValue
    obtain ⟨distinct, areFields⟩ := (Bool.and_eq_true _ _).mp isValue
    unfold render at enough ⊢
    have fieldsParsed := parseFields_render field fields fuel rest areFields (by
      simp only [length_cons, length_append, length_nil] at enough
      omega)
    obtain ⟨tail, opens⟩ := renderFields_head field fields
    rw [cons_append, append_assoc, singleton_append, parseValue, skipSpace_cons rfl]
    rw [opens, cons_append] at fieldsParsed ⊢
    simp only [@skipSpace_cons '\"' _ rfl, fieldsParsed, Option.map_some,
      lastOfKey_eq (of_decide_eq_true distinct)]
    rfl

theorem parseItems_render : ∀ (item : Json) (items : List Json) (fuel : Nat) (rest : List Char),
    areValues (item :: items) → (joinComma (renderItems (item :: items))).length + 1 < fuel →
    parseItems fuel (joinComma (renderItems (item :: items)) ++ ']' :: rest) =
      some (item :: items, rest)
  | _, _, 0, _, _, enough => absurd enough (Nat.not_lt_zero _)
  | item, [], fuel + 1, rest, isValue, enough => by
    unfold areValues at isValue
    obtain ⟨isValue, _⟩ := (Bool.and_eq_true _ _).mp isValue
    unfold renderItems renderItems joinComma at enough ⊢
    have parsed := parseValue_render item fuel (']' :: rest) isValue (by omega)
      (endsNumber_cons rfl rest)
    rw [parseItems, parsed]
    rfl
  | item, next :: items, fuel + 1, rest, areValues, enough => by
    unfold Json.areValues at areValues
    obtain ⟨isValue, later⟩ := (Bool.and_eq_true _ _).mp areValues
    unfold renderItems at enough ⊢
    have joined : joinComma (item.render :: renderItems (next :: items)) =
        item.render ++ ',' :: joinComma (renderItems (next :: items)) := rfl
    rw [joined] at enough ⊢
    simp only [length_append, length_cons] at enough
    have parsed := parseValue_render item fuel
      (',' :: (joinComma (renderItems (next :: items)) ++ ']' :: rest)) isValue (by omega)
      (endsNumber_cons rfl _)
    have parsedItems := parseItems_render next items fuel rest later (by omega)
    rw [append_assoc, cons_append, parseItems, parsed]
    simp only [Option.bind_some, @skipSpace_cons ',' _ rfl, parsedItems]
    rfl

theorem parseFields_render : ∀ (field : String × Json) (fields : List (String × Json))
    (fuel : Nat) (rest : List Char), areFields (field :: fields) →
    (joinComma (renderFields (field :: fields))).length + 1 < fuel →
    parseFields fuel (joinComma (renderFields (field :: fields)) ++ '\x7d' :: rest) =
      some (field :: fields, rest)
  | _, _, 0, _, _, enough => absurd enough (Nat.not_lt_zero _)
  | (key, value), [], fuel + 1, rest, isValue, enough => by
    unfold areFields at isValue
    obtain ⟨isValue, _⟩ := (Bool.and_eq_true _ _).mp isValue
    unfold renderFields renderFields joinComma at enough ⊢
    simp only [length_append, length_cons] at enough
    have parsed := parseValue_render value fuel ('\x7d' :: rest) isValue (by omega)
      (endsNumber_cons rfl rest)
    unfold quote
    rw [append_assoc, cons_append, append_assoc, singleton_append, parseFields, skipSpace_cons rfl]
    simp only [parseString_quoted, Option.bind_some, cons_append,
      @skipSpace_cons ':' _ rfl, parsed, String.ofList_toList]
    rfl
  | (key, value), next :: fields, fuel + 1, rest, areFields, enough => by
    unfold Json.areFields at areFields
    obtain ⟨isValue, later⟩ := (Bool.and_eq_true _ _).mp areFields
    unfold renderFields at enough ⊢
    have joined : joinComma ((quote key ++ ':' :: value.render) ::
          renderFields (next :: fields)) =
        quote key ++ ':' :: value.render ++ ',' :: joinComma (renderFields (next :: fields)) :=
      rfl
    rw [joined] at enough ⊢
    simp only [length_append, length_cons] at enough
    have parsed := parseValue_render value fuel
      (',' :: (joinComma (renderFields (next :: fields)) ++ '\x7d' :: rest)) isValue (by omega)
      (endsNumber_cons rfl _)
    have parsedFields := parseFields_render next fields fuel rest later (by omega)
    unfold quote
    simp only [append_assoc, cons_append, nil_append]
    rw [parseFields, skipSpace_cons rfl]
    simp only [parseString_quoted, Option.bind_some, @skipSpace_cons ':' _ rfl, parsed,
      String.ofList_toList, @skipSpace_cons ',' _ rfl, parsedFields]
    rfl
end

theorem parse_render (isValue : value.isValue) : parse value.render = some value := by
  unfold parse
  have parsed := parseValue_render value (value.render.length + 1) [] isValue
    (Nat.lt_succ_self _) (by intro c head; cases head)
  rw [append_nil] at parsed
  rw [parsed]
  rfl

end Json

/-- `parseJson(value, fallback)` of a text column. -/
def parseJson (text : String) (fallback : Json) : Json :=
  match Json.parse text.toList with
  | some .null => fallback
  | some value => value
  | none => fallback

theorem parseJson_render (isValue : (Json.obj fields).isValue) (fallback : Json) :
    parseJson (String.ofList (Json.obj fields).render) fallback = .obj fields := by
  unfold parseJson
  rw [String.toList_ofList, Json.parse_render isValue]

end LicoMesh.WorkQueue
