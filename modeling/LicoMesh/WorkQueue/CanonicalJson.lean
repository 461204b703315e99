import Mathlib.Data.List.Lex
import LicoMesh.WorkQueue.JsonText

namespace LicoMesh.WorkQueue

open List

variable {items : List Json} {value other : Json} {fields permuted : List (String × Json)}

namespace Json

/-! Canonical JSON texts are equal exactly for values that are equal up to the
order of object keys. -/

/-- One value becomes the other by permuting the fields of objects inside it. -/
inductive SameUpToKeyOrder : Json → Json → Prop
  | refl (value : Json) : SameUpToKeyOrder value value
  | trans {first second third : Json} (left : SameUpToKeyOrder first second)
      (right : SameUpToKeyOrder second third) : SameUpToKeyOrder first third
  | keys {fields permuted : List (String × Json)} (perm : fields.Perm permuted) :
      SameUpToKeyOrder (.obj fields) (.obj permuted)
  | item {before after : List Json} {value other : Json} (same : SameUpToKeyOrder value other) :
      SameUpToKeyOrder (.arr (before ++ value :: after)) (.arr (before ++ other :: after))
  | field {before after : List (String × Json)} {key : String} {value other : Json}
      (same : SameUpToKeyOrder value other) :
      SameUpToKeyOrder (.obj (before ++ (key, value) :: after))
        (.obj (before ++ (key, other) :: after))

variable (same : SameUpToKeyOrder value other)

include same in
theorem SameUpToKeyOrder.symm : SameUpToKeyOrder other value := by
  induction same with
  | refl value => exact .refl value
  | trans _ _ left right => exact .trans right left
  | keys perm => exact .keys perm.symm
  | item _ induction => exact .item induction
  | field _ induction => exact .field induction

section Keys

theorem toNat_not_surrogate (c : Char) : c.toNat < 0xD800 ∨ 0xDFFF < c.toNat := by
  rcases c.valid with low | ⟨high, _⟩
  · exact .inl low
  · exact .inr high

theorem toNat_lt (c : Char) : c.toNat < 0x110000 := by
  rcases c.valid with low | ⟨_, high⟩
  · exact Nat.lt_trans low (by decide)
  · exact high

theorem utf16Units_injective
    (same : utf16Units (String.ofList left) = utf16Units (String.ofList right)) : left = right := by
  unfold utf16Units at same
  rw [String.toList_ofList, String.toList_ofList] at same
  induction left generalizing right with
  | nil =>
    cases right with
    | nil => rfl
    | cons d right =>
      rw [flatMap_nil, flatMap_cons] at same
      simp only at same
      split at same <;> cases same
  | cons c left induction =>
    cases right with
    | nil =>
      rw [flatMap_nil, flatMap_cons] at same
      simp only at same
      split at same <;> cases same
    | cons d right =>
      rw [flatMap_cons, flatMap_cons] at same
      have solid := toNat_not_surrogate c
      have solid' := toNat_not_surrogate d
      have bound := toNat_lt c
      have bound' := toNat_lt d
      simp only at same
      split at same <;> split at same
      · obtain ⟨code, rest⟩ := cons.inj same
        rw [char_eq_of_toNat code, induction rest]
      · obtain ⟨code, _⟩ := cons.inj same
        omega
      · obtain ⟨code, _⟩ := cons.inj same
        omega
      · obtain ⟨upper, rest⟩ := cons.inj same
        obtain ⟨lower, rest⟩ := cons.inj rest
        have code : c.toNat = d.toNat := by omega
        rw [char_eq_of_toNat code, induction rest]

theorem keyLe_iff : keyLe left right ↔ utf16Units left.1 ≤ utf16Units right.1 := by
  unfold keyLe
  rw [decide_eq_true_iff, not_lt]

instance : Std.Total fun left right : String × Json => keyLe left right = true :=
  ⟨fun left right => by
    rw [keyLe_iff, keyLe_iff]
    exact le_total _ _⟩

instance : IsTrans (String × Json) fun left right => keyLe left right = true :=
  ⟨fun first second third => by
    rw [keyLe_iff, keyLe_iff, keyLe_iff]
    exact le_trans⟩

theorem insertionSort_eq_of_perm (perm : fields.Perm permuted)
    (distinct : (fields.map Prod.fst).Nodup) :
    fields.insertionSort (fun left right => keyLe left right) =
      permuted.insertionSort fun left right => keyLe left right := by
  refine Perm.eq_of_pairwise ?_ (pairwise_insertionSort _ _) (pairwise_insertionSort _ _) ?_
  · intro left right member member' below above
    rw [keyLe_iff] at below above
    have same := le_antisymm below above
    rw [← String.ofList_toList (s := left.1), ← String.ofList_toList (s := right.1)] at same
    have key : left.1 = right.1 := String.toList_inj.mp (utf16Units_injective same)
    have member := (mem_insertionSort _).mp member
    have member' := perm.mem_iff.mpr ((mem_insertionSort _).mp member')
    exact inj_on_of_nodup_map distinct member member' key
  · exact (perm_insertionSort _ _).trans
      (perm.trans (perm_insertionSort _ _).symm)

end Keys

theorem canonicalFields_eq_map (fields : List (String × Json)) :
    canonicalFields fields = fields.map fun field => (field.1, field.2.canonical) := by
  induction fields with
  | nil => rfl
  | cons field rest induction =>
    unfold canonicalFields
    rw [induction]
    rfl

theorem canonicalItems_eq_map (items : List Json) : canonicalItems items = items.map canonical := by
  induction items with
  | nil => rfl
  | cons item rest induction =>
    unfold canonicalItems
    rw [induction]
    rfl

theorem areFields_iff : areFields fields ↔ ∀ field ∈ fields, field.2.isValue := by
  induction fields with
  | nil => simp [areFields]
  | cons field rest induction =>
    unfold areFields
    rw [Bool.and_eq_true, induction, forall_mem_cons]

theorem areValues_iff : areValues items ↔ ∀ item ∈ items, item.isValue := by
  induction items with
  | nil => simp [areValues]
  | cons item rest induction =>
    unfold areValues
    rw [Bool.and_eq_true, induction, forall_mem_cons]

theorem isValue_obj :
    (obj fields).isValue ↔ (fields.map Prod.fst).Nodup ∧ ∀ field ∈ fields, field.2.isValue := by
  rw [isValue, Bool.and_eq_true, decide_eq_true_iff, areFields_iff]

theorem isValue_arr : (arr items).isValue ↔ ∀ item ∈ items, item.isValue := by
  rw [isValue, areValues_iff]

theorem isValue_obj_of_perm (perm : fields.Perm permuted) (isValue : (obj fields).isValue) :
    (obj permuted).isValue := by
  obtain ⟨distinct, values⟩ := isValue_obj.mp isValue
  exact isValue_obj.mpr ⟨((perm.map Prod.fst).nodup_iff).mp distinct,
    fun field member => values field (perm.mem_iff.mpr member)⟩

mutual
theorem isValue_canonical : ∀ value : Json, value.isValue → value.canonical.isValue
  | .null, _ => rfl
  | .bool _, _ => rfl
  | .num _, isValue => isValue
  | .str _, _ => rfl
  | .arr items, isValue => by
    unfold canonical
    exact areValues_canonicalItems items isValue
  | .obj fields, isValue => by
    unfold Json.isValue at isValue
    obtain ⟨distinct, values⟩ := (Bool.and_eq_true _ _).mp isValue
    unfold canonical
    refine isValue_obj_of_perm (perm_insertionSort _ _).symm ?_
    unfold Json.isValue
    rw [areFields_canonicalFields fields values, canonicalFields_eq_map, map_map, Bool.and_true]
    exact distinct

theorem areValues_canonicalItems : ∀ items : List Json,
    areValues items → areValues (canonicalItems items)
  | [], _ => rfl
  | item :: rest, values => by
    unfold areValues at values
    obtain ⟨isValue, later⟩ := (Bool.and_eq_true _ _).mp values
    unfold canonicalItems areValues
    rw [isValue_canonical item isValue, areValues_canonicalItems rest later]
    rfl

theorem areFields_canonicalFields : ∀ fields : List (String × Json),
    areFields fields → areFields (canonicalFields fields)
  | [], _ => rfl
  | (_, value) :: rest, values => by
    unfold areFields at values
    obtain ⟨isValue, later⟩ := (Bool.and_eq_true _ _).mp values
    unfold canonicalFields areFields
    rw [isValue_canonical value isValue, areFields_canonicalFields rest later]
    rfl
end

mutual
theorem same_canonical : ∀ value : Json, SameUpToKeyOrder value value.canonical
  | .null => .refl _
  | .bool _ => .refl _
  | .num _ => .refl _
  | .str _ => .refl _
  | .arr items => by
    unfold canonical
    exact same_canonicalItems [] items
  | .obj fields => by
    unfold canonical
    exact (same_canonicalFields [] fields).trans (.keys (perm_insertionSort _ _).symm)

theorem same_canonicalItems : ∀ (before items : List Json),
    SameUpToKeyOrder (.arr (before ++ items)) (.arr (before ++ canonicalItems items))
  | _, [] => .refl _
  | before, item :: rest => by
    have later := same_canonicalItems (before ++ [item.canonical]) rest
    rw [append_assoc, append_assoc] at later
    exact (SameUpToKeyOrder.item (same_canonical item)).trans later

theorem same_canonicalFields : ∀ (before fields : List (String × Json)),
    SameUpToKeyOrder (.obj (before ++ fields)) (.obj (before ++ canonicalFields fields))
  | _, [] => .refl _
  | before, (key, value) :: rest => by
    have later := same_canonicalFields (before ++ [(key, value.canonical)]) rest
    rw [append_assoc, append_assoc] at later
    exact (SameUpToKeyOrder.field (same_canonical value)).trans later
end

include same

theorem SameUpToKeyOrder.isValue (isValue : value.isValue) : other.isValue := by
  induction same with
  | refl => exact isValue
  | trans _ _ left right => exact right (left isValue)
  | keys perm => exact isValue_obj_of_perm perm isValue
  | item _ induction =>
    rw [isValue_arr, forall_mem_append, forall_mem_cons] at isValue ⊢
    exact ⟨isValue.1, induction isValue.2.1, isValue.2.2⟩
  | field _ induction =>
    rw [isValue_obj, forall_mem_append, forall_mem_cons] at isValue ⊢
    rw [map_append, map_cons] at isValue ⊢
    exact ⟨isValue.1, isValue.2.1, induction isValue.2.2.1, isValue.2.2.2⟩

theorem SameUpToKeyOrder.canonical_eq
    (isValue : value.isValue) : value.canonical = other.canonical := by
  induction same with
  | refl => rfl
  | trans left _ first second => exact (first isValue).trans (second (left.isValue isValue))
  | keys perm =>
    unfold canonical
    rw [canonicalFields_eq_map, canonicalFields_eq_map, insertionSort_eq_of_perm (perm.map _) ?_]
    rw [map_map]
    exact (isValue_obj.mp isValue).1
  | item _ induction =>
    rw [isValue_arr, forall_mem_append, forall_mem_cons] at isValue
    unfold canonical
    simp only [canonicalItems_eq_map, map_append, map_cons, induction isValue.2.1]
  | field _ induction =>
    rw [isValue_obj, forall_mem_append, forall_mem_cons] at isValue
    unfold canonical
    simp only [canonicalFields_eq_map, map_append, map_cons, induction isValue.2.2.1]

omit same

theorem find?_of_perm (perm : fields.Perm permuted) (distinct : (fields.map Prod.fst).Nodup)
    (key : String) :
    (fields.find? fun field => field.1 = key) = permuted.find? fun field => field.1 = key := by
  induction perm with
  | nil => rfl
  | cons field _ induction =>
    rw [find?_cons, find?_cons, induction (nodup_cons.mp distinct).2]
  | swap first second rest =>
    have other : second.1 ≠ first.1 := fun same =>
      (nodup_cons.mp distinct).1 (same ▸ mem_cons_self)
    rw [find?_cons, find?_cons, find?_cons, find?_cons]
    by_cases here : first.1 = key
    · have there : second.1 ≠ key := fun same => other (same.trans here.symm)
      simp only [here, there, decide_true, decide_false]
    · simp only [here, decide_false]
  | trans left _ first second =>
    rw [first distinct, second ((left.map Prod.fst).nodup_iff.mp distinct)]

include same in
theorem SameUpToKeyOrder.get (isValue : value.isValue)
    (key : String) : SameUpToKeyOrder (value.get key) (other.get key) := by
  induction same with
  | refl => exact .refl _
  | trans left _ first second => exact (first isValue).trans (second (left.isValue isValue))
  | keys perm =>
    unfold Json.get
    simp only
    rw [find?_of_perm perm (isValue_obj.mp isValue).1]
    exact .refl _
  | item => exact .refl _
  | @field before after name value other same _ =>
    unfold Json.get
    simp only [find?_append, find?_cons]
    cases before.find? fun field => decide (field.1 = key) with
    | some found => exact .refl _
    | none =>
      by_cases here : name = key
      · simp only [here, decide_true]
        exact same
      · simp only [here, decide_false]
        exact .refl _

theorem SameUpToKeyOrder.str_eq (same : SameUpToKeyOrder (.str left) (.str right)) : left = right :=
  Json.str.inj (same.canonical_eq rfl)

theorem SameUpToKeyOrder.num_eq (same : SameUpToKeyOrder (.num left) (.num right))
    (number : isNumberText left.toList) : left = right :=
  Json.num.inj (same.canonical_eq number)
theorem render_injective (isValue : value.isValue) (otherIsValue : other.isValue)
    (same : value.render = other.render) : value = other := by
  have parsed := parse_render isValue
  rw [same, parse_render otherIsValue] at parsed
  exact (Option.some.inj parsed).symm

end Json

theorem canonicalJson_eq_iff (isValue : value.isValue) (otherIsValue : other.isValue) :
    canonicalJson value = canonicalJson other ↔ value.SameUpToKeyOrder other := by
  unfold canonicalJson
  constructor
  · intro same
    have canonical := Json.render_injective (Json.isValue_canonical value isValue)
      (Json.isValue_canonical other otherIsValue) same
    have back := (Json.same_canonical other).symm
    rw [← canonical] at back
    exact (Json.same_canonical value).trans back
  · exact fun same => by rw [same.canonical_eq isValue]

theorem isNumberChar_of_isDigit (digit : c.isDigit) : Json.isNumberChar c := by
  unfold Json.isNumberChar
  rw [digit]
  rfl

theorem digitChar_ne_zero : ∀ n < 10, 0 < n → n.digitChar ≠ '0' := by decide

theorem head?_toDigits (positive : 0 < n) : (Nat.toDigits 10 n).head? ≠ some '0' := by
  induction n using Nat.strong_induction_on with
  | _ n induction =>
    rw [Nat.toDigits_eq_if (by decide)]
    split
    · rename_i small
      intro same
      exact digitChar_ne_zero n small positive (Option.some.inj same)
    · rw [head?_append_of_ne_nil _ Nat.toDigits_ne_nil]
      exact induction (n / 10) (by omega) (by omega)

theorem isNumberText_toString (n : Nat) : Json.isNumberText (toString n).toList := by
  rw [Nat.toString_eq_ofList_toDigits, String.toList_ofList]
  have digits : ∀ c ∈ Nat.toDigits 10 n, c.isDigit := fun c member =>
    Nat.isDigit_of_mem_toDigits (by decide) (by decide) member
  have unsigned : (Nat.toDigits 10 n).head? ≠ some '-' := by
    intro signed
    have digit := digits _ (mem_of_mem_head? signed)
    cases digit
  have whole : (Nat.toDigits 10 n).takeWhile Char.isDigit = Nat.toDigits 10 n := by
    have taken := @takeWhile_append_of_pos _ _ _ [] digits
    rwa [append_nil, takeWhile_nil, append_nil] at taken
  have rest : (Nat.toDigits 10 n).dropWhile Char.isDigit = [] := by
    have dropped := @dropWhile_append_of_pos _ _ _ [] digits
    rwa [append_nil, dropWhile_nil] at dropped
  have leading : (Nat.toDigits 10 n).head? ≠ some '0' ∨ Nat.toDigits 10 n = ['0'] := by
    rcases Nat.eq_zero_or_pos n with rfl | positive
    · exact .inr rfl
    · exact .inl (head?_toDigits positive)
  unfold Json.isNumberText Json.isDigits
  rw [if_neg unsigned]
  simp only [whole, rest, Bool.and_eq_true, all_eq_true, Bool.or_eq_true, decide_eq_true_iff]
  exact ⟨⟨⟨⟨fun c member => isNumberChar_of_isDigit (digits c member),
    Nat.toDigits_ne_nil, digits⟩, leading⟩, .inl rfl⟩, .inl rfl⟩

theorem toString_injective {m n : Nat} (same : toString m = toString n) : m = n := by
  rw [Nat.toString_eq_ofList_toDigits, Nat.toString_eq_ofList_toDigits, String.ofList_inj] at same
  rw [← @Nat.ofDigitChars_ten_toDigits m, same, Nat.ofDigitChars_ten_toDigits]

end LicoMesh.WorkQueue
