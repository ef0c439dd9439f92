import AddressPlan.Json.Decoder
import AddressPlan.Proofs.Json.Tokens
/-!
# Values, read back

Reading the text of a value gives the node of the value. Fractions are left out: a value here has
whole numbers only, and it is nested no deeper than the reader goes.
-/
namespace AddressPlan.Json

mutual

/-- All numbers of a value are whole, and it is nested at most `room` deep. -/
def Value.Fits : Nat → Value → Prop
  | _, .null => True
  | _, .bool _ => True
  | _, .number n => n.IsWhole
  | _, .string _ => True
  | room, .array items => 0 < room ∧ itemsFit (room - 1) items
  | room, .object fields => 0 < room ∧ fieldsFit (room - 1) fields

def itemsFit : Nat → List Value → Prop
  | _, [] => True
  | room, v :: vs => v.Fits room ∧ itemsFit room vs

def fieldsFit : Nat → List (String × Value) → Prop
  | _, [] => True
  | room, (_, v) :: fields => v.Fits room ∧ fieldsFit room fields

end

section Fitting

variable {room : Nat}

private theorem itemsFit_iff {items : List Value} :
    itemsFit room items ↔ ∀ v ∈ items, v.Fits room := by
  induction items with
  | nil => simp [itemsFit]
  | cons v vs ih => simp [itemsFit, ih]

private theorem fieldsFit_iff {fields : List (String × Value)} :
    fieldsFit room fields ↔ ∀ field ∈ fields, field.2.Fits room := by
  induction fields with
  | nil => simp [fieldsFit]
  | cons field fields ih => simp [fieldsFit, ih]

theorem fits_array {items : List Value} (h : ∀ v ∈ items, v.Fits room) :
    (Value.array items).Fits (room + 1) :=
  ⟨Nat.succ_pos room, itemsFit_iff.mpr h⟩

theorem fits_object {fields : List (String × Value)} (h : ∀ field ∈ fields, field.2.Fits room) :
    (Value.object fields).Fits (room + 1) :=
  ⟨Nat.succ_pos room, fieldsFit_iff.mpr h⟩

end Fitting

section Nodes

private theorem skipGap_cons {c : Char} (cs : List Char) (h : isGap c = false) :
    skipGap (c :: cs) = c :: cs := by
  rw [skipGap, List.dropWhile_cons_of_neg (by simp [h])]

private theorem stops_ofValue (v : Value) : (Node.ofValue v).stops = false := by
  cases v <;> rfl

private theorem nested_of_lt {depth : Nat} (n : Node) (h : depth < maxDepth) :
    nested depth n = n := by
  rw [nested, if_pos h]

end Nodes

section Tokens

variable {fuel depth : Nat} {cs rest : List Char}

private theorem isGap_of_isDigit {c : Char} (h : c.isDigit = true) : isGap c = false := by
  have hne : ∀ d : Char, d.isDigit = false → c ≠ d := by
    rintro d hd rfl
    cases hd.symm.trans h
  simp [isGap, hne ' ' (by decide), hne '\n' (by decide), hne '\t' (by decide),
    hne '\r' (by decide)]

private theorem readValue_null :
    readValue (fuel + 1) depth ('n' :: 'u' :: 'l' :: 'l' :: cs) = (.null, cs) := by
  simp [readValue, skipGap_cons, isGap]

private theorem readValue_true :
    readValue (fuel + 1) depth ('t' :: 'r' :: 'u' :: 'e' :: cs) = (.bool true, cs) := by
  simp [readValue, skipGap_cons, isGap]

private theorem readValue_false :
    readValue (fuel + 1) depth ('f' :: 'a' :: 'l' :: 's' :: 'e' :: cs) = (.bool false, cs) := by
  simp [readValue, skipGap_cons, isGap]

private theorem readValue_quoted (s : String) :
    readValue (fuel + 1) depth (quoted s ++ cs) = (.string s, cs) := by
  have hread := readString_quoted s cs
  simp [quoted, readValue, skipGap_cons, isGap, hread]

private theorem readValue_numeral {c : Char} {numeral : Numeral} {n : Number}
    (hc : c.isDigit = true ∨ c = '-') (hread : readNumeral (c :: cs) = some (numeral, rest))
    (hnumber : numeral.number? = some n) :
    readValue (fuel + 1) depth (c :: cs) = (.number n, rest) := by
  have hgap : isGap c = false := by
    rcases hc with hdigit | rfl
    · exact isGap_of_isDigit hdigit
    · decide
  rw [readValue, skipGap_cons _ hgap]
  split
  all_goals simp_all

private theorem readValue_number {n : Number} (hwhole : n.IsWhole) (hrest : EndsNumeral rest) :
    readValue (fuel + 1) depth (n.chars ++ rest) = (.number n, rest) := by
  cases n with
  | natural n =>
    have hread := readNumeral_natural n.toNat hrest
    obtain ⟨c, cs, hdigits, hc, -⟩ := Text.toDigits_eq_cons n.toNat
    have hnumber := number?_natural n
    rw [Number.chars]
    rw [hdigits, List.cons_append] at hread ⊢
    rw [hdigits] at hnumber
    exact readValue_numeral (.inl hc) hread hnumber
  | negative n =>
    exact readValue_numeral (.inr rfl) (readNumeral_negative n.toInt.natAbs hrest)
      (number?_negative hwhole)
  | real bits => exact hwhole.elim

private def BeginsItem (cs : List Char) : Prop :=
  ∃ c rest, cs = c :: rest ∧ isGap c = false ∧ c ≠ ']'

private theorem beginsItem_chars {v : Value} {room : Nat} (h : v.Fits room) (rest : List Char) :
    BeginsItem (v.chars ++ rest) := by
  cases v with
  | null => exact ⟨'n', _, rfl, by decide, by decide⟩
  | bool b => cases b <;> exact ⟨_, _, rfl, by decide, by decide⟩
  | number n =>
    cases n with
    | natural n =>
      obtain ⟨c, cs, hdigits, hc, -⟩ := Text.toDigits_eq_cons n.toNat
      have hne : c ≠ ']' := by
        rintro rfl
        cases hc
      exact ⟨c, cs ++ rest, by simp [Value.chars, Number.chars, hdigits], isGap_of_isDigit hc, hne⟩
    | negative n => exact ⟨'-', _, rfl, by decide, by decide⟩
    | real bits => exact h.elim
  | string s => exact ⟨'"', _, rfl, by decide, by decide⟩
  | array items => cases items <;> exact ⟨'[', _, rfl, by decide, by decide⟩
  | object fields => cases fields <;> exact ⟨'{', _, rfl, by decide, by decide⟩

private theorem readValue_emptyArray (h : depth < maxDepth) :
    readValue (fuel + 1) depth ('[' :: ']' :: cs) = (.array [] .closed, cs) := by
  simp [readValue, skipGap_cons, isGap, nested_of_lt _ h]

private theorem readValue_array {items : List Node} (h : depth < maxDepth) (hbegins : BeginsItem cs)
    (hread : readItems fuel (depth + 1) cs = (items, .closed, rest)) :
    readValue (fuel + 1) depth ('[' :: cs) = (.array items .closed, rest) := by
  obtain ⟨c, cs, rfl, hgap, hne⟩ := hbegins
  simp [readValue, skipGap_cons, isGap, skipGap_cons _ hgap, hne,
    hread, nested_of_lt _ h]

private theorem readValue_emptyObject (h : depth < maxDepth) :
    readValue (fuel + 1) depth ('{' :: '}' :: cs) = (.object [] .closed, cs) := by
  simp [readValue, skipGap_cons, isGap, nested_of_lt _ h]

private theorem readValue_object {fields : List (String × Node)} (h : depth < maxDepth)
    (hread : readFields fuel (depth + 1) ('"' :: cs) = (fields, .closed, rest)) :
    readValue (fuel + 1) depth ('{' :: '"' :: cs) = (.object fields .closed, rest) := by
  simp [readValue, skipGap_cons, isGap, hread, nested_of_lt _ h]

private theorem readFields_quoted (key : String) {value : Node} {fields : List (String × Node)}
    {ending : Ending} (hread : readField fuel depth cs = (value, fields, ending, rest)) :
    readFields (fuel + 1) depth (quoted key ++ cs) = ((key, value) :: fields, ending, rest) := by
  have hkey := readString_quoted key cs
  simp [quoted, readFields, skipGap_cons, isGap, hkey, hread]

private theorem readItems_last {item : Node} (hitem : item.stops = false)
    (hread : readValue fuel depth cs = (item, ']' :: rest)) :
    readItems (fuel + 1) depth cs = ([item], .closed, rest) := by
  simp [readItems, hread, hitem, skipGap_cons, isGap]

private theorem readItems_more {item : Node} {items : List Node} {ending : Ending} {cs' : List Char}
    (hitem : item.stops = false) (hread : readValue fuel depth cs = (item, ',' :: cs'))
    (hrest : readItems fuel depth cs' = (items, ending, rest)) :
    readItems (fuel + 1) depth cs = (item :: items, ending, rest) := by
  simp [readItems, hread, hitem, skipGap_cons, isGap, hrest]

private theorem readField_last {value : Node} (hvalue : value.stops = false)
    (hread : readValue fuel depth cs = (value, '}' :: rest)) :
    readField (fuel + 1) depth (':' :: cs) = (value, [], .closed, rest) := by
  simp [readField, hread, hvalue, skipGap_cons, isGap]

private theorem readField_more {value : Node} {fields : List (String × Node)} {ending : Ending}
    {cs' : List Char} (hvalue : value.stops = false)
    (hread : readValue fuel depth cs = (value, ',' :: cs'))
    (hrest : readFields fuel depth cs' = (fields, ending, rest)) :
    readField (fuel + 1) depth (':' :: cs) = (value, fields, ending, rest) := by
  simp [readField, hread, hvalue, skipGap_cons, isGap, hrest]

end Tokens

section Reading

private theorem endsNumeral_itemsChars (vs : List Value) (rest : List Char) :
    EndsNumeral (itemsChars vs ++ rest) := by
  cases vs <;> simp [EndsNumeral, itemsChars]

private theorem endsNumeral_fieldsChars (fields : List (String × Value)) (rest : List Char) :
    EndsNumeral (fieldsChars fields ++ rest) := by
  cases fields <;> simp [EndsNumeral, fieldsChars]

private theorem chars_pos {v : Value} {room : Nat} (h : v.Fits room) : 0 < v.chars.length := by
  obtain ⟨c, cs, hcs, -⟩ := beginsItem_chars h []
  rw [List.append_nil] at hcs
  simp [hcs]

mutual

/-- The text of a value is read as its node, up to where the text ends. -/
private theorem readValue_chars : ∀ (v : Value) {room fuel depth : Nat} {rest : List Char},
    v.Fits room → depth + room ≤ maxDepth → 2 * v.chars.length ≤ fuel → EndsNumeral rest →
    readValue fuel depth (v.chars ++ rest) = (Node.ofValue v, rest)
  | v, _, 0, _, _, hfits, _, hfuel, _ => absurd (chars_pos hfits) (by omega)
  | .null, _, fuel + 1, _, _, _, _, _, _ => readValue_null
  | .bool true, _, fuel + 1, _, _, _, _, _, _ => readValue_true
  | .bool false, _, fuel + 1, _, _, _, _, _, _ => readValue_false
  | .number n, _, fuel + 1, _, _, hfits, _, _, hrest => readValue_number hfits hrest
  | .string s, _, fuel + 1, _, _, _, _, _, _ => readValue_quoted s
  | .array [], _, fuel + 1, _, _, hfits, hdepth, _, _ => by
    have hpos := hfits.1
    exact readValue_emptyArray (by omega)
  | .array (v :: vs), room, fuel + 1, depth, rest, hfits, hdepth, hfuel, _ => by
    obtain ⟨hpos, hv, hvs⟩ := hfits
    simp only [Value.chars, List.length_cons, List.length_append] at hfuel
    obtain ⟨fuel, rfl⟩ : ∃ f, fuel = f + 1 := ⟨fuel - 1, by omega⟩
    have hitem : readValue fuel (depth + 1) (v.chars ++ (itemsChars vs ++ rest)) =
        (Node.ofValue v, itemsChars vs ++ rest) :=
      readValue_chars v hv (by omega) (by omega) (endsNumeral_itemsChars vs rest)
    have hitems := readItems_chars vs hvs (by omega) (by omega) (stops_ofValue v) hitem
    rw [Value.chars, List.append_assoc]
    exact readValue_array (by omega) (beginsItem_chars hv _) hitems
  | .object [], _, fuel + 1, _, _, hfits, hdepth, _, _ => by
    have hpos := hfits.1
    exact readValue_emptyObject (by omega)
  | .object ((k, v) :: fields), room, fuel + 1, depth, rest, hfits, hdepth, hfuel, _ => by
    obtain ⟨hpos, hv, hfields⟩ := hfits
    simp only [Value.chars, quoted, List.length_cons, List.length_append] at hfuel
    obtain ⟨fuel, rfl⟩ : ∃ f, fuel = f + 2 := ⟨fuel - 2, by omega⟩
    have hvalue : readValue fuel (depth + 1) (v.chars ++ (fieldsChars fields ++ rest)) =
        (Node.ofValue v, fieldsChars fields ++ rest) :=
      readValue_chars v hv (by omega) (by omega) (endsNumeral_fieldsChars fields rest)
    have hrest := readFields_chars fields hfields (by omega) (by omega) (stops_ofValue v) hvalue
    have hread := readFields_quoted k hrest
    have htext : (Value.object ((k, v) :: fields)).chars ++ rest =
        '{' :: (quoted k ++ ':' :: (v.chars ++ (fieldsChars fields ++ rest))) := by
      simp [Value.chars]
    rw [htext]
    exact readValue_object (by omega) hread

private theorem readItems_chars : ∀ (vs : List Value) {room fuel depth : Nat} {cs rest : List Char}
    {item : Node}, itemsFit room vs → depth + room ≤ maxDepth →
    2 * (itemsChars vs).length ≤ fuel → item.stops = false →
    readValue fuel depth cs = (item, itemsChars vs ++ rest) →
    readItems (fuel + 1) depth cs = (item :: Node.ofItems vs, .closed, rest)
  | [], _, _, _, _, _, _, _, _, _, hitem, hread => readItems_last hitem hread
  | v :: vs, _, fuel, depth, _, rest, _, hfits, hdepth, hfuel, hitem, hread => by
    simp only [itemsChars, List.length_cons, List.length_append] at hfuel
    obtain ⟨fuel, rfl⟩ : ∃ f, fuel = f + 1 := ⟨fuel - 1, by omega⟩
    have hnext : readValue fuel depth (v.chars ++ (itemsChars vs ++ rest)) =
        (Node.ofValue v, itemsChars vs ++ rest) :=
      readValue_chars v hfits.1 hdepth (by omega) (endsNumeral_itemsChars vs rest)
    have hitems := readItems_chars vs hfits.2 hdepth (by omega) (stops_ofValue v) hnext
    rw [itemsChars, List.cons_append, List.cons_append, List.append_assoc] at hread
    exact readItems_more hitem hread hitems

private theorem readFields_chars : ∀ (fields : List (String × Value)) {room fuel depth : Nat}
    {cs rest : List Char} {value : Node}, fieldsFit room fields → depth + room ≤ maxDepth →
    2 * (fieldsChars fields).length ≤ fuel → value.stops = false →
    readValue fuel depth cs = (value, fieldsChars fields ++ rest) →
    readField (fuel + 1) depth (':' :: cs) = (value, Node.ofFields fields, .closed, rest)
  | [], _, _, _, _, _, _, _, _, _, hvalue, hread => readField_last hvalue hread
  | (k, v) :: fields, _, fuel, depth, _, rest, _, hfits, hdepth, hfuel, hvalue, hread => by
    simp only [fieldsChars, quoted, List.length_cons, List.length_append] at hfuel
    obtain ⟨fuel, rfl⟩ : ∃ f, fuel = f + 2 := ⟨fuel - 2, by omega⟩
    have hnext : readValue fuel depth (v.chars ++ (fieldsChars fields ++ rest)) =
        (Node.ofValue v, fieldsChars fields ++ rest) :=
      readValue_chars v hfits.1 hdepth (by omega) (endsNumeral_fieldsChars fields rest)
    have hrest := readFields_chars fields hfits.2 hdepth (by omega) (stops_ofValue v) hnext
    have htext : fieldsChars ((k, v) :: fields) ++ rest =
        ',' :: (quoted k ++ ':' :: (v.chars ++ (fieldsChars fields ++ rest))) := by
      simp [fieldsChars]
    rw [htext] at hread
    exact readField_more hvalue hread (readFields_quoted k hrest)

end

private theorem readDocument_chars {v : Value} (h : v.Fits maxDepth) :
    readDocument v.chars = (Node.ofValue v, true) := by
  have hread : readValue (2 * v.chars.length + 2) 0 (v.chars ++ []) = (Node.ofValue v, []) :=
    readValue_chars v h (by omega) (by omega) endsNumeral_nil
  rw [List.append_nil] at hread
  simp [readDocument, hread, skipGap]

theorem decodeText_text {α : Type} {v : Value} (decode : Decoder α) (h : v.Fits maxDepth) :
    decodeText decode v.text = decode (Node.ofValue v) := by
  rw [decodeText, Value.text, String.toList_ofList, readDocument_chars h]
  dsimp only
  cases decode (Node.ofValue v) <;> rfl

end Reading
end AddressPlan.Json
