import AddressPlan.Proofs.Text.Utf8
import AddressPlan.Text.Percent
/-!
# Queries, read back

An encoded text has no separator of queries in it, and decoding it gives the text back. So a query
is read as the names and values that it was made of, whatever these are.
-/
namespace AddressPlan.Text

section Bytes

private theorem percentDecode_cons {a : UInt8} (h : a ≠ 0x25) (rest : List UInt8) :
    percentDecode (a :: rest) = a :: percentDecode rest := by
  cases rest with
  | nil => rfl
  | cons b rest =>
    cases rest with
    | nil => rfl
    | cons c rest => rw [percentDecode, if_neg h]

private theorem percentDecode_escape {b c high low : UInt8} (hhigh : hexValue? b = some high)
    (hlow : hexValue? c = some low) (rest : List UInt8) :
    percentDecode (0x25 :: b :: c :: rest) = (high * 16 + low) :: percentDecode rest := by
  rw [percentDecode, if_pos rfl, hhigh, hlow]

private theorem utf8_append (cs ds : List Char) : utf8 (cs ++ ds) = utf8 cs ++ utf8 ds :=
  List.flatMap_append

private theorem utf8_of_ascii {b : UInt8} (h : b < 0x80) : utf8 [Char.ofNat b.toNat] = [b] := by
  have hlt : b.toNat < 0x80 := UInt8.lt_iff_toNat_lt.mp h
  have hascii : ∀ n < 0x80, utf8 [Char.ofNat n] = [UInt8.ofNat n] := by decide
  rw [hascii b.toNat hlt, UInt8.ofNat_toNat]

private theorem utf8_upperHexDigit {n : Nat} (h : n < 16) :
    ∃ b, utf8 [upperHexDigit n] = [b] ∧ hexValue? b = some (UInt8.ofNat n) := by
  have hdigits : ∀ n < 16, utf8 [upperHexDigit n] = [UInt8.ofNat (upperHexDigit n).toNat] ∧
      hexValue? (UInt8.ofNat (upperHexDigit n).toNat) = some (UInt8.ofNat n) := by
    decide
  exact ⟨_, hdigits n h⟩

private theorem isUnreserved_percent : isUnreserved 0x25 = false := by
  decide

private theorem percentDecode_percentByte (b : UInt8) (rest : List UInt8) :
    percentDecode (utf8 (percentByte b) ++ rest) = b :: percentDecode rest := by
  unfold percentByte
  by_cases h : isUnreserved b = true
  · have hascii : b < 0x80 := by
      simp only [isUnreserved, Bool.and_eq_true, decide_eq_true_eq] at h
      exact h.1
    have hne : b ≠ 0x25 := by
      intro heq
      rw [heq, isUnreserved_percent] at h
      cases h
    rw [if_pos h, utf8_of_ascii hascii, List.singleton_append, percentDecode_cons hne]
  · have hbyte : b.toNat < 256 := b.toNat_lt
    obtain ⟨x, hx, hhigh⟩ := utf8_upperHexDigit (n := b.toNat / 16) (by omega)
    obtain ⟨y, hy, hlow⟩ := utf8_upperHexDigit (n := b.toNat % 16) (by omega)
    have hbytes : utf8 ['%', upperHexDigit (b.toNat / 16), upperHexDigit (b.toNat % 16)] =
        [0x25, x, y] := by
      calc _ = utf8 ['%'] ++ (utf8 [upperHexDigit (b.toNat / 16)] ++
            utf8 [upperHexDigit (b.toNat % 16)]) := by
            rw [← utf8_append, ← utf8_append]
            rfl
        _ = [0x25, x, y] := by
            rw [hx, hy]
            rfl
    have hvalue : UInt8.ofNat (b.toNat / 16) * 16 + UInt8.ofNat (b.toNat % 16) = b := by
      apply UInt8.toNat_inj.mp
      simp
      omega
    rw [if_neg h, hbytes]
    exact (percentDecode_escape hhigh hlow rest).trans (by rw [hvalue])

def isEncodedChar (c : Char) : Bool :=
  c.isAlphanum || c == '-' || c == '_' || c == '.' || c == '~' || c == '%'

private theorem isEncodedChar_of_mem_percentByte {c : Char} {b : UInt8} (h : c ∈ percentByte b) :
    isEncodedChar c = true := by
  have hdigits : ∀ n < 16, isEncodedChar (upperHexDigit n) = true := by decide
  have hbyte : b.toNat < 256 := b.toNat_lt
  unfold percentByte at h
  by_cases hplain : isUnreserved b = true
  · rw [if_pos hplain, List.mem_singleton] at h
    rw [isUnreserved, Bool.and_eq_true] at hplain
    rw [h, isEncodedChar, hplain.2, Bool.true_or]
  · rw [if_neg hplain] at h
    simp only [List.mem_cons, List.not_mem_nil, or_false] at h
    rcases h with rfl | rfl | rfl
    · rfl
    · exact hdigits _ (by omega)
    · exact hdigits _ (by omega)

private def separators : List Char := ['&', '=', '+']

end Bytes

section Texts

private theorem percentDecode_flatMap (bytes : List UInt8) :
    percentDecode (utf8 (bytes.flatMap percentByte)) = bytes := by
  induction bytes with
  | nil => rfl
  | cons b bytes ih => rw [List.flatMap_cons, utf8_append, percentDecode_percentByte, ih]

private theorem percentDecode_percentEncode (s : String) :
    percentDecode (utf8 (percentEncode s).toList) = utf8 s.toList := by
  rw [percentEncode, String.toList_ofList, percentDecode_flatMap]

private theorem isEncodedChar_of_mem {c : Char} {s : String} (h : c ∈ (percentEncode s).toList) :
    isEncodedChar c = true := by
  rw [percentEncode, String.toList_ofList, List.mem_flatMap] at h
  obtain ⟨b, -, hb⟩ := h
  exact isEncodedChar_of_mem_percentByte hb

private theorem not_mem_percentEncode {c : Char} (hc : c ∈ separators) (s : String) :
    c ∉ (percentEncode s).toList := by
  have hseparators : separators.all fun c => !isEncodedChar c := by decide
  have hother := List.all_eq_true.mp hseparators c hc
  intro h
  rw [isEncodedChar_of_mem h] at hother
  cases hother

private theorem queryHalf_percentEncode (s : String) : queryHalf (percentEncode s).toList = s := by
  have hplus : '+' ∉ (percentEncode s).toList := not_mem_percentEncode (by decide) s
  have hsame : ((percentEncode s).toList.map fun c => if c = '+' then ' ' else c) =
      (percentEncode s).toList := by
    refine (List.map_congr_left fun c hc => if_neg ?_).trans (List.map_id _)
    exact fun heq => hplus (heq ▸ hc)
  rw [queryHalf, hsame, percentDecode_percentEncode, fromUtf8Lossy_utf8]

end Texts

section Pairs

private def queryPiece (pair : String × String) : List Char :=
  (percentEncode pair.1).toList ++ '=' :: (percentEncode pair.2).toList

private theorem toList_queryText (pairs : List (String × String)) :
    (queryText pairs).toList = ['&'].intercalate (pairs.map queryPiece) := by
  rw [queryText, String.toList_intercalate, List.map_map]
  have hpiece : ∀ pair : String × String,
      (percentEncode pair.1 ++ "=" ++ percentEncode pair.2).toList = queryPiece pair := by
    intro pair
    simp [queryPiece]
  exact congrArg (['&'].intercalate ·) (List.map_congr_left fun pair _ => hpiece pair)

private theorem pieces_queryText {pairs : List (String × String)} (h : pairs ≠ []) :
    pieces '&' (queryText pairs).toList = pairs.map queryPiece := by
  rw [toList_queryText]
  refine pieces_intercalate (fun piece hpiece => ?_) (by simpa using h)
  obtain ⟨pair, -, rfl⟩ := List.mem_map.mp hpiece
  have hname : '&' ∉ (percentEncode pair.1).toList := not_mem_percentEncode (by decide) _
  have hvalue : '&' ∉ (percentEncode pair.2).toList := not_mem_percentEncode (by decide) _
  simp [queryPiece, hname, hvalue]

private theorem cut_queryPiece (pair : String × String) :
    cut '=' (queryPiece pair) = ((percentEncode pair.1).toList, (percentEncode pair.2).toList) :=
  cut_append (not_mem_percentEncode (by decide) pair.1) _

theorem queryPairs_queryText (pairs : List (String × String)) :
    queryPairs (queryText pairs).toList = pairs := by
  cases pairs with
  | nil => rfl
  | cons pair rest =>
    have hkept : ((pair :: rest).map queryPiece).filter (!·.isEmpty) =
        (pair :: rest).map queryPiece := by
      refine List.filter_eq_self.mpr fun piece hpiece => ?_
      obtain ⟨p, -, rfl⟩ := List.mem_map.mp hpiece
      simp [queryPiece]
    rw [queryPairs, pieces_queryText (List.cons_ne_nil pair rest), hkept, List.map_map]
    refine (List.map_congr_left fun p _ => ?_).trans (List.map_id _)
    simp only [Function.comp_apply, cut_queryPiece, queryHalf_percentEncode, id_eq]

end Pairs

section Parameters

/-- The text that a half of a piece of a query stands for, if its bytes are UTF-8. A plus sign
stands for itself here. -/
def plainHalf? (cs : List Char) : Option String :=
  fromUtf8? (percentDecode (utf8 cs))

def parameter? (piece : List Char) : Option (String × String) :=
  if '=' ∈ piece then do
    let (name, value) := cut '=' piece
    return (← plainHalf? name, ← plainHalf? value)
  else none

def parameters? (query : List Char) : Option (List (String × String)) :=
  (pieces '&' query).mapM parameter?

/-- A query stands for names and values, in their order, and for nothing else: whether or not a plus
sign is read as a space, and wherever the query stands. -/
structure Carries (query : String) (pairs : List (String × String)) : Prop where
  plain : parameters? query.toList = some pairs
  form : queryPairs query.toList = pairs
  /-- There is no sign in it that ends a query or that an address cannot hold. -/
  clean : ∀ c ∈ query.toList, isEncodedChar c = true ∨ c = '&' ∨ c = '='

private theorem plainHalf?_percentEncode (s : String) :
    plainHalf? (percentEncode s).toList = some s := by
  rw [plainHalf?, percentDecode_percentEncode, fromUtf8?_utf8]

private theorem parameter?_queryPiece (pair : String × String) :
    parameter? (queryPiece pair) = some pair := by
  have hmem : '=' ∈ queryPiece pair := by simp [queryPiece]
  rw [parameter?, if_pos hmem, cut_queryPiece]
  simp only [plainHalf?_percentEncode]
  rfl

private theorem clean_queryPiece (pair : String × String) :
    ∀ c ∈ queryPiece pair, isEncodedChar c = true ∨ c = '&' ∨ c = '=' := by
  intro c hc
  rw [queryPiece, List.mem_append, List.mem_cons] at hc
  rcases hc with hname | rfl | hvalue
  · exact .inl (isEncodedChar_of_mem hname)
  · exact .inr (.inr rfl)
  · exact .inl (isEncodedChar_of_mem hvalue)

theorem carries_queryText {pairs : List (String × String)} (h : pairs ≠ []) :
    Carries (queryText pairs) pairs where
  plain := by
    rw [parameters?, pieces_queryText h]
    exact mapM_map_eq_some parameter?_queryPiece pairs
  form := queryPairs_queryText pairs
  clean := by
    rw [toList_queryText]
    refine forall_mem_intercalate (.inr (.inl rfl)) fun piece hpiece => ?_
    obtain ⟨pair, -, rfl⟩ := List.mem_map.mp hpiece
    exact clean_queryPiece pair

end Parameters
end AddressPlan.Text
