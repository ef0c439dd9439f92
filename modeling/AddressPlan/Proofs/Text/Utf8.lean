import Mathlib.Tactic.SplitIfs
import AddressPlan.Proofs.Results
import AddressPlan.Text.Utf8
/-!
# UTF-8, read back

The characters of the bytes of a text are the characters of the text. There is one lemma for each
number of bytes that a character can take.
-/
namespace AddressPlan.Text

section Bytes

variable {a b c d : UInt8} {rest : List UInt8}

private theorem isContinuation_iff : isContinuation b = true ↔ 0x80 ≤ b.toNat ∧ b.toNat < 0xC0 := by
  simp [isContinuation, UInt8.le_iff_toNat_le, UInt8.lt_iff_toNat_lt]

/-- Behind a first byte that is no border case, every continuation may stand second. -/
private theorem isSecond_of_borders (hb : 0x80 ≤ b.toNat ∧ b.toNat < 0xC0)
    (hshort : a.toNat = 0xE0 → 0xA0 ≤ b.toNat) (hsurrogate : a.toNat = 0xED → b.toNat < 0xA0)
    (hthree : a.toNat = 0xF0 → 0x90 ≤ b.toNat) (hlarge : a.toNat = 0xF4 → b.toNat < 0x90) :
    isSecond a b = true := by
  unfold isSecond
  simp only [← UInt8.toNat_inj]
  split_ifs with he0 hed hf0 hf4
  · simp [UInt8.le_iff_toNat_le, UInt8.lt_iff_toNat_lt, hshort he0, hb.2]
  · simp [UInt8.le_iff_toNat_le, UInt8.lt_iff_toNat_lt, hsurrogate hed, hb.1]
  · simp [UInt8.le_iff_toNat_le, UInt8.lt_iff_toNat_lt, hthree hf0, hb.2]
  · simp [UInt8.le_iff_toNat_le, UInt8.lt_iff_toNat_lt, hlarge hf4, hb.1]
  · exact isContinuation_iff.mpr hb

private theorem firstChar_one (h : a.toNat < 0x80) :
    firstChar a rest = (some (Char.ofNat a.toNat), rest) := by
  have hone : a < 0x80 := UInt8.lt_iff_toNat_lt.mpr h
  simp only [firstChar, hone, if_true]

private theorem firstChar_two (ha : 0xC2 ≤ a.toNat ∧ a.toNat < 0xE0)
    (hb : isContinuation b = true) :
    firstChar a (b :: rest) =
      (some (Char.ofNat (a.toNat % 32 * 64 + b.toNat % 64)), rest) := by
  have hone : ¬a < 0x80 := by
    rw [UInt8.lt_iff_toNat_lt]
    simp
    omega
  have htwo : 0xC2 ≤ a ∧ a < 0xE0 := by
    simpa [UInt8.le_iff_toNat_le, UInt8.lt_iff_toNat_lt] using ha
  simp only [firstChar, hone, htwo, hb, if_true, if_false, Bool.and_self, decide_true]
  rfl

private theorem firstChar_three (ha : 0xE0 ≤ a.toNat ∧ a.toNat < 0xF0) (hb : isSecond a b = true)
    (hc : isContinuation c = true) : firstChar a (b :: c :: rest) =
      (some (Char.ofNat (a.toNat % 16 * 4096 + b.toNat % 64 * 64 + c.toNat % 64)), rest) := by
  have hone : ¬a < 0x80 := by
    rw [UInt8.lt_iff_toNat_lt]
    simp
    omega
  have htwo : ¬a < 0xE0 := by
    rw [UInt8.lt_iff_toNat_lt]
    simp
    omega
  have hthree : 0xE0 ≤ a ∧ a < 0xF0 := by
    simpa [UInt8.le_iff_toNat_le, UInt8.lt_iff_toNat_lt] using ha
  simp only [firstChar, hone, htwo, hthree, hb, hc, if_true, if_false, Bool.and_self,
    Bool.and_false, Bool.false_eq_true, decide_true, decide_false]
  rfl

private theorem firstChar_four (ha : 0xF0 ≤ a.toNat ∧ a.toNat < 0xF5) (hb : isSecond a b = true)
    (hc : isContinuation c = true) (hd : isContinuation d = true) :
    firstChar a (b :: c :: d :: rest) = (some (Char.ofNat
      (a.toNat % 8 * 262144 + b.toNat % 64 * 4096 + c.toNat % 64 * 64 + d.toNat % 64)), rest) := by
  have hone : ¬a < 0x80 := by
    rw [UInt8.lt_iff_toNat_lt]
    simp
    omega
  have htwo : ¬a < 0xE0 := by
    rw [UInt8.lt_iff_toNat_lt]
    simp
    omega
  have hthree : ¬a < 0xF0 := by
    rw [UInt8.lt_iff_toNat_lt]
    simp
    omega
  have hfour : 0xF0 ≤ a ∧ a < 0xF5 := by
    simpa [UInt8.le_iff_toNat_le, UInt8.lt_iff_toNat_lt] using ha
  simp only [firstChar, hone, htwo, hthree, hfour, hb, hc, hd, if_true, if_false, Bool.and_self,
    Bool.and_false, Bool.false_eq_true, decide_true, decide_false]
  rfl

end Bytes

section Characters

private theorem firstChar_utf8EncodeChar (c : Char) :
    ∃ a tail, String.utf8EncodeChar c = a :: tail ∧
    ∀ rest, firstChar a (tail ++ rest) = (some c, rest) := by
  have hchar : Char.ofNat c.val.toNat = c := Char.ofNat_toNat c
  have hvalid : c.val.toNat < 0xD800 ∨ 0xDFFF < c.val.toNat ∧ c.val.toNat < 0x110000 := c.valid
  have hbyte : ∀ n < 256, (UInt8.ofNat n).toNat = n := fun n => UInt8.toNat_ofNat_of_lt
  rw [String.utf8EncodeChar]
  generalize c.val.toNat = v at hchar hvalid ⊢
  by_cases hone : v ≤ 0x7F
  · have ha : (UInt8.ofNat v).toNat = v := hbyte _ (by omega)
    refine ⟨UInt8.ofNat v, [], if_pos hone, fun rest => ?_⟩
    rw [List.nil_append, firstChar_one (by omega), ha, hchar]
  have hd : (UInt8.ofNat (v % 64 + 0x80)).toNat = v % 64 + 0x80 := hbyte _ (by omega)
  have hlast := isContinuation_iff.mpr (by rw [hd]; omega)
  by_cases htwo : v ≤ 0x7FF
  · have ha : (UInt8.ofNat (v / 64 % 32 + 0xC0)).toNat = v / 64 % 32 + 0xC0 :=
      hbyte _ (by omega)
    have hvalue : (v / 64 % 32 + 0xC0) % 32 * 64 + (v % 64 + 0x80) % 64 = v := by omega
    refine ⟨_, _, by rw [if_neg hone, if_pos htwo], fun rest => ?_⟩
    rw [List.cons_append, List.nil_append, firstChar_two (by omega) hlast, ha, hd, hvalue, hchar]
  have hc : (UInt8.ofNat (v / 64 % 64 + 0x80)).toNat = v / 64 % 64 + 0x80 :=
    hbyte _ (by omega)
  by_cases hthree : v ≤ 0xFFFF
  · have ha : (UInt8.ofNat (v / 4096 % 16 + 0xE0)).toNat = v / 4096 % 16 + 0xE0 :=
      hbyte _ (by omega)
    have hsecond : isSecond (UInt8.ofNat (v / 4096 % 16 + 0xE0))
        (UInt8.ofNat (v / 64 % 64 + 0x80)) = true := by
      refine isSecond_of_borders (by rw [hc]; omega) ?_ ?_ ?_ ?_
      all_goals
        rw [ha, hc]
        omega
    have hvalue : (v / 4096 % 16 + 0xE0) % 16 * 4096 + (v / 64 % 64 + 0x80) % 64 * 64 +
        (v % 64 + 0x80) % 64 = v := by omega
    refine ⟨_, _, by rw [if_neg hone, if_neg htwo, if_pos hthree], fun rest => ?_⟩
    simp only [List.cons_append, List.nil_append]
    rw [firstChar_three (by omega) hsecond hlast, ha, hc, hd, hvalue, hchar]
  · have ha : (UInt8.ofNat (v / 262144 % 8 + 0xF0)).toNat = v / 262144 % 8 + 0xF0 :=
      hbyte _ (by omega)
    have hb : (UInt8.ofNat (v / 4096 % 64 + 0x80)).toNat = v / 4096 % 64 + 0x80 :=
      hbyte _ (by omega)
    have hsecond : isSecond (UInt8.ofNat (v / 262144 % 8 + 0xF0))
        (UInt8.ofNat (v / 4096 % 64 + 0x80)) = true := by
      refine isSecond_of_borders (by rw [hb]; omega) ?_ ?_ ?_ ?_
      all_goals
        rw [ha, hb]
        omega
    have hthird := isContinuation_iff.mpr (by rw [hc]; omega)
    have hvalue : (v / 262144 % 8 + 0xF0) % 8 * 262144 + (v / 4096 % 64 + 0x80) % 64 * 4096 +
        (v / 64 % 64 + 0x80) % 64 * 64 + (v % 64 + 0x80) % 64 = v := by omega
    refine ⟨_, _, by rw [if_neg hone, if_neg htwo, if_neg hthree], fun rest => ?_⟩
    simp only [List.cons_append, List.nil_append]
    rw [firstChar_four (by omega) hsecond hthird hlast, ha, hb, hc, hd, hvalue, hchar]

private theorem charsOfUtf8_utf8 (cs : List Char) : charsOfUtf8 (utf8 cs) = cs.map some := by
  induction cs with
  | nil => rw [utf8, List.flatMap_nil, charsOfUtf8, List.map_nil]
  | cons c cs ih =>
    obtain ⟨a, tail, hbytes, hfirst⟩ := firstChar_utf8EncodeChar c
    have htext : utf8 (c :: cs) = a :: (tail ++ utf8 cs) := by
      rw [utf8, List.flatMap_cons, hbytes, List.cons_append, utf8]
    rw [htext, charsOfUtf8, hfirst, ih, List.map_cons]

theorem fromUtf8?_utf8 (s : String) : fromUtf8? (utf8 s.toList) = some s := by
  have hself : ∀ c : Char, id (some c) = some c := fun _ => rfl
  have hchars : (s.toList.map some).mapM id = some s.toList := mapM_map_eq_some hself s.toList
  rw [fromUtf8?, charsOfUtf8_utf8, hchars, Option.map_some, String.ofList_toList]

theorem fromUtf8Lossy_utf8 (s : String) : fromUtf8Lossy (utf8 s.toList) = s := by
  rw [fromUtf8Lossy, charsOfUtf8_utf8, List.map_map]
  exact (congrArg String.ofList (List.map_id s.toList)).trans String.ofList_toList

end Characters
end AddressPlan.Text
