import AddressPlan.Json.Reader
import AddressPlan.Proofs.Text.Digits
/-!
# Strings and numerals, read back

A string is read back from its quoted form, and a whole number from its digits, whatever follows
that could not be more digits.
-/
namespace AddressPlan.Json
open Text (isDigit_toDigits toDigits_eq_cons)

section Strings

private def spelled (c : Char) : StringPart :=
  if c.toNat < 0x20 ∧ c ≠ '\x08' ∧ c ≠ '\x0c' ∧ c ≠ '\n' ∧ c ≠ '\r' ∧ c ≠ '\t' then .unit c.toNat
  else .char c

private theorem unit?_controlDigits : ∀ n < 0x20,
    unit? '0' '0' (Nat.digitChar (n / 16)) (Nat.digitChar (n % 16)) = some n := by
  decide

private theorem stringParts_cons {c : Char} (read : List StringPart) (cs : List Char)
    (hquote : c ≠ '"')
    (hslash : c ≠ '\\') (hshown : ¬c.toNat < 0x20) :
    stringParts read (c :: cs) = stringParts (.char c :: read) cs := by
  rw [stringParts.eq_def]
  split
  · simp_all
  · simp_all
  · simp_all
  · simp_all
  · next heq =>
    obtain ⟨rfl, rfl⟩ := List.cons.inj heq
    exact if_neg hshown

private theorem stringParts_escapeChar (c : Char) (read : List StringPart) (cs : List Char) :
    stringParts read (escapeChar c ++ cs) = stringParts (spelled c :: read) cs := by
  unfold escapeChar
  split
  · next h => subst h; rfl
  split
  · next h => subst h; rfl
  split
  · next h => subst h; rfl
  split
  · next h => subst h; rfl
  split
  · next h => subst h; rfl
  split
  · next h => subst h; rfl
  split
  · next h => subst h; rfl
  split
  · next hback hpage hline hreturn htab hcontrol =>
    have hunit := unit?_controlDigits c.toNat hcontrol
    have hspelled : spelled c = .unit c.toNat := by
      simp [spelled, hcontrol, hback, hpage, hline, hreturn, htab]
    simp only [controlDigits, List.cons_append, List.nil_append, stringParts, hunit, hspelled]
  · next hquote hslash _ _ _ _ _ hshown =>
    have hspelled : spelled c = .char c := by simp [spelled, hshown]
    rw [List.singleton_append, hspelled, stringParts_cons read cs hquote hslash hshown]

private theorem stringParts_flatMap (cs : List Char) (read : List StringPart) (rest : List Char) :
    stringParts read (cs.flatMap escapeChar ++ '"' :: rest) =
      some (read.reverse ++ cs.map spelled, rest) := by
  induction cs generalizing read with
  | nil => simp [stringParts]
  | cons c cs ih =>
    rw [List.flatMap_cons, List.append_assoc, stringParts_escapeChar, ih]
    simp

private theorem assemble?_spelled (cs : List Char) : assemble? (cs.map spelled) = some cs := by
  induction cs with
  | nil => rfl
  | cons c cs ih =>
    rw [List.map_cons, spelled]
    split
    · next h =>
      have hhigh : ¬(0xD800 ≤ c.toNat ∧ c.toNat < 0xDC00) := by omega
      have hlow : ¬(0xDC00 ≤ c.toNat ∧ c.toNat < 0xE000) := by omega
      rw [assemble?.eq_def]
      simp only [if_neg hhigh, if_neg hlow, ih, Char.ofNat_toNat, Option.map_some]
    · simp [assemble?, ih]

theorem readString_quoted (s : String) (rest : List Char) :
    readString (s.toList.flatMap escapeChar ++ '"' :: rest) = some (some s, rest) := by
  rw [readString, stringParts_flatMap]
  simp [assemble?_spelled]

end Strings

section Numerals

/-- No digit, point or exponent follows, so that a numeral ends here. -/
def EndsNumeral (rest : List Char) : Prop :=
  ∀ c ∈ rest.head?, c.isDigit = false ∧ c ≠ '.' ∧ c ≠ 'e' ∧ c ≠ 'E'

theorem endsNumeral_nil : EndsNumeral [] := by
  simp [EndsNumeral]

private theorem digits_append {ds rest : List Char} (h : ∀ c ∈ ds, c.isDigit = true)
    (hrest : EndsNumeral rest) : digits (ds ++ rest) = (ds, rest) := by
  have hend : rest.takeWhile Char.isDigit = [] ∧ rest.dropWhile Char.isDigit = rest := by
    cases rest with
    | nil => exact ⟨rfl, rfl⟩
    | cons c cs =>
      have hc : c.isDigit = false := (hrest c rfl).1
      simp [hc]
  rw [digits, List.takeWhile_append_of_pos h, List.dropWhile_append_of_pos h, hend.1, hend.2,
    List.append_nil]

private theorem wholePart?_toDigits (n : Nat) {rest : List Char} (hrest : EndsNumeral rest) :
    wholePart? (Nat.toDigits 10 n ++ rest) = some (Nat.toDigits 10 n, rest) := by
  rw [wholePart?, digits_append (isDigit_toDigits n) hrest]
  obtain ⟨c, cs, hdigits, -, hzero⟩ := toDigits_eq_cons n
  rw [hdigits]
  cases cs with
  | nil => simp
  | cons d ds =>
    have hc : c ≠ '0' := fun h => by cases hzero h
    simp [hc]

private theorem fractionPart?_of_ends {rest : List Char} (hrest : EndsNumeral rest) :
    fractionPart? rest = some (none, rest) := by
  cases rest with
  | nil => rfl
  | cons c cs =>
    have hc := (hrest c rfl).2.1
    simp [fractionPart?, hc]

private theorem powerPart?_of_ends {rest : List Char} (hrest : EndsNumeral rest) :
    powerPart? rest = some (none, rest) := by
  cases rest with
  | nil => rfl
  | cons c cs =>
    have hc := (hrest c rfl).2.2
    simp [powerPart?, hc]

theorem readNumeral_natural (n : Nat) {rest : List Char} (hrest : EndsNumeral rest) :
    readNumeral (Nat.toDigits 10 n ++ rest) =
      some (⟨false, Nat.toDigits 10 n, none, none⟩, rest) := by
  have hwhole := wholePart?_toDigits n hrest
  obtain ⟨c, cs, hdigits, hc, -⟩ := toDigits_eq_cons n
  have hne : c ≠ '-' := by rintro rfl; cases hc
  rw [hdigits, List.cons_append] at hwhole ⊢
  simp [readNumeral, hne, hwhole, fractionPart?_of_ends hrest, powerPart?_of_ends hrest]

theorem readNumeral_negative (n : Nat) {rest : List Char} (hrest : EndsNumeral rest) :
    readNumeral ('-' :: (Nat.toDigits 10 n ++ rest)) =
      some (⟨true, Nat.toDigits 10 n, none, none⟩, rest) := by
  simp [readNumeral, wholePart?_toDigits n hrest, fractionPart?_of_ends hrest,
    powerPart?_of_ends hrest]

private theorem le_ofDigitChars (ds : List Char) (n : Nat) : n ≤ Nat.ofDigitChars 10 ds n := by
  induction ds generalizing n with
  | nil => exact Nat.le_refl n
  | cons c cs ih =>
    rw [Nat.ofDigitChars_cons]
    have := ih (10 * n + (c.toNat - '0'.toNat))
    omega

private theorem absorb_of_lt {ds : List Char} {n : Nat}
    (h : Nat.ofDigitChars 10 ds n < UInt64.size) :
    Numeral.absorb n ds = (Nat.ofDigitChars 10 ds n, []) := by
  induction ds generalizing n with
  | nil => rfl
  | cons c cs ih =>
    rw [Nat.ofDigitChars_cons] at h ⊢
    have hnext := Nat.lt_of_le_of_lt (le_ofDigitChars cs _) h
    rw [Numeral.absorb, if_pos hnext, ih h]

private theorem absorb_toDigits {n : Nat} (h : n < UInt64.size) :
    Numeral.absorb 0 (Nat.toDigits 10 n) = (n, []) := by
  have hvalue : Nat.ofDigitChars 10 (Nat.toDigits 10 n) 0 = n := Nat.ofDigitChars_ten_toDigits
  rw [absorb_of_lt (by rwa [hvalue]), hvalue]

def Number.IsWhole : Number → Prop
  | .natural _ => True
  | .negative n => n.toInt < 0
  | .real _ => False

theorem number?_natural (n : UInt64) :
    Numeral.number? ⟨false, Nat.toDigits 10 n.toNat, none, none⟩ = some (.natural n) := by
  simp [Numeral.number?, absorb_toDigits n.toNat_lt]

theorem number?_negative {n : Int64} (h : n.toInt < 0) :
    Numeral.number? ⟨true, Nat.toDigits 10 n.toInt.natAbs, none, none⟩ = some (.negative n) := by
  have hle : -2 ^ 63 ≤ n.toInt := n.le_toInt
  have hlt : n.toInt.natAbs < UInt64.size := by
    change n.toInt.natAbs < 18446744073709551616
    omega
  have hrange : 0 < n.toInt.natAbs ∧ n.toInt.natAbs ≤ UInt64.size / 2 := by
    change 0 < n.toInt.natAbs ∧ n.toInt.natAbs ≤ 9223372036854775808
    omega
  have hword : Int64.ofInt (-((n.toInt.natAbs : Nat) : Int)) = n := by
    have hvalue : -((n.toInt.natAbs : Nat) : Int) = n.toInt := by omega
    rw [hvalue, Int64.ofInt_toInt]
  rw [Numeral.number?, absorb_toDigits hlt]
  simp only [hrange, hword, Option.isNone_none, List.isEmpty_nil, Bool.and_self, Bool.not_true,
    Bool.false_eq_true, and_self, if_true, if_false]

end Numerals
end AddressPlan.Json
