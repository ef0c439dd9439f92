import Mathlib.Data.List.TakeWhile
import AddressPlan.Text.Lowercase
/-!
# Lower case and the case of ASCII letters

The lower-case form of a text does not depend on the case of its ASCII letters. The one mapping
that looks at other characters, that of a capital sigma, only asks which of them are cased.
-/
namespace AddressPlan.Text

section Characters

variable (c : Char)

private theorem toLower_eq_or : c.toLower = c ∨ ∃ n < 26, c = Char.ofNat (65 + n) := by
  by_cases h : c.val ≥ 65 ∧ c.val ≤ 90
  · right
    have hrange : 65 ≤ c.toNat ∧ c.toNat ≤ 90 := by
      simpa [UInt32.le_iff_toNat_le] using h
    have hsum : 65 + (c.toNat - 65) = c.toNat := by omega
    exact ⟨c.toNat - 65, by omega, by rw [hsum, Char.ofNat_toNat]⟩
  · left
    unfold Char.toLower
    exact dif_neg h

private theorem read_toLower {α : Type} {f : Char → α}
    (h : ∀ n < 26, f (Char.ofNat (65 + n)).toLower = f (Char.ofNat (65 + n))) :
    f c.toLower = f c := by
  rcases toLower_eq_or c with hsame | ⟨n, hn, rfl⟩
  · rw [hsame]
  · exact h n hn

private theorem isCased_toLower : isCased c.toLower = isCased c :=
  read_toLower c (by decide +kernel)

private theorem isCaseIgnorable_toLower : isCaseIgnorable c.toLower = isCaseIgnorable c :=
  read_toLower c (by decide +kernel)

private theorem lowerChar_toLower : lowerChar c.toLower = lowerChar c :=
  read_toLower c (by decide +kernel)

private theorem toLower_eq_iff {special : Char}
    (h : ∀ n < 26, (Char.ofNat (65 + n)).toLower = special ↔ Char.ofNat (65 + n) = special) :
    c.toLower = special ↔ c = special :=
  iff_of_eq (read_toLower c (f := (· = special)) fun n hn => propext (h n hn))

private theorem toLower_eq_sigma_iff : c.toLower = 'Σ' ↔ c = 'Σ' :=
  toLower_eq_iff c (by decide +kernel)

private theorem toLower_eq_dotted_iff : c.toLower = 'İ' ↔ c = 'İ' :=
  toLower_eq_iff c (by decide +kernel)

end Characters

private theorem casedNext_map_toLower (cs : List Char) :
    casedNext (cs.map Char.toLower) = casedNext cs := by
  have hignorable : isCaseIgnorable ∘ Char.toLower = isCaseIgnorable :=
    funext isCaseIgnorable_toLower
  rw [casedNext, casedNext, List.dropWhile_map, hignorable]
  cases cs.dropWhile isCaseIgnorable with
  | nil => rfl
  | cons c rest => exact isCased_toLower c

private theorem lowerSigma_map_toLower (before after : List Char) :
    lowerSigma (before.map Char.toLower) (after.map Char.toLower) = lowerSigma before after := by
  rw [lowerSigma, casedNext_map_toLower, casedNext_map_toLower, lowerSigma]

private theorem lowerFrom_map_toLower (before cs : List Char) :
    lowerFrom (before.map Char.toLower) (cs.map Char.toLower) = lowerFrom before cs := by
  induction cs generalizing before with
  | nil => rfl
  | cons c cs ih =>
    have hrest := ih (c :: before)
    rw [List.map_cons] at hrest
    simp only [List.map_cons, lowerFrom, toLower_eq_sigma_iff, toLower_eq_dotted_iff,
      lowerSigma_map_toLower, lowerChar_toLower, hrest]

theorem lowercase_congr {a b : String}
    (h : a.toList.map Char.toLower = b.toList.map Char.toLower) : lowercase a = lowercase b := by
  rw [lowercase, lowercase, lowerChars, lowerChars, ← lowerFrom_map_toLower [] a.toList, h,
    lowerFrom_map_toLower [] b.toList]

end AddressPlan.Text
