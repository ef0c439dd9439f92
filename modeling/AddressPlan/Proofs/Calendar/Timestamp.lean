import Mathlib.Algebra.Group.Nat.Defs
import Mathlib.Data.List.TakeWhile
import Mathlib.Tactic.SplitIfs
import AddressPlan.Calendar.Timestamp
import AddressPlan.Proofs.Text.Digits
/-!
# Timestamps, read back

The text of an instant in the years with four digits is one that the lenient reader takes, and it
gives the instant back: every part is printed at the width to which it is read, and no digit follows
the last of them.
-/
namespace AddressPlan

private theorem Date.of?_self (d : Date) : of? d.year d.month d.day = some d := by
  rw [of?, dif_pos d.valid]

private theorem Date.month_day_le (d : Date) : d.month ≤ 12 ∧ d.day ≤ 31 := by
  have hvalid := d.valid
  simp only [isDate, Bool.and_eq_true, decide_eq_true_eq] at hvalid
  have hdays : daysInMonth d.year d.month ≤ 31 := by
    unfold daysInMonth
    split_ifs <;> decide
  omega

namespace Instant
open Text

section Numbers

variable {width n least : Nat}

private theorem isDigit_padded (width n : Nat) : ∀ c ∈ padded width n, c.isDigit = true := by
  intro c hc
  rcases List.mem_append.mp hc with hzero | hdigit
  · rw [List.eq_of_mem_replicate hzero]
    decide
  · exact isDigit_toDigits n c hdigit

private theorem length_padded (hpos : 0 < width) (h : n < 10 ^ width) :
    (padded width n).length = width := by
  have hle : (Nat.toDigits 10 n).length ≤ width :=
    (Nat.length_toDigits_le_iff (by decide) hpos).mpr h
  rw [padded, List.length_append, List.length_replicate]
  omega

private theorem ofDigitChars_padded (width n : Nat) :
    Nat.ofDigitChars 10 (padded width n) 0 = n := by
  rw [padded, Nat.ofDigitChars_append, Nat.ofDigitChars_replicate_zero, Nat.mul_zero,
    Nat.ofDigitChars_ten_toDigits]

private theorem number?_padded (rest : List Char) (hpos : 0 < width) (hleast : least ≤ width)
    (h : n < 10 ^ width) : number? least width (padded width n ++ rest) = some (n, rest) := by
  have hlength := length_padded hpos h
  -- the reader stops at the width, so `rest` may go on with a digit
  have hdigits : ((padded width n ++ rest).take width).takeWhile Char.isDigit = padded width n := by
    rw [List.take_left' hlength, List.takeWhile_eq_self_iff]
    exact isDigit_padded width n
  have hdrop : (padded width n ++ rest).drop width = rest := List.drop_left' hlength
  simp only [number?, hdigits, hlength, hdrop, ofDigitChars_padded, Nat.not_lt.mpr hleast, if_false]

private theorem padded_eq_cons (hpos : 0 < width) (h : n < 10 ^ width) :
    ∃ c cs, padded width n = c :: cs ∧ c.isDigit = true := by
  have hlength := length_padded hpos h
  cases hpadded : padded width n with
  | nil =>
    rw [hpadded] at hlength
    exact absurd hlength.symm (Nat.ne_of_gt hpos)
  | cons c cs =>
    exact ⟨c, cs, rfl, isDigit_padded width n c (by rw [hpadded]; exact List.mem_cons_self)⟩

end Numbers

section Parts

variable {n : Nat}

private theorem skipBlanks_cons {c : Char} (rest : List Char) (h : isBlank c = false) :
    skipBlanks (c :: rest) = c :: rest := by
  rw [skipBlanks, List.dropWhile_cons_of_neg (by simp [h])]

private theorem lenientSkip?_cons {c : Char} (rest : List Char) (h : isBlank c = false) :
    lenientSkip? c (c :: rest) = some rest := by
  rw [lenientSkip?, skipBlanks_cons rest h, skip?, if_pos rfl]

private theorem lenientNumber?_padded (rest : List Char) (h : n < 10 ^ 2) :
    lenientNumber? (padded 2 n ++ rest) = some (n, rest) := by
  obtain ⟨c, cs, hpadded, hc⟩ := padded_eq_cons (by decide) h
  have hskip : skipBlanks (padded 2 n ++ rest) = padded 2 n ++ rest := by
    rw [hpadded, List.cons_append, skipBlanks_cons _ (not_isBlank_of_isDigit hc)]
  rw [lenientNumber?, hskip, number?_padded rest (by decide) (by decide) h]

private theorem lenientYear?_yearText {year : Int} (rest : List Char) (hlo : 0 ≤ year)
    (hhi : year ≤ 9999) : lenientYear? (yearText year ++ rest) = some (year, rest) := by
  have hlt : year.toNat < 10 ^ 4 := by omega
  obtain ⟨c, cs, hpadded, hc⟩ := padded_eq_cons (by decide) hlt
  have hnumber : number? 1 4 (padded 4 year.toNat ++ rest) = some (year.toNat, rest) :=
    number?_padded rest (by decide) (by decide) hlt
  have hplain : c ≠ '-' ∧ c ≠ '+' := by
    refine ⟨?_, ?_⟩
    · rintro rfl
      cases hc
    · rintro rfl
      cases hc
  rw [hpadded, List.cons_append] at hnumber
  rw [yearText, if_pos ⟨hlo, hhi⟩, hpadded, List.cons_append, lenientYear?,
    skipBlanks_cons _ (not_isBlank_of_isDigit hc)]
  simp [hplain, hnumber, Int.max_eq_left hlo]

private theorem fraction?_padded {width : Nat} (hpos : 0 < width) (hwidth : width ≤ 9)
    (h : n < 10 ^ width) :
    fraction? ('.' :: (padded width n ++ ['Z'])) = some (n * 10 ^ (9 - width), ['Z']) := by
  have hlength := length_padded hpos h
  -- a fraction is read to its last digit: only the `Z` ends it
  have hdigits : (padded width n ++ ['Z']).takeWhile Char.isDigit = padded width n := by
    rw [List.takeWhile_append_of_pos (isDigit_padded width n),
      List.takeWhile_cons_of_neg (by decide), List.append_nil]
  have htake : (padded width n).take 9 = padded width n :=
    List.take_of_length_le (by omega)
  have hne : (padded width n).isEmpty = false := by
    obtain ⟨c, cs, hpadded, -⟩ := padded_eq_cons hpos h
    rw [hpadded]
    rfl
  have hdrop : (padded width n ++ ['Z']).drop width = ['Z'] := List.drop_left' hlength
  simp only [fraction?, hdigits, htake, hne, hlength, hdrop, ofDigitChars_padded,
    Bool.false_eq_true, if_false, Nat.pow_eq]

/-- The groups of digits that are left out are zero. -/
private theorem fraction?_fractionText {nanosecond : Nat} (h : nanosecond < 1000000000) :
    fraction? (fractionText nanosecond ++ ['Z']) = some (nanosecond, ['Z']) := by
  unfold fractionText
  split_ifs with hzero hmillis hmicros
  · rw [hzero]
    rfl
  · have hthree : fraction? ('.' :: (padded 3 (nanosecond / 1000000) ++ ['Z'])) =
        some (nanosecond / 1000000 * 10 ^ (9 - 3), ['Z']) :=
      fraction?_padded (by decide) (by decide) (by omega)
    have hvalue : nanosecond / 1000000 * 10 ^ (9 - 3) = nanosecond := by omega
    rw [List.cons_append, hthree, hvalue]
  · have hsix : fraction? ('.' :: (padded 6 (nanosecond / 1000) ++ ['Z'])) =
        some (nanosecond / 1000 * 10 ^ (9 - 6), ['Z']) :=
      fraction?_padded (by decide) (by decide) (by omega)
    have hvalue : nanosecond / 1000 * 10 ^ (9 - 6) = nanosecond := by omega
    rw [List.cons_append, hsix, hvalue]
  · rw [List.cons_append, fraction?_padded (by decide) (by decide) h]
    simp

end Parts

section Clock

private theorem ahead?_zero (t : Instant) : t.ahead? 0 = some t := by
  have hhour := t.hour_lt
  have hminute := t.minute_lt
  have hminutes : ((t.hour * 60 + t.minute - 0 : Int)).toNat = t.hour * 60 + t.minute := by omega
  have hhours : (t.hour * 60 + t.minute) / 60 = t.hour := by omega
  have hrest : (t.hour * 60 + t.minute) % 60 = t.minute := by omega
  rw [ahead?]
  dsimp only
  rw [if_neg (by omega), if_neg (by omega), hminutes, hhours, hrest, of?]
  exact dif_pos ⟨hhour, hminute, t.second_le, t.nanosecond_lt⟩

private theorem assemble?_self (t : Instant) :
    assemble? t.date.year t.date.month t.date.day t.hour t.minute t.second t.nanosecond 0 =
      some t := by
  have hclock : of? t.date t.hour t.minute t.second t.nanosecond = some t :=
    dif_pos ⟨t.hour_lt, t.minute_lt, t.second_le, t.nanosecond_lt⟩
  rw [assemble?, Date.of?_self]
  simp only [Option.bind_eq_bind, Option.bind_some, hclock, ahead?_zero]

end Clock

/-- The year of an instant has four digits, without a sign. -/
def HasPlainYear (t : Instant) : Prop :=
  0 ≤ t.date.year ∧ t.date.year ≤ 9999

theorem readLenient?_text {t : Instant} (h : t.HasPlainYear) : readLenient? t.text = some t := by
  obtain ⟨hmonth, hday⟩ := t.date.month_day_le
  have hhour := t.hour_lt
  have hminute := t.minute_lt
  have hsecond := t.second_le
  have htext : t.text.toList = yearText t.date.year ++ '-' :: (padded 2 t.date.month ++
      '-' :: (padded 2 t.date.day ++ 'T' :: (padded 2 t.hour ++ ':' :: (padded 2 t.minute ++
        ':' :: (padded 2 t.second ++ (fractionText t.nanosecond ++ ['Z'])))))) := by
    simp [text, chars]
  have hdash : isBlank '-' = false := by decide
  have hcolon : isBlank ':' = false := by decide
  have hzone : lenientZone? (skipBlanks ['Z']) = some (0, []) := by decide
  have hdivider : ∀ cs, skipDivider? ('T' :: cs) = some cs := fun _ => rfl
  have hempty : (skipBlanks []).isEmpty = true := rfl
  rw [readLenient?, htext]
  simp only [lenientYear?_yearText _ h.1 h.2, lenientSkip?_cons _ hdash,
    lenientSkip?_cons _ hcolon, lenientNumber?_padded _ (n := t.date.month) (by omega),
    lenientNumber?_padded _ (n := t.date.day) (by omega),
    lenientNumber?_padded _ (n := t.hour) (by omega),
    lenientNumber?_padded _ (n := t.minute) (by omega),
    lenientNumber?_padded _ (n := t.second) (by omega), hdivider,
    fraction?_fractionText t.nanosecond_lt, hzone, hempty, if_true, assemble?_self,
    Option.bind_eq_bind, Option.bind_some]

end Instant
end AddressPlan
