import Mathlib.Data.List.DropRight
import AddressPlan.Validation
/-!
# Trimmed text

Trimming twice is trimming once, so a name of a label is read the same with and without the
blanks around it. A status is accepted if it is absent, blank or one of the known names.
-/
namespace AddressPlan

namespace Text

private theorem trimChars_trimChars (cs : List Char) : trimChars (trimChars cs) = trimChars cs := by
  have htrim : ∀ xs, trimChars xs = (xs.dropWhile isBlank).rdropWhile isBlank := fun _ => rfl
  have hstart : (trimChars cs).dropWhile isBlank = trimChars cs := by
    rw [List.dropWhile_eq_self_iff]
    intro hpos
    have hstarts : trimChars cs <+: cs.dropWhile isBlank :=
      List.rdropWhile_prefix isBlank (cs.dropWhile isBlank)
    have hlonger := Nat.lt_of_lt_of_le hpos hstarts.length_le
    rw [hstarts.getElem hpos]
    exact List.dropWhile_get_zero_not isBlank cs hlonger
  rw [htrim, hstart, htrim cs, List.rdropWhile_idempotent]

theorem trim_trim (s : String) : trim (trim s) = trim s := by
  rw [trim, trim, String.toList_ofList, trimChars_trimChars]

theorem nonBlank?_eq_some_iff {s t : String} : nonBlank? s = some t ↔ t = trim s ∧ t ≠ "" := by
  by_cases hempty : trim s = ""
  · have hnone : nonBlank? s = none := by simp [nonBlank?, hempty]
    rw [hnone, hempty]
    simp
  · have hsome : nonBlank? s = some (trim s) := by simp [nonBlank?, hempty]
    rw [hsome, Option.some.injEq, eq_comm]
    exact ⟨fun h => ⟨h, h ▸ hempty⟩, And.left⟩

private theorem nonBlank?_eq_none_iff {s : String} : nonBlank? s = none ↔ trim s = "" := by
  by_cases hempty : trim s = "" <;> simp [nonBlank?, hempty]

end Text

private theorem plainLabel_trim (s : String) : plainLabel (Text.trim s) = plainLabel s := by
  rw [plainLabel, Text.trim, String.toList_ofList, Text.trimChars_trimChars, plainLabel]

namespace PoolStatus

private theorem read_trim (s : String) : read (Text.trim s) = read s := by
  rw [read, plainLabel_trim, read]

private theorem ofName?_eq_some_iff {s : String} {status : PoolStatus} :
    ofName? s = some status ↔ s = status.name := by
  constructor
  · intro h
    unfold ofName? at h
    split_ifs at h with hplanned hactive hdeprecated
    · obtain rfl := Option.some.inj h
      exact hplanned
    · obtain rfl := Option.some.inj h
      exact hactive
    · obtain rfl := Option.some.inj h
      exact hdeprecated
  · rintro rfl
    exact ofName?_name status

private theorem read_eq_ok_iff {s : String} {status : PoolStatus} :
    read s = .ok status ↔ plainLabel s = status.name := by
  rw [← ofName?_eq_some_iff, read]
  cases ofName? (plainLabel s) <;> simp

end PoolStatus

theorem readGiven_of_blank {text : String} (h : Text.nonBlank? text = none) :
    readGiven PoolStatus.read (some text) = .ok none := by
  simp only [readGiven, Option.bind_some, h]

theorem readGiven_of_nonBlank {text trimmed : String} (h : Text.nonBlank? text = some trimmed) :
    readGiven PoolStatus.read (some text) = some <$> PoolStatus.read text := by
  rw [← PoolStatus.read_trim, ← (Text.nonBlank?_eq_some_iff.mp h).1]
  simp only [readGiven, Option.bind_some, h]

theorem exists_readGiven_status_iff {given : Option String} :
    (∃ status, readGiven PoolStatus.read given = .ok status) ↔
      ∀ text, given = some text →
        Text.trim text = "" ∨ ∃ status : PoolStatus, plainLabel text = status.name := by
  cases given with
  | none => simp [readGiven]
  | some text =>
    cases hblank : Text.nonBlank? text with
    | none =>
      rw [readGiven_of_blank hblank]
      simp [Text.nonBlank?_eq_none_iff.mp hblank]
    | some trimmed =>
      obtain ⟨rfl, hne⟩ := Text.nonBlank?_eq_some_iff.mp hblank
      rw [readGiven_of_nonBlank hblank]
      simp only [Option.some.injEq, forall_eq', hne, false_or, ← PoolStatus.read_eq_ok_iff]
      cases PoolStatus.read text with
      | error cause => simp
      | ok status => simp

end AddressPlan
