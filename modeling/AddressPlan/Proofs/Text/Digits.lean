import AddressPlan.Text.Blank
/-!
# Decimal digits

The digits of a number are digits and nothing else, and only zero starts with a zero. A run of
digits is the digits of its value behind some zeros.
-/
namespace AddressPlan.Text

theorem isDigit_toDigits (n : Nat) : ∀ c ∈ Nat.toDigits 10 n, c.isDigit = true :=
  fun _ hc => Nat.isDigit_of_mem_toDigits (by decide) (by decide) hc

private theorem head?_toDigits {n : Nat} (h : 0 < n) : (Nat.toDigits 10 n).head? ≠ some '0' := by
  induction n using Nat.strongRecOn with
  | _ n ih =>
    rw [Nat.toDigits_eq_if (by decide)]
    split
    · simpa using Nat.ne_of_gt h
    · have hdiv : 0 < n / 10 := by omega
      have hhead := ih (n / 10) (by omega) hdiv
      rw [List.head?_append]
      cases hdigits : Nat.toDigits 10 (n / 10) with
      | nil => exact absurd hdigits Nat.toDigits_ne_nil
      | cons c cs => rwa [hdigits] at hhead

theorem toDigits_eq_cons (n : Nat) :
    ∃ c cs, Nat.toDigits 10 n = c :: cs ∧ c.isDigit = true ∧ (c = '0' → cs = []) := by
  cases hdigits : Nat.toDigits 10 n with
  | nil => exact absurd hdigits Nat.toDigits_ne_nil
  | cons c cs =>
    have hc : c.isDigit = true := isDigit_toDigits n c (by rw [hdigits]; exact List.mem_cons_self)
    refine ⟨c, cs, rfl, hc, fun hzero => ?_⟩
    rcases Nat.eq_zero_or_pos n with rfl | hpos
    · rw [Nat.toDigits_zero] at hdigits
      exact (List.cons.inj hdigits).2.symm
    · have hhead := head?_toDigits hpos
      rw [hdigits, List.head?_cons, hzero] at hhead
      exact absurd rfl hhead

private theorem toNat_of_isDigit {c : Char} (h : c.isDigit = true) :
    48 ≤ c.toNat ∧ c.toNat ≤ 57 := by
  simp only [Char.isDigit, Bool.and_eq_true, decide_eq_true_eq, UInt32.le_iff_toNat_le] at h
  exact h

private theorem digitValue_lt {c : Char} (h : c.isDigit = true) : c.toNat - '0'.toNat < 10 :=
  Nat.lt_of_le_of_lt (Nat.sub_le_sub_right (toNat_of_isDigit h).2 48) (by decide)

private theorem toDigits_of_isDigit {c : Char} (h : c.isDigit = true) :
    Nat.toDigits 10 (c.toNat - '0'.toNat) = [c] := by
  have hlt := digitValue_lt h
  have hchar : (c.toNat - '0'.toNat).digitChar = c := by
    refine Char.toNat_inj.mp ?_
    rw [Nat.toNat_digitChar_of_lt_ten hlt]
    exact Nat.add_sub_cancel' (toNat_of_isDigit h).1
  rw [Nat.toDigits_of_lt_base hlt, hchar]

private theorem toDigits_append_of_pos {ds : List Char} (hds : ∀ c ∈ ds, c.isDigit = true) {n : Nat}
    (hn : 0 < n) : Nat.toDigits 10 n ++ ds = Nat.toDigits 10 (Nat.ofDigitChars 10 ds n) := by
  induction ds generalizing n with
  | nil => rw [List.append_nil, Nat.ofDigitChars_nil]
  | cons c ds ih =>
    have hc := hds c List.mem_cons_self
    have hlt : c.toNat - '0'.toNat < 10 := digitValue_lt hc
    calc Nat.toDigits 10 n ++ c :: ds = Nat.toDigits 10 n ++ [c] ++ ds := by simp
      _ = Nat.toDigits 10 (10 * n + (c.toNat - '0'.toNat)) ++ ds := by
        rw [← toDigits_of_isDigit hc, Nat.toDigits_append_toDigits (by decide) hn hlt]
      _ = Nat.toDigits 10 (Nat.ofDigitChars 10 (c :: ds) n) := by
        rw [ih (fun d hd => hds d (List.mem_cons_of_mem _ hd)) (by omega), Nat.ofDigitChars_cons]

theorem exists_replicate_zero {ds : List Char} (hds : ∀ c ∈ ds, c.isDigit = true) (hne : ds ≠ []) :
    ∃ zeros, ds = List.replicate zeros '0' ++ Nat.toDigits 10 (Nat.ofDigitChars 10 ds 0) := by
  induction ds with
  | nil => exact absurd rfl hne
  | cons c ds ih =>
    have hc := hds c List.mem_cons_self
    have hrest : ∀ d ∈ ds, d.isDigit = true := fun d hd => hds d (List.mem_cons_of_mem _ hd)
    rw [Nat.ofDigitChars_cons, Nat.mul_zero, Nat.zero_add]
    rcases Nat.eq_zero_or_pos (c.toNat - '0'.toNat) with hzero | hpos
    · have hzero' : c = '0' := by
        have hdigits := toDigits_of_isDigit hc
        rw [hzero, Nat.toDigits_zero] at hdigits
        exact (List.cons.inj hdigits).1.symm
      rw [hzero, hzero']
      cases ds with
      | nil => exact ⟨0, by rw [Nat.ofDigitChars_nil, Nat.toDigits_zero]; rfl⟩
      | cons d ds =>
        obtain ⟨zeros, hzeros⟩ := ih hrest (List.cons_ne_nil d ds)
        exact ⟨zeros + 1, congrArg ('0' :: ·) hzeros⟩
    · refine ⟨0, ?_⟩
      rw [← toDigits_append_of_pos hrest hpos]
      exact (congrArg (· ++ ds) (toDigits_of_isDigit hc)).symm

theorem not_isBlank_of_isDigit {c : Char} (h : c.isDigit = true) : isBlank c = false := by
  obtain ⟨hlo, hhi⟩ := toNat_of_isDigit h
  simp only [isBlank, Bool.or_eq_false_iff, Bool.and_eq_false_iff, decide_eq_false_iff_not,
    beq_eq_false_iff_ne]
  omega

private theorem dropWhile_blanks {blanks cs : List Char} (hblanks : ∀ c ∈ blanks, isBlank c = true)
    (hcs : ∀ c ∈ cs, isBlank c = false) (hne : cs ≠ []) (rest : List Char) :
    (blanks ++ (cs ++ rest)).dropWhile isBlank = cs ++ rest := by
  rw [List.dropWhile_append_of_pos hblanks]
  cases cs with
  | nil => exact absurd rfl hne
  | cons c cs =>
    rw [List.cons_append, List.dropWhile_cons_of_neg (by simp [hcs c List.mem_cons_self])]

theorem trimChars_framed {before cs after : List Char} (hbefore : ∀ c ∈ before, isBlank c = true)
    (hcs : ∀ c ∈ cs, isBlank c = false) (hne : cs ≠ []) (hafter : ∀ c ∈ after, isBlank c = true) :
    trimChars (before ++ (cs ++ after)) = cs := by
  have hend : (after.reverse ++ cs.reverse).dropWhile isBlank = cs.reverse := by
    simpa using
      dropWhile_blanks (by simpa using hafter) (by simpa using hcs) (by simpa using hne) []
  rw [trimChars, dropWhile_blanks hbefore hcs hne, List.reverse_append, hend, List.reverse_reverse]

end AddressPlan.Text
