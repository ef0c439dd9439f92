import AddressPlan.Proofs.Prefix.Grammar
import AddressPlan.Refusal
/-!
# Printed prefixes

The text of a prefix is one of its literals: reading it gives the prefix back.
-/
namespace AddressPlan.Prefix
open Text

section Printing

private theorem toList_dotted (address : UInt32) :
    (dotted address).toList = ['.'].intercalate ((octets address).map (Nat.toDigits 10)) := by
  rw [dotted, String.toList_intercalate, List.map_map]
  simp [Function.comp_def]

private theorem toList_text (p : Prefix) :
    p.text.toList = (dotted p.network).toList ++ '/' :: Nat.toDigits 10 p.length := by
  simp [text]

private theorem dottedQuad_dotted (address : UInt32) :
    DottedQuad (PaddedNumeral 3) (dotted address).toList address := by
  have hlt : address.toNat < 4294967296 := address.toNat_lt
  have hbyte : ∀ n < 256, PaddedNumeral 3 (Nat.toDigits 10 n) n ∧ n < 256 := fun n hn =>
    ⟨paddedNumeral_toDigits (by decide) (by omega), hn⟩
  have hquad := DottedQuad.of (hbyte (address.toNat / 16777216) (by omega))
    (hbyte (address.toNat / 65536 % 256) (by omega))
    (hbyte (address.toNat / 256 % 256) (by omega)) (hbyte (address.toNat % 256) (by omega))
  have hsum : UInt32.ofNat (address.toNat / 16777216 * 2 ^ 24 +
      address.toNat / 65536 % 256 * 2 ^ 16 + address.toNat / 256 % 256 * 2 ^ 8 +
        address.toNat % 256) = address := by
    rw [← UInt32.toNat_inj, UInt32.toNat_ofNat']
    omega
  rw [hsum] at hquad
  rwa [toList_dotted]

private theorem literal_text (p : Prefix) : Literal p.text.toList p.network p.length := by
  have hle := p.length_le
  rw [toList_text]
  exact .sized (dottedQuad_dotted p.network) (paddedNumeral_toDigits (by decide) (by omega)) hle

private theorem denotes_text (p : Prefix) : Denotes p.text.toList p :=
  ⟨p.network, literal_text p, (toNat_network p).symm⟩

private theorem mem_text (p : Prefix) : ∀ c ∈ p.text.toList, c.isDigit = true ∨ c = '.' ∨ c = '/' :=
  (literal_text p).mem_chars

theorem colon_not_mem_text (p : Prefix) : ':' ∉ p.text.toList := by
  intro hmem
  rcases mem_text p ':' hmem with h | h | h
  · cases h
  · cases h
  · cases h

private theorem text_ne_nil (p : Prefix) : p.text.toList ≠ [] := by
  rw [toList_text]
  simp

private theorem not_isBlank_text (p : Prefix) : ∀ c ∈ p.text.toList, isBlank c = false := by
  intro c hc
  rcases mem_text p c hc with hdigit | rfl | rfl
  · exact not_isBlank_of_isDigit hdigit
  · decide
  · decide

end Printing

section Reading

private theorem parse_framed (p : Prefix) {before after : String}
    (hbefore : ∀ c ∈ before.toList, isBlank c = true)
    (hafter : ∀ c ∈ after.toList, isBlank c = true) :
    parse (before ++ (p.text ++ after)) = .ok p := by
  rw [parse_eq_ok_iff, String.toList_append, String.toList_append,
    trimChars_framed hbefore (not_isBlank_text p) (text_ne_nil p) hafter]
  exact denotes_text p

theorem parse_text (p : Prefix) : parse p.text = .ok p := by
  have hblank : ∀ c ∈ "".toList, isBlank c = true := by simp
  simpa using parse_framed p hblank hblank

private theorem text_injective : Function.Injective text := fun p q h =>
  Except.ok.inj ((parse_text p).symm.trans (h ▸ parse_text q))

private theorem parse_map_text {s t : String} (h : (parse s).map text = .ok t) :
    (parse t).map text = .ok t := by
  cases hparse : parse s with
  | error cause => rw [hparse] at h; cases h
  | ok p =>
    rw [hparse] at h
    obtain rfl := Except.ok.inj h
    rw [parse_text]
    rfl

end Reading

/-- What reading a text comes to, by the grammar. -/
structure ReadByGrammar (s : String) : Prop where
  accepted : (∃ p, parse s = .ok p) ↔ ∃ address len, Literal (trimChars s.toList) address len
  denoted : ∀ p, parse s = .ok p ↔ Denotes (trimChars s.toList) p
  refused : ∀ cause, parse s = .error cause → cause = .ofChars (trimChars s.toList) ∧
    (Refusal.invalid (.literal cause)).kind = .validation
  reprinted : ∀ t, (parse s).map text = .ok t → (parse t).map text = .ok t

/-- Reading accepts the literals and no other text, and undoes printing. -/
theorem parse_exact : (∀ s, ReadByGrammar s) ∧
    (∀ p before after, (∀ c ∈ before.toList, isBlank c = true) →
      (∀ c ∈ after.toList, isBlank c = true) → parse (before ++ (p.text ++ after)) = .ok p) ∧
    Function.Injective text := by
  refine ⟨fun s => ?_, fun p _ _ => parse_framed p, text_injective⟩
  exact {
    accepted := exists_parse_iff
    denoted := fun _ => parse_eq_ok_iff
    refused := fun _ h => ⟨eq_ofChars_of_parse h, rfl⟩
    reprinted := fun _ => parse_map_text }

theorem parse_exact_padded :
    Denotes (trimChars "10.01.002.255/9\n".toList) (ofAddress 0x0A000000 9 (by decide)) ∧
      parse ("\t" ++ ((host 0xFFFFFFFF).text ++ "\u3000")) = .ok (host 0xFFFFFFFF) :=
  ⟨((parse_exact.1 _).denoted _).mp (by rfl),
    parse_exact.2.1 _ _ _ (List.all_eq_true.mp (by rfl)) (List.all_eq_true.mp (by rfl))⟩

end AddressPlan.Prefix
