import AddressPlan.Prefix.Literal
import AddressPlan.Proofs.Prefix.Blocks
import AddressPlan.Proofs.Results
import AddressPlan.Proofs.Text.Digits
/-!
# The grammar of prefix literals

A literal is a dotted quad of plain numerals, or a dotted quad whose numerals may start with zeros,
a slash and a length. The reader accepts exactly the literals, blanks around them apart.
-/
namespace AddressPlan.Prefix
open Text

/-- The digits of a number behind zeros, not more than `width` characters in all. -/
def PaddedNumeral (width : Nat) (cs : List Char) (n : Nat) : Prop :=
  cs.length ≤ width ∧ ∃ zeros, cs = List.replicate zeros '0' ++ Nat.toDigits 10 n

def PlainNumeral (cs : List Char) (n : Nat) : Prop :=
  cs = Nat.toDigits 10 n

/-- Four numerals below 256, joined by dots: the bytes of an address, the leading one first. -/
inductive DottedQuad (numeral : List Char → Nat → Prop) : List Char → UInt32 → Prop
  | of {as bs cs ds : List Char} {a b c d : Nat} (ha : numeral as a ∧ a < 256)
    (hb : numeral bs b ∧ b < 256) (hc : numeral cs c ∧ c < 256) (hd : numeral ds d ∧ d < 256) :
    DottedQuad numeral (['.'].intercalate [as, bs, cs, ds])
      (UInt32.ofNat (a * 2 ^ 24 + b * 2 ^ 16 + c * 2 ^ 8 + d))

inductive Literal : List Char → UInt32 → Nat → Prop
  | bare {cs : List Char} {address : UInt32} (h : DottedQuad PlainNumeral cs address) :
    Literal cs address 32
  | sized {cs ls : List Char} {address : UInt32} {len : Nat}
    (haddress : DottedQuad (PaddedNumeral 3) cs address) (hlen : PaddedNumeral 2 ls len)
    (hle : len ≤ 32) : Literal (cs ++ '/' :: ls) address len

section Numerals

variable {cs : List Char} {n : Nat}

private theorem paddedNumeral_iff {width : Nat} : PaddedNumeral width cs n ↔
    (∀ c ∈ cs, c.isDigit = true) ∧ cs ≠ [] ∧ cs.length ≤ width ∧ Nat.ofDigitChars 10 cs 0 = n := by
  constructor
  · rintro ⟨hwidth, zeros, rfl⟩
    refine ⟨fun c hc => ?_, by simp, hwidth, ?_⟩
    · rcases List.mem_append.mp hc with hzero | hdigit
      · rw [List.eq_of_mem_replicate hzero]
        decide
      · exact isDigit_toDigits n c hdigit
    · rw [Nat.ofDigitChars_append, Nat.ofDigitChars_replicate_zero, Nat.mul_zero,
        Nat.ofDigitChars_ten_toDigits]
  · rintro ⟨hdigits, hne, hwidth, rfl⟩
    exact ⟨hwidth, exists_replicate_zero hdigits hne⟩

theorem paddedNumeral_toDigits {width : Nat} (hpos : 0 < width) (h : n < 10 ^ width) :
    PaddedNumeral width (Nat.toDigits 10 n) n :=
  ⟨(Nat.length_toDigits_le_iff (by decide) hpos).mpr h, 0, rfl⟩

private theorem octet?_padded : octet? true cs = some n ↔ PaddedNumeral 3 cs n ∧ n < 256 := by
  rw [paddedNumeral_iff]
  simp only [octet?, Bool.true_or, Bool.and_true, Option.ite_none_right_eq_some, Bool.and_eq_true,
    List.all_eq_true, decide_eq_true_eq, Nat.one_le_iff_ne_zero, ne_eq, List.length_eq_zero_iff,
    Option.some.injEq]
  constructor
  · rintro ⟨⟨⟨⟨hdigits, hne⟩, hwidth⟩, hlt⟩, rfl⟩
    exact ⟨⟨hdigits, hne, hwidth, rfl⟩, hlt⟩
  · rintro ⟨⟨hdigits, hne, hwidth, rfl⟩, hlt⟩
    exact ⟨⟨⟨⟨hdigits, hne⟩, hwidth⟩, hlt⟩, rfl⟩

private theorem octet?_false : octet? false cs = some n ↔
    octet? true cs = some n ∧ (cs.length = 1 ∨ cs.head? ≠ some '0') := by
  simp only [octet?, Bool.true_or, Bool.and_true, Bool.false_or, Option.ite_none_right_eq_some,
    Bool.and_eq_true, Bool.or_eq_true, beq_iff_eq, bne_iff_ne]
  exact and_right_comm

private theorem octet?_plain : octet? false cs = some n ↔ PlainNumeral cs n ∧ n < 256 := by
  rw [octet?_false, octet?_padded]
  constructor
  · rintro ⟨⟨⟨-, zeros, rfl⟩, hlt⟩, hfirst⟩
    refine ⟨?_, hlt⟩
    cases zeros with
    | zero => rfl
    | succ zeros =>
      have hpos : 0 < (Nat.toDigits 10 n).length := Nat.length_toDigits_pos
      rcases hfirst with hlength | hhead
      · rw [List.length_append, List.length_replicate] at hlength
        omega
      · exact absurd rfl hhead
  · rintro ⟨rfl, hlt⟩
    refine ⟨⟨paddedNumeral_toDigits (by decide) (by omega), hlt⟩, ?_⟩
    obtain ⟨c, cs, hdigits, -, hzero⟩ := toDigits_eq_cons n
    rw [hdigits]
    by_cases hc : c = '0'
    · exact .inl (by rw [hzero hc]; rfl)
    · exact .inr (by simpa using hc)

private theorem length?_eq_some_iff {len : { n : Nat // n ≤ 32 }} :
    length? cs = some len ↔ PaddedNumeral 2 cs len.1 := by
  rw [paddedNumeral_iff]
  simp only [length?, Option.dite_none_right_eq_some, Option.ite_none_right_eq_some,
    Bool.and_eq_true, List.all_eq_true, decide_eq_true_eq, Nat.one_le_iff_ne_zero, ne_eq,
    List.length_eq_zero_iff, Option.some.injEq, Subtype.ext_iff]
  constructor
  · rintro ⟨-, ⟨⟨hdigits, hne⟩, hwidth⟩, hvalue⟩
    exact ⟨hdigits, hne, hwidth, hvalue⟩
  · rintro ⟨hdigits, hne, hwidth, hvalue⟩
    exact ⟨hvalue ▸ len.2, ⟨⟨hdigits, hne⟩, hwidth⟩, hvalue⟩

private theorem isDigit_of_padded {width : Nat} (h : PaddedNumeral width cs n) :
    ∀ c ∈ cs, c.isDigit = true :=
  (paddedNumeral_iff.mp h).1

private theorem isDigit_of_plain (h : PlainNumeral cs n) : ∀ c ∈ cs, c.isDigit = true :=
  h ▸ isDigit_toDigits n

end Numerals

section Addresses

variable {numeral : List Char → Nat → Prop} {leadingZeros : Bool} {cs : List Char}
  {address : UInt32}

private theorem address?_eq_some_iff
    (hread : ∀ text n, octet? leadingZeros text = some n ↔ numeral text n ∧ n < 256)
    (hdigits : ∀ text n, numeral text n → ∀ c ∈ text, c.isDigit = true) :
    address? leadingZeros cs = some address ↔ DottedQuad numeral cs address := by
  constructor
  · intro h
    unfold address? at h
    split at h
    · next a b c d hoctets =>
      simp only [mapM_eq_some_cons_iff, mapM_eq_some_nil_iff, hread] at hoctets
      obtain ⟨as, _, hpieces, ha, bs, _, rfl, hb, cs', _, rfl, hc, ds, _, rfl, hd, rfl⟩ := hoctets
      have hcs := intercalate_pieces '.' cs
      rw [hpieces] at hcs
      rw [← hcs, ← Option.some.inj h]
      exact .of ha hb hc hd
    · cases h
  · rintro ⟨ha, hb, hc, hd⟩
    rename_i as bs cs ds a b c d
    have hdot : ∀ text n, numeral text n → '.' ∉ text := fun text n htext hmem => by
      cases hdigits text n htext '.' hmem
    have hpieces : pieces '.' (['.'].intercalate [as, bs, cs, ds]) = [as, bs, cs, ds] := by
      refine pieces_intercalate ?_ (by simp)
      simp only [List.mem_cons, List.not_mem_nil, or_false, forall_eq_or_imp, forall_eq]
      exact ⟨hdot as a ha.1, hdot bs b hb.1, hdot cs c hc.1, hdot ds d hd.1⟩
    have hoctets : [as, bs, cs, ds].mapM (octet? leadingZeros) = some [a, b, c, d] := by
      simp only [mapM_eq_some_cons_iff, mapM_eq_some_nil_iff, hread]
      exact ⟨as, _, rfl, ha, bs, _, rfl, hb, cs, _, rfl, hc, ds, _, rfl, hd, rfl⟩
    rw [address?, hpieces, hoctets]
    rfl

private theorem DottedQuad.mem_chars
    (hdigits : ∀ text n, numeral text n → ∀ c ∈ text, c.isDigit = true)
    (h : DottedQuad numeral cs address) : ∀ c ∈ cs, c.isDigit = true ∨ c = '.' := by
  obtain ⟨ha, hb, hc, hd⟩ := h
  refine forall_mem_intercalate (.inr rfl) ?_
  simp only [List.mem_cons, List.not_mem_nil, or_false, forall_eq_or_imp, forall_eq]
  exact ⟨fun c hmem => .inl (hdigits _ _ ha.1 c hmem), fun c hmem => .inl (hdigits _ _ hb.1 c hmem),
    fun c hmem => .inl (hdigits _ _ hc.1 c hmem), fun c hmem => .inl (hdigits _ _ hd.1 c hmem)⟩

private theorem DottedQuad.slash_not_mem
    (hdigits : ∀ text n, numeral text n → ∀ c ∈ text, c.isDigit = true)
    (h : DottedQuad numeral cs address) : '/' ∉ cs := by
  intro hmem
  rcases h.mem_chars hdigits '/' hmem with hdigit | hdot
  · cases hdigit
  · cases hdot

end Addresses

section Literals

variable {cs : List Char} {address : UInt32} {p : Prefix}

private theorem address?_plain :
    address? false cs = some address ↔ DottedQuad PlainNumeral cs address :=
  address?_eq_some_iff (fun _ _ => octet?_plain) fun _ _ => isDigit_of_plain

private theorem address?_padded :
    address? true cs = some address ↔ DottedQuad (PaddedNumeral 3) cs address :=
  address?_eq_some_iff (fun _ _ => octet?_padded) fun _ _ => isDigit_of_padded

/-- The text stands for the prefix: it is a literal of that length, and the block starts at its
address with the host bits cleared, at the last multiple of the block size up to there. -/
def Denotes (cs : List Char) (p : Prefix) : Prop :=
  ∃ address, Literal cs address p.length ∧
    p.network.toNat = address.toNat / blockSize p.length * blockSize p.length

private theorem denotes_iff : Denotes cs p ↔
    ∃ address len, ∃ h : len ≤ 32, Literal cs address len ∧ p = ofAddress address len h := by
  constructor
  · rintro ⟨address, hliteral, hnetwork⟩
    refine ⟨address, p.length, p.length_le, hliteral, eq_of_toNat ?_ rfl⟩
    rw [hnetwork]
    exact (toNat_and_netmask address p.length_le).symm
  · rintro ⟨address, len, h, hliteral, rfl⟩
    exact ⟨address, hliteral, toNat_and_netmask address h⟩

theorem Literal.mem_chars {len : Nat} (h : Literal cs address len) :
    ∀ c ∈ cs, c.isDigit = true ∨ c = '.' ∨ c = '/' := by
  intro c hc
  cases h with
  | bare hquad => exact (hquad.mem_chars (fun _ _ => isDigit_of_plain) c hc).imp id .inl
  | sized haddress hlen =>
    rcases List.mem_append.mp hc with hc | hc
    · exact (haddress.mem_chars (fun _ _ => isDigit_of_padded) c hc).imp id .inl
    · rcases List.mem_cons.mp hc with hslash | hc
      · exact .inr (.inr hslash)
      · exact .inl (isDigit_of_padded hlen c hc)

private theorem intercalate_slash (cs ls : List Char) :
    ['/'].intercalate [cs, ls] = cs ++ '/' :: ls := by
  simp

private theorem cidr?_eq_some_iff : cidr? cs = some p ↔ '/' ∈ cs ∧ Denotes cs p := by
  constructor
  · intro h
    unfold cidr? at h
    split at h
    · next as ls hpieces =>
      simp only [Option.bind_eq_bind, Option.bind_eq_some_iff] at h
      obtain ⟨address, haddress, len, hlen, hp⟩ := h
      have hcs := intercalate_pieces '/' cs
      rw [hpieces, intercalate_slash] at hcs
      subst hcs
      exact ⟨by simp, denotes_iff.mpr ⟨address, len.1, len.2,
        .sized (address?_padded.mp haddress) (length?_eq_some_iff.mp hlen) len.2,
        (Option.some.inj hp).symm⟩⟩
    · cases h
  · rintro ⟨hslash, hdenotes⟩
    obtain ⟨address, len, hle, hliteral, rfl⟩ := denotes_iff.mp hdenotes
    cases hliteral with
    | bare h => exact absurd hslash (h.slash_not_mem fun _ _ => isDigit_of_plain)
    | @sized as ls _ _ haddress hlen _ =>
      have hpieces : pieces '/' (as ++ '/' :: ls) = [as, ls] := by
        rw [← intercalate_slash]
        refine pieces_intercalate ?_ (by simp)
        simp only [List.mem_cons, List.not_mem_nil, or_false, forall_eq_or_imp, forall_eq]
        exact ⟨haddress.slash_not_mem fun _ _ => isDigit_of_padded, fun hmem => by
          cases isDigit_of_padded hlen '/' hmem⟩
      have hlength : length? ls = some ⟨len, hle⟩ := length?_eq_some_iff.mpr hlen
      rw [cidr?, hpieces]
      simp only [address?_padded.mpr haddress, hlength, Option.bind_eq_bind, Option.bind_some]
      rfl

private theorem bare_iff : (∃ address, address? false cs = some address ∧ p = host address) ↔
    '/' ∉ cs ∧ Denotes cs p := by
  constructor
  · rintro ⟨address, haddress, rfl⟩
    have hquad := address?_plain.mp haddress
    exact ⟨hquad.slash_not_mem fun _ _ => isDigit_of_plain,
      denotes_iff.mpr ⟨address, 32, Nat.le_refl 32, .bare hquad, rfl⟩⟩
  · rintro ⟨hslash, hdenotes⟩
    obtain ⟨address, len, hle, hliteral, rfl⟩ := denotes_iff.mp hdenotes
    cases hliteral with
    | bare h => exact ⟨address, address?_plain.mpr h, rfl⟩
    | sized => exact absurd (by simp) hslash

def LiteralError.ofChars (cs : List Char) : LiteralError :=
  if cs = [] then .empty
  else if '/' ∈ cs then .badCidr (String.ofList cs)
  else .badAddress (String.ofList cs)

/-- The reader of trimmed text: which form it is read in is up to the slash. -/
private def literal? (cs : List Char) : Option Prefix :=
  if '/' ∈ cs then cidr? cs else (address? false cs).map host

private theorem literal?_eq_some_iff : literal? cs = some p ↔ Denotes cs p := by
  unfold literal?
  split
  · next hslash => exact cidr?_eq_some_iff.trans (and_iff_right hslash)
  · next hslash =>
    simp only [Option.map_eq_some_iff, eq_comm (b := p)]
    exact bare_iff.trans (and_iff_right hslash)

private theorem parse_eq (s : String) : parse s =
    match literal? (trimChars s.toList) with
    | some p => .ok p
    | none => .error (.ofChars (trimChars s.toList)) := by
  unfold parse
  dsimp only
  generalize trimChars s.toList = cs
  by_cases hempty : cs = []
  · subst hempty
    rfl
  · simp only [literal?, LiteralError.ofChars, List.isEmpty_iff, hempty, if_false,
      List.contains_iff_mem]
    split
    · cases cidr? cs <;> rfl
    · cases address? false cs <;> rfl

theorem parse_eq_ok_iff {s : String} : parse s = .ok p ↔ Denotes (trimChars s.toList) p := by
  rw [parse_eq, ← literal?_eq_some_iff]
  cases literal? (trimChars s.toList) <;> simp

theorem eq_ofChars_of_parse {s : String} {cause : LiteralError} (h : parse s = .error cause) :
    cause = .ofChars (trimChars s.toList) := by
  rw [parse_eq] at h
  cases hread : literal? (trimChars s.toList) with
  | some p => rw [hread] at h; cases h
  | none =>
    rw [hread] at h
    exact (Except.error.inj h).symm

private theorem Literal.length_le {len : Nat} (h : Literal cs address len) : len ≤ 32 := by
  cases h with
  | bare => exact Nat.le_refl 32
  | sized _ _ hle => exact hle

theorem exists_parse_iff {s : String} : (∃ p, parse s = .ok p) ↔
    ∃ address len, Literal (trimChars s.toList) address len := by
  simp only [parse_eq_ok_iff]
  constructor
  · rintro ⟨p, address, hliteral, -⟩
    exact ⟨address, p.length, hliteral⟩
  · rintro ⟨address, len, hliteral⟩
    exact ⟨_, denotes_iff.mpr ⟨address, len, hliteral.length_le, hliteral, rfl⟩⟩

end Literals

end AddressPlan.Prefix
