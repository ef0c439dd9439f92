/-!
# Cutting a text at a separator

A text with n separators has n + 1 pieces, some of them possibly empty. Cutting at the first
separator only gives a pair.
-/
namespace AddressPlan.Text

def pieces (separator : Char) : List Char → List (List Char)
  | [] => [[]]
  | c :: cs =>
    if c = separator then [] :: pieces separator cs
    else match pieces separator cs with
      | [] => [[c]]
      | p :: ps => (c :: p) :: ps

theorem pieces_eq_splitOn (separator : Char) (cs : List Char) :
    pieces separator cs = cs.splitOn separator := by
  induction cs with
  | nil => rfl
  | cons c cs ih =>
    rw [pieces, List.splitOn_cons_eq_if_modifyHead, ih]
    by_cases h : c = separator
    · simp [h]
    · cases hpieces : cs.splitOn separator with
      | nil => exact absurd hpieces (List.splitOn_ne_nil separator cs)
      | cons p ps => simp [h]

theorem intercalate_pieces (separator : Char) (cs : List Char) :
    [separator].intercalate (pieces separator cs) = cs := by
  rw [pieces_eq_splitOn, List.intercalate_splitOn]

/-- Cutting texts that have been joined with a separator gives them back, unless the separator
occurs in one of them. -/
theorem pieces_intercalate {separator : Char} {texts : List (List Char)}
    (h : ∀ text ∈ texts, separator ∉ text) (hne : texts ≠ []) :
    pieces separator ([separator].intercalate texts) = texts := by
  rw [pieces_eq_splitOn, List.splitOn_intercalate separator h hne]

theorem forall_mem_intercalate {P : Char → Prop} {separator : Char} {texts : List (List Char)}
    (hseparator : P separator) (h : ∀ text ∈ texts, ∀ c ∈ text, P c) :
    ∀ c ∈ [separator].intercalate texts, P c := by
  induction texts with
  | nil => simp
  | cons text texts ih =>
    have hrest := ih fun t ht => h t (List.mem_cons_of_mem _ ht)
    cases texts with
    | nil => simpa using h
    | cons next texts =>
      intro c hc
      rw [List.intercalate_cons_cons, List.mem_append, List.mem_append, List.mem_singleton] at hc
      rcases hc with (hc | rfl) | hc
      · exact h text List.mem_cons_self c hc
      · exact hseparator
      · exact hrest c hc

def cut (separator : Char) (cs : List Char) : List Char × List Char :=
  (cs.takeWhile (· != separator), (cs.dropWhile (· != separator)).drop 1)

theorem cut_append {separator : Char} {cs : List Char} (h : separator ∉ cs) (ds : List Char) :
    cut separator (cs ++ separator :: ds) = (cs, ds) := by
  have hall : ∀ c ∈ cs, (c != separator) = true := by
    intro c hc
    simpa using fun heq : c = separator => h (heq ▸ hc)
  rw [cut, List.takeWhile_append_of_pos hall, List.dropWhile_append_of_pos hall]
  simp

theorem cut_of_not_mem {separator : Char} {cs : List Char} (h : separator ∉ cs) :
    cut separator cs = (cs, []) := by
  have hall : ∀ c ∈ cs, (c != separator) = true := by
    intro c hc
    simpa using fun heq : c = separator => h (heq ▸ hc)
  rw [← List.append_nil cs, cut, List.takeWhile_append_of_pos hall,
    List.dropWhile_append_of_pos hall]
  simp

def occursIn (needle : List Char) : List Char → Bool
  | [] => needle.isEmpty
  | c :: cs => needle.isPrefixOf (c :: cs) || occursIn needle cs

theorem occursIn_iff {needle cs : List Char} :
    occursIn needle cs = true ↔ ∃ before after, cs = before ++ needle ++ after := by
  induction cs with
  | nil => simp [occursIn]
  | cons c cs ih =>
    simp only [occursIn, Bool.or_eq_true, List.isPrefixOf_iff_prefix, ih]
    constructor
    · rintro (⟨after, h⟩ | ⟨before, after, rfl⟩)
      · exact ⟨[], after, by simp [h]⟩
      · exact ⟨c :: before, after, by simp⟩
    · rintro ⟨before, after, h⟩
      cases before with
      | nil => exact .inl ⟨after, by simpa using h.symm⟩
      | cons b before =>
        simp only [List.cons_append, List.cons.injEq] at h
        exact .inr ⟨before, after, h.2⟩

end AddressPlan.Text
