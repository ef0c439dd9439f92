import Mathlib.Data.List.Forall2
import AddressPlan.Text.Lowercase
/-!
# Capital sigmas in lower case

Letter by letter, a text has one lower-case form wherever it stands. In a longer text it can come
out differently: a capital sigma takes its final form where it ends a word, and where the words end
depends on what stands around.
-/
namespace AddressPlan.Text

def lowerAlone (c : Char) : List Char :=
  if c = 'İ' then ['i', '\u0307'] else [lowerChar c]

def SameLetters (xs ys : List Char) : Prop :=
  xs.flatMap lowerAlone = ys.flatMap lowerAlone

instance (xs ys : List Char) : Decidable (SameLetters xs ys) :=
  inferInstanceAs (Decidable (_ = _))

/-- A letter between the text before it, nearest character first, and the text after it would end
a word. -/
def endsWord (before after : List Char) : Bool :=
  casedNext before && !casedNext after

/-- For each small letter of a text that stands in a longer one: whether it is that of a capital
sigma at the end of a word. -/
def finals (before : List Char) : List Char → List Char → List Bool
  | [], _ => []
  | c :: cs, after =>
    (lowerAlone c).map (fun _ => c == 'Σ' && endsWord before (cs ++ after)) ++
      finals (c :: before) cs after

private def withFinal (letter : Char) (final : Bool) : Char :=
  if final then 'ς' else letter

def lowerWithin (before cs after : List Char) : List Char :=
  List.zipWith withFinal (cs.flatMap lowerAlone) (finals before cs after)

section Within

variable {before cs after : List Char}

private theorem lowerAlone_sigma : lowerAlone 'Σ' = ['σ'] := by
  decide +kernel

private theorem lowerWithin_cons (before : List Char) (c : Char) (cs after : List Char) :
    lowerWithin before (c :: cs) after =
      (lowerAlone c).map (withFinal · (c == 'Σ' && endsWord before (cs ++ after))) ++
        lowerWithin (c :: before) cs after := by
  have hlength : (lowerAlone c).length =
      ((lowerAlone c).map fun _ => c == 'Σ' && endsWord before (cs ++ after)).length := by
    rw [List.length_map]
  rw [lowerWithin, List.flatMap_cons, finals, List.zipWith_append hlength, List.zipWith_map_right,
    List.zipWith_self, lowerWithin]

private theorem lowerFrom_cons (before : List Char) (c : Char) (cs : List Char) :
    lowerFrom before (c :: cs) =
      (lowerAlone c).map (withFinal · (c == 'Σ' && endsWord before cs)) ++
        lowerFrom (c :: before) cs := by
  by_cases hsigma : c = 'Σ'
  · rw [hsigma, lowerAlone_sigma]
    simp [lowerFrom, lowerSigma, endsWord, withFinal]
  · by_cases hdotted : c = 'İ' <;> simp [lowerFrom, lowerAlone, withFinal, hsigma, hdotted]

/-- The lower-case form of a longer text, cut where the shorter one ends. -/
theorem lowerFrom_append (before cs after : List Char) :
    lowerFrom before (cs ++ after) =
      lowerWithin before cs after ++ lowerFrom (cs.reverse ++ before) after := by
  induction cs generalizing before with
  | nil => rfl
  | cons c cs ih =>
    rw [List.cons_append, lowerFrom_cons, ih, lowerWithin_cons, List.append_assoc,
      List.reverse_cons, List.append_assoc, List.singleton_append]

theorem lowerChars_eq (cs : List Char) : lowerChars cs = lowerWithin [] cs [] := by
  have hcut := lowerFrom_append [] cs []
  rw [List.append_nil] at hcut
  rw [lowerChars, hcut, lowerFrom, List.append_nil]

private theorem finals_forall₂ (before cs after : List Char) :
    List.Forall₂ (fun letter final => final = true → letter = 'σ')
      (cs.flatMap lowerAlone) (finals before cs after) := by
  induction cs generalizing before with
  | nil => exact .nil
  | cons c cs ih =>
    rw [List.flatMap_cons, finals]
    refine List.rel_append ?_ (ih (c :: before))
    rw [List.forall₂_map_right_iff, List.forall₂_same]
    intro letter hletter hfinal
    have hsigma : c = 'Σ' := by
      simpa using And.left (Bool.and_eq_true_iff.mp hfinal)
    rw [hsigma, lowerAlone_sigma] at hletter
    exact List.mem_singleton.mp hletter

private theorem zipWith_withFinal_inj {letters : List Char} {xs ys : List Bool}
    (hx : List.Forall₂ (fun letter final => final = true → letter = 'σ') letters xs)
    (hy : List.Forall₂ (fun letter final => final = true → letter = 'σ') letters ys) :
    List.zipWith withFinal letters xs = List.zipWith withFinal letters ys ↔ xs = ys := by
  induction hx generalizing ys with
  | nil =>
    cases hy
    simp
  | @cons letter x letters xs hfirst hrest ih =>
    cases hy with
    | @cons _ y _ ys hfirst' hrest' =>
      have hsame : withFinal letter x = withFinal letter y ↔ x = y := by
        cases x <;> cases y <;> simp_all [withFinal]
      simp only [List.zipWith_cons_cons, List.cons.injEq, hsame, ih hrest']

theorem lowerWithin_eq_iff {xs ys before' after' : List Char} (h : SameLetters xs ys) :
    lowerWithin before xs after = lowerWithin before' ys after' ↔
      finals before xs after = finals before' ys after' := by
  have hxs := finals_forall₂ before xs after
  rw [lowerWithin, lowerWithin, h]
  rw [h] at hxs
  exact zipWith_withFinal_inj hxs (finals_forall₂ before' ys after')

theorem finals_of_notMem (h : 'Σ' ∉ cs) (before after : List Char) :
    finals before cs after = (cs.flatMap lowerAlone).map fun _ => false := by
  induction cs generalizing before with
  | nil => rfl
  | cons c cs ih =>
    obtain ⟨hne, hrest⟩ := not_or.mp (List.mem_cons.not.mp h)
    have hother : (c == 'Σ') = false := beq_false_of_ne (Ne.symm hne)
    rw [finals, ih hrest, hother, List.flatMap_cons, List.map_append]
    rfl

private theorem casedNext_append (h : casedNext after = false) (cs : List Char) :
    casedNext (cs ++ after) = casedNext cs := by
  rw [casedNext, casedNext, List.dropWhile_append]
  cases cs.dropWhile isCaseIgnorable with
  | nil => exact h
  | cons c rest => rfl

theorem finals_of_apart (hbefore : casedNext before = false) (hafter : casedNext after = false)
    (cs : List Char) : finals before cs after = finals [] cs [] := by
  suffices hread : ∀ read, finals (read ++ before) cs after = finals read cs [] from hread []
  intro read
  induction cs generalizing read with
  | nil => rfl
  | cons c cs ih =>
    have hends : endsWord (read ++ before) (cs ++ after) = endsWord read (cs ++ []) := by
      rw [endsWord, casedNext_append hbefore, casedNext_append hafter, List.append_nil, endsWord]
    rw [finals, hends, ← List.cons_append, ih (c :: read), finals]

end Within

end AddressPlan.Text
