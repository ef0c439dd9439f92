import AddressPlan.Proofs.Plan.Steps
import AddressPlan.Proofs.Text.Trim
/-!
# Well-formed plans

Validation walks through a plan once, with the refs that it has met, the places of the parents and
an index of the blocks. What it accepts is said here of the entries alone, without that walk.
-/
namespace AddressPlan.Plan
open Relation (ReflTransGen)

variable {limits : Limits} {entries : List Entry} {steps : List Step} {r : Request}

def Entry.Contains (limits : Limits) (above e : Entry) : Prop :=
  ∃ p q, validCidr limits above.cidr = .ok p ∧ validCidr limits e.cidr = .ok q ∧
    p.contains q = true

def Entry.Overlaps (limits : Limits) (e other : Entry) : Prop :=
  ∃ p q, validCidr limits e.cidr = .ok p ∧ validCidr limits other.cidr = .ok q ∧
    p.overlaps q = true

def NamesParent (entries : List Entry) (i j : Nat) : Prop :=
  ∃ (e above : Entry) (text : String), entries[i]? = some e ∧ entries[j]? = some above ∧
    e.parentRef = some text ∧ Text.trim text ≠ "" ∧ Text.trim above.ref = Text.trim text

/-- A plan that can be accepted: refs are distinct, names and blocks are valid, every parent that is
named stands before its child and contains it, and entries overlap only along the named parents. -/
structure Request.WellFormed (limits : Limits) (r : Request) : Prop where
  nonempty : r.entries ≠ []
  status : ∀ text, r.status = some text →
    Text.trim text = "" ∨ ∃ status : PoolStatus, plainLabel text = status.name
  ref_ne : ∀ e ∈ r.entries, Text.trim e.ref ≠ ""
  refs : (r.entries.map fun e => Text.trim e.ref).Nodup
  names : ∀ e ∈ r.entries, ∃ name, validName limits e.name = .ok name
  blocks : ∀ e ∈ r.entries, ∃ cidr, validCidr limits e.cidr = .ok cidr
  parents : ∀ (i : Nat) (e : Entry) (text : String), r.entries[i]? = some e →
    e.parentRef = some text → Text.trim text ≠ "" →
      ∃ (j : Nat) (above : Entry), j < i ∧ r.entries[j]? = some above ∧
        Text.trim above.ref = Text.trim text ∧ above.Contains limits e
  overlaps : ∀ (i j : Nat) (e other : Entry), r.entries[i]? = some e →
    r.entries[j]? = some other → j < i → e.Overlaps limits other →
      ReflTransGen (NamesParent r.entries) i j

private theorem Entry.parent_eq_some_iff {e : Entry} {ref : String} : e.parent = some ref ↔
    ∃ text, e.parentRef = some text ∧ ref = Text.trim text ∧ ref ≠ "" := by
  simp only [Entry.parent, Option.bind_eq_some_iff, Text.nonBlank?_eq_some_iff]

section Places

variable {α β : Type} {R : α → β → Prop} {xs : List α} {ys : List β} {i : Nat}

private theorem exists_of_forall₂_left {x : α} (h : List.Forall₂ R xs ys) (hx : xs[i]? = some x) :
    ∃ y, ys[i]? = some y ∧ R x y := by
  induction h generalizing i with
  | nil => simp at hx
  | @cons x' y' xs ys hhead _ ih =>
    cases i with
    | zero =>
      obtain rfl : x' = x := by simpa using hx
      exact ⟨y', rfl, hhead⟩
    | succ i => exact ih (by simpa using hx)

theorem exists_of_forall₂_right {y : β} (h : List.Forall₂ R xs ys) (hy : ys[i]? = some y) :
    ∃ x, xs[i]? = some x ∧ R x y :=
  exists_of_forall₂_left (R := flip R) h.flip hy

end Places

private theorem Ordered.declaresStep_iff (h : Ordered steps)
    (hstands : List.Forall₂ (fun e step => step.Stands limits e) entries steps) {i j : Nat} :
    DeclaresStep steps i j ↔ NamesParent entries i j := by
  constructor
  · intro hdeclares
    obtain ⟨step, hstep, hparent⟩ := Option.bind_eq_some_iff.mp hdeclares
    cases hnamed : step.parentRef with
    | none => cases hparent.symm.trans (h.parent_eq_none hstep hnamed)
    | some ref =>
      obtain ⟨k, above, hk, -, habove, href, -⟩ := h.exists_above hstep hnamed
      obtain rfl := Option.some.inj (hparent.symm.trans hk)
      obtain ⟨e, he, hstep⟩ := exists_of_forall₂_right hstands hstep
      obtain ⟨other, hother, habove⟩ := exists_of_forall₂_right hstands habove
      rw [hstep.parentRef] at hnamed
      obtain ⟨text, htext, rfl, hne⟩ := Entry.parent_eq_some_iff.mp hnamed
      exact ⟨e, other, text, he, hother, htext, hne, by rw [← habove.ref, href]⟩
  · rintro ⟨e, other, text, he, hother, htext, hne, href⟩
    obtain ⟨step, hstep, hstand⟩ := exists_of_forall₂_left hstands he
    obtain ⟨above, habove, hstand'⟩ := exists_of_forall₂_left hstands hother
    have hnamed : step.parentRef = some (Text.trim text) := by
      rw [hstand.parentRef]
      exact Entry.parent_eq_some_iff.mpr ⟨text, htext, rfl, hne⟩
    obtain ⟨k, above', hk, -, habove', href', -⟩ := h.exists_above hstep hnamed
    have hsame : above'.ref = above.ref := by rw [href', hstand'.ref, href]
    obtain rfl := h.ref_injective habove' habove hsame
    exact Option.bind_eq_some_iff.mpr ⟨step, hstep, hk⟩

private theorem Request.Valid.wellFormed (h : r.Valid limits steps) : r.WellFormed limits := by
  have hat : ∀ e ∈ r.entries, ∃ step : Step, step.Stands limits e := by
    intro e he
    obtain ⟨i, hi⟩ := List.mem_iff_getElem?.mp he
    obtain ⟨step, -, hstep⟩ := exists_of_forall₂_left h.stands hi
    exact ⟨step, hstep⟩
  constructor
  case nonempty => exact h.nonempty
  case status => exact exists_readGiven_status_iff.mp h.status
  case ref_ne =>
    intro e he
    obtain ⟨step, hstep⟩ := hat e he
    rw [← hstep.ref]
    exact hstep.ref_ne
  case refs =>
    refine List.pairwise_map.mpr (List.pairwise_iff_getElem.mpr fun i j hi hj hij heq => ?_)
    obtain ⟨p, hp, hstand⟩ := exists_of_forall₂_left h.stands (List.getElem?_eq_getElem hi)
    obtain ⟨q, hq, hstand'⟩ := exists_of_forall₂_left h.stands (List.getElem?_eq_getElem hj)
    have href : p.ref = q.ref := by rw [hstand.ref, hstand'.ref, heq]
    exact absurd (h.ordered.ref_injective hp hq href) (Nat.ne_of_lt hij)
  case names =>
    intro e he
    obtain ⟨step, hstep⟩ := hat e he
    exact ⟨step.name, hstep.name⟩
  case blocks =>
    intro e he
    obtain ⟨step, hstep⟩ := hat e he
    exact ⟨step.cidr, hstep.cidr⟩
  case parents =>
    intro i e text he htext hne
    obtain ⟨step, hstep, hstand⟩ := exists_of_forall₂_left h.stands he
    have hnamed : step.parentRef = some (Text.trim text) := by
      rw [hstand.parentRef]
      exact Entry.parent_eq_some_iff.mpr ⟨text, htext, rfl, hne⟩
    obtain ⟨j, above, -, hji, habove, href, hcontains⟩ := h.ordered.exists_above hstep hnamed
    obtain ⟨other, hother, hstand'⟩ := exists_of_forall₂_right h.stands habove
    exact ⟨j, other, hji, hother, by rw [← hstand'.ref, href],
      above.cidr, step.cidr, hstand'.cidr, hstand.cidr, hcontains⟩
  case overlaps =>
    rintro i j e other he hother hji ⟨p, q, hp, hq, hover⟩
    obtain ⟨step, hstep, hstand⟩ := exists_of_forall₂_left h.stands he
    obtain ⟨step', hstep', hstand'⟩ := exists_of_forall₂_left h.stands hother
    obtain rfl := Except.ok.inj (hstand.cidr.symm.trans hp)
    obtain rfl := Except.ok.inj (hstand'.cidr.symm.trans hq)
    have hchain := h.overlaps i j step step' hstep hstep' hji hover
    exact ReflTransGen.mono (fun _ _ => (h.ordered.declaresStep_iff h.stands).mp) _ _ hchain

theorem Request.WellFormed.exists_step (h : r.WellFormed limits) {before rest : List Entry}
    {e : Entry} (hentries : before ++ e :: rest = r.entries)
    (hstands : List.Forall₂ (fun e step => step.Stands limits e) before steps) :
    ∃ step : Step, step.Stands limits e ∧ step.Follows steps := by
  have hmem : e ∈ r.entries := by simp [← hentries]
  have he : r.entries[before.length]? = some e := by simp [← hentries]
  obtain ⟨name, hname⟩ := h.names e hmem
  obtain ⟨cidr, hcidr⟩ := h.blocks e hmem
  have hfresh : ∀ earlier ∈ steps, earlier.ref ≠ Text.trim e.ref := by
    intro earlier hearlier href
    obtain ⟨k, hk⟩ := List.mem_iff_getElem?.mp hearlier
    obtain ⟨other, hother, hstand⟩ := exists_of_forall₂_right hstands hk
    have hnodup := h.refs
    rw [← hentries, List.map_append, List.map_cons] at hnodup
    refine (List.nodup_append.mp hnodup).2.2 (Text.trim other.ref)
      (List.mem_map_of_mem (List.mem_of_getElem? hother)) (Text.trim e.ref) List.mem_cons_self ?_
    rw [← hstand.ref, href]
  cases hparent : e.parent with
  | none =>
    refine ⟨⟨e, Text.trim e.ref, name, cidr, none, none⟩,
      ⟨rfl, rfl, h.ref_ne e hmem, hname, hcidr, hparent.symm⟩, hfresh, rfl⟩
  | some ref =>
    obtain ⟨text, htext, rfl, hne⟩ := Entry.parent_eq_some_iff.mp hparent
    obtain ⟨j, above, hj, habove, href, p, q, hp, hq, hcontains⟩ :=
      h.parents before.length e text he htext hne
    have hbefore : before[j]? = some above := by
      rw [← hentries, List.getElem?_append_left hj] at habove
      exact habove
    obtain ⟨step, hstep, hstand⟩ := exists_of_forall₂_left hstands hbefore
    obtain rfl := Except.ok.inj (hstand.cidr.symm.trans hp)
    obtain rfl := Except.ok.inj (hcidr.symm.trans hq)
    exact ⟨⟨e, Text.trim e.ref, name, cidr, some (Text.trim text), some j⟩,
      ⟨rfl, rfl, h.ref_ne e hmem, hname, hcidr, hparent.symm⟩, hfresh,
      j, step, rfl, hstep, by rw [hstand.ref, href], hcontains⟩

theorem Request.WellFormed.exists_valid (h : r.WellFormed limits) :
    ∃ steps, r.Valid limits steps := by
  have hsteps : ∀ before rest, before ++ rest = r.entries → ∃ steps : List Step,
      List.Forall₂ (fun e step => step.Stands limits e) before steps ∧ Ordered steps := by
    intro before
    induction before using List.reverseRecOn with
    | nil => exact fun _ _ => ⟨[], .nil, fun i step hi => by simp at hi⟩
    | append_singleton before e ih =>
      intro rest hentries
      rw [List.append_assoc, List.singleton_append] at hentries
      obtain ⟨steps, hstands, hordered⟩ := ih _ hentries
      obtain ⟨step, hstep, hfollows⟩ := h.exists_step hentries hstands
      exact ⟨steps ++ [step], List.rel_append hstands (.cons hstep .nil), hordered.concat hfollows⟩
  obtain ⟨steps, hstands, hordered⟩ := hsteps r.entries [] (List.append_nil _)
  refine ⟨steps, h.nonempty, exists_readGiven_status_iff.mpr h.status, hstands, hordered, ?_⟩
  intro i j p q hp hq hji hover
  obtain ⟨e, he, hstand⟩ := exists_of_forall₂_right hstands hp
  obtain ⟨other, hother, hstand'⟩ := exists_of_forall₂_right hstands hq
  have hchain := h.overlaps i j e other he hother hji
    ⟨p.cidr, q.cidr, hstand.cidr, hstand'.cidr, hover⟩
  exact ReflTransGen.mono (fun _ _ => (hordered.declaresStep_iff hstands).mpr) _ _ hchain

/-- Validation accepts exactly the well-formed plans, and its steps stand for the entries of the
plan in their order. -/
theorem Request.accepted_iff_wellFormed (limits : Limits) (r : Request) :
    ((∃ steps, r.steps limits = .ok steps) ↔ r.WellFormed limits) ∧
    ∀ steps, r.steps limits = .ok steps →
      List.Forall₂ (fun e step => step.Stands limits e) r.entries steps := by
  simp only [steps_eq_ok_iff]
  exact ⟨⟨fun ⟨_, h⟩ => h.wellFormed, fun h => h.exists_valid⟩, fun _ h => h.stands⟩

end AddressPlan.Plan
