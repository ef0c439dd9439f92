import AddressPlan.Proofs.Prefix.Index
import AddressPlan.Proofs.Results
import AddressPlan.Plan.Steps
import Mathlib.Logic.Relation
/-!
# Steps of a valid plan

A request that passes validation has one step for each entry, in order. Each step carries the
checked fields of its entry, its ref is its own, its parent stands before it and contains it, and
steps overlap only along the lineage of the later one.
-/
namespace AddressPlan

namespace Plan

/-- A step carries the checked fields of an entry. -/
structure Step.Stands (limits : Limits) (e : Entry) (step : Step) : Prop where
  entry : step.entry = e
  ref : step.ref = Text.trim e.ref
  ref_ne : step.ref ≠ ""
  name : validName limits e.name = .ok step.name
  cidr : validCidr limits e.cidr = .ok step.cidr
  parentRef : step.parentRef = e.parent

/-- The parent of a step is the one of the steps `done` that has its parent's ref, and contains
the step. -/
def Step.Under (done : List Step) (step : Step) : Prop :=
  match step.parentRef with
  | none => step.parent = none
  | some ref => ∃ i parent, step.parent = some i ∧ done[i]? = some parent ∧ parent.ref = ref ∧
      parent.cidr.contains step.cidr = true

/-- A step has a ref of its own and stands under the steps before it. -/
structure Step.Follows (done : List Step) (step : Step) : Prop where
  fresh : ∀ earlier ∈ done, earlier.ref ≠ step.ref
  under : step.Under done

variable {limits : Limits} {done steps : List Step} {e : Entry} {step : Step}

def Ordered (steps : List Step) : Prop :=
  ∀ (i : Nat) (step : Step), steps[i]? = some step → step.Follows (steps.take i)

theorem Ordered.concat (h : Ordered done) (hstep : step.Follows done) :
    Ordered (done ++ [step]) := by
  intro i s hi
  rcases Nat.lt_trichotomy i done.length with hlt | rfl | hgt
  · rw [List.getElem?_append_left hlt] at hi
    rw [List.take_append_of_le_length (Nat.le_of_lt hlt)]
    exact h i s hi
  · obtain rfl : step = s := by simpa using hi
    simpa using hstep
  · rw [List.getElem?_eq_none (by rw [List.length_append, List.length_singleton]; omega)] at hi
    cases hi

theorem Ordered.ref_injective (h : Ordered steps) {i j : Nat} {p q : Step}
    (hp : steps[i]? = some p) (hq : steps[j]? = some q) (href : p.ref = q.ref) : i = j := by
  have key : ∀ {i j : Nat} {p q : Step}, steps[i]? = some p → steps[j]? = some q → i < j →
      p.ref ≠ q.ref := by
    intro i j p q hp hq hij
    refine (h j q hq).fresh p (List.mem_of_getElem? (i := i) ?_)
    rw [List.getElem?_take, if_pos hij, hp]
  rcases Nat.lt_trichotomy i j with hij | heq | hji
  · exact absurd href (key hp hq hij)
  · exact heq
  · exact absurd href.symm (key hq hp hji)

private theorem stepOf?_eq_none_iff {ref : String} :
    stepOf? done ref = none ↔ ∀ earlier ∈ done, earlier.ref ≠ ref := by
  simp only [stepOf?, List.find?_eq_none, Prod.forall, List.mem_zipIdx_iff_getElem?,
    decide_eq_true_eq]
  constructor
  · intro h earlier hmem
    obtain ⟨i, hi⟩ := List.mem_iff_getElem?.mp hmem
    exact h earlier i hi
  · exact fun h earlier i hi => h earlier (List.mem_of_getElem? hi)

private theorem getElem?_of_stepOf? {ref : String} {i : Nat}
    (h : stepOf? done ref = some (step, i)) :
    done[i]? = some step ∧ step.ref = ref := by
  have hmem := List.mem_of_find?_eq_some h
  exact ⟨List.mem_zipIdx_iff_getElem?.mp hmem, by simpa using List.find?_some h⟩

private theorem Ordered.stepOf?_eq_some (h : Ordered done) {i : Nat} (hi : done[i]? = some step) :
    stepOf? done step.ref = some (step, i) := by
  cases hfind : stepOf? done step.ref with
  | none =>
    exact absurd rfl (stepOf?_eq_none_iff.mp hfind step (List.mem_of_getElem? hi))
  | some found =>
    obtain ⟨other, j⟩ := found
    obtain ⟨hj, href⟩ := getElem?_of_stepOf? hfind
    obtain rfl := h.ref_injective hj hi href
    obtain rfl := Option.some.inj (hj.symm.trans hi)
    rfl

private theorem under_of_parentOf {label : EntryLabel}
    (h : parentOf done label step.cidr step.parentRef = .ok step.parent) : step.Under done := by
  unfold Step.Under
  cases hparent : step.parentRef with
  | none =>
    rw [hparent] at h
    exact (Except.ok.inj h).symm
  | some ref =>
    rw [hparent, parentOf] at h
    cases hfind : stepOf? done ref with
    | none =>
      rw [hfind] at h
      cases h
    | some found =>
      obtain ⟨parent, i⟩ := found
      obtain ⟨hi, href⟩ := getElem?_of_stepOf? hfind
      rw [hfind] at h
      by_cases hcontains : parent.cidr.contains step.cidr = true
      · simp only [validChild, hcontains, if_true] at h
        exact ⟨i, parent, (Except.ok.inj h).symm, hi, href, hcontains⟩
      · simp only [validChild, hcontains] at h
        cases h

private theorem Ordered.parentOf_of_under (h : Ordered done) (label : EntryLabel)
    (hunder : step.Under done) :
    parentOf done label step.cidr step.parentRef = .ok step.parent := by
  unfold Step.Under at hunder
  cases hparent : step.parentRef with
  | none =>
    rw [hparent] at hunder
    rw [hunder]
    rfl
  | some ref =>
    rw [hparent] at hunder
    obtain ⟨i, parent, hplace, hi, rfl, hcontains⟩ := hunder
    rw [parentOf, h.stepOf?_eq_some hi, hplace]
    simp only [validChild, hcontains, if_true]
    rfl

private theorem stands_follows_of_stepAfter (h : stepAfter limits done e = .ok step) :
    step.Stands limits e ∧ step.Follows done := by
  unfold stepAfter at h
  by_cases hblank : (Text.trim e.ref).isEmpty = true
  · simp only [hblank, if_true] at h
    cases h
  by_cases hdup : (stepOf? done (Text.trim e.ref)).isSome = true
  · simp only [hblank, hdup, if_true] at h
    cases h
  simp only [hblank, hdup] at h
  obtain ⟨planned, hplanned, h⟩ := bind_eq_ok.mp h
  obtain ⟨parent, hparent, h⟩ := bind_eq_ok.mp h
  obtain ⟨name, hname, hplanned⟩ := bind_eq_ok.mp (mapError_eq_ok.mp hplanned)
  obtain ⟨cidr, hcidr, hplanned⟩ := bind_eq_ok.mp hplanned
  cases hplanned
  cases h
  refine ⟨⟨rfl, rfl, ?_, mapError_eq_ok.mp hname, mapError_eq_ok.mp hcidr, rfl⟩, ?_,
    under_of_parentOf hparent⟩
  · simpa using hblank
  · exact stepOf?_eq_none_iff.mp (Option.not_isSome_iff_eq_none.mp hdup)

private theorem Ordered.stepAfter_eq_ok_iff (h : Ordered done) :
    stepAfter limits done e = .ok step ↔ step.Stands limits e ∧ step.Follows done := by
  refine ⟨stands_follows_of_stepAfter, ?_⟩
  rintro ⟨hstands, hfollows⟩
  have hblank : (Text.trim e.ref).isEmpty = false := by
    rw [← hstands.ref]
    simpa using hstands.ref_ne
  have hfresh : stepOf? done (Text.trim e.ref) = none := by
    rw [← hstands.ref]
    exact stepOf?_eq_none_iff.mpr hfollows.fresh
  have hplanned : e.planned limits done.length = .ok ⟨step.name, step.cidr⟩ := by
    rw [Entry.planned, hstands.name, hstands.cidr]
    rfl
  have hparent := h.parentOf_of_under (e.label done.length) hfollows.under
  rw [hstands.parentRef] at hparent
  have hstep : step =
      ⟨e, Text.trim e.ref, step.name, step.cidr, e.parent, step.parent⟩ := by
    rw [← hstands.ref, ← hstands.parentRef, ← hstands.entry]
  simp only [stepAfter, hblank, hfresh, hplanned]
  refine bind_eq_ok.mpr ⟨⟨step.name, step.cidr⟩, rfl, ?_⟩
  refine bind_eq_ok.mpr ⟨step.parent, hparent, ?_⟩
  exact congrArg Except.ok hstep.symm

private theorem Ordered.follows_of_append {more : List Step} (h : Ordered (done ++ step :: more)) :
    step.Follows done := by
  have hstep : (done ++ step :: more)[done.length]? = some step := by simp
  have hfollows := h done.length step hstep
  rwa [List.take_left' rfl] at hfollows

private theorem Ordered.stepsAfter_eq_ok_iff {entries : List Entry} (h : Ordered done) :
    stepsAfter limits done entries = .ok steps ↔
      ∃ more, steps = done ++ more ∧
        List.Forall₂ (fun e step => step.Stands limits e) entries more ∧ Ordered steps := by
  induction entries generalizing done with
  | nil =>
    constructor
    · intro hsteps
      obtain rfl := Except.ok.inj hsteps
      exact ⟨[], (List.append_nil _).symm, .nil, h⟩
    · rintro ⟨more, rfl, ⟨⟩, -⟩
      rw [List.append_nil]
      rfl
  | cons e es ih =>
    constructor
    · intro hsteps
      obtain ⟨step, hstep, hrest⟩ := bind_eq_ok.mp hsteps
      obtain ⟨hstands, hfollows⟩ := h.stepAfter_eq_ok_iff.mp hstep
      obtain ⟨more, hsteps, hmore, hordered⟩ := (ih (h.concat hfollows)).mp hrest
      exact ⟨step :: more, by rw [hsteps, List.append_assoc, List.singleton_append],
        .cons hstands hmore, hordered⟩
    · rintro ⟨all, rfl, hall, hordered⟩
      cases hall with
      | @cons _ step _ more hstands hmore =>
        have hfollows := hordered.follows_of_append
        refine bind_eq_ok.mpr ⟨step, h.stepAfter_eq_ok_iff.mpr ⟨hstands, hfollows⟩, ?_⟩
        exact (ih (h.concat hfollows)).mpr ⟨more, by simp, hmore, hordered⟩

theorem Ordered.exists_above (h : Ordered steps) {i : Nat} {ref : String}
    (hstep : steps[i]? = some step) (href : step.parentRef = some ref) :
    ∃ (j : Nat) (above : Step), step.parent = some j ∧ j < i ∧ steps[j]? = some above ∧
      above.ref = ref ∧ above.cidr.contains step.cidr = true := by
  have hunder := (h i step hstep).under
  unfold Step.Under at hunder
  rw [href] at hunder
  obtain ⟨j, above, hj, habove, haboveRef, hcontains⟩ := hunder
  rw [List.getElem?_take] at habove
  split at habove
  · next hlt => exact ⟨j, above, hj, hlt, habove, haboveRef, hcontains⟩
  · cases habove

theorem Ordered.parent_eq_none (h : Ordered steps) {i : Nat} (hstep : steps[i]? = some step)
    (hroot : step.parentRef = none) : step.parent = none := by
  have hunder := (h i step hstep).under
  unfold Step.Under at hunder
  rw [hroot] at hunder
  exact hunder

def DeclaresStep (steps : List Step) (i j : Nat) : Prop :=
  steps[i]?.bind Step.parent = some j

private theorem Ordered.lt_of_declaresStep (h : Ordered steps) {i j : Nat}
    (hdeclares : DeclaresStep steps i j) : j < i := by
  obtain ⟨step, hstep, hparent⟩ := Option.bind_eq_some_iff.mp hdeclares
  cases href : step.parentRef with
  | none =>
    cases hparent.symm.trans (h.parent_eq_none hstep href)
  | some ref =>
    obtain ⟨k, above, hk, hlt, -, -, -⟩ := h.exists_above hstep href
    obtain rfl := Option.some.inj (hparent.symm.trans hk)
    exact hlt

theorem Ordered.le_of_reflTransGen (h : Ordered steps) {i j : Nat}
    (hreach : Relation.ReflTransGen (DeclaresStep steps) i j) : j ≤ i := by
  induction hreach with
  | refl => exact Nat.le_refl i
  | tail _ hdeclares ih => exact Nat.le_trans (Nat.le_of_lt (h.lt_of_declaresStep hdeclares)) ih

/-- Parents stand before their children, so fuel for the place of a step is enough for its
lineage. -/
private theorem Ordered.mem_lineage_iff (h : Ordered steps) {fuel i j : Nat} (hfuel : i < fuel) :
    j ∈ lineage steps fuel i ↔ Relation.ReflTransGen (DeclaresStep steps) i j := by
  induction fuel generalizing i with
  | zero => exact absurd hfuel (Nat.not_lt_zero i)
  | succ fuel ih =>
    rw [lineage, List.mem_cons, Relation.ReflTransGen.cases_head_iff, eq_comm (a := j)]
    refine or_congr_right ?_
    cases hparent : steps[i]?.bind Step.parent with
    | none => simp [DeclaresStep, hparent]
    | some k =>
      have hlt : k < i := h.lt_of_declaresStep hparent
      have hrest := ih (i := k) (by omega)
      constructor
      · exact fun hj => ⟨k, hparent, hrest.mp hj⟩
      · rintro ⟨k', hk', hj⟩
        obtain rfl := Option.some.inj (hparent.symm.trans hk')
        exact hrest.mpr hj

private theorem checkOverlaps_eq_ok_iff : checkOverlaps steps = .ok () ↔
    ∀ (i j : Nat) (p q : Step), steps[i]? = some p → steps[j]? = some q → j < i →
      p.cidr.overlaps q.cidr = true → j ∈ lineage steps steps.length i := by
  have hcheck : checkOverlaps steps = .ok () ↔ ∀ (p : Step) (i : Nat), steps[i]? = some p →
      strayOverlap? steps (.ofList (steps.map Step.cidr)) p i = none := by
    simp only [checkOverlaps]
    split
    · next fault hstray =>
      refine iff_of_false (by simp) fun h => ?_
      obtain ⟨⟨p, i⟩, hmem, hfault⟩ := List.exists_of_findSome?_eq_some hstray
      cases hfault.symm.trans (h p i (List.mem_zipIdx_iff_getElem?.mp hmem))
    · next hstray => simpa [List.mem_zipIdx_iff_getElem?] using hstray
  rw [hcheck]
  simp only [strayOverlap?, List.findSome?_eq_none_iff, List.mem_filter,
    Prefix.Index.mem_overlapping_ofList, decide_eq_true_eq, List.getElem?_map,
    Option.map_eq_some_iff]
  constructor
  · intro h i j p q hp hq hji hover
    have hj := h p i hp j ⟨⟨_, ⟨q, hq, rfl⟩, hover⟩, hji⟩
    by_contra hmem
    rw [if_neg hmem, hq] at hj
    cases hj
  · rintro h p i hp j ⟨⟨_, ⟨q, hq, rfl⟩, hover⟩, hji⟩
    exact if_pos (h i j p q hp hq hji hover)

/-- What validation finds out about the steps of a request. -/
structure Request.Valid (limits : Limits) (r : Request) (steps : List Step) : Prop where
  nonempty : r.entries ≠ []
  status : ∃ status, readGiven PoolStatus.read r.status = .ok status
  stands : List.Forall₂ (fun e step => step.Stands limits e) r.entries steps
  ordered : Ordered steps
  overlaps : ∀ (i j : Nat) (p q : Step), steps[i]? = some p → steps[j]? = some q → j < i →
    p.cidr.overlaps q.cidr = true → Relation.ReflTransGen (DeclaresStep steps) i j

theorem Request.steps_of_checks {r : Request} (hnonempty : r.entries ≠ [])
    (hstatus : checkStatus r.status = .ok ()) (hsteps : stepsAfter limits [] r.entries = .ok steps)
    (hoverlaps : checkOverlaps steps = .ok ()) : r.steps limits = .ok steps := by
  have hempty : r.entries.isEmpty = false := by simpa using hnonempty
  simp only [Request.steps, hempty, hstatus, hsteps]
  change (checkOverlaps steps).mapError Refusal.invalid >>= _ = _
  rw [hoverlaps]
  rfl

theorem steps_eq_ok_iff {r : Request} : r.steps limits = .ok steps ↔ r.Valid limits steps := by
  have hnil : Ordered [] := fun i step hi => by simp at hi
  constructor
  · intro h
    unfold Request.steps at h
    by_cases hempty : r.entries.isEmpty = true
    · simp only [hempty, if_true] at h
      cases h
    simp only [hempty] at h
    obtain ⟨_, hstatus, h⟩ := bind_eq_ok.mp h
    obtain ⟨steps', hsteps, h⟩ := bind_eq_ok.mp h
    obtain ⟨_, hoverlaps, h⟩ := bind_eq_ok.mp h
    cases h
    obtain ⟨_, rfl, hstands, hordered⟩ := hnil.stepsAfter_eq_ok_iff.mp hsteps
    refine ⟨by simpa using hempty, exists_of_map_eq_ok (mapError_eq_ok.mp hstatus), hstands,
      hordered, fun i j p q hp hq hji hover => ?_⟩
    have hi : i < steps.length := (List.getElem?_eq_some_iff.mp hp).1
    exact (hordered.mem_lineage_iff hi).mp
      (checkOverlaps_eq_ok_iff.mp (mapError_eq_ok.mp hoverlaps) i j p q hp hq hji hover)
  · intro h
    obtain ⟨status, hstatus⟩ := h.status
    refine Request.steps_of_checks h.nonempty (by rw [checkStatus, hstatus]; rfl) ?_ ?_
    · exact hnil.stepsAfter_eq_ok_iff.mpr ⟨steps, rfl, h.stands, h.ordered⟩
    · refine checkOverlaps_eq_ok_iff.mpr fun i j p q hp hq hji hover => ?_
      have hi : i < steps.length := (List.getElem?_eq_some_iff.mp hp).1
      exact (h.ordered.mem_lineage_iff hi).mpr (h.overlaps i j p q hp hq hji hover)

theorem valid_of_steps {r : Request} (h : r.steps limits = .ok steps) : r.Valid limits steps :=
  steps_eq_ok_iff.mp h

end Plan
end AddressPlan
