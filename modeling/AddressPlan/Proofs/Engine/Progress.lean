import Mathlib.Data.List.ReduceOption
import AddressPlan.Proofs.Engine.Rounds
import AddressPlan.Proofs.Plan.Steps
import AddressPlan.Proofs.Store.Counter
/-!
# The progress of a plan

At every stage of a run the report agrees with the store: the pools created so far have been put in
in the order of their steps and under consecutive ids, the report counts them and knows the id of
each by its ref, and every pool is the one that its step stands for. Each round keeps this up. As
long as the counter does not run over, the new pools stand behind those that were there before.
-/
namespace AddressPlan.Engine
open AddressPlan.Action (perform)
open Plan (Step Report Request)
open Session (store)

def Stage.Has (g : Stage) (i : Nat) (pool : Pool) : Prop :=
  g.made[i]? = some (some pool)

def rootIds (steps : List Step) (made : List (Option Pool)) : List PoolId :=
  (steps.zip made).filterMap fun (step, pool) =>
    if step.parentRef.isNone then pool.map Pool.id else none

/-- What holds at a stage of a run that began in the session `s`. -/
structure Progress (request : Request) (status : PoolStatus) (steps : List Step) (s : Session)
    (g : Stage) : Prop where
  length : g.made.length ≤ steps.length
  faults : g.session.faults = s.faults
  now : g.session.now = s.now
  accounts : g.session.memory.accounts = s.memory.accounts
  stored : g.session.memory.pools = g.made.reduceOption.foldl Keyed.insert s.memory.pools
  nextId : g.session.memory.nextId = s.memory.nextId + UInt64.ofNat g.made.reduceOption.length
  counted : g.session.created = s.created + g.made.reduceOption.length
  ids : ∀ k pool, g.made.reduceOption[k]? = some pool →
    pool.id = s.memory.nextId + UInt64.ofNat k
  created : g.report.created = g.made.reduceOption.length
  skipped : g.report.created + g.report.skipped = g.made.length
  size : g.report.pools.size = g.made.reduceOption.length
  refs : ∀ ref id, g.report.pools.find? ref = some (ref, id) ↔
    ∃ i step pool, steps[i]? = some step ∧ g.Has i pool ∧ step.ref = ref ∧ pool.id = id
  root : g.report.root = (rootIds steps g.made).getLast?
  pools : ∀ i step pool, steps[i]? = some step → g.Has i pool →
    ∃ parent, stepParent? g.report step = some parent ∧
      pool = (stepDraft request status (stepKind step).1 parent step).toPool pool.id s.now

variable {policy : OverlapPolicy} {request : Request} {status : PoolStatus} {steps : List Step}
  {s t : Session} {g g' : Stage} {step : Step} {pool : Pool} {i : Nat}

theorem Stage.Has.lt (h : g.Has i pool) : i < g.made.length :=
  (List.getElem?_eq_some_iff.mp h).1

private theorem Stage.has_leave {count : Nat} {reason : String} :
    (g.leave step count reason t).Has i pool ↔ g.Has i pool := by
  simp only [Stage.Has, Stage.leave]
  by_cases hlt : i < g.made.length
  · rw [List.getElem?_append_left hlt]
  · have hge := Nat.le_of_not_lt hlt
    rw [List.getElem?_append_right hge, List.getElem?_eq_none hge, List.getElem?_replicate]
    split <;> simp

private theorem Stage.has_push {p : Pool} :
    (g.push step p t).Has i pool ↔ g.Has i pool ∨ i = g.made.length ∧ pool = p := by
  simp only [Stage.Has, Stage.push]
  rcases Nat.lt_trichotomy i g.made.length with hlt | rfl | hgt
  · rw [List.getElem?_append_left hlt]
    simp [Nat.ne_of_lt hlt]
  · simp [eq_comm]
  · rw [List.getElem?_eq_none (by rw [List.length_append]; exact hgt),
      List.getElem?_eq_none (Nat.le_of_lt hgt)]
    simp [Nat.ne_of_gt hgt]

/-- Fewer pools have been created after that of a step than there are ids. -/
def Stage.Recent (g : Stage) (i : Nat) : Prop :=
  (g.made.drop (i + 1)).reduceOption.length < 2 ^ 64

private theorem Stage.Recent.of_le {j : Nat} (h : g.Recent i) (hle : i ≤ j) : g.Recent j := by
  have hsub : (g.made.drop (j + 1)).Sublist (g.made.drop (i + 1)) :=
    List.drop_sublist_drop_left g.made (Nat.succ_le_succ hle)
  exact Nat.lt_of_le_of_lt (hsub.filterMap id).length_le h

private theorem Stage.Has.reduceOption_eq (h : g.Has i pool) : g.made.reduceOption =
    (g.made.take i).reduceOption ++ pool :: (g.made.drop (i + 1)).reduceOption := by
  obtain ⟨hlt, hat⟩ := List.getElem?_eq_some_iff.mp h
  conv_lhs => rw [← List.take_append_drop i g.made, List.drop_eq_getElem_cons hlt, hat]
  rw [List.reduceOption_append, List.reduceOption_cons_of_some]

theorem Stage.Has.recent (h : g.Has i pool) (hfew : g.made.reduceOption.length ≤ 2 ^ 64) :
    g.Recent i := by
  have hlength := congrArg List.length h.reduceOption_eq
  rw [List.length_append, List.length_cons] at hlength
  rw [Stage.Recent]
  omega

private theorem Stage.exists_has {before after : List Pool}
    (h : g.made.reduceOption = before ++ pool :: after) :
    ∃ i, g.Has i pool ∧ (g.made.drop (i + 1)).reduceOption = after := by
  obtain ⟨front, back, hmade, -, hback⟩ := List.filterMap_eq_append_iff.mp h
  obtain ⟨gap, place, rest, rfl, -, rfl, hrest⟩ := List.filterMap_eq_cons_iff.mp hback
  refine ⟨(front ++ gap).length, ?_, ?_⟩
  · rw [Stage.Has, hmade, ← List.append_assoc, List.getElem?_append_right (Nat.le_refl _),
      Nat.sub_self, List.getElem?_cons_zero]
  · rw [hmade, ← List.append_assoc, List.drop_append, Nat.add_sub_cancel_left,
      List.drop_eq_nil_of_le (Nat.le_succ _)]
    exact hrest

theorem mem_reduceOption_iff : pool ∈ g.made.reduceOption ↔ ∃ i, g.Has i pool := by
  rw [List.reduceOption_mem_iff, List.mem_iff_getElem?]
  rfl

private theorem reduceOption_leave {count : Nat} {reason : String} :
    (g.leave step count reason t).made.reduceOption = g.made.reduceOption := by
  rw [Stage.leave, List.reduceOption_append, List.reduceOption_replicate_none, List.append_nil]

private theorem reduceOption_push :
    (g.push step pool t).made.reduceOption = g.made.reduceOption ++ [pool] := by
  rw [Stage.push, List.reduceOption_append, List.reduceOption_singleton, Option.toList_some]

theorem Round.length_le (hround : Round policy request status steps g g') :
    g.made.reduceOption.length ≤ g'.made.reduceOption.length := by
  cases hround with
  | orphan | refused | cancelled => exact (congrArg List.length reduceOption_leave).ge
  | created =>
    rw [reduceOption_push, List.length_append]
    exact Nat.le_add_right _ _

private theorem rootIds_append {made more : List (Option Pool)} : rootIds steps (made ++ more) =
    rootIds steps made ++ rootIds (steps.drop made.length) more := by
  induction made generalizing steps with
  | nil => simp [rootIds]
  | cons m made ih =>
    cases steps with
    | nil => simp [rootIds]
    | cons step steps =>
      have := @ih steps
      simp only [rootIds] at this
      simp only [rootIds, List.cons_append, List.zip_cons_cons, List.filterMap_cons,
        List.length_cons, List.drop_succ_cons, this]
      split <;> rfl

private theorem rootIds_replicate {count : Nat} :
    rootIds steps (List.replicate count none) = [] := by
  rw [rootIds, List.filterMap_eq_nil_iff]
  rintro ⟨step, pool⟩ hmem
  obtain rfl := List.eq_of_mem_replicate (List.of_mem_zip hmem).2
  simp

private theorem rootIds_single : rootIds (step :: steps) [some pool] =
    if step.parentRef.isNone then [pool.id] else [] := by
  by_cases hnone : step.parentRef.isNone = true
  · simp only [rootIds, List.zip_cons_cons, List.zip_nil_right, List.filterMap_cons, hnone, if_true,
      Option.map_some, List.filterMap_nil]
  · simp only [rootIds, List.zip_cons_cons, List.zip_nil_right, List.filterMap_cons, hnone,
      Bool.false_eq_true, if_false, List.filterMap_nil]

theorem stepParent?_eq_some_iff {report : Report} {parent : Option PoolId} :
    stepParent? report step = some parent ↔
      step.parentRef = none ∧ parent = none ∨
      ∃ ref id, step.parentRef = some ref ∧ report.pools.find? ref = some (ref, id) ∧
        parent = some id := by
  unfold stepParent?
  cases step.parentRef with
  | none => simp [eq_comm]
  | some ref =>
    simp only [Option.map_eq_some_iff, reduceCtorEq, false_and, false_or]
    constructor
    · rintro ⟨⟨ref', id⟩, hfind, rfl⟩
      obtain rfl : ref' = ref := (Keyed.find?_eq_some_iff.mp hfind).2
      exact ⟨ref', id, rfl, hfind, rfl⟩
    · rintro ⟨_, id, ⟨rfl⟩, hfind, rfl⟩
      exact ⟨(ref, id), hfind, rfl⟩

private theorem stepParent?_noteCreated {report : Report} {earlier : Step} {parent : Option PoolId}
    (hfresh : report.pools.find? step.ref = none) (h : stepParent? report earlier = some parent) :
    stepParent? (noteCreated (noteWarnings report step) step pool) earlier = some parent := by
  rw [stepParent?_eq_some_iff] at h ⊢
  refine h.imp_right ?_
  rintro ⟨ref, id, href, hfind, hparent⟩
  refine ⟨ref, id, href, ?_, hparent⟩
  have hne : step.ref ≠ ref := fun heq => by
    rw [heq, hfind] at hfresh
    cases hfresh
  have hinsert : (report.pools.insert (step.ref, pool.id)).find? ref = _ := Keyed.find?_insert
  rw [if_neg hne, hfind] at hinsert
  exact hinsert

theorem Progress.init (ht : Session.Untouched s t) :
    Progress request status steps s ⟨[], .empty, t⟩ := by
  obtain ⟨token, rfl⟩ : ∃ token, t = { s with token := token } := ⟨t.token, ht⟩
  exact {
    length := Nat.zero_le _
    faults := rfl
    now := rfl
    accounts := rfl
    stored := rfl
    nextId := (UInt64.add_zero _).symm
    counted := rfl
    ids := fun k pool h => by cases h
    created := rfl
    skipped := rfl
    size := rfl
    refs := fun ref id => by simp [Stage.Has, Report.empty, Keyed.empty, Keyed.find?]
    root := by simp [rootIds, Report.empty]
    pools := fun i step pool _ h => by cases h }

namespace Progress

/-- Leaving steps out changes the counts only. -/
theorem leave {count : Nat} {reason : String} (h : Progress request status steps s g)
    (hcount : g.made.length + count ≤ steps.length) (ht : Session.Untouched g.session t) :
    Progress request status steps s (g.leave step count reason t) := by
  obtain ⟨token, rfl⟩ : ∃ token, t = { g.session with token := token } := ⟨t.token, ht⟩
  exact {
    length := by
      rw [Stage.length_leave]
      exact hcount
    faults := h.faults
    now := h.now
    accounts := h.accounts
    stored := by
      rw [reduceOption_leave]
      exact h.stored
    nextId := by
      rw [reduceOption_leave]
      exact h.nextId
    counted := by
      rw [reduceOption_leave]
      exact h.counted
    ids := by
      rw [reduceOption_leave]
      exact h.ids
    created := by
      rw [reduceOption_leave]
      exact h.created
    skipped := by
      rw [Stage.length_leave, ← h.skipped]
      exact (Nat.add_assoc _ _ _).symm
    size := by
      rw [reduceOption_leave]
      exact h.size
    refs := by
      simp only [Stage.has_leave]
      exact h.refs
    root := by
      refine h.root.trans ?_
      simp only [Stage.leave, rootIds_append, rootIds_replicate, List.append_nil]
    pools := by
      simp only [Stage.has_leave]
      exact h.pools }

private theorem find?_eq_none (h : Progress request status steps s g)
    (hordered : Plan.Ordered steps)
    (hstep : steps[g.made.length]? = some step) : g.report.pools.find? step.ref = none := by
  by_contra hsome
  obtain ⟨⟨ref, id⟩, hfind⟩ := Option.ne_none_iff_exists'.mp hsome
  obtain rfl : ref = step.ref := (Keyed.find?_eq_some_iff.mp hfind).2
  obtain ⟨i, earlier, pool, hi, hpool, href, -⟩ := (h.refs _ _).mp hfind
  have heq := hordered.ref_injective hi hstep href
  have hlt := hpool.lt
  omega

private theorem ids_push (h : Progress request status steps s g)
    (hid : pool.id = g.session.memory.nextId) {k : Nat} {p : Pool}
    (hp : (g.push step pool t).made.reduceOption[k]? = some p) :
    p.id = s.memory.nextId + UInt64.ofNat k := by
  rw [reduceOption_push] at hp
  rcases Nat.lt_trichotomy k g.made.reduceOption.length with hk | rfl | hk
  · rw [List.getElem?_append_left hk] at hp
    exact h.ids k p hp
  · obtain rfl : pool = p := by simpa using hp
    rw [hid, h.nextId]
  · have hlength : (g.made.reduceOption ++ [pool]).length = g.made.reduceOption.length + 1 := by
      rw [List.length_append, List.length_singleton]
    rw [List.getElem?_eq_none (by rw [hlength]; exact hk)] at hp
    cases hp

private theorem refs_push (h : Progress request status steps s g) (hordered : Plan.Ordered steps)
    (hstep : steps[g.made.length]? = some step) (ref : String) (id : PoolId) :
    (g.push step pool t).report.pools.find? ref = some (ref, id) ↔
      ∃ i other p, steps[i]? = some other ∧ (g.push step pool t).Has i p ∧ other.ref = ref ∧
        p.id = id := by
  have hinsert : (g.report.pools.insert (step.ref, pool.id)).find? ref = _ := Keyed.find?_insert
  change (g.report.pools.insert (step.ref, pool.id)).find? ref = _ ↔ _
  rw [hinsert]
  by_cases href : step.ref = ref
  · rw [if_pos href, Option.some.injEq, Prod.mk.injEq]
    constructor
    · rintro ⟨-, rfl⟩
      exact ⟨_, step, pool, hstep, Stage.has_push.mpr (Or.inr ⟨rfl, rfl⟩), href, rfl⟩
    · rintro ⟨i, other, p, hi, hp, hother, rfl⟩
      -- refs are distinct, so the place that the ref leads to is the new one
      obtain rfl := hordered.ref_injective hi hstep (hother.trans href.symm)
      rcases Stage.has_push.mp hp with hold | ⟨-, rfl⟩
      · exact absurd hold.lt (Nat.lt_irrefl _)
      · exact ⟨href, rfl⟩
  · rw [if_neg href, h.refs]
    constructor
    · rintro ⟨i, other, p, hi, hp, hother⟩
      exact ⟨i, other, p, hi, Stage.has_push.mpr (Or.inl hp), hother⟩
    · rintro ⟨i, other, p, hi, hp, hother⟩
      rcases Stage.has_push.mp hp with hold | ⟨rfl, -⟩
      · exact ⟨i, other, p, hi, hold, hother⟩
      · obtain rfl := Option.some.inj (hstep.symm.trans hi)
        exact absurd hother.1 href

private theorem root_push (h : Progress request status steps s g)
    (hstep : steps[g.made.length]? = some step) :
    (g.push step pool t).report.root = (rootIds steps (g.push step pool t).made).getLast? := by
  have hlt : g.made.length < steps.length := (List.getElem?_eq_some_iff.mp hstep).1
  have hdrop : steps.drop g.made.length = step :: steps.drop (g.made.length + 1) := by
    rw [List.drop_eq_getElem_cons hlt, (List.getElem?_eq_some_iff.mp hstep).2]
  simp only [Stage.push, noteCreated, noteWarnings, rootIds_append, hdrop, rootIds_single]
  by_cases hnone : step.parentRef.isNone = true
  · rw [if_pos hnone, if_pos hnone, List.getLast?_concat]
  · rw [if_neg hnone, if_neg hnone, List.append_nil, ← h.root]

theorem push {parent : Option PoolId} (h : Progress request status steps s g)
    (hordered : Plan.Ordered steps) (hstep : steps[g.made.length]? = some step)
    (hparent : stepParent? g.report step = some parent)
    (hcreated : Created policy (stepDraft request status (stepKind step).1 parent step)
      g.session pool t) :
    Progress request status steps s (g.push step pool t) := by
  obtain ⟨token, rfl⟩ : ∃ token, t = { g.session with
      memory := g.session.memory.push g.session.now
        (stepDraft request status (stepKind step).1 parent step)
      created := g.session.created + 1
      token := token } := ⟨t.token, hcreated.after⟩
  have hpool := hcreated.pool
  have hfresh := h.find?_eq_none hordered hstep
  have hid : pool.id = g.session.memory.nextId := by rw [hpool]; rfl
  have hcount : (g.made.reduceOption ++ [pool]).length = g.made.reduceOption.length + 1 := by
    rw [List.length_append, List.length_singleton]
  exact {
    length := by
      rw [Stage.length_push]
      exact (List.getElem?_eq_some_iff.mp hstep).1
    faults := h.faults
    now := h.now
    accounts := h.accounts
    stored := by
      rw [reduceOption_push, List.foldl_append, ← h.stored, hpool]
      rfl
    nextId := by
      rw [reduceOption_push, hcount, add_ofNat_succ, ← h.nextId]
      rfl
    counted := by
      rw [reduceOption_push, hcount, ← Nat.add_assoc, ← h.counted]
      rfl
    ids := fun k p hp => h.ids_push hid hp
    created := by
      rw [reduceOption_push, hcount, ← h.created]
      rfl
    skipped := by
      rw [Stage.length_push, ← h.skipped]
      exact Nat.add_right_comm _ _ _
    size := by
      rw [reduceOption_push, hcount, ← h.size]
      exact Keyed.size_insert hfresh
    refs := h.refs_push hordered hstep
    root := h.root_push hstep
    pools := by
      intro i other p hi hp
      rcases Stage.has_push.mp hp with hold | ⟨rfl, rfl⟩
      · obtain ⟨parent', hparent', hp⟩ := h.pools i other p hi hold
        exact ⟨parent', stepParent?_noteCreated hfresh hparent', hp⟩
      · obtain rfl := Option.some.inj (hstep.symm.trans hi)
        refine ⟨parent, stepParent?_noteCreated hfresh hparent, ?_⟩
        rw [hid, ← h.now]
        exact hpool }

theorem round (h : Progress request status steps s g) (hordered : Plan.Ordered steps)
    (hround : Round policy request status steps g g') :
    Progress request status steps s g' := by
  cases hround with
  | orphan hstep hparent =>
    have hlt := (List.getElem?_eq_some_iff.mp hstep).1
    exact h.leave hlt (.refl _)
  | created hstep hparent hrun =>
    exact h.push hordered hstep hparent (created_of_createDraft hrun)
  | refused hstep hparent hrun hne =>
    have hlt := (List.getElem?_eq_some_iff.mp hstep).1
    exact h.leave hlt (tidy_createDraft _ _ _ _ _ hrun)
  | cancelled hstep hparent hrun =>
    have hlt := (List.getElem?_eq_some_iff.mp hstep).1
    exact h.leave (by omega) (tidy_createDraft _ _ _ _ _ hrun)

theorem rounds (h : Progress request status steps s g) (hordered : Plan.Ordered steps)
    (hrounds : Relation.ReflTransGen (Round policy request status steps) g g') :
    Progress request status steps s g' := by
  induction hrounds with
  | refl => exact h
  | tail _ hround ih => exact ih.round hordered hround

theorem parent_of_stepParent? {parent : Option PoolId} {n j : Nat}
    (h : Progress request status steps s g) (hordered : Plan.Ordered steps)
    (hstep : steps[n]? = some step) (hparent : stepParent? g.report step = some parent)
    (hj : step.parent = some j) : ∃ q, g.Has j q ∧ parent = some q.id := by
  rcases stepParent?_eq_some_iff.mp hparent with ⟨hroot, -⟩ | ⟨ref, id, href, hfind, rfl⟩
  · rw [hordered.parent_eq_none hstep hroot] at hj
    cases hj
  · obtain ⟨k, above, hk, -, habove, haboveRef, -⟩ := hordered.exists_above hstep href
    obtain rfl := Option.some.inj (hj.symm.trans hk)
    obtain ⟨i, other, q, hi, hq, hother, rfl⟩ := (h.refs _ _).mp hfind
    obtain rfl := hordered.ref_injective hi habove (hother.trans haboveRef.symm)
    exact ⟨q, hq, rfl⟩

theorem exists_step (h : Progress request status steps s g) (hpool : g.Has i pool) :
    ∃ step, steps[i]? = some step := by
  have hlt : i < steps.length := Nat.lt_of_lt_of_le hpool.lt h.length
  exact ⟨_, List.getElem?_eq_getElem hlt⟩

private theorem id_eq (h : Progress request status steps s g) {before after : List Pool}
    (hsplit : g.made.reduceOption = before ++ pool :: after) :
    pool.id = s.memory.nextId + UInt64.ofNat before.length ∧
      ∀ n later, after[n]? = some later →
        later.id = s.memory.nextId + UInt64.ofNat (before.length + (n + 1)) := by
  refine ⟨h.ids _ pool ?_, fun n later hlater => h.ids _ later ?_⟩
  · rw [hsplit, List.getElem?_append_right (Nat.le_refl _), Nat.sub_self, List.getElem?_cons_zero]
  · rw [hsplit, List.getElem?_append_right (Nat.le_add_right _ _), Nat.add_sub_cancel_left,
      List.getElem?_cons_succ, hlater]

theorem mem_rows (h : Progress request status steps s g) (hpool : g.Has i pool)
    (hrecent : g.Recent i) : pool ∈ g.session.memory.pools.rows := by
  rw [h.stored, Keyed.mem_foldl_insert]
  refine .inl ⟨_, _, hpool.reduceOption_eq, fun later hlater => ?_⟩
  obtain ⟨n, hn⟩ := List.mem_iff_getElem?.mp hlater
  obtain ⟨hid, hlaterIds⟩ := h.id_eq hpool.reduceOption_eq
  have hlt : n < 2 ^ 64 - 1 := by
    have hn := (List.getElem?_eq_some_iff.mp hn).1
    rw [Stage.Recent] at hrecent
    omega
  rw [hid, hlaterIds n later hn]
  exact (add_ofNat_ne (by omega) (by omega)).symm

theorem old_or_recent (h : Progress request status steps s g)
    (hmem : pool ∈ g.session.memory.pools.rows) :
    pool ∈ s.memory.pools.rows ∨ ∃ i, g.Has i pool ∧ g.Recent i := by
  rw [h.stored, Keyed.mem_foldl_insert] at hmem
  rcases hmem with ⟨before, after, hsplit, hafter⟩ | ⟨hold, -⟩
  · obtain ⟨i, hpool, hdrop⟩ := Stage.exists_has hsplit
    refine .inr ⟨i, hpool, ?_⟩
    rw [Stage.Recent, hdrop]
    by_contra hlong
    obtain ⟨hid, hlaterIds⟩ := h.id_eq hsplit
    obtain ⟨later, hlater⟩ : ∃ later, after[2 ^ 64 - 1]? = some later :=
      ⟨_, List.getElem?_eq_getElem (by omega)⟩
    refine hafter later (List.mem_of_getElem? hlater) ?_
    rw [hid, hlaterIds _ later hlater]
    exact add_ofNat_add_size
  · exact .inl hold

theorem toNat_id (h : Progress request status steps s g)
    (hroom : s.memory.nextId.toNat + g.made.reduceOption.length ≤ 2 ^ 64) {k : Nat}
    (hpool : g.made.reduceOption[k]? = some pool) :
    pool.id.toNat = s.memory.nextId.toNat + k := by
  have hk := (List.getElem?_eq_some_iff.mp hpool).1
  rw [h.ids k pool hpool, toNat_add_ofNat (by omega)]

theorem rows (h : Progress request status steps s g) (hids : s.memory.IdsBelow)
    (hroom : s.memory.nextId.toNat + g.made.reduceOption.length ≤ 2 ^ 64) :
    g.session.memory.pools.rows = s.memory.pools.rows ++ g.made.reduceOption := by
  rw [h.stored]
  refine Keyed.rows_foldl_insert ?_
  refine List.pairwise_append.mpr ⟨s.memory.pools.ascending, ?_, ?_⟩
  · refine List.pairwise_iff_getElem.mpr fun k n hk hn hlt => ?_
    rw [UInt64.lt_iff_toNat_lt, h.toNat_id hroom (List.getElem?_eq_getElem hk),
      h.toNat_id hroom (List.getElem?_eq_getElem hn)]
    exact Nat.add_lt_add_left hlt _
  · intro old hold new hnew
    obtain ⟨k, hk⟩ := List.mem_iff_getElem?.mp hnew
    have hbelow := UInt64.lt_iff_toNat_lt.mp (hids old hold)
    rw [UInt64.lt_iff_toNat_lt, h.toNat_id hroom hk]
    omega

theorem idsBelow (h : Progress request status steps s g) (hids : s.memory.IdsBelow)
    (hroom : s.memory.nextId.toNat + g.made.reduceOption.length < 2 ^ 64) :
    g.session.memory.IdsBelow := by
  intro pool hmem
  rw [h.rows hids hroom.le] at hmem
  rw [UInt64.lt_iff_toNat_lt, h.nextId, toNat_add_ofNat hroom]
  rcases List.mem_append.mp hmem with hold | hnew
  · have := UInt64.lt_iff_toNat_lt.mp (hids pool hold)
    omega
  · obtain ⟨k, hk⟩ := List.mem_iff_getElem?.mp hnew
    rw [h.toNat_id hroom.le hk]
    exact Nat.add_lt_add_left (List.getElem?_eq_some_iff.mp hk).1 _

theorem cidr_eq (h : Progress request status steps s g) (hstep : steps[i]? = some step)
    (hpool : g.Has i pool) : pool.cidr = step.cidr := by
  obtain ⟨_, -, heq⟩ := h.pools i step pool hstep hpool
  rw [heq]
  rfl

/-- Pools ascend in the store as their steps do in the plan, up to a pool that is still there. -/
theorem ascends {j : Nat} (h : Progress request status steps s g)
    (hordered : Plan.Ordered steps)
    (hreach : Relation.ReflTransGen (Plan.DeclaresStep steps) i j) (hrecent : g.Recent j)
    (hpool : g.Has i pool) :
    ∃ q, g.Has j q ∧ Ascends g.session.memory.pools.rows pool.id q.id := by
  induction hreach using Relation.ReflTransGen.head_induction_on generalizing pool with
  | refl => exact ⟨pool, hpool, .refl⟩
  | @head i k hdeclares hrest ih =>
    obtain ⟨step, hstep⟩ := h.exists_step hpool
    obtain ⟨parent, hparent, heq⟩ := h.pools _ step pool hstep hpool
    have hle : j ≤ i := hordered.le_of_reflTransGen (.head hdeclares hrest)
    rw [Plan.DeclaresStep, hstep] at hdeclares
    obtain ⟨q, hq, hid⟩ := h.parent_of_stepParent? hordered hstep hparent hdeclares
    obtain ⟨r, hr, hascends⟩ := ih hq
    have hpoolParent : pool.parent = some q.id := by
      rw [heq]
      exact hid
    refine ⟨r, hr, .head ?_ hascends⟩
    exact (declares_iff g.session.memory.pools.nodup).mpr
      ⟨pool, h.mem_rows hpool (hrecent.of_le hle), rfl, hpoolParent⟩

theorem places {parent : Option PoolId} (h : Progress request status steps s g)
    (hordered : Plan.Ordered steps) (hfew : g.made.reduceOption.length ≤ 2 ^ 64)
    (hstep : steps[g.made.length]? = some step)
    (hparent : stepParent? g.report step = some parent) :
    g.session.memory.Places (stepDraft request status (stepKind step).1 parent step) := by
  intro id hid
  change parent = some id at hid
  rcases stepParent?_eq_some_iff.mp hparent with ⟨-, hnone⟩ | ⟨ref, -, href, -⟩
  · rw [hnone] at hid
    cases hid
  · obtain ⟨j, above, hj, -, habove, -, hcontains⟩ := hordered.exists_above hstep href
    obtain ⟨q, hq, hqid⟩ := h.parent_of_stepParent? hordered hstep hparent hj
    obtain rfl : id = q.id := Option.some.inj (hid.symm.trans hqid)
    have hmem := h.mem_rows hq (hq.recent hfew)
    refine ⟨q, Keyed.find?_eq_some_iff.mpr ⟨hmem, rfl⟩, ?_⟩
    rw [h.cidr_eq habove hq]
    exact hcontains

end Progress

end AddressPlan.Engine
