import AddressPlan.Engine.Pools
import AddressPlan.Proofs.Ancestry.OverlapRule
import AddressPlan.Proofs.Store.Traces
/-!
# Creating a pool

The gates before a creation only read. A draft that passes them and is accepted becomes the pool
under the next id, and a refused one leaves the session alone. Where nothing overlaps the draft
outside its chain, the look for overlaps makes no difference.
-/
namespace AddressPlan

/-- The declared parent of a draft is stored and contains it. -/
def Memory.Places (m : Memory) (draft : PoolDraft) : Prop :=
  ∀ id, draft.parent = some id →
    ∃ parent, m.pools.find? id = some parent ∧ parent.cidr.contains draft.cidr = true

namespace Engine
open AddressPlan.Action (perform perform_bind perform_bind_eq_ok Reads Tidy)
open Session (Untouched)

variable {s t : Session} {draft : PoolDraft} {policy : OverlapPolicy} {pool : Pool}

theorem reads_checkParent (draft : PoolDraft) : Reads (checkParent draft) := by
  unfold checkParent
  split
  · exact Action.reads_pure ()
  · next id _ =>
    refine (Action.reads_get id).bind fun found => ?_
    split
    · exact Action.reads_throw _
    · exact Action.reads_ofExcept _

theorem reads_checkOverlaps (draft : PoolDraft) : Reads (checkOverlaps draft) := by
  refine Action.reads_list.bind fun pools => ?_
  dsimp only
  split
  · exact Action.reads_pure ()
  · exact Action.reads_throw _

private theorem places_of_checkParent
    (h : perform Session.store (checkParent draft) s = (.ok (), t)) :
    s.memory.Places draft := by
  intro id hid
  simp only [checkParent, hid] at h
  obtain ⟨found, u, hget, h⟩ := perform_bind_eq_ok.mp h
  obtain rfl := Session.get_eq_ok hget
  cases hfind : s.memory.pools.find? id with
  | none =>
    rw [hfind] at h
    cases h
  | some parent =>
    rw [hfind] at h
    refine ⟨parent, rfl, ?_⟩
    simp only [Action.perform_ofExcept, validChild] at h
    by_contra hcontains
    rw [if_neg hcontains] at h
    cases h

private theorem unrelated_of_checkOverlaps
    (h : perform Session.store (checkOverlaps draft) s = (.ok (), t)) :
    unrelatedOverlaps s.memory.pools.rows draft = [] := by
  obtain ⟨pools, u, hlist, h⟩ := perform_bind_eq_ok.mp h
  obtain ⟨-, rfl⟩ := Session.list_eq_ok hlist
  by_contra hne
  rw [if_neg (by simpa using hne)] at h
  cases h

theorem tidy_createDraft (policy : OverlapPolicy) (draft : PoolDraft) :
    Tidy (createDraft policy draft) := by
  refine (reads_checkParent draft).bind_tidy fun _ => ?_
  cases policy with
  | enforce => exact (reads_checkOverlaps draft).bind_tidy fun _ => Action.tidy_create draft
  | skip => exact (Action.reads_pure ()).bind_tidy fun _ => Action.tidy_create draft

/-- The gates that a draft has to pass under a policy. -/
structure Passes (policy : OverlapPolicy) (m : Memory) (draft : PoolDraft) : Prop where
  places : m.Places draft
  unrelated : policy = .enforce → unrelatedOverlaps m.pools.rows draft = []

structure Created (policy : OverlapPolicy) (draft : PoolDraft) (s : Session) (pool : Pool)
    (t : Session) : Prop where
  passes : Passes policy s.memory draft
  sound : s.createFault draft.name = none
  accepts : s.memory.Accepts draft
  pool : pool = draft.toPool s.memory.nextId s.now
  after : t = { s with
    memory := s.memory.push s.now draft, created := s.created + 1, token := t.token }

theorem Created.memory (h : Created policy draft s pool t) :
    t.memory = s.memory.push s.now draft := by
  rw [h.after]

theorem Created.created (h : Created policy draft s pool t) : t.created = s.created + 1 := by
  rw [h.after]

private theorem created_of_create {u : Session} (hpasses : Passes policy s.memory draft)
    (hu : Untouched s u) (h : perform Session.store (Action.create draft) u = (.ok pool, t)) :
    Created policy draft s pool t := by
  have hcreate : Session.create draft u = (.ok pool, t) := h
  by_cases hstores : u.Stores draft
  · rw [Session.create_of_stores hstores] at hcreate
    cases hcreate
    rw [hu] at hstores
    refine ⟨hpasses, hstores.admits.sound, hstores.accepts, ?_, ?_⟩
    · rw [hu]
    · rw [hu]
      rfl
  · obtain ⟨refusal, herror⟩ := Session.create_of_not_stores hstores
    cases hcreate.symm.trans herror

theorem created_of_createDraft
    (h : perform Session.store (createDraft policy draft) s = (.ok pool, t)) :
    Created policy draft s pool t := by
  obtain ⟨_, u, hparent, h⟩ := perform_bind_eq_ok.mp h
  have hplaces := places_of_checkParent hparent
  have hu : Untouched s u := by
    have := reads_checkParent draft s
    rwa [hparent] at this
  cases policy with
  | enforce =>
    obtain ⟨_, v, hoverlaps, h⟩ := perform_bind_eq_ok.mp h
    have hunrelated := unrelated_of_checkOverlaps hoverlaps
    rw [hu.memory] at hunrelated
    have hv : Untouched u v := by
      have := reads_checkOverlaps draft u
      rwa [hoverlaps] at this
    exact created_of_create ⟨hplaces, fun _ => hunrelated⟩ (hu.trans hv) h
  | skip => exact created_of_create ⟨hplaces, fun hskip => nomatch hskip⟩ hu h

theorem checkParent_of_parent {id : PoolId} (hadmits : s.Admits none)
    (hparent : draft.parent = some id) :
    (perform Session.store (checkParent draft) s).1 = match s.memory.pools.find? id with
      | none => .error (.absent (.parent id))
      | some parent => validChild none parent.cidr draft.cidr := by
  have hget : perform Session.store (Action.get id) s = _ := Session.get_of_admits hadmits
  simp only [checkParent, hparent]
  rw [Action.perform_bind_of_ok hget]
  cases s.memory.pools.find? id <;> rfl

theorem checkParent_of_places (hsteady : s.Steady) (hadmits : s.Admits none)
    (hplaces : s.memory.Places draft) :
    perform Session.store (checkParent draft) s = (.ok (), s) := by
  refine Prod.ext ?_ (hsteady.perform_of_reads (reads_checkParent draft))
  cases hparent : draft.parent with
  | none =>
    simp only [checkParent, hparent]
    rfl
  | some id =>
    obtain ⟨parent, hfind, hcontains⟩ := hplaces id hparent
    rw [checkParent_of_parent hadmits hparent, hfind]
    exact if_pos hcontains

theorem exists_of_not_places {m : Memory} (h : ¬m.Places draft) :
    ∃ id, draft.parent = some id ∧ (m.pools.find? id = none ∨
      ∃ parent, m.pools.find? id = some parent ∧ ¬parent.cidr.contains draft.cidr = true) := by
  by_contra hnone
  refine h fun id hid => ?_
  cases hfind : m.pools.find? id with
  | none => exact absurd ⟨id, hid, .inl hfind⟩ hnone
  | some parent =>
    refine ⟨parent, rfl, ?_⟩
    by_contra hcontains
    exact hnone ⟨id, hid, .inr ⟨parent, hfind, hcontains⟩⟩

private theorem checkParent_of_not_places (hadmits : s.Admits none)
    (hplaces : ¬s.memory.Places draft) :
    ∃ refusal, refusal ≠ .cancelled ∧
      (perform Session.store (checkParent draft) s).1 = .error refusal := by
  obtain ⟨id, hid, hfind⟩ := exists_of_not_places hplaces
  rw [checkParent_of_parent hadmits hid]
  rcases hfind with hfind | ⟨parent, hfind, hcontains⟩
  · rw [hfind]
    exact ⟨_, Refusal.noConfusion, rfl⟩
  · rw [hfind]
    exact ⟨_, Refusal.noConfusion, if_neg hcontains⟩

theorem checkOverlaps_of_admits (hsteady : s.Steady) (hadmits : s.Admits s.faults.list) :
    perform Session.store (checkOverlaps draft) s =
      (if (unrelatedOverlaps s.memory.pools.rows draft).isEmpty then .ok ()
        else .error (.clash (.blocks draft.cidr (unrelatedOverlaps s.memory.pools.rows draft))),
        s) := by
  rw [checkOverlaps, Action.perform_bind_of_ok (Session.perform_list_of_admits hadmits),
    hsteady.tick_eq]
  dsimp only
  split <;> rfl

private theorem createDraft_skip_eq (draft : PoolDraft) : createDraft .skip draft =
    checkParent draft >>= fun _ => pure () >>= fun _ => Action.create draft :=
  rfl

theorem createDraft_of_stores (hsteady : s.Steady) (hplaces : s.memory.Places draft)
    (hstores : s.Stores draft) : perform Session.store (createDraft .skip draft) s =
      (.ok (draft.toPool s.memory.nextId s.now), s.push draft) := by
  have hadmits : s.Admits none := ⟨hstores.admits.open_, rfl, hstores.admits.live⟩
  have hparent := checkParent_of_places hsteady hadmits hplaces
  rw [createDraft_skip_eq, Action.perform_bind_of_ok hparent, Action.perform_bind_of_ok rfl]
  exact Session.create_of_stores hstores

theorem createDraft_ne_cancelled {refusal : Refusal} (hsteady : s.Steady) (hadmits : s.Admits none)
    (h : perform Session.store (createDraft .skip draft) s = (.error refusal, t)) :
    refusal ≠ .cancelled := by
  by_cases hplaces : s.memory.Places draft
  · rw [createDraft_skip_eq,
      Action.perform_bind_of_ok (checkParent_of_places hsteady hadmits hplaces),
      Action.perform_bind_of_ok rfl] at h
    exact Session.create_ne_cancelled hadmits h
  · obtain ⟨refusal', hne, hparent⟩ := checkParent_of_not_places hadmits hplaces
    rw [createDraft_skip_eq, hsteady.perform_bind_of_reads (reads_checkParent draft), hparent] at h
    cases h
    exact hne

theorem createDraft_enforce_eq_skip (hlive : s.token = .live) (hlist : s.faults.list = none)
    (hunrelated : unrelatedOverlaps s.memory.pools.rows draft = []) :
    perform Session.store (createDraft .enforce draft) s =
      perform Session.store (createDraft .skip draft) s := by
  have hsteady := Session.steady_of_live hlive
  have henforce : createDraft .enforce draft = checkParent draft >>= fun _ =>
      checkOverlaps draft >>= fun _ => Action.create draft := rfl
  rw [henforce, createDraft_skip_eq, hsteady.perform_bind_of_reads (reads_checkParent draft),
    hsteady.perform_bind_of_reads (reads_checkParent draft)]
  cases (perform Session.store (checkParent draft) s).1 with
  | error refusal => rfl
  | ok _ =>
    dsimp only
    have hpure : perform Session.store (pure () : Action Unit) s = (.ok (), s) := rfl
    rw [Action.perform_bind_of_ok hpure]
    by_cases hopen : s.exhausted = true
    · -- a spent session cancels the list in the one case and the creation in the other
      have hcancelled : Session.store.list s = (.error .cancelled, s.tick) :=
        Session.call_of_exhausted hopen
      have hoverlaps : perform Session.store (checkOverlaps draft) s =
          (.error .cancelled, s.tick) := Action.perform_bind_of_error hcancelled
      rw [Action.perform_bind_of_error hoverlaps]
      exact (Session.create_of_exhausted hopen).symm
    · have hadmits : s.Admits s.faults.list :=
        ⟨by simpa using hopen, hlist, by rw [hlive]; rfl⟩
      have hoverlaps : perform Session.store (checkOverlaps draft) s = (.ok (), s) := by
        rw [checkOverlaps_of_admits hsteady hadmits, hunrelated]
        rfl
      rw [Action.perform_bind_of_ok hoverlaps]

theorem compliant_push {m : Memory} (now : Instant) (hids : m.IdsBelow)
    (h : Compliant m.pools.rows) (hunrelated : unrelatedOverlaps m.pools.rows draft = []) :
    Compliant (m.push now draft).pools.rows := by
  have hnodup := (m.push now draft).pools.nodup
  rw [Memory.rows_push hids] at hnodup ⊢
  refine h.append hnodup fun p hp q hq hover => ?_
  obtain rfl := List.mem_singleton.mp hp
  rcases List.mem_append.mp hq with hold | hnew
  · exact related_of_unrelatedOverlaps_eq_nil hunrelated hnodup (List.subset_append_left _ _)
      (List.mem_append_right _ hp) rfl hold hover
  · obtain rfl := List.mem_singleton.mp hnew
    exact Or.inl .refl

end Engine
end AddressPlan
