import Mathlib
import AddressPlan.Proofs.Engine.Drafts
import AddressPlan.Proofs.Runs.Events
/-!
# Stored pools in normal form

What has been stored is in the form that validation brings texts to: a stored pool, written out as a
request, passes validation and stands for itself. The name and the block of a pool are what has been
accepted, and changes leave both alone; its kind, status and source have names that are read back.
-/
namespace AddressPlan

def Pool.asDraft (p : Pool) : PoolDraft where
  name := p.name
  cidr := p.cidr
  kind := p.kind
  status := p.status
  parent := p.parent
  source := p.source
  description := p.description
  tags := p.tags

/-- A pool is left alone by validation, and so keeps to the limits. -/
structure Pool.Normal (limits : Limits) (p : Pool) : Prop where
  validates : p.asDraft.asRequest.validate limits = .ok p.asDraft
  trimmed : Text.trim p.name = p.name
  name_ne : p.name ≠ ""
  nameLength : p.name.length ≤ limits.maxNameLength.toNat
  controls : ∀ c ∈ p.name.toList, Text.isControl c = false
  minLength : limits.minPrefixLength.toNat ≤ p.cidr.length
  maxLength : p.cidr.length ≤ limits.maxPrefixLength.toNat

/-- The name and the block of a pool pass validation as they are. -/
structure Pool.Accepted (limits : Limits) (p : Pool) : Prop where
  name : validName limits p.name = .ok p.name
  cidr : validCidr limits p.cidr.text = .ok p.cidr

variable {limits : Limits}

private theorem Pool.Accepted.normal {p : Pool} (h : p.Accepted limits) : p.Normal limits := by
  obtain ⟨htrimmed, hne, hlength, hcontrols⟩ := validName_eq_ok_iff.mp h.name
  obtain ⟨-, hmin, hmax⟩ := validCidr_eq_ok_iff.mp h.cidr
  exact ⟨p.asDraft.validate_asRequest h.name h.cidr, htrimmed.symm, hne, hlength, hcontrols, hmin,
    hmax⟩

private theorem Pool.Accepted.of_setOnce {p q : Pool} (h : p.Accepted limits)
    (hsame : q.SetOnce p) :
    q.Accepted limits := by
  refine ⟨?_, ?_⟩
  · rw [hsame.name]
    exact h.name
  · rw [hsame.cidr]
    exact h.cidr

theorem PoolDraft.Produced.accepted {draft : PoolDraft} (h : draft.Produced limits) (id : PoolId)
    (now : Instant) : (draft.toPool id now).Accepted limits := by
  obtain ⟨⟨_, hname⟩, ⟨_, hcidr⟩⟩ := h.exists_valid
  exact ⟨validName_of_validName hname, validCidr_of_validCidr hcidr⟩

private theorem Memory.accepted_keptByChanges : KeptByChanges (fun _ draft => draft.Produced limits)
    fun _ m => ∀ pool ∈ m.pools.rows, pool.Accepted limits := by
  intro m n count created hchange h
  cases hchange with
  | stored now haccepts hproduced =>
    intro pool hmem
    rcases mem_rows_push.mp hmem with rfl | ⟨hold, -⟩
    · exact hproduced.accepted m.nextId now
    · exact h pool hold
  | changed now change hfind =>
    obtain ⟨f, hrows, hsame⟩ := rows_change now change hfind
    change ∀ pool ∈ (m.pools.insert _).rows, pool.Accepted limits
    rw [hrows, List.forall_mem_map]
    exact fun old hold => (h old hold).of_setOnce (hsame old hold)
  | accounts accounts => exact h

/-- A draft that is handed in as such comes from a request that has passed validation. -/
def Engine.Command.Validated (limits : Limits) : Engine.Command → Prop
  | .createDraft _ draft | .storeCreate draft =>
    ∃ request : PoolRequest, request.validate limits = .ok draft
  | _ => True

def Event.Validated (limits : Limits) : Event → Prop
  | .command c => c.Validated limits
  | .addPool _ => False
  | _ => True

theorem Engine.Command.Validated.stores {command : Engine.Command}
    (h : command.Validated limits) :
    command.Stores limits fun _ draft => draft.Produced limits := by
  cases command with
  | create policy request => exact fun _ _ hvalid _ => .request hvalid
  | createDraft policy draft =>
    obtain ⟨request, hvalid⟩ := h
    exact fun _ _ => .request hvalid
  | storeCreate draft =>
    obtain ⟨request, hvalid⟩ := h
    exact fun _ => .request hvalid
  | apply request =>
    exact fun _ _ _ status kind parent hsteps hstep _ => .step hsteps hstep status kind parent
  | _ => trivial

theorem Event.Validated.stores {event : Event} (h : event.Validated limits) :
    event.Stores limits fun _ draft => draft.Produced limits := by
  cases event with
  | command command => exact Engine.Command.Validated.stores h
  | addPool pool => exact h.elim
  | _ => trivial

/-- After every run from an empty memory, every stored pool is left alone by validation. -/
theorem Session.normal_after {s : Session} {events : List Event} (hempty : s.memory = .empty)
    (hevents : ∀ event ∈ events, event.Validated limits) :
    ∀ pool ∈ (s.after limits events).memory.pools.rows, pool.Normal limits := by
  have hstart : ∀ pool ∈ s.memory.pools.rows, pool.Accepted limits := by
    rw [hempty]
    exact fun _ hmem => nomatch hmem
  have hend := Session.kept_after Memory.accepted_keptByChanges
    (fun event hmem => (hevents event hmem).stores) hstart
  exact fun pool hmem => (hend pool hmem).normal

/-- Pools from texts with blanks, host bits and other spellings: through the engine, past it, and by
a plan whose entry names a kind that there is not; the first is changed later. -/
theorem Session.normal_after_spellings :
    let s := Session.fresh .empty .epoch
    let outer : PoolRequest := ⟨"  Outer block ", " 10.1.2.3/16", some "ACCOUNT ", some "Active",
      none, none, none, .empty⟩
    let request : PoolRequest :=
      ⟨"Δ ", "172.16.0.1/24", some "Supernet", none, none, some "schema-planner", none, .empty⟩
    let draft : PoolDraft := ⟨"Δ", .ofAddress 0xAC100000 24 (by decide), .supernet, .planned, none,
      .planner, "", .empty⟩
    let plan : Plan.Request := ⟨[{ Plan.Entry.of " a" "\tleaf" "10.1.7.7/30" with
      kind := some "leaf" }], some " ", .empty, true⟩
    let events : List Event := [
      .command (.create .enforce outer), .command (.storeCreate draft), .command (.apply plan),
      .token .fired, .clock .epoch, .token .live,
      .command (.update 1 ⟨some " DEPRECATED", some " ", none⟩)]
    s.memory = .empty ∧ request.validate .standard = .ok draft ∧
      (∀ event ∈ events, event.Validated .standard) ∧
      (s.after .standard events).memory.pools.rows.map (fun p => (p.name, p.cidr.text)) =
        [("Outer block", "10.1.0.0/16"), ("Δ", "172.16.0.0/24"), ("leaf", "10.1.7.4/30")] ∧
      ∀ pool ∈ (s.after .standard events).memory.pools.rows, pool.Normal .standard := by
  intro s outer request draft plan events
  have hempty : s.memory = .empty := rfl
  have hvalid : request.validate .standard = .ok draft := by decide +kernel
  have hevents : ∀ event ∈ events, event.Validated .standard := by
    simp only [events, List.forall_mem_cons]
    exact ⟨trivial, ⟨request, hvalid⟩, trivial, trivial, trivial, trivial, trivial,
      List.forall_mem_nil _⟩
  have hsteps : plan.steps .standard = .ok [⟨{ Plan.Entry.of " a" "\tleaf" "10.1.7.7/30" with
      kind := some "leaf" }, "a", "leaf", .ofAddress 0x0A010704 30 (by decide), none, none⟩] :=
    Plan.Request.steps_of_checks (by decide) (by decide +kernel) (by decide +kernel) (by cbv)
  let t := s.occur .standard (.command (.create .enforce outer))
  let u := t.occur .standard (.command (.storeCreate draft))
  have hrun : (Engine.applyPlan .standard plan).perform Session.store u = _ :=
    Engine.perform_runPlan hsteps (Engine.planGate_of_ungated rfl)
  have hafter : s.after .standard events = _ :=
    calc s.after .standard events
      _ = t.after .standard (events.drop 1) := Session.after_cons rfl
      _ = u.after .standard (events.drop 2) := Session.after_cons rfl
      _ = _ := Session.after_cons (congrArg Prod.snd hrun)
  refine ⟨hempty, hvalid, hevents, ?_, Session.normal_after hempty hevents⟩
  rw [hafter]
  decide +kernel

end AddressPlan
