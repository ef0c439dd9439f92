import AddressPlan.Proofs.Store.Calls
/-!
# What actions leave behind

An action that only reads leaves a session untouched whatever it answers, and a tidy one does so
whenever it is refused. Both properties are those of single calls, carried through binds. Under a
token that has fired no script has any effect at all.
-/
namespace AddressPlan
open Session (Untouched)

namespace Action

variable {α β : Type}

def Reads (action : Action α) : Prop :=
  ∀ s, Untouched s (action.perform Session.store s).2

/-- An action that is refused leaves a session untouched. -/
def Tidy (action : Action α) : Prop :=
  ∀ s t refusal, action.perform Session.store s = (.error refusal, t) → Untouched s t

theorem Reads.tidy {action : Action α} (h : action.Reads) : action.Tidy := by
  intro s t refusal hrun
  have hs := h s
  rwa [hrun] at hs

theorem reads_pure (a : α) : Reads (pure a : Action α) :=
  fun s => .refl s

theorem reads_throw (refusal : Refusal) : Reads (throw refusal : Action α) :=
  fun s => .refl s

theorem reads_ofExcept (result : Except Refusal α) : Reads (ofExcept result) :=
  fun s => .refl s

theorem reads_list : Reads list :=
  fun _ => Session.untouched_list

theorem reads_get (id : PoolId) : Reads (get id) :=
  fun _ => Session.untouched_get id

theorem reads_accounts : Reads accounts :=
  fun _ => Session.untouched_accounts

theorem tidy_create (draft : PoolDraft) : Tidy (create draft) :=
  fun _ _ _ h => Session.untouched_of_create_error h

theorem tidy_update (id : PoolId) (change : PoolUpdate) : Tidy (update id change) :=
  fun _ _ _ h => Session.untouched_of_update_error h

def Keeps (P : Session → Prop) (action : Action α) : Prop :=
  ∀ s, P s → P (action.perform Session.store s).2

section Keeping

variable {P : Session → Prop} {action : Action α}

theorem Reads.keeps (h : action.Reads) (hP : ∀ s t, Untouched s t → P s → P t) :
    Keeps P action :=
  fun s hs => hP s _ (h s) hs

theorem Tidy.keeps (h : action.Tidy) (hP : ∀ s t, Untouched s t → P s → P t)
    (hok : ∀ s t a, P s → action.perform Session.store s = (.ok a, t) → P t) :
    Keeps P action := by
  intro s hs
  cases hrun : action.perform Session.store s with
  | mk answer t =>
    cases answer with
    | error refusal => exact hP s t (h s t refusal hrun) hs
    | ok a => exact hok s t a hs hrun

theorem Keeps.bind {f : α → Action β} (h : Keeps P action) (hf : ∀ a, Keeps P (f a)) :
    Keeps P (action >>= f) := by
  intro s hs
  have ht := h s hs
  rw [perform_bind]
  cases hrun : action.perform Session.store s with
  | mk answer t =>
    rw [hrun] at ht
    cases answer with
    | error refusal => exact ht
    | ok a => exact hf a t ht

end Keeping

theorem Reads.bind {action : Action α} {f : α → Action β} (h : action.Reads)
    (hf : ∀ a, Reads (f a)) : Reads (action >>= f) := by
  intro s
  have hkeeps : ∀ {γ : Type} {a : Action γ}, a.Reads → Keeps (Untouched s) a :=
    fun hreads => hreads.keeps fun _ _ ht hs => hs.trans ht
  exact (hkeeps h).bind (fun a => hkeeps (hf a)) s (.refl s)

theorem Reads.bind_tidy {action : Action α} {f : α → Action β} (h : action.Reads)
    (hf : ∀ a, Tidy (f a)) : Tidy (action >>= f) := by
  intro s u refusal hbind
  have hs := h s
  rw [perform_bind] at hbind
  cases hrun : action.perform Session.store s with
  | mk answer t =>
    rw [hrun] at hs hbind
    cases answer with
    | error refusal' =>
      cases hbind
      exact hs
    | ok a => exact hs.trans (hf a t u refusal hbind)

end Action

namespace Session

variable {α : Type} {s : Session}

/-- Calls do not use up the token: it never fires, or it has fired. -/
def Steady (s : Session) : Prop :=
  s.token.tick = s.token

theorem steady_of_live (h : s.token = .live) : s.Steady := by
  rw [Steady, h]
  rfl

theorem admits_of_live (hlive : s.token = .live) (hfaults : s.faults = .none) : s.Admits none :=
  ⟨by rw [exhausted, hfaults]; rfl, rfl, by rw [hlive]; rfl⟩

theorem createFault_of_sound (h : s.faults = .none) (name : String) :
    s.createFault name = none := by
  rw [createFault, h]
  rfl

private theorem steady_of_fired (h : s.token = .fired) : s.Steady := by
  rw [Steady, h]
  rfl

theorem Steady.live_or_fired (h : s.Steady) : s.token = .live ∨ s.token = .fired := by
  obtain ⟨⟨callsLeft⟩, htoken⟩ : ∃ token, s.token = token := ⟨_, rfl⟩
  rw [Steady, htoken] at h
  rw [htoken]
  cases callsLeft with
  | none => exact Or.inl rfl
  | some n =>
    have hn : n - 1 = n := Option.some.inj (congrArg Token.callsLeft h)
    obtain rfl : n = 0 := by omega
    exact Or.inr rfl

theorem Steady.tick_eq (h : s.Steady) : s.tick = s := by
  rw [tick, h]

private theorem token_call {fault : Option String} {act : Memory → Except Refusal α × Memory} :
    (s.call fault act).2.token = s.token.tick := by
  by_cases hadmits : s.Admits fault
  · rw [call_of_admits hadmits]
    rfl
  · obtain ⟨refusal, hcall⟩ := call_of_not_admits act hadmits
    rw [hcall]
    rfl

private theorem token_create {draft : PoolDraft} : (create draft s).2.token = s.token.tick := by
  by_cases hstores : s.Stores draft
  · rw [create_of_stores hstores]
    rfl
  · obtain ⟨refusal, hcreate⟩ := create_of_not_stores hstores
    rw [hcreate]
    rfl

theorem Steady.token_run (script : Script α) (h : s.Steady) :
    (script.run store s).2.token = s.token := by
  have hnext : ∀ u : Session, u.token = s.token → u.token.tick = s.token :=
    fun u hu => by rw [hu, h]
  refine Script.run_invariant store (P := fun u => u.token = s.token) script ?_ ?_ ?_ ?_ ?_ rfl
  · exact fun u hu => token_call.trans (hnext u hu)
  · exact fun id u hu => token_call.trans (hnext u hu)
  · exact fun draft u hu => token_create.trans (hnext u hu)
  · exact fun id change u hu => token_call.trans (hnext u hu)
  · exact fun u hu => token_call.trans (hnext u hu)

theorem Steady.perform_of_reads {action : Action α} (h : s.Steady) (hreads : action.Reads) :
    (action.perform store s).2 = s := by
  rw [hreads s, Action.perform, h.token_run]

theorem Steady.perform_bind_of_reads {β : Type} {action : Action α} {f : α → Action β}
    (h : s.Steady) (hreads : action.Reads) : (action >>= f).perform store s =
      match (action.perform store s).1 with
      | .ok a => (f a).perform store s
      | .error refusal => (.error refusal, s) := by
  have hsame := h.perform_of_reads hreads
  rw [Action.perform_bind]
  cases hrun : action.perform store s with
  | mk answer t =>
    rw [hrun] at hsame
    obtain rfl : t = s := hsame
    cases answer with
    | error refusal => rfl
    | ok a => rfl

theorem not_admits_of_fired {fault : Option String} (h : s.token = .fired) : ¬s.Admits fault := by
  intro hadmits
  have hlive := hadmits.live
  rw [h] at hlive
  cases hlive

theorem run_of_fired (script : Script α) (h : s.token = .fired) :
    (script.run store s).2 = s := by
  have hcall : ∀ {β : Type} {fault : Option String} {act : Memory → Except Refusal β × Memory}
      (u : Session), u = s → (u.call fault act).2 = s := by
    rintro β fault act u rfl
    obtain ⟨refusal, hcall⟩ := call_of_not_admits act (not_admits_of_fired h)
    rw [hcall]
    exact (steady_of_fired h).tick_eq
  have hcreate : ∀ (draft : PoolDraft) (u : Session), u = s → (create draft u).2 = s := by
    rintro draft u rfl
    have hstores : ¬u.Stores draft := fun hstores => not_admits_of_fired h hstores.admits
    obtain ⟨refusal, hcreate⟩ := create_of_not_stores hstores
    rw [hcreate]
    exact (steady_of_fired h).tick_eq
  exact Script.run_invariant store (P := fun u => u = s) script (fun u => hcall u)
    (fun id u => hcall u) hcreate (fun id change u => hcall u) (fun u => hcall u) rfl

end Session
end AddressPlan
