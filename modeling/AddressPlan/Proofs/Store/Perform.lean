import AddressPlan.Store.Session
/-!
# Performing actions

An action on a store answers with a result or a refusal and leaves a state. The equations below
take a performed action apart at its binds, so that later proofs never look into scripts.
-/
namespace AddressPlan

variable {α β σ : Type} (store : Store σ)

theorem Script.run_invariant {P : σ → Prop} {s : σ} (script : Script α)
    (hlist : ∀ s, P s → P (store.list s).2) (hget : ∀ id s, P s → P (store.get id s).2)
    (hcreate : ∀ draft s, P s → P (store.create draft s).2)
    (hupdate : ∀ id change s, P s → P (store.update id change s).2)
    (haccounts : ∀ s, P s → P (store.accounts s).2) (h : P s) : P (script.run store s).2 := by
  induction script generalizing s with
  | done result => exact h
  | list next ih => exact ih _ (hlist s h)
  | get id next ih => exact ih _ (hget id s h)
  | create draft next ih => exact ih _ (hcreate draft s h)
  | update id change next ih => exact ih _ (hupdate id change s h)
  | accounts next ih => exact ih _ (haccounts s h)

namespace Action

def perform (action : Action α) (s : σ) : Except Refusal α × σ :=
  action.run.run store s

@[simp] theorem perform_pure (a : α) (s : σ) :
    perform store (pure a : Action α) s = (.ok a, s) :=
  rfl

@[simp] theorem perform_throw (refusal : Refusal) (s : σ) :
    perform store (throw refusal : Action α) s = (.error refusal, s) :=
  rfl

@[simp] theorem perform_ofExcept (result : Except Refusal α) (s : σ) :
    perform store (ofExcept result) s = (result, s) :=
  rfl

@[simp] theorem perform_list (s : σ) : perform store list s = store.list s :=
  rfl

@[simp] theorem perform_get (id : PoolId) (s : σ) : perform store (get id) s = store.get id s :=
  rfl

@[simp] theorem perform_create (draft : PoolDraft) (s : σ) :
    perform store (create draft) s = store.create draft s :=
  rfl

@[simp] theorem perform_update (id : PoolId) (change : PoolUpdate) (s : σ) :
    perform store (update id change) s = store.update id change s :=
  rfl

@[simp] theorem perform_accounts (s : σ) : perform store accounts s = store.accounts s :=
  rfl

theorem perform_bind (action : Action α) (f : α → Action β) (s : σ) :
    perform store (action >>= f) s =
      match perform store action s with
      | (.ok a, t) => perform store (f a) t
      | (.error refusal, t) => (.error refusal, t) := by
  have h := Script.run_bind store action.run (ExceptT.bindCont f) s
  refine h.trans ?_
  change _ = match action.run.run store s with
    | (.ok a, t) => perform store (f a) t
    | (.error refusal, t) => (.error refusal, t)
  rcases action.run.run store s with ⟨refusal | a, t⟩
  · rfl
  · rfl

variable {store}

theorem perform_bind_of_ok {action : Action α} {f : α → Action β} {s t : σ} {a : α}
    (h : perform store action s = (.ok a, t)) :
    perform store (action >>= f) s = perform store (f a) t := by
  rw [perform_bind, h]

theorem perform_bind_of_error {action : Action α} {f : α → Action β} {s t : σ}
    {refusal : Refusal} (h : perform store action s = (.error refusal, t)) :
    perform store (action >>= f) s = (.error refusal, t) := by
  rw [perform_bind, h]

theorem perform_bind_eq_ok {action : Action α} {f : α → Action β} {s t : σ} {b : β} :
    perform store (action >>= f) s = (.ok b, t) ↔
      ∃ a m, perform store action s = (.ok a, m) ∧ perform store (f a) m = (.ok b, t) := by
  rw [perform_bind]
  rcases h : perform store action s with ⟨refusal | a, m⟩
  · simp
  · constructor
    · exact fun hb => ⟨a, m, rfl, hb⟩
    · rintro ⟨a', m', heq, hb⟩
      cases heq
      exact hb

theorem perform_ofExcept_of_eq {result answer : Except Refusal α} (h : result = answer) (s : σ) :
    perform store (ofExcept result) s = (answer, s) :=
  congrArg (·, s) h

theorem perform_valid_of_ok {result : Except Invalid α} {a : α} (h : result = .ok a) (s : σ) :
    perform store (valid result) s = (.ok a, s) := by
  rw [h]
  rfl

theorem perform_valid_of_error {result : Except Invalid α} {cause : Invalid}
    (h : result = .error cause) (s : σ) :
    perform store (valid result) s = (.error (.invalid cause), s) := by
  rw [h]
  rfl

theorem perform_lift (script : Script α) (s : σ) :
    perform store (ExceptT.lift script : Action α) s =
      (.ok (script.run store s).1, (script.run store s).2) := by
  have h := Script.run_bind store script (fun a => Script.done (.ok a : Except Refusal α)) s
  exact h

end Action
end AddressPlan
