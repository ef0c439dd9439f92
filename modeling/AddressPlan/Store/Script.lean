import AddressPlan.Refusal
/-!
# Storage scripts

What an operation asks of storage, written as a tree: each node is one storage call, and the rest
of the operation is a function of the answer. Every operation is written once, as a script, and
runs over any store; a storage call is atomic, so the scripts of several callers may interleave
between any two calls.
-/
namespace AddressPlan

inductive Script (α : Type) : Type
  | done (result : α)
  | list (next : Except Refusal (List Pool) → Script α)
  | get (id : PoolId) (next : Except Refusal (Option Pool) → Script α)
  | create (draft : PoolDraft) (next : Except Refusal Pool → Script α)
  | update (id : PoolId) (change : PoolUpdate) (next : Except Refusal Pool → Script α)
  | accounts (next : Except Refusal (List Account) → Script α)

/-- A store with states `σ`: what each storage call answers and the state it leaves. -/
structure Store (σ : Type) where
  list : σ → Except Refusal (List Pool) × σ
  get : PoolId → σ → Except Refusal (Option Pool) × σ
  create : PoolDraft → σ → Except Refusal Pool × σ
  update : PoolId → PoolUpdate → σ → Except Refusal Pool × σ
  accounts : σ → Except Refusal (List Account) × σ

namespace Script

variable {α β σ : Type}

def bind : Script α → (α → Script β) → Script β
  | done result, f => f result
  | list next, f => list fun answer => (next answer).bind f
  | get id next, f => get id fun answer => (next answer).bind f
  | create draft next, f => create draft fun answer => (next answer).bind f
  | update id change next, f => update id change fun answer => (next answer).bind f
  | accounts next, f => accounts fun answer => (next answer).bind f

instance : Monad Script where
  pure := done
  bind := bind

def run (store : Store σ) : Script α → σ → α × σ
  | done result, s => (result, s)
  | list next, s => let (answer, s) := store.list s; (next answer).run store s
  | get id next, s => let (answer, s) := store.get id s; (next answer).run store s
  | create draft next, s =>
    let (answer, s) := store.create draft s; (next answer).run store s
  | update id change next, s =>
    let (answer, s) := store.update id change s; (next answer).run store s
  | accounts next, s => let (answer, s) := store.accounts s; (next answer).run store s

theorem run_bind (store : Store σ) (script : Script α) (f : α → Script β) (s : σ) :
    (script.bind f).run store s =
      (f (script.run store s).1).run store (script.run store s).2 := by
  induction script generalizing s with
  | done result => rfl
  | list next ih => exact ih _ _
  | get id next ih => exact ih _ _
  | create draft next ih => exact ih _ _
  | update id change next ih => exact ih _ _
  | accounts next ih => exact ih _ _

end Script

/-- A script that may be refused half way. -/
abbrev Action (α : Type) : Type := ExceptT Refusal Script α

namespace Action

def list : Action (List Pool) := ExceptT.mk (.list .done)

def get (id : PoolId) : Action (Option Pool) := ExceptT.mk (.get id .done)

def create (draft : PoolDraft) : Action Pool := ExceptT.mk (.create draft .done)

def update (id : PoolId) (change : PoolUpdate) : Action Pool :=
  ExceptT.mk (.update id change .done)

def accounts : Action (List Account) := ExceptT.mk (.accounts .done)

def ofExcept {α : Type} (result : Except Refusal α) : Action α := ExceptT.mk (.done result)

def valid {α : Type} (result : Except Invalid α) : Action α :=
  ofExcept (result.mapError .invalid)

end Action
end AddressPlan
