import AddressPlan.Store.Memory
import AddressPlan.Store.Token
/-!
# Sessions

A memory store as its callers meet it: under a token that may be fired, and with faults that make
single calls fail. A storage call is refused without any effect once the token has fired; the
faults are looked at before the store is.
-/
namespace AddressPlan

/-- Failures that a store is made to show. -/
structure Faults where
  list : Option String
  accounts : Option String
  /-- Creating a pool of one of these names fails with the text beside it. -/
  creates : Named String
  /-- Every call is cancelled once this many pools have been created. -/
  cancelAfter : Option UInt64
deriving DecidableEq

def Faults.none : Faults := ⟨.none, .none, .empty, .none⟩

instance : Inhabited Faults := ⟨.none⟩

structure Session where
  memory : Memory
  token : Token
  faults : Faults
  /-- How many pools storage calls have created. -/
  created : Nat
  now : Instant
deriving DecidableEq

namespace Session

def exhausted (s : Session) : Bool :=
  match s.faults.cancelAfter with
  | some limit => decide (limit.toNat ≤ s.created)
  | none => false

/-- Makes one storage call, unless the token or a fault forbids it. -/
def call {α : Type} (s : Session) (fault : Option String)
    (act : Memory → Except Refusal α × Memory) : Except Refusal α × Session :=
  let ticked := { s with token := s.token.tick }
  if s.exhausted then (.error .cancelled, ticked)
  else match fault with
    | some text => (.error (.storage text), ticked)
    | none =>
      if s.token.hasFired then (.error .cancelled, ticked)
      else
        let (answer, memory) := act s.memory
        (answer, { ticked with memory := memory })

def create (draft : PoolDraft) (s : Session) : Except Refusal Pool × Session :=
  let fault := (s.faults.creates.find? draft.name).map Prod.snd
  match s.call fault (Memory.create s.now draft) with
  | (.ok pool, s) => (.ok pool, { s with created := s.created + 1 })
  | refused => refused

def store : Store Session where
  list s := s.call s.faults.list (Memory.store s.now).list
  get id s := s.call none ((Memory.store s.now).get id)
  create := create
  update id change s := s.call none (Memory.update s.now id change)
  accounts s := s.call s.faults.accounts (Memory.store s.now).accounts

end Session
end AddressPlan
