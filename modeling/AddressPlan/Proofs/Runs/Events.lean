import AddressPlan.Proofs.Engine.Changes
/-!
# Runs

A run of a session is a sequence of events: commands that succeed or are refused, tokens that are
fired or replaced, time that passes, and rows that are put into the memory as they are. What every
single event keeps, a run keeps.
-/
namespace AddressPlan
open Engine (Command)

inductive Event
  | command (command : Command)
  /-- The caller goes on under this token; it may have fired, or fire after some more calls. -/
  | token (token : Token)
  | clock (now : Instant)
  | addPool (pool : Pool)
  | addAccount (account : Account)

/-- Every draft that the event may come to store is allowed, and no pool is put in as it is. -/
def Event.Stores (limits : Limits) (allowed : Memory → PoolDraft → Prop) : Event → Prop
  | .command c => c.Stores limits allowed
  | .addPool _ => False
  | _ => True

namespace Session

def occur (limits : Limits) (s : Session) : Event → Session
  | .command command => ((command.action limits).perform store s).2
  | .token token => { s with token := token }
  | .clock now => { s with now := now }
  | .addPool pool => { s with memory := s.memory.addPool pool }
  | .addAccount account => { s with memory := s.memory.addAccount account }

def after (limits : Limits) (s : Session) (events : List Event) : Session :=
  events.foldl (occur limits) s

theorem after_cons {limits : Limits} {s t : Session} {event : Event} {events : List Event}
    (h : s.occur limits event = t) : s.after limits (event :: events) = t.after limits events := by
  rw [after, List.foldl_cons, h, after]

theorem after_keeps {limits : Limits} {P : Session → Prop} {allowed : Event → Prop} {s : Session}
    {events : List Event} (hevent : ∀ s event, allowed event → P s → P (s.occur limits event))
    (hallowed : ∀ event ∈ events, allowed event) (h : P s) : P (s.after limits events) := by
  induction events generalizing s with
  | nil => exact h
  | cons event events ih =>
    refine ih (fun e he => hallowed e (List.mem_cons_of_mem _ he)) ?_
    exact hevent s event (hallowed event List.mem_cons_self) h

theorem kept_after {limits : Limits} {allowed : Memory → PoolDraft → Prop}
    {P : Nat → Memory → Prop} {s : Session} {events : List Event}
    (hP : Memory.KeptByChanges allowed P) (hevents : ∀ event ∈ events, event.Stores limits allowed)
    (h : P s.created s.memory) :
    P (s.after limits events).created (s.after limits events).memory := by
  refine after_keeps (P := fun s => P s.created s.memory) (fun s event hevent h => ?_) hevents h
  cases event with
  | command command => exact hP.command hevent s h
  | token token => exact h
  | clock now => exact h
  | addPool pool => exact hevent.elim
  | addAccount account => exact hP _ _ _ _ (.accounts _) h

end Session
end AddressPlan
