import Mathlib
import AddressPlan.Proofs.Engine.Nesting
import AddressPlan.Proofs.Runs.Events
/-!
# The forest of pools over runs

A session that starts with an empty memory and creates pools through the engine only has nested
pools all along: with and without the looks for overlaps, whatever fails and wherever a plan ends.
So the ancestors of a stored pool are its whole chain up to a root.
-/
namespace AddressPlan
variable {limits : Limits} {s : Session}

def Event.ChecksParent : Event → Prop
  | .command c => c.ChecksParent
  | .addPool _ => False
  | _ => True

theorem Event.ChecksParent.stores {event : Event} (h : event.ChecksParent) :
    event.Stores limits Memory.Places := by
  cases event with
  | command command => exact Engine.Command.ChecksParent.stores h
  | addPool pool => exact h.elim
  | _ => trivial

private theorem Session.nested_after {events : List Event}
    (hevents : ∀ event ∈ events, event.ChecksParent)
    (h : s.memory.Nested) (hlast : s.IdsLast (s.after limits events).created) :
    (s.after limits events).memory.Nested := by
  have hkept := Memory.KeptByChanges.meanwhile s fun m n count => Memory.Nested.changes (m := m)
  have hend : s.Meanwhile Memory.Nested (s.after limits events).created
      (s.after limits events).memory :=
    Session.kept_after hkept (fun event hmem => (hevents event hmem).stores) (.start h)
  exact (hend hlast).2

/-- After every run from an empty memory the stored pools form a forest, as long as the ids last. -/
theorem Session.forest_after {events : List Event} (hempty : s.memory = .empty)
    (hevents : ∀ event ∈ events, event.ChecksParent)
    (hlast : s.IdsLast (s.after limits events).created) :
    (s.after limits events).memory.Forest := by
  have hstart : s.memory.Nested := by
    rw [hempty]
    exact Memory.nested_empty
  exact (Session.nested_after hevents hstart hlast).forest

/-- A run that creates a pool and one below it without looks for overlaps, fails at the name of a
third, fires its token before a fourth, and changes the second. -/
theorem Session.forest_after_skips :
    let s : Session := ⟨.empty, .live, ⟨none, none, .ofList [("lab", "disk full")], none⟩, 0,
      .epoch⟩
    let spec (name cidr : String) (parent : Option PoolId) : PoolRequest :=
      ⟨name, cidr, none, none, parent, none, none, .empty⟩
    let events : List Event := [
      .command (.create .skip (spec "outer" "10.0.0.0/16" none)),
      .command (.create .skip (spec "inner" "10.0.1.0/24" (some 1))),
      .command (.create .skip (spec "lab" "10.0.1.0/28" (some 2))),
      .token .fired,
      .command (.create .skip (spec "late" "10.0.2.0/24" (some 1))),
      .token .live,
      .command (.update 2 ⟨some "active", none, none⟩)]
    s.memory = .empty ∧ (∀ event ∈ events, event.ChecksParent) ∧
      s.IdsLast (s.after .standard events).created ∧
      (s.after .standard events).memory.pools.rows.map Pool.parent = [none, some 1] ∧
      (s.after .standard events).memory.Forest := by
  intro s spec events
  have hempty : s.memory = .empty := rfl
  have hevents : ∀ event ∈ events, event.ChecksParent := by
    simp [events, Event.ChecksParent, Engine.Command.ChecksParent]
  have hlast : s.IdsLast (s.after .standard events).created := by
    rw [Session.IdsLast]
    decide +kernel
  exact ⟨hempty, hevents, hlast, by decide +kernel, Session.forest_after hempty hevents hlast⟩

end AddressPlan
