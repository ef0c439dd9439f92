/-!
# Results

How a computation that may fail comes to a value: each of its parts does.
-/
namespace AddressPlan

variable {ε ε' α β : Type}

theorem bind_eq_ok {x : Except ε α} {f : α → Except ε β} {b : β} :
    x >>= f = .ok b ↔ ∃ a, x = .ok a ∧ f a = .ok b := by
  cases x with
  | error e => exact ⟨fun h => (by cases h), fun ⟨_, h, _⟩ => (by cases h)⟩
  | ok a =>
    constructor
    · exact fun h => ⟨a, rfl, h⟩
    · rintro ⟨a', ha, h⟩
      cases ha
      exact h

theorem mapError_eq_ok {x : Except ε α} {f : ε → ε'} {a : α} :
    x.mapError f = .ok a ↔ x = .ok a := by
  cases x with
  | error e => exact ⟨fun h => (by cases h), fun h => (by cases h)⟩
  | ok a' => exact ⟨fun h => (by cases h; rfl), fun h => (by cases h; rfl)⟩

theorem map_eq_ok {x : Except ε α} {f : α → β} {b : β} :
    x.map f = .ok b ↔ ∃ a, x = .ok a ∧ f a = b := by
  cases x with
  | error e => exact ⟨fun h => (by cases h), fun ⟨_, h, _⟩ => (by cases h)⟩
  | ok a =>
    constructor
    · exact fun h => ⟨a, rfl, Except.ok.inj h⟩
    · rintro ⟨a', ha, rfl⟩
      cases ha
      rfl

theorem exists_of_map_eq_ok {x : Except ε α} {f : α → β} {b : β} (h : x.map f = .ok b) :
    ∃ a, x = .ok a :=
  (map_eq_ok.mp h).imp fun _ => And.left

theorem mapM_eq_some_nil_iff {f : α → Option β} {xs : List α} :
    xs.mapM f = some [] ↔ xs = [] := by
  cases xs with
  | nil => simp
  | cons x xs => cases hx : f x <;> cases hxs : xs.mapM f <;> simp [List.mapM_cons, hx, hxs]

theorem mapM_eq_some_cons_iff {f : α → Option β} {xs : List α} {b : β} {bs : List β} :
    xs.mapM f = some (b :: bs) ↔
      ∃ x rest, xs = x :: rest ∧ f x = some b ∧ rest.mapM f = some bs := by
  cases xs with
  | nil => simp
  | cons x xs =>
    rw [List.mapM_cons]
    simp only [Option.bind_eq_bind, Option.bind_eq_some_iff]
    constructor
    · rintro ⟨y, hx, ys, hxs, hlist⟩
      cases hlist
      exact ⟨x, xs, rfl, hx, hxs⟩
    · rintro ⟨y, rest, hlist, hx, hrest⟩
      cases hlist
      exact ⟨b, hx, bs, hrest, rfl⟩

theorem mapM_map_eq_some {f : β → Option α} {g : α → β} (h : ∀ a, f (g a) = some a)
    (xs : List α) : (xs.map g).mapM f = some xs := by
  induction xs with
  | nil => rfl
  | cons x xs ih =>
    rw [List.map_cons, List.mapM_cons, h, ih]
    rfl

end AddressPlan
