import AddressPlan.Proofs.Json.Decoding
import AddressPlan.Proofs.Json.RoundTrip
import AddressPlan.Proofs.Results
/-!
# What values spell

A value spells something for a decoder if the decoder makes that of it and the reader goes deep
enough for it. Decoders are put together like the values that they take, so what a value spells
follows from what its parts spell. For a record these are its fields in their order, some of them
left out.
-/
namespace AddressPlan.Json

/-- A decoder makes `a` of a value, which is nested at most `room` deep. -/
structure Spells {α : Type} (decode : Decoder α) (room : Nat) (v : Value) (a : α) : Prop where
  fits : v.Fits room
  decode_eq : decode (Node.ofValue v) = .ok a

namespace Spells

variable {α : Type} {decode : Decoder α} {room : Nat} {v : Value} {a : α}

theorem decodeText (h : Spells decode maxDepth v a) : decodeText decode v.text = .ok a := by
  rw [decodeText_text decode h.fits, h.decode_eq]

section Scalars

theorem string (s : String) : Spells Decoder.string room (.string s) s :=
  ⟨trivial, rfl⟩

theorem bool (b : Bool) : Spells Decoder.bool room (.bool b) b :=
  ⟨trivial, rfl⟩

theorem nat (n : UInt64) : Spells Decoder.uint64 room (.nat n) n :=
  ⟨trivial, rfl⟩

theorem count {n : Nat} (h : n < UInt64.size) : Spells Decoder.count room (.count n) n where
  fits := trivial
  decode_eq := congrArg Except.ok (Nat.mod_eq_of_lt h)

theorem uint8 (n : UInt8) : Spells Decoder.uint8 room (.count n.toNat) n where
  fits := trivial
  decode_eq := by
    have hlt : n.toNat < 256 := n.toNat_lt
    have hsame : (UInt64.ofNat n.toNat).toNat = n.toNat := Nat.mod_eq_of_lt (by omega)
    rw [Value.count, Value.nat, Node.ofValue, Decoder.uint8, hsame]
    exact (if_pos hlt).trans (congrArg Except.ok UInt8.ofNat_toNat)

theorem reading {read : String → Option α} {s : String} (h : read s = some a) :
    Spells (Decoder.reading read) room (.string s) a where
  fits := trivial
  decode_eq := by
    rw [Node.ofValue, Decoder.reading]
    refine bind_eq_ok.mpr ⟨s, rfl, ?_⟩
    rw [h]

theorem name {ofName? : String → Option α} {s : String} (h : ofName? s = some a) :
    Spells (Decoder.name ofName?) room (.string s) a where
  fits := trivial
  decode_eq := by
    rw [Node.ofValue, Decoder.name, h]

end Scalars

section Collections

variable {f : α → Value}

private theorem ne_null (h : Spells decode room v a) (hnull : decode .null = .error .mismatch) :
    Node.ofValue v ≠ .null := by
  intro heq
  have hdecode := h.decode_eq
  rw [heq, hnull] at hdecode
  cases hdecode

theorem given (h : Spells decode room v a) (hnull : decode .null = .error .mismatch) :
    Spells (Decoder.option decode) room v (some a) where
  fits := h.fits
  decode_eq := by
    rw [Decoder.option_of_ne_null (h.ne_null hnull), h.decode_eq]
    rfl

theorem option (hnull : decode .null = .error .mismatch) {o : Option α}
    (h : ∀ a, o = some a → Spells decode room (f a) a) :
    Spells (Decoder.option decode) room (.option f o) o := by
  cases o with
  | none => exact ⟨trivial, rfl⟩
  | some a => exact (h a rfl).given hnull

theorem orElse {default : α} (h : Spells decode room v a)
    (hnull : decode .null = .error .mismatch) :
    Spells (Decoder.orElse decode default) room v a where
  fits := h.fits
  decode_eq := by
    rw [Decoder.orElse_of_ne_null (h.ne_null hnull), h.decode_eq]

theorem list {as : List α} (h : ∀ a ∈ as, Spells decode room (f a) a) :
    Spells (Decoder.list decode) (room + 1) (.list f as) as where
  fits := by
    refine fits_array fun v hv => ?_
    obtain ⟨a, ha, rfl⟩ := List.mem_map.mp hv
    exact (h a ha).fits
  decode_eq := by
    have hdecode := Decoder.list_ofValue (g := id) fun a ha => (h a ha).decode_eq
    rwa [List.map_id] at hdecode

theorem named {as : Named α} (h : ∀ a, Spells decode room (f a) a) :
    Spells (Decoder.named decode) (room + 1) (.named f as) as where
  fits := by
    refine fits_object fun field hfield => ?_
    obtain ⟨row, -, rfl⟩ := List.mem_map.mp hfield
    exact (h row.2).fits
  decode_eq := by
    have hnamed : Value.named f as = .object (as.rows.map fun row => (row.1, f row.2)) := rfl
    have hfields : ∀ rows : List (String × α),
        Decoder.fields decode (Node.ofFields (rows.map fun row => (row.1, f row.2))) =
          .ok rows := by
      intro rows
      induction rows with
      | nil => rfl
      | cons row rows ih =>
        rw [List.map_cons, Node.ofFields, Decoder.fields, (h row.2).decode_eq, ih]
        rfl
    rw [hnamed, Node.ofValue, Decoder.named, hfields]
    exact congrArg Except.ok (Keyed.ofList_rows as)

end Collections
end Spells

section Free

mutual

/-- The fields of every object in a value stand in strictly ascending order of their names. -/
def Value.Sorted : Value → Prop
  | .array items => itemsSorted items
  | .object fields => fields.Pairwise (·.1 < ·.1) ∧ fieldsSorted fields
  | _ => True

def itemsSorted : List Value → Prop
  | [] => True
  | v :: vs => v.Sorted ∧ itemsSorted vs

def fieldsSorted : List (String × Value) → Prop
  | [] => True
  | (_, v) :: fields => v.Sorted ∧ fieldsSorted fields

end

mutual

theorem Value.Sorted.settled : ∀ {v : Value}, v.Sorted → Node.Settled v
  | .null, _ => rfl
  | .bool _, _ => rfl
  | .number _, _ => rfl
  | .string _, _ => rfl
  | .array items, h => by
    have hitems : Node.itemsValue? (Node.ofItems items) = some items := itemsValue?_of_sorted h
    simp only [Node.Settled, Node.ofValue, Node.value?, hitems, Option.map_some]
  | .object fields, h => by
    have hfields : ∀ field ∈ fields, Node.Settled field.2 := settled_of_fieldsSorted h.2
    rw [Node.Settled, Node.value?_object hfields, Node.ordered_of_ascending h.1]

private theorem itemsValue?_of_sorted : ∀ {items : List Value}, itemsSorted items →
    Node.itemsValue? (Node.ofItems items) = some items
  | [], _ => rfl
  | v :: vs, h => by
    have hv : (Node.ofValue v).value? = some v := Value.Sorted.settled h.1
    have hvs : Node.itemsValue? (Node.ofItems vs) = some vs := itemsValue?_of_sorted h.2
    simp [Node.ofItems, Node.itemsValue?, hv, hvs]

private theorem settled_of_fieldsSorted : ∀ {fields : List (String × Value)}, fieldsSorted fields →
    ∀ field ∈ fields, Node.Settled field.2
  | [], _, _, hmem => absurd hmem List.not_mem_nil
  | (_, v) :: fields, h, field, hmem => by
    rcases List.mem_cons.mp hmem with rfl | hmem
    · exact Value.Sorted.settled h.1
    · exact settled_of_fieldsSorted h.2 field hmem

end

theorem Spells.value {room : Nat} {v : Value} (hsorted : v.Sorted) (hfits : v.Fits room) :
    Spells Decoder.value room v v where
  fits := hfits
  decode_eq := by
    have hsettled : (Node.ofValue v).value? = some v := hsorted.settled
    rw [Decoder.value, hsettled]

end Free

section Tagged

variable {α β : Type} {decode : Decoder α} {room : Nat} {v : Value} {a : α}

theorem Spells.map (f : α → β) (h : Spells decode room v a) :
    Spells (fun n => f <$> decode n) room v (f a) where
  fits := h.fits
  decode_eq := by
    rw [h.decode_eq]
    rfl

/-- An object may tell in front of its fields which record it spells. This does not show in the
record as long as nothing in it looks like a name with an empty object. -/
theorem Spells.tagged {tag name : String} {variants : String → Option (Decoder α)}
    {fields : List (String × Value)} (hvariant : variants name = some decode)
    (hfresh : tag ∉ fields.map Prod.fst)
    (hloosen : ∀ field ∈ fields, (Node.ofValue field.2).loosen = Node.ofValue field.2)
    (h : Spells decode (room + 1) (.object fields) a) :
    Spells (Json.tagged tag variants) (room + 1) (.object ((tag, .string name) :: fields)) a where
  fits := ⟨h.fits.1, trivial, h.fits.2⟩
  decode_eq := by
    obtain ⟨w, hw⟩ := Node.exists_value?_ofValue (.object ((tag, .string name) :: fields))
    have hne : ∀ field ∈ Node.ofFields fields, field.1 ≠ tag := by
      rintro field hfield rfl
      rw [← Node.names_ofFields] at hfresh
      exact hfresh (List.mem_map_of_mem hfield)
    have htag : ((tag, Node.string name) :: Node.ofFields fields).filter (·.1 = tag) =
        [(tag, .string name)] := by
      rw [List.filter_cons_of_pos (by simp), List.filter_eq_nil_iff.mpr]
      exact fun field hfield => by simpa using hne field hfield
    have hothers : ((tag, Node.string name) :: Node.ofFields fields).filter (·.1 ≠ tag) =
        Node.ofFields fields := by
      rw [List.filter_cons_of_neg (by simp), List.filter_eq_self]
      exact fun field hfield => by simpa using hne field hfield
    have hsame : (Node.ofFields fields).map (fun field => (field.1, field.2.loosen)) =
        Node.ofFields fields := by
      rw [Node.ofFields_eq_map, List.map_map]
      exact List.map_congr_left fun field hfield => congrArg _ (hloosen field hfield)
    -- the decoder of the record gets what is left of the node, loosened
    have hdecode := h.decode_eq
    rw [Node.ofValue, ← hsame] at hdecode
    rw [Json.tagged, hw]
    simp only [Node.ofValue, Node.ofFields, Option.isNone_some, Bool.false_eq_true, if_false, htag,
      hothers, hvariant]
    exact hdecode

end Tagged

section Records

variable {α β : Type} {room : Nat}

def written (slots : List (String × Option Value)) : List (String × Value) :=
  slots.filterMap fun slot => slot.2.map (slot.1, ·)

/-- A record makes `a` of some fields in its order; those without a value are left out. It does so
wherever these fields are found, so that the fields of a longer record may stand around them. -/
structure Record.Writes (r : Record α) (room : Nat) (slots : List (String × Option Value))
    (a : α) : Prop where
  names : slots.map Prod.fst = r.fields.map Field.name
  fits : ∀ slot ∈ slots, ∀ v, slot.2 = some v → v.Fits room
  reads : ∀ look : String → Option Node,
    (∀ slot ∈ slots, look slot.1 = slot.2.map Node.ofValue) → r.Reads look a

namespace Record.Writes

variable {r : Record (α → β)} {slots : List (String × Option Value)} {f : α → β} {a : α}
  {name : String} {presence : Presence} {decode : Decoder α} {absent : Except Fault α}

theorem found {v : Value} (h : Spells decode room v a) :
    (Record.field name presence decode absent).Writes room [(name, some v)] a where
  names := rfl
  fits := by
    intro slot hslot w hw
    obtain rfl := List.mem_singleton.mp hslot
    cases hw
    exact h.fits
  reads look hlook := reads_found (hlook _ List.mem_cons_self) h.decode_eq

theorem omitted (habsent : absent = .ok a) :
    (Record.field name presence decode absent).Writes room [(name, none)] a where
  names := rfl
  fits := by
    intro slot hslot w hw
    obtain rfl := List.mem_singleton.mp hslot
    cases hw
  reads look hlook := by
    have hnone : look name = none := hlook _ List.mem_cons_self
    refine reads_field ?_
    rw [hnone]
    exact habsent

theorem map {r : Record α} (h : r.Writes room slots a) : (f <$> r).Writes room slots (f a) :=
  ⟨h.names, h.fits, fun look hlook => (h.reads look hlook).map⟩

theorem seq {r' : Record α} {slots' : List (String × Option Value)} (h : r.Writes room slots f)
    (h' : r'.Writes room slots' a) : (r <*> r').Writes room (slots ++ slots') (f a) where
  names := by
    rw [List.map_append, h.names, h'.names]
    exact List.map_append.symm
  fits := List.forall_mem_append.mpr ⟨h.fits, h'.fits⟩
  reads look hlook := by
    obtain ⟨hslots, hslots'⟩ := List.forall_mem_append.mp hlook
    exact (h.reads look hslots).seq (h'.reads look hslots')

end Record.Writes

section Written

variable {slots : List (String × Option Value)}

theorem written_append (slots slots' : List (String × Option Value)) :
    written (slots ++ slots') = written slots ++ written slots' :=
  List.filterMap_append

private theorem names_written : ((written slots).map Prod.fst).Sublist (slots.map Prod.fst) := by
  induction slots with
  | nil => exact .refl _
  | cons slot slots ih =>
    obtain ⟨name, v?⟩ := slot
    cases v? with
    | none => exact ih.cons name
    | some v => exact ih.cons_cons name

private theorem field?_written (h : (slots.map Prod.fst).Nodup) :
    ∀ slot ∈ slots, (Value.object (written slots)).field? slot.1 = slot.2 := by
  induction slots with
  | nil => exact List.forall_mem_nil _
  | cons first slots ih =>
    obtain ⟨name, v?⟩ := first
    obtain ⟨hfresh, hrest⟩ := List.nodup_cons.mp h
    intro slot hslot
    rcases List.mem_cons.mp hslot with rfl | hslot
    · cases v? with
      | none =>
        have hnone : (written slots).find? (·.1 = name) = none := by
          refine List.find?_eq_none.mpr fun field hfield hname => hfresh ?_
          have hmem := names_written.subset (List.mem_map_of_mem hfield)
          rwa [of_decide_eq_true hname] at hmem
        exact congrArg (Option.map Prod.snd) hnone
      | some v => simp [written, Value.field?]
    · have hne : name ≠ slot.1 := fun heq =>
        hfresh (List.mem_map.mpr ⟨slot, hslot, heq.symm⟩)
      have hfound := ih hrest slot hslot
      cases v? with
      | none => exact hfound
      | some v =>
        have hskip : (written ((name, some v) :: slots)).find? (·.1 = slot.1) =
            (written slots).find? (·.1 = slot.1) :=
          List.find?_cons_of_neg (by simpa using hne)
        rw [Value.field?, hskip]
        exact hfound

end Written

theorem Record.Writes.spells {r : Record α} {slots : List (String × Option Value)}
    {fields : List (String × Value)} {a : α} (h : r.Writes room slots a)
    (hnodup : (r.fields.map Field.name).Nodup) (hfields : written slots = fields) :
    Spells r.decode (room + 1) (.object fields) a := by
  rw [← h.names] at hnodup
  subst hfields
  refine ⟨fits_object fun field hfield => ?_, Reads.decode_ofValue (h.reads _ ?_) ?_⟩
  · obtain ⟨⟨name, v?⟩, hslot, hv⟩ := List.mem_filterMap.mp hfield
    obtain ⟨v, rfl, rfl⟩ := Option.map_eq_some_iff.mp hv
    exact h.fits _ hslot v rfl
  · intro slot hslot
    rw [field?_written hnodup slot hslot]
  · exact hnodup.sublist names_written

end Records

end AddressPlan.Json
