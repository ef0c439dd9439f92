import AddressPlan.Json.Decoder
import AddressPlan.Proofs.Store.Rows
/-!
# Decoding the node of a value

The node of a value can be used as it is. An object with distinct names is decoded as a record by
looking up its fields, in whatever order they stand and whatever else stands between them.
-/
namespace AddressPlan.Json

namespace Node

section Usable

mutual

private theorem skippable_ofValue : ∀ v : Value, (ofValue v).skippable = true
  | .null => rfl
  | .bool _ => rfl
  | .number _ => rfl
  | .string _ => rfl
  | .array items => itemsSkippable_ofItems items
  | .object fields => fieldsSkippable_ofFields fields

private theorem itemsSkippable_ofItems : ∀ vs : List Value, itemsSkippable (ofItems vs) = true
  | [] => rfl
  | v :: vs => Bool.and_eq_true_iff.mpr ⟨skippable_ofValue v, itemsSkippable_ofItems vs⟩

private theorem fieldsSkippable_ofFields : ∀ fields : List (String × Value),
    fieldsSkippable (ofFields fields) = true
  | [] => rfl
  | (_, v) :: fields =>
    Bool.and_eq_true_iff.mpr ⟨skippable_ofValue v, fieldsSkippable_ofFields fields⟩

end

mutual

theorem exists_value?_ofValue : ∀ v : Value, ∃ w, (ofValue v).value? = some w
  | .null => ⟨_, rfl⟩
  | .bool _ => ⟨_, rfl⟩
  | .number _ => ⟨_, rfl⟩
  | .string _ => ⟨_, rfl⟩
  | .array items => by
    obtain ⟨ws, hws⟩ := exists_itemsValue?_ofItems items
    exact ⟨.array ws, by simp [ofValue, value?, hws]⟩
  | .object fields => by
    obtain ⟨ws, hws⟩ := exists_fieldsValue?_ofFields fields
    exact ⟨.object (ordered ws), by simp [ofValue, value?, hws]⟩

private theorem exists_itemsValue?_ofItems :
    ∀ vs : List Value, ∃ ws, itemsValue? (ofItems vs) = some ws
  | [] => ⟨_, rfl⟩
  | v :: vs => by
    obtain ⟨w, hw⟩ := exists_value?_ofValue v
    obtain ⟨ws, hws⟩ := exists_itemsValue?_ofItems vs
    exact ⟨w :: ws, by simp [ofItems, itemsValue?, hw, hws]⟩

private theorem exists_fieldsValue?_ofFields : ∀ fields : List (String × Value),
    ∃ ws, fieldsValue? (ofFields fields) = some ws
  | [] => ⟨_, rfl⟩
  | (k, v) :: fields => by
    obtain ⟨w, hw⟩ := exists_value?_ofValue v
    obtain ⟨ws, hws⟩ := exists_fieldsValue?_ofFields fields
    exact ⟨(k, w) :: ws, by simp [ofFields, fieldsValue?, hw, hws]⟩

end

end Usable

section Fields

variable {fields : List (String × Value)}

theorem ofFields_eq_map (fields : List (String × Value)) :
    ofFields fields = fields.map fun (k, v) => (k, ofValue v) := by
  induction fields with
  | nil => rfl
  | cons field fields ih => rw [ofFields, ih, List.map_cons]

theorem lookup_ofFields (fields : List (String × Value)) (name : String) :
    Record.lookup (ofFields fields) name = ((Value.object fields).field? name).map ofValue := by
  rw [Record.lookup, Value.field?, ofFields_eq_map, List.find?_map]
  simp [Function.comp_def]

theorem names_ofFields (fields : List (String × Value)) :
    (ofFields fields).map Prod.fst = fields.map Prod.fst := by
  rw [ofFields_eq_map, List.map_map]
  rfl

private theorem ordered_eq_rows (fields : List (String × Value)) :
    ordered fields = (Keyed.ofList fields : Named Value).rows := by
  have hfold : ∀ s : Named Value, (fields.foldl Keyed.insert s).rows =
      fields.foldl (fun rows field => insertRow Prod.fst field rows) s.rows := by
    induction fields with
    | nil => exact fun s => rfl
    | cons field fields ih => exact fun s => ih (s.insert field)
  exact (hfold .empty).symm

theorem field?_ordered (h : (fields.map Prod.fst).Nodup) (name : String) :
    (Value.object (ordered fields)).field? name = (Value.object fields).field? name := by
  have hfind := Keyed.find?_ofList (k := name) h
  rw [Keyed.find?] at hfind
  rw [Value.field?, ordered_eq_rows, hfind, Value.field?]

end Fields

section Settled

/-- Reading a value off its node gives the value back, its fields in their order. -/
def Settled (v : Value) : Prop :=
  (ofValue v).value? = some v

theorem settled_string (s : String) : Settled (.string s) :=
  rfl

private theorem fieldsValue?_ofFields {fields : List (String × Value)}
    (h : ∀ field ∈ fields, Settled field.2) : fieldsValue? (ofFields fields) = some fields := by
  induction fields with
  | nil => rfl
  | cons field fields ih =>
    have hfield : (ofValue field.2).value? = some field.2 := h field List.mem_cons_self
    have hrest := ih fun f hf => h f (List.mem_cons_of_mem _ hf)
    simp [ofFields, fieldsValue?, hfield, hrest]

theorem value?_object {fields : List (String × Value)} (h : ∀ field ∈ fields, Settled field.2) :
    (ofValue (.object fields)).value? = some (.object (ordered fields)) := by
  simp [ofValue, value?, fieldsValue?_ofFields h]

theorem ordered_of_ascending {fields : List (String × Value)}
    (h : fields.Pairwise (·.1 < ·.1)) : ordered fields = fields := by
  have hrows := Keyed.ofList_rows (⟨fields, h⟩ : Named Value)
  rw [ordered_eq_rows, hrows]

theorem settled_named {α : Type} {f : α → Value} {as : Named α} (h : ∀ a, Settled (f a)) :
    Settled (.named f as) := by
  have hrows : ∀ field ∈ as.rows.map fun row => (row.1, f row.2), Settled field.2 := by
    intro field hfield
    obtain ⟨row, -, rfl⟩ := List.mem_map.mp hfield
    exact h row.2
  have hascending : (as.rows.map fun row => (row.1, f row.2)).Pairwise (·.1 < ·.1) :=
    List.pairwise_map.mpr as.ascending
  have hnamed : Value.named f as = .object (as.rows.map fun row => (row.1, f row.2)) := rfl
  rw [Settled, hnamed, value?_object hrows, ordered_of_ascending hascending]

end Settled
end Node

namespace Decoder

variable {α β : Type} {decode : Decoder α} {f : β → Value} {g : β → α}

private theorem items_ofItems {bs : List β}
    (h : ∀ b ∈ bs, decode (Node.ofValue (f b)) = .ok (g b)) :
    items decode (Node.ofItems (bs.map f)) = .ok (bs.map g) := by
  induction bs with
  | nil => rfl
  | cons b bs ih =>
    have hrest := ih fun b' hb' => h b' (List.mem_cons_of_mem _ hb')
    rw [List.map_cons, Node.ofItems, items, h b List.mem_cons_self, hrest]
    rfl

theorem list_ofValue {bs : List β} (h : ∀ b ∈ bs, decode (Node.ofValue (f b)) = .ok (g b)) :
    list decode (Node.ofValue (.list f bs)) = .ok (bs.map g) := by
  have hitems := items_ofItems h
  rw [Value.list, Node.ofValue, list, hitems]
  rfl

theorem option_of_ne_null {n : Node} (h : n ≠ .null) : option decode n = some <$> decode n := by
  cases n with
  | null => exact absurd rfl h
  | _ => rfl

theorem orElse_of_ne_null {n : Node} {default : α} (h : n ≠ .null) :
    orElse decode default n = decode n := by
  cases n with
  | null => exact absurd rfl h
  | _ => rfl

theorem option_string (text : Option String) :
    option string (Node.ofValue (.option .string text)) = .ok text := by
  cases text <;> rfl

end Decoder

namespace Record

variable {α β : Type} {look : String → Option Node}

/-- A record reads a value out of the fields that are found, and none of these is amiss. -/
structure Reads (r : Record α) (look : String → Option Node) (a : α) : Prop where
  build : r.build look = .ok a
  check : ∀ field ∈ r.fields, ∀ n, look field.name = some n → field.check n = .ok ()

theorem Reads.map {r : Record α} {f : α → β} {a : α} (h : r.Reads look a) :
    (f <$> r).Reads look (f a) where
  build := by
    change f <$> r.build look = _
    rw [h.build]
    rfl
  check := h.check

theorem Reads.seq {r : Record (α → β)} {r' : Record α} {f : α → β} {a : α}
    (h : r.Reads look f) (h' : r'.Reads look a) : (r <*> r').Reads look (f a) where
  build := by
    change (do let g ← r.build look; let x ← r'.build look; return g x) = _
    rw [h.build, h'.build]
    rfl
  check field hfield n hn := by
    rcases List.mem_append.mp hfield with hmem | hmem
    · exact h.check field hmem n hn
    · exact h'.check field hmem n hn

theorem reads_field {name : String} {presence : Presence} {decode : Decoder α}
    {absent : Except Fault α} {a : α}
    (h : (match look name with | some n => decode n | none => absent) = .ok a) :
    (field name presence decode absent).Reads look a where
  build := h
  check := by
    intro f hf n hn
    obtain rfl := List.mem_singleton.mp hf
    simp only [hn] at h
    simp only [h, Except.map]

theorem reads_found {name : String} {presence : Presence} {decode : Decoder α}
    {absent : Except Fault α} {n : Node} {a : α} (hlook : look name = some n)
    (hdecode : decode n = .ok a) : (field name presence decode absent).Reads look a :=
  reads_field (by rw [hlook]; exact hdecode)

variable {r : Record α} {fields : List (String × Node)} {a : α}

private theorem checkFields_of_reads {known : List Field} {seen : List String}
    (hnames : (fields.map Prod.fst).Nodup) (hfresh : ∀ field ∈ fields, field.1 ∉ seen)
    (hskippable : ∀ field ∈ fields, field.2.skippable = true)
    (hcheck : ∀ field ∈ fields, ∀ f ∈ known, f.name = field.1 → f.check field.2 = .ok ()) :
    checkFields known seen fields = .ok () := by
  induction fields generalizing seen with
  | nil => rfl
  | cons field fields ih =>
    obtain ⟨hname, hnames⟩ := List.nodup_cons.mp hnames
    have hrest : ∀ seen', (∀ f ∈ fields, f.1 ∉ seen') → checkFields known seen' fields = .ok () :=
      fun seen' hseen => ih hnames hseen (fun f hf => hskippable f (List.mem_cons_of_mem _ hf))
        fun f hf => hcheck f (List.mem_cons_of_mem _ hf)
    have hlater : ∀ f ∈ fields, f.1 ∉ seen := fun f hf => hfresh f (List.mem_cons_of_mem _ hf)
    unfold checkFields
    split
    · next known' hfind =>
      have hmem := List.mem_of_find?_eq_some hfind
      have hkey : known'.name = field.1 := by simpa using List.find?_some hfind
      rw [if_neg (hfresh field List.mem_cons_self),
        hcheck field List.mem_cons_self known' hmem hkey]
      refine hrest _ fun f hf hmem => ?_
      rcases List.mem_cons.mp hmem with heq | hmem
      · exact hname (List.mem_map.mpr ⟨f, hf, heq⟩)
      · exact hlater f hf hmem
    · rw [if_pos (hskippable field List.mem_cons_self)]
      exact hrest _ hlater

private theorem lookup_of_mem {field : String × Node} (hnames : (fields.map Prod.fst).Nodup)
    (hmem : field ∈ fields) : lookup fields field.1 = some field.2 := by
  induction fields with
  | nil => cases hmem
  | cons f fields ih =>
    obtain ⟨hname, hnames⟩ := List.nodup_cons.mp hnames
    rw [lookup, List.find?_cons]
    rcases List.mem_cons.mp hmem with rfl | hmem
    · simp
    · have hne : f.1 ≠ field.1 := fun heq =>
        hname (heq ▸ List.mem_map_of_mem hmem)
      have hrest := ih hnames hmem
      rw [lookup] at hrest
      simpa [hne] using hrest

theorem filter_of_lookup {name : String} {n : Node} (hnames : (fields.map Prod.fst).Nodup)
    (h : lookup fields name = some n) : fields.filter (·.1 = name) = [(name, n)] := by
  induction fields with
  | nil => cases h
  | cons f fields ih =>
    obtain ⟨hname, hnames⟩ := List.nodup_cons.mp hnames
    rw [lookup, List.find?_cons] at h
    by_cases heq : f.1 = name
    · obtain rfl : f.2 = n := by simpa [heq] using h
      have hrest : fields.filter (·.1 = name) = [] :=
        List.filter_eq_nil_iff.mpr fun g hg hkey =>
          hname (List.mem_map.mpr ⟨g, hg, (of_decide_eq_true hkey).trans heq.symm⟩)
      rw [List.filter_cons_of_pos (by simpa using heq), hrest, ← heq]
    · have hrest : lookup fields name = some n := by
        rw [lookup]
        simpa [heq] using h
      rw [List.filter_cons_of_neg (by simpa using heq), ih hnames hrest]

private theorem Reads.decode_object (h : r.Reads (lookup fields) a)
    (hnames : (fields.map Prod.fst).Nodup)
    (hskippable : ∀ field ∈ fields, field.2.skippable = true) :
    r.decode (.object fields .closed) = .ok a := by
  have hread : ∀ field ∈ fields, ∀ f ∈ r.fields, f.name = field.1 → f.check field.2 = .ok () :=
    fun field hfield f hf hname => h.check f hf field.2 (hname ▸ lookup_of_mem hnames hfield)
  have hcheck : checkFields r.fields [] fields = .ok () :=
    checkFields_of_reads hnames (fun _ _ => List.not_mem_nil) hskippable hread
  rw [decode, hcheck]
  exact h.build

theorem Reads.decode_ofValue {fields : List (String × Value)}
    (h : r.Reads (fun name => ((Value.object fields).field? name).map Node.ofValue) a)
    (hnames : (fields.map Prod.fst).Nodup) : r.decode (Node.ofValue (.object fields)) = .ok a := by
  have hlook : (fun name => ((Value.object fields).field? name).map Node.ofValue) =
      lookup (Node.ofFields fields) := funext fun name => (Node.lookup_ofFields fields name).symm
  rw [hlook] at h
  refine h.decode_object (by rwa [Node.names_ofFields]) fun field hfield => ?_
  rw [Node.ofFields_eq_map] at hfield
  obtain ⟨f, -, rfl⟩ := List.mem_map.mp hfield
  exact Node.skippable_ofValue f.2

end Record
end AddressPlan.Json
