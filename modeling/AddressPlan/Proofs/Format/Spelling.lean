import Mathlib.Tactic.SplitIfs
import AddressPlan.Format.Plan
import AddressPlan.Format.Search
import AddressPlan.NetBox.Record
import AddressPlan.Proofs.Calendar.Timestamp
import AddressPlan.Proofs.Json.Spelling
import AddressPlan.Proofs.Prefix.Literal
/-!
# The forms of the types

The JSON form of a value spells the value for the decoder of its type: what is written of a field is
what its decoder takes, null stands for an absent value, and a field that is left out is one whose
value is the default.
-/
namespace AddressPlan
open Json (Value Decoder Node Record Spells written)

variable {room : Nat}

section Basic

theorem Prefix.spells (p : Prefix) : Spells Prefix.decoder room p.json p := by
  refine .reading ?_
  rw [p.parse_text]
  rfl

theorem Instant.spells {t : Instant} (h : t.HasPlainYear) :
    Spells Instant.decoder room t.json t :=
  .reading (Instant.readLenient?_text h)

theorem PoolKind.spells (k : PoolKind) : Spells PoolKind.decoder room k.json k :=
  .name k.ofName?_name

theorem PoolStatus.spells (k : PoolStatus) : Spells PoolStatus.decoder room k.json k :=
  .name k.ofName?_name

theorem PoolSource.spells (k : PoolSource) : Spells PoolSource.decoder room k.json k :=
  .name k.ofName?_name

theorem OverlapKind.spells (k : OverlapKind) : Spells OverlapKind.decoder room k.json k :=
  .name k.ofName?_name

theorem Tags.spells (tags : Tags) : Spells Tags.decoder (room + 1) tags.json tags :=
  .named fun s => .string s

private theorem spells_text (text : Option String) :
    Spells (Decoder.option Decoder.string) room (.option .string text) text :=
  .option rfl fun s _ => .string s

private theorem spells_id (id : Option UInt64) :
    Spells (Decoder.option Decoder.uint64) room (.option .nat id) id :=
  .option rfl fun n _ => .nat n

theorem Limits.spells (l : Limits) : Spells Limits.decoder (room + 1) l.json l := by
  have hwrites : Limits.record.Writes room _ l :=
    (Record.Writes.found (.uint8 l.minPrefixLength)).map
      |>.seq (.found (.uint8 l.maxPrefixLength))
      |>.seq (.found (.nat l.maxNameLength))
      |>.seq (.found (.nat l.defaultPageSize))
      |>.seq (.found (.nat l.maxPageSize))
  exact hwrites.spells (by decide) rfl

theorem Conflict.spells (c : Conflict) : Spells Conflict.decoder (room + 1) c.json c := by
  have hwrites : Conflict.record.Writes room _ c :=
    (Record.Writes.found c.plannedCidr.spells).map
      |>.seq (.found (.string c.plannedName))
      |>.seq (.found (.nat c.existingId))
      |>.seq (.found (.string c.existingName))
      |>.seq (.found c.existingCidr.spells)
      |>.seq (.found c.overlap.spells)
  exact hwrites.spells (by decide) rfl

end Basic

section Pools

structure Pool.Dated (p : Pool) : Prop where
  created : p.createdAt.HasPlainYear
  updated : p.updatedAt.HasPlainYear

theorem Pool.spells {p : Pool} (h : p.Dated) : Spells Pool.decoder (room + 2) p.json p := by
  have hwrites : Pool.record.Writes (room + 1) _ p :=
    (Record.Writes.found (.nat p.id)).map
      |>.seq (.found (.string p.name))
      |>.seq (.found p.cidr.spells)
      |>.seq (.found p.kind.spells)
      |>.seq (.found p.status.spells)
      |>.seq (.found (spells_id p.parent))
      |>.seq (.found p.source.spells)
      |>.seq (.found (.string p.description))
      |>.seq (.found p.tags.spells)
      |>.seq (.found (Instant.spells h.created))
      |>.seq (.found (Instant.spells h.updated))
  exact hwrites.spells (by decide) rfl

theorem Account.spells (a : Account) : Spells Account.decoder (room + 1) a.json a := by
  have hwrites : Account.record.Writes room _ a :=
    (Record.Writes.found (.nat a.id)).map
      |>.seq (.found (.string a.key))
      |>.seq (.found (.string a.name))
      |>.seq (.found (.string a.provider))
      |>.seq (.found (.option rfl fun cidr _ => cidr.spells))
      |>.seq (.found (.string a.description))
  exact hwrites.spells (by decide) rfl

theorem PoolRequest.spells (r : PoolRequest) :
    Spells PoolRequest.decoder (room + 2) r.json r := by
  have hwrites : PoolRequest.record.Writes (room + 1) _ r :=
    (Record.Writes.found (.string r.name)).map
      |>.seq (.found (.string r.cidr))
      |>.seq (.found (spells_text r.kind))
      |>.seq (.found (spells_text r.status))
      |>.seq (.found (spells_id r.parent))
      |>.seq (.found (spells_text r.source))
      |>.seq (.found (spells_text r.description))
      |>.seq (.found (r.tags.spells.orElse rfl))
  exact hwrites.spells (by decide) rfl

theorem PoolPatch.spells (p : PoolPatch) : Spells PoolPatch.decoder (room + 2) p.json p := by
  have hwrites : PoolPatch.record.Writes (room + 1) _ p :=
    (Record.Writes.found (spells_text p.status)).map
      |>.seq (.found (spells_text p.description))
      |>.seq (.found (.option rfl fun tags _ => Tags.spells tags))
  exact hwrites.spells (by decide) rfl

theorem Violation.spells (v : Violation) : Spells Violation.decoder (room + 1) v.json v := by
  have hwrites : Violation.record.Writes room _ v :=
    (Record.Writes.found (.nat v.id)).map
      |>.seq (.found (.string v.name))
      |>.seq (.found v.cidr.spells)
      |>.seq (.found (.nat v.otherId))
      |>.seq (.found (.string v.otherName))
      |>.seq (.found v.otherCidr.spells)
      |>.seq (.found v.overlap.spells)
  exact hwrites.spells (by decide) rfl

end Pools

namespace Plan

private theorem written_present (name : String) (text : Option String) :
    written [(name, text.map .string)] = present name text := by
  cases text <;> rfl

private theorem writes_present {name : String} (text : Option String) :
    (Record.omissible name Decoder.string).Writes room [(name, text.map .string)] text := by
  cases text with
  | none => exact .omitted rfl
  | some s => exact .found (.given (.string s) rfl)

theorem Entry.spells (e : Entry) : Spells Entry.decoder (room + 2) e.json e := by
  have htags : (Record.defaulted "tags" (Decoder.orElse Tags.decoder .empty) .empty).Writes
      (room + 1) [("tags", if e.tags.isEmpty then none else some e.tags.json)] e.tags := by
    by_cases hempty : e.tags.isEmpty = true
    · have htags : Keyed.empty = e.tags := Keyed.ext (List.isEmpty_iff.mp hempty).symm
      rw [if_pos hempty]
      exact .omitted (congrArg Except.ok htags)
    · rw [if_neg hempty]
      exact .found (e.tags.spells.orElse rfl)
  have hwrites : Entry.record.Writes (room + 1) _ e :=
    (Record.Writes.found (.string e.ref)).map
      |>.seq (.found (.string e.name))
      |>.seq (.found (.string e.cidr))
      |>.seq (writes_present e.kind)
      |>.seq (writes_present e.parentRef)
      |>.seq (writes_present e.description)
      |>.seq htags
  have hlast : written [("tags", if e.tags.isEmpty then none else some e.tags.json)] =
      if e.tags.isEmpty then [] else [("tags", e.tags.json)] := by
    cases e.tags.isEmpty <;> rfl
  refine hwrites.spells (by decide) ?_
  simp only [Json.written_append, written_present, hlast]
  rfl

theorem Request.spells (r : Request) : Spells Request.decoder (room + 4) r.json r := by
  have hwrites : Request.record.Writes (room + 3) _ r :=
    (Record.Writes.found (.orElse (.list fun e _ => e.spells) rfl)).map
      |>.seq (.found (spells_text r.status))
      |>.seq (.found (r.tags.spells.orElse rfl))
      |>.seq (.found (.orElse (.bool r.skipConflicts) rfl))
  exact hwrites.spells (by decide) rfl

structure Report.Counted (r : Report) : Prop where
  created : r.created < UInt64.size
  skipped : r.skipped < UInt64.size

theorem Report.spells {r : Report} (h : r.Counted) : Spells Report.decoder (room + 2) r.json r := by
  have hwrites : Report.record.Writes (room + 1) _ r :=
    (Record.Writes.found (.count h.created)).map
      |>.seq (.found (.count h.skipped))
      |>.seq (.found (.list fun s _ => .string s))
      |>.seq (.found (.list fun s _ => .string s))
      |>.seq (.found (spells_id r.root))
      |>.seq (.found (.named fun n => .nat n))
  exact hwrites.spells (by decide) rfl

theorem CheckRequest.spells (r : CheckRequest) :
    Spells CheckRequest.decoder (room + 4) r.json r := by
  have hwrites : CheckRequest.record.Writes (room + 3) _ r :=
    (Record.Writes.found (.orElse (.list fun e _ => e.spells) rfl)).map
  exact hwrites.spells (by decide) rfl

structure CheckResponse.Counted (r : CheckResponse) : Prop where
  totalPools : r.totalPools < UInt64.size
  conflictCount : r.conflictCount < UInt64.size

theorem CheckResponse.spells {r : CheckResponse} (h : r.Counted) :
    Spells CheckResponse.decoder (room + 3) r.json r := by
  have hwrites : CheckResponse.record.Writes (room + 2) _ r :=
    (Record.Writes.found (.list fun c _ => c.spells)).map
      |>.seq (.found (.count h.totalPools))
      |>.seq (.found (.count h.conflictCount))
  exact hwrites.spells (by decide) rfl

end Plan

namespace Search

private theorem spells_integer (n : Int64) : Spells Decoder.int64 room (integer n) n := by
  unfold integer
  split_ifs with hneg
  · exact ⟨Int64.lt_iff_toInt_lt.mp hneg, rfl⟩
  · refine ⟨trivial, ?_⟩
    have hpos : 0 ≤ n.toInt := Int.not_lt.mp fun h => hneg (Int64.lt_iff_toInt_lt.mpr h)
    have hbits : n.toUInt64.toNat < 2 ^ 64 := n.toUInt64.toNat_lt
    have hword : n.toInt = if 2 * n.toUInt64.toNat < 2 ^ 64 then (n.toUInt64.toNat : Int)
        else n.toUInt64.toNat - (2 ^ 64 : Nat) := BitVec.toInt_eq_toNat_cond n.toBitVec
    -- the upper half of the words stands for the numbers below zero
    have hlower : 2 * n.toUInt64.toNat < 2 ^ 64 := by
      by_contra hupper
      rw [if_neg hupper] at hword
      omega
    have hlt : n.toUInt64.toNat < UInt64.size / 2 := by
      change n.toUInt64.toNat < 9223372036854775808
      omega
    rw [if_pos hlower] at hword
    rw [Value.nat, Node.ofValue, Decoder.int64, if_pos hlt, ← hword]
    exact congrArg Except.ok (Int64.ofInt_toInt n)

theorem Params.spells (p : Params) : Spells Params.decoder (room + 1) p.json p := by
  have hwrites : Params.record.Writes room _ p :=
    (Record.Writes.found (spells_text p.text)).map
      |>.seq (.found (spells_text p.cidrContains))
      |>.seq (.found (spells_text p.cidrWithin))
      |>.seq (.found (spells_text p.entity))
      |>.seq (.found (.option rfl fun n _ => spells_integer n))
      |>.seq (.found (.option rfl fun n _ => spells_integer n))
  exact hwrites.spells (by decide) rfl

/-- Annotations are texts, and none is taken for the empty object of a name. -/
private theorem loosen_tags (tags : Tags) :
    (Node.ofValue tags.json).loosen = Node.ofValue tags.json := by
  have hrows : ∀ rows : List (String × String),
      (Node.ofValue (.object (rows.map fun row => (row.1, .string row.2)))).loosen =
        Node.ofValue (.object (rows.map fun row => (row.1, .string row.2))) := by
    intro rows
    cases rows with
    | nil => rfl
    | cons row rows => cases rows <;> rfl
  exact hrows tags.rows

def Item.Dated : Item → Prop
  | pool p => p.Dated
  | account _ => True

theorem Item.spells {item : Item} (h : item.Dated) :
    Spells Item.decoder (room + 2) item.json item := by
  cases item with
  | pool p =>
    refine .tagged rfl (by simp [Pool.fields]) ?_ (.map Item.pool (Pool.spells h))
    simp only [Pool.fields, List.forall_mem_cons]
    have hparent : (Node.ofValue (.option .nat p.parent)).loosen =
        Node.ofValue (.option .nat p.parent) := by
      cases p.parent <;> rfl
    exact ⟨rfl, rfl, rfl, rfl, rfl, hparent, rfl, rfl, loosen_tags p.tags, rfl, rfl,
      List.forall_mem_nil _⟩
  | account a =>
    refine .tagged rfl (by simp [Account.fields]) ?_ (.map Item.account a.spells)
    simp only [Account.fields, List.forall_mem_cons]
    have hcidr : (Node.ofValue (.option Prefix.json a.cidr)).loosen =
        Node.ofValue (.option Prefix.json a.cidr) := by
      cases a.cidr <;> rfl
    exact ⟨rfl, rfl, rfl, rfl, hcidr, rfl, List.forall_mem_nil _⟩

structure Response.Sound (r : Response) : Prop where
  items : ∀ item ∈ r.items, item.Dated
  total : r.total < UInt64.size

theorem Response.spells {r : Response} (h : r.Sound) :
    Spells Response.decoder (room + 4) r.json r := by
  have hwrites : Response.record.Writes (room + 3) _ r :=
    (Record.Writes.found (.list fun item hitem => (Item.spells (h.items item hitem)))).map
      |>.seq (.found (.count h.total))
      |>.seq (.found (.nat r.page))
      |>.seq (.found (.nat r.pageSize))
  exact hwrites.spells (by decide) rfl

end Search

namespace NetBox

theorem Choice.spells (c : Choice) : Spells Choice.decoder (room + 1) c.json c := by
  cases c with
  | labeled v => exact ⟨⟨Nat.succ_pos room, trivial, trivial⟩, rfl⟩
  | plain v => exact ⟨trivial, rfl⟩

/-- Free values of a server are written without loss if their fields are in order, their numbers are
whole, and they leave room for the record that they stand in. -/
structure Free (v : Value) : Prop where
  sorted : v.Sorted
  fits : v.Fits (Json.maxDepth - 1)

theorem PrefixRecord.spells {r : PrefixRecord} (h : Free r.customFields) :
    Spells PrefixRecord.decoder Json.maxDepth r.json r := by
  have hwrites : PrefixRecord.record.Writes (Json.maxDepth - 1) _ r :=
    (Record.Writes.found (.nat r.id)).map
      |>.seq (.found (.string r.cidr))
      |>.seq (.found r.status.spells)
      |>.seq (.found (.string r.description))
      |>.seq (.found (.value h.sorted h.fits))
      |>.seq (.found (spells_text r.created))
      |>.seq (.found (spells_text r.lastUpdated))
  exact hwrites.spells (by decide) rfl

theorem Tenant.spells {t : Tenant} (h : Free t.customFields) :
    Spells Tenant.decoder Json.maxDepth t.json t := by
  have hwrites : Tenant.record.Writes (Json.maxDepth - 1) _ t :=
    (Record.Writes.found (.nat t.id)).map
      |>.seq (.found (.string t.name))
      |>.seq (.found (.string t.slug))
      |>.seq (.found (.string t.description))
      |>.seq (.found (.value h.sorted h.fits))
  exact hwrites.spells (by decide) rfl

end NetBox

end AddressPlan
