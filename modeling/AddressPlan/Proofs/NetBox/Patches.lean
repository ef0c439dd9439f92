import AddressPlan.Proofs.NetBox.Record
/-!
# Records after a change

A server takes the body of a change into a record field by field, so the record comes to stand for
the changed pool. The name is the exception: a record without a name of its own is called by its
description, and a new description is then a new name.
-/
namespace AddressPlan.NetBox
open Json (Value)

section Bodies

variable (change : PoolUpdate)

private theorem field?_updateBody_status : (updateBody change).field? "status" =
    change.status.map fun status => .string (statusName status) := by
  rcases change with ⟨_ | status, _ | description, _ | tags⟩ <;> rfl

private theorem field?_updateBody_description :
    (updateBody change).field? "description" = change.description.map .string := by
  rcases change with ⟨_ | status, _ | description, _ | tags⟩ <;> rfl

private theorem field?_updateBody_customFields : (updateBody change).field? "custom_fields" =
    change.tags.map fun tags => .object [("ipam_tags", tagsValue tags)] := by
  rcases change with ⟨_ | status, _ | description, _ | tags⟩ <;> rfl

private theorem customField?_updateBody (key : String) :
    ((updateBody change).field? "custom_fields").bind (Value.field? key) =
      if key = "ipam_tags" then change.tags.map tagsValue else none := by
  rw [field?_updateBody_customFields]
  cases change.tags with
  | none => simp
  | some tags =>
    by_cases hkey : key = "ipam_tags"
    · simp [hkey, Value.field?]
    · simp [hkey, Value.field?, Ne.symm hkey]

end Bodies

/-- What a server makes of a record under the body of a change. A field that is sent takes the place
of the stored one, custom fields that are sent are merged into the stored ones, and all else stays
but for the time of the last change. The status may come back as a text or with a label. -/
structure PrefixRecord.Patched (r : PrefixRecord) (body : Value) (after : PrefixRecord) :
    Prop where
  id : after.id = r.id
  cidr : after.cidr = r.cidr
  status : match body.field? "status" with
    | some sent => sent = .string after.status.value
    | none => after.status = r.status
  description : match body.field? "description" with
    | some sent => sent = .string after.description
    | none => after.description = r.description
  customFields : ∀ key, after.customFields.field? key =
    ((body.field? "custom_fields").bind (Value.field? key)).or (r.customFields.field? key)
  created : after.created = r.created

namespace PrefixRecord

private def ownName? (r : PrefixRecord) : Option String :=
  customText? r.customFields "ipam_pool_name"

private theorem customText?_of_field?_eq {v w : Value} {key : String}
    (h : v.field? key = w.field? key) :
    customText? v key = customText? w key := by
  rw [customText?, h, customText?]

section Changes

variable {r after : PrefixRecord} {change : PoolUpdate} {pool : Pool}

namespace Patched

private theorem status_eq (h : r.Patched (updateBody change) after) :
    statusOf after.status.value = change.status.getD (statusOf r.status.value) := by
  have hstatus := h.status
  rw [field?_updateBody_status] at hstatus
  cases hchange : change.status with
  | none =>
    rw [hchange] at hstatus
    have hsame : after.status = r.status := hstatus
    rw [hsame]
    rfl
  | some status =>
    rw [hchange] at hstatus
    have hsent : statusName status = after.status.value := Value.string.inj hstatus
    rw [← hsent, statusOf_statusName]
    rfl

private theorem description_eq (h : r.Patched (updateBody change) after) :
    after.description = change.description.getD r.description := by
  have hdescription := h.description
  rw [field?_updateBody_description] at hdescription
  cases hchange : change.description with
  | none =>
    rw [hchange] at hdescription
    exact hdescription
  | some description =>
    rw [hchange] at hdescription
    exact (Value.string.inj hdescription).symm

private theorem customField?_eq (h : r.Patched (updateBody change) after) {key : String}
    (hkey : key ≠ "ipam_tags") : after.customFields.field? key = r.customFields.field? key := by
  rw [h.customFields, customField?_updateBody, if_neg hkey, Option.none_or]

private theorem customText?_eq (h : r.Patched (updateBody change) after) {key : String}
    (hkey : key ≠ "ipam_tags") :
    customText? after.customFields key = customText? r.customFields key :=
  customText?_of_field?_eq (h.customField?_eq hkey)

private theorem customParent?_eq (h : r.Patched (updateBody change) after) :
    customParent? after.customFields = customParent? r.customFields := by
  rw [customParent?, h.customField?_eq (by decide), customParent?]

private theorem customTags_eq (h : r.Patched (updateBody change) after) :
    customTags after.customFields = change.tags.getD (customTags r.customFields) := by
  have htags := h.customFields "ipam_tags"
  rw [customField?_updateBody, if_pos rfl] at htags
  cases hchange : change.tags with
  | none =>
    rw [hchange, Option.map_none, Option.none_or] at htags
    rw [customTags, htags, customTags]
    rfl
  | some tags =>
    rw [hchange, Option.map_some, Option.some_or] at htags
    exact customTags_of_field? htags

end Patched

private theorem name_of_pool? (h : r.pool? = .ok (some pool)) :
    pool.name = (r.ownName?.or (Text.nonBlank? r.description)).getD r.cidr := by
  unfold pool? at h
  split at h
  · cases h
  · split at h
    · cases h
    · cases h
      rfl

private theorem exists_pool?_of_patched (hpool : r.pool? = .ok (some pool))
    (hpatched : r.Patched (updateBody change) after) :
    ∃ changed, after.pool? = .ok (some changed) ∧
      changed = { change.applyTo pool with
        name := changed.name, updatedAt := changed.updatedAt } := by
  have hkind : customText? after.customFields "ipam_pool_type" = _ :=
    hpatched.customText?_eq (by decide)
  have hsource : customText? after.customFields "ipam_source" = _ :=
    hpatched.customText?_eq (by decide)
  unfold pool? at hpool ⊢
  rw [hpatched.cidr]
  split at hpool
  · cases hpool
  · next hcolon =>
    rw [if_neg hcolon]
    split at hpool
    · cases hpool
    · cases hpool
      refine ⟨_, rfl, ?_⟩
      simp only [PoolUpdate.applyTo, hpatched.id, hpatched.created, hpatched.status_eq,
        hpatched.description_eq, hpatched.customTags_eq, hpatched.customParent?_eq, hkind, hsource]

/-- A change of a record changes the status, the description and the tags of the pool that the
record stands for, and nothing else, unless the record has no name of its own: then a new
description is the new name, or the block if the description is blank. -/
theorem pool?_of_patched (hpool : r.pool? = .ok (some pool))
    (hpatched : r.Patched (updateBody change) after) :
    ∃ changed, after.pool? = .ok (some changed) ∧
      changed = { change.applyTo pool with
        name := changed.name, updatedAt := changed.updatedAt } ∧
      (r.ownName? ≠ none ∨ change.description = none → changed.name = pool.name) ∧
      (∀ description, r.ownName? = none → change.description = some description →
        changed.name = (Text.nonBlank? description).getD r.cidr) := by
  obtain ⟨changed, hafter, hframe⟩ := exists_pool?_of_patched hpool hpatched
  have hname := name_of_pool? hpool
  have hchanged := name_of_pool? hafter
  have hown : after.ownName? = r.ownName? := hpatched.customText?_eq (by decide)
  rw [hown, hpatched.cidr, hpatched.description_eq] at hchanged
  refine ⟨changed, hafter, hframe, ?_, ?_⟩
  · rintro (hsome | hnone)
    · obtain ⟨own, hown⟩ := Option.ne_none_iff_exists'.mp hsome
      rw [hchanged, hname, hown, Option.some_or, Option.some_or]
    · rw [hchanged, hname, hnone, Option.getD_none]
  · intro description hnone hdescription
    rw [hchanged, hnone, hdescription, Option.none_or, Option.getD_some]

/-- A record that was made elsewhere, with a name and an annotation that is no text, and a change of
all that can change. -/
theorem pool?_of_patched_foreign :
    let fields : List (String × Value) := [("site", .string "fra"),
      ("ipam_pool_name", .string " core "), ("ipam_parent_id", .string "3"),
      ("ipam_tags", .object [("tier", .nat 1)])]
    let r : PrefixRecord := ⟨12, "10.1.0.0/16", .labeled "container", "edge", .object fields,
      some "2024-01-02T03:04:05Z", none⟩
    let change : PoolUpdate := ⟨some .deprecated, some "old edge", some (.ofList [("env", "lab")])⟩
    let after : PrefixRecord := { r with
      status := .labeled "deprecated"
      description := "old edge"
      customFields := .object (fields.take 3 ++ [("ipam_tags", .object [("env", .string "lab")])])
      lastUpdated := some "2025-01-02T03:04:05Z" }
    let pool : Pool := ⟨12, "core", .ofAddress 0x0A010000 16 (by decide), .subnet, .active, some 3,
      .discovered, "edge", .ofList [("tier", "1")], timestamp r.created, .epoch⟩
    r.pool? = .ok (some pool) ∧ r.Patched (updateBody change) after ∧
      ∃ changed, after.pool? = .ok (some changed) ∧
        changed = { change.applyTo pool with
          name := changed.name, updatedAt := changed.updatedAt } ∧
        (r.ownName? ≠ none ∨ change.description = none → changed.name = pool.name) ∧
        (∀ description, r.ownName? = none → change.description = some description →
          changed.name = (Text.nonBlank? description).getD r.cidr) := by
  intro fields r change after pool
  have hpool : r.pool? = .ok (some pool) := by decide +kernel
  have hpatched : r.Patched (updateBody change) after := by
    refine ⟨rfl, rfl, rfl, rfl, fun key => ?_, rfl⟩
    rw [customField?_updateBody]
    by_cases hkey : key = "ipam_tags"
    · rw [hkey]
      rfl
    · simp [after, r, fields, hkey, Value.field?, List.find?_cons, Ne.symm hkey]
  exact ⟨hpool, hpatched, pool?_of_patched hpool hpatched⟩

/-- A record without a name of its own is renamed by a change of its description. -/
theorem renamed_by_description :
    let r : PrefixRecord := ⟨12, "10.1.0.0/16", .plain "active", "edge", .object [], none, none⟩
    let change : PoolUpdate := ⟨none, some "old edge", none⟩
    let after : PrefixRecord := { r with description := "old edge" }
    let pool : Pool := ⟨12, "edge", .ofAddress 0x0A010000 16 (by decide), .subnet, .active, none,
      .discovered, "edge", .empty, .epoch, .epoch⟩
    let changed : Pool := { pool with name := "old edge", description := "old edge" }
    r.pool? = .ok (some pool) ∧ r.Patched (updateBody change) after ∧
      after.pool? = .ok (some changed) ∧
      changed ≠ { change.applyTo pool with updatedAt := changed.updatedAt } := by
  intro r change after pool changed
  have hpool : r.pool? = .ok (some pool) := by decide +kernel
  have hpatched : r.Patched (updateBody change) after := ⟨rfl, rfl, rfl, rfl, fun _ => rfl, rfl⟩
  have hafter : after.pool? = .ok (some changed) := by decide +kernel
  exact ⟨hpool, hpatched, hafter, by decide⟩

end Changes
end PrefixRecord
end AddressPlan.NetBox
