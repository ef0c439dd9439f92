import AddressPlan.Proofs.NetBox.Record
import AddressPlan.Proofs.NetBox.Server
/-!
# The rows of an ideal server

A row keeps a pool if its fields stand for it. A posted draft is kept by its row, and a row that
keeps a pool keeps the changed pool after a change.
-/
namespace AddressPlan

def Pool.draft (pool : Pool) : PoolDraft where
  name := pool.name
  cidr := pool.cidr
  kind := pool.kind
  status := pool.status
  parent := pool.parent
  source := pool.source
  description := pool.description
  tags := pool.tags

def Pool.untimed (pool : Pool) : Pool :=
  pool.draft.toPool pool.id .epoch

namespace NetBox
open Json (Value)

section Fields

variable {name : String} {v : Value} {fields : List (String × Value)}

private theorem field?_cons (field : String × Value) (fields : List (String × Value)) (k : String) :
    (Value.object (field :: fields)).field? k =
      if field.1 = k then some field.2 else (Value.object fields).field? k := by
  rw [Value.field?, List.find?_cons]
  by_cases h : field.1 = k
  · simp [h]
  · simp [h, Value.field?]

private theorem field?_setField (k : String) : (Value.object (setField name v fields)).field? k =
    if name = k then some v else (Value.object fields).field? k := by
  induction fields with
  | nil => exact field?_cons (name, v) [] k
  | cons field fields ih =>
    unfold setField
    by_cases hname : field.1 = name
    · rw [if_pos hname, field?_cons, field?_cons, hname]
      by_cases hk : name = k
      · simp [hk]
      · simp [hk]
    · rw [if_neg hname, field?_cons, field?_cons, ih]
      by_cases hk : name = k
      · have hne : field.1 ≠ k := fun heq => hname (heq.trans hk.symm)
        simp [hk, hne]
      · simp [hk]

private theorem mem_setField {field : String × Value} (h : field ∈ setField name v fields) :
    field = (name, v) ∨ field ∈ fields := by
  induction fields with
  | nil => simpa [setField] using h
  | cons f fields ih =>
    unfold setField at h
    by_cases hname : f.1 = name
    · rw [if_pos hname] at h
      rcases List.mem_cons.mp h with rfl | h
      · exact .inl rfl
      · exact .inr (List.mem_cons_of_mem _ h)
    · rw [if_neg hname] at h
      rcases List.mem_cons.mp h with rfl | h
      · exact .inr List.mem_cons_self
      · exact (ih h).imp_right (List.mem_cons_of_mem _)

private theorem nodup_setField (h : (fields.map Prod.fst).Nodup) :
    ((setField name v fields).map Prod.fst).Nodup := by
  induction fields with
  | nil => simp [setField]
  | cons field fields ih =>
    obtain ⟨hfield, hfields⟩ := List.nodup_cons.mp h
    unfold setField
    by_cases hname : field.1 = name
    · rw [if_pos hname, List.map_cons, ← hname]
      exact h
    · rw [if_neg hname, List.map_cons]
      refine List.nodup_cons.mpr ⟨fun hmem => ?_, ih hfields⟩
      obtain ⟨f, hf, heq⟩ := List.mem_map.mp hmem
      rcases mem_setField hf with rfl | hf
      · exact hname heq.symm
      · exact hfield (List.mem_map.mpr ⟨f, hf, heq⟩)

end Fields

section Echoes

variable {draft draft' : PoolDraft} {id : PoolId} {fields : List (String × Value)} {name : String}
  {v : Value}

private theorem MayHoldText.set {k : String} (h : MayHoldText fields k)
    (hv : name = k → v = .null ∨ ∃ t, v = .string t) :
    MayHoldText (setField name v fields) k := by
  intro w hw
  rw [field?_setField] at hw
  by_cases hname : name = k
  · rw [if_pos hname] at hw
    exact Option.some.inj hw ▸ hv hname
  · rw [if_neg hname] at hw
    exact h w hw

/-- Fields that stand for a draft stand for another one after a field has been set, if the drafts
differ in that field only. -/
theorem Echoes.set (h : Echoes draft id fields) (hid : name ≠ "id")
    (hposted : ∀ k ∈ ["prefix", "description", "custom_fields"],
      (createBody draft').field? k = if name = k then some v else (createBody draft).field? k)
    (hstatus : if name = "status" then Chooses (statusName draft'.status) v
      else draft'.status = draft.status)
    (hstamp : name ∈ ["created", "last_updated"] → v = .null ∨ ∃ t, v = .string t) :
    Echoes draft' id (setField name v fields) where
  names := nodup_setField h.names
  id := by rw [field?_setField, if_neg hid, h.id]
  posted := by
    intro k hk
    rw [field?_setField, hposted k hk, h.posted k hk]
  status := by
    obtain ⟨w, hfield, hchooses⟩ := h.status_chooses
    by_cases hname : name = "status"
    · rw [if_pos hname] at hstatus
      exact ⟨_, v, rfl, by rw [field?_setField, if_pos hname], hstatus⟩
    · rw [if_neg hname] at hstatus
      rw [← hstatus] at hchooses
      exact ⟨_, w, rfl, by rw [field?_setField, if_neg hname, hfield], hchooses⟩
  created := MayHoldText.set h.created fun hname => hstamp (by simp [hname])
  lastUpdated := MayHoldText.set h.lastUpdated fun hname => hstamp (by simp [hname])

private theorem Echoes.set_status (h : Echoes draft id fields) (status : PoolStatus) :
    Echoes { draft with status := status } id
      (setField "status" (.string (statusName status)) fields) := by
  refine h.set (by decide) ?_ Chooses.plain (by simp)
  simp only [List.forall_mem_cons]
  exact ⟨rfl, rfl, rfl, fun _ hk => nomatch hk⟩

private theorem Echoes.set_description (h : Echoes draft id fields) (description : String) :
    Echoes { draft with description := description } id
      (setField "description" (.string description) fields) := by
  refine h.set (by decide) ?_ rfl (by simp)
  simp only [List.forall_mem_cons]
  exact ⟨rfl, rfl, rfl, fun _ hk => nomatch hk⟩

private theorem Echoes.set_tags (h : Echoes draft id fields) (tags : Tags) :
    Echoes { draft with tags := tags } id
      (setField "custom_fields" (.object (customFields { draft with tags := tags })) fields) := by
  refine h.set (by decide) ?_ rfl (by simp)
  simp only [List.forall_mem_cons]
  exact ⟨rfl, rfl, rfl, fun _ hk => nomatch hk⟩

private theorem Echoes.set_stamp (h : Echoes draft id fields)
    (hname : name ∈ ["created", "last_updated"])
    (stamp : Option String) : Echoes draft id (setField name (.option .string stamp) fields) := by
  have hstamp : Value.option Value.string stamp = .null ∨
      ∃ t, Value.option Value.string stamp = .string t := by
    cases stamp with
    | none => exact .inl rfl
    | some t => exact .inr ⟨t, rfl⟩
  simp only [List.mem_cons, List.not_mem_nil, or_false] at hname
  obtain rfl | rfl := hname
  · refine h.set (by decide) ?_ rfl fun _ => hstamp
    simp only [List.forall_mem_cons]
    exact ⟨rfl, rfl, rfl, fun _ hk => nomatch hk⟩
  · refine h.set (by decide) ?_ rfl fun _ => hstamp
    simp only [List.forall_mem_cons]
    exact ⟨rfl, rfl, rfl, fun _ hk => nomatch hk⟩

end Echoes

section Standing

variable {draft : PoolDraft} {id : PoolId} {fields : List (String × Value)}

def Shallow (fields : List (String × Value)) : Prop :=
  ∀ field ∈ fields, ∀ room, field.2.Fits (room + 2)

private theorem Shallow.set {name : String} {v : Value} (h : Shallow fields)
    (hv : ∀ room, v.Fits (room + 2)) : Shallow (setField name v fields) := by
  intro field hfield
  rcases mem_setField hfield with rfl | hfield
  · exact hv
  · exact h field hfield

/-- Fields stand for a draft under an id, and their text can be read back. -/
structure Stands (draft : PoolDraft) (id : PoolId) (fields : List (String × Value)) : Prop where
  echo : Echoes draft id fields
  shallow : Shallow fields

private theorem stands_of_createBody {sent : List (String × Value)}
    (h : createBody draft = .object sent)
    (id : PoolId) : Stands draft id (("id", .nat id) :: sent) := by
  obtain rfl := Value.object.inj h
  have hcreated : ∀ name ∈ ["created", "last_updated"], MayHoldText (("id", .nat id) :: [
      ("prefix", .string draft.cidr.text), ("status", .string (statusName draft.status)),
      ("description", .string draft.description),
      ("custom_fields", .object (customFields draft))]) name := by
    intro name hname v hv
    simp only [List.mem_cons, List.not_mem_nil, or_false] at hname
    obtain rfl | rfl := hname <;> cases hv
  constructor
  · constructor
    · simp
    · rfl
    · simp only [List.forall_mem_cons]
      exact ⟨rfl, rfl, rfl, fun _ hk => nomatch hk⟩
    · exact ⟨_, _, rfl, rfl, .plain⟩
    · exact hcreated "created" (by simp)
    · exact hcreated "last_updated" (by simp)
  · have hcustom : ∀ room, (Value.object (customFields draft)).Fits (room + 2) := fun _ =>
      fits_customFields draft
    unfold Shallow
    simp only [List.forall_mem_cons]
    exact ⟨fun _ => trivial, fun _ => trivial, fun _ => trivial, fun _ => trivial, hcustom,
      fun _ hfield => nomatch hfield⟩

private theorem Stands.set_stamp {name : String} (h : Stands draft id fields)
    (hname : name ∈ ["created", "last_updated"]) (stamp : Option String) :
    Stands draft id (setField name (.option .string stamp) fields) := by
  refine ⟨h.echo.set_stamp hname stamp, h.shallow.set fun room => ?_⟩
  cases stamp <;> trivial

private theorem mergeFields_append (sent sent' : List (String × Value)) :
    mergeFields (sent ++ sent') fields = mergeFields sent' (mergeFields sent fields) :=
  List.foldl_append

private theorem Stands.merge_status (h : Stands draft id fields) (status : Option PoolStatus) :
    Stands { draft with status := status.getD draft.status } id
      (mergeFields (given "status" (fun s => .string (statusName s)) status) fields) := by
  cases status with
  | none => exact h
  | some status => exact ⟨h.echo.set_status status, h.shallow.set fun _ => trivial⟩

private theorem Stands.merge_description (h : Stands draft id fields)
    (description : Option String) :
    Stands { draft with description := description.getD draft.description } id
      (mergeFields (given "description" .string description) fields) := by
  cases description with
  | none => exact h
  | some description => exact ⟨h.echo.set_description description, h.shallow.set fun _ => trivial⟩

private theorem Stands.merge_tags (h : Stands draft id fields) (tags : Option Tags) :
    Stands { draft with tags := tags.getD draft.tags } id
      (mergeFields (given "custom_fields" (fun t => .object [("ipam_tags", tagsValue t)]) tags)
        fields) := by
  cases tags with
  | none => exact h
  | some tags =>
    have hmerged : mergeFields [("custom_fields", .object [("ipam_tags", tagsValue tags)])] fields =
        setField "custom_fields" (.object (customFields { draft with tags := tags })) fields := by
      simp only [mergeFields, List.foldl_cons, List.foldl_nil, if_true, h.echo.customFields_eq]
      rfl
    rw [given, hmerged]
    exact ⟨h.echo.set_tags tags, h.shallow.set fun _ => fits_customFields _⟩

private theorem Stands.merge {pool : Pool} {sent : List (String × Value)}
    (h : Stands pool.draft pool.id fields) (change : PoolUpdate)
    (hsent : updateBody change = .object sent) :
    Stands (change.applyTo pool).draft pool.id (mergeFields sent fields) := by
  have hfields := Value.object.inj hsent
  rw [← hfields, mergeFields_append, mergeFields_append]
  have hstatus := h.merge_status change.status
  have hdescription := hstatus.merge_description change.description
  exact hdescription.merge_tags change.tags

end Standing

section Rows

variable {setup : Setup} {s : Server} {sent : List (String × Value)} {pool : Pool} {row : Row}

/-- A row keeps a pool: it holds all of it but the time stamps, in a form that can be read. -/
structure Row.Keeps (row : Row) (pool : Pool) : Prop where
  id : row.id = pool.id
  stands : Stands pool.draft pool.id row.fields
  name : Text.nonBlank? pool.name = some pool.name

def PrefixRecord.Shows (r : PrefixRecord) (pool : Pool) : Prop :=
  ∃ shown, r.pool? = .ok (some shown) ∧ shown.untimed = pool.untimed

theorem keeps_posted {draft : PoolDraft} (hsent : createBody draft = .object sent)
    (hname : Text.nonBlank? draft.name = some draft.name) (now : Instant) :
    (setup.posted s sent).Keeps (draft.toPool s.nextId now) where
  id := rfl
  stands :=
    ((stands_of_createBody hsent s.nextId).set_stamp (by simp) _).set_stamp (by simp) _
  name := hname

def Row.read (row : Row) : PrefixRecord :=
  match PrefixRecord.decoder (Json.Node.ofValue row.value) with
  | .ok record => record
  | .error _ => ⟨row.id, "", .plain "", "", .null, none, none⟩

namespace Row.Keeps

theorem changed (h : row.Keeps pool) (setup : Setup) (s : Server) (change : PoolUpdate)
    (hsent : updateBody change = .object sent) (now : Instant) :
    (setup.changed s sent row).Keeps { change.applyTo pool with updatedAt := now } where
  id := h.id
  stands := (h.stands.merge change hsent).set_stamp (by simp) _
  name := h.name

theorem fits (h : row.Keeps pool) (room : Nat) : row.value.Fits (room + 3) :=
  Json.fits_object fun field hfield => h.stands.shallow field hfield room

theorem decode (h : row.Keeps pool) :
    PrefixRecord.decoder (Json.Node.ofValue row.value) = .ok row.read ∧ row.read.Shows pool := by
  obtain ⟨choice, hchoice, hdecode⟩ := h.stands.echo.decode
  have hread : row.read = echoedRecord pool.draft pool.id row.fields choice := by
    rw [Row.read, Row.value, hdecode]
  rw [hread]
  exact ⟨hdecode, _, pool?_echoedRecord h.name hchoice, rfl⟩

theorem poolName? (h : row.Keeps pool) : row.poolName? = some pool.name := by
  rw [Row.poolName?, Row.value, h.stands.echo.customFields_eq]
  rfl

theorem decodeText (h : row.Keeps pool) :
    Json.decodeText PrefixRecord.decoder row.value.text = .ok row.read :=
  (Json.decodeText_text PrefixRecord.decoder (h.fits 124)).trans h.decode.1

theorem run_call (h : row.Keeps pool) {key : String} {method : Http.Method} {path : String}
    {body : Option Value} {status : Nat} {t : Server} (hsuccess : Http.isSuccess status = true)
    (hexchange : setup.exchange ((setup.client key).request method path body) s =
      (some ⟨status, row.value.text⟩, t)) :
    (call (setup.client key) setup.remote PrefixRecord.decoder method path body).run ⟨s, .live⟩ =
      (.ok row.read, ⟨t, .live⟩) := by
  have hsend : (send setup.remote ((setup.client key).request method path body)).run ⟨s, .live⟩ =
      (.ok ⟨status, row.value.text⟩, ⟨t, .live⟩) := run_send_of_live hexchange
  have hcall := run_call_of_reply PrefixRecord.decoder hsend
  rwa [decode_of_success hsuccess h.decodeText] at hcall

end Row.Keeps

end Rows

end NetBox
end AddressPlan
