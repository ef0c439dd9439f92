import AddressPlan.Proofs.Engine.Drafts
import AddressPlan.Proofs.Json.Decoding
import AddressPlan.Proofs.Json.RoundTrip
import AddressPlan.Proofs.NetBox.Exchange
/-!
# Records of posted drafts

A draft is posted as a record whose metadata stands in custom fields. A server that sends the
posted fields back, under an id and with time stamps, has sent the pool that was asked for.
-/
namespace AddressPlan
namespace NetBox
open Json (Value Decoder Node)

section Choices

/-- What a server may send for a choice: its value, or an object with that value. -/
inductive Chooses (value : String) : Value → Prop
  | plain : Chooses value (.string value)
  | labeled {fields : List (String × Value)} (names : (fields.map Prod.fst).Nodup)
      (hvalue : (Value.object fields).field? "value" = some (.string value)) :
      Chooses value (.object fields)

private theorem Chooses.decode {value : String} {v : Value} (h : Chooses value v) :
    ∃ choice : Choice, Choice.decoder (Node.ofValue v) = .ok choice ∧ choice.value = value := by
  cases h with
  | plain => exact ⟨.plain value, rfl, rfl⟩
  | @labeled fields hnames hvalue =>
    obtain ⟨w, hw⟩ := Node.exists_value?_ofValue (.object fields)
    have hlookup : Json.Record.lookup (Node.ofFields fields) "value" = some (.string value) := by
      rw [Node.lookup_ofFields, hvalue]
      rfl
    have hfilter := Json.Record.filter_of_lookup (by rwa [Node.names_ofFields]) hlookup
    rw [Node.ofValue] at hw
    refine ⟨.labeled value, ?_, rfl⟩
    simp [Choice.decoder, Node.ofValue, hw, hfilter]

end Choices

section Echoes

variable {draft : PoolDraft} {id : PoolId} {fields : List (String × Value)}

def fieldText? (fields : List (String × Value)) (name : String) : Option String :=
  match (Value.object fields).field? name with
  | some (.string t) => some t
  | _ => none

def MayHoldText (fields : List (String × Value)) (name : String) : Prop :=
  ∀ v, (Value.object fields).field? name = some v → v = .null ∨ ∃ t, v = .string t

/-- An object sends the posted fields of a draft back as they are, but for the form of the status,
with an id and time stamps. It may have other fields as well. -/
structure Echoes (draft : PoolDraft) (id : PoolId) (fields : List (String × Value)) : Prop where
  names : (fields.map Prod.fst).Nodup
  id : (Value.object fields).field? "id" = some (.nat id)
  posted : ∀ name ∈ ["prefix", "description", "custom_fields"],
    (Value.object fields).field? name = (createBody draft).field? name
  status : ∃ status v, (createBody draft).field? "status" = some (.string status) ∧
    (Value.object fields).field? "status" = some v ∧ Chooses status v
  created : MayHoldText fields "created"
  lastUpdated : MayHoldText fields "last_updated"

def echoedPool (draft : PoolDraft) (id : PoolId) (fields : List (String × Value)) : Pool :=
  { draft.toPool id (timestamp (fieldText? fields "created")) with
    updatedAt := timestamp (fieldText? fields "last_updated") }

def customFields (draft : PoolDraft) : List (String × Value) := [
  ("ipam_pool_name", .string draft.name),
  ("ipam_pool_type", .string draft.kind.name),
  ("ipam_parent_id", .option .nat draft.parent),
  ("ipam_source", .string draft.source.name),
  ("ipam_tags", tagsValue draft.tags)]

private theorem names_customFields (draft : PoolDraft) :
    ((customFields draft).map Prod.fst).Nodup := by
  simp [customFields]

private theorem value?_customFields (draft : PoolDraft) :
    (Node.ofValue (.object (customFields draft))).value? =
      some (.object (Node.ordered (customFields draft))) := by
  have hparent : Node.Settled (.option .nat draft.parent) := by cases draft.parent <;> rfl
  have htags : Node.Settled (tagsValue draft.tags) := Node.settled_named Node.settled_string
  refine Node.value?_object ?_
  simp [customFields, Node.settled_string, hparent, htags]

theorem fits_customFields {room : Nat} (draft : PoolDraft) :
    (Value.object (customFields draft)).Fits (room + 2) := by
  have hparent : (Value.option .nat draft.parent).Fits (room + 1) := by
    cases draft.parent <;> trivial
  have htags : (tagsValue draft.tags).Fits (room + 1) := by
    refine Json.fits_object fun field hfield => ?_
    obtain ⟨row, -, rfl⟩ := List.mem_map.mp hfield
    trivial
  refine Json.fits_object ?_
  simp only [customFields, List.forall_mem_cons]
  exact ⟨trivial, trivial, hparent, trivial, htags, fun _ hfield => nomatch hfield⟩

private theorem reads_omissible {name : String} (h : MayHoldText fields name) :
    (Json.Record.omissible name Decoder.string).Reads
      (fun name => ((Value.object fields).field? name).map Node.ofValue)
      (fieldText? fields name) := by
  refine Json.Record.reads_field ?_
  cases hfield : (Value.object fields).field? name with
  | none => simp [fieldText?, hfield]
  | some v =>
    rcases h v hfield with rfl | ⟨t, rfl⟩
    · simp [fieldText?, hfield, Node.ofValue, Decoder.option]
    · simp only [fieldText?, hfield]
      rfl

def echoedRecord (draft : PoolDraft) (id : PoolId) (fields : List (String × Value))
    (choice : Choice) : PrefixRecord where
  id := id
  cidr := draft.cidr.text
  status := choice
  description := draft.description
  customFields := .object (Node.ordered (customFields draft))
  created := fieldText? fields "created"
  lastUpdated := fieldText? fields "last_updated"

private theorem PrefixRecord.reads {look : String → Option Node} {r : PrefixRecord}
    (hid : (Json.Record.required "id" Decoder.uint64).Reads look r.id)
    (hcidr : (Json.Record.required "prefix" Decoder.string).Reads look r.cidr)
    (hstatus : (Json.Record.required "status" Choice.decoder).Reads look r.status)
    (hdescription : (Json.Record.defaulted "description" Decoder.string "").Reads look
      r.description)
    (hcustom : (Json.Record.defaulted "custom_fields" Decoder.value .null).Reads look
      r.customFields)
    (hcreated : (Json.Record.omissible "created" Decoder.string).Reads look r.created)
    (hupdated : (Json.Record.omissible "last_updated" Decoder.string).Reads look
      r.lastUpdated) : PrefixRecord.record.Reads look r :=
  ((((((hid.map.seq hcidr).seq hstatus).seq hdescription).seq hcustom).seq hcreated).seq hupdated)

private theorem Echoes.cidr_eq (h : Echoes draft id fields) :
    (Value.object fields).field? "prefix" = some (.string draft.cidr.text) :=
  h.posted "prefix" (by decide)

private theorem Echoes.description_eq (h : Echoes draft id fields) :
    (Value.object fields).field? "description" = some (.string draft.description) :=
  h.posted "description" (by decide)

theorem Echoes.customFields_eq (h : Echoes draft id fields) :
    (Value.object fields).field? "custom_fields" = some (.object (customFields draft)) :=
  h.posted "custom_fields" (by decide)

theorem Echoes.status_chooses (h : Echoes draft id fields) :
    ∃ v, (Value.object fields).field? "status" = some v ∧ Chooses (statusName draft.status) v := by
  obtain ⟨status, v, hposted, hstatus, hchooses⟩ := h.status
  cases hposted
  exact ⟨v, hstatus, hchooses⟩

theorem Echoes.decode (h : Echoes draft id fields) : ∃ choice : Choice,
    choice.value = statusName draft.status ∧
    PrefixRecord.decoder (Node.ofValue (.object fields)) =
      .ok (echoedRecord draft id fields choice) := by
  obtain ⟨v, hstatus, hchooses⟩ := h.status_chooses
  obtain ⟨choice, hchoice, hvalue⟩ := hchooses.decode
  have hfields : Decoder.value (Node.ofValue (.object (customFields draft))) =
      .ok (.object (Node.ordered (customFields draft))) := by
    rw [Decoder.value, value?_customFields]
  refine ⟨choice, hvalue, Json.Record.Reads.decode_ofValue ?_ h.names⟩
  refine PrefixRecord.reads ?_ ?_ ?_ ?_ ?_ (reads_omissible h.created)
    (reads_omissible h.lastUpdated)
  · exact Json.Record.reads_found (by rw [h.id]; rfl) rfl
  · exact Json.Record.reads_found (by rw [h.cidr_eq]; rfl) rfl
  · exact Json.Record.reads_found (by rw [hstatus]; rfl) hchoice
  · exact Json.Record.reads_found (by rw [h.description_eq]; rfl) rfl
  · exact Json.Record.reads_found (by rw [h.customFields_eq]; rfl) hfields

private theorem customText?_of_field? {v : Value} {key s : String}
    (h : v.field? key = some (.string s)) : customText? v key = Text.nonBlank? s := by
  rw [customText?, h]

theorem customTags_of_field? {v : Value} {tags : Tags}
    (h : v.field? "ipam_tags" = some (tagsValue tags)) : customTags v = tags := by
  have hrows : (tags.rows.map fun row : String × String => (row.1, Value.string row.2)).map
      (fun field => (field.1, tagText field.2)) = tags.rows := by
    rw [List.map_map]
    exact List.map_id tags.rows
  rw [customTags, h, tagsValue, Value.named]
  exact (congrArg Keyed.ofList hrows).trans (Keyed.ofList_rows tags)

private theorem customParent?_of_field? {v : Value} {parent : Option PoolId}
    (h : v.field? "ipam_parent_id" = some (.option .nat parent)) : customParent? v = parent := by
  rw [customParent?, h]
  cases parent <;> rfl

theorem statusOf_statusName (status : PoolStatus) : statusOf (statusName status) = status := by
  cases status <;> decide

theorem pool?_echoedRecord {choice : Choice} (hname : Text.nonBlank? draft.name = some draft.name)
    (hchoice : choice.value = statusName draft.status) :
    (echoedRecord draft id fields choice).pool? = .ok (some (echoedPool draft id fields)) := by
  have hfield : ∀ name, (Value.object (Node.ordered (customFields draft))).field? name =
      (Value.object (customFields draft)).field? name :=
    Node.field?_ordered (names_customFields draft)
  have hcolon : draft.cidr.text.toList.contains ':' = false := by
    simpa using Prefix.colon_not_mem_text draft.cidr
  have hpool := customText?_of_field? (s := draft.name) (hfield "ipam_pool_name")
  have htype := customText?_of_field? (s := draft.kind.name) (hfield "ipam_pool_type")
  have horigin := customText?_of_field? (s := draft.source.name) (hfield "ipam_source")
  have hkind : ((Text.nonBlank? draft.kind.name).bind fun t => (PoolKind.read t).toOption) =
      some draft.kind := by
    cases draft.kind <;> decide
  have hsource : ((Text.nonBlank? draft.source.name).bind fun t =>
      (PoolSource.read t).toOption) = some draft.source := by
    cases draft.source <;> decide
  have hparent : customParent? (.object (Node.ordered (customFields draft))) = draft.parent :=
    customParent?_of_field? (hfield "ipam_parent_id")
  have htags : customTags (.object (Node.ordered (customFields draft))) = draft.tags :=
    customTags_of_field? (hfield "ipam_tags")
  rw [PrefixRecord.pool?]
  simp only [echoedRecord, hcolon, Prefix.parse_text, hpool, htype, horigin, hname, hkind,
    hsource, hchoice, statusOf_statusName, hparent, htags, Bool.false_eq_true, if_false,
    Option.some_or, Option.getD_some]
  rfl

end Echoes

section Creation

variable {draft : PoolDraft} {limits : Limits} {id : PoolId} {fields : List (String × Value)}

theorem run_createPool_of_reply {σ : Type} {client : Client} {remote : Remote σ}
    {line checked named got : Line σ} {reply : Reply} {record : PrefixRecord} {pool : Pool}
    (hparent : (checkParent client remote draft).run line = (.ok (), checked))
    (hname : (checkName client remote draft).run checked = (.ok (), named))
    (hsend : (send remote
      (client.request .post prefixesPath (some (createBody draft)))).run named = (.ok reply, got))
    (hdecode : ∀ context, reply.decode PrefixRecord.decoder context = .ok record)
    (hpool : record.pool? = .ok (some pool)) :
    (createPool client remote draft).run line = (.ok pool, got) := by
  have hcall := run_call_of_reply PrefixRecord.decoder hsend
  rw [hdecode] at hcall
  rw [createPool, run_bind_of_ok hparent, run_bind_of_ok hname,
    run_bind_of_ok (run_errand_of_ok hcall), run_bind_of_ok (run_usable_of_ok hpool)]
  rfl

theorem Echoes.decodeText (hname : Text.nonBlank? draft.name = some draft.name)
    (h : Echoes draft id fields) (hfits : (Value.object fields).Fits Json.maxDepth) :
    ∃ record, Json.decodeText PrefixRecord.decoder (Value.object fields).text = .ok record ∧
      record.pool? = .ok (some (echoedPool draft id fields)) := by
  obtain ⟨choice, hchoice, hdecode⟩ := h.decode
  exact ⟨_, (Json.decodeText_text PrefixRecord.decoder hfits).trans hdecode,
    pool?_echoedRecord hname hchoice⟩

/-- A server that sends a posted draft back has sent the pool that was asked for, and this is what
the creation of the pool answers. -/
theorem pool?_of_echo (hproduced : draft.Produced limits) (hecho : Echoes draft id fields)
    (hfits : (Value.object fields).Fits Json.maxDepth) :
    (∃ record, Json.decodeText PrefixRecord.decoder (Value.object fields).text = .ok record ∧
      record.pool? = .ok (some (echoedPool draft id fields))) ∧
    ∀ {σ : Type} (client : Client) (remote : Remote σ) (line checked named got : Line σ)
      (status : Nat), (checkParent client remote draft).run line = (.ok (), checked) →
      (checkName client remote draft).run checked = (.ok (), named) →
      (send remote (client.request .post prefixesPath (some (createBody draft)))).run named =
        (.ok ⟨status, (Value.object fields).text⟩, got) →
      Http.isSuccess status = true →
      (store client remote).create draft line = (.ok (echoedPool draft id fields), got) := by
  obtain ⟨record, htext, hpool⟩ := hecho.decodeText hproduced.nonBlank?_name hfits
  refine ⟨⟨record, htext, hpool⟩, ?_⟩
  intro σ client remote line checked named got status hparent hname hsend hsuccess
  exact run_createPool_of_reply hparent hname hsend (decode_of_success hsuccess htext) hpool

/-- A request that is posted to a server with prepared replies. Its parent has the largest id
there is; its name is not ASCII; the status comes back with a label. -/
theorem pool?_of_echo_labeled :
    let request : PoolRequest := ⟨" Zürich Σ ", "10.0.7.0/16", some "VPC", none,
      some 0xFFFFFFFFFFFFFFFF, none, some " edge \"a\"", .ofList [("b", "2"), ("a", "ß")]⟩
    let draft : PoolDraft := ⟨"Zürich Σ", .ofAddress 0x0A000000 16 (by decide), .vpc, .planned,
      some 0xFFFFFFFFFFFFFFFF, .manual, " edge \"a\"", .ofList [("b", "2"), ("a", "ß")]⟩
    let fields : List (String × Value) := [("id", .nat 12), ("prefix", .string "10.0.0.0/16"),
      ("status", .object [("value", .string "reserved"), ("label", .string "Reserved")]),
      ("description", .string " edge \"a\""), ("custom_fields", .object (customFields draft)),
      ("created", .string "2024-01-02T03:04:05Z"), ("last_updated", .null)]
    let parent := "\x7b\"id\":9,\"prefix\":\"10.0.0.0/8\",\"status\":\"active\"\x7d"
    let page := "\x7b\"count\":0,\"next\":null,\"previous\":null,\"results\":[]\x7d"
    let client := Client.of "http://netbox" "key"
    let replies : List Reply := [⟨200, parent⟩, ⟨200, page⟩, ⟨201, (Value.object fields).text⟩]
    let remote : Remote Nat := ⟨fun _ i => (replies[i]?, i + 1), fun _ => 1⟩
    request.validate .standard = .ok draft ∧ Echoes draft 12 fields ∧
      (Value.object fields).Fits Json.maxDepth ∧
      (store client remote).create draft ⟨0, .live⟩ =
        (.ok (echoedPool draft 12 fields), ⟨3, .live⟩) := by
  intro request draft fields parent page client replies remote
  have hvalid : request.validate .standard = .ok draft := by decide +kernel
  have hecho : Echoes draft 12 fields := by
    refine ⟨by decide, rfl, ?_, ⟨_, _, rfl, rfl, .labeled (by decide) rfl⟩, ?_, ?_⟩
    · simp only [List.forall_mem_cons]
      have htext : "10.0.0.0/16" = draft.cidr.text := by decide +kernel
      exact ⟨congrArg (fun t => some (Value.string t)) htext, rfl, rfl,
        fun _ hname => nomatch hname⟩
    · intro v hv
      cases hv
      exact .inr ⟨_, rfl⟩
    · intro v hv
      cases hv
      exact .inl rfl
  have hfits : (Value.object fields).Fits Json.maxDepth := by
    have hstatus : (Value.object [("value", .string "reserved"),
        ("label", .string "Reserved")]).Fits 126 := Json.fits_object (by simp [Value.Fits])
    refine Json.fits_object ?_
    simp only [fields, List.forall_mem_cons]
    exact ⟨trivial, trivial, hstatus, trivial, fits_customFields draft, trivial, trivial,
      fun _ hfield => nomatch hfield⟩
  have hparent : (checkParent client remote draft).run ⟨0, .live⟩ = (.ok (), ⟨1, .live⟩) := by
    change @Eq (Except Refusal Unit × Line Nat) _ _
    decide +kernel
  have hname : (checkName client remote draft).run ⟨1, .live⟩ = (.ok (), ⟨2, .live⟩) := by
    change @Eq (Except Refusal Unit × Line Nat) _ _
    decide +kernel
  exact ⟨hvalid, hecho, hfits, (pool?_of_echo (.request hvalid) hecho hfits).2 client remote
    ⟨0, .live⟩ _ _ _ 201 hparent hname rfl rfl⟩

end Creation

end NetBox
end AddressPlan
