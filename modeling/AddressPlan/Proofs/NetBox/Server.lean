import AddressPlan.Proofs.NetBox.Exchange
import AddressPlan.Proofs.Text.Digits
import AddressPlan.Proofs.Text.Query
import AddressPlan.Text.Lowercase
/-!
# An ideal server

A server that keeps what it is sent. Records get their ids in the order in which they are posted,
a change replaces the fields that are sent and merges the custom fields key by key, and a listing
comes in pages, each with a link to the next one. How a listing is cut into pages and what the time
stamps are is up to the setup.
-/
namespace AddressPlan.NetBox
open Json (Value Decoder)

section Definitions

structure Row where
  id : PoolId
  fields : List (String × Value)

def Row.value (row : Row) : Value :=
  .object row.fields

def Row.poolName? (row : Row) : Option String :=
  match (row.value.field? "custom_fields").bind (Value.field? "ipam_pool_name") with
  | some (.string name) => some name
  | _ => none

/-- Puts a value in the place of the field with a name, or behind all fields if there is none. -/
def setField (name : String) (v : Value) : List (String × Value) → List (String × Value)
  | [] => [(name, v)]
  | field :: fields =>
    if field.1 = name then (name, v) :: fields else field :: setField name v fields

def replaceFields (sent fields : List (String × Value)) : List (String × Value) :=
  sent.foldl (fun fields field => setField field.1 field.2 fields) fields

/-- The custom fields after a change: those that are not sent stay. -/
def mergedCustomFields (stored : Option Value) (sent : Value) : Value :=
  match stored, sent with
  | some (.object fields), .object sentFields => .object (replaceFields sentFields fields)
  | _, v => v

def mergeFields (sent fields : List (String × Value)) : List (String × Value) :=
  sent.foldl (fun fields field =>
    let stored := (Value.object fields).field? field.1
    setField field.1
      (if field.1 = "custom_fields" then mergedCustomFields stored field.2 else field.2)
      fields) fields

/-- What a server holds. -/
structure Server where
  rows : List Row
  nextId : PoolId
  /-- How many records have been posted or changed so far. -/
  writes : Nat

def Server.empty : Server := ⟨[], 1, 0⟩

/-- How a server presents what it holds. -/
structure Setup where
  address : String
  /-- Links are absolute addresses. -/
  absolute : "http".toList.isPrefixOf address.toList = true
  /-- The pages of a listing; there may be empty ones. -/
  cut : List Row → List (List Row)
  perm_cut : ∀ rows, (cut rows).flatten.Perm rows
  /-- How many pages there may be of a listing of some of the rows. -/
  most : List Row → Nat
  length_cut_le : ∀ {kept rows : List Row}, kept.Sublist rows → (cut kept).length ≤ most rows
  /-- The time stamp of a write. -/
  stamp : Nat → Option String

namespace Setup

variable (setup : Setup)

def target? (url : String) : Option (String × List (String × String)) :=
  if setup.address.toList.isPrefixOf url.toList then
    let (path, query) := Text.cut '?' (url.toList.drop setup.address.toList.length)
    some (String.ofList path, Text.queryPairs query)
  else none

def listingUrl (query : List (String × String)) : String :=
  setup.address ++ (prefixesPath ++ "?" ++ Text.queryText query)

/-- The rows that a query asks for. -/
def kept (query : List (String × String)) (rows : List Row) : List Row :=
  match query.lookup "cf_ipam_pool_name__ie" with
  | none => rows
  | some name =>
    rows.filter fun row => row.poolName?.any fun n => Text.lowercase n = Text.lowercase name

def pageNumber (query : List (String × String)) : Nat :=
  match query.lookup "page" with
  | none => 0
  | some n => Nat.ofDigitChars 10 n.toList 0

def onPage (query : List (String × String)) (n : Nat) : List (String × String) :=
  query.filter (·.1 ≠ "page") ++ [("page", n.repr)]

def pages (query : List (String × String)) (rows : List Row) : List (List Row) :=
  setup.cut (kept query rows)

def shown (query : List (String × String)) (rows : List Row) : List Row :=
  (setup.pages query rows)[pageNumber query]?.getD []

def nextLink (query : List (String × String)) (rows : List Row) : Option String :=
  if pageNumber query + 1 < (setup.pages query rows).length then
    some (setup.listingUrl (onPage query (pageNumber query + 1)))
  else none

def previousLink (query : List (String × String)) : Option String :=
  if 0 < pageNumber query then some (setup.listingUrl (onPage query (pageNumber query - 1)))
  else none

def page (query : List (String × String)) (rows : List Row) : Value := .object [
  ("count", .count (kept query rows).length),
  ("next", .option .string (setup.nextLink query rows)),
  ("previous", .option .string (setup.previousLink query)),
  ("results", .list Row.value (setup.shown query rows))]

def notFound : Reply :=
  ⟨404, (Value.object [("detail", .string "Not found.")]).text⟩

def stampValue (s : Server) : Value :=
  .option .string (setup.stamp s.writes)

def posted (s : Server) (sent : List (String × Value)) : Row where
  id := s.nextId
  fields := setField "last_updated" (setup.stampValue s)
    (setField "created" (setup.stampValue s) (("id", .nat s.nextId) :: sent))

def changed (s : Server) (sent : List (String × Value)) (row : Row) : Row where
  id := row.id
  fields := setField "last_updated" (setup.stampValue s) (mergeFields sent row.fields)

def exchange (request : Request) (s : Server) : Option Reply × Server :=
  match setup.target? request.url with
  | none => (none, s)
  | some (path, query) =>
    match request.method, request.body with
    | .get, none =>
      if path = prefixesPath then (some ⟨200, (setup.page query s.rows).text⟩, s)
      else
        match s.rows.find? (prefixPath ·.id = path) with
        | some row => (some ⟨200, row.value.text⟩, s)
        | none => (some notFound, s)
    | .post, some (.object sent) =>
      if path = prefixesPath then
        let row := setup.posted s sent
        (some ⟨201, row.value.text⟩, ⟨s.rows ++ [row], s.nextId + 1, s.writes + 1⟩)
      else (some notFound, s)
    | .patch, some (.object sent) =>
      match s.rows.find? (prefixPath ·.id = path) with
      | some old =>
        let row := setup.changed s sent old
        (some ⟨200, row.value.text⟩,
          { s with rows := s.rows.map fun r => if r.id = row.id then row else r
                   writes := s.writes + 1 })
      | none => (some notFound, s)
    | _, _ => (some notFound, s)

def remote : Remote Server where
  exchange := setup.exchange
  patience s := setup.most s.rows + 1

end Setup
end Definitions

section Addresses

def Setup.client (setup : Setup) (key : String) : Client :=
  ⟨setup.address, key⟩

private theorem toList_prefixPath (id : PoolId) :
    (prefixPath id).toList = prefixesPath.toList ++ (Nat.toDigits 10 id.toNat ++ ['/']) := by
  simp [prefixPath, Nat.repr_eq_ofList_toDigits]

private theorem prefixPath_inj {a b : PoolId} : prefixPath a = prefixPath b ↔ a = b := by
  constructor
  · intro h
    have hlist := congrArg String.toList h
    rw [toList_prefixPath, toList_prefixPath] at hlist
    have hdigits := List.append_cancel_right (List.append_cancel_left hlist)
    have hvalue := congrArg (Nat.ofDigitChars 10 · 0) hdigits
    simp only [Nat.ofDigitChars_ten_toDigits] at hvalue
    exact UInt64.toNat_inj.mp hvalue
  · rintro rfl
    rfl

private theorem prefixPath_ne (id : PoolId) : prefixPath id ≠ prefixesPath := by
  intro h
  have hlength := congrArg List.length (congrArg String.toList h)
  rw [toList_prefixPath] at hlength
  simp at hlength

private theorem question_not_mem_prefixesPath : '?' ∉ prefixesPath.toList := by
  decide

private theorem question_not_mem_prefixPath (id : PoolId) : '?' ∉ (prefixPath id).toList := by
  have hdigits : '?' ∉ Nat.toDigits 10 id.toNat := fun h =>
    absurd (Text.isDigit_toDigits id.toNat '?' h) (by decide)
  rw [toList_prefixPath]
  simp [question_not_mem_prefixesPath, hdigits]

variable (setup : Setup) (key : String)

private theorem target?_append (path : String) : setup.target? (setup.address ++ path) =
    some (String.ofList (Text.cut '?' path.toList).1,
      Text.queryPairs (Text.cut '?' path.toList).2) := by
  have hstart : setup.address.toList.isPrefixOf (setup.address ++ path).toList = true := by
    rw [List.isPrefixOf_iff_prefix, String.toList_append]
    exact List.prefix_append _ _
  rw [Setup.target?, if_pos hstart, String.toList_append, List.drop_left]

private theorem target?_of_plain {path : String} (h : '?' ∉ path.toList) :
    setup.target? (setup.address ++ path) = some (path, []) := by
  rw [target?_append, Text.cut_of_not_mem h, String.ofList_toList]
  rfl

private theorem target?_listingUrl (query : List (String × String)) :
    setup.target? (setup.listingUrl query) = some (prefixesPath, query) := by
  have hpath : (prefixesPath ++ "?" ++ Text.queryText query).toList =
      prefixesPath.toList ++ '?' :: (Text.queryText query).toList := by
    simp
  rw [Setup.listingUrl, target?_append, hpath, Text.cut_append question_not_mem_prefixesPath,
    Text.queryPairs_queryText, String.ofList_toList]

private theorem url_prefixes (rest : String) :
    (setup.client key).url (prefixesPath ++ rest) = setup.address ++ (prefixesPath ++ rest) :=
  (setup.client key).url_prefixes rest

theorem url_listingUrl (query : List (String × String)) :
    (setup.client key).url (setup.listingUrl query) = setup.listingUrl query := by
  have hstart : "http".toList.isPrefixOf (setup.listingUrl query).toList = true := by
    have habsolute := List.isPrefixOf_iff_prefix.mp setup.absolute
    rw [List.isPrefixOf_iff_prefix, Setup.listingUrl, String.toList_append]
    exact habsolute.trans (List.prefix_append _ _)
  rw [Client.url, if_pos hstart]

theorem url_listingPath (filters : List (String × String)) :
    (setup.client key).url (listingPath filters) =
      setup.listingUrl ([("family", "4"), ("limit", "1000")] ++ filters) := by
  exact (setup.client key).url_listingPath filters

end Addresses

section Exchanges

variable (setup : Setup) (key : String) {s : Server} {id : PoolId} {row : Row}
  {sent : List (String × Value)}

private theorem target?_prefixPath (id : PoolId) :
    setup.target? ((setup.client key).url (prefixPath id)) = some (prefixPath id, []) := by
  have hpath : prefixPath id = prefixesPath ++ (id.toNat.repr ++ "/") := String.append_assoc
  have htarget := target?_of_plain setup (question_not_mem_prefixPath id)
  have hurl := url_prefixes setup key (id.toNat.repr ++ "/")
  rw [← hpath] at hurl
  rw [hurl, htarget]

private theorem find?_prefixPath (rows : List Row) (id : PoolId) :
    rows.find? (prefixPath ·.id = prefixPath id) = rows.find? (·.id = id) := by
  simp only [prefixPath_inj]

theorem exchange_get (h : s.rows.find? (·.id = id) = some row) :
    setup.exchange ((setup.client key).request .get (prefixPath id) none) s =
      (some ⟨200, row.value.text⟩, s) := by
  have htarget := target?_prefixPath setup key id
  rw [← find?_prefixPath] at h
  simp only [Setup.exchange, Client.request, htarget, prefixPath_ne, if_false, h]

theorem exchange_get_missing (h : s.rows.find? (·.id = id) = none) :
    setup.exchange ((setup.client key).request .get (prefixPath id) none) s =
      (some Setup.notFound, s) := by
  have htarget := target?_prefixPath setup key id
  rw [← find?_prefixPath] at h
  simp only [Setup.exchange, Client.request, htarget, prefixPath_ne, if_false, h]

theorem exchange_listing {path : String} {query : List (String × String)}
    (h : (setup.client key).url path = setup.listingUrl query) :
    setup.exchange ((setup.client key).request .get path none) s =
      (some ⟨200, (setup.page query s.rows).text⟩, s) := by
  have htarget := target?_listingUrl setup query
  rw [← h] at htarget
  simp only [Setup.exchange, Client.request, htarget, if_true]

theorem exchange_post {body : Value} (h : body = .object sent) :
    setup.exchange ((setup.client key).request .post prefixesPath (some body)) s =
      (some ⟨201, (setup.posted s sent).value.text⟩,
        ⟨s.rows ++ [setup.posted s sent], s.nextId + 1, s.writes + 1⟩) := by
  have hurl := url_prefixes setup key ""
  rw [String.append_empty] at hurl
  have htarget := target?_of_plain setup question_not_mem_prefixesPath
  rw [← hurl] at htarget
  simp only [Setup.exchange, Client.request, htarget, h, if_true]

theorem exchange_patch {body : Value} (h : body = .object sent)
    (hfind : s.rows.find? (·.id = id) = some row) :
    setup.exchange ((setup.client key).request .patch (prefixPath id) (some body)) s =
      (some ⟨200, (setup.changed s sent row).value.text⟩,
        { s with rows := s.rows.map fun r => if r.id = id then setup.changed s sent row else r
                 writes := s.writes + 1 }) := by
  have hid : row.id = id := by simpa using List.find?_some hfind
  have hchanged : (setup.changed s sent row).id = id := hid
  have htarget := target?_prefixPath setup key id
  rw [← find?_prefixPath] at hfind
  simp only [Setup.exchange, Client.request, htarget, h, hfind, hchanged]

theorem exchange_patch_missing {body : Value} (h : body = .object sent)
    (hfind : s.rows.find? (·.id = id) = none) :
    setup.exchange ((setup.client key).request .patch (prefixPath id) (some body)) s =
      (some Setup.notFound, s) := by
  have htarget := target?_prefixPath setup key id
  rw [← find?_prefixPath] at hfind
  simp only [Setup.exchange, Client.request, htarget, h, hfind]

variable {setup key}

theorem run_call_of_notFound {α : Type} (decoder : Decoder α) {method : Http.Method} {path : String}
    {body : Option Value} {s t : Server}
    (h : setup.exchange ((setup.client key).request method path body) s =
      (some Setup.notFound, t)) :
    ∃ rejection, (call (setup.client key) setup.remote decoder method path body).run ⟨s, .live⟩ =
      (.error (.notFound rejection), ⟨t, .live⟩) := by
  have hsend : (send setup.remote ((setup.client key).request method path body)).run ⟨s, .live⟩ =
      (.ok Setup.notFound, ⟨t, .live⟩) := run_send_of_live h
  have hcall := run_call_of_reply decoder hsend
  rw [Setup.notFound, decode_of_notFound] at hcall
  exact ⟨_, hcall⟩

end Exchanges

end AddressPlan.NetBox
