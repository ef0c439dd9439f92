import Mathlib.Data.List.Perm.Basic
import AddressPlan.Proofs.NetBox.Exchange
import AddressPlan.Proofs.Results
import AddressPlan.Proofs.Sorting
/-!
# Listings that are cut into pages

A listing is fetched by following the links from its first page. What comes of that, for any remote,
is either the pages one after the other or a failure on one of them. The answer to the listing of
pools is a function of all records together: how they are cut into pages makes no difference to it,
and a page that fails leaves no answer at all.
-/
namespace AddressPlan.NetBox
open Json (Decoder)

section Pages

variable {σ α : Type} (client : Client) (remote : Remote σ) (decoder : Decoder α)

/-- What comes of following the links from a path, over to which state of the remote: the results on
the pages, or nothing where no reply comes, a reply is no success or its body is no page. -/
inductive Paged : σ → String → Option (List (List α)) → σ → Prop
  | silent {s t : σ} {path : String}
      (exchange : remote.exchange (client.request .get path none) s = (none, t)) :
      Paged s path none t
  | refused {s t : σ} {path body : String} {status : Nat}
      (exchange : remote.exchange (client.request .get path none) s = (some ⟨status, body⟩, t))
      (failed : Http.isSuccess status = false) :
      Paged s path none t
  | garbled {s t : σ} {path body : String} {status : Nat} {fault : Json.Fault}
      (exchange : remote.exchange (client.request .get path none) s = (some ⟨status, body⟩, t))
      (succeeded : Http.isSuccess status = true)
      (reads : Json.decodeText (Page.record decoder).decode body = .error fault) :
      Paged s path none t
  | last {s t : σ} {path body : String} {status : Nat} {page : Page α}
      (exchange : remote.exchange (client.request .get path none) s = (some ⟨status, body⟩, t))
      (succeeded : Http.isSuccess status = true)
      (reads : Json.decodeText (Page.record decoder).decode body = .ok page)
      (link : page.next = none) :
      Paged s path (some [page.results]) t
  | more {s t u : σ} {path next body : String} {status : Nat} {page : Page α}
      {outcome : Option (List (List α))}
      (exchange : remote.exchange (client.request .get path none) s = (some ⟨status, body⟩, t))
      (succeeded : Http.isSuccess status = true)
      (reads : Json.decodeText (Page.record decoder).decode body = .ok page)
      (link : page.next = some next) (rest : Paged t next outcome u) :
      Paged s path (outcome.map (page.results :: ·)) u

end Pages

section Fetching

variable {σ α : Type} {client : Client} {remote : Remote σ} {decoder : Decoder α} {s t : σ}
  {path next body : String} {status : Nat} {page : Page α} {line got : Line σ}
  {failure : Failure} {outcome : Option (List (List α))}

theorem Paged.linked {u : σ} {pages : List (List α)}
    (hexchange : remote.exchange (client.request .get path none) s = (some ⟨status, body⟩, t))
    (hstatus : Http.isSuccess status = true)
    (hbody : Json.decodeText (Page.record decoder).decode body = .ok page)
    (hlink : page.next = some next) (hrest : Paged client remote decoder t next (some pages) u) :
    Paged client remote decoder s path (some (page.results :: pages)) u :=
  .more hexchange hstatus hbody hlink hrest

private theorem run_ask_of_page
    (hexchange : remote.exchange (client.request .get path none) s = (some ⟨status, body⟩, t))
    (hstatus : Http.isSuccess status = true)
    (hbody : Json.decodeText (Page.record decoder).decode body = .ok page)
    (context : String) :
    (ask remote (Page.record decoder).decode context (client.request .get path none)).run
      ⟨s, .live⟩ = (.ok page, ⟨t, .live⟩) := by
  rw [run_ask_of_reply _ hexchange, decode_of_success hstatus hbody]

private theorem run_fetchFrom_of_last (hask : (ask remote (Page.record decoder).decode
      "Failed to fetch page" (client.request .get path none)).run line = (.ok page, got))
    (hlink : page.next = none) (fuel : Nat) :
    (fetchFrom client remote decoder (fuel + 1) path).run line = (.ok page.results, got) := by
  rw [fetchFrom, run_bind_of_ok hask]
  simp only [hlink]
  rfl

private theorem run_fetchFrom_of_link (hask : (ask remote (Page.record decoder).decode
      "Failed to fetch page" (client.request .get path none)).run line = (.ok page, got))
    (hlink : page.next = some next) (fuel : Nat) :
    (fetchFrom client remote decoder (fuel + 1) path).run line =
      (fetchFrom client remote decoder fuel next >>= fun rest =>
        pure (page.results ++ rest)).run got := by
  rw [fetchFrom, run_bind_of_ok hask]
  simp only [hlink]

private theorem run_fetchFrom_of_error (hask : (ask remote (Page.record decoder).decode
      "Failed to fetch page" (client.request .get path none)).run line = (.error failure, got))
    (fuel : Nat) : ∃ failure got,
    (fetchFrom client remote decoder fuel path).run line = (.error failure, got) := by
  cases fuel with
  | zero => exact ⟨_, _, rfl⟩
  | succ fuel => exact ⟨_, _, run_bind_of_error hask⟩

theorem Paged.run_fetchFrom (h : Paged client remote decoder s path outcome t)
    {pages : List (List α)} (hpages : outcome = some pages) {fuel : Nat}
    (hfuel : pages.length ≤ fuel) :
    (fetchFrom client remote decoder fuel path).run ⟨s, .live⟩ =
      (.ok pages.flatten, ⟨t, .live⟩) := by
  induction h generalizing pages fuel with
  | silent => cases hpages
  | refused => cases hpages
  | garbled => cases hpages
  | last hexchange hstatus hbody hlink =>
    cases hpages
    obtain ⟨fuel, rfl⟩ : ∃ n, fuel = n + 1 := Nat.exists_eq_add_of_le' hfuel
    have hask := run_ask_of_page hexchange hstatus hbody "Failed to fetch page"
    rw [run_fetchFrom_of_last hask hlink, List.flatten_singleton]
  | more hexchange hstatus hbody hlink _ ih =>
    obtain ⟨rest, rfl, rfl⟩ := Option.map_eq_some_iff.mp hpages
    obtain ⟨fuel, rfl⟩ : ∃ n, fuel = n + 1 :=
      Nat.exists_eq_add_of_le' (Nat.le_trans (Nat.succ_pos _) hfuel)
    have hask := run_ask_of_page hexchange hstatus hbody "Failed to fetch page"
    have hbehind := ih rfl (Nat.le_of_succ_le_succ hfuel)
    rw [run_fetchFrom_of_link hask hlink, run_bind_of_ok hbehind]
    rfl

/-- Pages past the bound are told apart from all that the remote can answer. -/
theorem Paged.run_fetchFrom_of_short (h : Paged client remote decoder s path outcome t)
    {pages : List (List α)} (hpages : outcome = some pages) {fuel : Nat}
    (hfuel : fuel < pages.length) : ∃ got,
    (fetchFrom client remote decoder fuel path).run ⟨s, .live⟩ = (.error .endless, got) := by
  induction h generalizing pages fuel with
  | silent => cases hpages
  | refused => cases hpages
  | garbled => cases hpages
  | last =>
    cases hpages
    obtain rfl : fuel = 0 := Nat.lt_one_iff.mp hfuel
    exact ⟨_, rfl⟩
  | more hexchange hstatus hbody hlink _ ih =>
    obtain ⟨rest, rfl, rfl⟩ := Option.map_eq_some_iff.mp hpages
    cases fuel with
    | zero => exact ⟨_, rfl⟩
    | succ fuel =>
      obtain ⟨got, hbehind⟩ := ih rfl (Nat.lt_of_succ_lt_succ hfuel)
      have hask := run_ask_of_page hexchange hstatus hbody "Failed to fetch page"
      rw [run_fetchFrom_of_link hask hlink]
      exact ⟨got, run_bind_of_error hbehind⟩

private theorem Paged.run_fetchFrom_of_none (h : Paged client remote decoder s path outcome t)
    (hnone : outcome = none) (fuel : Nat) : ∃ failure got,
    (fetchFrom client remote decoder fuel path).run ⟨s, .live⟩ = (.error failure, got) := by
  induction h generalizing fuel with
  | last => cases hnone
  | silent hexchange =>
    exact run_fetchFrom_of_error (run_bind_of_error (run_send_of_silent hexchange)) fuel
  | refused hexchange hstatus =>
    have hask := run_ask_of_reply (Page.record decoder).decode hexchange "Failed to fetch page"
    rw [decode_of_refused hstatus] at hask
    exact run_fetchFrom_of_error hask fuel
  | garbled hexchange hstatus hbody =>
    have hask := run_ask_of_reply (Page.record decoder).decode hexchange "Failed to fetch page"
    rw [decode_of_body hstatus hbody] at hask
    exact run_fetchFrom_of_error hask fuel
  | more hexchange hstatus hbody hlink _ ih =>
    cases fuel with
    | zero => exact ⟨_, _, rfl⟩
    | succ fuel =>
      have hask := run_ask_of_page hexchange hstatus hbody "Failed to fetch page"
      obtain ⟨failure, got, hbehind⟩ := ih (Option.map_eq_none_iff.mp hnone) fuel
      rw [run_fetchFrom_of_link hask hlink]
      exact ⟨failure, got, run_bind_of_error hbehind⟩

end Fetching

section Records

/-- The prefix of a record is none of the other address family. -/
def PrefixRecord.InFamily (r : PrefixRecord) : Prop :=
  ':' ∉ r.cidr.toList

instance (r : PrefixRecord) : Decidable r.InFamily :=
  inferInstanceAs (Decidable (_ ∉ _))

private def AllReadable (records : List PrefixRecord) : Prop :=
  ∀ r ∈ records, r.InFamily → ∃ p, Prefix.parse r.cidr = .ok p

def PrefixRecord.Holds (r : PrefixRecord) (pool : Pool) : Prop :=
  r.pool? = .ok (some pool)

/-- The pools are those of the records of the address family, one of each, in ascending order of
their ids. -/
structure Lists (records : List PrefixRecord) (pools : List Pool) : Prop where
  ascending : pools.Pairwise (·.id ≤ ·.id)
  each : ∃ held, List.Forall₂ PrefixRecord.Holds (records.filter (·.InFamily)) held ∧
    pools.Perm held

/-- All that a record can be read as. -/
inductive PrefixRecord.ReadAs (r : PrefixRecord) : Except Failure (Option Pool) → Prop
  | foreign (hforeign : ¬r.InFamily) : ReadAs r (.ok none)
  | held {p : Prefix} {pool : Pool} (hfamily : r.InFamily) (hparse : Prefix.parse r.cidr = .ok p)
      (hid : pool.id = r.id) : ReadAs r (.ok (some pool))
  | malformed {cause : Prefix.LiteralError} (hfamily : r.InFamily)
      (hparse : Prefix.parse r.cidr = .error cause) : ReadAs r (.error (.malformed r.id cause))

variable {r : PrefixRecord} {pool : Pool} {records : List PrefixRecord}

private theorem PrefixRecord.readAs_pool? (r : PrefixRecord) : r.ReadAs r.pool? := by
  unfold pool?
  split
  · next hcolon => exact .foreign (by simpa [InFamily] using hcolon)
  · next hcolon =>
    have hfamily : r.InFamily := by simpa [InFamily] using hcolon
    cases hparse : Prefix.parse r.cidr with
    | error cause => exact .malformed hfamily hparse
    | ok p => exact .held hfamily hparse rfl

private theorem PrefixRecord.Holds.id_eq (h : r.Holds pool) : pool.id = r.id := by
  have hread := r.readAs_pool?
  rw [h] at hread
  cases hread with
  | held _ _ hid => exact hid

theorem poolsOf_cons (r : PrefixRecord) (records : List PrefixRecord) :
    poolsOf (r :: records) = r.pool? >>= fun first => poolsOf records >>= fun rest =>
      pure (first.toList ++ rest) := by
  rw [poolsOf, List.mapM_cons, poolsOf]
  rcases r.pool? with failure | _ | pool
  · rfl
  · cases records.mapM PrefixRecord.pool? <;> rfl
  · cases records.mapM PrefixRecord.pool? <;> rfl

private theorem allReadable_cons : AllReadable (r :: records) ↔
    (r.InFamily → ∃ p, Prefix.parse r.cidr = .ok p) ∧ AllReadable records :=
  List.forall_mem_cons

private theorem poolsOf_of_readable (h : AllReadable records) : ∃ held,
    poolsOf records = .ok held ∧
      List.Forall₂ PrefixRecord.Holds (records.filter (·.InFamily)) held := by
  induction records with
  | nil => exact ⟨[], rfl, .nil⟩
  | cons r records ih =>
    obtain ⟨hfirst, hrest⟩ := allReadable_cons.mp h
    obtain ⟨held, hpools, hheld⟩ := ih hrest
    have hread := r.readAs_pool?
    rw [poolsOf_cons, hpools]
    generalize hpool : r.pool? = result at hread
    cases hread with
    | foreign hforeign =>
      refine ⟨held, rfl, ?_⟩
      rwa [List.filter_cons_of_neg (by simpa using hforeign)]
    | held hfamily =>
      refine ⟨_ :: held, rfl, ?_⟩
      rw [List.filter_cons_of_pos (by simpa using hfamily)]
      exact .cons hpool hheld
    | malformed hfamily hparse =>
      obtain ⟨p, hp⟩ := hfirst hfamily
      rw [hparse] at hp
      cases hp

private theorem poolsOf_of_unreadable (h : ¬AllReadable records) :
    ∃ id cause, poolsOf records = .error (.malformed id cause) := by
  induction records with
  | nil => exact absurd (fun r hr => nomatch hr) h
  | cons r records ih =>
    have hread := r.readAs_pool?
    rw [allReadable_cons, not_and] at h
    rw [poolsOf_cons]
    generalize r.pool? = result at hread
    cases hread with
    | foreign hforeign =>
      obtain ⟨id, cause, hpools⟩ := ih (h fun hfamily => absurd hfamily hforeign)
      rw [hpools]
      exact ⟨id, cause, rfl⟩
    | held _ hparse =>
      obtain ⟨id, cause, hpools⟩ := ih (h fun _ => ⟨_, hparse⟩)
      rw [hpools]
      exact ⟨id, cause, rfl⟩
    | malformed => exact ⟨r.id, _, rfl⟩

private theorem perm_of_holds {rs rs' : List PrefixRecord} {held held' : List Pool}
    (h : List.Forall₂ PrefixRecord.Holds rs held) (h' : List.Forall₂ PrefixRecord.Holds rs' held')
    (hperm : rs.Perm rs') : held.Perm held' := by
  have hunique : Relator.RightUnique PrefixRecord.Holds := by
    intro r pool pool' hpool hpool'
    exact Option.some.inj (Except.ok.inj (hpool.symm.trans hpool'))
  exact List.rel_perm_imp hunique h h' hperm

private theorem map_id_of_holds {rs : List PrefixRecord} {held : List Pool}
    (h : List.Forall₂ PrefixRecord.Holds rs held) :
    held.map Pool.id = rs.map PrefixRecord.id := by
  induction h with
  | nil => rfl
  | cons hpool _ ih => rw [List.map_cons, List.map_cons, hpool.id_eq, ih]

end Records

section Answers

variable {σ : Type} {client : Client} {remote : Remote σ} {s t : σ}
  {pages : List (List PrefixRecord)} {records records' : List PrefixRecord}
  {outcome : Option (List (List PrefixRecord))}

private def listing (records : List PrefixRecord) : Except Refusal (List Pool) :=
  ((poolsOf records).mapError Failure.refusal).map (sortByKey Pool.id)

private theorem listing_of_readable (h : AllReadable records) :
    ∃ pools, listing records = .ok pools ∧ Lists records pools := by
  obtain ⟨held, hpools, hheld⟩ := poolsOf_of_readable h
  refine ⟨sortByKey Pool.id held, ?_, sortByKey_ascending Pool.id held, held, hheld,
    sortByKey_perm Pool.id held⟩
  rw [listing, hpools]
  rfl

private theorem listing_of_unreadable (h : ¬AllReadable records) :
    ∃ message, listing records = .error (.storage message) := by
  obtain ⟨id, cause, hpools⟩ := poolsOf_of_unreadable h
  rw [listing, hpools]
  exact ⟨_, rfl⟩

private theorem listing_perm (hreadable : AllReadable records) (hperm : records.Perm records')
    (hnodup : (records.map PrefixRecord.id).Nodup) : listing records = listing records' := by
  have hreadable' : AllReadable records' :=
    fun r hr hfamily => hreadable r (hperm.mem_iff.mpr hr) hfamily
  obtain ⟨held, hpools, hheld⟩ := poolsOf_of_readable hreadable
  obtain ⟨held', hpools', hheld'⟩ := poolsOf_of_readable hreadable'
  have hsame : held.Perm held' := perm_of_holds hheld hheld' (hperm.filter _)
  have hids : (held.map Pool.id).Nodup := by
    rw [map_id_of_holds hheld]
    exact hnodup.sublist (List.filter_sublist.map _)
  rw [listing, listing, hpools, hpools']
  exact congrArg Except.ok (sortByKey_congr hsame hids)

private theorem list_of_pages
    (h : Paged client remote PrefixRecord.decoder s (listingPath []) (some pages) t)
    (hpages : pages.length ≤ remote.patience s) :
    (store client remote).list ⟨s, .live⟩ = (listing pages.flatten, ⟨t, .live⟩) := by
  have hfetch : (fetchPrefixes client remote []).run ⟨s, .live⟩ =
      (.ok pages.flatten, ⟨t, .live⟩) := h.run_fetchFrom rfl hpages
  change (listPools client remote).run ⟨s, .live⟩ = _
  rw [listPools, run_bind_of_ok (run_errand_of_ok hfetch), listing]
  cases poolsOf pages.flatten <;> rfl

private theorem list_of_failure
    (h : Paged client remote PrefixRecord.decoder s (listingPath []) none t) :
    ∃ refusal, ((store client remote).list ⟨s, .live⟩).1 = .error refusal := by
  obtain ⟨failure, got, hfetch⟩ := h.run_fetchFrom_of_none rfl (remote.patience s)
  have herrand : (errand (fetchPrefixes client remote [])).run ⟨s, .live⟩ =
      (.error failure.refusal, got) := by
    have hprefixes : (fetchPrefixes client remote []).run ⟨s, .live⟩ = (.error failure, got) :=
      hfetch
    rw [errand, run_adapt, hprefixes]
    rfl
  change ∃ refusal, ((listPools client remote).run ⟨s, .live⟩).1 = .error refusal
  rw [listPools, run_bind_of_error herrand]
  exact ⟨_, rfl⟩

/-- What comes of following the links decides the answer to a listing of pools under a token that
does not fire. Where a page fails, it is an error. Where all pages come, no more of them than the
remote may have, it lists the pools of all records on them if their prefixes can be read, and is a
storage error if not. From every remote that cuts the same records into pages in another way it is
the same, and where ids are distinct, from every one that gives them out in another order. -/
theorem list_of_paged
    (h : Paged client remote PrefixRecord.decoder s (listingPath []) outcome t) :
    let answer := ((store client remote).list ⟨s, .live⟩).1
    (outcome = none → ∃ refusal, answer = .error refusal) ∧
    ∀ pages, outcome = some pages → pages.length ≤ remote.patience s →
      (AllReadable pages.flatten → ∃ pools, answer = .ok pools ∧ Lists pages.flatten pools) ∧
      (¬AllReadable pages.flatten → ∃ message, answer = .error (.storage message)) ∧
      ∀ (τ : Type) (client' : Client) (remote' : Remote τ) (s' t' : τ)
        (pages' : List (List PrefixRecord)),
        Paged client' remote' PrefixRecord.decoder s' (listingPath []) (some pages') t' →
        pages'.length ≤ remote'.patience s' →
        pages'.flatten = pages.flatten ∨
          pages.flatten.Perm pages'.flatten ∧ (pages.flatten.map PrefixRecord.id).Nodup ∧
            AllReadable pages.flatten →
        ((store client' remote').list ⟨s', .live⟩).1 = answer := by
  intro answer
  constructor
  · intro hnone
    subst hnone
    exact list_of_failure h
  · intro pages hsome hpages
    subst hsome
    have hanswer : answer = listing pages.flatten := congrArg Prod.fst (list_of_pages h hpages)
    rw [hanswer]
    refine ⟨listing_of_readable, listing_of_unreadable, ?_⟩
    intro τ client' remote' s' t' pages' h' hpages' hsame
    rw [list_of_pages h' hpages']
    rcases hsame with hflatten | ⟨hperm, hnodup, hreadable⟩
    · rw [hflatten]
    · exact (listing_perm hreadable hperm hnodup).symm

/-- Three pages with nothing on the second, and the same listing without it. -/
theorem list_of_paged_gap :
    let row (id cidr : String) := "\x7b\"id\":" ++ id ++ ",\"prefix\":\"" ++ cidr ++
      "\",\"status\":\"active\"\x7d"
    let page (next rows : String) := "\x7b\"count\":3,\"next\":" ++ next ++
      ",\"results\":[" ++ rows ++ "]\x7d"
    let client := Client.of "http://netbox" "key"
    let replies : List Reply := [⟨200, page "\"/?page=2\"" (row "7" "10.0.0.0/8")⟩,
      ⟨206, page "\"/?page=3\"" ""⟩,
      ⟨200, page "null" (row "9" "fd00::/8" ++ "," ++ row "3" "10.1.0.0/16")⟩]
    let remote (replies : List Reply) : Remote Nat :=
      ⟨fun _ i => (replies[i]?, i + 1), fun _ => replies.length⟩
    ∃ first last : List PrefixRecord,
      Paged client (remote replies) PrefixRecord.decoder 0 (listingPath [])
        (some [first, [], last]) 3 ∧
      AllReadable [first, [], last].flatten ∧ ∃ pools,
        ((store client (remote replies)).list ⟨0, .live⟩).1 = .ok pools ∧
        Lists [first, [], last].flatten pools ∧
        ((store client (remote (replies.eraseIdx 1))).list ⟨0, .live⟩).1 = .ok pools := by
  intro row page client replies remote
  let read (next rows : String) :=
    Json.decodeText (Page.record PrefixRecord.decoder).decode (page next rows)
  let seen (p : Page PrefixRecord) := (p.next, p.results.map PrefixRecord.cidr)
  have hfirst : (read "\"/?page=2\"" (row "7" "10.0.0.0/8")).map seen =
      .ok (some "/?page=2", ["10.0.0.0/8"]) := by decide +kernel
  have hempty : (read "\"/?page=3\"" "").map seen = .ok (some "/?page=3", []) := by
    decide +kernel
  have hlast : (read "null" (row "9" "fd00::/8" ++ "," ++ row "3" "10.1.0.0/16")).map seen =
      .ok (none, ["fd00::/8", "10.1.0.0/16"]) := by decide +kernel
  obtain ⟨first, hreadFirst, hseenFirst⟩ := map_eq_ok.mp hfirst
  obtain ⟨empty, hreadEmpty, hseenEmpty⟩ := map_eq_ok.mp hempty
  obtain ⟨last, hreadLast, hseenLast⟩ := map_eq_ok.mp hlast
  obtain ⟨hlinkFirst, hcidrFirst⟩ := Prod.mk.inj hseenFirst
  obtain ⟨hlinkEmpty, hcidrEmpty⟩ := Prod.mk.inj hseenEmpty
  obtain ⟨hlinkLast, hcidrLast⟩ := Prod.mk.inj hseenLast
  have hnothing : empty.results = [] := List.map_eq_nil_iff.mp hcidrEmpty
  -- from here on only what the texts are read as counts
  clear_value page
  have hpaged : Paged client (remote replies) PrefixRecord.decoder 0 (listingPath [])
      (some [first.results, [], last.results]) 3 := by
    rw [← hnothing]
    exact .linked rfl rfl hreadFirst hlinkFirst (.linked rfl rfl hreadEmpty hlinkEmpty
      (.last rfl rfl hreadLast hlinkLast))
  have hpaged' : Paged client (remote (replies.eraseIdx 1)) PrefixRecord.decoder 0 (listingPath [])
      (some [first.results, last.results]) 2 :=
    .linked rfl rfl hreadFirst hlinkFirst (.last rfl rfl hreadLast hlinkLast)
  have hcidrs : [first.results, [], last.results].flatten.map PrefixRecord.cidr =
      ["10.0.0.0/8", "fd00::/8", "10.1.0.0/16"] := by
    simp [hcidrFirst, hcidrLast]
  have hreadable : AllReadable [first.results, [], last.results].flatten := by
    intro r hr hfamily
    have hcidr : r.cidr ∈ ["10.0.0.0/8", "fd00::/8", "10.1.0.0/16"] :=
      hcidrs ▸ List.mem_map_of_mem hr
    simp only [List.mem_cons, List.not_mem_nil, or_false] at hcidr
    rcases hcidr with hcidr | hcidr | hcidr
    · exact ⟨.ofAddress 0x0A000000 8 (by decide), by rw [hcidr]; decide +kernel⟩
    · exact absurd hfamily (by rw [PrefixRecord.InFamily, hcidr]; decide)
    · exact ⟨.ofAddress 0x0A010000 16 (by decide), by rw [hcidr]; decide +kernel⟩
  obtain ⟨hlists, -, hsame⟩ := (list_of_paged hpaged).2 _ rfl (Nat.le_refl 3)
  obtain ⟨pools, hpools, heach⟩ := hlists hreadable
  have hother := hsame Nat client _ 0 2 _ hpaged' (Nat.le_refl 2) (.inl rfl)
  exact ⟨first.results, last.results, hpaged, hreadable, pools, hpools, heach,
    hother.trans hpools⟩

end Answers
end AddressPlan.NetBox
