import AddressPlan.Proofs.Json.Decoding
import AddressPlan.Proofs.Json.RoundTrip
import AddressPlan.Proofs.NetBox.Paging
import AddressPlan.Proofs.NetBox.Server
/-!
# Listings, page by page

Following the links from the first page of a listing gives all rows of the listing, however it is
cut into pages. The rows on all pages are the rows that the query keeps, in some order.
-/
namespace AddressPlan.NetBox
open Json (Value Decoder Node)

section Queries

variable {query : List (String × String)} {rows : List Row}

private theorem lookup_filter {k : String} (h : k ≠ "page") :
    (query.filter (·.1 ≠ "page")).lookup k = query.lookup k := by
  induction query with
  | nil => rfl
  | cons pair query ih =>
    obtain ⟨name, value⟩ := pair
    by_cases hname : name = "page"
    · have hne : (k == name) = false := by simp [hname, h]
      simp only [List.filter_cons, hname, ne_eq, not_true_eq_false, decide_false,
        Bool.false_eq_true, if_false, ih]
      rw [List.lookup_cons, ← hname, hne]
    · simp only [List.filter_cons, ne_eq, hname, not_false_eq_true, decide_true, if_true,
        List.lookup_cons, ih]

private theorem pageNumber_onPage (query : List (String × String)) (n : Nat) :
    Setup.pageNumber (Setup.onPage query n) = n := by
  have hnone : (query.filter (·.1 ≠ "page")).lookup "page" = none := by
    rw [List.lookup_eq_none_iff]
    intro pair hpair
    have hne : pair.1 ≠ "page" := of_decide_eq_true (List.mem_filter.mp hpair).2
    exact bne_iff_ne.mpr hne.symm
  have hlookup : (Setup.onPage query n).lookup "page" = some n.repr := by
    rw [Setup.onPage, List.lookup_append, hnone]
    rfl
  have hdigits : n.repr.toList = Nat.toDigits 10 n := by simp [Nat.repr_eq_ofList_toDigits]
  simp only [Setup.pageNumber, hlookup, hdigits, Nat.ofDigitChars_ten_toDigits]

private theorem kept_onPage (query : List (String × String)) (n : Nat) (rows : List Row) :
    Setup.kept (Setup.onPage query n) rows = Setup.kept query rows := by
  have hlookup : (Setup.onPage query n).lookup "cf_ipam_pool_name__ie" =
      query.lookup "cf_ipam_pool_name__ie" := by
    rw [Setup.onPage, List.lookup_append, lookup_filter (by decide)]
    simp
  rw [Setup.kept, hlookup, Setup.kept]

private theorem kept_sublist (query : List (String × String)) (rows : List Row) :
    (Setup.kept query rows).Sublist rows := by
  unfold Setup.kept
  cases query.lookup "cf_ipam_pool_name__ie" with
  | none => exact List.Sublist.refl rows
  | some name => exact List.filter_sublist

end Queries

section Pages

variable {setup : Setup} {key : String} {s : Server} {query : List (String × String)}
  {f : Row → PrefixRecord}

/-- What is known of the rows: how each of them is read, and that its text can be. -/
structure Legible (rows : List Row) (f : Row → PrefixRecord) : Prop where
  decode : ∀ row ∈ rows, PrefixRecord.decoder (Node.ofValue row.value) = .ok (f row)
  fits : ∀ row ∈ rows, ∀ room, row.value.Fits (room + 3)

private theorem shown_subset : setup.shown query s.rows ⊆ s.rows := by
  intro row hrow
  unfold Setup.shown at hrow
  cases hpage : (setup.pages query s.rows)[Setup.pageNumber query]? with
  | none =>
    rw [hpage] at hrow
    cases hrow
  | some page =>
    rw [hpage] at hrow
    have hflatten : row ∈ (setup.pages query s.rows).flatten :=
      List.mem_flatten.mpr ⟨page, List.mem_of_getElem? hpage, hrow⟩
    have hkept := (setup.perm_cut _).mem_iff.mp hflatten
    exact (kept_sublist query s.rows).subset hkept

private theorem fits_page (setup : Setup) (query : List (String × String)) (h : Legible s.rows f) :
    (setup.page query s.rows).Fits Json.maxDepth := by
  have hoption : ∀ (text : Option String) (room : Nat), (Value.option .string text).Fits room := by
    intro text room
    cases text <;> trivial
  have hresults : (Value.list Row.value (setup.shown query s.rows)).Fits 126 := by
    refine Json.fits_array fun v hv => ?_
    obtain ⟨row, hrow, rfl⟩ := List.mem_map.mp hv
    exact h.fits row (shown_subset hrow) 122
  refine Json.fits_object ?_
  simp only [List.forall_mem_cons]
  exact ⟨trivial, hoption _ _, hoption _ _, hresults, fun _ hfield => nomatch hfield⟩

private theorem Page.reads {α : Type} {decode : Decoder α} {look : String → Option Node}
    {page : Page α}
    (hcount : (Json.Record.required "count" Decoder.uint64).Reads look page.count)
    (hnext : (Json.Record.optional "next" Decoder.string).Reads look page.next)
    (hprevious : (Json.Record.optional "previous" Decoder.string).Reads look page.previous)
    (hresults : (Json.Record.required "results" (Decoder.list decode)).Reads look page.results) :
    (Page.record decode).Reads look page :=
  ((hcount.map.seq hnext).seq hprevious).seq hresults

private theorem decode_page (setup : Setup) (query : List (String × String))
    (h : Legible s.rows f) :
    (Page.record PrefixRecord.decoder).decode (Node.ofValue (setup.page query s.rows)) =
      .ok ⟨.ofNat (Setup.kept query s.rows).length, setup.nextLink query s.rows,
        setup.previousLink query, (setup.shown query s.rows).map f⟩ := by
  have hrows : ∀ row ∈ setup.shown query s.rows,
      PrefixRecord.decoder (Node.ofValue row.value) = .ok (f row) :=
    fun row hrow => h.decode row (shown_subset hrow)
  refine Json.Record.Reads.decode_ofValue (Page.reads ?_ ?_ ?_ ?_) (by simp)
  · exact Json.Record.reads_found rfl rfl
  · exact Json.Record.reads_found rfl (Decoder.option_string _)
  · exact Json.Record.reads_found rfl (Decoder.option_string _)
  · exact Json.Record.reads_found rfl (Decoder.list_ofValue hrows)

private theorem decodeText_page (setup : Setup) (query : List (String × String))
    (h : Legible s.rows f) :
    Json.decodeText (Page.record PrefixRecord.decoder).decode (setup.page query s.rows).text =
      .ok ⟨.ofNat (Setup.kept query s.rows).length, setup.nextLink query s.rows,
        setup.previousLink query, (setup.shown query s.rows).map f⟩ :=
  (Json.decodeText_text _ (fits_page setup query h)).trans (decode_page setup query h)

private theorem flatten_eq_head (pages : List (List Row)) :
    pages.flatten = pages[0]?.getD [] ++ (pages.drop 1).flatten := by
  cases pages <;> rfl

/-- From any page on, following the links gives that page and those behind it. -/
private theorem paged_listing {path : String}
    (hurl : (setup.client key).url path = setup.listingUrl query)
    (h : Legible s.rows f) : Paged (setup.client key) setup.remote PrefixRecord.decoder s path
      (some ((setup.shown query s.rows).map f ::
        ((setup.pages query s.rows).drop (Setup.pageNumber query + 1)).map (List.map f))) s := by
  have hexchange := exchange_listing (s := s) setup key hurl
  have hbody := decodeText_page setup query h
  induction hleft : (setup.pages query s.rows).length - (Setup.pageNumber query + 1)
    generalizing path query with
  | zero =>
    have hlink : setup.nextLink query s.rows = none := if_neg (by omega)
    rw [List.drop_of_length_le (by omega), List.map_nil]
    exact .last hexchange rfl hbody hlink
  | succ left ih =>
    have hnext : Setup.pageNumber query + 1 < (setup.pages query s.rows).length := by omega
    -- the link leads to the next page of the same listing
    let query' := Setup.onPage query (Setup.pageNumber query + 1)
    have hlink : setup.nextLink query s.rows = some (setup.listingUrl query') := if_pos hnext
    have hpages : setup.pages query' s.rows = setup.pages query s.rows := by
      rw [Setup.pages, kept_onPage, Setup.pages]
    have hnumber : Setup.pageNumber query' = Setup.pageNumber query + 1 := pageNumber_onPage query _
    have hurl' := url_listingUrl setup key query'
    have hrest := ih hurl' (exchange_listing setup key hurl') (decodeText_page setup query' h)
      (by rw [hpages, hnumber]; omega)
    rw [Setup.shown, hpages, hnumber, List.getElem?_eq_getElem hnext, Option.getD_some] at hrest
    rw [List.drop_eq_getElem_cons hnext, List.map_cons]
    exact .linked hexchange rfl hbody hlink hrest

theorem run_fetchPrefixes {filters : List (String × String)}
    (hfilters : filters.lookup "page" = none)
    (hquery : query = [("family", "4"), ("limit", "1000")] ++ filters) (h : Legible s.rows f) :
    (fetchPrefixes (setup.client key) setup.remote filters).run ⟨s, .live⟩ =
      (.ok ((setup.pages query s.rows).flatten.map f), ⟨s, .live⟩) := by
  have hnumber : Setup.pageNumber query = 0 := by
    have hlookup : query.lookup "page" = none := by
      rw [hquery, List.lookup_append, hfilters]
      rfl
    rw [Setup.pageNumber, hlookup]
  have hurl : (setup.client key).url (listingPath filters) = setup.listingUrl query := by
    rw [hquery]
    exact url_listingPath setup key filters
  have hmost : (setup.pages query s.rows).length ≤ setup.most s.rows :=
    setup.length_cut_le (kept_sublist query s.rows)
  have hpaged := paged_listing hurl h
  have hlength : ((setup.shown query s.rows).map f ::
      ((setup.pages query s.rows).drop (Setup.pageNumber query + 1)).map (List.map f)).length ≤
        setup.remote.patience s := by
    simp only [List.length_cons, List.length_map, List.length_drop]
    change _ ≤ setup.most s.rows + 1
    omega
  have hall : (setup.pages query s.rows).flatten = setup.shown query s.rows ++
      ((setup.pages query s.rows).drop (Setup.pageNumber query + 1)).flatten := by
    rw [Setup.shown, hnumber]
    exact flatten_eq_head _
  have hfetch := hpaged.run_fetchFrom rfl hlength
  rw [List.flatten_cons, ← List.map_flatten, ← List.map_append, ← hall] at hfetch
  exact hfetch

end Pages

end AddressPlan.NetBox
