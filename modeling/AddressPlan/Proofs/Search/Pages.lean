import AddressPlan.Proofs.Pieces
import AddressPlan.Proofs.Search.Meaning
/-!
# Paging through a search

Whatever numbers a search asks for, its pages have a size within the limits and count from one. The
pages of a search that differ in their number only share one list of matches: each match is on
exactly one of them, and behind the last page there are empty ones, however far one goes.
-/
namespace AddressPlan.Search

variable {limits : Limits} {params : Params} {q : Query} {page pageSize : Option Int64}

private def Params.paged (params : Params) (page pageSize : Option Int64) : Params :=
  { params with page := page, pageSize := pageSize }

def Params.answer (limits : Limits) (pools : List Pool) (accounts : List Account)
    (params : Params) : Except Invalid Response :=
  (params.query limits).map (respond pools accounts)

/-- The numbers of a query are usable: nothing is lost where one is taken off its page. -/
structure Query.Bounded (limits : Limits) (q : Query) : Prop where
  one_le_pageSize : 1 ≤ q.pageSize.toNat
  pageSize_le : q.pageSize ≤ limits.maxPageSize
  one_le_page : 1 ≤ q.page.toNat
  toNat_before : (q.page - 1).toNat + 1 = q.page.toNat

private theorem Params.query_paged (h : params.query limits = .ok q)
    (page pageSize : Option Int64) :
    (params.paged page pageSize).query limits = .ok { q with
      page := (positive? page).getD 1
      pageSize := min ((positive? pageSize).getD limits.defaultPageSize) limits.maxPageSize } := by
  obtain ⟨cidrContains, hcontains, h⟩ := bind_eq_ok.mp h
  obtain ⟨cidrWithin, hwithin, h⟩ := bind_eq_ok.mp h
  obtain ⟨entity, hentity, h⟩ := bind_eq_ok.mp h
  apply bind_eq_ok.mpr
  refine ⟨cidrContains, hcontains, bind_eq_ok.mpr ⟨cidrWithin, hwithin, bind_eq_ok.mpr
    ⟨entity, hentity, ?_⟩⟩⟩
  split at h
  · cases h
  · next hcriterion =>
    cases h
    exact if_neg hcriterion

private theorem Params.query_eq (h : params.query limits = .ok q) : q = { q with
    page := (positive? params.page).getD 1
    pageSize := min ((positive? params.pageSize).getD limits.defaultPageSize)
      limits.maxPageSize } := by
  have hsame := query_paged h params.page params.pageSize
  exact Except.ok.inj (h.symm.trans hsame)

private theorem one_le_of_check (h : limits.check = .ok ()) :
    1 ≤ limits.defaultPageSize.toNat ∧ 1 ≤ limits.maxPageSize.toNat := by
  unfold Limits.check at h
  split_ifs at h with _ _ _ hzero
  obtain ⟨hdefault, hmax⟩ := not_or.mp hzero
  constructor
  · exact Nat.one_le_iff_ne_zero.mpr fun heq => hdefault (UInt64.toNat_inj.mp heq)
  · exact Nat.one_le_iff_ne_zero.mpr fun heq => hmax (UInt64.toNat_inj.mp heq)

private theorem Params.bounded_of_query (hlimits : limits.check = .ok ())
    (h : params.query limits = .ok q) : q.Bounded limits := by
  obtain ⟨hdefault, hmax⟩ := one_le_of_check hlimits
  have hsize : q.pageSize =
      min ((positive? params.pageSize).getD limits.defaultPageSize) limits.maxPageSize :=
    congrArg Query.pageSize (query_eq h)
  have hwanted : 1 ≤ ((positive? params.pageSize).getD limits.defaultPageSize).toNat := by
    cases hgiven : positive? params.pageSize with
    | none => exact hdefault
    | some word => exact (toNat_of_positive? hgiven).1
  have hpage := (readAs_of_query h).one_le_page
  constructor
  · rw [hsize, toNat_min]
    exact le_min hwanted hmax
  · rw [hsize]
    exact Std.min_le_right
  · exact hpage
  · rw [UInt64.toNat_sub_of_le q.page 1 (UInt64.le_iff_toNat_le.mpr hpage)]
    exact Nat.sub_add_cancel hpage

private theorem toInt_page {n : Int64} (h : 1 ≤ n.toInt) :
    (((positive? (some n)).getD 1).toNat : Int) = n.toInt := by
  have hgiven : positive? (some n) = some (UInt64.ofNat n.toInt.toNat) := by
    simp [positive?, Option.filter_some, h]
  rw [hgiven]
  exact (toNat_of_positive? hgiven).2 n rfl

section Answers

variable (pools : List Pool) (accounts : List Account)

private theorem Params.length_foundAmong (params : Params) :
    (params.foundAmong pools accounts).length =
      (pools.filter fun pool => params.FindsPool pool).length +
        (accounts.filter fun account => params.FindsAccount account).length := by
  rw [Params.foundAmong, List.length_append, List.length_map, List.length_map,
    (sortByKey_perm _ _).length_eq, (sortByKey_perm _ _).length_eq]

private theorem items_respond (hpage : 1 ≤ q.page.toNat)
    (hfits : (matchingItems pools accounts q).length < UInt64.size) :
    (respond pools accounts q).items =
      ((matchingItems pools accounts q).drop ((q.page.toNat - 1) * q.pageSize.toNat)).take
        q.pageSize.toNat := by
  rw [respond, drop_skipped hpage hfits]

def Query.onPage (q : Query) (page : Option Int64) : Query :=
  { q with page := (positive? page).getD 1 }

private theorem Params.query_onPage (h : params.query limits = .ok q) (page : Option Int64) :
    (params.paged page params.pageSize).query limits = .ok (q.onPage page) := by
  have hsize : q.pageSize = min ((positive? params.pageSize).getD limits.defaultPageSize)
      limits.maxPageSize := congrArg Query.pageSize (query_eq h)
  rw [query_paged h, ← hsize, Query.onPage]

private theorem items_onPage {n : Int64} (hn : 1 ≤ n.toInt)
    (hfits : (matchingItems pools accounts q).length < UInt64.size) :
    (respond pools accounts (q.onPage (some n))).items =
      ((matchingItems pools accounts q).drop ((n.toInt.toNat - 1) * q.pageSize.toNat)).take
        q.pageSize.toNat := by
  have hpage : (q.onPage (some n)).page.toNat = n.toInt.toNat := by
    have hword := toInt_page hn
    change ((positive? (some n)).getD 1).toNat = n.toInt.toNat
    omega
  have hslice := items_respond pools accounts (q := q.onPage (some n)) (by omega) hfits
  rw [hslice, hpage]
  rfl

end Answers

/-- Paging goes through all matches once. The numbers of every search come to a page of one or more
and to a page size within the limits. For searches that differ in their page only, the matches are
counted alike on each page, the pages up to the last one put together are the list of all matches,
and those behind it are empty. Lists that a machine holds are shorter than the largest page. -/
theorem pages_show_all (hlimits : limits.check = .ok ()) (hquery : params.query limits = .ok q)
    (pools : List Pool) (accounts : List Account)
    (hfits : (params.foundAmong pools accounts).length < 2 ^ 63) :
    let all := params.foundAmong pools accounts
    let last := all.length ⌈/⌉ q.pageSize.toNat
    (∀ page pageSize, ∃ q', (params.paged page pageSize).query limits = .ok q' ∧
      q'.Bounded limits) ∧
    ∃ answer : Option Int64 → Response,
      (∀ page, (params.paged page params.pageSize).answer limits pools accounts =
          .ok (answer page) ∧
        (answer page).total = all.length ∧ (answer page).pageSize = q.pageSize) ∧
      ((List.range last).flatMap fun i => (answer (some (.ofNat (i + 1)))).items) = all ∧
      ∀ n : Int64, (last : Int) < n.toInt → (answer (some n)).items = [] := by
  intro all last
  have hall : matchingItems pools accounts q = all :=
    (Params.readAs_of_query hquery).matchingItems_eq_foundAmong pools accounts
  have hbounded := Params.bounded_of_query hlimits hquery
  have hsize : 0 < q.pageSize.toNat := hbounded.one_le_pageSize
  have hword : (matchingItems pools accounts q).length < UInt64.size := by
    rw [hall]
    exact Nat.lt_trans hfits (by decide)
  have hlast : last ≤ all.length := by
    apply (ceilDiv_le_iff_le_mul hsize).mpr
    exact Nat.le_mul_of_pos_left _ hsize
  have hitems : ∀ n : Int64, 1 ≤ n.toInt →
      (respond pools accounts (q.onPage (some n))).items =
        (all.drop ((n.toInt.toNat - 1) * q.pageSize.toNat)).take q.pageSize.toNat := by
    intro n hn
    rw [items_onPage pools accounts hn hword, hall]
  constructor
  · intro page pageSize
    have hpaged := Params.query_paged hquery page pageSize
    exact ⟨_, hpaged, Params.bounded_of_query hlimits hpaged⟩
  refine ⟨fun page => respond pools accounts (q.onPage page), fun page => ⟨?_, ?_, rfl⟩, ?_, ?_⟩
  · rw [Params.answer, Params.query_onPage hquery]
    rfl
  · rw [← hall]
    rfl
  · refine Eq.trans (List.flatMap_congr fun i hi => ?_) (flatMap_allPieces all hsize)
    have hlt : i < last := List.mem_range.mp hi
    have hnumber : i + 1 < 2 ^ 63 := Nat.lt_of_le_of_lt (Nat.le_trans hlt hlast) hfits
    have hn : (Int64.ofNat (i + 1)).toInt = (i + 1 : Nat) := Int64.toInt_ofNat_of_lt hnumber
    rw [hitems _ (by omega), hn]
    rfl
  · intro n hn
    have hbehind : all.length ≤ (n.toInt.toNat - 1) * q.pageSize.toNat :=
      length_le_of_ceilDiv_le hsize (by omega)
    rw [hitems n (by omega), List.drop_of_length_le hbehind, List.take_nil]

/-- Three matches of a text on two pages of two, the pools listed out of order. -/
theorem pages_show_all_halves :
    let outer : Pool := ⟨5, "Lab outer", .ofAddress 0x0A000000 8 (by decide), .vpc, .active, none,
      .manual, "", .empty, .epoch, .epoch⟩
    let inner : Pool := ⟨3, "inner lab", .ofAddress 0x0A000000 16 (by decide), .subnet, .active,
      some 5, .manual, "", .empty, .epoch, .epoch⟩
    let account : Account := ⟨2, "lab-7", "lab", "aws", none, ""⟩
    let params : Params := ⟨some " LAB", none, none, none, some 9, some 2⟩
    let all := params.foundAmong [outer, inner] [account]
    Limits.standard.check = .ok () ∧ all.length < 2 ^ 63 ∧ all.length = 3 ∧
    ∃ q, params.query .standard = .ok q ∧ q.pageSize = 2 ∧
    let last := all.length ⌈/⌉ q.pageSize.toNat
    (∀ page pageSize, ∃ q', (params.paged page pageSize).query .standard = .ok q' ∧
      q'.Bounded .standard) ∧
    ∃ answer : Option Int64 → Response,
      (∀ page, (params.paged page params.pageSize).answer .standard [outer, inner] [account] =
          .ok (answer page) ∧
        (answer page).total = all.length ∧ (answer page).pageSize = q.pageSize) ∧
      ((List.range last).flatMap fun i => (answer (some (.ofNat (i + 1)))).items) = all ∧
      ∀ n : Int64, (last : Int) < n.toInt → (answer (some n)).items = [] := by
  intro outer inner account params all
  have hlimits : Limits.standard.check = .ok () := by decide +kernel
  have hquery : params.query .standard = .ok ⟨some "lab", none, none, none, 9, 2⟩ := by
    decide +kernel
  have hthree : all.length = 3 := by
    rw [Params.length_foundAmong]
    decide +kernel
  have hfits : all.length < 2 ^ 63 := by
    rw [hthree]
    decide
  exact ⟨hlimits, hfits, hthree, _, hquery, rfl,
    pages_show_all hlimits hquery [outer, inner] [account] hfits⟩

end AddressPlan.Search
