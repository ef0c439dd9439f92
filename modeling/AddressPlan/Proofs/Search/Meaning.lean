import AddressPlan.Engine.Searches
import AddressPlan.Proofs.Engine.ExactGate
import AddressPlan.Proofs.Results
import AddressPlan.Proofs.Search.Matches
import AddressPlan.Proofs.Text.Trim
/-!
# What a search means

A search is said here of its parameters alone: which pools and which accounts it finds, and which
slice of them is its page. What a search answers is that slice, whatever it lists and however it
looks for its matches.
-/
namespace AddressPlan
namespace Search

/-- A text that is given holds, without the blanks around it; one that is absent or blank asks for
nothing. -/
def Given (text : Option String) (holds : String → Prop) : Prop :=
  ∀ t, text = some t → Text.trim t ≠ "" → holds (Text.trim t)

def Mentions (text field : String) : Prop :=
  (Text.lowercase text).toList <:+: (Text.lowercase field).toList

def Denotes (text : String) (holds : Prefix → Prop) : Prop :=
  ∃ p, Prefix.parse text = .ok p ∧ holds p

namespace Params

structure FindsPool (params : Params) (pool : Pool) : Prop where
  entity : Given params.entity fun t => plainLabel t = "pool"
  text : Given params.text fun t => Mentions t pool.name ∨ Mentions t pool.cidr.text
  contains : Given params.cidrContains fun t => Denotes t fun needle => pool.cidr.contains needle
  within : Given params.cidrWithin fun t => Denotes t fun range => range.contains pool.cidr

/-- All that is asked for holds of an account. None is found by what it would lie in. -/
structure FindsAccount (params : Params) (account : Account) : Prop where
  entity : Given params.entity fun t => plainLabel t = "account"
  text : Given params.text fun t => Mentions t account.name ∨ Mentions t account.key
  contains : Given params.cidrContains fun t => Denotes t fun needle =>
    ∃ cidr ∈ account.cidr, cidr.contains needle
  within : Given params.cidrWithin fun _ => False

end Params

section Reading

variable {limits : Limits} {params : Params} {q : Query} {text : Option String}

theorem given_iff_nonBlank {holds : String → Prop} :
    Given text holds ↔ ∀ t ∈ text.bind Text.nonBlank?, holds t := by
  simp only [Given, Option.mem_def, Option.bind_eq_some_iff, Text.nonBlank?_eq_some_iff]
  constructor
  · rintro h _ ⟨t, ht, rfl, hne⟩
    exact h t ht hne
  · exact fun h t ht hne => h _ ⟨t, ht, rfl, hne⟩

instance {holds : String → Prop} [DecidablePred holds] : Decidable (Given text holds) :=
  decidable_of_iff _ given_iff_nonBlank.symm

instance (text field : String) : Decidable (Mentions text field) :=
  inferInstanceAs (Decidable (_ <:+: _))

instance (text : String) (holds : Prefix → Prop) [DecidablePred holds] :
    Decidable (Denotes text holds) :=
  match hparse : Prefix.parse text with
  | .ok p => decidable_of_iff (holds p) (by simp [Denotes, hparse])
  | .error _ => .isFalse (by simp [Denotes, hparse])

private theorem mentions_iff_occursIn {text field : String} : Mentions text field ↔
    Text.occursIn (Text.lowercase text).toList (Text.lowercase field).toList = true := by
  rw [Text.occursIn_iff]
  exact exists_congr fun before => exists_congr fun after => eq_comm

private theorem Entity.ofName?_eq_some_iff {s : String} {e : Entity} :
    ofName? s = some e ↔ s = e.name := by
  constructor
  · intro h
    unfold ofName? at h
    split_ifs at h with hpool haccount
    · obtain rfl := Option.some.inj h
      exact hpool
    · obtain rfl := Option.some.inj h
      exact haccount
  · rintro rfl
    exact ofName?_name e

private theorem Entity.read_eq_ok_iff {s : String} {e : Entity} :
    read s = .ok e ↔ plainLabel s = e.name := by
  rw [← ofName?_eq_some_iff, read]
  cases ofName? (plainLabel s) <;> simp

structure Params.ReadAs (params : Params) (q : Query) : Prop where
  text : q.text = (params.text.bind Text.nonBlank?).map Text.lowercase
  cidrContains : readFilter "cidr_contains" params.cidrContains = .ok q.cidrContains
  cidrWithin : readFilter "cidr_within" params.cidrWithin = .ok q.cidrWithin
  entity : readEntity params.entity = .ok q.entity
  page : q.page = (positive? params.page).getD 1

theorem Params.readAs_of_query (h : params.query limits = .ok q) : params.ReadAs q := by
  obtain ⟨cidrContains, hcontains, h⟩ := bind_eq_ok.mp h
  obtain ⟨cidrWithin, hwithin, h⟩ := bind_eq_ok.mp h
  obtain ⟨entity, hentity, h⟩ := bind_eq_ok.mp h
  split at h
  · cases h
  · cases h
    exact ⟨rfl, hcontains, hwithin, hentity, rfl⟩

private theorem all_iff_given {field : String} {bound : Option Prefix} {test : Prefix → Bool}
    (h : readFilter field text = .ok bound) :
    bound.all test = true ↔ Given text fun t => Denotes t fun p => test p := by
  rw [given_iff_nonBlank]
  unfold readFilter at h
  cases hgiven : text.bind Text.nonBlank? with
  | none =>
    rw [hgiven] at h
    cases h
    simp
  | some t =>
    simp only [hgiven] at h
    cases hparse : Prefix.parse t with
    | error cause =>
      rw [hparse] at h
      cases h
    | ok p =>
      rw [hparse] at h
      cases h
      simp [Denotes, hparse]

private theorem isNone_iff_given {field : String} {bound : Option Prefix}
    (h : readFilter field text = .ok bound) :
    bound.isNone = true ↔ Given text fun _ => False := by
  have hall : bound.isNone = bound.all fun _ => false := by cases bound <;> rfl
  rw [hall, all_iff_given h]
  simp [Given, Denotes]

private theorem wants_iff_given (e : Entity) (h : readEntity params.entity = .ok q.entity) :
    q.wants e = true ↔ Given params.entity fun t => plainLabel t = e.name := by
  rw [given_iff_nonBlank, Query.wants]
  unfold readEntity at h
  cases hgiven : params.entity.bind Text.nonBlank? with
  | none =>
    rw [hgiven] at h
    rw [← Except.ok.inj h]
    simp
  | some t =>
    simp only [hgiven] at h
    cases hread : Entity.read t with
    | error cause =>
      rw [hread] at h
      cases h
    | ok wanted =>
      rw [hread] at h
      rw [← Except.ok.inj h]
      simp only [Option.mem_def, Option.some.injEq, forall_eq', ← Entity.read_eq_ok_iff, hread,
        Except.ok.injEq, beq_iff_eq]

private theorem textMatches_iff_given (field other : String)
    (h : q.text = (params.text.bind Text.nonBlank?).map Text.lowercase) :
    q.textMatches [field, other] = true ↔
      Given params.text fun t => Mentions t field ∨ Mentions t other := by
  rw [given_iff_nonBlank, Query.textMatches, h]
  cases params.text.bind Text.nonBlank? with
  | none => simp
  | some t => simp [mentions_iff_occursIn]

private theorem Params.ReadAs.poolMatches_iff (h : params.ReadAs q) (pool : Pool) :
    q.poolMatches pool = true ↔ params.FindsPool pool := by
  simp only [Query.poolMatches, Query.cidrMatches, Bool.and_eq_true]
  rw [wants_iff_given .pool h.entity, all_iff_given h.cidrContains, all_iff_given h.cidrWithin,
    textMatches_iff_given _ _ h.text]
  constructor
  · rintro ⟨⟨hentity, hcontains, hwithin⟩, htext⟩
    exact ⟨hentity, htext, hcontains, hwithin⟩
  · rintro ⟨hentity, htext, hcontains, hwithin⟩
    exact ⟨⟨hentity, hcontains, hwithin⟩, htext⟩

private theorem accountMatches_eq (q : Query) (account : Account) : accountMatches q account =
    (q.cidrContains.all (fun needle => account.cidr.any (·.contains needle)) &&
      q.textMatches [account.name, account.key]) := by
  unfold accountMatches
  cases q.cidrContains <;> rfl

private theorem Params.ReadAs.accountMatches_iff (h : params.ReadAs q) (account : Account) :
    (q.wantsAccounts && accountMatches q account) = true ↔ params.FindsAccount account := by
  simp only [Query.wantsAccounts, accountMatches_eq, Bool.and_eq_true]
  rw [wants_iff_given .account h.entity, isNone_iff_given h.cidrWithin,
    all_iff_given h.cidrContains, textMatches_iff_given _ _ h.text]
  simp only [Option.any_eq_true]
  constructor
  · rintro ⟨⟨hentity, hwithin⟩, hcontains, htext⟩
    exact ⟨hentity, htext, hcontains, hwithin⟩
  · rintro ⟨hentity, htext, hcontains, hwithin⟩
    exact ⟨⟨hentity, hwithin⟩, hcontains, htext⟩

instance (params : Params) (pool : Pool) : Decidable (params.FindsPool pool) :=
  decidable_of_iff
    (Given params.entity (fun t => plainLabel t = "pool") ∧
      Given params.text (fun t => Mentions t pool.name ∨ Mentions t pool.cidr.text) ∧
      Given params.cidrContains (fun t => Denotes t fun needle => pool.cidr.contains needle) ∧
      Given params.cidrWithin (fun t => Denotes t fun range => range.contains pool.cidr))
    ⟨fun ⟨entity, text, contains, within⟩ => ⟨entity, text, contains, within⟩,
      fun ⟨entity, text, contains, within⟩ => ⟨entity, text, contains, within⟩⟩

instance (params : Params) (account : Account) : Decidable (params.FindsAccount account) :=
  decidable_of_iff
    (Given params.entity (fun t => plainLabel t = "account") ∧
      Given params.text (fun t => Mentions t account.name ∨ Mentions t account.key) ∧
      Given params.cidrContains (fun t => Denotes t fun needle =>
        ∃ cidr ∈ account.cidr, cidr.contains needle) ∧
      Given params.cidrWithin (fun _ => False))
    ⟨fun ⟨entity, text, contains, within⟩ => ⟨entity, text, contains, within⟩,
      fun ⟨entity, text, contains, within⟩ => ⟨entity, text, contains, within⟩⟩

/-- All that a search finds: pools in the order of their ids, then accounts in the order of
theirs. -/
def Params.found (params : Params) (m : Memory) : List Item :=
  (m.pools.rows.filter fun pool => params.FindsPool pool).map .pool ++
    (m.accounts.rows.filter fun account => params.FindsAccount account).map .account

def Params.foundAmong (params : Params) (pools : List Pool) (accounts : List Account) :
    List Item :=
  (sortByKey Pool.id (pools.filter fun pool => params.FindsPool pool)).map .pool ++
    (sortByKey Account.id (accounts.filter fun account => params.FindsAccount account)).map .account

theorem Params.ReadAs.matchingItems_eq_foundAmong (h : params.ReadAs q) (pools : List Pool)
    (accounts : List Account) :
    matchingItems pools accounts q = params.foundAmong pools accounts := by
  have hpools : pools.filter q.poolMatches =
      pools.filter fun pool => params.FindsPool pool :=
    List.filter_congr fun pool _ => Bool.eq_iff_iff.mpr (by simp [h.poolMatches_iff])
  have haccounts : (accounts.filter fun account =>
      q.wantsAccounts && accountMatches q account) =
        accounts.filter fun account => params.FindsAccount account :=
    List.filter_congr fun account _ => Bool.eq_iff_iff.mpr (by simp [h.accountMatches_iff])
  rw [matchingItems, matchingPools_eq_sort, matchingAccounts_eq_sort, hpools, haccounts,
    Params.foundAmong]

private theorem Params.ReadAs.matchingItems_eq (h : params.ReadAs q) (m : Memory) :
    matchingItems m.pools.rows m.accounts.rows q = params.found m := by
  rw [h.matchingItems_eq_foundAmong, Params.foundAmong,
    sortByKey_of_ascending (m.pools.ascending.filter _),
    sortByKey_of_ascending (m.accounts.ascending.filter _), Params.found]

end Reading

section Pages

variable {params : Params} {q : Query}

theorem toNat_of_positive? {n : Option Int64} {word : UInt64} (h : positive? n = some word) :
    1 ≤ word.toNat ∧ ∀ m, n = some m → (word.toNat : Int) = m.toInt := by
  obtain ⟨m, hm, rfl⟩ := Option.map_eq_some_iff.mp h
  obtain ⟨rfl, hpos⟩ := Option.filter_eq_some_iff.mp hm
  have hle : 1 ≤ m.toInt := by simpa using hpos
  have hlt : m.toInt < 2 ^ 63 := m.toInt_lt
  have hsize : m.toInt.toNat < UInt64.size := by
    change m.toInt.toNat < 18446744073709551616
    omega
  rw [UInt64.toNat_ofNat_of_lt' hsize]
  constructor
  · omega
  · intro m' hm'
    rw [← Option.some.inj hm']
    omega

theorem Params.ReadAs.one_le_page (h : params.ReadAs q) : 1 ≤ q.page.toNat := by
  rw [h.page]
  cases hpage : positive? params.page with
  | none => exact Nat.le_refl 1
  | some page => exact (toNat_of_positive? hpage).1

private theorem toNat_saturatingMul (a b : UInt64) :
    (saturatingMul a b).toNat = min (a.toNat * b.toNat) (UInt64.size - 1) := by
  unfold saturatingMul
  split
  · next hlt =>
    rw [UInt64.toNat_mul, Nat.mod_eq_of_lt hlt]
    omega
  · next hge =>
    change UInt64.size - 1 = _
    omega

theorem drop_skipped {items : List Item} (hpage : 1 ≤ q.page.toNat)
    (hfits : items.length < UInt64.size) :
    items.drop q.skipped.toNat = items.drop ((q.page.toNat - 1) * q.pageSize.toNat) := by
  have hbefore : (q.page - 1).toNat = q.page.toNat - 1 :=
    UInt64.toNat_sub_of_le q.page 1 (UInt64.le_iff_toNat_le.mpr hpage)
  rw [Query.skipped, toNat_saturatingMul, hbefore]
  rcases Nat.le_total ((q.page.toNat - 1) * q.pageSize.toNat) (UInt64.size - 1) with hle | hge
  · rw [Nat.min_eq_left hle]
  · -- nothing is left behind the largest number of items that a word counts
    rw [Nat.min_eq_right hge, List.drop_eq_nil_of_le (by omega),
      List.drop_eq_nil_of_le (by omega)]

private theorem slice_eq_extract {items : List Item} (hpage : 1 ≤ q.page.toNat)
    (hfits : items.length < UInt64.size) :
    (items.drop q.skipped.toNat).take q.pageSize.toNat =
      items.extract ((q.page.toNat - 1) * q.pageSize.toNat) (q.page.toNat * q.pageSize.toNat) := by
  have hsize : q.page.toNat * q.pageSize.toNat - (q.page.toNat - 1) * q.pageSize.toNat =
      q.pageSize.toNat := by
    rw [← Nat.sub_mul, Nat.sub_sub_self hpage, Nat.one_mul]
  rw [drop_skipped hpage hfits, List.extract_eq_take_drop, hsize]

end Pages

end Search

namespace Engine
open AddressPlan.Action (perform)
open Search (Params Query Response)

variable {limits : Limits} {params : Params} {q : Query} {s : Session}

private theorem search_eq_bind (limits : Limits) (params : Params) :
    search limits params = Action.valid (params.query limits) >>= fun q =>
      (if q.wants .pool then Action.list else pure []) >>= fun pools =>
        (if q.wantsAccounts then Action.accounts else pure []) >>= fun accounts =>
          pure (Search.respond pools accounts q) := by
  unfold search
  congr
  funext q
  cases q.wants .pool <;> cases q.wantsAccounts <;> rfl

private theorem search_eq_respond (hquery : params.query limits = .ok q) (hlive : s.token = .live)
    (hfaults : s.faults = .none) : perform Session.store (search limits params) s =
      (.ok (Search.respond s.memory.pools.rows s.memory.accounts.rows q), s) := by
  have htick := (Session.steady_of_live hlive).tick_eq
  have hadmits := Session.admits_of_live hlive hfaults
  have hpools : perform Session.store (if q.wants .pool then Action.list else pure []) s =
      (.ok (if q.wants .pool then s.memory.pools.rows else []), s) := by
    split
    · exact (Session.list_of_admits (by rwa [hfaults])).trans (by rw [htick])
    · rfl
  have haccounts : perform Session.store (if q.wantsAccounts then Action.accounts else pure []) s =
      (.ok (if q.wantsAccounts then s.memory.accounts.rows else []), s) := by
    split
    · exact (Session.accounts_of_admits (by rwa [hfaults])).trans (by rw [htick])
    · rfl
  rw [search_eq_bind, Action.perform_bind_of_ok (Action.perform_valid_of_ok hquery s),
    Action.perform_bind_of_ok hpools, Action.perform_bind_of_ok haccounts, Action.perform_pure]
  simp only [Search.respond, Search.matchingItems_of_listed]

/-- A search answers with the slice of its page out of all that it finds, and counts all of it. -/
theorem search_eq_slice (hquery : params.query limits = .ok q) (hlive : s.token = .live)
    (hfaults : s.faults = .none) (hfits : (params.found s.memory).length < UInt64.size) :
    perform Session.store (search limits params) s =
      (.ok {
        items := (params.found s.memory).extract ((q.page.toNat - 1) * q.pageSize.toNat)
          (q.page.toNat * q.pageSize.toNat)
        total := (params.found s.memory).length
        page := q.page
        pageSize := q.pageSize }, s) := by
  have hreads := Search.Params.readAs_of_query hquery
  have hitems := hreads.matchingItems_eq s.memory
  have hslice := Search.slice_eq_extract hreads.one_le_page hfits
  rw [search_eq_respond hquery hlive hfaults, Search.respond, hitems, hslice]

/-- The second page of a search by a text and by what a match has to contain. -/
theorem search_eq_slice_nested :
    let outer : Pool := ⟨3, "Lab outer", .ofAddress 0x0A000000 8 (by decide), .vpc, .active, none,
      .manual, "", .empty, .epoch, .epoch⟩
    let inner : Pool := ⟨5, "inner lab", .ofAddress 0x0A000000 16 (by decide), .subnet, .active,
      some 3, .manual, "", .empty, .epoch, .epoch⟩
    let account : Account :=
      ⟨2, "lab-7", "lab", "aws", some (.ofAddress 0x0A000000 8 (by decide)), ""⟩
    let s := Session.fresh
      (((Memory.empty.addPool outer).addPool inner).addAccount account) .epoch
    let params : Params := ⟨some " LAB", some "10.0.7.1/32", none, some "", some 2, some 2⟩
    (∃ q, params.query .standard = .ok q) ∧ s.token = .live ∧ s.faults = .none ∧
      params.found s.memory = [.pool outer, .pool inner, .account account] ∧
      (params.found s.memory).length < UInt64.size ∧
      perform Session.store (search .standard params) s =
        (.ok { items := [.account account], total := 3, page := 2, pageSize := 2 }, s) := by
  intro outer inner account s params
  have hquery : params.query .standard =
      .ok ⟨some "lab", some (.ofAddress 0x0A000701 32 (by decide)), none, none, 2, 2⟩ := by
    decide +kernel
  have hfound : params.found s.memory = [.pool outer, .pool inner, .account account] := by
    decide +kernel
  have hfits : (params.found s.memory).length < UInt64.size := by
    rw [hfound]
    decide
  have hanswer := search_eq_slice hquery rfl rfl hfits
  rw [hfound] at hanswer
  exact ⟨⟨_, hquery⟩, rfl, rfl, hfound, hfits, hanswer⟩

end Engine
end AddressPlan
