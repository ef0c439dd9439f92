import Mathlib.Data.List.Forall2
import Mathlib.Data.List.Perm.Basic
import AddressPlan.Proofs.NetBox.Listing
import AddressPlan.Proofs.NetBox.Rows
import AddressPlan.Proofs.Sorting
import AddressPlan.Proofs.Store.Visits
/-!
# A server beside a memory

An ideal server mirrors a memory if its rows keep the pools of the memory, one by one. Each call on
the store that talks to the server then answers what the memory answers, up to time stamps, and
leaves a server that mirrors what the call leaves of the memory.
-/
namespace AddressPlan

section Names

def IsAscii (s : String) : Prop :=
  ∀ c ∈ s.toList, c.toNat < 0x80

instance (s : String) : Decidable (IsAscii s) :=
  decidable_of_iff ((s.toList.all fun c => c.toNat < 0x80) = true) (by simp [IsAscii])

private theorem lowerFrom_of_ascii (before : List Char) {cs : List Char}
    (h : ∀ c ∈ cs, c.toNat < 0x80) :
    Text.lowerFrom before cs = cs.map Char.toLower := by
  induction cs generalizing before with
  | nil => rfl
  | cons c cs ih =>
    have hc := h c List.mem_cons_self
    have hsigma : c ≠ 'Σ' := fun heq => absurd (heq ▸ hc) (by decide)
    have hdotted : c ≠ 'İ' := fun heq => absurd (heq ▸ hc) (by decide)
    rw [Text.lowerFrom, if_neg hsigma, if_neg hdotted, Text.lowerChar, if_pos hc,
      ih _ fun d hd => h d (List.mem_cons_of_mem _ hd), List.map_cons]

theorem sameName_eq {a b : String} (ha : IsAscii a) (hb : IsAscii b) :
    NetBox.sameName a b = decide (Text.lowercase a = Text.lowercase b) := by
  have hlower : Text.lowercase a = Text.lowercase b ↔
      a.toList.map Char.toLower = b.toList.map Char.toLower := by
    rw [Text.lowercase, Text.lowercase, Text.lowerChars, Text.lowerChars,
      lowerFrom_of_ascii [] ha, lowerFrom_of_ascii [] hb]
    exact String.ofList_inj
  rw [NetBox.sameName, Bool.eq_iff_iff, beq_iff_eq, decide_eq_true_eq, hlower]

end Names

namespace NetBox
open Json (Value)

section Records

variable {records : List PrefixRecord} {pools : List Pool}

private theorem poolsOf_of_shows (h : List.Forall₂ PrefixRecord.Shows records pools) :
    ∃ shown, poolsOf records = .ok shown ∧ shown.map Pool.untimed = pools.map Pool.untimed := by
  induction h with
  | nil => exact ⟨[], rfl, rfl⟩
  | cons hshows _ ih =>
    obtain ⟨p, hpool, hsame⟩ := hshows
    obtain ⟨shown, hshown, hrest⟩ := ih
    refine ⟨p :: shown, ?_, by rw [List.map_cons, hsame, hrest, List.map_cons]⟩
    rw [poolsOf_cons, hpool, hshown]
    rfl

private theorem holder?_of_shows (name : String)
    (h : List.Forall₂ PrefixRecord.Shows records pools) :
    ∃ holder, holder? name records = .ok holder ∧ holder.map Pool.untimed =
      (pools.find? fun pool => sameName pool.name name).map Pool.untimed := by
  induction h with
  | nil => exact ⟨none, rfl, rfl⟩
  | @cons record pool records pools hshows _ ih =>
    obtain ⟨p, hpool, hsame⟩ := hshows
    have hname : p.untimed.name = pool.untimed.name := congrArg Pool.name hsame
    change p.name = pool.name at hname
    have hstep : holder? name (record :: records) =
        if sameName p.name name then .ok (some p) else holder? name records := by
      rw [holder?, hpool]
      rfl
    rw [hstep, List.find?_cons, ← hname]
    cases hholds : sameName p.name name with
    | true => exact ⟨some p, rfl, by rw [Option.map_some, hsame, Option.map_some]⟩
    | false => exact ih

end Records

section Mirror

/-- A server and a memory hold the same pools under the same ids, and will give the next pool the
same id. The names are ones that both compare in the same way. -/
structure Server.Mirrors (s : Server) (m : Memory) : Prop where
  rows : List.Forall₂ Row.Keeps s.rows m.pools.rows
  nextId : s.nextId = m.nextId
  below : m.IdsBelow
  ascii : ∀ pool ∈ m.pools.rows, IsAscii pool.name
  distinct : m.NamesApart

theorem mirrors_empty : Server.empty.Mirrors .empty where
  rows := .nil
  nextId := rfl
  below := fun _ hpool => nomatch hpool
  ascii := fun _ hpool => nomatch hpool
  distinct := .nil

private theorem exists_keeps {rows : List Row} {pools : List Pool}
    (h : List.Forall₂ Row.Keeps rows pools)
    {row : Row} (hrow : row ∈ rows) : ∃ pool ∈ pools, row.Keeps pool := by
  induction h with
  | nil => cases hrow
  | cons hkeeps _ ih =>
    rcases List.mem_cons.mp hrow with rfl | hrow
    · exact ⟨_, List.mem_cons_self, hkeeps⟩
    · obtain ⟨pool, hpool, hkeeps⟩ := ih hrow
      exact ⟨pool, List.mem_cons_of_mem _ hpool, hkeeps⟩

private theorem find?_of_keeps {rows : List Row} {pools : List Pool}
    (h : List.Forall₂ Row.Keeps rows pools) (id : PoolId) :
    rows.find? (·.id = id) = none ∧ pools.find? (·.id = id) = none ∨
      ∃ row pool, rows.find? (·.id = id) = some row ∧ pools.find? (·.id = id) = some pool ∧
        row.Keeps pool := by
  induction h with
  | nil => exact .inl ⟨rfl, rfl⟩
  | @cons row pool rows pools hkeeps _ ih =>
    rw [List.find?_cons, List.find?_cons, ← hkeeps.id]
    by_cases hid : row.id = id
    · simp only [hid, decide_true]
      exact .inr ⟨row, pool, rfl, rfl, hkeeps⟩
    · simp only [hid, decide_false]
      exact ih

variable {s : Server} {m : Memory}

private theorem Server.Mirrors.legible (h : s.Mirrors m) : Legible s.rows Row.read where
  decode := by
    intro row hrow
    obtain ⟨pool, -, hkeeps⟩ := exists_keeps h.rows hrow
    exact hkeeps.decode.1
  fits := by
    intro row hrow
    obtain ⟨pool, -, hkeeps⟩ := exists_keeps h.rows hrow
    exact hkeeps.fits

theorem Server.Mirrors.run_fetchPrefixes {pools : List Pool} (h : s.Mirrors m) (setup : Setup)
    (key : String) (filters : List (String × String)) (hfilters : filters.lookup "page" = none)
    (hkept : List.Forall₂ Row.Keeps
      (Setup.kept ([("family", "4"), ("limit", "1000")] ++ filters) s.rows) pools) :
    ∃ records listed, (fetchPrefixes (setup.client key) setup.remote filters).run ⟨s, .live⟩ =
      (.ok records, ⟨s, .live⟩) ∧ List.Forall₂ PrefixRecord.Shows records listed ∧
      listed.Perm pools := by
  have hfetch : (fetchPrefixes (setup.client key) setup.remote filters).run ⟨s, .live⟩ = _ :=
    NetBox.run_fetchPrefixes hfilters rfl h.legible
  obtain ⟨listed, hlisted, hperm⟩ := List.perm_comp_forall₂ (setup.perm_cut _) hkept
  refine ⟨_, listed, hfetch, ?_, hperm⟩
  rw [List.forall₂_map_left_iff]
  exact hlisted.imp fun _ _ hkeeps => hkeeps.decode.2

end Mirror

section Reading

variable {s : Server} {m : Memory}

private theorem map_mergeSort_of_perm {shown listed : List Pool} {pools : Keyed PoolId Pool.id}
    (hsame : shown.map Pool.untimed = listed.map Pool.untimed) (hperm : listed.Perm pools.rows) :
    (shown.mergeSort fun p q => p.id ≤ q.id).map Pool.untimed = pools.rows.map Pool.untimed := by
  have hascending : (pools.rows.map Pool.untimed).Pairwise (Pool.id · < Pool.id ·) :=
    List.pairwise_map.mpr pools.ascending
  have hperm' : (shown.map Pool.untimed).Perm (pools.rows.map Pool.untimed) :=
    hsame ▸ hperm.map Pool.untimed
  have hid : ∀ pool : Pool, pool.untimed.id = pool.id := fun _ => rfl
  calc (sortByKey Pool.id shown).map Pool.untimed
      = sortByKey Pool.id (shown.map Pool.untimed) := map_sortByKey hid shown
    _ = sortByKey Pool.id (pools.rows.map Pool.untimed) :=
      (sortByKey_congr hperm'.symm (nodup_of_ascending hascending)).symm
    _ = pools.rows.map Pool.untimed := sortByKey_of_ascending hascending

theorem Server.Mirrors.run_listPools (h : s.Mirrors m) (setup : Setup) (key : String) : ∃ pools,
    (listPools (setup.client key) setup.remote).run ⟨s, .live⟩ = (.ok pools, ⟨s, .live⟩) ∧
      pools.map Pool.untimed = m.pools.rows.map Pool.untimed := by
  obtain ⟨records, listed, hfetch, hshows, hperm⟩ :=
    h.run_fetchPrefixes setup key [] rfl h.rows
  obtain ⟨shown, hpools, hsame⟩ := poolsOf_of_shows hshows
  refine ⟨_, ?_, map_mergeSort_of_perm hsame hperm⟩
  rw [listPools, run_bind_of_ok (run_errand_of_ok hfetch),
    run_bind_of_ok (run_usable_of_ok hpools)]
  rfl

theorem Server.Mirrors.run_getPool (h : s.Mirrors m) (setup : Setup) (key : String) (id : PoolId) :
    ∃ found,
    (getPool (setup.client key) setup.remote id).run ⟨s, .live⟩ = (.ok found, ⟨s, .live⟩) ∧
      found.map Pool.untimed = (m.pools.find? id).map Pool.untimed := by
  obtain ⟨hrow, hpool⟩ | ⟨row, pool, hrow, hpool, hkeeps⟩ := find?_of_keeps h.rows id
  · obtain ⟨rejection, hcall⟩ :=
      run_call_of_notFound PrefixRecord.decoder (exchange_get_missing setup key hrow)
    refine ⟨none, ?_, by rw [Keyed.find?, hpool]⟩
    rw [getPool, run_bind_of_ok (run_errand_of_ok (run_getOptional_of_notFound hcall))]
    rfl
  · have hcall := hkeeps.run_call rfl (exchange_get setup key hrow)
    obtain ⟨shown, hshown, hsame⟩ := hkeeps.decode.2
    refine ⟨some shown, ?_, by rw [Keyed.find?, hpool, Option.map_some, hsame, Option.map_some]⟩
    rw [getPool, run_bind_of_ok (run_errand_of_ok (run_getOptional_of_ok hcall))]
    exact run_usable_of_ok hshown

end Reading

section Creating

variable {s : Server} {m : Memory} {draft : PoolDraft}

private theorem Server.Mirrors.run_checkParent (h : s.Mirrors m) (setup : Setup) (key : String)
    (draft : PoolDraft) :
    (checkParent (setup.client key) setup.remote draft).run ⟨s, .live⟩ =
      (match draft.parent.filter fun id => (m.pools.find? id).isNone with
        | some id => .error (.absent (.parent id))
        | none => .ok (), ⟨s, .live⟩) := by
  rw [checkParent]
  cases draft.parent with
  | none => rfl
  | some id =>
    obtain ⟨found, hget, hfound⟩ := h.run_getPool setup key id
    simp only
    rw [run_bind_of_ok hget]
    cases hstored : m.pools.find? id with
    | none =>
      have hmissing : ((some id).filter fun id => (m.pools.find? id).isNone) = some id := by
        simp [Option.filter_some, hstored]
      rw [hstored] at hfound
      obtain rfl := Option.map_eq_none_iff.mp hfound
      rw [hmissing]
      rfl
    | some pool =>
      have hpresent : ((some id).filter fun id => (m.pools.find? id).isNone) = none := by
        simp [Option.filter_some, hstored]
      rw [hstored] at hfound
      obtain ⟨shown, rfl, -⟩ := Option.map_eq_some_iff.mp hfound
      rw [hpresent]
      rfl

private theorem filter_eq_toList_find? {p : Pool → Bool} {pools : List Pool}
    (h : pools.Pairwise fun a b => p a = true → p b = false) :
    pools.filter p = (pools.find? p).toList := by
  induction pools with
  | nil => rfl
  | cons pool pools ih =>
    obtain ⟨hpool, hpools⟩ := List.pairwise_cons.mp h
    rw [List.filter_cons, List.find?_cons]
    cases hp : p pool with
    | true =>
      have hnone : pools.filter p = [] :=
        List.filter_eq_nil_iff.mpr fun q hq => by simp [hpool q hq hp]
      rw [hnone]
      rfl
    | false => exact ih hpools

private theorem Server.Mirrors.kept_name (h : s.Mirrors m) (name : String) :
    List.Forall₂ Row.Keeps (Setup.kept ([("family", "4"), ("limit", "1000")] ++
      [("cf_ipam_pool_name__ie", name)]) s.rows) (m.holder? name).toList := by
  have hdistinct : m.pools.rows.Pairwise fun p q =>
      decide (Text.lowercase p.name = Text.lowercase name) = true →
        decide (Text.lowercase q.name = Text.lowercase name) = false := by
    refine h.distinct.imp fun {p q} hne hp => decide_eq_false fun hq => hne ?_
    exact (of_decide_eq_true hp).trans hq.symm
  have hfilter := List.rel_filter (R := Row.Keeps)
    (p := fun row => row.poolName?.any fun n => Text.lowercase n = Text.lowercase name)
    (q := fun pool => Text.lowercase pool.name = Text.lowercase name)
    (fun row pool hkeeps => by simp only [hkeeps.poolName?, Option.any_some]) h.rows
  rw [filter_eq_toList_find? hdistinct] at hfilter
  exact hfilter

private theorem Server.Mirrors.run_checkName (h : s.Mirrors m) (setup : Setup) (key : String)
    (hascii : IsAscii draft.name) :
    (checkName (setup.client key) setup.remote draft).run ⟨s, .live⟩ =
      (match m.holder? draft.name with
        | some pool => .error (.clash (.nameTaken draft.name pool.id))
        | none => .ok (), ⟨s, .live⟩) := by
  obtain ⟨records, listed, hfetch, hshows, hperm⟩ :=
    h.run_fetchPrefixes setup key [("cf_ipam_pool_name__ie", draft.name)] rfl
      (h.kept_name draft.name)
  obtain ⟨holder, hholder, hsame⟩ := holder?_of_shows draft.name hshows
  rw [checkName, run_bind_of_ok (run_errand_of_ok hfetch),
    run_bind_of_ok (run_usable_of_ok hholder)]
  cases hname : m.holder? draft.name with
  | none =>
    rw [hname] at hperm
    obtain rfl := List.perm_nil.mp hperm
    obtain rfl := Option.map_eq_none_iff.mp hsame
    rfl
  | some pool =>
    rw [hname] at hperm
    obtain rfl := List.perm_singleton.mp hperm
    obtain ⟨hmem, hlower⟩ := Memory.mem_of_holder? hname
    have hholds : sameName pool.name draft.name = true := by
      rw [sameName_eq (h.ascii pool hmem) hascii]
      exact decide_eq_true hlower
    simp only [List.find?_cons, hholds] at hsame
    obtain ⟨p, rfl, hp⟩ := Option.map_eq_some_iff.mp hsame
    have hid : p.untimed.id = pool.untimed.id := congrArg Pool.id hp
    change p.id = pool.id at hid
    simp only [hid]
    rfl

theorem Server.Mirrors.push {setup : Setup} {sent : List (String × Value)} (h : s.Mirrors m)
    (haccepts : m.Accepts draft) (hroom : m.nextId.toNat + 1 < 2 ^ 64)
    (hsent : createBody draft = .object sent)
    (hname : Text.nonBlank? draft.name = some draft.name) (hascii : IsAscii draft.name)
    (now : Instant) :
    (⟨s.rows ++ [setup.posted s sent], s.nextId + 1, s.writes + 1⟩ : Server).Mirrors
      (m.push now draft) where
  rows := by
    have hkeeps : (setup.posted s sent).Keeps (draft.toPool s.nextId now) :=
      keeps_posted hsent hname now
    rw [h.nextId] at hkeeps
    rw [Memory.rows_push h.below]
    exact List.rel_append h.rows (.cons hkeeps .nil)
  nextId := congrArg (· + 1) h.nextId
  below := h.below.push hroom
  ascii := by
    intro pool hpool
    rw [Memory.rows_push h.below] at hpool
    rcases List.mem_append.mp hpool with hpool | hpool
    · exact h.ascii pool hpool
    · obtain rfl := List.mem_singleton.mp hpool
      exact hascii
  distinct := h.distinct.push haccepts now

private theorem Server.Mirrors.run_createPool_of_accepts (h : s.Mirrors m) (setup : Setup)
    (key : String)
    (hname : Text.nonBlank? draft.name = some draft.name) (hascii : IsAscii draft.name)
    (haccepts : m.Accepts draft) (hroom : m.nextId.toNat + 1 < 2 ^ 64) (now : Instant) :
    ∃ shown t,
    (createPool (setup.client key) setup.remote draft).run ⟨s, .live⟩ = (.ok shown, ⟨t, .live⟩) ∧
      shown.untimed = (draft.toPool m.nextId now).untimed ∧ t.Mirrors (m.push now draft) := by
  have hcheckParent := h.run_checkParent setup key draft
  have hcheckName := h.run_checkName setup key hascii
  rw [Memory.missingParent_eq_none_iff.mpr haccepts.parent] at hcheckParent
  rw [haccepts.name] at hcheckName
  obtain ⟨sent, hsent⟩ : ∃ sent, createBody draft = .object sent := ⟨_, rfl⟩
  have hsend : (send setup.remote ((setup.client key).request .post prefixesPath
      (some (createBody draft)))).run ⟨s, .live⟩ = _ :=
    run_send_of_live (exchange_post setup key hsent)
  have hkeeps : (setup.posted s sent).Keeps (draft.toPool s.nextId now) :=
    keeps_posted hsent hname now
  obtain ⟨shown, hshown, hsame⟩ := hkeeps.decode.2
  have hsuccess : Http.isSuccess 201 = true := rfl
  have hrun := run_createPool_of_reply hcheckParent hcheckName hsend
    (decode_of_success hsuccess hkeeps.decodeText) hshown
  rw [h.nextId] at hsame
  exact ⟨shown, _, hrun, hsame, h.push haccepts hroom hsent hname hascii now⟩

/-- A creation is answered as by the memory: the gates are the same ones, in the same order. -/
theorem Server.Mirrors.run_createPool (h : s.Mirrors m) (setup : Setup) (key : String)
    (hname : Text.nonBlank? draft.name = some draft.name) (hascii : IsAscii draft.name)
    (now : Instant) (hroom : m.Accepts draft → m.nextId.toNat + 1 < 2 ^ 64) : ∃ answer t,
      (createPool (setup.client key) setup.remote draft).run ⟨s, .live⟩ = (answer, ⟨t, .live⟩) ∧
        answer.map Pool.untimed = (m.create now draft).1.map Pool.untimed ∧
        t.Mirrors (m.create now draft).2 := by
  have hcheckParent := h.run_checkParent setup key draft
  cases hparent : draft.parent.filter fun id => (m.pools.find? id).isNone with
  | some id =>
    have hcreate : m.create now draft = (.error (.absent (.parent id)), m) := by
      simp only [Memory.create, hparent]
    rw [hparent] at hcheckParent
    refine ⟨_, s, ?_, by rw [hcreate], by rwa [hcreate]⟩
    rw [createPool, run_bind_of_error hcheckParent]
  | none =>
    have hstored := Memory.missingParent_eq_none_iff.mp hparent
    have hcreate := Memory.create_of_parent now hstored
    cases hholder : m.holder? draft.name with
    | some pool =>
      have hcheckName := h.run_checkName setup key hascii
      rw [hparent] at hcheckParent
      rw [hholder] at hcheckName hcreate
      refine ⟨_, s, ?_, by rw [hcreate], by rwa [hcreate]⟩
      rw [createPool, run_bind_of_ok hcheckParent, run_bind_of_error hcheckName]
    | none =>
      have haccepts : m.Accepts draft := ⟨hstored, hholder⟩
      obtain ⟨shown, t, hrun, hsame, hmirrors⟩ :=
        h.run_createPool_of_accepts setup key hname hascii haccepts (hroom haccepts) now
      rw [Memory.create_of_accepts haccepts]
      exact ⟨.ok shown, t, hrun, congrArg Except.ok hsame, hmirrors⟩

end Creating

section Changing

variable {s : Server} {m : Memory} {id : PoolId} {change : PoolUpdate}
  {sent : List (String × Value)} {row : Row} {pool : Pool}

theorem Server.Mirrors.patch (h : s.Mirrors m) (setup : Setup)
    (hpool : m.pools.find? id = some pool) (hkeeps : row.Keeps pool)
    (hsent : updateBody change = .object sent) (now : Instant) :
    ({ s with rows := s.rows.map fun r => if r.id = id then setup.changed s sent row else r
              writes := s.writes + 1 } : Server).Mirrors
      { m with pools := m.pools.insert { change.applyTo pool with updatedAt := now } } := by
  have hid : pool.id = id := (Keyed.find?_eq_some_iff.mp hpool).2
  have hchanged := hkeeps.changed setup s change hsent now
  obtain ⟨f, hrows, hsame⟩ := Memory.rows_change now change hpool
  refine ⟨?rows, h.nextId, ?below, ?ascii, ?distinct⟩
  case rows =>
    have hinsert : (m.pools.insert { change.applyTo pool with updatedAt := now }).rows =
        m.pools.rows.map fun p => if p.id = id then
          { change.applyTo pool with updatedAt := now } else p := by
      rw [← hid] at hpool ⊢
      exact Keyed.rows_insert_of_find? hpool
    rw [hinsert, List.forall₂_map_left_iff, List.forall₂_map_right_iff]
    refine h.rows.imp fun r p hr => ?_
    rw [hr.id]
    by_cases hp : p.id = id
    · rw [if_pos hp, if_pos hp]
      exact hchanged
    · rw [if_neg hp, if_neg hp]
      exact hr
  case below => exact h.below.change now change hpool
  case ascii =>
    intro p hp
    rw [hrows] at hp
    obtain ⟨q, hq, rfl⟩ := List.mem_map.mp hp
    rw [(hsame q hq).name]
    exact h.ascii q hq
  case distinct => exact h.distinct.change hpool change now

theorem Server.Mirrors.run_updatePool (h : s.Mirrors m) (setup : Setup) (key : String)
    (id : PoolId) (change : PoolUpdate) (now : Instant) : ∃ answer t,
    (updatePool (setup.client key) setup.remote id change).run ⟨s, .live⟩ = (answer, ⟨t, .live⟩) ∧
      answer.map Pool.untimed = (m.update now id change).1.map Pool.untimed ∧
      t.Mirrors (m.update now id change).2 := by
  obtain ⟨sent, hsent⟩ : ∃ sent, updateBody change = .object sent := ⟨_, rfl⟩
  obtain ⟨hrow, hpool⟩ | ⟨row, pool, hrow, hpool, hkeeps⟩ := find?_of_keeps h.rows id
  · obtain ⟨rejection, hcall⟩ :=
      run_call_of_notFound PrefixRecord.decoder (exchange_patch_missing setup key hsent hrow)
    have hadapt : (ExceptT.adapt (changeRefusal id) (call (setup.client key) setup.remote
        PrefixRecord.decoder .patch (prefixPath id) (some (updateBody change)))).run ⟨s, .live⟩ =
        (.error (.absent (.pool id)), ⟨s, .live⟩) := by
      rw [run_adapt, hcall]
      rfl
    have hupdate : m.update now id change = (.error (.absent (.pool id)), m) := by
      have hfind : m.pools.find? id = none := hpool
      simp only [Memory.update, hfind]
    refine ⟨.error (.absent (.pool id)), s, ?_, by rw [hupdate], by rwa [hupdate]⟩
    rw [updatePool, run_bind_of_error hadapt]
  · have hchanged := hkeeps.changed setup s change hsent now
    obtain ⟨shown, hshown, hsame⟩ := hchanged.decode.2
    have hcall := hchanged.run_call rfl (exchange_patch setup key hsent hrow)
    rw [Memory.update_of_find? hpool]
    refine ⟨.ok shown, _, ?_, congrArg Except.ok hsame, h.patch setup hpool hkeeps hsent now⟩
    rw [updatePool, run_bind_of_ok (run_adapt_of_ok (changeRefusal id) hcall),
      run_bind_of_ok (run_usable_of_ok hshown)]
    rfl

end Changing

end NetBox
end AddressPlan
