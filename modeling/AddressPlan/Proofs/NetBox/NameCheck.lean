import AddressPlan.Proofs.NetBox.Mirror
import AddressPlan.Proofs.Text.Lowercase
/-!
# The check of a new name

Before a pool is created, the records that the server gives out under the new name are looked
through. If one of them has the name, the creation is refused and has only read. Names are taken for
equal here up to the case of ASCII letters, which is finer than the comparison of a memory: a name
that differs from a stored one by the case of another letter is posted.
-/
namespace AddressPlan.NetBox
open Json (Decoder)

variable {σ : Type}

def Remote.noting (remote : Remote σ) : Remote (σ × List Request) where
  exchange request s :=
    let (reply?, state) := remote.exchange request s.1
    (reply?, state, s.2 ++ [request])
  patience s := remote.patience s.1

def Line.sent (line : Line (σ × List Request)) : List Request :=
  line.state.2

section Reading

variable {ε ε' α β : Type} {x : ExceptT ε (StateM (Line (σ × List Request))) α}

/-- Between the two states of a line nothing has been sent but requests that read. -/
def OnlyRead (line got : Line (σ × List Request)) : Prop :=
  ∃ reads, got.sent = line.sent ++ reads ∧ ∀ request ∈ reads, request.method = .get

theorem OnlyRead.refl (line : Line (σ × List Request)) : OnlyRead line line :=
  ⟨[], (List.append_nil _).symm, fun _ hrequest => nomatch hrequest⟩

theorem OnlyRead.trans {a b c : Line (σ × List Request)} (hab : OnlyRead a b)
    (hbc : OnlyRead b c) : OnlyRead a c := by
  obtain ⟨first, hfirst, hgets⟩ := hab
  obtain ⟨rest, hrest, hgets'⟩ := hbc
  refine ⟨first ++ rest, by rw [hrest, hfirst, List.append_assoc], ?_⟩
  intro request hrequest
  exact (List.mem_append.mp hrequest).elim (hgets request) (hgets' request)

def Reads (x : ExceptT ε (StateM (Line (σ × List Request))) α) : Prop :=
  ∀ line, OnlyRead line (x.run line).2

theorem reads_result (result : Except ε α) :
    Reads (ExceptT.mk (pure result) : ExceptT ε (StateM (Line (σ × List Request))) α) :=
  fun line => .refl line

theorem onlyRead_bind {f : α → ExceptT ε (StateM (Line (σ × List Request))) β}
    (hf : ∀ a, Reads (f a)) (line : Line (σ × List Request)) :
    OnlyRead (x.run line).2 ((x >>= f).run line).2 := by
  rw [run_bind]
  cases x.run line with
  | mk result got =>
    cases result with
    | error e => exact .refl got
    | ok a => exact hf a got

theorem Reads.bind {f : α → ExceptT ε (StateM (Line (σ × List Request))) β} (h : Reads x)
    (hf : ∀ a, Reads (f a)) : Reads (x >>= f) :=
  fun line => (h line).trans (onlyRead_bind hf line)

private theorem line_bind {τ : Type} {x : ExceptT ε (StateM τ) α} {f : α → ExceptT ε (StateM τ) β}
    (hf : ∀ a t, ((f a).run t).2 = t) (s : τ) : ((x >>= f).run s).2 = (x.run s).2 := by
  rw [run_bind]
  cases x.run s with
  | mk result t =>
    cases result with
    | error e => rfl
    | ok a => exact hf a t

private theorem Reads.adapt (h : Reads x) (g : ε → ε') : Reads (ExceptT.adapt g x) :=
  fun line => h line

end Reading

section Calls

variable {α : Type} (client : Client) (remote : Remote σ) (decoder : Decoder α)

private theorem sent_send (request : Request) (line : Line (σ × List Request)) :
    ((send remote.noting request).run line).2.sent =
      if line.token.hasFired then line.sent else line.sent ++ [request] := by
  unfold send
  rw [ExceptT.run_mk]
  cases line.token.hasFired <;> rfl

private theorem reads_send {request : Request} (h : request.method = .get) :
    Reads (send remote.noting request) := by
  intro line
  have hsent := sent_send remote request line
  cases hfired : line.token.hasFired with
  | true =>
    rw [hfired, if_pos rfl] at hsent
    exact ⟨[], by rw [hsent, List.append_nil], fun _ hrequest => nomatch hrequest⟩
  | false =>
    rw [hfired, if_neg Bool.false_ne_true] at hsent
    exact ⟨[request], hsent, List.forall_mem_singleton.mpr h⟩

theorem sent_ask (context : String) (request : Request) {line : Line (σ × List Request)}
    (htoken : line.token.hasFired = false) :
    ((ask remote.noting decoder context request).run line).2.sent = line.sent ++ [request] := by
  have hsent := sent_send remote request line
  rw [htoken, if_neg Bool.false_ne_true] at hsent
  have hline : ((ask remote.noting decoder context request).run line).2 =
      ((send remote.noting request).run line).2 := line_bind (fun _ _ => rfl) line
  rw [hline, hsent]

private theorem reads_ask (context : String) {request : Request} (h : request.method = .get) :
    Reads (ask remote.noting decoder context request) :=
  (reads_send remote h).bind fun _ => reads_result _

private theorem reads_call (path : String) :
    Reads (call client remote.noting decoder .get path none) :=
  reads_ask remote decoder _ rfl

private theorem reads_getOptional (path : String) :
    Reads (getOptional client remote.noting decoder path) := by
  intro line
  have hcall := reads_call client remote decoder path line
  unfold getOptional
  simp only [ExceptT.run_mk, bind, StateT.bind]
  cases hrun : (call client remote.noting decoder .get path none).run line with
  | mk result got =>
    rw [hrun] at hcall
    rcases result with failure | a
    · cases failure <;> exact hcall
    · exact hcall

theorem reads_fetchFrom (fuel : Nat) (path : String) :
    Reads (fetchFrom client remote.noting decoder fuel path) := by
  induction fuel generalizing path with
  | zero => exact reads_result _
  | succ fuel ih =>
    refine (reads_ask remote _ _ rfl).bind fun page => ?_
    cases page.next with
    | none => exact reads_result _
    | some next => exact (ih next).bind fun _ => reads_result _

private theorem reads_fetchAll (path : String) :
    Reads (fetchAll client remote.noting decoder path) :=
  fun line => reads_fetchFrom client remote decoder _ path line

private theorem reads_getPool (id : PoolId) : Reads (getPool client remote.noting id) := by
  refine ((reads_getOptional client remote _ _).adapt _).bind fun record? => ?_
  cases record? <;> exact reads_result _

private theorem reads_checkParent (draft : PoolDraft) :
    Reads (checkParent client remote.noting draft) := by
  unfold checkParent
  cases draft.parent with
  | none => exact reads_result _
  | some id =>
    refine (reads_getPool client remote id).bind fun parent? => ?_
    cases parent? <;> exact reads_result _

private theorem reads_fetchPrefixes (filters : List (String × String)) :
    Reads (fetchPrefixes client remote.noting filters) :=
  reads_fetchAll client remote _ _

end Calls

section Names

variable {a b : String} {records : List PrefixRecord} {candidates : List Pool}

private theorem lowercase_eq_of_sameName (h : sameName a b = true) :
    Text.lowercase a = Text.lowercase b :=
  Text.lowercase_congr (beq_iff_eq.mp h)

private theorem holder?_of_poolsOf (name : String) (h : poolsOf records = .ok candidates) :
    holder? name records = .ok (candidates.find? fun pool => sameName pool.name name) := by
  induction records generalizing candidates with
  | nil =>
    cases h
    rfl
  | cons record records ih =>
    rw [poolsOf_cons] at h
    obtain ⟨first, hfirst, hrest⟩ := bind_eq_ok.mp h
    obtain ⟨rest, hpools, hpure⟩ := bind_eq_ok.mp hrest
    cases hpure
    have htail := ih hpools
    rw [holder?, hfirst]
    cases first with
    | none => exact htail
    | some pool =>
      change (if sameName pool.name name then .ok (some pool) else holder? name records) =
        Except.ok ((pool :: rest).find? fun p => sameName p.name name)
      rw [List.find?_cons]
      cases sameName pool.name name with
      | true => rfl
      | false => exact htail

end Names

section Creation

variable {client : Client} {remote : Remote σ} {draft : PoolDraft}
  {line checked asked : Line (σ × List Request)} {records : List PrefixRecord}
  {candidates : List Pool}

private theorem run_checkName (hquery : (fetchPrefixes client remote.noting
      [("cf_ipam_pool_name__ie", draft.name)]).run checked = (.ok records, asked))
    (hdecode : poolsOf records = .ok candidates) :
    (checkName client remote.noting draft).run checked =
      (match candidates.find? fun pool => sameName pool.name draft.name with
        | some holder => .error (.clash (.nameTaken draft.name holder.id))
        | none => .ok (), asked) := by
  rw [checkName, run_bind_of_ok (run_errand_of_ok hquery),
    run_bind_of_ok (run_usable_of_ok (holder?_of_poolsOf draft.name hdecode))]
  cases candidates.find? fun pool => sameName pool.name draft.name <;> rfl

private theorem sent_createPool (hcheckParent : (checkParent client remote.noting draft).run line =
      (.ok (), checked))
    (hcheckName : (checkName client remote.noting draft).run checked = (.ok (), asked))
    (htoken : asked.token.hasFired = false) :
    ((createPool client remote.noting draft).run line).2.sent =
      asked.sent ++ [client.request .post prefixesPath (some (createBody draft))] := by
  have hcall : ((call client remote.noting PrefixRecord.decoder .post prefixesPath
      (some (createBody draft))).run asked).2.sent = _ := sent_ask remote _ _ _ htoken
  rw [createPool, run_bind_of_ok hcheckParent, run_bind_of_ok hcheckName, line_bind]
  · exact hcall
  · intro record got
    refine line_bind (fun pool? _ => ?_) got
    cases pool? <;> rfl

/-- The answer to a creation whose name query has been answered with records that all can be read.
If one of them stands for a pool of the new name, up to the case of ASCII letters, the name is
taken: the creation is refused as a conflict with such a pool and has only read. Two ASCII names
that are equal for a memory are equal here. If no record has the name, the pool is posted. -/
theorem create_of_candidates (hcheckParent : (checkParent client remote.noting draft).run line =
      (.ok (), checked))
    (hquery : (fetchPrefixes client remote.noting
      [("cf_ipam_pool_name__ie", draft.name)]).run checked = (.ok records, asked))
    (hdecode : poolsOf records = .ok candidates) :
    OnlyRead line asked ∧
      (∀ pool ∈ candidates, sameName pool.name draft.name = true ∨
          IsAscii pool.name ∧ IsAscii draft.name ∧
            Text.lowercase pool.name = Text.lowercase draft.name →
        ∃ holder ∈ candidates, Text.lowercase holder.name = Text.lowercase draft.name ∧
          (store client remote.noting).create draft line =
            (.error (.clash (.nameTaken draft.name holder.id)), asked)) ∧
      ((∀ pool ∈ candidates, sameName pool.name draft.name = false) →
        asked.token.hasFired = false →
        ((store client remote.noting).create draft line).2.sent =
          asked.sent ++ [client.request .post prefixesPath (some (createBody draft))]) := by
  have hread : OnlyRead line asked := by
    have hfirst := reads_checkParent client remote draft line
    rw [hcheckParent] at hfirst
    have hrest := reads_fetchPrefixes client remote [("cf_ipam_pool_name__ie", draft.name)] checked
    rw [hquery] at hrest
    exact hfirst.trans hrest
  have hcheckName := run_checkName hquery hdecode
  refine ⟨hread, ?taken, ?free⟩
  case taken =>
    intro pool hpool hname
    have hsame : sameName pool.name draft.name = true := by
      rcases hname with hsame | ⟨hp, hd, hlower⟩
      · exact hsame
      · rw [sameName_eq hp hd]
        exact decide_eq_true hlower
    cases hfind : candidates.find? fun pool => sameName pool.name draft.name with
    | none => exact absurd hsame (List.find?_eq_none.mp hfind pool hpool)
    | some holder =>
      rw [hfind] at hcheckName
      have hholds : sameName holder.name draft.name = true :=
        List.find?_some (p := fun pool : Pool => sameName pool.name draft.name) hfind
      refine ⟨holder, List.mem_of_find?_eq_some hfind, lowercase_eq_of_sameName hholds, ?_⟩
      change (createPool client remote.noting draft).run line = _
      rw [createPool, run_bind_of_ok hcheckParent, run_bind_of_error hcheckName]
  case free =>
    intro hfree htoken
    have hnone : (candidates.find? fun pool => sameName pool.name draft.name) = none :=
      List.find?_eq_none.mpr fun pool hpool => Bool.eq_false_iff.mp (hfree pool hpool)
    rw [hnone] at hcheckName
    exact sent_createPool hcheckParent hcheckName htoken

/-- A name that a record on the second page has, in other letters. -/
theorem create_of_candidates_paged :
    let draft : PoolDraft := ⟨"Core", .ofAddress 0x0A010000 16 (by decide), .subnet, .planned,
      some 9, .manual, "", .empty⟩
    let row (id name : String) := "\x7b\"id\":" ++ id ++
      ",\"prefix\":\"10.0.0.0/8\",\"status\":\"active\",\"description\":\"" ++ name ++ "\"\x7d"
    let page (next row : String) := "\x7b\"count\":2,\"next\":" ++ next ++
      ",\"results\":[" ++ row ++ "]\x7d"
    let client := Client.of "http://netbox" "key"
    let replies : List Reply := [⟨200, row "9" "root"⟩,
      ⟨200, page "\"/?page=2\"" (row "4" "edge")⟩,
      ⟨200, page "null" (row "5" "CORE")⟩]
    let remote : Remote Nat := ⟨fun _ i => (replies[i]?, i + 1), fun _ => 4⟩
    let line : Line (Nat × List Request) := ⟨(0, []), .live⟩
    ∃ asked, OnlyRead line asked ∧ asked.sent.length = 3 ∧ ∃ holder : Pool,
      Text.lowercase holder.name = "core" ∧ (store client remote.noting).create draft line =
        (.error (.clash (.nameTaken "Core" holder.id)), asked) := by
  intro draft row page client replies remote line
  let candidate (id : PoolId) (name : String) : Pool := ⟨id, name,
    .ofAddress 0x0A000000 8 (by decide), .subnet, .active, none, .discovered, name, .empty, .epoch,
    .epoch⟩
  let checked := ((checkParent client remote.noting draft).run line).2
  let query := (fetchPrefixes client remote.noting [("cf_ipam_pool_name__ie", draft.name)]).run
    checked
  have hcheckParent : ((checkParent client remote.noting draft).run line).1 = .ok () := by
    decide +kernel
  have hquery : (query.1 >>= poolsOf) = .ok [candidate 4 "edge", candidate 5 "CORE"] ∧
      query.2.sent.length = 3 := by decide +kernel
  obtain ⟨records, hrecords, hdecode⟩ := bind_eq_ok.mp hquery.1
  have hchecked : (checkParent client remote.noting draft).run line = (.ok (), checked) :=
    Prod.ext hcheckParent rfl
  have hasked : query = (.ok records, query.2) := Prod.ext hrecords rfl
  obtain ⟨hread, htaken, -⟩ := create_of_candidates hchecked hasked hdecode
  obtain ⟨holder, -, hlower, hcreate⟩ := htaken (candidate 5 "CORE") (by decide)
    (.inl (by decide +kernel))
  exact ⟨query.2, hread, hquery.2, holder, hlower.trans (by decide +kernel), hcreate⟩

/-- A name that differs from a stored one by the case of a letter that is not ASCII is posted. -/
theorem create_of_other_case :
    let request : PoolRequest := ⟨"É", "10.9.0.0/16", none, none, none, none, none, .empty⟩
    let draft : PoolDraft := ⟨"É", .ofAddress 0x0A090000 16 (by decide), .subnet, .planned, none,
      .manual, "", .empty⟩
    let stored : Pool := ⟨5, "é", .ofAddress 0x0A080000 16 (by decide), .subnet, .active, none,
      .discovered, "é", .empty, .epoch, .epoch⟩
    let row (id cidr name : String) := "\x7b\"id\":" ++ id ++ ",\"prefix\":\"" ++ cidr ++
      "\",\"status\":\"active\",\"description\":\"" ++ name ++ "\"\x7d"
    let client := Client.of "http://netbox" "key"
    let replies : List Reply := [
      ⟨200, "\x7b\"count\":1,\"results\":[" ++ row "5" "10.8.0.0/16" "é" ++ "]\x7d"⟩,
      ⟨201, row "6" "10.9.0.0/16" "É"⟩]
    let remote : Remote Nat := ⟨fun _ i => (replies[i]?, i + 1), fun _ => 4⟩
    let line : Line (Nat × List Request) := ⟨(0, []), .live⟩
    let query := (fetchPrefixes client remote.noting [("cf_ipam_pool_name__ie", "É")]).run line
    let created := (store client remote.noting).create draft line
    request.validate .standard = .ok draft ∧ query.1.bind poolsOf = .ok [stored] ∧
      Text.lowercase stored.name = Text.lowercase draft.name ∧
      created.1.map Pool.name = .ok "É" ∧ created.2.sent.map Request.method = [.get, .post] := by
  intro request draft stored row client replies remote line query created
  have hvalid : request.validate .standard = .ok draft := by decide +kernel
  have hquery : query.1.bind poolsOf = .ok [stored] := by decide +kernel
  have hlower : Text.lowercase stored.name = Text.lowercase draft.name := by decide +kernel
  have hcreated : created.1.map Pool.name = .ok "É" ∧
      created.2.sent.map Request.method = [.get, .post] := by decide +kernel
  exact ⟨hvalid, hquery, hlower, hcreated⟩

end Creation

end AddressPlan.NetBox
