import AddressPlan.Proofs.NetBox.NameCheck
import AddressPlan.Proofs.Text.Query
/-!
# What a lookup of a name sends

The name of a new pool is free text, and the query of an address carries it to the server. The
query stands for the filters that the client has set and the name, whatever characters the name is
made of: it adds no filter and changes none.
-/
namespace AddressPlan.NetBox
open Json (Decoder)
open Text (Carries queryText)

section Lookups

variable {σ α : Type} (client : Client) (remote : Remote σ) {line : Line (σ × List Request)}

private theorem sent_fetchFrom (decoder : Decoder α) (path : String) (fuel : Nat)
    (htoken : line.token.hasFired = false) : ∃ rest,
    ((fetchFrom client remote.noting decoder (fuel + 1) path).run line).2.sent =
      line.sent ++ client.request .get path none :: rest := by
  let first := ask remote.noting (Page.record decoder).decode "Failed to fetch page"
    (client.request .get path none)
  have hfirst : (first.run line).2.sent = line.sent ++ [client.request .get path none] :=
    sent_ask remote _ _ _ htoken
  obtain ⟨rest, hrest, -⟩ : OnlyRead (first.run line).2
      ((fetchFrom client remote.noting decoder (fuel + 1) path).run line).2 := by
    refine onlyRead_bind (fun page => ?_) line
    cases page.next with
    | none => exact reads_result _
    | some next =>
      exact (reads_fetchFrom client remote decoder fuel next).bind fun _ => reads_result _
  refine ⟨rest, ?_⟩
  rw [hrest, hfirst, List.append_assoc, List.singleton_append]

private theorem sent_fetchPrefixes (filters : List (String × String))
    (htoken : line.token.hasFired = false) (hpatience : 0 < remote.patience line.state.1) :
    ∃ rest, ((fetchPrefixes client remote.noting filters).run line).2.sent =
      line.sent ++ client.request .get (listingPath filters) none :: rest := by
  obtain ⟨fuel, hfuel⟩ : ∃ n, remote.patience line.state.1 = n + 1 :=
    Nat.exists_eq_add_of_le' hpatience
  have hfetch : (fetchPrefixes client remote.noting filters).run line =
      (fetchFrom client remote.noting PrefixRecord.decoder (fuel + 1)
        (listingPath filters)).run line := by
    rw [← hfuel]
    rfl
  rw [hfetch]
  exact sent_fetchFrom client remote PrefixRecord.decoder (listingPath filters) fuel htoken

private theorem sent_checkName (draft : PoolDraft) (htoken : line.token.hasFired = false)
    (hpatience : 0 < remote.patience line.state.1) :
    ∃ rest, ((checkName client remote.noting draft).run line).2.sent = line.sent ++
      client.request .get (listingPath [("cf_ipam_pool_name__ie", draft.name)]) none :: rest := by
  obtain ⟨pages, hpages⟩ := sent_fetchPrefixes client remote
    [("cf_ipam_pool_name__ie", draft.name)] htoken hpatience
  obtain ⟨behind, hbehind, -⟩ : OnlyRead
      ((fetchPrefixes client remote.noting [("cf_ipam_pool_name__ie", draft.name)]).run line).2
      ((checkName client remote.noting draft).run line).2 := by
    refine onlyRead_bind (fun records => (reads_result _).bind fun holder? => ?_) line
    cases holder? <;> exact reads_result _
  refine ⟨pages ++ behind, ?_⟩
  rw [hbehind, hpages, List.append_assoc, List.cons_append]

end Lookups

/-- A query that is made of names and values is read back as exactly these, whatever characters
they hold. So the first request of the check of a name, which is sent to the listing of the
prefixes, stands for the two filters of every listing and for the name, and for nothing else. -/
theorem parameters_carried :
    (∀ pairs : List (String × String), pairs ≠ [] → Carries (queryText pairs) pairs) ∧
    ∀ (σ : Type) (client : Client) (remote : Remote σ) (draft : PoolDraft)
      (line : Line (σ × List Request)),
      line.token.hasFired = false → 0 < remote.patience line.state.1 →
      ∃ query rest, ((checkName client remote.noting draft).run line).2.sent = line.sent ++
          ⟨.get, client.base ++ (prefixesPath ++ "?" ++ query), "Token " ++ client.key,
            "application/json", none⟩ :: rest ∧
        Carries query
          [("family", "4"), ("limit", "1000"), ("cf_ipam_pool_name__ie", draft.name)] := by
  refine ⟨fun pairs => Text.carries_queryText, ?_⟩
  intro σ client remote draft line htoken hpatience
  obtain ⟨rest, hsent⟩ := sent_checkName client remote draft htoken hpatience
  rw [Client.request, client.url_listingPath] at hsent
  exact ⟨_, rest, hsent, Text.carries_queryText (List.cons_ne_nil _ _)⟩

/-- Names and values that are made of separators, and the name of a pool that tries to set a
parameter. -/
theorem parameters_carried_separators :
    let pairs := [("a&b=c", "1+1=2 %20"), ("", ""), ("=é", "😀\n&"), ("a&b=c", "+")]
    let draft : PoolDraft := ⟨"edge&limit=1#%26 é", .ofAddress 0x0A010000 16 (by decide), .subnet,
      .planned, none, .manual, "", .empty⟩
    let client := Client.of "http://netbox/" "key"
    let remote : Remote Nat := ⟨fun _ i => (none, i + 1), fun _ => 1⟩
    let line : Line (Nat × List Request) := ⟨(0, []), .live⟩
    pairs ≠ [] ∧ Carries (queryText pairs) pairs ∧
      queryText pairs = "a%26b%3Dc=1%2B1%3D2%20%2520&=&%3D%C3%A9=%F0%9F%98%80%0A%26&a%26b%3Dc=%2B" ∧
      line.token.hasFired = false ∧ 0 < remote.patience line.state.1 ∧
      ∃ query rest, ((checkName client remote.noting draft).run line).2.sent =
          ⟨.get, "http://netbox" ++ ("/api/ipam/prefixes/?" ++ query), "Token key",
            "application/json", none⟩ :: rest ∧
        Carries query [("family", "4"), ("limit", "1000"),
          ("cf_ipam_pool_name__ie", "edge&limit=1#%26 é")] := by
  intro pairs draft client remote line
  have hpairs : pairs ≠ [] := List.cons_ne_nil _ _
  have htext : queryText pairs =
      "a%26b%3Dc=1%2B1%3D2%20%2520&=&%3D%C3%A9=%F0%9F%98%80%0A%26&a%26b%3Dc=%2B" := by
    decide +kernel
  have htoken : line.token.hasFired = false := rfl
  have hpatience : 0 < remote.patience line.state.1 := Nat.one_pos
  obtain ⟨query, rest, hsent, hcarries⟩ :=
    parameters_carried.2 Nat client remote draft line htoken hpatience
  have hbase : client.base = "http://netbox" := by decide +kernel
  have hpath : prefixesPath ++ "?" ++ query = "/api/ipam/prefixes/?" ++ query := rfl
  rw [hbase, hpath] at hsent
  exact ⟨hpairs, parameters_carried.1 pairs hpairs, htext, htoken, hpatience, query, rest, hsent,
    hcarries⟩

end AddressPlan.NetBox
