import Mathlib
import AddressPlan.Proofs.Format.Spelling
/-!
# Texts of the types, read back

The text of every value that goes over the wire, as a request, as an answer or between the service
and a server, is decoded to the value. What is asked of a value is no more than that its type is
the one that is meant: counts are words, years have four digits, and the fields of a free value are
in order, with whole numbers and no deeper than the reader goes.
-/
namespace AddressPlan
open Json (Value decodeText)

/-- The text of a value is decoded to the value, for each type with a form to be read. -/
structure RoundTrips : Prop where
  block : ∀ p : Prefix, decodeText Prefix.decoder p.json.text = .ok p
  pool : ∀ p : Pool, p.Dated → decodeText Pool.decoder p.json.text = .ok p
  account : ∀ a : Account, decodeText Account.decoder a.json.text = .ok a
  entry : ∀ e : Plan.Entry, decodeText Plan.Entry.decoder e.json.text = .ok e
  poolRequest : ∀ r : PoolRequest, decodeText PoolRequest.decoder r.json.text = .ok r
  poolPatch : ∀ p : PoolPatch, decodeText PoolPatch.decoder p.json.text = .ok p
  plan : ∀ r : Plan.Request, decodeText Plan.Request.decoder r.json.text = .ok r
  report : ∀ r : Plan.Report, r.Counted → decodeText Plan.Report.decoder r.json.text = .ok r
  check : ∀ r : Plan.CheckRequest, decodeText Plan.CheckRequest.decoder r.json.text = .ok r
  checked : ∀ r : Plan.CheckResponse, r.Counted →
    decodeText Plan.CheckResponse.decoder r.json.text = .ok r
  violation : ∀ v : Violation, decodeText Violation.decoder v.json.text = .ok v
  search : ∀ p : Search.Params, decodeText Search.Params.decoder p.json.text = .ok p
  item : ∀ i : Search.Item, i.Dated → decodeText Search.Item.decoder i.json.text = .ok i
  found : ∀ r : Search.Response, r.Sound → decodeText Search.Response.decoder r.json.text = .ok r
  limits : ∀ l : Limits, decodeText Limits.decoder l.json.text = .ok l
  choice : ∀ c : NetBox.Choice, decodeText NetBox.Choice.decoder c.json.text = .ok c
  prefixRecord : ∀ r : NetBox.PrefixRecord, NetBox.Free r.customFields →
    decodeText NetBox.PrefixRecord.decoder r.json.text = .ok r
  tenant : ∀ t : NetBox.Tenant, NetBox.Free t.customFields →
    decodeText NetBox.Tenant.decoder t.json.text = .ok t

theorem roundTrips : RoundTrips where
  block p := p.spells.decodeText
  pool _ h := (Pool.spells h).decodeText
  account a := a.spells.decodeText
  entry e := e.spells.decodeText
  poolRequest r := r.spells.decodeText
  poolPatch p := p.spells.decodeText
  plan r := r.spells.decodeText
  report _ h := (Plan.Report.spells h).decodeText
  check r := r.spells.decodeText
  checked _ h := (Plan.CheckResponse.spells h).decodeText
  violation v := v.spells.decodeText
  search p := p.spells.decodeText
  item _ h := (Search.Item.spells h).decodeText
  found _ h := (Search.Response.spells h).decodeText
  limits l := l.spells.decodeText
  choice c := c.spells.decodeText
  prefixRecord _ h := (NetBox.PrefixRecord.spells h).decodeText
  tenant _ h := (NetBox.Tenant.spells h).decodeText

/-- A pool that was changed in a leap second, found by a search, and a record with nested fields. -/
theorem roundTrips_leapSecond :
    let leap : Instant := ⟨⟨9999, 12, 31, by decide⟩, 23, 59, 60, 120000, by decide, by decide,
      by decide, by decide⟩
    let pool : Pool := ⟨7, "caf\u00e9 \"\\\n", .ofAddress 0x0A000000 8 (by decide), .vpc, .active,
      some 18446744073709551615, .planner, "", .ofList [("b", "\u0000"), ("a", "")], .epoch, leap⟩
    let response : Search.Response := ⟨[.pool pool], 1, 1, 20⟩
    let record : NetBox.PrefixRecord := ⟨7, "10.0.0.0/8", .labeled "active", "", .object [
      ("a", .array [.object [("b", .number (.negative (-3)))], .null]), ("c", .bool true)], none,
      some "2024-02-29"⟩
    leap.text = "9999-12-31T23:59:60.000120Z" ∧ response.Sound ∧ NetBox.Free record.customFields ∧
      decodeText Search.Response.decoder response.json.text = .ok response ∧
      decodeText NetBox.PrefixRecord.decoder record.json.text = .ok record := by
  intro leap pool response record
  have hdated : pool.Dated := ⟨⟨by decide, by decide⟩, ⟨by decide, by decide⟩⟩
  have hsound : response.Sound :=
    ⟨by simpa [response, Search.Item.Dated] using hdated, by decide⟩
  have hfree : NetBox.Free record.customFields := by
    refine ⟨⟨by decide, ⟨⟨by decide, trivial, trivial⟩, trivial, trivial⟩, trivial, trivial⟩, ?_⟩
    simp [record, Value.Fits, Json.itemsFit, Json.fieldsFit, Json.maxDepth, Json.Number.IsWhole]
  exact ⟨by decide +kernel, hsound, hfree, roundTrips.found response hsound,
    roundTrips.prefixRecord record hfree⟩

end AddressPlan
