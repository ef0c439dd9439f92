import AddressPlan.Proofs.Search.Meaning
import AddressPlan.Proofs.Text.Sigma
/-!
# Occurrences that a search finds

A search finds a text wherever it occurs in a name, letter case apart, as long as the same of its
sigmas end a word there. That is so of all texts without a capital sigma, and of every text that is
not a part of a longer word. A text whose last letter is a capital sigma can be missed in a word
that goes on.
-/
namespace AddressPlan.Search

variable {params : Params} {text field : String}

/-- A text occurs in a field letter by letter, and the same of its sigmas end a word there. -/
def OccursIn (text field : String) : Prop :=
  ∃ before occurrence after, field.toList = before ++ occurrence ++ after ∧
    Text.SameLetters occurrence text.toList ∧
    Text.finals before.reverse occurrence after = Text.finals [] text.toList []

/-- Letter by letter, a text without a capital sigma occurs wherever it is written without one. -/
theorem occursIn_of_notMem {before occurrence after : List Char}
    (hfield : field.toList = before ++ occurrence ++ after)
    (hsame : Text.SameLetters occurrence text.toList) (htext : 'Σ' ∉ text.toList)
    (hoccurrence : 'Σ' ∉ occurrence) : OccursIn text field := by
  refine ⟨before, occurrence, after, hfield, hsame, ?_⟩
  rw [Text.finals_of_notMem hoccurrence, Text.finals_of_notMem htext, hsame]

private theorem occursIn_of_apart {before after : List Char}
    (hfield : field.toList = before ++ text.toList ++ after)
    (hbefore : Text.casedNext before.reverse = false) (hafter : Text.casedNext after = false) :
    OccursIn text field :=
  ⟨before, text.toList, after, hfield, rfl, Text.finals_of_apart hbefore hafter text.toList⟩

private theorem mentions_of_occursIn (h : OccursIn text field) : Mentions text field := by
  obtain ⟨before, occurrence, after, hfield, hsame, hfinals⟩ := h
  have hlowered := (Text.lowerWithin_eq_iff hsame).mpr hfinals
  rw [Mentions, Text.lowercase, Text.lowercase, String.toList_ofList, String.toList_ofList,
    Text.lowerChars_eq, ← hlowered, hfield, Text.lowerChars, List.append_assoc,
    Text.lowerFrom_append, Text.lowerFrom_append, List.append_nil]
  exact ⟨_, _, List.append_assoc _ _ _⟩

/-- Nothing but a text is asked for. The numbers of the page may be any. -/
structure Params.AsksOnlyFor (params : Params) (text : String) : Prop where
  text : params.text.bind Text.nonBlank? = some text
  cidrContains : params.cidrContains.bind Text.nonBlank? = none
  cidrWithin : params.cidrWithin.bind Text.nonBlank? = none
  entity : params.entity.bind Text.nonBlank? = none

namespace Params.AsksOnlyFor

private theorem exists_query (h : params.AsksOnlyFor text) (limits : Limits) :
    ∃ q, params.query limits = .ok q := by
  have hcontains : readFilter "cidr_contains" params.cidrContains = .ok none := by
    rw [readFilter, h.cidrContains]
  have hwithin : readFilter "cidr_within" params.cidrWithin = .ok none := by
    rw [readFilter, h.cidrWithin]
  have hentity : readEntity params.entity = .ok none := by
    rw [readEntity, h.entity]
  refine ⟨_, bind_eq_ok.mpr ⟨_, hcontains, bind_eq_ok.mpr ⟨_, hwithin, bind_eq_ok.mpr
    ⟨_, hentity, if_neg ?_⟩⟩⟩⟩
  simp [h.text]

private theorem findsPool (h : params.AsksOnlyFor text) {pool : Pool}
    (hname : OccursIn text pool.name) :
    params.FindsPool pool := by
  constructor <;> rw [given_iff_nonBlank]
  · simp [h.entity]
  · intro t ht
    rw [h.text] at ht
    cases ht
    exact .inl (mentions_of_occursIn hname)
  · simp [h.cidrContains]
  · simp [h.cidrWithin]

private theorem findsAccount (h : params.AsksOnlyFor text) {account : Account}
    (hfield : OccursIn text account.name ∨ OccursIn text account.key) :
    params.FindsAccount account := by
  constructor <;> rw [given_iff_nonBlank]
  · simp [h.entity]
  · intro t ht
    rw [h.text] at ht
    cases ht
    exact hfield.imp mentions_of_occursIn mentions_of_occursIn
  · simp [h.cidrContains]
  · simp [h.cidrWithin]

end Params.AsksOnlyFor

private theorem mem_foundAmong_pool {pools : List Pool} {accounts : List Account} {pool : Pool} :
    .pool pool ∈ params.foundAmong pools accounts ↔ pool ∈ pools ∧ params.FindsPool pool := by
  simp [Params.foundAmong, (sortByKey_perm _ _).mem_iff]

private theorem mem_foundAmong_account {pools : List Pool} {accounts : List Account}
    {account : Account} :
    .account account ∈ params.foundAmong pools accounts ↔
      account ∈ accounts ∧ params.FindsAccount account := by
  simp [Params.foundAmong, (sortByKey_perm _ _).mem_iff]

/-- A search for a text alone is accepted, and finds every pool with the text in its name and every
account with the text in its name or its key. -/
theorem finds_occurrences (hasks : params.AsksOnlyFor text) (limits : Limits) :
    ∃ q, params.query limits = .ok q ∧ ∀ pools accounts,
      (∀ pool ∈ pools, OccursIn text pool.name →
        Item.pool pool ∈ matchingItems pools accounts q) ∧
      ∀ account ∈ accounts, OccursIn text account.name ∨ OccursIn text account.key →
        Item.account account ∈ matchingItems pools accounts q := by
  obtain ⟨q, hquery⟩ := hasks.exists_query limits
  refine ⟨q, hquery, fun pools accounts => ?_⟩
  rw [(Params.readAs_of_query hquery).matchingItems_eq_foundAmong pools accounts]
  constructor
  · intro pool hmem hname
    exact mem_foundAmong_pool.mpr ⟨hmem, hasks.findsPool hname⟩
  · intro account hmem hfield
    exact mem_foundAmong_account.mpr ⟨hmem, hasks.findsAccount hfield⟩

/-- A text in mixed letters that ends in a capital sigma, found where it is a word. -/
theorem finds_occurrences_word :
    let pool : Pool := ⟨3, "ΚΑΙ ΟΔΟΣ 5", .ofAddress 0x0A000000 16 (by decide), .subnet, .active,
      none, .manual, "", .empty, .epoch, .epoch⟩
    let account : Account := ⟨2, "οδΟΣ-7", "lab", "aws", none, ""⟩
    let params : Params := ⟨some " οδΟΣ", none, some " ", none, some 0, none⟩
    params.AsksOnlyFor "οδΟΣ" ∧ OccursIn "οδΟΣ" pool.name ∧ OccursIn "οδΟΣ" account.key ∧
    ∃ q, params.query .standard = .ok q ∧ Item.pool pool ∈ matchingItems [pool] [account] q ∧
      Item.account account ∈ matchingItems [pool] [account] q := by
  intro pool account params
  have hasks : params.AsksOnlyFor "οδΟΣ" := by
    constructor <;> decide +kernel
  have hname : OccursIn "οδΟΣ" pool.name :=
    ⟨"ΚΑΙ ".toList, "ΟΔΟΣ".toList, " 5".toList, by decide, by decide +kernel, by decide +kernel⟩
  have hcut : account.key.toList = [] ++ "οδΟΣ".toList ++ "-7".toList := by decide
  have hkey : OccursIn "οδΟΣ" account.key := occursIn_of_apart hcut rfl (by decide +kernel)
  obtain ⟨q, hquery, hfinds⟩ := finds_occurrences hasks .standard
  have hpools := (hfinds [pool] [account]).1
  have haccounts := (hfinds [pool] [account]).2
  exact ⟨hasks, hname, hkey, q, hquery, hpools pool List.mem_cons_self hname,
    haccounts account List.mem_cons_self (.inr hkey)⟩

/-- The first four letters of a word, as they are written there, are not found in it: as a text of
their own they end in a final sigma. -/
theorem missed_in_longer_word :
    let pool : Pool := ⟨1, "ΠΡΟΣΒΑΣΗ", .ofAddress 0x0A000000 16 (by decide), .subnet, .active,
      none, .manual, "", .empty, .epoch, .epoch⟩
    let params : Params := ⟨some "ΠΡΟΣ", none, none, none, none, none⟩
    params.AsksOnlyFor "ΠΡΟΣ" ∧ "ΠΡΟΣ".toList <+: pool.name.toList ∧
    ∃ q, params.query .standard = .ok q ∧ Item.pool pool ∉ matchingItems [pool] [] q := by
  intro pool params
  have hasks : params.AsksOnlyFor "ΠΡΟΣ" := by
    constructor <;> decide +kernel
  have hmissed : ¬params.FindsPool pool := by decide +kernel
  obtain ⟨q, hquery⟩ := hasks.exists_query .standard
  refine ⟨hasks, by decide, q, hquery, ?_⟩
  rw [(Params.readAs_of_query hquery).matchingItems_eq_foundAmong, mem_foundAmong_pool]
  exact fun hfound => hmissed hfound.2

end AddressPlan.Search
