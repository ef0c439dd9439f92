import AddressPlan.Engine.Plans
import AddressPlan.Proofs.Plan.WellFormed
import AddressPlan.Proofs.Prefix.Literal
import AddressPlan.Proofs.Text.Trim
/-!
# Drafts that validation lets through

Validation leaves its own results alone: an accepted name is accepted as it is, and an accepted
block is read back from its text. So a draft, written out as a request, is the draft that this
request stands for.
-/
namespace AddressPlan

/-- A draft that validation lets through, of a single request or of a step of a plan. -/
inductive PoolDraft.Produced (limits : Limits) : PoolDraft → Prop
  | request {request : PoolRequest} {draft : PoolDraft}
      (hvalid : request.validate limits = .ok draft) : Produced limits draft
  | step {plan : Plan.Request} {steps : List Plan.Step} {step : Plan.Step}
      (hsteps : plan.steps limits = .ok steps) (hstep : step ∈ steps) (status : PoolStatus)
      (kind : PoolKind) (parent : Option PoolId) :
      Produced limits (Engine.stepDraft plan status kind parent step)

section Fields

variable {limits : Limits}

theorem validName_eq_ok_iff {raw name : String} : validName limits raw = .ok name ↔
    name = Text.trim raw ∧ name ≠ "" ∧ name.length ≤ limits.maxNameLength.toNat ∧
      ∀ c ∈ name.toList, Text.isControl c = false := by
  simp only [validName]
  constructor
  · intro h
    split_ifs at h with hempty hlong hcontrol
    obtain rfl := Except.ok.inj h
    exact ⟨rfl, by simpa using hempty, Nat.le_of_not_lt hlong, by simpa using hcontrol⟩
  · rintro ⟨rfl, hempty, hlength, hcontrol⟩
    rw [if_neg (by simpa using hempty), if_neg (Nat.not_lt.mpr hlength),
      if_neg (by simpa using hcontrol)]

theorem validName_of_validName {raw name : String} (h : validName limits raw = .ok name) :
    validName limits name = .ok name := by
  obtain ⟨rfl, hrest⟩ := validName_eq_ok_iff.mp h
  exact validName_eq_ok_iff.mpr ⟨(Text.trim_trim raw).symm, hrest⟩

theorem validCidr_eq_ok_iff {text : String} {p : Prefix} : validCidr limits text = .ok p ↔
    Prefix.parse text = .ok p ∧ limits.minPrefixLength.toNat ≤ p.length ∧
      p.length ≤ limits.maxPrefixLength.toNat := by
  unfold validCidr
  cases Prefix.parse text with
  | error cause => simp
  | ok q =>
    dsimp only
    split_ifs with hrange
    · refine iff_of_false (by simp) ?_
      rintro ⟨hq, hmin, hmax⟩
      cases hq
      omega
    · rw [Except.ok.injEq, Except.ok.injEq]
      constructor
      · rintro rfl
        exact ⟨rfl, by omega⟩
      · exact And.left

theorem validCidr_of_validCidr {text : String} {p : Prefix} (h : validCidr limits text = .ok p) :
    validCidr limits p.text = .ok p :=
  validCidr_eq_ok_iff.mpr ⟨p.parse_text, (validCidr_eq_ok_iff.mp h).2⟩

private theorem readGiven_kind (kind : PoolKind) :
    readGiven PoolKind.read (some kind.name) = .ok (some kind) := by
  cases kind <;> decide +kernel

private theorem readGiven_status (status : PoolStatus) :
    readGiven PoolStatus.read (some status.name) = .ok (some status) := by
  cases status <;> decide +kernel

private theorem readGiven_source (source : PoolSource) :
    readGiven PoolSource.read (some source.name) = .ok (some source) := by
  cases source <;> decide +kernel

private theorem nonBlank?_of_validName {raw name : String} (h : validName limits raw = .ok name) :
    Text.nonBlank? name = some name := by
  obtain ⟨rfl, hne, -⟩ := validName_eq_ok_iff.mp h
  exact Text.nonBlank?_eq_some_iff.mpr ⟨(Text.trim_trim raw).symm, hne⟩

end Fields

section Drafts

variable {limits : Limits} {draft : PoolDraft}

def PoolDraft.asRequest (draft : PoolDraft) : PoolRequest where
  name := draft.name
  cidr := draft.cidr.text
  kind := some draft.kind.name
  status := some draft.status.name
  parent := draft.parent
  source := some draft.source.name
  description := some draft.description
  tags := draft.tags

theorem PoolDraft.validate_asRequest (hname : validName limits draft.name = .ok draft.name)
    (hcidr : validCidr limits draft.cidr.text = .ok draft.cidr) :
    draft.asRequest.validate limits = .ok draft := by
  rw [PoolRequest.validate]
  simp only [asRequest, hname, hcidr, readGiven_kind, readGiven_status, readGiven_source]
  rfl

private theorem valid_of_validate {request : PoolRequest}
    (h : request.validate limits = .ok draft) :
    validName limits request.name = .ok draft.name ∧
      validCidr limits request.cidr = .ok draft.cidr := by
  obtain ⟨name, hname, h⟩ := bind_eq_ok.mp h
  obtain ⟨cidr, hcidr, h⟩ := bind_eq_ok.mp h
  obtain ⟨kind, -, h⟩ := bind_eq_ok.mp h
  obtain ⟨status, -, h⟩ := bind_eq_ok.mp h
  obtain ⟨source, -, h⟩ := bind_eq_ok.mp h
  cases h
  exact ⟨hname, hcidr⟩

theorem PoolDraft.Produced.exists_valid (h : draft.Produced limits) :
    (∃ text, validName limits text = .ok draft.name) ∧
      ∃ text, validCidr limits text = .ok draft.cidr := by
  cases h with
  | request hvalid =>
    obtain ⟨hname, hcidr⟩ := valid_of_validate hvalid
    exact ⟨⟨_, hname⟩, ⟨_, hcidr⟩⟩
  | step hsteps hstep status kind parent =>
    obtain ⟨i, hi⟩ := List.mem_iff_getElem?.mp hstep
    obtain ⟨e, -, hstands⟩ :=
      Plan.exists_of_forall₂_right (Plan.valid_of_steps hsteps).stands hi
    exact ⟨⟨_, hstands.name⟩, ⟨_, hstands.cidr⟩⟩

theorem PoolDraft.Produced.nonBlank?_name (h : draft.Produced limits) :
    Text.nonBlank? draft.name = some draft.name := by
  obtain ⟨⟨text, hname⟩, -⟩ := h.exists_valid
  exact nonBlank?_of_validName hname

end Drafts
end AddressPlan
