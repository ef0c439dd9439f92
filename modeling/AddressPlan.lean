import AddressPlan.Http.Service
import AddressPlan.NetBox.Store
import AddressPlan.NetBox.Wire
import AddressPlan.Proofs.Engine.PlanGate
import AddressPlan.Proofs.Engine.Report
import AddressPlan.Proofs.Http.NoTrace
import AddressPlan.Proofs.Runs.Compliance
import AddressPlan.Proofs.Runs.Nesting
import AddressPlan.Settings.Service
import AddressPlan.Store.Session
import AddressPlan.Proofs.Ancestry.Candidates
import AddressPlan.Proofs.Engine.ExactGate
import AddressPlan.Proofs.Plan.WellFormed
import AddressPlan.Proofs.Engine.DryRun
import AddressPlan.Proofs.NetBox.Simulation
import AddressPlan.Proofs.Search.Meaning
import AddressPlan.Proofs.NetBox.Patches
import AddressPlan.Proofs.NetBox.NameCheck
import AddressPlan.Proofs.NetBox.Lookup
import AddressPlan.Proofs.Runs.Races
import AddressPlan.Proofs.Ancestry.Pairs
import AddressPlan.Proofs.Ancestry.Conflicts
import AddressPlan.Proofs.Prefix.Tiling
import AddressPlan.Proofs.Prefix.Literal
import AddressPlan.Proofs.Runs.Normal
import AddressPlan.Proofs.Runs.Repeats
import AddressPlan.Proofs.Format.RoundTrip
import AddressPlan.Proofs.Engine.Ancestors
import AddressPlan.Proofs.Search.Occurrences
import AddressPlan.Proofs.Search.Pages
