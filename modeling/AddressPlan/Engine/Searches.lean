import AddressPlan.Search.Matches
import AddressPlan.Store.Script
/-!
# Searching a store

A search lists only what its query asks for.
-/
namespace AddressPlan.Engine
open Search (Params Response)

def search (limits : Limits) (params : Params) : Action Response := do
  let query ← Action.valid (params.query limits)
  let pools ← if query.wants .pool then Action.list else pure []
  let accounts ← if query.wantsAccounts then Action.accounts else pure []
  return Search.respond pools accounts query

def listAccounts : Action (List Account) :=
  Action.accounts

end AddressPlan.Engine
