import AddressPlan.Format.Basic
import AddressPlan.Settings.Disk
import AddressPlan.Settings.File
import AddressPlan.Settings.SocketAddress
/-!
# Settings of the service

Where the service listens, where pools are kept, and the limits. All is read from variables; the
limits may also stand in a file that a variable names, and variables win over the file.
-/
namespace AddressPlan
open Json (Value)

/-- Where pools are kept. -/
inductive Backing
  | memory
  | netBox (address key : String)
deriving DecidableEq

structure Settings where
  listen : SocketAddress
  backing : Backing
  limits : Limits
deriving DecidableEq

inductive SettingsError
  | badAddress
  | unknownBacking (label : String)
  | missing (key : String)
  | noFile (cause : FileError)
  | badFile
  | badLimits (cause : Invalid)
deriving DecidableEq

namespace SettingsError

def name : SettingsError → String
  | noFile _ => "io"
  | _ => "invalid_config"

def text : SettingsError → String
  | badAddress => "IPAM_LISTEN_ADDR: invalid socket address syntax"
  | unknownBacking label => "IPAM_STORE must be 'memory' or 'netbox', got '" ++ label ++ "'"
  | missing key => key ++ " environment variable is required when IPAM_STORE=netbox"
  | noFile cause => cause.text
  | badFile => ""
  | badLimits cause => (Refusal.invalid cause).message

def message : SettingsError → String
  | noFile cause => "IO error: " ++ cause.text
  | e => "Invalid configuration: " ++ e.text

def json (e : SettingsError) : Value :=
  .object [("error", .string e.name), ("message", .string e.message)]

end SettingsError

namespace Backing

private def needed (lookup : String → Option String) (key : String) : Except SettingsError String :=
  match (lookup key).filter fun value => (Text.nonBlank? value).isSome with
  | some value => .ok value
  | none => .error (.missing key)

def read (lookup : String → Option String) : Except SettingsError Backing := do
  let label := Text.trim ((lookup "IPAM_STORE").getD "")
  if label = "" ∨ label = "memory" then return memory
  else if label = "netbox" then
    return netBox (← needed lookup "NETBOX_URL") (← needed lookup "NETBOX_TOKEN")
  else throw (.unknownBacking label)

def json : Backing → Value
  | memory => .string "memory"
  | netBox address key => .object [("url", .string address), ("token", .string key)]

end Backing

namespace Settings

def standardListen : String := "0.0.0.0:8080"

/-- The limits that the file of settings spells; without one, the standard ones. -/
private def baseLimits (lookup : String → Option String) (disk : Disk) :
    Except SettingsError Limits :=
  match lookup "IPAM_CONFIG_FILE" with
  | none => .ok .standard
  | some path =>
    match disk.read path with
    | .error cause => .error (.noFile cause)
    | .ok text =>
      match Limits.ofFile? text with
      | some limits => .ok limits
      | none => .error .badFile

def read (lookup : String → Option String) (disk : Disk) : Except SettingsError Settings := do
  match SocketAddress.parse? ((lookup "IPAM_LISTEN_ADDR").getD standardListen) with
  | none => throw .badAddress
  | some listen =>
    let backing ← Backing.read lookup
    let base ← baseLimits lookup disk
    let limits ← (base.override lookup).mapError .badLimits
    return { listen := listen, backing := backing, limits := limits }

def json (s : Settings) : Value := .object [
  ("listen_addr", .string s.listen.text),
  ("store", s.backing.json),
  ("ipam", s.limits.json)]

end Settings
end AddressPlan
