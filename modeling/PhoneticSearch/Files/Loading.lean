import PhoneticSearch.Files.Basic
import PhoneticSearch.Json.Decoder

/-!
# Loading records

A record is loaded from a file of its own, or there is a fault that names the file.
-/

namespace PhoneticSearch

inductive LoadFault where
  | unreadable (path : String) (cause : ReadFault)
  /-- The file is no JSON text of the right shape. -/
  | invalid (path : String) (cause : Json.Fault)
deriving Repr, DecidableEq

def LoadFault.message : LoadFault → String
  | .unreadable path cause =>
    let reason := cause.message
    s!"unable to read '{path}': {reason}"
  | .invalid path _ => s!"invalid JSON in '{path}'"

def Files.load {α : Type} (files : Files) (decoder : Json.Decoder α) (path : String) :
    Except LoadFault α :=
  match files.readText path with
  | .error cause => .error (.unreadable path cause)
  | .ok text => (decoder.read text).mapError (.invalid path)

end PhoneticSearch
