import Runbook.Script.Template
import Runbook.Toml.Basic

set_option autoImplicit false

namespace Runbook

/-- Scalars keep their kind; arrays, tables and moments become their written form. -/
def Toml.toValue : Toml → Value
  | .text content => .text content
  | .integer whole => .ofInt whole
  | .float n => .number n
  | .flag on => .flag on
  | other => .text other.toText

namespace Fills

def joinPath (path key : String) : String := if path.isEmpty then key else path ++ "." ++ key

mutual

def addNode (fills : Fills) (path : String) : Toml → Fills
  | .table members => addMembers fills path members
  | .text content => fills.insert path (Toml.toValue (.text content))
  | .integer whole => fills.insert path (Toml.toValue (.integer whole))
  | .float n => fills.insert path (Toml.toValue (.float n))
  | .flag on => fills.insert path (Toml.toValue (.flag on))
  | .dateTime moment => fills.insert path (Toml.toValue (.dateTime moment))
  | .array items => fills.insert path (Toml.toValue (.array items))

def addMembers (fills : Fills) (path : String) : List (String × Toml) → Fills
  | [] => fills
  | (key, value) :: rest => addMembers (addNode fills (joinPath path key) value) path rest

end

def ofTable (members : List (String × Toml)) : Fills := addMembers ∅ "" members

/-- Reads a setting. The key ends at the first equals sign and must not be blank. -/
def settingOf? (raw : String) : Option (String × Value) :=
  match raw.toList.dropWhile (· != '=') with
  | [] => none
  | _ :: value =>
    let key := Text.trimChars (raw.toList.takeWhile (· != '='))
    if key.isEmpty then none
    else some (String.ofList key, Value.ofChars (Text.trimChars value))

def badSettingMessage (raw : String) : String :=
  "invalid --set '" ++ raw ++ "': expected key=value"

end Fills

end Runbook
