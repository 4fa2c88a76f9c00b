import Runbook.Toml.Read

set_option autoImplicit false

namespace Runbook.Toml

def momentKey : String := "$__toml_private_datetime"

def quotedMoment? : Toml → Option Toml
  | .text content => (dateTime? content.toList).map .dateTime
  | _ => none

mutual

/-- Settles a value and all that it holds. What comes after the moment in its table is passed
over; a table that starts with the reserved key and names no moment is refused. -/
def settle? : Toml → Option Toml
  | .array items => (settleItems? items).map .array
  | .table members =>
    match members.head? with
    | none => some (.table [])
    | some (key, value) =>
      if key = momentKey then quotedMoment? value else (settleMembers? members).map .table
  | plain => some plain

def settleItems? : List Toml → Option (List Toml)
  | [] => some []
  | item :: rest => do return (← settle? item) :: (← settleItems? rest)

def settleMembers? : List (String × Toml) → Option (List (String × Toml))
  | [] => some []
  | (key, value) :: rest => do return Dict.put key (← settle? value) (← settleMembers? rest)

end

def settledOfChars? (chars : List Char) : Option (List (String × Toml)) :=
  (ofChars? chars).bind settleMembers?

end Runbook.Toml
