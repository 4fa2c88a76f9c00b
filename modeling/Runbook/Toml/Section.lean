import Runbook.Dict
import Runbook.Toml.Basic

/-!
Tables under construction. A table may be opened by its own header, by headers and keys that lead
through it, or by a dotted key, and the way it was opened decides what may still be added to it.
-/

set_option autoImplicit false

namespace Runbook.Toml

inductive Opening where
  | header
  | throughHeader
  | dottedKey
deriving DecidableEq

inductive Node where
  | leaf (value : Toml)
  | table (opening : Opening) (members : List (String × Node))
  | tables (opening : Opening) (earlier : List (List (String × Node)))
      (latest : List (String × Node))

structure Section where
  opening : Opening
  members : List (String × Node)

namespace Section

def empty (opening : Opening) : Section := ⟨opening, []⟩

def isImplicit (opening : Opening) : Bool := opening != .header

def put (key : String) (node : Node) : List (String × Node) → List (String × Node)
  | [] => [(key, node)]
  | (name, old) :: rest =>
    if name = key then (key, node) :: rest else (name, old) :: put key node rest

def add (key : String) (value : Toml) (body : Section) : Option Section :=
  match Dict.find key body.members with
  | some _ => none
  | none => some { body with members := put key (.leaf value) body.members }

/-- Changes the table at the end of a path. Tables missing on the way are opened. Dotted keys do
not lead through tables with a header of their own; in an array of tables the way leads through
the latest. -/
def descend {α : Type} (dotted : Bool) (change : Section → Option (α × Section)) :
    List String → Section → Option (α × Section)
  | [], body => change body
  | key :: rest, body =>
    match Dict.find key body.members with
    | none => do
      let opening := if dotted then .dottedKey else .throughHeader
      let (result, inner) ← descend dotted change rest (empty opening)
      return (result,
        { body with members := put key (.table inner.opening inner.members) body.members })
    | some (.leaf _) => none
    | some (.table opening members) =>
      if dotted && !isImplicit opening then none
      else do
        let (result, inner) ← descend dotted change rest ⟨opening, members⟩
        return (result,
          { body with members := put key (.table inner.opening inner.members) body.members })
    | some (.tables opening earlier latest) => do
      let (result, inner) ← descend dotted change rest ⟨opening, latest⟩
      return (result,
        { body with
          members := put key (.tables inner.opening earlier inner.members) body.members })

def assign (path : List String) (value : Toml) (body : Section) : Option Section :=
  match path.reverse with
  | [] => none
  | key :: reversed =>
    let way := reversed.reverse
    let store (target : Section) : Option (Unit × Section) :=
      -- A dotted key must end in a table that dotted keys opened, a plain one must not.
      if (target.opening == .dottedKey) == way.isEmpty then none
      else (target.add key value).map ((), ·)
    (descend true store way body).map Prod.snd

end Section

mutual

def Node.toToml : Node → Toml
  | .leaf value => value
  | .table _ members => .table (membersToToml members)
  | .tables _ earlier latest => .array (tablesToToml earlier ++ [.table (membersToToml latest)])

def membersToToml : List (String × Node) → List (String × Toml)
  | [] => []
  | (key, node) :: rest => (key, node.toToml) :: membersToToml rest

def tablesToToml : List (List (String × Node)) → List Toml
  | [] => []
  | members :: rest => .table (membersToToml members) :: tablesToToml rest

end

def Section.toToml (body : Section) : Toml := .table (membersToToml body.members)

structure Document where
  root : Section
  current : Section
  path : List String
  inArray : Bool

namespace Document

def empty : Document := ⟨.empty .header, .empty .header, [], false⟩

def lastKey (path : List String) : String := path.getLastD ""

def finish (document : Document) : Option Section :=
  if document.path.isEmpty then some document.current
  else
    let key := lastKey document.path
    let current := document.current
    let place (parent : Section) : Option (Unit × Section) :=
      match document.inArray, Dict.find key parent.members with
      | false, none =>
        some ((),
          { parent with members := Section.put key (.table current.opening current.members) parent.members })
      | true, none =>
        some ((),
          { parent with
            members := Section.put key (.tables current.opening [] current.members) parent.members })
      | true, some (.tables _ earlier latest) =>
        some ((),
          { parent with
            members := Section.put key
              (.tables current.opening (earlier ++ [latest]) current.members) parent.members })
      | _, _ => none
    (Section.descend false place document.path.dropLast document.root).map Prod.snd

/-- Opens the table of a header. One that only led to other tables so far is gone on with. -/
def openTable (path : List String) (document : Document) : Option Document := do
  let root ← document.finish
  let key := lastKey path
  let take (parent : Section) : Option (Section × Section) :=
    match Dict.find key parent.members with
    | none => some (.empty .header, parent)
    -- The tables that were led to stay inside; the header is now the table's own.
    | some (.table .throughHeader members) =>
      some (⟨.header, members⟩,
        { parent with members := parent.members.filter fun member => member.1 != key })
    | some _ => none
  let (current, root) ← Section.descend false take path.dropLast root
  return ⟨root, current, path, false⟩

def openElement (path : List String) (document : Document) : Option Document := do
  let root ← document.finish
  let key := lastKey path
  let check (parent : Section) : Option (Unit × Section) :=
    match Dict.find key parent.members with
    | none | some (.tables _ _ _) => some ((), parent)
    | some _ => none
  let (_, root) ← Section.descend false check path.dropLast root
  return ⟨root, .empty .header, path, true⟩

def assign (path : List String) (value : Toml) (document : Document) : Option Document :=
  (document.current.assign path value).map fun current => { document with current := current }

end Document

end Runbook.Toml
