import Runbook.Text.Utf8

set_option autoImplicit false

namespace Runbook

structure NamedFile where
  names : List String
  bytes : List UInt8

inductive Absence where
  | missing
  | blocked
  | tooLong
  | zeroByte
deriving DecidableEq

def Absence.message : Absence → String
  | .missing => "No such file or directory (os error 2)"
  | .blocked => "Not a directory (os error 20)"
  | .tooLong => "File name too long (os error 36)"
  | .zeroByte => "file name contained an unexpected NUL byte"

inductive Found where
  | file (bytes : List UInt8)
  | directory (files : List NamedFile)
  | nothing (absence : Absence)

abbrev Disk := String → Found

namespace Found

def readText : Found → Except String String
  | .nothing absence => .error absence.message
  | .directory _ => .error "Is a directory (os error 21)"
  | .file bytes =>
    match Text.decode? bytes with
    | some text => .ok text
    | none => .error Text.notUtf8

end Found

structure FileTree where
  directories : List (List String)
  files : List NamedFile

namespace FileTree

def empty : FileTree := ⟨[], []⟩

def nameLimit : Nat := 255

def pathLimit : Nat := 4095

/-- What a path leads to. Directories are named from the working directory on; those above it are
named by `..`, and the root of all files by a slash. -/
inductive Spot where
  | file (bytes : List UInt8)
  | directory (names : List String)
  | nothing (absence : Absence)

/-- The names of a path, with an empty one in front of a leading slash and behind a trailing. -/
def split (path : String) : List String := (path.toList.splitOn '/').map String.ofList

def isSelf (name : String) : Bool := name == "" || name == "."

def lastName? (path : String) : Option String :=
  ((split path).filter (!isSelf ·)).getLast?.filter (· != "..")

def look (tree : FileTree) (names : List String) : Spot :=
  match tree.files.find? (·.names == names) with
  | some file => .file file.bytes
  | none => if tree.directories.contains names then .directory names else .nothing .missing

def parent (names : List String) : List String :=
  match names.getLast? with
  | none | some ".." => names ++ [".."]
  | some "/" => names
  | some _ => names.dropLast

def enter (tree : FileTree) (names : List String) (name : String) : Spot :=
  if isSelf name then .directory names
  else if name = ".." then .directory (parent names)
  else if nameLimit < name.utf8ByteSize then .nothing .tooLong
  else tree.look (names ++ [name])

def walk (tree : FileTree) : (spot : Spot) → List String → Spot
  | spot, [] => spot
  | .directory names, name :: rest => walk tree (tree.enter names name) rest
  -- Even an empty name, as behind a trailing slash, asks for a directory.
  | .file _, _ :: _ => .nothing .blocked
  | .nothing absence, _ :: _ => .nothing absence

def start (path : String) : List String := if path.toList.head? = some '/' then ["/"] else []

def follow (tree : FileTree) (path : String) (names : List String) : Spot :=
  tree.walk (.directory (start path)) names

def below (tree : FileTree) (names : List String) : List NamedFile :=
  tree.files.filterMap fun file =>
    if names.isPrefixOf file.names then some ⟨file.names.drop names.length, file.bytes⟩ else none

def disk (tree : FileTree) : Disk := fun path =>
  if path.toList.contains '\x00' then .nothing .zeroByte
  else if pathLimit < path.utf8ByteSize then .nothing .tooLong
  else
    match tree.follow path (split path) with
    | .file bytes => .file bytes
    | .directory names => .directory (tree.below names)
    | .nothing absence => .nothing absence

def put (file : NamedFile) (tree : FileTree) : FileTree :=
  { tree with files := tree.files.filter (·.names != file.names) ++ [file] }

/-- Writes a file, for which its directory must be there already. What cannot be written is left
out. -/
def write (path : String) (bytes : List UInt8) (tree : FileTree) : FileTree :=
  let names := split path
  let name := names.getLastD ""
  match tree.disk path, tree.follow path names.dropLast with
  | .nothing .missing, .directory way | .file _, .directory way =>
    if isSelf name then tree else tree.put ⟨way ++ [name], bytes⟩
  | _, _ => tree

def makeWay (tree : FileTree) (directory : List String) : List String → FileTree
  | [] => tree
  | name :: rest =>
    match tree.enter directory name with
    | .directory next => makeWay tree next rest
    | .nothing .missing =>
      let next := directory ++ [name]
      makeWay { tree with directories := next :: tree.directories } next rest
    | _ => tree

def place (path : String) (bytes : List UInt8) (tree : FileTree) : FileTree :=
  let way := ((split path).filter (!isSelf ·)).dropLast
  (tree.makeWay (start path) way).write path bytes

def ofPaths (files : List (String × List UInt8)) : FileTree :=
  files.foldl (fun tree file => tree.place file.1 file.2) empty

end FileTree

end Runbook
