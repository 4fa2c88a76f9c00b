import Runbook.Command.Program
import Runbook.Fixture.Directory

set_option autoImplicit false

open Runbook Runbook.Command

def Runbook.Command.Request.paths : Request → List String
  | .run arguments => arguments.file :: arguments.values?.toList
  | .check file | .ast file _ => [file]
  | .holes file values? => file :: values?.toList
  | .createInstance => []
  | .test arguments => [arguments.path]

def Runbook.Command.Request.readsInput : Request → Bool
  | .run arguments => arguments.interactive
  | .createInstance => true
  | _ => false

partial def readDirectory (directory : String) (names : List String) :
    IO (Option (List Entry)) := do
  let base := (← IO.currentDir) / directory
  let place := names.foldl (fun place name => place / name) base
  let found? ← try pure (some (← place.readDir)) catch _ => pure none
  match found? with
  | none => return none
  | some found =>
    let entries ← found.toList.mapM fun entry => do
      if ← entry.path.isDir then
        return Entry.directory entry.fileName
          (← readDirectory directory (names ++ [entry.fileName]))
      else
        let bytes ← try IO.FS.readBinFile entry.path catch _ => pure .empty
        return Entry.file entry.fileName bytes.toList
    return some entries

def absenceOf (path : String) : IO.Error → Absence
  | .inappropriateType .. => .blocked
  | .invalidArgument .. => if path.toList.contains '\x00' then .zeroByte else .tooLong
  | _ => .missing

def findPath (path : String) : IO Found := do
  let place := (← IO.currentDir) / path
  if ← place.isDir then return .directory (Entry.files (← readDirectory path []))
  else
    try return .file (← IO.FS.readBinFile place).toList
    catch error => return .nothing (absenceOf path error)

def main (arguments : List String) : IO UInt32 := do
  let request? := (Request.ofArguments arguments).toOption
  let paths := (request?.map Request.paths).getD []
  let found ← paths.mapM fun path => return (path, ← findPath path)
  let input ←
    if (request?.map Request.readsInput).getD false then (← IO.getStdin).readBinToEnd
    else pure .empty
  let disk : Disk := fun path => (found.lookup path).getD (.nothing .missing)
  let output := respond disk input.toList arguments
  IO.print output.out
  IO.eprint output.err
  return output.status.toUInt32
