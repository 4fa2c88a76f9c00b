import Runbook.Fixture.FileTree
import Runbook.Fixture.Verdict

set_option autoImplicit false

namespace Runbook

structure FixtureFile where
  path : String
  content : Except String String

structure Suite where
  groups : Dict String (Dict String FixtureFile)

namespace Suite

def extension : String := ".test.scen"

def isFixtureName (name : String) : Bool := extension.toList.isSuffixOf name.toList

def fileName (path : String) : String := (FileTree.lastName? path).getD ""

def add (suite : Suite) (category name : String) (file : FixtureFile) : Suite :=
  ⟨suite.groups.insert category (((suite.groups.get? category).getD ∅).insert name file)⟩

def below (path : String) (names : List String) : String :=
  let separator := if path.isEmpty || path.toList.getLast? == some '/' then "" else "/"
  path ++ separator ++ Text.join "/" names

def addFile (path : String) (suite : Suite) (file : NamedFile) : Suite :=
  let name := file.names.getLastD ""
  if isFixtureName name then
    suite.add (Text.join "/" file.names.dropLast) name
      ⟨below path file.names, (Found.file file.bytes).readText⟩
  else suite

def load (disk : Disk) (path : String) : Suite :=
  match disk path with
  | .file bytes => Suite.add ⟨∅⟩ "" (fileName path) ⟨path, (Found.file bytes).readText⟩
  | .directory files => files.foldl (addFile path) ⟨∅⟩
  | .nothing _ => ⟨∅⟩

def isEmpty (suite : Suite) : Bool := suite.groups.values.all Dict.isEmpty

def within (category name : String) : Bool :=
  category == name || (name ++ "/").toList.isPrefixOf category.toList

def trimSlashes (name : String) : String :=
  String.ofList (Text.dropEnd (· == '/') (name.toList.dropWhile (· == '/')))

def retain (wanted : List String) (suite : Suite) : Suite :=
  if wanted.isEmpty then suite
  else ⟨suite.groups.filter fun category _ => wanted.any fun name => within category (trimSlashes name)⟩

def noneFound (path : String) : String :=
  "no " ++ extension ++ " files found in " ++ path ++ "\n"

def listing (suite : Suite) : String :=
  String.join (suite.groups.entries.map fun (category, files) =>
    (if category = "" then "." else category) ++ " (" ++ toString files.size ++ " fixture(s))\n")

def dropExtensions (name : List Char) : List Char :=
  if 0 < name.length ∧ extension.toList.isSuffixOf name then
    dropExtensions (name.take (name.length - extension.length))
  else name
termination_by name.length
decreasing_by
  have : extension.length = 10 := rfl
  simp
  omega

def label (file : FixtureFile) (verdict : Verdict) : String :=
  verdict.description?.getD (String.ofList (dropExtensions (fileName file.path).toList))

inductive Colour where
  | green
  | red
deriving DecidableEq

inductive Piece where
  | text (content : String)
  | style (colour? : Option Colour) (bold : Bool)
  | reset

def Piece.plain : Piece → String
  | .text content => content
  | .style _ _ | .reset => ""

def status (passed : Bool) : List Piece :=
  [.style (some (if passed then .green else .red)) false, .text (if passed then "PASS" else "FAIL"),
    .reset]

structure Judged where
  file : FixtureFile
  verdict : Verdict

def judge (file : FixtureFile) : Judged := ⟨file, Fixture.judge file.content⟩

def heading (category : String) : List Piece :=
  if category = "" then []
  else [.text "\n", .style none true, .text (category ++ "\n"), .reset]

def statusLine (judged : Judged) : List Piece :=
  .text "  " :: status judged.verdict.passed ++
    [.text ("  " ++ label judged.file judged.verdict ++ "\n")]

def failureLines (judged : Judged) : List Piece :=
  match judged.verdict.failure? with
  | none => []
  | some failure =>
    .text ("\n  --- " ++ judged.file.path ++ " ---\n") ::
      (Text.lines failure.message.toList).map fun line =>
        .text ("  " ++ String.ofList (Text.withoutLineEnd line) ++ "\n")

structure TestReport where
  pieces : List Piece
  passed : Bool

def run (suite : Suite) : TestReport :=
  -- Every fixture gets its line at once; the reasons of all failures follow together.
  let groups := suite.groups.entries.map fun (category, files) => (category, files.values.map judge)
  let judged := groups.flatMap Prod.snd
  let failed := judged.filter (!·.verdict.passed)
  { pieces :=
      groups.flatMap (fun (category, judged) => heading category ++ judged.flatMap statusLine) ++
        failed.flatMap failureLines ++
        [.text "\n", .text "test result: "] ++ status failed.isEmpty ++
        [.text (". " ++ toString (judged.length - failed.length) ++ " passed, " ++
          toString failed.length ++ " failed\n")]
    passed := failed.isEmpty }

end Suite

end Runbook
