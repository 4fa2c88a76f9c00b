import Runbook.Command.Program
import Runbook.Proofs.Dict
import Runbook.Proofs.Text.Lines

set_option autoImplicit false

namespace Runbook

namespace Suite

structure IsName (name : String) : Prop where
  nonempty : name ≠ ""
  other : name ≠ "."
  unslashed : '/' ∉ name.toList

def IsCategory (category : String) : Prop :=
  ∃ names, (∀ name ∈ names, IsName name) ∧ category = Text.join "/" names

theorem IsName.exists_cons {name : String} (isName : IsName name) :
    ∃ c rest, name.toList = c :: rest ∧ c ≠ '/' ∧ (c = '.' → rest ≠ []) ∧ '/' ∉ rest := by
  cases chars : name.toList with
  | nil => exact absurd (String.toList_inj.mp chars) isName.nonempty
  | cons c rest =>
    have unslashed := isName.unslashed
    rw [chars, List.mem_cons, not_or] at unslashed
    refine ⟨c, rest, rfl, Ne.symm unslashed.1, ?_, unslashed.2⟩
    rintro rfl rfl
    exact isName.other (String.toList_inj.mp chars)

theorem toList_join_cons (first : String) (rest : List String) :
    (Text.join "/" (first :: rest)).toList =
      first.toList ++ if rest = [] then [] else '/' :: (Text.join "/" rest).toList := by
  cases rest with
  | nil => simp [Text.join]
  | cons second rest => simp [Text.join]

theorem exists_last_of_join {names : List String} (named : ∀ name ∈ names, IsName name)
    (nonempty : names ≠ []) :
    ∃ front last, (Text.join "/" names).toList = front ++ [last] ∧ last ≠ '/' := by
  induction names with
  | nil => exact absurd rfl nonempty
  | cons first rest ih =>
    obtain ⟨here, later⟩ := List.forall_mem_cons.mp named
    rw [toList_join_cons]
    by_cases single : rest = []
    next =>
      have filled : first.toList ≠ [] := by
        simpa using here.nonempty
      refine ⟨first.toList.dropLast, first.toList.getLast filled, ?_, ?_⟩
      next => simpa [single] using (List.dropLast_concat_getLast filled).symm
      next =>
        intro slash
        exact here.unslashed (slash ▸ List.getLast_mem filled)
    next =>
      obtain ⟨front, last, shape, unslashed⟩ := ih later single
      refine ⟨first.toList ++ '/' :: front, last, ?_, unslashed⟩
      simp [single, shape]

theorem IsCategory.trimSlashes_eq {category : String} (isCategory : IsCategory category) :
    trimSlashes category = category := by
  obtain ⟨names, named, rfl⟩ := isCategory
  cases names with
  | nil => rfl
  | cons first rest =>
    obtain ⟨c, others, chars, unslashed, -⟩ := (named first List.mem_cons_self).exists_cons
    obtain ⟨front, last, ends, closed⟩ := exists_last_of_join named (List.cons_ne_nil first rest)
    have kept : Text.dropEnd (· == '/') (front ++ [last]) = front ++ [last] :=
      List.rdropWhile_concat_neg _ _ _ (by simpa using closed)
    have started : (Text.join "/" (first :: rest)).toList.dropWhile (· == '/') =
        (Text.join "/" (first :: rest)).toList := by
      rw [toList_join_cons, chars, List.cons_append]
      exact List.dropWhile_cons_of_neg (by simpa using unslashed)
    rw [trimSlashes, started, ends, kept, ← ends, String.ofList_toList]

theorem IsCategory.within_dot {category : String} (isCategory : IsCategory category) :
    within category "." = false := by
  obtain ⟨names, named, rfl⟩ := isCategory
  cases names with
  | nil => rfl
  | cons first rest =>
    obtain ⟨c, others, chars, -, longer, unslashed⟩ :=
      (named first List.mem_cons_self).exists_cons
    have shape := toList_join_cons first rest
    rw [chars, List.cons_append] at shape
    have apart : Text.join "/" (first :: rest) ≠ "." := by
      intro same
      rw [same] at shape
      obtain ⟨rfl, ends⟩ := List.cons.inj shape
      exact longer rfl (List.append_eq_nil_iff.mp ends.symm).1
    have outside : ['.', '/'].isPrefixOf (Text.join "/" (first :: rest)).toList = false := by
      rw [Bool.eq_false_iff, ne_eq, List.isPrefixOf_iff_prefix, shape, List.cons_prefix_cons]
      rintro ⟨rfl, slash⟩
      cases others with
      | nil => exact longer rfl rfl
      | cons d more =>
        obtain ⟨rfl, -⟩ := List.cons_prefix_cons.mp slash
        exact unslashed List.mem_cons_self
    simpa [within, apart] using outside

def Arranged (suite : Suite) : Prop :=
  ∀ category files, suite.groups.get? category = some files →
    files.entries ≠ [] ∧ IsCategory category

theorem arranged_empty : Arranged ⟨∅⟩ := fun _ _ found => by cases found

theorem add_arranged {suite : Suite} (arranged : suite.Arranged) {category : String}
    (isCategory : IsCategory category) (name : String) (file : FixtureFile) :
    (suite.add category name file).Arranged := by
  intro other files found
  by_cases same : other = category
  next =>
    subst same
    rw [add, Dict.get?_insert_self] at found
    obtain rfl := Option.some.inj found
    have member := Dict.mem_entries_iff.mpr
      (Dict.get?_insert_self ((suite.groups.get? other).getD ∅) name file)
    exact ⟨List.ne_nil_of_mem member, isCategory⟩
  next =>
    rw [add, Dict.get?_insert_of_ne _ _ same] at found
    exact arranged other files found

theorem addFile_arranged {suite : Suite} (arranged : suite.Arranged) (path : String)
    {file : NamedFile} (named : ∀ name ∈ file.names, IsName name) :
    (suite.addFile path file).Arranged := by
  simp only [addFile]
  split
  next =>
    have ways : ∀ name ∈ file.names.dropLast, IsName name :=
      fun name member => named name (List.dropLast_subset _ member)
    exact add_arranged arranged ⟨file.names.dropLast, ways, rfl⟩ _ _
  next => exact arranged

theorem load_arranged {disk : Disk} {path : String}
    (named : ∀ files, disk path = .directory files →
      ∀ file ∈ files, ∀ name ∈ file.names, IsName name) :
    (load disk path).Arranged := by
  unfold load
  split
  next => exact add_arranged arranged_empty ⟨[], by simp, rfl⟩ _ _
  next files found =>
    have added : ∀ suite : Suite, suite.Arranged → (files.foldl (addFile path) suite).Arranged := by
      have each := named files found
      clear named found
      induction files with
      | nil => exact fun _ arranged => arranged
      | cons file rest ih =>
        obtain ⟨here, later⟩ := List.forall_mem_cons.mp each
        exact fun suite arranged => ih later _ (addFile_arranged arranged path here)
    exact added _ arranged_empty
  next => exact arranged_empty

def shown (category : String) : String := if category = "" then "." else category

def listedLine (category : String) (files : Dict String FixtureFile) : String :=
  shown category ++ " (" ++ toString files.size ++ " fixture(s))\n"

theorem listing_of_mem {suite : Suite} {category : String} {files : Dict String FixtureFile}
    (found : suite.groups.get? category = some files) :
    ∃ before after, suite.listing = before ++ listedLine category files ++ after := by
  have listed : suite.listing =
      String.join (suite.groups.entries.map fun entry => listedLine entry.1 entry.2) := rfl
  have joined := Text.exists_of_join_map
    (fun entry : String × Dict String FixtureFile => listedLine entry.1 entry.2)
    (Dict.mem_entries_iff.mpr found)
  rwa [listed]

theorem get?_retain (suite : Suite) (category name : String) :
    (suite.retain [name]).groups.get? category =
      if within category (trimSlashes name) then suite.groups.get? category else none := by
  have kept : suite.retain [name] =
      ⟨suite.groups.filter fun category _ => [name].any fun name =>
        within category (trimSlashes name)⟩ := rfl
  rw [kept, Dict.get?_filter]
  cases suite.groups.get? category with
  | none => simp
  | some files => simp [Option.filter_some]

theorem isEmpty_of_get? {suite : Suite} {category : String} {files : Dict String FixtureFile}
    (found : suite.groups.get? category = some files) (filled : files.entries ≠ []) :
    suite.isEmpty = false := by
  rw [isEmpty, List.all_eq_false]
  exact ⟨files, List.mem_map_of_mem (Dict.mem_entries_iff.mpr found),
    by simpa [Dict.isEmpty] using filled⟩

theorem isEmpty_of_missing {suite : Suite}
    (missing : ∀ category, suite.groups.get? category = none) : suite.isEmpty = true := by
  rw [isEmpty, List.all_eq_true]
  intro files member
  obtain ⟨⟨category, files⟩, entry, rfl⟩ := List.mem_map.mp member
  have found := Dict.mem_entries_iff.mp entry
  rw [missing] at found
  cases found

theorem trimSlashes_shown {category : String} (isCategory : IsCategory category) :
    trimSlashes (shown category) = shown category := by
  unfold shown
  split
  next => rfl
  next => exact isCategory.trimSlashes_eq

section Loaded

variable {disk : Disk} {path : String}
  (named : ∀ files, disk path = .directory files →
    ∀ file ∈ files, ∀ name ∈ file.names, IsName name)

include named

theorem retain_dot : ((load disk path).retain ["."]).isEmpty = true := by
  refine isEmpty_of_missing fun category => ?_
  rw [get?_retain]
  split
  next inside =>
    cases found : (load disk path).groups.get? category with
    | none => rfl
    | some files =>
      obtain ⟨-, isCategory⟩ := load_arranged named category files found
      have dot : trimSlashes "." = "." := rfl
      rw [dot, isCategory.within_dot] at inside
      cases inside
  next => rfl

/-- A category of a suite is listed with the number of its fixtures. Selecting it by the name in the
listing keeps all of them, and they are run, unless it is the directory of the suite itself: the
name of that selects nothing, and testing it fails for want of fixtures. -/
theorem listed_selected {category : String} {files : Dict String FixtureFile}
    (found : (load disk path).groups.get? category = some files) (input : List UInt8) :
    let kept := (load disk path).retain [shown category]
    (∃ before after, Command.perform disk input (.test ⟨path, [], true⟩) =
      .success (before ++ listedLine category files ++ after) "") ∧
    (kept.isEmpty = false ∧ kept.groups.get? category = some files ↔ category ≠ "") ∧
    Command.perform disk input (.test ⟨path, [shown category], false⟩) =
      if category = "" then .failure "" (noneFound path)
      else ⟨if kept.run.passed then 0 else 1, "",
        String.join (kept.run.pieces.map Piece.plain)⟩ := by
  obtain ⟨filled, isCategory⟩ := load_arranged named category files found
  have present := isEmpty_of_get? found filled
  have selected : category ≠ "" →
      ((load disk path).retain [shown category]).groups.get? category = some files := by
    intro inner
    rw [get?_retain, trimSlashes_shown isCategory, shown, if_neg inner]
    simp [within, found]
  have dot : category = "" → ((load disk path).retain [shown category]).isEmpty = true := by
    rintro rfl
    exact retain_dot named
  refine ⟨?listed, ⟨fun kept root => ?_, fun inner => ?_⟩, ?tested⟩
  case listed =>
    obtain ⟨before, after, listing⟩ := listing_of_mem found
    refine ⟨before, after, ?_⟩
    rw [← listing]
    simp [Command.perform, Command.testCommand, present]
  next => simp [dot root] at kept
  next => exact ⟨isEmpty_of_get? (selected inner) filled, selected inner⟩
  case tested =>
    by_cases root : category = ""
    next =>
      have refused := dot root
      subst root
      simp [Command.perform, Command.testCommand, refused]
    next =>
      have kept := isEmpty_of_get? (selected root) filled
      simp only [Command.perform, Command.testCommand, kept, root, Bool.false_eq_true, if_false]
      split <;> rfl

end Loaded

def nestedDisk : Disk := fun _ =>
  .directory [⟨["root.test.scen"], []⟩, ⟨["network", "ipv6", "v6.test.scen"], []⟩]

theorem listed_selected_nested :
    let suite := load nestedDisk "suite"
    let kept := suite.retain ["network/ipv6"]
    ∃ files, suite.groups.get? "network/ipv6" = some files ∧ files.size = 1 ∧
      kept.isEmpty = false ∧ kept.groups.get? "network/ipv6" = some files := by
  have counted : ((load nestedDisk "suite").groups.get? "network/ipv6").map Dict.size =
      some 1 := by
    decide +kernel
  obtain ⟨files, found, one⟩ := Option.map_eq_some_iff.mp counted
  have named : ∀ files, nestedDisk "suite" = .directory files →
      ∀ file ∈ files, ∀ name ∈ file.names, IsName name := by
    rintro _ ⟨⟩
    simp only [List.forall_mem_cons]
    exact ⟨⟨⟨by decide, by decide, by decide⟩, by simp⟩,
      ⟨⟨by decide, by decide, by decide⟩, ⟨by decide, by decide, by decide⟩,
        ⟨by decide, by decide, by decide⟩, by simp⟩, by simp⟩
  have selected := (listed_selected named found []).2.1.mpr (by decide)
  exact ⟨files, found, one, selected⟩

def rootDisk : Disk := fun _ =>
  .directory [⟨["a.test.scen"], "---\n\n---\ncreate vpc\n".toUTF8.toList⟩]

theorem root_unselected :
    Command.perform rootDisk [] (.test ⟨"suite", [], true⟩) = .success ". (1 fixture(s))\n" "" ∧
      ((load rootDisk "suite").retain ["."]).isEmpty = true ∧
      Command.perform rootDisk [] (.test ⟨"suite", ["."], false⟩) =
        .failure "" "no .test.scen files found in suite\n" := by
  decide +kernel

end Suite

end Runbook
