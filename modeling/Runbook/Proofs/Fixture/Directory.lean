import Mathlib.Data.List.Nodup
import Runbook.Fixture.Directory
import Runbook.Proofs.Fixture.Category

set_option autoImplicit false

namespace Runbook

inductive Entry.Leads : List Entry → List String → List Entry → Prop where
  | here (entries : List Entry) : Leads entries [] entries
  | into {entries inner found : List Entry} {name : String} {names : List String}
      (member : Entry.directory name (some inner) ∈ entries) (below : Leads inner names found) :
      Leads entries (name :: names) found

namespace Entry

structure Sound (entries : List Entry) : Prop where
  named : ∀ names found, Leads entries names found → ∀ entry ∈ found, Suite.IsName entry.name
  distinct : ∀ names found, Leads entries names found → (found.map Entry.name).Nodup

theorem Sound.inner {entries inner : List Entry} {name : String} (sound : Sound entries)
    (member : directory name (some inner) ∈ entries) : Sound inner where
  named names found leads := sound.named (name :: names) found (.into member leads)
  distinct names found leads := sound.distinct (name :: names) found (.into member leads)

theorem file?_eq_some_iff {names : List String} {entry : Entry} {file : NamedFile} :
    entry.file? names = some file ↔
      ∃ name, entry = .file name file.bytes ∧ file.names = names ++ [name] := by
  obtain ⟨way, bytes⟩ := file
  cases entry <;> simp [file?, eq_comm, and_comm]

theorem pending?_eq_some_iff {names : List String} {entry : Entry} {place : Pending} :
    entry.pending? names = some place ↔
      ∃ name, entry = .directory name place.entries? ∧ place.names = names ++ [name] := by
  obtain ⟨way, entries?⟩ := place
  cases entry <;> simp [pending?, eq_comm, and_comm]

end Entry

namespace Pending

open Entry

def Holds (place : Pending) (file : NamedFile) : Prop :=
  ∃ entries names found name, place.entries? = some entries ∧ Leads entries names found ∧
    Entry.file name file.bytes ∈ found ∧ file.names = place.names ++ names ++ [name]

theorem mem_files_iff {names : List String} {entries : List Entry} {file : NamedFile} :
    file ∈ entries.filterMap (file? names) ↔
      ∃ name, Entry.file name file.bytes ∈ entries ∧ file.names = names ++ [name] := by
  simp only [List.mem_filterMap, file?_eq_some_iff]
  constructor
  next =>
    rintro ⟨_, member, name, rfl, shape⟩
    exact ⟨name, member, shape⟩
  next =>
    rintro ⟨name, member, shape⟩
    exact ⟨_, member, name, rfl, shape⟩

theorem mem_among_iff {names : List String} {entries : List Entry} {place : Pending} :
    place ∈ among names entries ↔ ∃ name, Entry.directory name place.entries? ∈ entries ∧
      place.names = names ++ [name] := by
  simp only [among, List.mem_filterMap, pending?_eq_some_iff]
  constructor
  next =>
    rintro ⟨_, member, name, rfl, shape⟩
    exact ⟨name, member, shape⟩
  next =>
    rintro ⟨name, member, shape⟩
    exact ⟨_, member, name, rfl, shape⟩

theorem holds_some_iff {names : List String} {entries : List Entry} {file : NamedFile} :
    Holds ⟨names, some entries⟩ file ↔ file ∈ entries.filterMap (file? names) ∨
      ∃ place ∈ among names entries, place.Holds file := by
  rw [mem_files_iff]
  constructor
  next =>
    rintro ⟨_, ways, found, name, ⟨⟩, leads, member, shape⟩
    cases leads with
    | here => exact .inl ⟨name, member, by simpa using shape⟩
    | @into _ inner _ first ways inside below =>
      refine .inr ⟨⟨names ++ [first], some inner⟩, mem_among_iff.mpr ⟨first, inside, rfl⟩, ?_⟩
      exact ⟨inner, ways, found, name, rfl, below, member, by simpa using shape⟩
  next =>
    rintro (⟨name, member, shape⟩ | ⟨⟨_, _⟩, inside, inner, ways, found, name, same, leads, member,
      shape⟩)
    · exact ⟨entries, [], entries, name, rfl, .here entries, member, by simpa using shape⟩
    · obtain ⟨first, listed, way⟩ := mem_among_iff.mp inside
      dsimp only at same way
      subst same way
      exact ⟨entries, first :: ways, found, name, rfl, .into listed leads, member,
        by simpa using shape⟩

theorem mem_walk_iff {pending : List Pending} {file : NamedFile} :
    file ∈ walk pending ↔ ∃ place ∈ pending, place.Holds file := by
  fun_induction walk pending with
  | case1 => simp
  | case2 names rest ih =>
    have closed : ¬ Holds ⟨names, none⟩ file := by
      rintro ⟨_, _, _, _, ⟨⟩, _⟩
    simp [ih, closed]
  | case3 names entries rest ih =>
    simp only [List.mem_append, ih, List.mem_reverse, List.exists_mem_cons_iff, holds_some_iff,
      or_and_right, exists_or, or_assoc]

def Apart (place other : Pending) : Prop :=
  ¬ place.names <+: other.names ∧ ¬ other.names <+: place.names

theorem Holds.prefix {place : Pending} {file : NamedFile} (holds : place.Holds file) :
    place.names <+: file.names ∧ place.names.length < file.names.length := by
  obtain ⟨entries, names, found, name, -, -, -, shape⟩ := holds
  rw [shape]
  exact ⟨⟨names ++ [name], by simp⟩, by simp only [List.length_append, List.length_singleton]; omega⟩

theorem Apart.names_ne {place other : Pending} (apart : place.Apart other) {file file' : NamedFile}
    (holds : place.Holds file) (holds' : other.Holds file') : file.names ≠ file'.names := by
  intro same
  rcases List.prefix_or_prefix_of_prefix holds.prefix.1 (same ▸ holds'.prefix.1) with inside | inside
  · exact apart.1 inside
  · exact apart.2 inside

theorem pairwise_apart_among {names : List String} {entries : List Entry}
    (distinct : (entries.map Entry.name).Nodup) : (among names entries).Pairwise Apart := by
  rw [among, List.pairwise_filterMap]
  refine (List.pairwise_map.mp distinct).imp fun differ place found place' found' => ?_
  obtain ⟨name, rfl, way⟩ := pending?_eq_some_iff.mp found
  obtain ⟨name', rfl, way'⟩ := pending?_eq_some_iff.mp found'
  have others : name ≠ name' := differ
  simp [Apart, way, way', List.prefix_append_right_inj, others, others.symm]

theorem nodup_files {names : List String} {entries : List Entry}
    (distinct : (entries.map Entry.name).Nodup) :
    ((entries.filterMap (file? names)).map NamedFile.names).Nodup := by
  rw [List.Nodup, List.pairwise_map, List.pairwise_filterMap]
  refine (List.pairwise_map.mp distinct).imp fun differ file found file' found' => ?_
  obtain ⟨name, rfl, way⟩ := file?_eq_some_iff.mp found
  obtain ⟨name', rfl, way'⟩ := file?_eq_some_iff.mp found'
  have others : name ≠ name' := differ
  simp [way, way', others]

theorem Apart.inner {names : List String} {entries? : Option (List Entry)} {entries : List Entry}
    {inner other : Pending} (apart : Apart ⟨names, entries?⟩ other)
    (inside : inner ∈ among names entries) : inner.Apart other := by
  obtain ⟨name, -, way⟩ := mem_among_iff.mp inside
  rw [Apart, way]
  constructor
  next => exact fun within => apart.1 ((List.prefix_append names [name]).trans within)
  next =>
    intro within
    rcases List.prefix_concat_iff.mp within with same | above
    · exact apart.1 (same ▸ List.prefix_append names [name])
    · exact apart.2 above

theorem own_names_ne {names : List String} {entries : List Entry} {place : Pending}
    {file other : NamedFile} (own : file ∈ entries.filterMap (file? names))
    (holds : place.Holds other)
    (elsewhere : place ∈ among names entries ∨ Apart ⟨names, some entries⟩ place) :
    file.names ≠ other.names := by
  intro same
  rcases elsewhere with below | apart
  · -- A file below another directory has at least one name more.
    obtain ⟨name, -, shape⟩ := mem_files_iff.mp own
    obtain ⟨first, -, way⟩ := mem_among_iff.mp below
    have longer := holds.prefix.2
    simp [← same, shape, way] at longer
  · exact apart.names_ne (holds_some_iff.mpr (.inl own)) holds same

theorem walk_nodup {pending : List Pending}
    (sound : ∀ place ∈ pending, ∀ entries, place.entries? = some entries → Sound entries)
    (apart : pending.Pairwise Apart) : ((walk pending).map NamedFile.names).Nodup := by
  fun_induction walk pending with
  | case1 => exact .nil
  | case2 names rest ih =>
    exact ih (fun place member => sound place (List.mem_cons_of_mem _ member)) apart.of_cons
  | case3 names entries rest ih =>
    obtain ⟨others, apart⟩ := List.pairwise_cons.mp apart
    have here : Sound entries := sound _ List.mem_cons_self entries rfl
    have siblings : (entries.map Entry.name).Nodup := here.distinct [] entries (.here entries)
    have next : ((walk ((among names entries).reverse ++ rest)).map NamedFile.names).Nodup := by
      refine ih ?_ ?_
      next =>
        intro place member inner same
        rcases List.mem_append.mp member with below | later
        · obtain ⟨name, listed, -⟩ := mem_among_iff.mp (List.mem_reverse.mp below)
          exact here.inner (same ▸ listed)
        · exact sound place (List.mem_cons_of_mem _ later) inner same
      next =>
        refine List.pairwise_append.mpr ⟨?_, apart, fun inner inside other later => ?_⟩
        · exact List.pairwise_reverse.mpr
            ((pairwise_apart_among siblings).imp fun {_ _} apart => apart.symm)
        · exact (others other later).inner (List.mem_reverse.mp inside)
    rw [List.map_append, List.nodup_append]
    refine ⟨nodup_files siblings, next, ?_⟩
    rintro _ listed _ walked rfl
    obtain ⟨file, own, rfl⟩ := List.mem_map.mp listed
    obtain ⟨other, found, same⟩ := List.mem_map.mp walked
    obtain ⟨place, member, holds⟩ := mem_walk_iff.mp found
    refine own_names_ne own holds ?_ same.symm
    rcases List.mem_append.mp member with below | later
    · exact .inl (List.mem_reverse.mp below)
    · exact .inr (others place later)

end Pending

namespace Entry

theorem Leads.named {entries found : List Entry} {names : List String}
    (leads : Leads entries names found) (sound : Sound entries) :
    ∀ name ∈ names, Suite.IsName name := by
  induction leads with
  | here => simp
  | @into entries inner found name names member below ih =>
    refine List.forall_mem_cons.mpr ⟨?_, ih (sound.inner member)⟩
    exact sound.named [] entries (.here entries) _ member

theorem mem_files_iff {entries : List Entry} {file : NamedFile} :
    file ∈ files (some entries) ↔ ∃ names found name, Leads entries names found ∧
      Entry.file name file.bytes ∈ found ∧ file.names = names ++ [name] := by
  simp [files, Pending.mem_walk_iff, Pending.Holds]

theorem nodup_names_files {entries : List Entry} (sound : Sound entries) :
    ((files (some entries)).map NamedFile.names).Nodup :=
  Pending.walk_nodup (by simp [sound]) (List.pairwise_singleton _ _)

theorem named_of_mem_files {entries : List Entry} (sound : Sound entries) {file : NamedFile}
    (member : file ∈ files (some entries)) : ∀ name ∈ file.names, Suite.IsName name := by
  obtain ⟨names, found, name, leads, inside, shape⟩ := mem_files_iff.mp member
  rw [shape]
  simp only [List.mem_append, List.mem_singleton, or_imp, forall_and, forall_eq]
  exact ⟨leads.named sound, sound.named names found leads _ inside⟩

end Entry

namespace Suite

theorem join_ne_empty {names : List String} (named : ∀ name ∈ names, IsName name)
    (nonempty : names ≠ []) : (Text.join "/" names).toList ≠ [] := by
  obtain ⟨front, last, shape, -⟩ := exists_last_of_join named nonempty
  simp [shape]

theorem join_inj {names names' : List String} (named : ∀ name ∈ names, IsName name)
    (named' : ∀ name ∈ names', IsName name)
    (same : (Text.join "/" names).toList = (Text.join "/" names').toList) : names = names' := by
  induction names generalizing names' with
  | nil =>
    by_contra other
    exact join_ne_empty named' (Ne.symm other) same.symm
  | cons first rest ih =>
    obtain ⟨here, later⟩ := List.forall_mem_cons.mp named
    cases names' with
    | nil => exact absurd same (join_ne_empty named (List.cons_ne_nil first rest))
    | cons first' rest' =>
      obtain ⟨here', later'⟩ := List.forall_mem_cons.mp named'
      rw [toList_join_cons, toList_join_cons] at same
      split at same <;> split at same
      next ended ended' =>
        rw [List.append_nil, List.append_nil, String.toList_inj] at same
        rw [same, ended, ended']
      next =>
        refine absurd ?_ here.unslashed
        rw [← List.append_nil first.toList, same]
        simp
      next =>
        refine absurd ?_ here'.unslashed
        rw [← List.append_nil first'.toList, ← same]
        simp
      next =>
        have front := congrArg (List.takeWhile (· != '/')) same
        rw [Text.takeWhile_bne here.unslashed, Text.takeWhile_bne here'.unslashed] at front
        rw [front, List.append_cancel_left_eq, List.cons.injEq] at same
        rw [String.toList_inj.mp front, ih later later' same.2]

def find? (suite : Suite) (category name : String) : Option FixtureFile :=
  (suite.groups.get? category).bind fun files => files.get? name

def fixture? (path category name : String) (file : NamedFile) : Option FixtureFile :=
  if isFixtureName name ∧ file.names.getLastD "" = name ∧
      Text.join "/" file.names.dropLast = category then
    some ⟨below path file.names, (Found.file file.bytes).readText⟩
  else none

theorem find?_add (suite : Suite) (category name : String) (file : FixtureFile)
    (other otherName : String) :
    (suite.add category name file).find? other otherName =
      if other = category ∧ otherName = name then some file else suite.find? other otherName := by
  unfold find? add
  by_cases same : other = category
  next =>
    subst same
    rw [Dict.get?_insert_self, Option.bind_some]
    by_cases same' : otherName = name
    next => simp [same', Dict.get?_insert_self]
    next =>
      rw [Dict.get?_insert_of_ne _ _ same', if_neg fun both => same' both.2]
      cases suite.groups.get? other <;> rfl
  next => rw [Dict.get?_insert_of_ne _ _ same, if_neg fun both => same both.1]

theorem find?_addFile (path : String) (suite : Suite) (file : NamedFile)
    (category name : String) :
    (suite.addFile path file).find? category name =
      (fixture? path category name file).or (suite.find? category name) := by
  unfold addFile fixture?
  dsimp only
  generalize file.names.getLastD "" = last, Text.join "/" file.names.dropLast = way
  by_cases fixture : isFixtureName last = true
  next =>
    rw [if_pos fixture, find?_add]
    by_cases same : category = way ∧ name = last
    next =>
      obtain ⟨rfl, rfl⟩ := same
      simp [fixture]
    next =>
      have other : ¬ (isFixtureName name = true ∧ last = name ∧ way = category) :=
        fun ⟨_, sameName, sameWay⟩ => same ⟨sameWay.symm, sameName.symm⟩
      rw [if_neg same, if_neg other, Option.none_or]
  next =>
    have other : ¬ (isFixtureName name = true ∧ last = name ∧ way = category) := by
      rintro ⟨named, rfl, -⟩
      exact fixture named
    rw [if_neg fixture, if_neg other, Option.none_or]

theorem find?_foldl_addFile (path : String) (files : List NamedFile) (suite : Suite)
    (category name : String) :
    (files.foldl (addFile path) suite).find? category name =
      (files.reverse.findSome? (fixture? path category name)).or (suite.find? category name) := by
  induction files generalizing suite with
  | nil => rfl
  | cons file rest ih =>
    rw [List.foldl_cons, ih, find?_addFile, List.reverse_cons, List.findSome?_append,
      Option.or_assoc]
    congr 2
    simp

theorem fixture?_eq_some_iff {path category name : String} {file : NamedFile}
    {fixture : FixtureFile} :
    fixture? path category name file = some fixture ↔ isFixtureName name = true ∧
      file.names.getLastD "" = name ∧ Text.join "/" file.names.dropLast = category ∧
      fixture = ⟨below path file.names, (Found.file file.bytes).readText⟩ := by
  unfold fixture?
  split <;> grind

theorem named_of_walked {disk : Disk} {path : String} {entries? : Option (List Entry)}
    (sound : ∀ entries, entries? = some entries → Entry.Sound entries)
    (walked : disk path = .directory (Entry.files entries?)) :
    ∀ files, disk path = .directory files → ∀ file ∈ files, ∀ name ∈ file.names, IsName name := by
  intro files found file member
  obtain rfl : Entry.files entries? = files := Found.directory.inj (walked.symm.trans found)
  cases entries? with
  | none => simp [Entry.files, Pending.walk] at member
  | some entries => exact Entry.named_of_mem_files (sound entries rfl) member

theorem eq_of_fixture? {entries : List Entry} (sound : Entry.Sound entries)
    {path category name : String} {file file' : NamedFile} {fixture fixture' : FixtureFile}
    (member : file ∈ Entry.files (some entries)) (member' : file' ∈ Entry.files (some entries))
    (here : fixture? path category name file = some fixture)
    (there : fixture? path category name file' = some fixture') : file = file' := by
  obtain ⟨-, last, way, -⟩ := fixture?_eq_some_iff.mp here
  obtain ⟨-, last', way', -⟩ := fixture?_eq_some_iff.mp there
  obtain ⟨names, _, own, leads, -, shape⟩ := Entry.mem_files_iff.mp member
  obtain ⟨names', _, own', leads', -, shape'⟩ := Entry.mem_files_iff.mp member'
  simp only [shape, shape', List.getLastD_concat, List.dropLast_concat] at last way last' way'
  have same : names = names' :=
    join_inj (leads.named sound) (leads'.named sound) (congrArg String.toList (way.trans way'.symm))
  refine List.inj_on_of_nodup_map (Entry.nodup_names_files sound) member member' ?_
  rw [shape, shape', same, last, last']

/-- A suite has the fixtures that its directory holds at any depth and no others, each one under the
category of the directory that it is in and under its own name. Nothing is found below a directory
that cannot be read. -/
theorem find?_load_iff {disk : Disk} {path : String} {entries : List Entry}
    (sound : Entry.Sound entries) (walked : disk path = .directory (Entry.files (some entries)))
    {category name : String} {fixture : FixtureFile} :
    (load disk path).find? category name = some fixture ↔ isFixtureName name = true ∧
      ∃ names found bytes, Entry.Leads entries names found ∧ Entry.file name bytes ∈ found ∧
        Text.join "/" names = category ∧
        fixture = ⟨below path (names ++ [name]), (Found.file bytes).readText⟩ := by
  have loaded : load disk path = (Entry.files (some entries)).foldl (addFile path) ⟨∅⟩ := by
    simp only [load, walked]
  have nothing : find? ⟨∅⟩ category name = none := rfl
  rw [loaded, find?_foldl_addFile, nothing, Option.or_none]
  constructor
  next =>
    intro added
    obtain ⟨file, member, here⟩ := List.exists_of_findSome?_eq_some added
    obtain ⟨isFixture, last, way, rfl⟩ := fixture?_eq_some_iff.mp here
    obtain ⟨names, found, own, leads, inside, shape⟩ :=
      Entry.mem_files_iff.mp (List.mem_reverse.mp member)
    obtain rfl : own = name := by simpa [shape] using last
    refine ⟨isFixture, names, found, file.bytes, leads, inside, by simpa [shape] using way, ?_⟩
    rw [shape]
  next =>
    rintro ⟨isFixture, names, found, bytes, leads, inside, rfl, rfl⟩
    have member : ⟨names ++ [name], bytes⟩ ∈ Entry.files (some entries) :=
      Entry.mem_files_iff.mpr ⟨names, found, name, leads, inside, rfl⟩
    have adds : fixture? path (Text.join "/" names) name ⟨names ++ [name], bytes⟩ =
        some ⟨below path (names ++ [name]), (Found.file bytes).readText⟩ :=
      fixture?_eq_some_iff.mpr ⟨isFixture, by simp, by simp, rfl⟩
    cases added : (Entry.files (some entries)).reverse.findSome?
        (fixture? path (Text.join "/" names) name) with
    | none =>
      have silent := List.findSome?_eq_none_iff.mp added _ (List.mem_reverse.mpr member)
      rw [adds] at silent
      cases silent
    | some other =>
      obtain ⟨file, member', here⟩ := List.exists_of_findSome?_eq_some added
      obtain rfl := eq_of_fixture? sound member (List.mem_reverse.mp member') adds here
      rw [← adds, here]

end Suite

end Runbook
