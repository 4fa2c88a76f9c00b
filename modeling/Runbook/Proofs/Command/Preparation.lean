import Runbook.Command.Program
import Runbook.Proofs.Console.Answers

set_option autoImplicit false

namespace Runbook

theorem Script.keys_fill (fills : Fills) (script : Script) :
    (script.fill fills).keys = script.keys.filter fun key => !fills.contains key := by
  rw [Script.keys, Script.keys, Script.holes_fill, ← eraseDups_filter, List.filter_map]
  rfl

theorem Script.keys_eq_nil_iff {script : Script} : script.keys = [] ↔ script.holes = [] := by
  rw [Script.keys]
  cases script.holes with
  | nil => simp
  | cons hole rest => simp [List.eraseDups_cons]

namespace Command

def lastSetting? (settings : List String) (key : String) : Option Value :=
  (settings.filterMap Fills.settingOf?).reverse.lookup key

theorem lastSetting?_append (earlier later : List String) (key : String) :
    lastSetting? (earlier ++ later) key =
      (lastSetting? later key).or (lastSetting? earlier key) := by
  simp only [lastSetting?, List.filterMap_append, List.reverse_append, List.lookup_append]

theorem lastSetting?_singleton {raw key : String} {value : Value} :
    lastSetting? [raw] key = some value ↔ Fills.settingOf? raw = some (key, value) := by
  rcases read : Fills.settingOf? raw with _ | ⟨name, given⟩
  · simp [lastSetting?, read]
  · by_cases same : key = name
    next => simp [lastSetting?, read, same]
    next =>
      have apart : (key == name) = false := by simpa using same
      simp [lastSetting?, read, List.lookup_cons, apart, Ne.symm same]

theorem lastSetting?_eq_none_iff {settings : List String} {key : String} :
    lastSetting? settings key = none ↔
      ∀ raw ∈ settings, ∀ value, Fills.settingOf? raw ≠ some (key, value) := by
  induction settings with
  | nil => simp [lastSetting?]
  | cons raw rest ih =>
    rw [← List.singleton_append, lastSetting?_append, Option.or_eq_none_iff, ih,
      List.singleton_append, List.forall_mem_cons, and_comm]
    simp only [Option.eq_none_iff_forall_ne_some, ne_eq, lastSetting?_singleton]

theorem exists_of_lastSetting? {settings : List String} {key : String} {value : Value}
    (found : lastSetting? settings key = some value) :
    ∃ earlier raw later, settings = earlier ++ raw :: later ∧
      Fills.settingOf? raw = some (key, value) ∧
      ∀ other ∈ later, ∀ otherValue, Fills.settingOf? other ≠ some (key, otherValue) := by
  induction settings with
  | nil => simp [lastSetting?] at found
  | cons raw rest ih =>
    rw [← List.singleton_append, lastSetting?_append] at found
    cases after : lastSetting? rest key with
    | some latest =>
      obtain rfl : latest = value := by simpa [after] using found
      obtain ⟨earlier, last, later, rfl, read, unset⟩ := ih after
      exact ⟨raw :: earlier, last, later, rfl, read, unset⟩
    | none =>
      rw [after, Option.none_or] at found
      exact ⟨[], raw, rest, rfl, lastSetting?_singleton.mp found, lastSetting?_eq_none_iff.mp after⟩

theorem applySettings_of_wellFormed {settings : List String}
    (wellFormed : ∀ raw ∈ settings, Fills.settingOf? raw ≠ none) (given : Fills) :
    ∃ fills, applySettings given settings = .ok fills ∧
      ∀ key, fills.get? key = (lastSetting? settings key).or (given.get? key) := by
  refine ⟨(settings.filterMap Fills.settingOf?).foldl
    (fun fills setting => fills.insert setting.1 setting.2) given, ?_, fun key =>
      Dict.get?_foldl_insert _ given key⟩
  induction settings generalizing given with
  | nil => rfl
  | cons raw rest ih =>
    obtain ⟨here, later⟩ := List.forall_mem_cons.mp wellFormed
    obtain ⟨setting, read⟩ := Option.ne_none_iff_exists'.mp here
    simp only [applySettings, read, ih later, List.filterMap_cons, List.foldl_cons]

theorem applySettings_of_malformed {settings : List String} {raw : String}
    (member : raw ∈ settings) (malformed : Fills.settingOf? raw = none) (given : Fills) :
    ∃ err, applySettings given settings = .error (.refusal err) := by
  induction settings generalizing given with
  | nil => simp at member
  | cons first rest ih =>
    unfold applySettings
    split
    next => exact ⟨_, rfl⟩
    next key value read =>
      rcases List.mem_cons.mp member with rfl | later
      · simp [malformed] at read
      · exact ih later (given.insert key value)

theorem parseSource_failed {name source : String} {output : Output}
    (failed : parseSource name source = .error output) : ∃ err, output = .failure "" err := by
  unfold parseSource at failed
  split at failed
  next => simp at failed
  next errors _ => exact ⟨_, (Except.error.inj failed).symm⟩

theorem loadScript_failed {disk : Disk} {path : String} {output : Output}
    (failed : loadScript disk path = .error output) : ∃ err, output = .failure "" err := by
  unfold loadScript at failed
  split at failed
  next => exact ⟨_, (Except.error.inj failed).symm⟩
  next => exact parseSource_failed failed

theorem loadFills?_failed {disk : Disk} {path? : Option String} {output : Output}
    (failed : loadFills? disk path? = .error output) : ∃ err, output = .failure "" err := by
  unfold loadFills? loadFills at failed
  split at failed
  next => simp at failed
  next =>
    split at failed
    next => exact ⟨_, (Except.error.inj failed).symm⟩
    next =>
      split at failed
      next => exact ⟨_, (Except.error.inj failed).symm⟩
      next => simp at failed

theorem loadScript_eq_ok_iff {disk : Disk} {path : String} {loaded : Loaded} :
    loadScript disk path = .ok loaded ↔ loaded.name = path ∧
      (disk path).readText = .ok loaded.source ∧
        Script.parse 0 loaded.source = .ok loaded.script := by
  unfold loadScript parseSource
  constructor
  next =>
    intro done
    split at done
    next => cases done
    next source read =>
      split at done
      next script parsed =>
        obtain rfl := Except.ok.inj done
        exact ⟨rfl, read, parsed⟩
      next => cases done
  next =>
    rintro ⟨rfl, read, parsed⟩
    simp only [read, parsed]

inductive Valued (disk : Disk) : (path? : Option String) → Fills → Prop where
  | absent : Valued disk none ∅
  | table (path text : String) (members : List (String × Toml))
      (read : (disk path).readText = .ok text)
      (settled : Toml.settledOfChars? text.toList = some members) :
      Valued disk (some path) (Fills.ofTable members)

theorem loadFills?_eq_ok_iff {disk : Disk} {path? : Option String} {given : Fills} :
    loadFills? disk path? = .ok given ↔ Valued disk path? given := by
  constructor
  next =>
    intro done
    unfold loadFills? loadFills at done
    split at done
    next =>
      obtain rfl := Except.ok.inj done
      exact .absent
    next path =>
      split at done
      next => cases done
      next text read =>
        split at done
        next => cases done
        next members settled =>
          obtain rfl := Except.ok.inj done
          exact .table path text members read settled
  next =>
    intro valued
    cases valued with
    | absent => rfl
    | table path text members read settled => simp only [loadFills?, loadFills, read, settled]

def openKeys (settings : List String) (given : Fills) (script : Script) : List String :=
  script.keys.filter fun key => ((lastSetting? settings key).or (given.get? key)).isNone

theorem openKeys_ne_nil_iff {settings : List String} {given : Fills} {script : Script} :
    openKeys settings given script ≠ [] ↔ ∃ hole ∈ script.holes,
      (∀ raw ∈ settings, ∀ value, Fills.settingOf? raw ≠ some (hole.key, value)) ∧
        given.get? hole.key = none := by
  rw [openKeys, ne_eq, List.filter_eq_nil_iff]
  simp only [Script.keys, List.mem_eraseDups, List.forall_mem_map, not_forall, not_not, exists_prop,
    Option.isNone_iff_eq_none, Option.or_eq_none_iff, lastSetting?_eq_none_iff]

def filling? (settings : List String) (given : Fills) (answers : List (String × Value))
    (key : String) : Option Value :=
  ((lastSetting? settings key).or (given.get? key)).or ((Dict.ofList answers).get? key)

inductive Prepared (disk : Disk) (input : List UInt8) (arguments : RunArguments) :
    Except Output Ready → Prop where
  | unloaded (err : String)
      (failed : loadScript disk arguments.file = .error (.failure "" err)) :
      Prepared disk input arguments (.error (.failure "" err))
  | unvalued (err : String)
      (failed : loadFills? disk arguments.values? = .error (.failure "" err)) :
      Prepared disk input arguments (.error (.failure "" err))
  | malformed (err raw : String) (member : raw ∈ arguments.settings)
      (malformed : Fills.settingOf? raw = none) :
      Prepared disk input arguments (.error (.refusal err))
  | unanswered (loaded : Loaded) (given : Fills) (asked unasked : List String) (key err : String)
      (script : loadScript disk arguments.file = .ok loaded)
      (values : loadFills? disk arguments.values? = .ok given)
      (interactive : arguments.interactive = true)
      (keys : openKeys arguments.settings given loaded.script = asked ++ key :: unasked)
      (unread : (Console.lines input)[asked.length]?.bind Console.reading? = none) :
      Prepared disk input arguments (.error (.failure (Console.prompts (asked ++ [key])) err))
  | unresolved (loaded : Loaded) (given : Fills) (err : String)
      (script : loadScript disk arguments.file = .ok loaded)
      (values : loadFills? disk arguments.values? = .ok given)
      (unasked : arguments.interactive = false)
      (left : openKeys arguments.settings given loaded.script ≠ []) :
      Prepared disk input arguments (.error (.failure "" err))
  | ready (loaded : Loaded) (given : Fills) (answers : List (String × Value))
      (script : loadScript disk arguments.file = .ok loaded)
      (values : loadFills? disk arguments.values? = .ok given)
      (wellFormed : ∀ raw ∈ arguments.settings, Fills.settingOf? raw ≠ none)
      (keys : answers.map Prod.fst = openKeys arguments.settings given loaded.script)
      (read : ∀ (index : Nat) (answer : String × Value), answers[index]? = some answer →
        (Console.lines input)[index]?.bind Console.reading? = some answer.2)
      (asked : arguments.interactive = false → answers = []) :
      Prepared disk input arguments (.ok ⟨loaded,
        loaded.script.fillWith fun hole =>
          filling? arguments.settings given answers hole.key,
        Console.prompts (answers.map Prod.fst)⟩)

section Filled

variable {settings : List String} {given fills : Fills}
  (found : ∀ key, fills.get? key = (lastSetting? settings key).or (given.get? key))

include found

theorem keys_of_found (script : Script) :
    (script.fill fills).keys = openKeys settings given script := by
  rw [Script.keys_fill, openKeys]
  apply List.filter_congr
  intro key _
  rw [Dict.contains, found]
  cases (lastSetting? settings key).or (given.get? key) <;> rfl

theorem fillWith_of_found (script : Script) (answers : List (String × Value)) :
    (script.fill fills).fill (.ofList answers) =
      script.fillWith fun hole => filling? settings given answers hole.key := by
  simp only [Script.fill_eq_fillWith, Script.fillWith_fillWith, found, filling?]

end Filled

theorem prepare_of_filled {disk : Disk} {arguments : RunArguments} {loaded : Loaded}
    {given fills : Fills} (script : loadScript disk arguments.file = .ok loaded)
    (values : loadFills? disk arguments.values? = .ok given)
    (applied : applySettings given arguments.settings = .ok fills) (input : List UInt8) :
    prepare disk input arguments =
      match complete arguments.interactive input (loaded.script.fill fills) with
      | .error output => .error output
      | .ok (completed, shown) =>
        match completed.ensureResolved with
        | .ok () => .ok ⟨loaded, completed, shown⟩
        | .error holes => .error (.failure shown (unresolvedText holes)) := by
  simp only [prepare, script, values, applied, bind, Except.bind]
  rcases complete arguments.interactive input (loaded.script.fill fills) with _ | ⟨completed, shown⟩
  · rfl
  · cases completed.ensureResolved <;> rfl

theorem complete_of_asking (input : List UInt8) {script : Script} (left : script.holes ≠ []) :
    (∃ answers, complete true input script =
        .ok (script.fill (.ofList answers), Console.prompts (answers.map Prod.fst)) ∧
      Console.Completes input script answers (script.inquire Console.ask (.start input))) ∨
    ∃ asked key err, complete true input script =
        .error (.failure (Console.prompts (asked ++ [key])) err) ∧
      Console.Stops input script asked key (script.inquire Console.ask (.start input)) := by
  have asks : (true && !script.holes.isEmpty) = true := by simpa using left
  simp only [complete, asks, if_true]
  rcases Console.inquire_cases input script with ⟨answers, completes⟩ | ⟨asked, key, stops⟩
  · obtain ⟨count, result⟩ := completes.result
    refine .inl ⟨answers, ?_, completes⟩
    rw [result, completes.shown, completes.filled, completes.keys]
  · obtain ⟨failure, result⟩ := stops.result
    refine .inr ⟨asked, key, errorLine failure.message, ?_, stops⟩
    rw [result, stops.shown]

theorem complete_of_silent {interactive : Bool} {script : Script} (input : List UInt8)
    (silent : interactive = true → script.holes = []) :
    complete interactive input script = .ok (script, "") := by
  have asks : (interactive && !script.holes.isEmpty) = false := by
    cases interactive with
    | false => rfl
    | true => simp [silent rfl]
  simp [complete, asks]

section Applied

variable {disk : Disk} {arguments : RunArguments} {loaded : Loaded} {given fills : Fills}
  (script : loadScript disk arguments.file = .ok loaded)
  (values : loadFills? disk arguments.values? = .ok given)
  (wellFormed : ∀ raw ∈ arguments.settings, Fills.settingOf? raw ≠ none)
  (applied : applySettings given arguments.settings = .ok fills)
  (found : ∀ key, fills.get? key = (lastSetting? arguments.settings key).or (given.get? key))

include script values wellFormed applied found

theorem prepared_of_asking (input : List UInt8) (interactive : arguments.interactive = true)
    (left : (loaded.script.fill fills).holes ≠ []) :
    Prepared disk input arguments (prepare disk input arguments) := by
  have keys := keys_of_found found loaded.script
  rw [prepare_of_filled script values applied input, interactive]
  rcases complete_of_asking input left with
    ⟨answers, completed, completes⟩ | ⟨asked, key, err, stopped, stops⟩
  · have resolved := completes.resolved
    rw [completes.filled] at resolved
    rw [completed]
    simp only [Script.ensureResolved_eq_ok_iff.mpr resolved]
    rw [fillWith_of_found found]
    exact .ready loaded given answers script values wellFormed (completes.keys.trans keys)
      completes.read (by simp [interactive])
  · obtain ⟨unasked, order⟩ := stops.keys
    rw [stopped]
    exact .unanswered loaded given asked unasked key err script values interactive
      (keys.symm.trans order) stops.unread

theorem prepared_of_silent (input : List UInt8)
    (silent : arguments.interactive = true → (loaded.script.fill fills).holes = []) :
    Prepared disk input arguments (prepare disk input arguments) := by
  have keys := keys_of_found found loaded.script
  rw [prepare_of_filled script values applied input, complete_of_silent input silent]
  by_cases resolved : (loaded.script.fill fills).holes = []
  next =>
    have noKeys := keys.symm.trans (Script.keys_eq_nil_iff.mpr resolved)
    have unanswered : loaded.script.fill fills = loaded.script.fillWith fun hole =>
        filling? arguments.settings given [] hole.key := by
      simp [Script.fill_eq_fillWith, found, filling?, Dict.ofList]
    simp only [Script.ensureResolved_eq_ok_iff.mpr resolved]
    rw [unanswered]
    exact .ready loaded given [] script values wellFormed noKeys.symm (by simp) fun _ => rfl
  next =>
    have left : openKeys arguments.settings given loaded.script ≠ [] := by
      rw [← keys]
      exact mt Script.keys_eq_nil_iff.mp resolved
    have unasked : arguments.interactive = false := by simpa using mt silent resolved
    have stopped : (loaded.script.fill fills).ensureResolved =
        .error (loaded.script.fill fills).holes := by
      simp [Script.ensureResolved, resolved]
    simp only [stopped]
    exact .unresolved loaded given _ script values unasked left

end Applied

theorem prepare_prepared (disk : Disk) (input : List UInt8) (arguments : RunArguments) :
    Prepared disk input arguments (prepare disk input arguments) := by
  cases script : loadScript disk arguments.file with
  | error output =>
    obtain ⟨err, rfl⟩ := loadScript_failed script
    simp only [prepare, script]
    exact .unloaded err script
  | ok loaded =>
    cases values : loadFills? disk arguments.values? with
    | error output =>
      obtain ⟨err, rfl⟩ := loadFills?_failed values
      simp only [prepare, script, values]
      exact .unvalued err values
    | ok given =>
      by_cases wellFormed : ∀ raw ∈ arguments.settings, Fills.settingOf? raw ≠ none
      next =>
        obtain ⟨fills, applied, found⟩ := applySettings_of_wellFormed wellFormed given
        by_cases asks : arguments.interactive = true ∧ (loaded.script.fill fills).holes ≠ []
        next =>
          exact prepared_of_asking script values wellFormed applied found input asks.1 asks.2
        next =>
          have silent : arguments.interactive = true →
              (loaded.script.fill fills).holes = [] := by simpa using asks
          exact prepared_of_silent script values wellFormed applied found input silent
      next =>
        push Not at wellFormed
        obtain ⟨raw, member, malformed⟩ := wellFormed
        obtain ⟨err, refused⟩ := applySettings_of_malformed member malformed given
        have stopped : prepare disk input arguments = .error (.refusal err) := by
          simp only [prepare, script, values, bind, Except.bind, refused]
        rw [stopped]
        exact .malformed err raw member malformed

-- Where the value of a key comes from: the last setting of the key, else the values file, else the
-- line of the input in the place that the key has among those still to be asked for.
inductive Supplied (input : List UInt8) (arguments : RunArguments) (given : Fills)
    (script : Script) (key : String) : Value → Prop where
  | setting (earlier later : List String) (raw : String) (value : Value)
      (settings : arguments.settings = earlier ++ raw :: later)
      (read : Fills.settingOf? raw = some (key, value))
      (last : ∀ other ∈ later, ∀ otherValue, Fills.settingOf? other ≠ some (key, otherValue)) :
      Supplied input arguments given script key value
  | file (value : Value)
      (unset : ∀ raw ∈ arguments.settings, ∀ other, Fills.settingOf? raw ≠ some (key, other))
      (found : given.get? key = some value) : Supplied input arguments given script key value
  | answer (index : Nat) (line : List UInt8) (text : String)
      (unset : ∀ raw ∈ arguments.settings, ∀ other, Fills.settingOf? raw ≠ some (key, other))
      (unknown : given.get? key = none) (interactive : arguments.interactive = true)
      (place : (openKeys arguments.settings given script)[index]? = some key)
      (read : (Console.lines input)[index]? = some line) (decoded : Text.decode? line = some text)
      (filled : Text.trim text ≠ "") :
      Supplied input arguments given script key (.ofLiteral (Text.trim text))

theorem openKeys_nodup (settings : List String) (given : Fills) (script : Script) :
    (openKeys settings given script).Nodup :=
  (eraseDups_nodup _).filter _

section Answers

variable {input : List UInt8} {arguments : RunArguments} {given : Fills} {script : Script}
  {answers : List (String × Value)}
  (keys : answers.map Prod.fst = openKeys arguments.settings given script)

include keys

theorem supplied_of_filling
    (read : ∀ (index : Nat) (answer : String × Value), answers[index]? = some answer →
      (Console.lines input)[index]?.bind Console.reading? = some answer.2)
    (asked : arguments.interactive = false → answers = []) {key : String} {value : Value}
    (filling : filling? arguments.settings given answers key = some value) :
    Supplied input arguments given script key value := by
  unfold filling? at filling
  cases setting : lastSetting? arguments.settings key with
  | some latest =>
    obtain rfl : latest = value := by simpa [setting] using filling
    obtain ⟨earlier, raw, later, settings, here, last⟩ := exists_of_lastSetting? setting
    exact .setting earlier later raw latest settings here last
  | none =>
    have unset := lastSetting?_eq_none_iff.mp setting
    cases known : given.get? key with
    | some listed =>
      obtain rfl : listed = value := by simpa [setting, known] using filling
      exact .file listed unset known
    | none =>
      have distinct : (answers.map Prod.fst).Nodup := by
        rw [keys]
        exact openKeys_nodup _ _ _
      have member : (key, value) ∈ answers :=
        (Dict.get?_ofList_iff distinct).mp (by simpa [setting, known] using filling)
      have interactive : arguments.interactive = true := by
        by_contra silent
        rw [asked (by simpa using silent)] at member
        exact absurd member List.not_mem_nil
      obtain ⟨index, here⟩ := List.mem_iff_getElem?.mp member
      obtain ⟨line, text, found, decoded, filled, rfl⟩ :=
        Console.exists_of_reading? (read index _ here)
      have place : (openKeys arguments.settings given script)[index]? = some key := by
        rw [← keys, List.getElem?_map, here, Option.map_some]
      exact .answer index line text unset known interactive place found decoded filled

theorem exists_filling {hole : Hole} (member : hole ∈ script.holes) :
    ∃ value, filling? arguments.settings given answers hole.key = some value := by
  rw [← Option.isSome_iff_exists, filling?, Option.isSome_or]
  cases known : ((lastSetting? arguments.settings hole.key).or (given.get? hole.key)).isSome with
  | true => rfl
  | false =>
    have wanted : hole.key ∈ script.keys :=
      List.mem_eraseDups.mpr (List.mem_map.mpr ⟨hole, member, rfl⟩)
    have answered : hole.key ∈ answers.map Prod.fst := by
      rw [keys, openKeys, List.mem_filter]
      exact ⟨wanted, by simpa using known⟩
    rw [Bool.false_or, Option.isSome_iff_ne_none]
    exact fun absent => Dict.get?_ofList_eq_none_iff.mp absent answered

end Answers

structure Ready.Faithful (disk : Disk) (input : List UInt8) (arguments : RunArguments)
    (given : Fills) (ready : Ready) : Prop where
  read : (disk arguments.file).readText = .ok ready.loaded.source
  parsed : Script.parse 0 ready.loaded.source = .ok ready.loaded.script
  values : loadFills? disk arguments.values? = .ok given
  file : ready.script.file = ready.loaded.script.file
  outlines : ready.script.statements.map Statement.outline =
    ready.loaded.script.statements.map Statement.outline
  holes : ∀ position parameter key,
    ready.loaded.script.argument? position parameter = some (.hole key) →
      ∃ value, Supplied input arguments given ready.loaded.script key value ∧
        ready.script.argument? position parameter = some (.given value)
  others : ∀ position parameter value,
    ready.loaded.script.argument? position parameter = some (.given value) →
      ready.script.argument? position parameter = some (.given value)
  ran : perform disk input (.run arguments) =
    finish ready.shown arguments.json ready.loaded (execute arguments.quiet ready.script)

theorem faithful_of_answers {disk : Disk} {input : List UInt8} {arguments : RunArguments}
    {loaded : Loaded} {given : Fills} {answers : List (String × Value)}
    (script : loadScript disk arguments.file = .ok loaded)
    (values : loadFills? disk arguments.values? = .ok given)
    (keys : answers.map Prod.fst = openKeys arguments.settings given loaded.script)
    (read : ∀ (index : Nat) (answer : String × Value), answers[index]? = some answer →
      (Console.lines input)[index]?.bind Console.reading? = some answer.2)
    (asked : arguments.interactive = false → answers = []) {shown : String}
    (prepared : prepare disk input arguments = .ok ⟨loaded, loaded.script.fillWith fun hole =>
      filling? arguments.settings given answers hole.key, shown⟩) :
    Ready.Faithful disk input arguments given ⟨loaded, loaded.script.fillWith fun hole =>
      filling? arguments.settings given answers hole.key, shown⟩ := by
  obtain ⟨-, source, parsed⟩ := loadScript_eq_ok_iff.mp script
  have filled := Script.filledBy_fillWith
    (fun hole => filling? arguments.settings given answers hole.key) loaded.script
  refine ⟨source, parsed, values, filled.file, filled.outlines, ?_, ?_, ?_⟩
  · intro position parameter key waits
    have member : (⟨position, parameter, key⟩ : Hole) ∈ loaded.script.holes :=
      Script.mem_holes_iff.mpr waits
    obtain ⟨value, filling⟩ := exists_filling keys member
    exact ⟨value, supplied_of_filling keys read asked filling,
      filled.filled _ member value filling⟩
  · intro position parameter value concrete
    refine (filled.others position parameter ?_).trans concrete
    rintro hole member rfl rfl
    simp [Script.mem_holes_iff.mp member] at concrete
  · simp only [perform, runCommand, prepared]
    rfl

/-- Once a run reaches its first statement, every hole holds the value that the last setting, the
values file or the answer to its question gave to its key, in this order, and all the rest of the
script is as it was in the file. -/
theorem prepare_faithful {disk : Disk} {input : List UInt8} {arguments : RunArguments}
    {ready : Ready} (prepared : prepare disk input arguments = .ok ready) :
    ∃ given, ready.Faithful disk input arguments given := by
  have outcome := prepare_prepared disk input arguments
  rw [prepared] at outcome
  cases outcome with
  | ready loaded given answers script values wellFormed keys read asked =>
    exact ⟨given, faithful_of_answers script values keys read asked prepared⟩

def layeredDisk : Disk
  | "web.scen" => .file "a b c=\x7bc.d\x7d e=\x7be\x7d f=\x7bf\x7d g=h".toUTF8.toList
  | "web.toml" => .file "e=1\n[c]\nd=2".toUTF8.toList
  | _ => .nothing .missing

def layered : RunArguments := ⟨"web.scen", some "web.toml", ["e=3", " e = 4"], true, true, false⟩

def layeredInput : List UInt8 := " 5 \n6\n".toUTF8.toList

theorem prepare_faithful_layered :
    ∃ ready given, prepare layeredDisk layeredInput layered = .ok ready ∧
      ready.script.toText = "a b c=2 e=4 f=5 g=h\n" ∧
      ready.Faithful layeredDisk layeredInput layered given := by
  have filled : (prepare layeredDisk layeredInput layered).toOption.map (·.script.toText) =
      some "a b c=2 e=4 f=5 g=h\n" := by decide +kernel
  obtain ⟨ready, done, written⟩ := Option.map_eq_some_iff.mp filled
  have prepared := toOption_eq_some_iff.mp done
  obtain ⟨given, faithful⟩ := prepare_faithful prepared
  exact ⟨ready, given, prepared, written, faithful⟩

end Command

end Runbook
