import Runbook.Proofs.Command.Preparation
import Runbook.Proofs.Script.Writable
import Runbook.Proofs.Value.Sources

set_option autoImplicit false

namespace Runbook

theorem Script.key_of_hole {file : Nat} {source : String} {script : Script} {hole : Hole}
    (parsed : parse file source = .ok script) (member : hole ∈ script.holes) :
    IsKey hole.key.toList := by
  obtain ⟨index, statement, found, here⟩ := mem_holesFrom.mp member
  obtain ⟨-, entry⟩ := Statement.mem_holesAt.mp here
  have writable := parse_writable parsed statement (List.mem_of_getElem? found)
  exact (writable.call.arguments _ entry).2

theorem Script.IsKey.trim_eq {key : String} (isKey : IsKey key.toList) : Text.trim key = key := by
  rw [Text.trim, isKey.trimmed, String.ofList_toList]

theorem Script.IsKey.ne_empty {key : String} (isKey : IsKey key.toList) : key ≠ "" := by
  rintro rfl
  exact isKey.nonempty rfl

namespace Fills

theorem settingOf?_of_split {key : String} (split : '=' ∈ key.toList) (text : String)
    {setting : String × Value} (read : settingOf? (key ++ "=" ++ text) = some setting) :
    '=' ∉ setting.1.toList := by
  obtain ⟨front, back, rfl, keyed⟩ := Text.exists_cut split
  have cut : front ++ "=" ++ back ++ "=" ++ text = front ++ "=" ++ (back ++ "=" ++ text) := by
    simp only [String.append_assoc]
  rw [cut, settingOf?_cut keyed] at read
  split at read
  next => cases read
  next =>
    obtain rfl := Option.some.inj read
    rw [Text.trim, String.toList_ofList]
    exact fun member => keyed (Text.mem_of_mem_trimChars member)

theorem settingOf?_eq_iff {key : String} (isKey : Script.IsKey key.toList) (text : String) :
    settingOf? (key ++ "=" ++ text) = some (key, .ofLiteral (Text.trim text)) ↔
      '=' ∉ key.toList := by
  refine ⟨fun read split => settingOf?_of_split split text read split, fun keyed => ?_⟩
  rw [settingOf?_cut keyed, isKey.trim_eq, if_neg isKey.ne_empty]

end Fills

namespace Command

theorem applySettings_append (given : Fills) (first second : List String) :
    applySettings given (first ++ second) =
      (applySettings given first).bind fun fills => applySettings fills second := by
  induction first generalizing given with
  | nil => rfl
  | cons raw rest ih =>
    simp only [List.cons_append, applySettings]
    cases Fills.settingOf? raw with
    | none => rfl
    | some setting => exact ih (given.insert setting.1 setting.2)

structure Unfilled (disk : Disk) (arguments : RunArguments) (loaded : Loaded)
    (given fills : Fills) (hole : Hole) : Prop where
  script : loadScript disk arguments.file = .ok loaded
  values : loadFills? disk arguments.values? = .ok given
  applied : applySettings given arguments.settings = .ok fills
  silent : arguments.interactive = false
  left : hole ∈ (loaded.script.fill fills).holes

def hint (key : String) : String := "  " ++ question key ++ "?  (--set " ++ key ++ "=...)\n"

structure Suits (given : Fills) (settings : List String) (script : Script) (key text : String) :
    Prop where
  read : Fills.settingOf? (key ++ "=" ++ text) = some (key, .ofLiteral (Text.trim text))
  fills : ∃ fills, applySettings given (settings ++ [key ++ "=" ++ text]) = .ok fills ∧
    ∀ hole ∈ script.holes, hole.key = key →
      (script.fill fills).argument? hole.statement hole.parameter =
        some (.given (.ofLiteral (Text.trim text)))

theorem unresolvedText_of_mem {holes : List Hole} {hole : Hole} (member : hole ∈ holes) :
    ∃ before after, unresolvedText holes = before ++ hint hole.key ++ after := by
  obtain ⟨before, after, joined⟩ :=
    Text.exists_of_join_map (fun other : Hole => hint other.key) member
  have hints : unresolvedText holes = errorLine (Script.unresolvedMessage holes) ++
      String.join (holes.map fun other => hint other.key) := rfl
  refine ⟨errorLine (Script.unresolvedMessage holes) ++ before, after, ?_⟩
  rw [hints, joined]
  simp only [String.append_assoc]

section Unfilled

variable {disk : Disk} {arguments : RunArguments} {loaded : Loaded} {given fills : Fills}
  {hole : Hole} (unfilled : Unfilled disk arguments loaded given fills hole)

include unfilled

theorem perform_of_unfilled (input : List UInt8) :
    perform disk input (.run arguments) =
      .failure "" (unresolvedText (loaded.script.fill fills).holes) := by
  have silent : arguments.interactive = true → (loaded.script.fill fills).holes = [] := by
    simp [unfilled.silent]
  have stopped : (loaded.script.fill fills).ensureResolved =
      .error (loaded.script.fill fills).holes := by
    simp [Script.ensureResolved, List.ne_nil_of_mem unfilled.left]
  have failed : prepare disk input arguments =
      .error (.failure "" (unresolvedText (loaded.script.fill fills).holes)) := by
    rw [prepare_of_filled unfilled.script unfilled.values unfilled.applied,
      complete_of_silent input silent]
    simp only [stopped]
  simp only [perform, runCommand, failed]
  rfl

theorem mem_holes_of_unfilled : hole ∈ loaded.script.holes ∧ fills.get? hole.key = none := by
  have left := unfilled.left
  rw [Script.holes_fill, List.mem_filter] at left
  simpa [Dict.contains] using left

theorem isKey_of_unfilled : Script.IsKey hole.key.toList :=
  Script.key_of_hole (loadScript_eq_ok_iff.mp unfilled.script).2.2 (mem_holes_of_unfilled unfilled).1

theorem suits_of_unsplit (keyed : '=' ∉ hole.key.toList) (text : String) :
    Suits given arguments.settings loaded.script hole.key text := by
  have read := (Fills.settingOf?_eq_iff (isKey_of_unfilled unfilled) text).mpr keyed
  refine ⟨read, fills.insert hole.key (.ofLiteral (Text.trim text)), ?_, ?_⟩
  next =>
    rw [applySettings_append, unfilled.applied, Except.bind, applySettings, read]
    rfl
  next =>
    intro other member same
    rw [Script.fill_eq_fillWith]
    refine (Script.filledBy_fillWith _ loaded.script).filled other member _ ?_
    rw [same, Dict.get?_insert_self]

theorem left_of_split (split : '=' ∈ hole.key.toList) (text : String) {filled : Fills}
    (applied : applySettings given (arguments.settings ++ [hole.key ++ "=" ++ text]) = .ok filled) :
    hole ∈ (loaded.script.fill filled).holes := by
  obtain ⟨member, unknown⟩ := mem_holes_of_unfilled unfilled
  rw [applySettings_append, unfilled.applied, Except.bind, applySettings] at applied
  cases read : Fills.settingOf? (hole.key ++ "=" ++ text) with
  | none => simp [read] at applied
  | some setting =>
    have apart : setting.1 ≠ hole.key := by
      intro same
      exact Fills.settingOf?_of_split split text read (same ▸ split)
    have inserted : fills.insert setting.1 setting.2 = filled := by
      simpa [read, applySettings] using applied
    rw [Script.holes_fill, List.mem_filter, ← inserted, Dict.contains,
      Dict.get?_insert_of_ne _ _ apart.symm, unknown]
    exact ⟨member, rfl⟩

/-- A run that lacks a value for a hole suggests a setting for its key. With whatever value it is
given, this setting fills all holes of the key, unless the key has an equals sign in it; then it is
not read with that key, and if it is read at all, the run still lacks a value for the hole. -/
theorem suggestion_suits (input : List UInt8) (text : String) :
    (∃ before after, perform disk input (.run arguments) =
      .failure "" (before ++ hint hole.key ++ after)) ∧
    (Fills.settingOf? (hole.key ++ "=" ++ text) =
      some (hole.key, .ofLiteral (Text.trim text)) ↔ '=' ∉ hole.key.toList) ∧
    (Suits given arguments.settings loaded.script hole.key text ↔ '=' ∉ hole.key.toList) ∧
    ('=' ∈ hole.key.toList → ∀ filled,
      applySettings given (arguments.settings ++ [hole.key ++ "=" ++ text]) = .ok filled →
        hole ∈ (loaded.script.fill filled).holes) := by
  have readable := Fills.settingOf?_eq_iff (isKey_of_unfilled unfilled) text
  refine ⟨?hinted, readable, ⟨fun suits => readable.mp suits.read, fun keyed =>
    suits_of_unsplit unfilled keyed text⟩, fun split _ => left_of_split unfilled split text⟩
  case hinted =>
    obtain ⟨before, after, shown⟩ := unresolvedText_of_mem unfilled.left
    exact ⟨before, after, by rw [perform_of_unfilled unfilled, shown]⟩

end Unfilled

def scriptDisk (source : String) : Disk
  | "net.scen" => .file source.toUTF8.toList
  | _ => .nothing .missing

def runWith (settings : List String) : RunArguments :=
  ⟨"net.scen", none, settings, false, false, false⟩

def peered : Disk := scriptDisk "create vpc cidr=\x7bcidr\x7d name=\x7bname\x7d peer=\x7bcidr\x7d"

theorem suggestion_suits_peered :
    ∃ loaded fills,
      Unfilled peered (runWith ["name=web"]) loaded ∅ fills ⟨0, "cidr", "cidr"⟩ ∧
      Suits ∅ ["name=web"] loaded.script "cidr" " 10.0.0.0/16" := by
  have left : (loadScript peered "net.scen").toOption.bind (fun loaded =>
      (applySettings ∅ ["name=web"]).toOption.map fun fills =>
        (loaded.script.fill fills).holes) = some [⟨0, "cidr", "cidr"⟩, ⟨0, "peer", "cidr"⟩] := by
    decide +kernel
  obtain ⟨loaded, script, left⟩ := Option.bind_eq_some_iff.mp left
  obtain ⟨fills, applied, left⟩ := Option.map_eq_some_iff.mp left
  have unfilled : Unfilled peered (runWith ["name=web"]) loaded ∅ fills ⟨0, "cidr", "cidr"⟩ :=
    ⟨toOption_eq_some_iff.mp script, rfl, toOption_eq_some_iff.mp applied, rfl, left ▸ List.mem_cons_self⟩
  have keyed : '=' ∉ "cidr".toList := by decide
  exact ⟨loaded, fills, unfilled, (suggestion_suits unfilled [] " 10.0.0.0/16").2.2.1.mpr keyed⟩

theorem suggestion_refused :
    let disk := scriptDisk "create vpc cidr=\x7ba=b\x7d"
    let refused : Output := .failure ""
      ("error: 1 unresolved hole(s): statement 1: cidr=\x7ba=b\x7d\n" ++ "  A=b?  (--set a=b=...)\n")
    perform disk [] (.run (runWith [])) = refused ∧
      Fills.settingOf? "a=b=1" = some ("a", .text "b=1") ∧
      perform disk [] (.run (runWith ["a=b=1"])) = refused := by
  decide +kernel

end Command

end Runbook
