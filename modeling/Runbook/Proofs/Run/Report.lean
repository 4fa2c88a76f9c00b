import Runbook.Proofs.Value.Json

set_option autoImplicit false

namespace Runbook

namespace Executed

inductive Shows (record : Executed) : String → Prop where
  | named (name : String) (given : record.name? = some name) :
      Shows record ("  " ++ toString (record.index + 1) ++ ". " ++ name ++ " = " ++
        record.action ++ " " ++ record.kind ++ " -> " ++ record.result.toText ++ "\n")
  | unnamed (nameless : record.name? = none) :
      Shows record ("  " ++ toString (record.index + 1) ++ ". " ++
        record.action ++ " " ++ record.kind ++ " -> " ++ record.result.toText ++ "\n")

inductive Listed : List Executed → String → Prop where
  | nothing : Listed [] "nothing was executed\n"
  | records (executed : List Executed) (lines : List String) (nonempty : executed ≠ [])
      (each : List.Forall₂ Shows executed lines) :
      Listed executed ("already executed (not rolled back):\n" ++ String.join lines)

theorem shows_toLine (record : Executed) : record.Shows (String.ofList record.toLine) := by
  cases named : record.name? with
  | none =>
    have text : String.ofList record.toLine = "  " ++ toString (record.index + 1) ++ ". " ++
        record.action ++ " " ++ record.kind ++ " -> " ++ record.result.toText ++ "\n" := by
      rw [← String.toList_inj]
      simp [toLine, named, Nat.toString_eq_repr, Nat.toList_repr]
    rw [text]
    exact .unnamed named
  | some name =>
    have text : String.ofList record.toLine = "  " ++ toString (record.index + 1) ++ ". " ++
        name ++ " = " ++ record.action ++ " " ++ record.kind ++ " -> " ++
        record.result.toText ++ "\n" := by
      rw [← String.toList_inj]
      simp [toLine, named, Nat.toString_eq_repr, Nat.toList_repr]
    rw [text]
    exact .named name named

end Executed

theorem Text.ofList_flatMap {α : Type} (write : α → List Char) (list : List α) :
    String.ofList (list.flatMap write) =
      String.join (list.map fun item => String.ofList (write item)) := by
  induction list with
  | nil => rfl
  | cons item rest ih =>
    rw [List.flatMap_cons, List.map_cons, String.ofList_append, ih, String.join_cons]

theorem Executed.report_listed (executed : List Executed) : Listed executed (report executed) := by
  cases executed with
  | nil => exact .nothing
  | cons first rest =>
    have text : report (first :: rest) = "already executed (not rolled back):\n" ++
        String.join ((first :: rest).map fun record => String.ofList record.toLine) := by
      rw [← Text.ofList_flatMap]
      rfl
    rw [text]
    refine .records _ _ (List.cons_ne_nil _ _) ?_
    rw [List.forall₂_map_right_iff, List.forall₂_same]
    exact fun record _ => record.shows_toLine

def Value.inJson : Value → Json
  | .text content => .text content
  | .number n => if n.isFinite then .number n else .null
  | .flag on => .bool on
  | .reference name => .text name

namespace Bindings

-- A text tells of the bindings in their order, each one once: by a line for each, or as the object
-- that it is when it is read as JSON.
inductive Listed (bindings : Bindings) : (json : Bool) → String → Prop where
  | lines (lines : List String)
      (each : List.Forall₂ (fun entry line => line = entry.1 ++ " = " ++ entry.2.toText ++ "\n")
        bindings.entries lines) : Listed bindings false (String.join lines)
  | object (text : String)
      (read : ∀ numeral?, Json.ReadsNearest numeral? → Json.ofText? numeral? text =
        some (.object (bindings.entries.map fun entry => (entry.1, entry.2.inJson)))) :
      Listed bindings true text

theorem prettyAt_inJson (level : Nat) (value : Value) :
    value.toJson.prettyAt level = value.inJson.prettyAt level := by
  cases value with
  | text | flag | reference => rfl
  | number n =>
    by_cases finite : n.isFinite = true
    next => simp [Value.toJson, Value.inJson, finite]
    next => simp [Value.toJson, Value.inJson, finite, Json.prettyAt, Json.quoteNumber]

theorem prettyMembers_inJson (level : Nat) (entries : List (String × Value)) :
    Json.prettyMembers level (entries.map fun entry => (entry.1, entry.2.toJson)) =
      Json.prettyMembers level (entries.map fun entry => (entry.1, entry.2.inJson)) := by
  induction entries with
  | nil => rfl
  | cons entry rest ih =>
    cases rest with
    | nil => simp [Json.prettyMembers, prettyAt_inJson]
    | cons second others =>
      simp only [List.map_cons] at ih ⊢
      simp only [Json.prettyMembers, prettyAt_inJson, ih]

theorem null_single {numeral? : List Char → Option Number} : Json.Single numeral? .null where
  reads := by
    rw [Json.compact]
    exact Json.word_reads (by simp [Json.words])
  flat level := by rw [Json.prettyAt, Json.compact]

theorem inJson_single {numeral? : List Char → Option Number} (nearest : Json.ReadsNearest numeral?)
    (value : Value) : Json.Single numeral? value.inJson := by
  cases value with
  | text content => exact Json.text_single content
  | flag on => exact Json.bool_single on
  | reference name => exact Json.text_single name
  | number n =>
    by_cases finite : n.isFinite = true
    next =>
      rw [Value.inJson, if_pos finite]
      exact Json.number_single finite (nearest.number finite)
    next =>
      rw [Value.inJson, if_neg finite]
      exact null_single

theorem report_listed (bindings : Bindings) (json : Bool) :
    bindings.Listed json (bindings.report json) := by
  cases json with
  | false =>
    have text : bindings.report false = String.join (bindings.entries.map fun entry =>
        String.ofList (entry.1.toList ++ [' ', '=', ' '] ++ entry.2.toText.toList ++ ['\n'])) := by
      rw [← Text.ofList_flatMap]
      rfl
    rw [text]
    refine .lines _ ?_
    rw [List.forall₂_map_right_iff, List.forall₂_same]
    intro entry _
    rw [← String.toList_inj]
    simp
  | true =>
    refine .object _ fun numeral? nearest => ?_
    have layout : bindings.toJson.pretty =
        (Json.object (bindings.entries.map fun entry => (entry.1, entry.2.inJson))).pretty := by
      have members := prettyMembers_inJson 1 bindings.entries
      rw [toJson]
      cases entries : bindings.entries with
      | nil => rfl
      | cons first rest =>
        rw [entries, List.map_cons, List.map_cons] at members
        simp [Json.pretty, Json.prettyAt, members]
    have text : bindings.report true = String.ofList (bindings.toJson.pretty ++ ['\n']) := rfl
    rw [text, layout]
    refine (Json.ofText?_object ?_ ['\n'] (by simp [Json.isBlank])).2
    intro member inside
    obtain ⟨entry, -, rfl⟩ := List.mem_map.mp inside
    exact inJson_single nearest entry.2

end Bindings

end Runbook
