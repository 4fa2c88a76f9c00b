import Runbook.Run.Report
import Runbook.Proofs.Execution.Completion
import Runbook.Proofs.Json.Object

set_option autoImplicit false

namespace Runbook

variable {numeral? : List Char → Option Number}

namespace Json

theorem text_single (content : String) : Single numeral? (.text content) where
  reads := by
    rw [compact]
    exact quote_reads content
  flat level := by rw [prettyAt, compact]

theorem bool_single (on : Bool) : Single numeral? (.bool on) where
  reads := by
    rw [compact]
    cases on <;> exact word_reads (by simp [words])
  flat level := by rw [prettyAt, compact]

theorem ReadsNearest.number (nearest : ReadsNearest numeral?) {n : Number}
    (finite : n.isFinite = true) : numeral? (numberLayout.writeChars n) = some n := by
  cases n with
  | infinite | nan => cases finite
  | finite negative magnitude =>
    obtain ⟨numeral, shows⟩ := numberLayout_shows negative magnitude
    rw [nearest _ numeral magnitude shows.written shows.canonical shows.rounds, shows.sign]

theorem number_single {n : Number} (finite : n.isFinite = true)
    (read : numeral? (numberLayout.writeChars n) = some n) : Single numeral? (.number n) where
  reads := by
    rw [compact, quoteNumber, if_pos finite]
    cases n with
    | infinite | nan => cases finite
    | finite negative magnitude =>
      obtain ⟨numeral, shows⟩ := numberLayout_shows negative magnitude
      exact numeral_reads shows.written shows.canonical read
  flat level := by rw [prettyAt, compact]

theorem null_reads {n : Number} (beyond : n.isFinite = false) :
    Reads numeral? (number n).compact (.value .null) := by
  rw [compact, quoteNumber, beyond]
  exact word_reads (by simp [words])

def entries? : Json → Option (List (String × Value))
  | .object members => members.mapM fun member => (Value.ofJson? member.2).map (member.1, ·)
  | _ => none

end Json

namespace Value

def isFinite : Value → Bool
  | .number n => n.isFinite
  | _ => true

theorem toJson_single (nearest : Json.ReadsNearest numeral?) {value : Value}
    (finite : value.isFinite = true) : Json.Single numeral? value.toJson := by
  cases value with
  | text content => exact Json.text_single content
  | number n => exact Json.number_single finite (nearest.number finite)
  | flag on => exact Json.bool_single on
  | reference name => exact Json.text_single name

theorem ofJson?_toJson {value : Value} (concrete : value.isReference = false) :
    ofJson? value.toJson = some value := by
  cases value with
  | text | number | flag => rfl
  | reference name => cases concrete

theorem readJsonBy_of_reads {chars : List Char} {json : Json}
    (reads : Json.Reads numeral? chars (.value json)) :
    readJsonBy numeral? (String.ofList chars) =
      match ofJson? json with
      | some value => .ok value
      | none => .error .otherShape := by
  have alone : Json.tokens numeral? chars = [.value json] := by
    rw [← List.append_nil chars, reads [] (by simp [Json.Stops]), Json.tokens]
  rw [readJsonBy, String.toList_ofList, alone]
  dsimp only [Json.read, Json.next, Json.settle]
  cases ofJson? json <;> rfl

end Value

namespace Bindings

def readEntries? (numeral? : List Char → Option Number) (chars : List Char) :
    Option (List (String × Value)) :=
  (Json.ofText? numeral? (String.ofList chars)).bind Json.entries?

structure Rereads (numeral? : List Char → Option Number) (bindings : Bindings) : Prop where
  compact : readEntries? numeral? bindings.toJson.compact = some bindings.entries
  pretty : readEntries? numeral? bindings.toJson.pretty = some bindings.entries
  report : readEntries? numeral? (bindings.report true).toList = some bindings.entries

theorem entries?_toJson {bindings : Bindings}
    (concrete : ∀ entry ∈ bindings.entries, entry.2.isReference = false) :
    Json.entries? bindings.toJson = some bindings.entries := by
  rw [toJson, Json.entries?]
  generalize bindings.entries = entries at concrete
  induction entries with
  | nil => rfl
  | cons entry rest ih =>
    obtain ⟨here, later⟩ := List.forall_mem_cons.mp concrete
    simp [Value.ofJson?_toJson here, ih later]

theorem rereads (nearest : Json.ReadsNearest numeral?) {bindings : Bindings}
    (concrete : ∀ entry ∈ bindings.entries, entry.2.isReference = false)
    (finite : ∀ entry ∈ bindings.entries, entry.2.isFinite = true) :
    bindings.Rereads numeral? := by
  have single : ∀ member ∈ bindings.entries.map fun entry => (entry.1, entry.2.toJson),
      Json.Single numeral? member.2 := by
    intro member inside
    obtain ⟨entry, listed, rfl⟩ := List.mem_map.mp inside
    exact Value.toJson_single nearest (finite entry listed)
  have read {chars : List Char} (text : Json.ofText? numeral? (String.ofList chars) =
      some bindings.toJson) : readEntries? numeral? chars = some bindings.entries := by
    rw [readEntries?, text]
    exact entries?_toJson concrete
  obtain ⟨compact, pretty⟩ := Json.ofText?_object single [] (by simp)
  obtain ⟨-, report⟩ := Json.ofText?_object single ['\n'] (by simp [Json.isBlank])
  rw [List.append_nil] at compact pretty
  refine ⟨read compact, read pretty, ?_⟩
  rw [Bindings.report, String.toList_ofList]
  exact read report

end Bindings

namespace Execution

variable {σ : Type} {backend : Backend σ} {script : Script}

def Concrete (execution : Execution σ) : Prop :=
  ∀ entry ∈ execution.bindings.entries, entry.2.isReference = false

theorem start_concrete (state : σ) (cancelled? : Option Bool) :
    (start state cancelled?).Concrete := by
  simp [Concrete, start, EmptyCollection.emptyCollection, Bindings.empty]

theorem step_concrete (backend : Backend σ) {execution : Execution σ}
    (concrete : execution.Concrete) : (execution.step backend script).2.Concrete := by
  have stepped := step_stepped backend script execution
  generalize execution.step backend script = result at stepped
  cases stepped with
  | ended | exhausted | cancelled | failed => exact concrete
  | ran index statement attempt record bindings next here allowed attempted outcome =>
    subst attempted
    obtain ⟨parameters, value, -, concrete', rfl, bound⟩ := Statement.attempt_ok outcome
    intro entry member
    rw [bound] at member
    rcases List.mem_append.mp member with old | last
    next => exact concrete entry old
    next =>
      obtain ⟨name, -, rfl⟩ : ∃ name, statement.name? = some name ∧ (name, value) = entry := by
        simpa [Executed.binding?, Statement.record] using last
      exact concrete'

theorem performs_concrete (backend : Backend σ) (script : Script) (state : σ)
    (cancelled? : Option Bool) (actions : List Action) :
    (performs backend script (start state cancelled?) actions).Concrete := by
  refine performs_keep (fun execution action concrete => ?_) actions (start_concrete _ _)
  cases action with
  | step => exact step_concrete backend concrete
  | cancel => exact concrete

theorem run_concrete {execution : Execution σ} (concrete : execution.Concrete) :
    (run backend script execution).final.Concrete :=
  drive_keep (fun _ => step_concrete backend) _ concrete

end Execution

open Execution

namespace Value

/-- JSON is read back, if numerals are read as the numbers nearest to them: a text, a flag and a
finite number as itself, a reference as its name, and no other number at all. What a run has bound,
at any point, comes back in its order from both forms of JSON and has no name twice. -/
theorem json_reread {numeral? : List Char → Option Number} (nearest : Json.ReadsNearest numeral?) :
    let reread (value : Value) := readJsonBy numeral? (String.ofList value.toJson.compact)
    (∀ content, reread (.text content) = .ok (.text content)) ∧
    (∀ on, reread (.flag on) = .ok (.flag on)) ∧
    (∀ n : Number, n.isFinite = true → reread (.number n) = .ok (.number n)) ∧
    (∀ name, reread (.reference name) = .ok (.text name)) ∧
    (∀ n : Number, n.isFinite = false → reread (.number n) = .error .otherShape) ∧
    ∀ {σ : Type} (backend : Backend σ) (script : Script) (state : σ) (cancelled? : Option Bool)
      (actions : List Action),
      let execution := performs backend script (start state cancelled?) actions
      ∀ bindings, bindings = execution.bindings ∨
        bindings = (run backend script execution).final.bindings →
      bindings.names.Nodup ∧
        ((∀ entry ∈ bindings.entries, entry.2.isFinite = true) → bindings.Rereads numeral?) := by
  intro reread
  have single {value : Value} (finite : value.isFinite = true) :
      reread value = match ofJson? value.toJson with
        | some again => .ok again
        | none => .error .otherShape :=
    readJsonBy_of_reads (toJson_single nearest finite).reads
  refine ⟨fun content => single rfl, fun on => single rfl, fun n finite => single finite,
    fun name => single rfl, fun n beyond => readJsonBy_of_reads (Json.null_reads beyond), ?_⟩
  intro σ backend script state cancelled? actions execution bindings reached
  have concrete : execution.Concrete := performs_concrete backend script state cancelled? actions
  refine ⟨bindings.distinct, fun finite => Bindings.rereads nearest ?_ finite⟩
  rcases reached with rfl | rfl
  next => exact concrete
  next => exact run_concrete concrete

def debt : Number := Decimal.toNumber true ⟨25, 20⟩

def billing : Backend Unit :=
  ⟨fun _ kind state =>
    (.answer (.ok (if kind = "voucher" then .text "\"é\x01\n" else .number debt)), state)⟩

def bills : Script :=
  ⟨[⟨some "b", ⟨"create", "voucher", ∅⟩, ⟨0, 18⟩⟩, ⟨some "a", ⟨"create", "debt", ∅⟩, ⟨19, 34⟩⟩], 0⟩

theorem json_reread_bills :
    let bindings := (run billing bills (start () none)).final.bindings
    Json.ReadsNearest Number.ofCanonical? ∧
    Number.ofLeading? "-2.5e+21".toList = Number.ofCanonical? "-2.5e+21".toList ∧
    (toJson (.number debt)).compact = "-2.5e+21".toList ∧ debt.isFinite = true ∧
    readJsonBy Number.ofCanonical? (String.ofList (toJson (.number debt)).compact) =
      .ok (.number debt) ∧
    readJsonBy Number.ofCanonical? (String.ofList (toJson (.number .nan)).compact) =
      .error .otherShape ∧
    bindings.entries = [("b", .text "\"é\x01\n"), ("a", .number debt)] ∧
    bindings.names.Nodup ∧ bindings.Rereads Number.ofCanonical? := by
  intro bindings
  obtain ⟨-, -, numbers, -, others, tables⟩ := json_reread Number.ofCanonical?_nearest
  have finite : debt.isFinite = true := by decide +kernel
  have entries : bindings.entries = [("b", .text "\"é\x01\n"), ("a", .number debt)] := by
    decide +kernel
  obtain ⟨distinct, rereads⟩ := tables billing bills () none [] bindings (.inr rfl)
  refine ⟨Number.ofCanonical?_nearest, by decide +kernel, by decide +kernel, finite,
    numbers debt finite, others .nan rfl, entries, distinct, rereads ?_⟩
  rw [entries]
  simpa [isFinite] using finite

-- What is read in steps may be next to the nearest number.
example : readJson "7e-298" ≠ readJsonBy Number.ofCanonical? "7e-298" := by decide +kernel

end Value

end Runbook
