import Runbook.Fixture.FileTree

set_option autoImplicit false

namespace Runbook

/-- What is in a directory. Nothing is known of a directory that cannot be read. -/
inductive Entry where
  | file (name : String) (bytes : List UInt8)
  | directory (name : String) (entries? : Option (List Entry))

structure Pending where
  names : List String
  entries? : Option (List Entry)

namespace Entry

def name : Entry → String
  | file name _ => name
  | directory name _ => name

def file? (names : List String) : Entry → Option NamedFile
  | file name bytes => some ⟨names ++ [name], bytes⟩
  | directory _ _ => none

def pending? (names : List String) : Entry → Option Pending
  | file _ _ => none
  | directory name entries? => some ⟨names ++ [name], entries?⟩

end Entry

namespace Pending

def among (names : List String) (entries : List Entry) : List Pending :=
  entries.filterMap (Entry.pending? names)

noncomputable def weight : List Pending → Nat
  | [] => 0
  | place :: rest => sizeOf place.entries? + weight rest

theorem weight_append (first second : List Pending) :
    weight (first ++ second) = weight first + weight second := by
  induction first with
  | nil => simp [weight]
  | cons place rest ih => simp [weight, ih, Nat.add_assoc]

theorem weight_reverse (pending : List Pending) : weight pending.reverse = weight pending := by
  induction pending with
  | nil => rfl
  | cons place rest ih => simp [weight, weight_append, ih, Nat.add_comm]

theorem weight_among_le (names : List String) (entries : List Entry) :
    weight (among names entries) ≤ sizeOf entries := by
  unfold among
  induction entries with
  | nil => simp [weight]
  | cons entry rest ih =>
    cases entry with
    | file name bytes =>
      simp only [List.filterMap_cons, Entry.pending?, List.cons.sizeOf_spec]
      omega
    | directory name entries? =>
      simp only [List.filterMap_cons, Entry.pending?, weight, List.cons.sizeOf_spec,
        Entry.directory.sizeOf_spec]
      omega

/-- All files in the pending directories and below them. Directories are put off until the files
next to them are listed, and the one that was put off last comes first. -/
def walk : List Pending → List NamedFile
  | [] => []
  | ⟨_, none⟩ :: rest => walk rest
  | ⟨names, some entries⟩ :: rest =>
    entries.filterMap (Entry.file? names) ++ walk ((among names entries).reverse ++ rest)
termination_by pending => weight pending
decreasing_by
  next => simp [weight]
  next =>
    have below := weight_among_le names entries
    simp only [weight_append, weight_reverse, weight, Option.some.sizeOf_spec]
    omega

end Pending

def Entry.files (entries? : Option (List Entry)) : List NamedFile := Pending.walk [⟨[], entries?⟩]

end Runbook
