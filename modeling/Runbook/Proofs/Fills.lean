import Mathlib.Data.List.Lex
import Mathlib.Data.List.Nodup
import Mathlib.Data.String.Basic
import Runbook.Fills
import Runbook.Toml.Settled
import Runbook.Proofs.Dict

set_option autoImplicit false

namespace Runbook

namespace Toml

def isTable : Toml → Bool
  | .table _ => true
  | _ => false

inductive LeafAt : Toml → List String → Toml → Prop
  | here {value : Toml} (plain : value.isTable = false) : LeafAt value [] value
  | inside {members : List (String × Toml)} {key : String} {value : Toml} {path : List String}
      {leaf : Toml} (member : (key, value) ∈ members) (below : LeafAt value path leaf) :
      LeafAt (.table members) (key :: path) leaf

inductive Within : Toml → List (String × Toml) → Prop
  | self (members : List (String × Toml)) : Within (.table members) members
  | inside {members inner : List (String × Toml)} {key : String} {value : Toml}
      (member : (key, value) ∈ members) (below : Within value inner) :
      Within (.table members) inner

def Ordered (value : Toml) : Prop :=
  ∀ members, Within value members →
    members.Pairwise fun earlier later => compare earlier.1 later.1 = .lt

def Named (value : Toml) : Prop :=
  ∀ members, Within value members → ∀ member ∈ members, member.1 ≠ ""

theorem Ordered.of_member {members : List (String × Toml)} (ordered : Ordered (.table members))
    {member : String × Toml} (inside : member ∈ members) : Ordered member.2 :=
  fun inner within => ordered inner (.inside inside within)

theorem Named.of_member {members : List (String × Toml)} (named : Named (.table members))
    {member : String × Toml} (inside : member ∈ members) : Named member.2 :=
  fun inner within => named inner (.inside inside within)

mutual

def leaves : Toml → List (List String × Toml)
  | .table members => memberLeaves members
  | plain => [([], plain)]

def memberLeaves : List (String × Toml) → List (List String × Toml)
  | [] => []
  | (key, value) :: rest =>
    (leaves value).map (fun leaf => (key :: leaf.1, leaf.2)) ++ memberLeaves rest

end

theorem tableInduction {holds : Toml → Prop}
    (plain : ∀ value, value.isTable = false → holds value)
    (table : ∀ members, (∀ member ∈ members, holds member.2) → holds (.table members)) :
    ∀ value, holds value
  | .table members => table members fun member inside =>
    have smaller : sizeOf member.2 < 1 + sizeOf members := by
      have among := List.sizeOf_lt_of_mem inside
      have part : sizeOf member = 1 + sizeOf member.1 + sizeOf member.2 := rfl
      omega
    tableInduction plain table member.2
  | .text _ | .integer _ | .float _ | .flag _ | .dateTime _ | .array _ => plain _ rfl
termination_by value => sizeOf value

theorem ordered_of_plain {value : Toml} (plain : value.isTable = false) : Ordered value := by
  intro members within
  cases within <;> simp [isTable] at plain

theorem ordered_put {key : String} {value : Toml} {members : List (String × Toml)}
    (inner : Ordered value) (ordered : Ordered (.table members)) :
    Ordered (.table (Dict.put key value members)) := by
  intro table within
  cases within with
  | self => exact Dict.ascending_put key value (ordered members (.self members))
  | inside member below =>
    rcases Dict.mem_put member with same | old
    · cases same
      exact inner table below
    · exact ordered table (.inside old below)

theorem settleMembers?_ordered {members settled : List (String × Toml)}
    (each : ∀ member ∈ members, ∀ value, settle? member.2 = some value → Ordered value)
    (done : settleMembers? members = some settled) : Ordered (.table settled) := by
  induction members generalizing settled with
  | nil =>
    obtain rfl : [] = settled := by simpa [settleMembers?] using done
    intro table within
    cases within with
    | self => exact .nil
    | inside member below => cases member
  | cons member rest ih =>
    obtain ⟨here, others⟩ := List.forall_mem_cons.mp each
    obtain ⟨value, first, more, later, rfl⟩ : ∃ value, settle? member.2 = some value ∧
        ∃ more, settleMembers? rest = some more ∧ Dict.put member.1 value more = settled := by
      simpa [settleMembers?, Option.bind_eq_some_iff] using done
    exact ordered_put (here value first) (ih others later)

theorem settle?_ordered {value settled : Toml} (done : settle? value = some settled) :
    Ordered settled := by
  induction value using tableInduction generalizing settled with
  | plain value plain =>
    refine ordered_of_plain ?_
    cases value with
    | array items =>
      obtain ⟨inner, -, rfl⟩ := Option.map_eq_some_iff.mp done
      rfl
    | table members => simp [isTable] at plain
    | text _ | integer _ | float _ | flag _ | dateTime _ =>
      obtain rfl := Option.some.inj done
      rfl
  | table members ih =>
    cases members with
    | nil =>
      obtain rfl : .table [] = settled := by simpa [settle?] using done
      exact settleMembers?_ordered (by simp) (rfl : settleMembers? [] = some [])
    | cons first rest =>
      simp only [settle?, List.head?_cons] at done
      split at done
      next =>
        refine ordered_of_plain ?_
        obtain ⟨moment, rfl⟩ : ∃ moment, .dateTime moment = settled := by
          unfold quotedMoment? at done
          split at done
          next => exact (Option.map_eq_some_iff.mp done).imp fun _ => And.right
          next => cases done
        rfl
      next =>
        obtain ⟨inner, settles, rfl⟩ := Option.map_eq_some_iff.mp done
        exact settleMembers?_ordered (fun member inside _ => ih member inside) settles

theorem settledOfChars?_ordered {chars : List Char} {members : List (String × Toml)}
    (read : settledOfChars? chars = some members) : Ordered (.table members) := by
  obtain ⟨document, -, settles⟩ := Option.bind_eq_some_iff.mp read
  exact settleMembers?_ordered (fun _ _ _ => settle?_ordered) settles

theorem named_of_plain {value : Toml} (plain : value.isTable = false) : Named value := by
  intro members within
  cases within <;> simp [isTable] at plain

theorem named_table {members : List (String × Toml)} (keys : ∀ member ∈ members, member.1 ≠ "")
    (inner : ∀ member ∈ members, Named member.2) : Named (.table members) := by
  intro table within
  cases within with
  | self => exact keys
  | inside member below => exact inner _ member table below

theorem leaves_of_plain {value : Toml} (plain : value.isTable = false) :
    leaves value = [([], value)] := by
  cases value <;> simp_all [leaves, isTable]

theorem leaves_table (members : List (String × Toml)) :
    leaves (.table members) = members.flatMap fun member =>
      (leaves member.2).map fun leaf => (member.1 :: leaf.1, leaf.2) := by
  rw [leaves]
  induction members with
  | nil => rfl
  | cons member rest ih => rw [memberLeaves, ih, List.flatMap_cons]

theorem mem_leaves_iff {value leaf : Toml} {path : List String} :
    (path, leaf) ∈ leaves value ↔ LeafAt value path leaf := by
  constructor
  next =>
    intro member
    induction value using tableInduction generalizing path with
    | plain value plain =>
      obtain ⟨rfl, rfl⟩ : path = [] ∧ leaf = value := by
        simpa [leaves_of_plain plain] using member
      exact .here plain
    | table members ih =>
      rw [leaves_table] at member
      obtain ⟨⟨key, inner⟩, inside, among⟩ := List.mem_flatMap.mp member
      obtain ⟨⟨below, found⟩, listed, same⟩ := List.mem_map.mp among
      obtain ⟨rfl, rfl⟩ : key :: below = path ∧ found = leaf := by simpa using same
      exact .inside inside (ih _ inside listed)
  next =>
    intro leafAt
    induction leafAt with
    | here plain => simp [leaves_of_plain plain]
    | inside member below ih =>
      rw [leaves_table]
      exact List.mem_flatMap.mpr ⟨_, member, List.mem_map.mpr ⟨_, ih, rfl⟩⟩

theorem pairwise_leaves {value : Toml} (ordered : Ordered value) :
    (leaves value).Pairwise fun earlier later => earlier.1 < later.1 := by
  induction value using tableInduction with
  | plain value plain => simp [leaves_of_plain plain]
  | table members ih =>
    rw [leaves_table, List.pairwise_flatMap]
    constructor
    next =>
      intro member inside
      rw [List.pairwise_map]
      exact (ih member inside (ordered.of_member inside)).imp List.cons_lt_cons_self.mpr
    next =>
      refine (ordered members (.self members)).imp fun less first inside second inside' => ?_
      obtain ⟨leaf, -, rfl⟩ := List.mem_map.mp inside
      obtain ⟨leaf', -, rfl⟩ := List.mem_map.mp inside'
      exact List.Lex.rel (compareOfLessAndEq_eq_lt.mp less)

theorem distinct_leaves {value : Toml} (ordered : Ordered value) :
    ((leaves value).map Prod.fst).Nodup :=
  List.pairwise_map.mpr ((pairwise_leaves ordered).imp fun less => ne_of_lt less)

end Toml

namespace Fills

open Toml

def joined (path : List String) : String := String.intercalate "." path

theorem joinPath_joined {path : List String} (named : ∀ key ∈ path, key ≠ "") (key : String) :
    joinPath (joined path) key = joined (path ++ [key]) := by
  by_cases top : path = []
  next =>
    subst top
    simp [joinPath, joined]
  next =>
    have filled : joined path ≠ "" := by
      obtain ⟨first, rest, rfl⟩ := List.exists_cons_of_ne_nil top
      have nonempty := named first List.mem_cons_self
      cases rest <;> simp [joined, nonempty, ← String.toList_inj]
    have joins : joined (path ++ [key]) = joined path ++ "." ++ key := by
      simp [joined, String.intercalate_append_of_ne_nil top]
    rw [joinPath, joins, if_neg (by simpa using filled)]

def entry (leaf : List String × Toml) : String × Value := (joined leaf.1, leaf.2.toValue)

theorem addNode_of_plain {value : Toml} (plain : value.isTable = false) (fills : Fills)
    (path : String) : addNode fills path value = fills.insert path value.toValue := by
  cases value <;> simp_all [addNode, isTable]

theorem addNode_eq_foldl {value : Toml} (named : Named value) {path : List String}
    (named' : ∀ key ∈ path, key ≠ "") (fills : Fills) :
    addNode fills (joined path) value =
      ((leaves value).map fun leaf => entry (path ++ leaf.1, leaf.2)).foldl
        (fun fills entry => fills.insert entry.1 entry.2) fills := by
  induction value using tableInduction generalizing path fills with
  | plain value plain => simp [addNode_of_plain plain, leaves_of_plain plain, entry]
  | table members ih =>
    rw [addNode, leaves_table]
    have keys : ∀ member ∈ members, member.1 ≠ "" := named members (.self members)
    have deeper : ∀ member ∈ members, Named member.2 := fun _ => named.of_member
    clear named
    induction members generalizing fills with
    | nil => rfl
    | cons member rest ih' =>
      obtain ⟨here, others⟩ := List.forall_mem_cons.mp ih
      obtain ⟨key, otherKeys⟩ := List.forall_mem_cons.mp keys
      obtain ⟨inner, otherInner⟩ := List.forall_mem_cons.mp deeper
      have longer : ∀ key ∈ path ++ [member.1], key ≠ "" := by
        simpa [or_imp, forall_and] using ⟨named', key⟩
      rw [addMembers, joinPath_joined named', here inner longer, ih' others _ otherKeys otherInner]
      simp [List.map_flatMap, List.map_map, Function.comp_def]

theorem ofTable_eq_ofList {members : List (String × Toml)} (named : Named (.table members)) :
    ofTable members = Dict.ofList ((leaves (.table members)).map entry) := by
  have root := @addNode_eq_foldl (.table members) named [] (by simp) ∅
  rw [addNode] at root
  exact root

structure LastLeaf (value : Toml) (key : String) (path : List String) (leaf : Toml) : Prop where
  leafAt : LeafAt value path leaf
  joins : joined path = key
  last : ∀ other leaf', LeafAt value other leaf' → joined other = key →
    other = path ∨ other < path

theorem lastLeaf_iff {value leaf : Toml} (ordered : Ordered value) {key : String}
    {path : List String} :
    LastLeaf value key path leaf ↔
      joined path = key ∧ ∃ before after, leaves value = before ++ (path, leaf) :: after ∧
        ∀ other ∈ after, joined other.1 ≠ key := by
  have sorted := pairwise_leaves ordered
  constructor
  next =>
    rintro ⟨leafAt, joins, last⟩
    obtain ⟨before, after, cut⟩ := List.append_of_mem (mem_leaves_iff.mpr leafAt)
    refine ⟨joins, before, after, cut, fun other member same => ?_⟩
    have further : path < other.1 := by
      rw [cut, List.pairwise_append, List.pairwise_cons] at sorted
      exact sorted.2.1.1 other member
    have leafAt' : LeafAt value other.1 other.2 :=
      mem_leaves_iff.mp (by rw [cut]; simp [member])
    rcases last other.1 other.2 leafAt' same with equal | nearer
    · exact ne_of_lt further equal.symm
    · exact lt_asymm further nearer
  next =>
    rintro ⟨joins, before, after, cut, none⟩
    refine ⟨mem_leaves_iff.mp (by simp [cut]), joins, fun other leaf' leafAt same => ?_⟩
    have member := mem_leaves_iff.mpr leafAt
    rw [cut, List.mem_append, List.mem_cons] at member
    rw [cut, List.pairwise_append] at sorted
    rcases member with early | equal | late
    · exact .inr (sorted.2.2 _ early _ List.mem_cons_self)
    · exact .inl (congrArg Prod.fst equal)
    · exact absurd same (none _ late)

theorem get?_ofTable_iff {members : List (String × Toml)} (ordered : Ordered (.table members))
    (named : Named (.table members)) {key : String} {value : Value} :
    (ofTable members).get? key = some value ↔
      ∃ path leaf, LastLeaf (.table members) key path leaf ∧ leaf.toValue = value := by
  have found := Dict.get?_foldl_insert ((leaves (.table members)).map entry) ∅ key
  rw [Dict.get?_empty, Option.or_none, ← Dict.ofList, ← ofTable_eq_ofList named] at found
  rw [found, List.lookup_eq_some_iff]
  simp only [lastLeaf_iff ordered]
  constructor
  next =>
    rintro ⟨after, before, cut, none⟩
    rw [List.reverse_eq_append_iff, List.reverse_cons, List.append_assoc, List.singleton_append,
      List.map_eq_append_iff] at cut
    obtain ⟨front, rest, cut, -, middle⟩ := cut
    obtain ⟨leaf, back, rfl, same, behind⟩ := List.map_eq_cons_iff.mp middle
    obtain ⟨joins, reads⟩ := Prod.mk.inj same
    refine ⟨leaf.1, leaf.2, ⟨joins, front, back, cut, fun other member same => ?_⟩, reads⟩
    have listed : entry other ∈ after :=
      List.mem_reverse.mp (behind ▸ List.mem_map_of_mem member)
    simpa [entry, same] using none _ listed
  next =>
    rintro ⟨path, leaf, ⟨rfl, before, after, cut, none⟩, rfl⟩
    refine ⟨(after.map entry).reverse, (before.map entry).reverse, by simp [cut, entry], ?_⟩
    intro other member
    obtain ⟨leaf', inside, rfl⟩ := List.mem_map.mp (List.mem_reverse.mp member)
    exact bne_iff_ne.mpr (none leaf' inside).symm

theorem contains_ofTable_iff {members : List (String × Toml)} (named : Named (.table members))
    {key : String} : (ofTable members).contains key = true ↔
      ∃ path leaf, LeafAt (.table members) path leaf ∧ joined path = key := by
  rw [Dict.contains, ← Option.ne_none_iff_isSome, ofTable_eq_ofList named, Ne,
    Dict.get?_ofList_eq_none_iff, not_not]
  simp [entry, mem_leaves_iff]

/-- The keys of the fills of a table are the joined paths of its leaves, and each has the value of
the last of its leaves. If no two paths are joined to the same key, there is one fill for each
leaf. -/
theorem ofTable_flattens {members : List (String × Toml)} (ordered : Ordered (.table members))
    (named : Named (.table members)) :
    (∀ key, (ofTable members).contains key = true ↔
      ∃ path leaf, LeafAt (.table members) path leaf ∧ joined path = key) ∧
    (∀ key value, (ofTable members).get? key = some value ↔
      ∃ path leaf, LastLeaf (.table members) key path leaf ∧ leaf.toValue = value) ∧
    ((∀ path leaf other leaf', LeafAt (.table members) path leaf →
        LeafAt (.table members) other leaf' → joined path = joined other → path = other) →
      ∃ all : List (List String × Toml), all.Nodup ∧
        (∀ path leaf, (path, leaf) ∈ all ↔ LeafAt (.table members) path leaf) ∧
        (ofTable members).entries.Perm (all.map fun leaf => (joined leaf.1, leaf.2.toValue))) := by
  refine ⟨fun _ => contains_ofTable_iff named, fun _ _ => get?_ofTable_iff ordered named,
    fun apart => ?_⟩
  have paths := distinct_leaves ordered
  have distinct : (((leaves (.table members)).map entry).map Prod.fst).Nodup := by
    rw [List.map_map]
    refine List.Nodup.map_on ?_ (Dict.nodup_of_keys paths)
    intro first inside second inside' same
    have path := apart _ _ _ _ (mem_leaves_iff.mp inside) (mem_leaves_iff.mp inside') same
    exact List.inj_on_of_nodup_map paths inside inside' path
  refine ⟨leaves (.table members), Dict.nodup_of_keys paths, fun _ _ => mem_leaves_iff, ?_⟩
  rw [ofTable_eq_ofList named]
  exact Dict.entries_ofList_perm distinct

def overlapping : List (String × Toml) :=
  [("a", .table [("b", .integer 2), ("c", .flag true)]), ("a.b", .text "last")]

theorem ofTable_flattens_overlapping :
    Ordered (.table overlapping) ∧ Named (.table overlapping) ∧
      (ofTable overlapping).get? "a.b" = some (.text "last") ∧
      (ofTable overlapping).contains "a.c" = true ∧ (ofTable overlapping).contains "a" = false := by
  have settled : settleMembers? [("a.b", .text "last"),
      ("a", .table [("c", .flag true), ("b", .integer 2)])] = some overlapping := rfl
  have ordered := settleMembers?_ordered (fun _ _ _ => settle?_ordered) settled
  have named : Named (.table overlapping) := by
    refine named_table (by simp [overlapping]) ?_
    simp only [overlapping, List.forall_mem_cons]
    have inner : Named (.table [("b", .integer 2), ("c", .flag true)]) := by
      refine named_table (by simp) ?_
      simp only [List.forall_mem_cons]
      exact ⟨named_of_plain rfl, named_of_plain rfl, by simp⟩
    exact ⟨inner, named_of_plain rfl, by simp⟩
  have all : leaves (.table overlapping) =
      [(["a", "b"], .integer 2), (["a", "c"], .flag true)] ++ [(["a.b"], .text "last")] := rfl
  obtain ⟨keys, values, -⟩ := ofTable_flattens ordered named
  refine ⟨ordered, named, (values _ _).mpr ⟨["a.b"], .text "last", ?_, rfl⟩, (keys _).mpr ?_, ?_⟩
  · exact (lastLeaf_iff ordered).mpr ⟨rfl, _, [], all, by simp⟩
  · exact ⟨["a", "c"], .flag true, mem_leaves_iff.mp (by simp [all]), rfl⟩
  · refine Bool.eq_false_iff.mpr fun present => ?_
    obtain ⟨path, leaf, leafAt, joins⟩ := (keys "a").mp present
    have member := mem_leaves_iff.mpr leafAt
    rw [all] at member
    simp only [List.cons_append, List.nil_append, List.mem_cons, Prod.mk.injEq, List.not_mem_nil,
      or_false] at member
    rcases member with ⟨rfl, -⟩ | ⟨rfl, -⟩ | ⟨rfl, -⟩ <;> revert joins <;> decide

end Fills

end Runbook
