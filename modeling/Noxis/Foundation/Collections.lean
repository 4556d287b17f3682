import Mathlib.Data.Finmap
import Mathlib.Data.List.Sort

namespace Foundation

/-!
# Ordered listings of unordered collections

A hash set or hash map has no iteration order of its own.  Programs that need
a canonical listing collect the elements in whatever order they arrive and
sort them.  Here a set is a `Finset` and a map is a `Finmap`: both are lists
up to permutation, so an ordered listing can only be defined by proving that
it does not depend on the order of arrival.

Strictly increasing lists and unordered collections determine each other.
This is the representation fact behind canonical snapshots.
-/

variable {α K V : Type}

section
variable [LinearOrder α]

private theorem insertionSort_eq_of_perm {left right : List α} (permuted : left.Perm right) :
    left.insertionSort (· <= ·) = right.insertionSort (· <= ·) :=
  List.Perm.eq_of_pairwise'
    (List.pairwise_insertionSort (· <= ·) left) (List.pairwise_insertionSort (· <= ·) right)
    (((List.perm_insertionSort (· <= ·) left).trans permuted).trans
      (List.perm_insertionSort (· <= ·) right).symm)

/-- The elements of a finite set in increasing order. -/
def sortedList (set : Finset α) : List α :=
  Quotient.liftOn set.val (List.insertionSort (· <= ·)) (fun _ _ => insertionSort_eq_of_perm)

theorem coe_sortedList (set : Finset α) : (↑(sortedList set) : Multiset α) = set.val := by
  rcases set with ⟨elements, distinct⟩
  induction elements using Quotient.inductionOn with
  | h values => exact Quotient.sound (List.perm_insertionSort (· <= ·) values)

@[simp] theorem mem_sortedList {set} {value : α} : value ∈ sortedList set <-> value ∈ set := by
  rw [← Multiset.mem_coe, coe_sortedList]
  exact Iff.rfl

theorem nodup_sortedList (set : Finset α) : (sortedList set).Nodup := by
  rw [← Multiset.coe_nodup, coe_sortedList]
  exact set.nodup

theorem pairwise_sortedList (set : Finset α) : (sortedList set).Pairwise (· < ·) := by
  have ordered : (sortedList set).Pairwise (· <= ·) := by
    rcases set with ⟨elements, distinct⟩
    induction elements using Quotient.inductionOn with
    | h values => exact List.pairwise_insertionSort (· <= ·) values
  exact (ordered.and (nodup_sortedList set)).imp (fun pair => lt_of_le_of_ne pair.1 pair.2)

@[simp] theorem toFinset_sortedList (set : Finset α) : (sortedList set).toFinset = set := by
  ext value
  rw [List.mem_toFinset, mem_sortedList]

theorem sortedList_toFinset {values : List α} (increasing : values.Pairwise (· < ·)) :
    sortedList values.toFinset = values :=
  List.Pairwise.eq_of_mem_iff (pairwise_sortedList _) increasing
    (fun value => by rw [mem_sortedList, List.mem_toFinset])

end

section
variable [DecidableEq α]

/-- The set holds exactly the entries of a log in which nothing occurs twice. -/
structure RecordsOnce (set : Finset α) (log : List α) : Prop where
  nodup : log.Nodup
  elements : set = log.toFinset

theorem RecordsOnce.empty : RecordsOnce (∅ : Finset α) [] :=
  ⟨List.nodup_nil, rfl⟩

/-- Distinct entries that the set does not hold yet may be added. -/
theorem RecordsOnce.append {set : Finset α} {log entries : List α} (recorded : RecordsOnce set log)
    (distinct : entries.Nodup) (fresh : forall entry, entry ∈ entries -> entry ∉ set) :
    RecordsOnce (set ∪ entries.toFinset) (log ++ entries) := by
  constructor
  · refine List.nodup_append.mpr ⟨recorded.nodup, distinct, ?_⟩
    intro old logged entry member same
    refine fresh entry member ?_
    rw [recorded.elements, ← same]
    exact List.mem_toFinset.mpr logged
  · rw [recorded.elements, List.toFinset_append]

end

/-- A finite map, up to the order in which its entries are stored. -/
abbrev Table (K V : Type) : Type := Finmap (fun _ : K => V)

section
variable [LinearOrder K]

/-- The entries of a map in increasing key order. -/
def sortedEntries (table : Table K V) : List (K × V) :=
  (sortedList table.keys).filterMap (fun key => (table.lookup key).map (fun value => (key, value)))

@[simp] theorem mem_sortedEntries {table : Table K V} {entry : K × V} :
    entry ∈ sortedEntries table <-> table.lookup entry.1 = some entry.2 := by
  rcases entry with ⟨key, value⟩
  simp only [sortedEntries, List.mem_filterMap, mem_sortedList, Option.map_eq_some_iff,
    Prod.mk.injEq]
  constructor
  · rintro ⟨listed, _, stored, found, sameKey, sameValue⟩
    subst sameKey sameValue
    exact found
  · intro found
    exact ⟨key, Finmap.mem_keys.mpr (Finmap.mem_of_lookup_eq_some found), value, found, rfl, rfl⟩

theorem pairwise_sortedEntries (table : Table K V) :
    (sortedEntries table).Pairwise (fun left right => left.1 < right.1) := by
  refine (pairwise_sortedList table.keys).filterMap _ ?_
  grind [Option.map_eq_some_iff]

def insertAll (table : Table K V) (entries : List (K × V)) : Table K V :=
  entries.foldl (fun current entry => current.insert entry.1 entry.2) table

/-- With increasing keys no entry overwrites another, so each one is found
again and everything else is read from the original map. -/
theorem lookup_insertAll {entries}
    (increasing : entries.Pairwise (fun left right => left.1 < right.1)) (table : Table K V)
    (key : K) (value : V) :
    (insertAll table entries).lookup key = some value <->
      (key, value) ∈ entries ∨
        (table.lookup key = some value /\ key ∉ entries.map Prod.fst) := by
  induction entries generalizing table with
  | nil => simp [insertAll]
  | cons entry rest ih =>
    rcases entry with ⟨entryKey, entryValue⟩
    have parts := List.pairwise_cons.mp increasing
    have keyFresh : entryKey ∉ rest.map Prod.fst := by
      grind
    change (insertAll (table.insert entryKey entryValue) rest).lookup key = some value <-> _
    rw [ih parts.2]
    simp only [List.mem_cons, Prod.mk.injEq, List.map_cons]
    by_cases sameKey : key = entryKey
    · subst sameKey
      rw [Finmap.lookup_insert]
      constructor
      · rintro (member | ⟨stored, _⟩)
        · exact Or.inl (Or.inr member)
        · exact Or.inl (Or.inl ⟨rfl, (Option.some.inj stored).symm⟩)
      · rintro ((⟨_, sameValue⟩ | member) | ⟨_, absent⟩)
        · exact Or.inr ⟨by rw [sameValue], keyFresh⟩
        · exact Or.inl member
        · exact (absent (Or.inl rfl)).elim
    simp [*]

theorem insertAll_sortedEntries (table : Table K V) :
    insertAll ∅ (sortedEntries table) = table := by
  apply Finmap.ext_lookup
  intro key
  apply Option.ext
  simp [lookup_insertAll, pairwise_sortedEntries]

/-- A list with increasing keys is the ordered listing of the map it builds. -/
theorem sortedEntries_insertAll {entries : List (K × V)}
    (increasing : entries.Pairwise (fun left right => left.1 < right.1)) :
    sortedEntries (insertAll ∅ entries) = entries := by
  have irreflexive : Std.Irrefl (fun left right : K × V => left.1 < right.1) :=
    ⟨fun entry => lt_irrefl entry.1⟩
  have antisymmetric : Std.Antisymm (fun left right : K × V => left.1 < right.1) :=
    ⟨fun _ _ before after => absurd before (lt_asymm after)⟩
  refine List.Pairwise.eq_of_mem_iff (pairwise_sortedEntries _) increasing (fun entry => ?_)
  simp [lookup_insertAll, *]

end
end Foundation
