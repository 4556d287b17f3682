import Mathlib.Data.List.Chain
import Mathlib.Data.List.Sort
import Noxis.Foundation.Stateful

namespace Foundation

/-!
# Lists kept in order

Canonical lists are kept sorted by a key.  A list is brought into that order
by sorting; that it is in order is checked by comparing each entry with its
predecessor, and an entry is found by halving the list.  The check is as
strong as comparing all pairs, because the order is transitive; the search
then finds an entry exactly when there is one.
-/

variable {ε α κ : Type}

/-- Check every entry together with the one before it, from the front. -/
def forEachWithPrevious (check : Option α -> α -> Except ε Unit) :
    Option α -> List α -> Except ε Unit
  | _, [] => .ok ()
  | previous, value :: rest => do
      check previous value
      forEachWithPrevious check (some value) rest

/-- When the check of an entry is a condition on the entry and a relation to
its predecessor, the whole pass is the condition on all entries and the
relation between all neighbours. -/
theorem forEachWithPrevious_eq_ok {check : Option α -> α -> Except ε Unit} {good : α -> Prop}
    {below : α -> α -> Prop}
    (checked : forall previous value, check previous value = .ok () <->
      good value /\ forall before, previous = some before -> below before value)
    (previous : Option α) (values : List α) :
    forEachWithPrevious check previous values = .ok () <->
      (forall value, value ∈ values -> good value) /\
        (previous.toList ++ values).IsChain below := by
  induction values generalizing previous with
  | nil =>
    cases previous <;> simp [forEachWithPrevious]
  | cons value rest ih =>
    unfold forEachWithPrevious
    rw [Except.bind_eq_ok]
    have later := ih (some value)
    cases previous with
    | none =>
      simp only [checked, later, Option.toList, List.nil_append, List.singleton_append,
        List.mem_cons, forall_eq_or_imp]
      constructor
      · grind
      · rintro ⟨⟨isGood, restGood⟩, chained⟩
        exact ⟨(), ⟨isGood, nofun⟩, restGood, chained⟩
    | some before =>
      simp only [checked, later, Option.toList, List.singleton_append, List.isChain_cons_cons,
        List.mem_cons, forall_eq_or_imp]
      constructor
      · grind
      · rintro ⟨⟨isGood, restGood⟩, isBelow, chained⟩
        refine ⟨(), ⟨isGood, ?_⟩, restGood, chained⟩
        intro other same
        cases same
        exact isBelow

/-- Whether some entry is related to the one after it. -/
def anyNeighbours (related : α -> α -> Bool) (values : List α) : Bool :=
  (values.zip values.tail).any (fun pair => related pair.1 pair.2)

theorem anyNeighbours_eq_false {related : α -> α -> Bool} {values : List α} :
    anyNeighbours related values = false <->
      values.IsChain (fun left right => related left right = false) := by
  induction values with
  | nil => simp [anyNeighbours]
  | cons value rest ih =>
    cases rest with
    | nil => simp [anyNeighbours]
    | cons next others =>
      grind [anyNeighbours]

section
variable [LinearOrder κ] {key : α -> κ}

/-- Strictly increasing keys, all above the last key seen if there is one. -/
def AscendsFrom (key : α -> κ) (prior : Option κ) (values : List α) : Prop :=
  values.Pairwise (fun left right => key left < key right) /\
    forall previous, previous ∈ prior -> forall value, value ∈ values -> previous < key value

theorem ascendsFrom_nil (prior : Option κ) : AscendsFrom key prior [] :=
  ⟨List.Pairwise.nil, fun _ _ _ impossible => absurd impossible List.not_mem_nil⟩

theorem ascendsFrom_none {values} :
    AscendsFrom key none values <->
      values.Pairwise (fun left right => key left < key right) := by
  simp [AscendsFrom]

theorem ascendsFrom_cons {prior} {value : α} {rest} :
    AscendsFrom key prior (value :: rest) <->
      (forall previous, previous ∈ prior -> previous < key value) /\
        AscendsFrom key (some (key value)) rest := by
  unfold AscendsFrom
  rw [List.pairwise_cons]
  constructor
  · grind
  · rintro ⟨above, sorted, below⟩
    refine ⟨⟨below (key value) rfl, sorted⟩, ?_⟩
    intro previous isPrior
    refine List.forall_mem_cons.mpr ⟨above previous isPrior, ?_⟩
    grind [lt_trans]

/-- The test of a loop against the last key it accepted. -/
theorem any_le_eq_false {prior : Option κ} {bound : κ} :
    ¬ prior.any (fun previous => decide (bound <= previous)) = true <->
      forall previous, previous ∈ prior -> previous < bound := by
  cases prior with
  | none => simp
  | some stored => simp

end

/-! ## Sorting by a key -/

section
variable [LinearOrder κ] (key : α -> κ)

def sortByKey (values : List α) : List α :=
  values.insertionSort (fun left right => key left <= key right)

theorem sortByKey_perm (values : List α) : (sortByKey key values).Perm values :=
  List.perm_insertionSort _ values

theorem pairwise_le_sortByKey (values : List α) :
    (sortByKey key values).Pairwise (fun left right => key left <= key right) := by
  have total : Std.Total (fun left right : α => key left <= key right) :=
    ⟨fun left right => le_total (key left) (key right)⟩
  have transitive : IsTrans α (fun left right => key left <= key right) :=
    ⟨fun _ _ _ => le_trans⟩
  exact List.pairwise_insertionSort _ values

theorem pairwise_lt_sortByKey {values} (distinct : (values.map key).Nodup) :
    (sortByKey key values).Pairwise (fun left right => key left < key right) := by
  have stillDistinct : ((sortByKey key values).map key).Nodup :=
    ((sortByKey_perm key values).map key).nodup_iff.mpr distinct
  have apart := (pairwise_le_sortByKey key values).and (List.pairwise_map.mp stillDistinct)
  exact apart.imp (fun pair => lt_of_le_of_ne pair.1 pair.2)

/-- A strictly sorted list is what sorting makes of its permutations, and of
nothing else. -/
theorem sortByKey_eq_iff_perm {sorted values}
    (increasing : sorted.Pairwise (fun left right => key left < key right)) :
    sorted = sortByKey key values <-> sorted.Perm values := by
  constructor
  · intro same
    rw [same]
    exact sortByKey_perm key values
  · intro permuted
    have distinct : (values.map key).Nodup :=
      (permuted.map key).nodup_iff.mp (List.pairwise_map.mpr (increasing.imp ne_of_lt))
    refine (permuted.trans (sortByKey_perm key values).symm).eq_of_pairwise ?_ increasing
      (pairwise_lt_sortByKey key distinct)
    grind

end

section
variable {ℓ : Type} [LinearOrder κ] {key : α -> κ} {label : α -> ℓ} {values : List α}
  (sorted : values.Pairwise (fun left right => key left <= key right))

include sorted

private theorem key_mono {first second : Nat} (firstBound : first < values.length)
    (secondBound : second < values.length) (before : first <= second) :
    key values[first] <= key values[second] := by
  grind [List.pairwise_iff_getElem]

/-- Without equal neighbours, an entry is followed by another one strictly
before the next entry with the same label. -/
private theorem between_of_isChain
    (labelled : forall left right, key left = key right -> label left = label right)
    (unequal : values.IsChain (fun left right => label left ≠ label right)) {first second : Nat}
    (firstBound : first < values.length) (secondBound : second < values.length)
    (before : first < second) (sameLabel : label values[first] = label values[second]) :
    ∃ value, value ∈ values /\ key values[first] < key value /\ key value < key values[second] := by
  have nextBound : first + 1 < values.length := by omega
  have differs := List.isChain_iff_getElem.mp unequal first nextBound
  have afterFirst := key_mono sorted firstBound nextBound (Nat.le_succ first)
  have beforeSecond := key_mono sorted nextBound secondBound before
  grind [lt_of_le_of_ne]

/-- Comparing neighbours in a sorted list finds no equal labels exactly when
any two entries with one label have an entry strictly between them. -/
theorem isChain_label_ne_iff (distinct : values.Nodup)
    (labelled : forall left right, key left = key right -> label left = label right) :
    values.IsChain (fun left right => label left ≠ label right) <->
      forall left, left ∈ values -> forall right, right ∈ values -> left ≠ right ->
        label left = label right -> key left <= key right ->
          ∃ value, value ∈ values /\ key left < key value /\ key value < key right := by
  constructor
  · intro unequal left leftMember right rightMember different sameLabel ordered
    rcases List.getElem_of_mem leftMember with ⟨first, firstBound, rfl⟩
    rcases List.getElem_of_mem rightMember with ⟨second, secondBound, rfl⟩
    rcases Nat.lt_trichotomy first second with before | same | after
    · exact between_of_isChain sorted labelled unequal firstBound secondBound before sameLabel
    · subst same
      exact absurd rfl different
    · rcases between_of_isChain sorted labelled unequal secondBound firstBound after
        sameLabel.symm with ⟨value, _, above, below⟩
      exact absurd ordered (not_le.mpr (above.trans below))
  · intro separated
    refine List.isChain_iff_getElem.mpr ?_
    intro index nextBound sameLabel
    have bound : index < values.length := by omega
    have different : values[index] ≠ values[index + 1] := by
      grind [List.Nodup.getElem_inj_iff]
    rcases separated _ (List.getElem_mem bound) _ (List.getElem_mem nextBound) different sameLabel
      (key_mono sorted bound nextBound (Nat.le_succ index)) with ⟨value, member, above, below⟩
    rcases List.getElem_of_mem member with ⟨position, positionBound, rfl⟩
    have afterIndex : index < position := by
      by_contra notAfter
      exact absurd (key_mono sorted positionBound bound (Nat.not_lt.mp notAfter)) (not_le.mpr above)
    exact absurd (key_mono sorted nextBound positionBound afterIndex) (not_le.mpr below)

end

section
variable [LinearOrder κ] (key : α -> κ) (target : κ) (values : List α)

/-- The halving loop.  The entry looked for is one of the `size` entries from
`base` on; each round drops the half that cannot hold it. -/
def halve : Nat -> Nat -> Nat -> Nat
  | 0, base, _ => base
  | fuel + 1, base, size =>
    if 1 < size then
      let middle := base + size / 2
      let above := (values[middle]?).any (fun value => decide (target < key value))
      halve fuel (if above then base else middle) (size - size / 2)
    else base

/-- The position of an entry with the given key. -/
def binarySearchByKey : Option Nat :=
  let base := halve key target values values.length 0 values.length
  if (values[base]?).any (fun value => decide (key value = target)) then some base else none

variable {key target values}

/-- The loop ends at the entry with the target key when there is one. -/
private theorem halve_eq (increasing : values.Pairwise (fun left right => key left < key right))
    {index : Nat} (inBounds : index < values.length) (hasKey : key values[index] = target)
    (fuel base size : Nat) (enough : size <= fuel + 1) (withinList : base + size <= values.length)
    (fromBase : base <= index) (beforeEnd : index < base + size) :
    halve key target values fuel base size = index := by
  induction fuel generalizing base size with
  | zero =>
    unfold halve
    omega
  | succ fuel ih =>
    unfold halve
    by_cases several : 1 < size
    · rw [if_pos several]
      have middleInBounds : base + size / 2 < values.length := by omega
      have ordered : forall first second (firstBound : first < values.length)
          (secondBound : second < values.length), first < second ->
            key values[first] < key values[second] :=
        fun first second firstBound secondBound =>
          List.pairwise_iff_getElem.mp increasing first second firstBound secondBound
      dsimp only
      rw [List.getElem?_eq_getElem middleInBounds, Option.any_some]
      by_cases above : target < key values[base + size / 2]
      · rw [decide_eq_true above, if_pos rfl]
        have beforeMiddle : index < base + size / 2 := by
          by_contra atLeast
          grind
        exact ih base (size - size / 2) (by omega) (by omega) fromBase (by omega)
      · rw [decide_eq_false above, if_neg Bool.false_ne_true]
        have fromMiddle : base + size / 2 <= index := by
          by_contra isBefore
          grind
        exact ih (base + size / 2) (size - size / 2) (by omega) (by omega)
          fromMiddle (by omega)
    · rw [if_neg several]
      omega

/-- In a list with strictly increasing keys the search returns the position of
the entry with the target key. -/
theorem binarySearchByKey_eq_some
    (increasing : values.Pairwise (fun left right => key left < key right)) {index : Nat} :
    binarySearchByKey key target values = some index <->
      ∃ found, values[index]? = some found /\ key found = target := by
  unfold binarySearchByKey
  constructor
  · intro search
    dsimp only at search
    split at search
    · rename_i matched
      rw [← Option.some.inj search]
      rcases (Option.any_eq_true _ _).mp matched with ⟨found, isFound, same⟩
      exact ⟨found, isFound, of_decide_eq_true same⟩
    · cases search
  · rintro ⟨found, isFound, hasKey⟩
    rcases List.getElem?_eq_some_iff.mp isFound with ⟨inBounds, rfl⟩
    have base := halve_eq increasing inBounds hasKey values.length 0 values.length
      (Nat.le_succ _) (by omega) (Nat.zero_le _) (by omega)
    simp [*]

end
end Foundation
