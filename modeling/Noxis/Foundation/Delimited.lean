import Noxis.Foundation.Bytes

namespace Foundation

/-!
# Self-delimiting encodings

An encoding is self-delimiting when the end of an encoded value can be found
without knowing what follows it.  Such encodings may be written one after the
other: equal concatenations have equal components.  The property is what makes
a hash preimage without separators unambiguous, and it needs no decoder.

Every result is relative to the set of values the encoder accepts.  Length
fields are only faithful below their width, and the values a program actually
encodes are bounded by checks it makes elsewhere.
-/

variable {α β : Type}

/-- Equal encodings, each followed by anything, encode equal values and are
followed by the same bytes. -/
def Delimited (valid : α -> Prop) (encode : α -> List UInt8) : Prop :=
  forall (left right : α) (afterLeft afterRight : List UInt8), valid left -> valid right ->
    encode left ++ afterLeft = encode right ++ afterRight ->
    left = right /\ afterLeft = afterRight

namespace Delimited

variable {valid : α -> Prop} {encode : α -> List UInt8}

theorem injective (delimited : Delimited valid encode) {left right : α}
    (leftValid : valid left) (rightValid : valid right)
    (same : encode left = encode right) : left = right :=
  (delimited left right [] [] leftValid rightValid (by rw [same])).1

theorem weaken (delimited : Delimited valid encode) {smaller : α -> Prop}
    (included : forall value, smaller value -> valid value) : Delimited smaller encode :=
  fun left right afterLeft afterRight leftValid rightValid same =>
    delimited left right afterLeft afterRight (included left leftValid) (included right rightValid) same

theorem congr (delimited : Delimited valid encode) {other}
    (agrees : forall value, valid value -> other value = encode value) : Delimited valid other := by
  intro left right afterLeft afterRight leftValid rightValid same
  rw [agrees left leftValid, agrees right rightValid] at same
  exact delimited left right afterLeft afterRight leftValid rightValid same

/-- An injective encoding of constant width. -/
theorem ofWidth (width : Nat) (sized : forall value, valid value -> (encode value).length = width)
    (separates : forall left right, valid left -> valid right ->
      encode left = encode right -> left = right) : Delimited valid encode := by
  intro left right afterLeft afterRight leftValid rightValid same
  grind [List.append_inj]

theorem bigEndian (width : Nat) :
    Delimited (fun value => value < 256 ^ width) (Foundation.bigEndian width) :=
  ofWidth width (fun value _ => length_bigEndian width value)
    (fun _ _ leftFits rightFits same => bigEndian_injective leftFits rightFits same)

theorem bytes (width : Nat) : Delimited (fun _ : Bytes width => True) Bytes.toList :=
  ofWidth width (fun array _ => array.length_toList)
    (fun _ _ _ _ same => Bytes.toList_injective same)

theorem byte : Delimited (fun _ : UInt8 => True) (fun value => [value]) :=
  ofWidth 1 (fun _ _ => rfl) (fun _ _ _ _ same => (List.cons.inj same).1)

/-- Encode a part of a value that determines it. -/
theorem comap (delimited : Delimited valid encode) {part : β -> α}
    (determines : Function.Injective part) :
    Delimited (fun value => valid (part value)) (fun value => encode (part value)) := by
  intro left right afterLeft afterRight leftValid rightValid same
  have parts := delimited _ _ afterLeft afterRight leftValid rightValid same
  exact ⟨determines parts.1, parts.2⟩

/-- Two fields, one after the other. -/
theorem pair {validNext : β -> Prop} {encodeNext} (first : Delimited valid encode)
    (second : Delimited validNext encodeNext) :
    Delimited (fun value : α × β => valid value.1 /\ validNext value.2)
      (fun value => encode value.1 ++ encodeNext value.2) := by
  intro left right afterLeft afterRight leftValid rightValid same
  rw [List.append_assoc, List.append_assoc] at same
  have heads := first _ _ _ _ leftValid.1 rightValid.1 same
  have tails := second _ _ _ _ leftValid.2 rightValid.2 heads.2
  exact ⟨Prod.ext heads.1 tails.1, tails.2⟩

/-- A part of a value, then the rest, whose encoding may depend on the part. -/
theorem bind {validNext : α -> β -> Prop} {encodeNext : α -> β -> List UInt8} (part : β -> α)
    (first : Delimited valid encode)
    (second : forall value, valid value -> Delimited (validNext value) (encodeNext value)) :
    Delimited (fun whole => valid (part whole) /\ validNext (part whole) whole)
      (fun whole => encode (part whole) ++ encodeNext (part whole) whole) := by
  intro left right afterLeft afterRight leftValid rightValid same
  rw [List.append_assoc, List.append_assoc] at same
  have heads := first _ _ _ _ leftValid.1 rightValid.1 same
  rw [← heads.1] at rightValid heads
  exact second _ leftValid.1 _ _ _ _ leftValid.2 rightValid.2 heads.2

/-- The elements of two lists of equal length, one after the other. -/
private theorem elements (delimited : Delimited valid encode) (left right : List α)
    (afterLeft afterRight : List UInt8) (sameLength : left.length = right.length)
    (leftValid : forall value, value ∈ left -> valid value)
    (rightValid : forall value, value ∈ right -> valid value)
    (same : left.flatMap encode ++ afterLeft = right.flatMap encode ++ afterRight) :
    left = right /\ afterLeft = afterRight := by
  induction left generalizing right with
  | nil =>
    grind
  | cons head tail ih =>
    cases right with
    | nil => cases sameLength
    | cons other rest =>
      rw [List.flatMap_cons, List.flatMap_cons, List.append_assoc, List.append_assoc] at same
      have heads := delimited _ _ _ _ (leftValid head List.mem_cons_self)
        (rightValid other List.mem_cons_self) same
      have tails := ih rest (Nat.succ.inj sameLength)
        (fun value member => leftValid value (List.mem_cons_of_mem head member))
        (fun value member => rightValid value (List.mem_cons_of_mem other member)) heads.2
      exact ⟨by rw [heads.1, tails.1], tails.2⟩

/-- A list of known length. -/
theorem sized (count : Nat) (delimited : Delimited valid encode) :
    Delimited (fun values : List α =>
        values.length = count /\ forall value, value ∈ values -> valid value)
      (fun values => values.flatMap encode) :=
  fun left right afterLeft afterRight leftValid rightValid same =>
    elements delimited left right afterLeft afterRight (leftValid.1.trans rightValid.1.symm)
      leftValid.2 rightValid.2 same

/-- A list behind a count of fixed width. -/
theorem counted (width : Nat) (delimited : Delimited valid encode) :
    Delimited (fun values : List α =>
        values.length < 256 ^ width /\ forall value, value ∈ values -> valid value)
      (fun values => Foundation.bigEndian width values.length ++ values.flatMap encode) := by
  intro left right afterLeft afterRight leftValid rightValid same
  rw [List.append_assoc, List.append_assoc] at same
  have counts := bigEndian width _ _ _ _ leftValid.1 rightValid.1 same
  grind [elements]

/-- A list that ends with the input needs no count. -/
theorem listed (delimited : Delimited valid encode)
    (nonempty : forall value, valid value -> encode value ≠ []) {left right : List α}
    (leftValid : forall value, value ∈ left -> valid value)
    (rightValid : forall value, value ∈ right -> valid value)
    (same : left.flatMap encode = right.flatMap encode) : left = right := by
  induction left generalizing right with
  | nil =>
    cases right with
    | nil => rfl
    | cons other rest =>
      grind [List.append_eq_nil_iff]
  | cons head tail ih =>
    cases right with
    | nil =>
      grind [List.append_eq_nil_iff]
    | cons other rest =>
      rw [List.flatMap_cons, List.flatMap_cons] at same
      have heads := delimited _ _ _ _ (leftValid head List.mem_cons_self)
        (rightValid other List.mem_cons_self) same
      grind

/-- A byte string behind its length. -/
theorem prefixed (width : Nat) :
    Delimited (fun content : List UInt8 => content.length < 256 ^ width)
      (fun content => Foundation.bigEndian width content.length ++ content) := by
  intro left right afterLeft afterRight leftValid rightValid same
  rw [List.append_assoc, List.append_assoc] at same
  have counts := bigEndian width _ _ _ _ leftValid rightValid same
  exact List.append_inj counts.2 counts.1

end Delimited
end Foundation
