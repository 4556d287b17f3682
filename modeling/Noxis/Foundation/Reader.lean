import Noxis.Foundation.Bytes
import Noxis.Foundation.Stateful

namespace Foundation

/-!
# A cursor over bytes and exact decoders

A reader is a byte string with a position that never passes its end.  Reading
is a stateful computation with three ways to fail: an addition of machine
integers overflows, the input ends too early, or input is left over.

`Reads` relates a decoder to an encoder.  It has two halves.  Whatever the
decoder returns is valid and its encoding is exactly what was consumed; and on
a valid value's encoding the decoder returns that value.  The relation is
closed under sequencing, so a decoder is verified field by field.  Together
the halves say that decoding and encoding are inverse and that every accepted
input has one representation.
-/

structure Reader where
  bytes : List UInt8
  offset : Nat
  within : offset <= bytes.length

/-- The errors every reader of a format needs. -/
class ReaderErrors (ε : Type) where
  lengthOverflow : ε
  unexpectedEnd (offset : Nat) : ε
  trailingBytes (count : Nat) : ε

namespace Reader

def new (bytes : List UInt8) : Reader := ⟨bytes, 0, Nat.zero_le _⟩

def remaining (reader : Reader) : Nat := reader.bytes.length - reader.offset

/-- The input that has not been read. -/
def rest (reader : Reader) : List UInt8 := reader.bytes.drop reader.offset

theorem length_rest (reader : Reader) : reader.rest.length = reader.remaining :=
  List.length_drop

end Reader

variable {ε α β : Type}

section
variable [ReaderErrors ε]

/-- The next `length` bytes.  The end position is computed in 64 bits. -/
def readExact (length : Nat) : EStateM ε Reader (List UInt8) := fun reader =>
  if 2 ^ 64 <= reader.offset + length then
    .error ReaderErrors.lengthOverflow reader
  else if fits : reader.offset + length <= reader.bytes.length then
    .ok (reader.rest.take length) ⟨reader.bytes, reader.offset + length, fits⟩
  else .error (ReaderErrors.unexpectedEnd reader.offset) reader

def readArray (width : Nat) : EStateM ε Reader (Bytes width) := do
  let slice ← readExact width
  match Bytes.ofList? width slice with
  | some array => pure array
  | none => throw (ReaderErrors.unexpectedEnd (← get).offset)

def readU8 : EStateM ε Reader UInt8 := do
  let slice ← readExact 1
  return slice.headD 0

def readU16 : EStateM ε Reader UInt16 := do
  let array ← readArray 2
  return UInt16.ofNat (ofBigEndian array.toList)

def readU32 : EStateM ε Reader UInt32 := do
  let array ← readArray 4
  return UInt32.ofNat (ofBigEndian array.toList)

def readU64 : EStateM ε Reader UInt64 := do
  let array ← readArray 8
  return UInt64.ofNat (ofBigEndian array.toList)

def readI64 : EStateM ε Reader Int64 := do
  let value ← readU64
  return value.toInt64

/-- Fail unless at least `count` bytes are left. -/
def ensureRemaining (count : Nat) : EStateM ε Reader Unit := fun reader =>
  if reader.remaining < count then .error (ReaderErrors.unexpectedEnd reader.offset) reader
  else .ok () reader

/-- Fail unless everything was read. -/
def finish : EStateM ε Reader Unit := fun reader =>
  if reader.remaining = 0 then .ok () reader
  else .error (ReaderErrors.trailingBytes reader.remaining) reader

/-- Run a decoder on a complete input. -/
def parse (read : EStateM ε Reader α) (bytes : List UInt8) : Except ε α :=
  match (read >>= fun value => finish >>= fun _ => pure value) (Reader.new bytes) with
  | .ok value _ => .ok value
  | .error reason _ => .error reason

/-- The errors a reader raises by itself. -/
inductive IsReaderError : ε -> Prop where
  | lengthOverflow : IsReaderError ReaderErrors.lengthOverflow
  | unexpectedEnd (offset : Nat) : IsReaderError (ReaderErrors.unexpectedEnd offset)
  | trailingBytes (count : Nat) : IsReaderError (ReaderErrors.trailingBytes count)

end

/-- Repeat a decoder a fixed number of times. -/
def readMany (read : EStateM ε Reader α) : Nat -> EStateM ε Reader (List α)
  | 0 => pure []
  | count + 1 => do
      let head ← read
      let tail ← readMany read count
      return head :: tail

/-- Repeat a decoder that knows how often it was repeated before. -/
def readIndexed (read : Nat -> EStateM ε Reader α) : Nat -> Nat -> EStateM ε Reader (List α)
  | _, 0 => pure []
  | index, count + 1 => do
      let head ← read index
      let tail ← readIndexed read (index + 1) count
      return head :: tail

/-- Repeat a decoder that depends on what was read before. -/
def readTracking {κ : Type} (read : κ -> EStateM ε Reader α) (advance : κ -> α -> κ) :
    κ -> Nat -> EStateM ε Reader (List α)
  | _, 0 => pure []
  | known, count + 1 => do
      let head ← read known
      let tail ← readTracking read advance (advance known head) count
      return head :: tail

/-- Each value is valid after those before it. -/
def ValidTracking {κ : Type} (valid : κ -> α -> Prop) (advance : κ -> α -> κ) :
    κ -> List α -> Prop
  | _, [] => True
  | known, value :: rest =>
    valid known value /\ ValidTracking valid advance (advance known value) rest

variable {κ : Type} {valid : α -> Prop} {values : List α}
  {advance : κ -> α -> κ} {known : κ}

theorem validTracking_const :
    ValidTracking (fun _ => valid) advance known values <->
      forall value, value ∈ values -> valid value := by
  induction values generalizing known with
  | nil => simp [ValidTracking]
  | cons value rest ih =>
    rw [ValidTracking, ih, List.forall_mem_cons]

theorem validTracking_append {valid : κ -> α -> Prop} {left right} :
    ValidTracking valid advance known (left ++ right) <->
      ValidTracking valid advance known left /\
        ValidTracking valid advance (left.foldl advance known) right := by
  induction left generalizing known with
  | nil => exact (and_iff_right trivial).symm
  | cons value rest ih =>
    rw [List.cons_append, ValidTracking, ih, ValidTracking, and_assoc, List.foldl_cons]

/-- Conditions that agree on valid values agree along valid values. -/
theorem ValidTracking.congr {valid first second : κ -> α -> Prop}
    (holds : ValidTracking valid advance known values)
    (same : forall known value, valid known value -> (first known value <-> second known value)) :
    ValidTracking first advance known values <-> ValidTracking second advance known values := by
  induction values generalizing known with
  | nil => exact Iff.rfl
  | cons value rest ih =>
    rw [ValidTracking, ValidTracking, same known value holds.1, ih holds.2]

/-- Values that only have to follow the one before them form a chain. -/
theorem validTracking_previous {follows : α -> α -> Prop} {previous} :
    ValidTracking (fun previous value => (forall before, before ∈ previous ->
        follows before value) /\ valid value) (fun _ => some) previous values <->
      (previous.toList ++ values).IsChain follows /\ forall value, value ∈ values -> valid value := by
  induction values generalizing previous with
  | nil => cases previous <;> simp [ValidTracking]
  | cons value rest ih =>
    rw [ValidTracking, ih, List.forall_mem_cons]
    cases previous with
    | none =>
      simp [and_left_comm]
    | some before =>
      simp only [Option.mem_def, Option.some.injEq, forall_eq', Option.toList_some,
        List.singleton_append, List.isChain_cons_cons]
      tauto

theorem readIndexed_eq_readTracking (read : Nat -> EStateM ε Reader α) (index count : Nat) :
    readIndexed read index count = readTracking read (fun index _ => index + 1) index count := by
  induction count generalizing index with
  | zero => rfl
  | succ count ih =>
    rw [readIndexed, readTracking]
    simp only [ih]

theorem readMany_eq_readIndexed (read : EStateM ε Reader α) (index count : Nat) :
    readMany read count = readIndexed (fun _ => read) index count := by
  induction count generalizing index with
  | zero => rfl
  | succ count ih =>
    rw [readMany, readIndexed, ih (index + 1)]

/-- Two decoders, one after the other. -/
def readPair (first : EStateM ε Reader α) (second : EStateM ε Reader β) :
    EStateM ε Reader (α × β) := do
  let left ← first
  let right ← second
  return (left, right)

/-- The decoder and the encoder are inverse on the valid values.  The bound on
the input is that of any byte string in memory. -/
structure Reads (read : EStateM ε Reader α) (valid : α -> Prop) (encode : α -> List UInt8) :
    Prop where
  sound : forall (start final : Reader) (value : α), read start = .ok value final ->
    valid value /\ final.bytes = start.bytes /\ start.rest = encode value ++ final.rest
  complete : forall (start : Reader) (value : α) (after : List UInt8),
    start.bytes.length < 2 ^ 64 -> valid value -> start.rest = encode value ++ after ->
    ∃ final, read start = .ok value final /\ final.bytes = start.bytes /\ final.rest = after

namespace Reads

variable {read : EStateM ε Reader α} {valid : α -> Prop} {encode : α -> List UInt8}

/-! ## Primitives -/

theorem exact [ReaderErrors ε] (length : Nat) :
    Reads (readExact length : EStateM ε Reader (List UInt8)) (fun slice => slice.length = length)
      (fun slice => slice) := by
  constructor
  · intro start final slice done
    unfold readExact at done
    split at done
    · cases done
    split at done
    · next fits =>
        cases done
        refine ⟨?_, rfl, ?_⟩
        · grind [Reader.length_rest, Reader.remaining]
        · change start.rest = start.rest.take length ++ start.bytes.drop (start.offset + length)
          rw [← List.drop_drop]
          exact (List.take_append_drop length start.rest).symm
    · cases done
  · intro start slice after bounded sized available
    subst sized
    have total : start.remaining = slice.length + after.length := by
      rw [← Reader.length_rest, available, List.length_append]
    rw [Reader.remaining] at total
    have within := start.within
    have fits : start.offset + slice.length <= start.bytes.length := by omega
    have small : ¬ 2 ^ 64 <= start.offset + slice.length := by omega
    refine ⟨⟨start.bytes, start.offset + slice.length, fits⟩, ?_, rfl, ?_⟩
    · unfold readExact
      rw [if_neg small, dif_pos fits, available, List.take_left]
    · change start.bytes.drop (start.offset + slice.length) = after
      rw [← List.drop_drop]
      change start.rest.drop slice.length = after
      rw [available, List.drop_left]

theorem pure (value : α) :
    Reads (Pure.pure value : EStateM ε Reader α) (fun other => other = value) (fun _ => []) := by
  constructor
  · intro start final other done
    cases done
    exact ⟨rfl, rfl, rfl⟩
  · intro start other after _ same available
    subst same
    exact ⟨start, rfl, rfl, available⟩

theorem throw (reason : ε) (encode : α -> List UInt8) :
    Reads (throw reason : EStateM ε Reader α) (fun _ => False) encode := by
  constructor
  · intro start final value impossible
    cases impossible
  · intro start value after _ impossible
    cases impossible

variable {next : α -> EStateM ε Reader β}

/-- Read a part, then the rest, which may depend on it.  The whole value
determines the part. -/
theorem bind {validNext : α -> β -> Prop} {encodeNext : α -> β -> List UInt8} (part : β -> α)
    (first : Reads read valid encode)
    (second : forall value, valid value -> Reads (next value) (validNext value) (encodeNext value))
    (determined : forall value whole, validNext value whole -> part whole = value) :
    Reads (read >>= next) (fun whole => valid (part whole) /\ validNext (part whole) whole)
      (fun whole => encode (part whole) ++ encodeNext (part whole) whole) := by
  constructor
  · intro start final whole done
    rcases bind_eq_ok.mp done with ⟨value, middle, readFirst, readSecond⟩
    rcases first.sound _ _ _ readFirst with ⟨firstValid, sameFirst, consumedFirst⟩
    rcases (second value firstValid).sound _ _ _ readSecond with
      ⟨secondValid, sameSecond, consumedSecond⟩
    grind
  · intro start whole after bounded allValid available
    rw [List.append_assoc] at available
    rcases first.complete start (part whole) _ bounded allValid.1 available with
      ⟨middle, readFirst, sameFirst, left⟩
    rcases (second (part whole) allValid.1).complete middle whole after (sameFirst ▸ bounded)
      allValid.2 left with ⟨final, readSecond, sameSecond, last⟩
    grind [bind_of_ok]

variable (reads : Reads read valid encode)

include reads in
/-- Describe the same decoder by other predicates on values. -/
theorem congr {valid' : α -> Prop} {encode'}
    (sameValid : forall value, valid value <-> valid' value)
    (sameEncode : forall value, valid' value -> encode value = encode' value) :
    Reads read valid' encode' := by
  constructor
  · intro start final value done
    rcases reads.sound _ _ _ done with ⟨isValid, same, consumed⟩
    grind
  · intro start value after bounded isValid available
    rw [← sameEncode value isValid] at available
    exact reads.complete start value after bounded ((sameValid value).mpr isValid) available

include reads in
/-- Convert what was read by a function with an inverse. -/
theorem map (convert : α -> β) (back : β -> α)
    (leftInverse : forall value, valid value -> back (convert value) = value)
    (rightInverse : forall other, valid (back other) -> convert (back other) = other) :
    Reads (read >>= fun value => Pure.pure (convert value)) (fun other => valid (back other))
      (fun other => encode (back other)) := by
  have returned : forall value, valid value ->
      Reads (Pure.pure (convert value) : EStateM ε Reader β)
        (fun other => valid value /\ other = convert value) (fun _ => []) := by
    grind [pure]
  have determined : forall value other, (valid value /\ other = convert value) ->
      back other = value := by
    grind
  refine (reads.bind back returned determined).congr ?_ ?_
  · grind
  · intro other _
    exact List.append_nil _

include reads in
/-- Decode what was read by a step that leaves the input alone and accepts
exactly the values that some good result stands for. -/
theorem decodedWhen {good : β -> Prop} (back : β -> α)
    (meaning : forall value other start final, next value start = .ok other final <->
      value = back other /\ good other /\ final = start) :
    Reads (read >>= next) (fun other => valid (back other) /\ good other)
      (fun other => encode (back other)) := by
  constructor
  · intro start final other done
    rcases bind_eq_ok.mp done with ⟨value, middle, readValue, decodedValue⟩
    rcases (meaning _ _ _ _).mp decodedValue with ⟨rfl, isGood, rfl⟩
    rcases reads.sound _ _ _ readValue with ⟨isValid, consumed⟩
    exact ⟨⟨isValid, isGood⟩, consumed⟩
  · intro start other after bounded isValid available
    rcases reads.complete start (back other) after bounded isValid.1 available with
      ⟨final, readValue, same, left⟩
    grind [bind_of_ok]

include reads in
/-- Decode what was read by a step that leaves the input alone and accepts
exactly the values that some result stands for. -/
theorem decoded (back : β -> α) (alwaysValid : forall other, valid (back other))
    (meaning : forall value other start final, next value start = .ok other final <->
      value = back other /\ final = start) :
    Reads (read >>= next) (fun _ => True) (fun other => encode (back other)) := by
  have meaning' : forall value other start final, next value start = .ok other final <->
      value = back other /\ True /\ final = start := by
    intro value other start final
    rw [meaning, true_and]
  exact (reads.decodedWhen back meaning').congr
    (fun other => iff_of_true ⟨alwaysValid other, trivial⟩ trivial) (fun _ _ => rfl)

include reads in
/-- Wrap what was read as one of several alternatives. -/
theorem inject (wrap : α -> β) {validWhole : β -> Prop} {encodeWhole}
    (alternative : forall whole, validWhole whole <-> ∃ value, wrap value = whole /\ valid value)
    (sameEncode : forall value, encodeWhole (wrap value) = encode value) :
    Reads (read >>= fun value => Pure.pure (wrap value)) validWhole encodeWhole := by
  constructor
  · intro start final whole done
    rcases bind_eq_ok.mp done with ⟨value, middle, readValue, returned⟩
    cases returned
    rcases reads.sound _ _ _ readValue with ⟨isValid, same, consumed⟩
    grind
  · intro start whole after bounded isValid available
    rcases (alternative whole).mp isValid with ⟨value, rfl, valueValid⟩
    rw [sameEncode] at available
    rcases reads.complete start value after bounded valueValid available with
      ⟨final, readValue, same, left⟩
    exact ⟨final, bind_of_ok readValue, same, left⟩

/-- Two independent parts. -/
theorem pair {second : EStateM ε Reader β} {validSecond : β -> Prop}
    {encodeSecond : β -> List UInt8} (left : Reads read valid encode)
    (right : Reads second validSecond encodeSecond) :
    Reads (readPair read second) (fun both => valid both.1 /\ validSecond both.2)
      (fun both => encode both.1 ++ encodeSecond both.2) := by
  have returned (value : α) (_ : valid value) :
      Reads (second >>= fun other => (Pure.pure (value, other) : EStateM ε Reader (α × β)))
        (fun both => both.1 = value /\ validSecond both.2) (fun both => encodeSecond both.2) := by
    refine (right.bind Prod.snd (fun other _ => pure (value, other)) ?_).congr ?_ ?_
    · rintro other both rfl
      rfl
    · grind
    · intro both _
      exact List.append_nil _
  refine (left.bind Prod.fst returned (fun _ _ both => both.1)).congr ?_ (fun _ _ => rfl)
  grind

/-- A field that must hold one expected value, such as a magic or a version. -/
theorem expecting {next} {validNext : β -> Prop} {encodeNext} (expected : α) (wrong : α -> Prop)
    [DecidablePred wrong] (reason : α -> ε) (field : Reads read valid encode)
    (rest : Reads next validNext encodeNext) (expectedValid : valid expected)
    (meaning : forall value, ¬ wrong value <-> value = expected) :
    Reads (read >>= fun value => if wrong value then MonadExcept.throw (reason value) else next)
      validNext (fun whole => encode expected ++ encodeNext whole) := by
  constructor
  · intro start final whole done
    rcases bind_eq_ok.mp done with ⟨value, middle, readField, done⟩
    rcases field.sound _ _ _ readField with ⟨_, sameField, consumedField⟩
    by_cases isWrong : wrong value
    · rw [if_pos isWrong] at done
      cases done
    · rw [if_neg isWrong] at done
      rcases rest.sound _ _ _ done with ⟨isValid, sameRest, consumedRest⟩
      grind
  · intro start whole after bounded isValid available
    rw [List.append_assoc] at available
    rcases field.complete start expected _ bounded expectedValid available with
      ⟨middle, readField, sameField, left⟩
    rcases rest.complete middle whole after (sameField ▸ bounded) isValid left with
      ⟨final, readRest, sameRest, last⟩
    refine ⟨final, ?_, sameRest.trans sameField, last⟩
    rw [bind_of_ok readField, if_neg ((meaning expected).mpr rfl)]
    exact readRest

/-- Reject unless a condition on what was read before holds. -/
theorem guarded {condition : Prop} [Decidable condition] (reason : ε)
    (reads : ¬ condition -> Reads read valid encode) :
    Reads (if condition then MonadExcept.throw reason else read)
      (fun value => ¬ condition /\ valid value) encode := by
  by_cases holds : condition
  · simp [throw, *]
  simp [*]

include reads in
/-- A check of what is known before the rest is read. -/
theorem checked {computation : Except ε PUnit} :
    Reads (check computation >>= fun _ => read)
      (fun value => computation = .ok ⟨⟩ /\ valid value) encode := by
  constructor
  · intro start final value done
    rcases bind_eq_ok.mp done with ⟨_, middle, passed, readRest⟩
    rcases check_eq_ok.mp passed with ⟨accepted, rfl⟩
    have rest := reads.sound _ _ _ readRest
    exact ⟨⟨accepted, rest.1⟩, rest.2⟩
  · intro start value after bounded accepted available
    rcases reads.complete start value after bounded accepted.2 available with
      ⟨final, readRest, same, left⟩
    exact ⟨final, (bind_of_ok (check_eq_ok.mpr ⟨accepted.1, rfl⟩)).trans readRest, same, left⟩

include reads in
/-- A check that enough input is left, when what follows needs that much. -/
theorem ensuringRemaining [ReaderErrors ε] {count : Nat}
    (needed : forall value, valid value -> count <= (encode value).length) :
    Reads (ensureRemaining count >>= fun _ => read) valid encode := by
  constructor
  · intro start final value done
    rcases bind_eq_ok.mp done with ⟨_, middle, ensured, readRest⟩
    unfold ensureRemaining at ensured
    split at ensured
    · cases ensured
    · cases ensured
      exact reads.sound _ _ _ readRest
  · intro start value after bounded isValid available
    rcases reads.complete start value after bounded isValid available with ⟨final, done⟩
    refine ⟨final, ?_, done.2⟩
    have enough : ¬ start.remaining < count := by
      grind [Reader.length_rest]
    have ensured : (ensureRemaining count : EStateM ε Reader Unit) start = .ok () start := by
      unfold ensureRemaining
      rw [if_neg enough]
    exact (bind_of_ok ensured).trans done.1

/-! ## Repetition -/

/-- Repeat a decoder that depends on what was read before. -/
theorem tracking {κ : Type} {readAt : κ -> EStateM ε Reader α} {validAt : κ -> α -> Prop}
    (advance : κ -> α -> κ) (reads : forall known, Reads (readAt known) (validAt known) encode)
    (known : κ) (count : Nat) :
    Reads (readTracking readAt advance known count)
      (fun values => values.length = count /\ ValidTracking validAt advance known values)
      (fun values => values.flatMap encode) := by
  induction count generalizing known with
  | zero =>
    refine (pure []).congr ?_ ?_
    · intro values
      constructor
      · rintro rfl
        exact ⟨rfl, trivial⟩
      · intro sized
        exact List.length_eq_zero_iff.mp sized.1
    grind
  | succ count ih =>
    constructor
    · intro start final values done
      rcases bind_eq_ok.mp done with ⟨head, middle, readHead, done⟩
      rcases bind_eq_ok.mp done with ⟨tail, last, readTail, done⟩
      cases done
      rcases (reads known).sound _ _ _ readHead with ⟨headValid, sameHead, consumedHead⟩
      rcases (ih (advance known head)).sound _ _ _ readTail with
        ⟨tailValid, sameTail, consumedTail⟩
      refine ⟨⟨?_, headValid, tailValid.2⟩, sameTail.trans sameHead, ?_⟩
      · rw [List.length_cons, tailValid.1]
      grind
    · intro start values after bounded sized available
      cases values with
      | nil => cases sized.1
      | cons head tail =>
        rw [List.flatMap_cons, List.append_assoc] at available
        rcases (reads known).complete start head _ bounded sized.2.1 available with
          ⟨middle, readHead, sameHead, left⟩
        rcases (ih (advance known head)).complete middle tail after
          (sameHead ▸ bounded) ⟨Nat.succ.inj sized.1, sized.2.2⟩ left with
          ⟨final, readTail, sameTail, last⟩
        refine ⟨final, ?_, sameTail.trans sameHead, last⟩
        rw [readTracking, bind_of_ok readHead, bind_of_ok readTail]
        rfl

theorem indexed {readAt : Nat -> EStateM ε Reader α}
    (reads : forall index, Reads (readAt index) valid encode) (index count : Nat) :
    Reads (readIndexed readAt index count)
      (fun values => values.length = count /\ forall value, value ∈ values -> valid value)
      (fun values => values.flatMap encode) := by
  rw [readIndexed_eq_readTracking]
  refine (tracking _ reads index count).congr ?_ (fun _ _ => rfl)
  intro values
  rw [validTracking_const]

/-- Repeat a decoder that compares each value with the one before it. -/
theorem chained {readAfter : Option α -> EStateM ε Reader α} {follows : α -> α -> Prop}
    (reads : forall previous, Reads (readAfter previous)
      (fun value => (forall before, before ∈ previous -> follows before value) /\ valid value) encode)
    (count : Nat) :
    Reads (readTracking readAfter (fun _ => some) none count)
      (fun values => values.length = count /\ values.IsChain follows /\
        forall value, value ∈ values -> valid value) (fun values => values.flatMap encode) := by
  refine (tracking _ reads none count).congr ?_ (fun _ _ => rfl)
  intro values
  rw [validTracking_previous]
  rfl

include reads in
theorem many (count : Nat) :
    Reads (readMany read count)
      (fun values => values.length = count /\ forall value, value ∈ values -> valid value)
      (fun values => values.flatMap encode) := by
  rw [readMany_eq_readIndexed read 0 count]
  exact indexed (fun _ => reads) 0 count

section
variable [ReaderErrors ε]

theorem array (width : Nat) :
    Reads (readArray width : EStateM ε Reader (Bytes width)) (fun _ => True) Bytes.toList := by
  constructor
  · intro start final value done
    rcases bind_eq_ok.mp done with ⟨slice, middle, readSlice, converted⟩
    rcases (@exact ε _ width).sound _ _ _ readSlice with ⟨_, same, consumed⟩
    cases packed : Bytes.ofList? width slice with
    | none =>
      rw [packed] at converted
      cases converted
    | some found =>
      rw [packed] at converted
      cases converted
      refine ⟨trivial, same, ?_⟩
      rw [Bytes.toList_of_ofList?_eq_some packed]
      exact consumed
  · intro start value after bounded _ available
    rcases (@exact ε _ width).complete start value.toList after bounded value.length_toList available with
      ⟨final, done, same, left⟩
    refine ⟨final, ?_, same, left⟩
    rw [readArray, bind_of_ok done, Bytes.ofList?_toList]
    rfl

theorem u8 : Reads (readU8 : EStateM ε Reader UInt8) (fun _ => True) (fun value => [value]) := by
  refine ((exact 1).map (fun slice => slice.headD 0) (fun value => [value]) ?_ ?_).congr ?_ ?_
  · grind [List.length_eq_one_iff]
  · intro value _
    rfl
  · intro value
    exact ⟨fun _ => trivial, fun _ => rfl⟩
  · intro value _
    rfl

variable {width : Nat}

/-- An unsigned integer of a fixed number of bytes, most significant first. -/
private theorem integer (ofNat : Nat -> β) (toNat : β -> Nat)
    (fits : forall value, toNat value < 256 ^ width)
    (toNat_ofNat : forall number, number < 256 ^ width -> toNat (ofNat number) = number)
    (ofNat_toNat : forall value, ofNat (toNat value) = value) :
    Reads (readArray width >>= fun array =>
        (Pure.pure (ofNat (ofBigEndian array.toList)) : EStateM ε Reader β))
      (fun _ => True) (fun value => bigEndian width (toNat value)) := by
  refine ((array width).map (fun array => ofNat (ofBigEndian array.toList))
    (fun value => ⟨bigEndian width (toNat value), length_bigEndian width _⟩) ?_ ?_).congr ?_ ?_
  · intro array _
    apply Bytes.toList_injective
    have small := ofBigEndian_lt array.toList
    have same := bigEndian_ofBigEndian array.toList
    rw [array.length_toList] at small same
    rw [toNat_ofNat _ small]
    exact same
  · grind [ofBigEndian_bigEndian]
  · intro value
    exact Iff.rfl
  · intro value _
    rfl

theorem u16 : Reads (readU16 : EStateM ε Reader UInt16) (fun _ => True)
    (fun value => bigEndian 2 value.toNat) :=
  integer UInt16.ofNat UInt16.toNat (fun value => value.toNat_lt)
    (fun _ fits => UInt16.toNat_ofNat_of_lt fits) (fun _ => UInt16.ofNat_toNat)

theorem u32 : Reads (readU32 : EStateM ε Reader UInt32) (fun _ => True)
    (fun value => bigEndian 4 value.toNat) :=
  integer UInt32.ofNat UInt32.toNat (fun value => value.toNat_lt)
    (fun _ fits => UInt32.toNat_ofNat_of_lt fits) (fun _ => UInt32.ofNat_toNat)

theorem u64 : Reads (readU64 : EStateM ε Reader UInt64) (fun _ => True)
    (fun value => bigEndian 8 value.toNat) :=
  integer UInt64.ofNat UInt64.toNat (fun value => value.toNat_lt)
    (fun _ fits => UInt64.toNat_ofNat_of_lt fits) (fun _ => UInt64.ofNat_toNat)

theorem i64 : Reads (readI64 : EStateM ε Reader Int64) (fun _ => True)
    (fun value => bigEndian 8 value.toUInt64.toNat) :=
  u64.map UInt64.toInt64 Int64.toUInt64 (fun _ _ => UInt64.toUInt64_toInt64 _)
    (fun _ _ => Int64.toInt64_toUInt64 _)

/-- A byte string after its length, which has to pass a check. -/
theorem afterLength {readLength : EStateM ε Reader β} {toNat : β -> Nat} {ofNat : Nat -> β}
    (lengths : Reads readLength (fun _ => True) (fun length => bigEndian width (toNat length)))
    (ofNat_toNat : forall length, ofNat (toNat length) = length) {ensure : Nat -> Except ε PUnit}
    (fits : forall length, ensure length = .ok ⟨⟩ -> toNat (ofNat length) = length) :
    Reads (readLength >>= fun length => check (ensure (toNat length)) >>= fun _ =>
        readExact (toNat length)) (fun slice => ensure slice.length = .ok ⟨⟩)
      (fun slice => bigEndian width slice.length ++ slice) := by
  have slices (length : β) (_ : True) :=
    @checked ε _ _ _ _ (Reads.exact (toNat length)) (ensure (toNat length))
  refine (lengths.bind (fun slice => ofNat slice.length) slices ?_).congr ?_ ?_
  · intro length slice accepted
    rw [accepted.2, ofNat_toNat]
  · intro slice
    constructor
    · rintro ⟨_, accepted, sized⟩
      rw [sized]
      exact accepted
    · intro accepted
      rw [fits _ accepted]
      exact ⟨trivial, accepted, rfl⟩
  · intro slice accepted
    rw [fits _ accepted]

theorem toNat_ofNat_of_le {size : Nat} {limit : UInt32} (within : size <= limit.toNat) :
    (UInt32.ofNat size).toNat = size :=
  UInt32.toNat_ofNat_of_lt' (Nat.lt_of_le_of_lt within limit.toNat_lt)

variable {body : UInt32 -> EStateM ε Reader α} {encodeBody : α -> List UInt8} {good : α -> Prop}

/-- A good value after its size in four bytes, when sizes have a limit. -/
theorem limitedWhen (limit : UInt32) (reason : UInt32 -> ε) (size : α -> Nat)
    (bodies : forall length, ¬ limit < length ->
      Reads (body length) (fun value => size value = length.toNat /\ good value) encodeBody) :
    Reads (readU32 >>= fun length =>
        if limit < length then MonadExcept.throw (reason length) else body length)
      (fun value => size value <= limit.toNat /\ good value)
      (fun value => bigEndian 4 (size value) ++ encodeBody value) := by
  have checked (length : UInt32) (_ : True) := guarded (reason length) (bodies length)
  refine (u32.bind (fun value => UInt32.ofNat (size value)) checked ?_).congr ?_ ?_
  · grind [UInt32.ofNat_toNat]
  · intro value
    rw [UInt32.not_lt, UInt32.le_iff_toNat_le]
    constructor
    · grind
    · rintro ⟨within, isGood⟩
      have exactSize := toNat_ofNat_of_le within
      simp [*]
  · intro value within
    rw [toNat_ofNat_of_le within.1]

/-- A value after its size in four bytes, when sizes have a limit. -/
theorem limited (limit : UInt32) (reason : UInt32 -> ε) (size : α -> Nat)
    (bodies : forall length, ¬ limit < length ->
      Reads (body length) (fun value => size value = length.toNat) encodeBody) :
    Reads (readU32 >>= fun length =>
        if limit < length then MonadExcept.throw (reason length) else body length)
      (fun value => size value <= limit.toNat)
      (fun value => bigEndian 4 (size value) ++ encodeBody value) := by
  have always : forall length, ¬ limit < length ->
      Reads (body length) (fun value => size value = length.toNat /\ True) encodeBody := by
    intro length within
    simp [*]
  exact (limitedWhen limit reason size always).congr (fun _ => by rw [and_true]) (fun _ _ => rfl)

/-- A value after the size of its encoding, when a decoder of complete inputs
is at hand.  The comparison with the encoding of the result never fails. -/
theorem canonical {ε' : Type} {decode : List UInt8 -> Except ε' α} {encode : α -> List UInt8}
    (decodes : forall bytes value, decode bytes = .ok value <-> bytes = encode value /\ good value)
    (limit : UInt32) (tooLarge : UInt32 -> ε) (wrap : ε' -> ε) (differs : ε) :
    Reads (readU32 >>= fun length =>
        if limit < length then MonadExcept.throw (tooLarge length)
        else readExact length.toNat >>= fun bytes =>
          check ((decode bytes).mapError wrap) >>= fun value =>
            if encode value ≠ bytes then MonadExcept.throw differs
            else (Pure.pure value : EStateM ε Reader α))
      (fun value => (encode value).length <= limit.toNat /\ good value)
      (fun value => bigEndian 4 (encode value).length ++ encode value) := by
  refine limitedWhen limit tooLarge (fun value => (encode value).length) (fun length _ => ?_)
  refine (exact length.toNat).decodedWhen encode ?_
  intro bytes value start final
  simp only [bind_eq_ok, check_eq_ok, Except.mapError_eq_ok, decodes]
  constructor
  · rintro ⟨found, middle, ⟨⟨rfl, isGood⟩, rfl⟩, returned⟩
    rw [if_neg (not_not_intro rfl)] at returned
    cases returned
    exact ⟨rfl, isGood, rfl⟩
  · rintro ⟨rfl, isGood, rfl⟩
    exact ⟨value, _, ⟨⟨rfl, isGood⟩, rfl⟩, by rw [if_neg (not_not_intro rfl)]; rfl⟩

/-- The fields of a format after its magic and its version. -/
theorem framed {magic : List UInt8} {next : EStateM ε Reader α} {validNext : α -> Prop}
    {encodeNext : α -> List UInt8} (sized : magic.length = width) (version : UInt16)
    (wrongMagic : ε) (wrongVersion : UInt16 -> ε) (fields : Reads next validNext encodeNext) :
    Reads (readArray width >>= fun found =>
        if found.toList ≠ magic then MonadExcept.throw wrongMagic
        else readU16 >>= fun number =>
          if number ≠ version then MonadExcept.throw (wrongVersion number) else next)
      validNext (fun whole => magic ++ (bigEndian 2 version.toNat ++ encodeNext whole)) := by
  have versioned := expecting version (fun number => number ≠ version) wrongVersion u16 fields
    trivial (fun _ => not_ne_iff)
  refine expecting (⟨magic, sized⟩ : Bytes width) (fun found => found.toList ≠ magic)
    (fun _ => wrongMagic) (array width) versioned trivial ?_
  intro found
  rw [not_ne_iff]
  exact ⟨fun same => Bytes.toList_injective same, fun same => congrArg Bytes.toList same⟩

/-! ## Complete inputs -/

variable {value : α}

/-- Whatever is parsed was encoded, byte for byte. -/
theorem of_parse (reads : Reads read valid encode) {bytes} (parsed : parse read bytes = .ok value) :
    valid value /\ bytes = encode value := by
  unfold parse at parsed
  split at parsed
  · next result final done =>
      cases parsed
      rcases bind_eq_ok.mp done with ⟨found, middle, readValue, done⟩
      rcases bind_eq_ok.mp done with ⟨_, last, finished, returned⟩
      cases returned
      rcases reads.sound _ _ _ readValue with ⟨isValid, _, consumed⟩
      unfold finish at finished
      split at finished
      · next empty =>
          have nothingLeft : middle.rest = [] := by
            grind [Reader.length_rest]
          rw [nothingLeft, List.append_nil] at consumed
          exact ⟨isValid, consumed⟩
      · cases finished
  · cases parsed

omit [ReaderErrors ε] in
/-- The encoding of no valid value starts with that of another. -/
theorem eq_of_initial (reads : Reads read valid encode) {left right : α} (validLeft : valid left)
    (validRight : valid right) (bounded : (encode right).length < 2 ^ 64)
    (starts : encode left <+: encode right) : left = right := by
  rcases starts with ⟨after, isRight⟩
  rcases reads.complete (Reader.new (encode right)) left after bounded validLeft isRight.symm with
    ⟨_, readLeft, _⟩
  rcases reads.complete (Reader.new (encode right)) right [] bounded validRight
    (List.append_nil _).symm with ⟨_, readRight, _⟩
  rw [readLeft] at readRight
  injection readRight

theorem parse_encode (reads : Reads read valid encode) (isValid : valid value)
    (bounded : (encode value).length < 2 ^ 64) : parse read (encode value) = .ok value := by
  rcases reads.complete (Reader.new (encode value)) value [] bounded isValid
    (List.append_nil _).symm with ⟨final, readValue, _, left⟩
  have finished : (finish : EStateM ε Reader Unit) final = .ok () final := by
    have empty : final.remaining = 0 := by
      rw [← Reader.length_rest, left]
      rfl
    unfold finish
    rw [if_pos empty]
  unfold parse
  rw [bind_of_ok readValue, bind_of_ok finished]
  rfl

end
end Reads

section
variable [ReaderErrors ε] {allowed : ε -> Prop}

theorem readExact_failsWith (readerErrors : forall reason, IsReaderError reason -> allowed reason)
    (length : Nat) : FailsWith allowed (readExact length) := by
  intro start reason final failed
  unfold readExact at failed
  split at failed
  · cases failed
    exact readerErrors _ IsReaderError.lengthOverflow
  · split at failed
    · cases failed
    · cases failed
      exact readerErrors _ (IsReaderError.unexpectedEnd start.offset)

theorem readArray_failsWith (readerErrors : forall reason, IsReaderError reason -> allowed reason)
    (width : Nat) : FailsWith allowed (readArray width) := by
  refine FailsWith.bind (readExact_failsWith readerErrors width) ?_
  intro slice
  cases Bytes.ofList? width slice with
  | some array => exact FailsWith.pure array
  | none =>
    intro start reason final failed
    cases failed
    exact readerErrors _ (IsReaderError.unexpectedEnd start.offset)

theorem parse_failsWith {read : EStateM ε Reader α}
    (readerErrors : forall reason, IsReaderError reason -> allowed reason)
    (readFails : FailsWith allowed read) {bytes : List UInt8} {reason : ε}
    (failed : parse read bytes = .error reason) : allowed reason := by
  have finishFails : FailsWith allowed (finish : EStateM ε Reader Unit) := by
    intro start other final unfinished
    unfold finish at unfinished
    split at unfinished
    · cases unfinished
    · cases unfinished
      exact readerErrors _ (IsReaderError.trailingBytes start.remaining)
  have wholeFails : FailsWith allowed (read >>= fun value => finish >>= fun _ => pure value) :=
    FailsWith.bind readFails (fun value =>
      FailsWith.bind finishFails (fun _ => FailsWith.pure value))
  unfold parse at failed
  split at failed
  · cases failed
  · rename_i other final outcome
    cases failed
    exact wholeFails _ _ _ outcome

end
end Foundation
