import Noxis.Foundation.ReadLoop

namespace Noxis.Comet

open Foundation

/-!
# Messages of the engine

The engine sends protobuf messages.  A message is a sequence of fields, each
with a number and a value that is a varint or a string of bytes.  The reader
takes varints in their shortest form only, and refuses field numbers that a
message does not define.
-/

/-- The largest block size that fits the frames of this application. -/
def maxCometBlockBytes : Int64 := 64 * 1024 * 1024

inductive WireType where
  | varint
  | bytes
deriving DecidableEq

/-- A malformed or unsupported message. -/
inductive WireError where
  | frameLengthOverflow
  | truncatedMessage
  | invalidVarint
  | nonCanonicalVarint
  | invalidFieldKey
  | unsupportedWireType (wireType : UInt64)
  | unexpectedWireType (field : UInt32) (expected actual : WireType)
  | unsupportedField (message : String) (field : UInt32)
  | missingField (field : String)
  | duplicateOrTrailingField (field : String)
  | unsupportedCometBlockMaximum (actual maximum : Int64)
deriving DecidableEq

/-- A message is read field by field to its end, so bytes never trail. -/
instance : ReaderErrors WireError where
  lengthOverflow := .frameLengthOverflow
  unexpectedEnd _ := .truncatedMessage
  trailingBytes _ := .truncatedMessage

inductive ProtoValue where
  | varint (value : UInt64)
  | bytes (value : List UInt8)
deriving DecidableEq

def ProtoValue.wireType : ProtoValue -> WireType
  | .varint _ => .varint
  | .bytes _ => .bytes

structure ProtoField where
  number : UInt32
  value : ProtoValue
deriving DecidableEq

namespace ProtoField

def varint (field : ProtoField) : Except WireError UInt64 :=
  match field.value with
  | .varint value => .ok value
  | .bytes _ => .error (.unexpectedWireType field.number .varint field.value.wireType)

def bytes (field : ProtoField) : Except WireError (List UInt8) :=
  match field.value with
  | .bytes value => .ok value
  | .varint _ => .error (.unexpectedWireType field.number .bytes field.value.wireType)

end ProtoField

/-- The number of groups of seven bits. -/
def uvarintWidth (value : UInt64) : Nat :=
  if 0x80 <= value then uvarintWidth (value >>> 7) + 1 else 1
termination_by value.toNat
decreasing_by
  rename_i large
  have positive : 128 <= value.toNat := large
  have shifted : (value >>> 7).toNat = value.toNat / 128 := by
    rw [UInt64.toNat_shiftRight]
    exact Nat.shiftRight_eq_div_pow value.toNat 7
  omega

/-- Read at most `left` more bytes of a varint. -/
def readUvarintFrom : (left index : Nat) -> (value : UInt64) -> EStateM WireError Reader UInt64
  | 0, _, _ => throw .invalidVarint
  | left + 1, index, value => do
      let byte ← readU8
      if index = 9 /\ 1 < byte then
        throw .invalidVarint
      else
        let next := value ||| ((byte &&& 0x7f).toUInt64 <<< UInt64.ofNat (index * 7))
        if byte &&& 0x80 = 0 then
          if uvarintWidth next ≠ index + 1 then throw .nonCanonicalVarint else return next
        else
          readUvarintFrom left (index + 1) next

def readUvarint : EStateM WireError Reader UInt64 := readUvarintFrom 10 0 0

/-- The value of a field after its key. -/
def readValue (wireType : UInt64) : EStateM WireError Reader ProtoValue :=
  if wireType = 0 then do
    let value ← readUvarint
    return .varint value
  else if wireType = 2 then do
    let length ← readUvarint
    let value ← readExact length.toNat
    return .bytes value
  else
    throw (.unsupportedWireType wireType)

def readField : EStateM WireError Reader ProtoField := do
  let key ← readUvarint
  if 2 ^ 32 <= (key >>> 3).toNat ∨ key >>> 3 = 0 then
    throw .invalidFieldKey
  else
    let value ← readValue (key &&& 0x07)
    return ⟨(key >>> 3).toUInt32, value⟩

theorem consumes_readU8 : Consumes 1 (readU8 : EStateM WireError Reader UInt8) :=
  (Consumes.exact 1).bind (fun _ => Consumes.pure _)

theorem consumes_readUvarintFrom (left index : Nat) (value : UInt64) :
    Consumes 1 (readUvarintFrom left index value) := by
  induction left generalizing index value with
  | zero => exact Consumes.throw 1 _
  | succ left ih =>
    change Consumes (1 + 0) _
    refine consumes_readU8.bind (fun byte => ?_)
    refine Consumes.ite (Consumes.throw 0 _) (Consumes.ite ?_ ?_)
    · exact Consumes.ite (Consumes.throw 0 _) (Consumes.pure _)
    · exact (ih _ _).weaken (Nat.zero_le 1)

theorem consumes_readValue (wireType : UInt64) : Consumes 1 (readValue wireType) := by
  have varint : Consumes 1 readUvarint := consumes_readUvarintFrom 10 0 0
  refine Consumes.ite (varint.bind (fun _ => Consumes.pure _))
    (Consumes.ite ?_ (Consumes.throw 1 _))
  change Consumes (1 + 0) _
  refine varint.bind (fun length => ?_)
  exact (((Consumes.exact length.toNat).bind (fun _ => Consumes.pure _)).weaken (Nat.zero_le _))

/-- A field takes up at least its key and one more byte. -/
theorem consumes_readField : Consumes 2 readField := by
  change Consumes (1 + 1) _
  refine (consumes_readUvarintFrom 10 0 0).bind (fun key => ?_)
  exact Consumes.ite (Consumes.throw 1 _) ((consumes_readValue _).bind (fun _ => Consumes.pure _))

/-- The reader of a message. -/
def protoReader : ItemReader WireError ProtoField where
  next := do
    let reader ← get
    if reader.offset = reader.bytes.length then
      return none
    else
      let field ← readField
      return some field
  shrinks := by
    intro start field final isNext
    rw [get_bind] at isNext
    split_ifs at isNext with atEnd
    · cases isNext
    · rcases bind_eq_ok.mp isNext with ⟨value, middle, isRead, same⟩
      have consumed := consumes_readField start value middle isRead
      cases same
      omega

def foldMessage {σ : Type} (handle : σ -> ProtoField -> Except WireError σ) (start : σ)
    (bytes : List UInt8) : Except WireError σ :=
  match protoReader.fold handle start (.new bytes) with
  | .ok state _ => .ok state
  | .error reason _ => .error reason

/-- Fill a field that a message may hold once. -/
def setOnce {α : Type} (target : Option α) (value : α) (field : String) :
    Except WireError (Option α) :=
  if target.isSome then .error (.duplicateOrTrailingField field) else .ok (some value)

/-- The limits that matter to the transport. -/
structure ConsensusParameters where
  blockMaxBytes : Int64
  transportable : 1 <= blockMaxBytes /\ blockMaxBytes <= maxCometBlockBytes

def handleBlockParameter (maximumBytes : Option Int64) (field : ProtoField) :
    Except WireError (Option Int64) :=
  if field.number = 1 then do
    let value ← field.varint
    setOnce maximumBytes value.toInt64 "consensus_params.block.max_bytes"
  else if field.number = 2 then do
    let _ ← field.varint
    return maximumBytes
  else
    .error (.unsupportedField "BlockParams" field.number)

def decodeBlockParameters (bytes : List UInt8) : Except WireError Int64 := do
  let maximumBytes ← foldMessage handleBlockParameter none bytes
  match maximumBytes with
  | some maximum => .ok maximum
  | none => .error (.missingField "consensus_params.block.max_bytes")

def handleConsensusParameter (blockParameters : Option Int64) (field : ProtoField) :
    Except WireError (Option Int64) :=
  if field.number = 1 then do
    let bytes ← field.bytes
    let maximumBytes ← decodeBlockParameters bytes
    setOnce blockParameters maximumBytes "consensus_params.block"
  else if 2 <= field.number /\ field.number <= 5 then do
    let _ ← field.bytes
    return blockParameters
  else
    .error (.unsupportedField "ConsensusParams" field.number)

def decodeConsensusParameters (bytes : List UInt8) : Except WireError ConsensusParameters := do
  let blockParameters ← foldMessage handleConsensusParameter none bytes
  match blockParameters with
  | none => .error (.missingField "consensus_params.block")
  | some blockMaxBytes =>
    if transportable : 1 <= blockMaxBytes /\ blockMaxBytes <= maxCometBlockBytes then
      .ok ⟨blockMaxBytes, transportable⟩
    else
      .error (.unsupportedCometBlockMaximum blockMaxBytes maxCometBlockBytes)

end Noxis.Comet
