/-
# Concordance.Json.Decode -- typed values from readings

A decoder takes a reading apart from front to back and stops at the first thing
that is wrong: a malformed place (`malformed`) or a well-formed value of the wrong
shape (`shape`).  Which of the two it is depends on which comes first in the text.

A record is written as an object or, field by field, as an array.  In an object,
unknown members are passed over as long as they are well-formed, and a known
member must not come twice.
-/
import Concordance.Json.Reading

namespace Concordance.Json

set_option autoImplicit false

/-- Why a reading is no value of a type. -/
inductive DecodeError
  /-- The text is malformed. -/
  | malformed
  /-- The text is well-formed and says something else. -/
  | shape
  deriving DecidableEq, Repr

/-- Takes a reading apart. -/
abbrev Decoder (α : Type) := Reading → Except DecodeError α

/-- The error of a reading that is not of the type asked for.  A scalar is read to its end, so its
own defects count; a list is refused at its first character. -/
def mismatch : Reading → DecodeError
  | .broken => .malformed
  | .number n => if n.isHuge then .malformed else .shape
  | .text none => .malformed
  | _ => .shape

mutual

/-- Whether a reading is well-formed.  Unpaired surrogates and huge numbers are. -/
def wellFormed : Reading → Bool
  | .broken => false
  | .array items closed => closed && allWellFormed items
  | .object members closed => closed && membersWellFormed members
  | _ => true

/-- Whether all readings of a list are well-formed. -/
def allWellFormed : List Reading → Bool
  | [] => true
  | r :: rest => wellFormed r && allWellFormed rest

/-- Whether the values of all members are well-formed. -/
def membersWellFormed : List (Option String × Reading) → Bool
  | [] => true
  | (_, r) :: rest => wellFormed r && membersWellFormed rest

end

/-! ## Scalars and lists -/

/-- A text. -/
def decodeText : Decoder String
  | .text (some s) => .ok s
  | r => .error (mismatch r)

/-- True or false. -/
def decodeBool : Decoder Bool
  | .bool b => .ok b
  | r => .error (mismatch r)

/-- A natural number below `bound`, written without fraction or power. -/
def decodeNat (bound : Nat) : Decoder Nat
  | .number (.integer false n) =>
      if n < bound then .ok n else .error (mismatch (.number (.integer false n)))
  | r => .error (mismatch r)

/-- A 32-bit word. -/
def decodeWord : Decoder UInt32 := fun r => (decodeNat UInt32.size r).map UInt32.ofNat

/-- A 64-bit word. -/
def decodeLong : Decoder Nat := decodeNat UInt64.size

/-- Null, or a value. -/
def decodeOption {α : Type} (decode : Decoder α) : Decoder (Option α)
  | .null => .ok none
  | r => (decode r).map some

/-- An array of values. -/
def decodeList {α : Type} (decode : Decoder α) : Decoder (List α)
  | .array items closed => do
      let values ← items.mapM decode
      if closed then .ok values else .error .malformed
  | r => .error (mismatch r)

/-- An object whose member names are free; of two members of one name the later counts. -/
def decodeMap {α : Type} (decode : Decoder α) : Decoder (List (String × α))
  | .object members closed => do
      let values ← members.mapM (fun (name, r) =>
        match name with
        | none => .error .malformed
        | some name => (decode r).map (fun a => (name, a)))
      if closed then .ok values else .error .malformed
  | r => .error (mismatch r)

/-- One of a fixed list of names, given as a text or as an object of one member with value null. -/
def decodeName {α : Type} (ofName? : String → Option α) : Decoder α
  | .text (some s) =>
      match ofName? s with
      | some a => .ok a
      | none => .error .shape
  | .object ((some name, value) :: rest) closed =>
      match ofName? name, value with
      | none, _ => .error .shape
      | some a, .null => if rest.isEmpty && closed then .ok a else .error .malformed
      | some _, r => .error (mismatch r)
  | _ => .error .malformed

/-! ## Records -/

/-- A field of a record: its name, what its value must decode as, and whether an array may end
before it. -/
structure Field where
  name : String
  check : Reading → Except DecodeError Unit
  trailing : Bool

/-- A field whose value decodes with `decode`. -/
def field {α : Type} (name : String) (decode : Decoder α) : Field :=
  ⟨name, fun r => (decode r).map (fun _ => ()), false⟩

/-- A field like `field` that an array may leave out at its end. -/
def trailingField {α : Type} (name : String) (decode : Decoder α) : Field :=
  { field name decode with trailing := true }

/-- The members of an object that are fields, each of them checked, in the order of the text;
`found` holds those already read. -/
def collectMembers (fields : List Field) (found : List (String × Reading)) :
    List (Option String × Reading) → Except DecodeError (List (String × Reading))
  | [] => .ok found
  | (none, _) :: _ => .error .malformed
  | (some name, r) :: rest =>
      match fields.find? (fun f => f.name = name) with
      | none => if wellFormed r then collectMembers fields found rest else .error .malformed
      | some f =>
          if (found.lookup name).isSome then .error .shape
          else
            match f.check r with
            | .error e => .error e
            | .ok () => collectMembers fields ((name, r) :: found) rest

/-- The items of an array as fields, in their order. -/
def collectItems (closed : Bool) (found : List (String × Reading)) :
    List Field → List Reading → Except DecodeError (List (String × Reading))
  | [], [] => if closed then .ok found else .error .malformed
  | [], _ :: _ => .error .malformed
  | f :: fields, [] =>
      if closed then
        if f.trailing then collectItems closed found fields [] else .error .shape
      else .error .malformed
  | f :: fields, r :: rest =>
      match f.check r with
      | .error e => .error e
      | .ok () => collectItems closed ((f.name, r) :: found) fields rest

/-- The fields of a record, by name. -/
def collect (fields : List Field) : Reading → Except DecodeError (List (String × Reading))
  | .object members closed => do
      let found ← collectMembers fields [] members
      if closed then .ok found else .error .malformed
  | .array items closed => collectItems closed [] fields items
  | r => .error (mismatch r)

/-- The value of a field that must be there. -/
def required {α : Type} (decode : Decoder α) (found : List (String × Reading)) (name : String) :
    Except DecodeError α :=
  match found.lookup name with
  | some r => decode r
  | none => .error .shape

/-- The value of a field that may be missing. -/
def optional {α : Type} (decode : Decoder α) (found : List (String × Reading)) (name : String) :
    Except DecodeError (Option α) :=
  match found.lookup name with
  | some r => decodeOption decode r
  | none => .ok none

end Concordance.Json
