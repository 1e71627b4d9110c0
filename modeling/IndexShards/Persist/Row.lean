import IndexShards.Double.Shortest
import IndexShards.Persist.Codec
import IndexShards.Row

/-!
# Storing values and rows

A value is an object with the name of its kind as the only field.  A record is an array of pairs,
each an array of a name and a value, so that its fields keep their order and their repetitions.  A
double that is no finite number is written as `null`, which is no double.

A row is stored with the names that it has.  Whoever writes one by hand may use names in any letter
case; they are read as they are.

## What is here

* `encodeValue`, `decodeValue` — values, to any depth and back.
* `Persistent` for `Value` and `Row`.
-/

set_option autoImplicit false

namespace IndexShards

open Decoder

/-! ## Values -/

mutual

/-- A value as an object that names its kind. -/
def encodeValue : Value → JsonValue
  | .boolean b => .record [("Boolean", .bool b)]
  | .int n => .record [("Int", .int n.toInt)]
  | .long n => .record [("Long", .int n.toInt)]
  | .double d => .record [("Double", if d.isFinite then .number d.text else .null)]
  | .text s => .record [("String", .text s)]
  | .record fields => .record [("Record", .array (encodeFields fields))]

/-- The fields of a record, in order. -/
def encodeFields : List (String × Value) → List JsonValue
  | [] => []
  | f :: fs => encodeField f :: encodeFields fs

/-- A field as an array of its name and its value. -/
def encodeField : String × Value → JsonValue
  | (name, v) => .array [.text name, encodeValue v]

end

/-- The whole number in thirty-two bits, if they can hold it. -/
def int32? (n : Int) : Option Int32 :=
  let m := Int32.ofInt n
  if m.toInt = n then some m else none

/-- The whole number in sixty-four bits, if they can hold it. -/
def int64? (n : Int) : Option Int64 :=
  let m := Int64.ofInt n
  if m.toInt = n then some m else none

theorem int32?_toInt (n : Int32) : int32? n.toInt = some n := by
  rw [int32?, Int32.ofInt_toInt, if_pos rfl]

theorem int64?_toInt (n : Int64) : int64? n.toInt = some n := by
  rw [int64?, Int64.ofInt_toInt, if_pos rfl]

/-- A field of a record: an array of a name and of what `value` reads. -/
def decodeField (value : JsonValue → Option Value) : JsonValue → Option (String × Value)
  | .array [.string (some name), v] => (value v).map (name, ·)
  | _ => none

/-- The content of a value of this kind, other than a record. -/
def decodePlain (kind : String) (room : Nat) (v : JsonValue) : Option Value :=
  match kind with
  | "Boolean" => (truth room v).map .boolean
  | "Int" => ((int room v).bind int32?).map .int
  | "Long" => ((int room v).bind int64?).map .long
  | "Double" => (double room v).map .double
  | "String" => (text room v).map .text
  | _ => none

/-- A value from an object that names its kind.  A record enters three levels for each of its own:
the object, the array of its fields, and the array of each field. -/
def decodeValue : Decoder Value
  | 0, _ => none
  | room + 1, .object [(some kind, v)] =>
    if kind = "Record" then
      match room, v with
      | inner + 1, .array items =>
        match inner with
        | 0 => if items = [] then some (.record []) else none
        | innermost + 1 => (items.mapM (decodeField (decodeValue innermost))).map .record
      | _, _ => none
    else decodePlain kind room v
  | _ + 1, _ => none

instance : Persistent Value := ⟨encodeValue, decodeValue⟩

/-! ## Rows -/

/-- A row is the map of its values. -/
instance : Persistent Row where
  encode r := .record [("fields", encode r.fields)]
  decode room v := do
    match ← members ["fields"] room v with
    | (room, [fields?]) => some ⟨← field decode room fields?⟩
    | _ => none

end IndexShards
