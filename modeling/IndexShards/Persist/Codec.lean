import IndexShards.Json.Value
import Std.Data.ExtTreeMap

/-!
# Storing values as JSON

A value that outlives the program is stored as JSON.  A structure is an object of its fields, or an
array of them in the order of their declaration; a choice without content is its name, or an object
with the name as the only field and `null` in it.  Fields that are not known are passed over, a
known one must not come twice, and one that is missing is an error unless it has a default.

These are the forms that `serde` documents for derived types, and the JSON is that of `serde_json`.
Both are libraries of their own, of which only the documented behaviour is taken.  For `serde_json`
that is a recursion limit of 128.  The array or object that would use it up is refused, so a reader
enters 127 of them, one inside the other.  What is passed over is not entered and may be nested
deeper.

## What is here

* `Persistent α` — values of type `α` can be written (`encode`) and read (`decode`).
* `write`, `read?` — the same on texts.
* `Decoder.members` and the other decoders — the parts that the decoders of types are made of.
-/

set_option autoImplicit false

namespace IndexShards

open Std

/-! ## Types that can be stored -/

/-- Reads a value from JSON; the number says how many arrays and objects may still be entered. -/
abbrev Decoder (α : Type) := Nat → JsonValue → Option α

/-- Values that can be written as JSON and read from it. -/
class Persistent (α : Type) where
  encode : α → JsonValue
  decode : Decoder α

export Persistent (encode decode)

/-- How many arrays and objects a reader enters, one inside the other: one less than the documented
limit of 128. -/
def depthLimit : Nat := 127

variable {α : Type}

/-- The JSON text of a value. -/
def write [Persistent α] (a : α) : String := (encode a).render

/-- The value of a JSON text. -/
def read? [Persistent α] (s : String) : Option α :=
  (JsonValue.parse? s).bind (decode depthLimit)

/-! ## Simple values -/

namespace Decoder

/-- A string that has a text. -/
def text : Decoder String
  | _, .string (some s) => some s
  | _, _ => none

/-- A truth value. -/
def truth : Decoder Bool
  | _, .bool b => some b
  | _, _ => none

/-- A whole number. -/
def int : Decoder Int
  | _, .number t => (Json.NumberText.ofChars? t.toList).bind Json.NumberText.int?
  | _, _ => none

/-- A number that is not beyond the largest double. -/
def double : Decoder Double
  | _, .number t => (Json.NumberText.ofChars? t.toList).bind Json.NumberText.double?
  | _, _ => none

/-- One of the choices, by its name. -/
def choice (all : List α) (key : α → String) : Decoder α
  | _, .string (some s) => all.find? fun a => key a == s
  | _ + 1, .object [(some s, .null)] => all.find? fun a => key a == s
  | _, _ => none

/-! ## Collections -/

/-- An array of values. -/
def list (item : Decoder α) : Decoder (List α)
  | room + 1, .array items => items.mapM (item room)
  | _, _ => none

/-- The fields of an object, all of which have a name. -/
def namedFields (fields : List (Option String × JsonValue)) : Option (List (String × JsonValue)) :=
  fields.mapM fun (name?, v) => name?.map (·, v)

/-- An object of values by name.  A name that comes again takes the last value, but every value
has to be one. -/
def map (item : Decoder α) : Decoder (ExtTreeMap String α)
  | room + 1, .object fields => do
    let named ← namedFields fields
    let items ← named.mapM fun (name, v) => (item room v).map (name, ·)
    some (items.foldl (fun m (name, a) => m.insert name a) ∅)
  | _, _ => none

/-! ## Structures -/

/-- What the only field with this name holds, if there is one; a second one is an error. -/
def only? (fields : List (String × JsonValue)) (name : String) : Option (Option JsonValue) :=
  match fields.filter fun f => f.1 == name with
  | [] => some none
  | [f] => some (some f.2)
  | _ => none

/-- What is given for each of the fields of a structure, and how many arrays and objects may still
be entered inside them. -/
def members (names : List String) : Decoder (Nat × List (Option JsonValue))
  | room + 1, .object fields => do
    let named ← namedFields fields
    let given ← names.mapM (only? named)
    some (room, given)
  | room + 1, .array items =>
    if items.length ≤ names.length then
      some (room, (List.range names.length).map fun i => items[i]?)
    else none
  | _, _ => none

/-- A field that has to be given. -/
def field (d : Decoder α) (room : Nat) : Option JsonValue → Option α
  | some v => d room v
  | none => none

/-- A field that has a default. -/
def fieldOr (default : α) (d : Decoder α) (room : Nat) : Option JsonValue → Option α
  | some v => d room v
  | none => some default

end Decoder

/-! ## Values made of others -/

/-- A choice as its name. -/
def encodeChoice (key : α → String) (a : α) : JsonValue := .text (key a)

instance : Persistent String := ⟨JsonValue.text, Decoder.text⟩

/-- A list is the array of its items. -/
instance [Persistent α] : Persistent (List α) :=
  ⟨fun as => .array (as.map encode), Decoder.list decode⟩

/-- A map is the object of its values. -/
instance [Persistent α] : Persistent (ExtTreeMap String α) :=
  ⟨fun m => .record (m.toList.map fun (k, a) => (k, encode a)), Decoder.map decode⟩

end IndexShards
