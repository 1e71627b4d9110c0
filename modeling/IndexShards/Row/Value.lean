import IndexShards.Double.Basic

/-!
# Values

A value of a row carries its type with it.  A record holds named values, in order and with names
as they were given; two of its fields may have the same name.

## What is here

* `Value` — the six kinds of values; `Value.typeName` names the kind in messages.
* `Value.text?`, `Value.long?` and the others — the content of a value of one kind.
* `Value.agrees` — equality, with doubles compared as numbers.
-/

set_option autoImplicit false

namespace IndexShards

/-- A value of a row. -/
inductive Value where
  | boolean (b : Bool)
  | int (n : Int32)
  | long (n : Int64)
  | double (d : Double)
  | text (s : String)
  | record (fields : List (String × Value))

namespace Value

/-- The name of the kind in messages. -/
def typeName : Value → String
  | boolean _ => "boolean"
  | int _ => "int"
  | long _ => "long"
  | double _ => "double"
  | text _ => "string"
  | record _ => "record"

/-! ## Contents -/

/-- The text of a text. -/
def text? : Value → Option String
  | text s => some s
  | _ => none

/-- The number of an integer of either width. -/
def long? : Value → Option Int64
  | int n => some n.toInt64
  | long n => some n
  | _ => none

/-- The number of a double. -/
def double? : Value → Option Double
  | double d => some d
  | _ => none

/-- The truth value of a boolean. -/
def boolean? : Value → Option Bool
  | boolean b => some b
  | _ => none

/-- The fields of a record. -/
def record? : Value → Option (List (String × Value))
  | record fields => some fields
  | _ => none

/-! ## Equality -/

mutual

/-- The values are of one kind and equal, doubles as numbers. -/
def agrees : Value → Value → Bool
  | boolean a, boolean b => a == b
  | int a, int b => a == b
  | long a, long b => a == b
  | double a, double b => a.agrees b
  | text a, text b => a == b
  | record a, record b => fieldsAgree a b
  | _, _ => false

/-- The fields have the same names, in order, and values that agree. -/
def fieldsAgree : List (String × Value) → List (String × Value) → Bool
  | [], [] => true
  | a :: as, b :: bs => fieldAgrees a b && fieldsAgree as bs
  | _, _ => false

/-- The fields have the same name, and values that agree. -/
def fieldAgrees : String × Value → String × Value → Bool
  | (m, a), (n, b) => m == n && agrees a b

end

end Value
end IndexShards
