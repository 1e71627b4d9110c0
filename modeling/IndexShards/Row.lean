import IndexShards.Row.Value
import IndexShards.Text.Lowercase
import Std.Data.ExtTreeMap

/-!
# Rows

A row is a set of named values.  Names are stored in lower case, as the names of indexed columns
are, so that a value is found by any spelling of its name; a name that is added again takes the
last value.

## What is here

* `Row` — the values by name; `Row.empty`, `Row.addField`, `Row.get?`.
* `Row.agrees` — equality, with doubles compared as numbers.
-/

set_option autoImplicit false

namespace IndexShards

open Std Text

/-- A set of named values. -/
structure Row where
  fields : ExtTreeMap String Value

namespace Row

/-- The row without values. -/
def empty : Row := ⟨∅⟩

/-- The row with a value more. -/
def addField (r : Row) (name : String) (v : Value) : Row := ⟨r.fields.insert (lowercase name) v⟩

/-- The value with this name, in any letter case. -/
def get? (r : Row) (name : String) : Option Value := r.fields[lowercase name]?

/-- The number of values. -/
def size (r : Row) : Nat := r.fields.size

/-- The row has no values. -/
def isEmpty (r : Row) : Bool := r.fields.isEmpty

/-- The rows have the same names, and values that agree. -/
def agrees (r s : Row) : Bool := Value.fieldsAgree r.fields.toList s.fields.toList

theorem get?_empty (name : String) : empty.get? name = none := by
  simp [get?, empty]

/-- The value that was added last under a name is found by every spelling of it. -/
theorem get?_addField (r : Row) (name name' : String) (v : Value) :
    (r.addField name v).get? name' =
      if lowercase name = lowercase name' then some v else r.get? name' := by
  simp [get?, addField, ExtTreeMap.getElem?_insert]

end Row
end IndexShards
