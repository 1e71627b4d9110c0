/-!
# Columns

What a catalog knows of a column: the name it was declared with, its logical type and the
encodings its values are stored in.  Only plain string columns hold text that can be indexed, and
of those only the ones whose values are stored as text and not as codes of a dictionary.

## What is here

* `DataType`, `Encoding` — the types and encodings; `DataType.title` is the name that messages
  show.
* `Column` — with `withEncoding`, which adds an encoding once.
* `Column.isText` — the column holds text that can be indexed.
-/

set_option autoImplicit false

namespace IndexShards

/-! ## Types -/

/-- Logical type of the values of a column. -/
inductive DataType where
  | boolean
  | short
  | int
  | long
  | double
  | decimal
  | date
  | timestamp
  | string
  | varchar
  | binary
  | array
  | struct
deriving DecidableEq

namespace DataType

/-- All types, in order. -/
def all : List DataType :=
  [boolean, short, int, long, double, decimal, date, timestamp, string, varchar, binary, array,
    struct]

/-- The name by which a type is stored. -/
def key : DataType → String
  | boolean => "boolean"
  | short => "short"
  | int => "int"
  | long => "long"
  | double => "double"
  | decimal => "decimal"
  | date => "date"
  | timestamp => "timestamp"
  | string => "string"
  | varchar => "varchar"
  | binary => "binary"
  | array => "array"
  | struct => "struct"

/-- The name that messages show. -/
def title : DataType → String
  | boolean => "BOOLEAN"
  | short => "SHORT"
  | int => "INT"
  | long => "LONG"
  | double => "DOUBLE"
  | decimal => "DECIMAL"
  | date => "DATE"
  | timestamp => "TIMESTAMP"
  | string => "STRING"
  | varchar => "VARCHAR"
  | binary => "BINARY"
  | array => "ARRAY"
  | struct => "STRUCT"

/-- Values of this type are plain strings. -/
def isString (t : DataType) : Bool := t == string

theorem isString_iff {t : DataType} : t.isString = true ↔ t = .string := by
  rw [isString, beq_iff_eq]

theorem mem_all (t : DataType) : t ∈ all := by cases t <;> decide

end DataType

/-! ## Encodings -/

/-- How the values of a column are stored. -/
inductive Encoding where
  /-- As codes of a dictionary. -/
  | dictionary
  /-- As they are. -/
  | directDictionary
  /-- As part of a sorted index. -/
  | inverted
  /-- As runs of equal values. -/
  | rle
deriving DecidableEq

namespace Encoding

/-- All encodings, in order. -/
def all : List Encoding := [dictionary, directDictionary, inverted, rle]

/-- The name by which an encoding is stored. -/
def key : Encoding → String
  | dictionary => "dictionary"
  | directDictionary => "direct_dictionary"
  | inverted => "inverted"
  | rle => "rle"

theorem mem_all (e : Encoding) : e ∈ all := by cases e <;> decide

end Encoding

/-! ## Columns -/

/-- A column as the catalog declares it. -/
structure Column where
  name : String
  dataType : DataType
  encodings : List Encoding := []
deriving DecidableEq

namespace Column

/-- A column of plain strings, stored as they are. -/
def ofStrings (name : String) : Column := ⟨name, .string, []⟩

/-- The column with one more encoding, if it does not have it already. -/
def withEncoding (c : Column) (e : Encoding) : Column :=
  if e ∈ c.encodings then c else { c with encodings := c.encodings ++ [e] }

/-- The values are stored as codes of a dictionary. -/
def isDictionaryEncoded (c : Column) : Bool := c.encodings.contains .dictionary

/-- The column holds text that can be indexed. -/
def isText (c : Column) : Bool := c.dataType.isString && !c.isDictionaryEncoded

theorem isDictionaryEncoded_iff {c : Column} :
    c.isDictionaryEncoded = true ↔ Encoding.dictionary ∈ c.encodings := by
  rw [isDictionaryEncoded, List.contains_iff_mem]

theorem isText_iff {c : Column} :
    c.isText = true ↔ c.dataType = .string ∧ Encoding.dictionary ∉ c.encodings := by
  rw [isText, Bool.and_eq_true, DataType.isString_iff, Bool.not_eq_true', ← Bool.not_eq_true,
    isDictionaryEncoded_iff]

end Column
end IndexShards
