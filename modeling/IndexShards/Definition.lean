import IndexShards.Text.Lowercase
import Std.Data.ExtTreeMap

/-!
# Index definitions

A user declares an index with a name and properties, one of which lists the columns to index.  Once
the list is checked, the index is described by its name, its columns in lower case and the kinds of
predicates it speeds up.  A table knows its indexes by their registrations; only some of them are
text indexes, and the others are none of this library's business.

## What is here

* `Definition` — an index as the user declares it.
* `IndexMeta` — the checked description, with `IndexMeta.isIndexed`.
* `Registration` — an index of a table, with `Registration.isText`.
* `Analyzer` — how the engine cuts a text into words.
-/

set_option autoImplicit false

namespace IndexShards

open Std Text

/-! ## As the user declares it -/

/-- An index as the user declares it. -/
structure Definition where
  /-- The name of the index and of its directory in every segment. -/
  indexName : String
  properties : ExtTreeMap String String := ∅

namespace Definition

/-- The definition with a property more. -/
def withProperty (d : Definition) (key value : String) : Definition :=
  { d with properties := d.properties.insert key value }

/-- The value of a property. -/
def property? (d : Definition) (key : String) : Option String := d.properties[key]?

end Definition

/-- The property that lists the columns, unless the configuration names another one. -/
def textColumnsKey : String := "text_columns"

/-! ## As it is after the check -/

/-- A kind of predicate that an index can speed up. -/
inductive ExpressionKind where
  /-- A full-text predicate on one column. -/
  | textMatch
deriving DecidableEq

namespace ExpressionKind

/-- All kinds, in order. -/
def all : List ExpressionKind := [textMatch]

/-- The name by which a kind is stored. -/
def key : ExpressionKind → String
  | textMatch => "text_match"

theorem mem_all (k : ExpressionKind) : k ∈ all := by cases k; decide

end ExpressionKind

/-- The checked description of a text index. -/
structure IndexMeta where
  indexName : String
  /-- The names of the columns, in lower case and in the order of the definition. -/
  indexedColumns : List String
  optimizedOperations : List ExpressionKind
deriving DecidableEq

namespace IndexMeta

/-- The description of a text index on these columns. -/
def ofColumns (indexName : String) (columns : List String) : IndexMeta :=
  ⟨indexName, columns, [.textMatch]⟩

/-- The index speeds up predicates of this kind. -/
def supports (m : IndexMeta) (k : ExpressionKind) : Bool := m.optimizedOperations.contains k

/-- The column is indexed, however its name is spelled. -/
def isIndexed (m : IndexMeta) (column : String) : Bool :=
  m.indexedColumns.contains (lowercase column)

theorem isIndexed_iff {m : IndexMeta} {column : String} :
    m.isIndexed column = true ↔ lowercase column ∈ m.indexedColumns := by
  simp [isIndexed]

end IndexMeta

/-! ## As the table knows it -/

/-- The provider of text indexes. -/
def textProvider : String := "text"

/-- An index of a table, and who provides it. -/
structure Registration where
  indexName : String
  provider : String
deriving DecidableEq

namespace Registration

/-- The registration of a text index. -/
def text (indexName : String) : Registration := ⟨indexName, textProvider⟩

/-- The index is a text index. -/
def isText (r : Registration) : Bool := r.provider == textProvider

theorem isText_iff {r : Registration} : r.isText = true ↔ r.provider = "text" :=
  beq_iff_eq

end Registration

/-! ## Analysis -/

/-- How the engine cuts a text into words. -/
inductive Analyzer where
  /-- At the word boundaries of Unicode, and in lower case. -/
  | standard
deriving DecidableEq

namespace Analyzer

/-- All analyzers, in order. -/
def all : List Analyzer := [standard]

/-- The name by which the engine knows an analyzer, and by which it is stored. -/
def key : Analyzer → String
  | standard => "standard"

instance : Inhabited Analyzer := ⟨standard⟩

theorem mem_all (a : Analyzer) : a ∈ all := by cases a; decide

end Analyzer
end IndexShards
