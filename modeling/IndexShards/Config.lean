import IndexShards.Definition
import IndexShards.Storage.Backend

/-!
# The configuration of an index

## What is here

* `Config` — which property lists the columns, how texts are cut into words, and where the data
  lives.  `Config.standard` is what holds when nothing is said.
-/

set_option autoImplicit false

namespace IndexShards

/-- The settings of one index. -/
structure Config where
  /-- The property of the definition that lists the columns. -/
  propertyKey : String := textColumnsKey
  /-- The analyzer that every writer of the index gets. -/
  analyzer : Analyzer := .standard
  /-- Where the data lives, if no file system is given. -/
  storage : StorageKind := .disk
deriving DecidableEq

/-- The settings that hold when nothing is said. -/
def Config.standard : Config := {}

end IndexShards
