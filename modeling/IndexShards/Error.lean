import IndexShards.Path.Basic
import IndexShards.Schema.Column

/-!
# Errors

Every operation that can fail says why in one type, `Error`.  Its cases say where the failure comes
from, and the causes below them say what happened; the wording is a function of the cause.  The
collaborators of this library live outside it and have reasons of their own, so each family of
causes but the first has a case for a text from outside.

## What is here

* `DefinitionError` — why the column list of an index is refused.
* `StorageError`, `SystemError`, `ArgumentError` — what a tree, a disk and an operation refuse.
* `Error` and `Error.message` — all of them together, and what is shown to a user.
-/

set_option autoImplicit false

namespace IndexShards

/-! ## Definitions -/

/-- Why the column list of an index is refused.  Every case names the property that holds the
list. -/
inductive DefinitionError where
  /-- The property is absent or blank. -/
  | missingProperty (property : String)
  /-- An entry of the list is empty. -/
  | illegalArgument (property : String)
  /-- A column stands in the list more than once. -/
  | duplicateColumn (property column : String)
  /-- The table has no such column. -/
  | columnNotFound (property column table : String)
  /-- The column does not hold plain strings. -/
  | unsupportedType (property column : String) (dataType : DataType)
  /-- The column holds codes of a dictionary in the place of its text. -/
  | unsupportedEncoding (property column : String)
deriving DecidableEq

/-- What is shown to the user who defined the index. -/
def DefinitionError.message : DefinitionError → String
  | missingProperty property => "text index requires a proper " ++ property ++ " property"
  | illegalArgument property => property ++ " contains illegal argument"
  | duplicateColumn property column => property ++ " has duplicate columns: " ++ column
  | columnNotFound property column table =>
    property ++ ": " ++ column ++ " does not exist in table " ++ table
  | unsupportedType property column dataType =>
    property ++ " only supports string columns, unsupported column: " ++ column ++
      ", data type: " ++ dataType.title
  | unsupportedEncoding property column =>
    property ++ " cannot contain dictionary encoded column " ++ column

/-! ## Storage -/

/-- What a tree of directories refuses. -/
inductive StorageError where
  /-- A directory is wanted, or is needed on the way, where a file stands. -/
  | isFile (path : Path)
  /-- A file is wanted where a directory stands. -/
  | isDirectory (path : Path)
  /-- The children of a file are asked for. -/
  | notDirectory (path : Path)
  /-- A reason from outside. -/
  | other (text : String)
deriving DecidableEq

/-- The wording of a storage error. -/
def StorageError.message : StorageError → String
  | isFile path => path.text ++ " is a file"
  | isDirectory path => path.text ++ " is a directory"
  | notDirectory path => path.text ++ " is not a directory"
  | other text => text

/-- What an operating system refuses. -/
inductive SystemError where
  | notFound
  | busy
  | alreadyExists
  | notDirectory
  | isDirectory
  | invalid
  | nameTooLong
  | notEmpty
  | tooManyLinks
  | unexpectedNul
  /-- A reason from outside. -/
  | other (text : String)
deriving DecidableEq

/-- The wording of a system error, with the number that the system gives it. -/
def SystemError.message : SystemError → String
  | notFound => "No such file or directory (os error 2)"
  | busy => "Device or resource busy (os error 16)"
  | alreadyExists => "File exists (os error 17)"
  | notDirectory => "Not a directory (os error 20)"
  | isDirectory => "Is a directory (os error 21)"
  | invalid => "Invalid argument (os error 22)"
  | nameTooLong => "File name too long (os error 36)"
  | notEmpty => "Directory not empty (os error 39)"
  | tooManyLinks => "Too many levels of symbolic links (os error 40)"
  | unexpectedNul => "file name contained an unexpected NUL byte"
  | other text => text

/-! ## Arguments -/

/-- What an index manager cannot do without. -/
inductive Service where
  | schema
  | status
  | registry
  | engine
deriving DecidableEq

/-- The name of a service in a message. -/
def Service.title : Service → String
  | schema => "schema lookup"
  | status => "segment status provider"
  | registry => "index registry"
  | engine => "index writer factory"

/-- Why an operation refuses what it is given. -/
inductive ArgumentError where
  /-- The table has an index of this name already. -/
  | indexExists (index table : String)
  /-- The status of another table's segments is kept here. -/
  | noStatus (table : String)
  /-- A service was not provided. -/
  | missing (service : Service)
  /-- An index without a name. -/
  | blankIndexName
  /-- The writer for this directory is closed. -/
  | writerClosed (dir : Path)
  /-- An indexed column holds a value of this type in the place of a text. -/
  | notText (column index typeName : String)
  /-- A reason from outside. -/
  | other (text : String)
deriving DecidableEq

/-- The wording of an argument error. -/
def ArgumentError.message : ArgumentError → String
  | indexExists index table => "index " ++ index ++ " already exists on table " ++ table
  | noStatus table => "no segment status for table " ++ table
  | missing service => service.title ++ " is required"
  | blankIndexName => "index name must not be blank"
  | writerClosed dir => "text index writer for " ++ dir.text ++ " is closed"
  | notText column index typeName =>
    "column " ++ column ++ " of index " ++ index ++ " expects string values, got " ++ typeName
  | other text => text

/-! ## All of them -/

/-- Why an operation failed. -/
inductive Error where
  | definition (cause : DefinitionError)
  | io (cause : SystemError)
  | storage (cause : StorageError)
  /-- A collaborator was stopped while it was waited for. -/
  | interrupted (text : String)
  | invalidArgument (cause : ArgumentError)
deriving DecidableEq

namespace Error

/-- What is shown to a user: where the failure comes from and what happened.  The refusal of a
definition is shown as it is. -/
def message : Error → String
  | definition cause => cause.message
  | io cause => "I/O error: " ++ cause.message
  | storage cause => "storage error: " ++ cause.message
  | interrupted text => "operation interrupted: " ++ text
  | invalidArgument cause => "invalid argument: " ++ cause.message

/-- The reason why a definition was refused, if that is what happened. -/
def definition? : Error → Option DefinitionError
  | definition cause => some cause
  | _ => none

end Error
end IndexShards
