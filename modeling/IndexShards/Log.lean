/-!
# Log messages

The operations that report what they do return their messages beside their answer, in order, so
that the host decides where they go.

## What is here

* `Level`, `LogRecord` — a message and how serious it is.
* `Noted α` — an answer of type `α` and the messages on the way to it.
-/

set_option autoImplicit false

namespace IndexShards

/-- How serious a message is. -/
inductive Level where
  | error
  | warn
  | info
  | debug
deriving DecidableEq

/-- The name of a level. -/
def Level.title : Level → String
  | error => "ERROR"
  | warn => "WARN"
  | info => "INFO"
  | debug => "DEBUG"

/-- A message to the host. -/
structure LogRecord where
  level : Level
  text : String
deriving DecidableEq

/-- An answer, and the messages on the way to it. -/
structure Noted (α : Type) where
  value : α
  log : List LogRecord := []

end IndexShards
