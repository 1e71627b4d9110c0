import IndexShards.Json.Token

/-!
# JSON values

A JSON value is what a text stands for before it is known what the reader wants of it.  Fields keep
their order and may have the same name twice; numbers and strings are as in their tokens.

Reading a text means cutting it into tokens and grouping them, and nothing but white space may
follow the value.  Writing a value means listing its tokens and writing each of them, with nothing
in between; this is the compact form of `serde_json`, the library that these modules stand for.

## What is here

* `JsonValue` — a value.
* `JsonValue.tokens`, `JsonValue.render` — its tokens and its text.
* `JsonValue.ofTokens?`, `JsonValue.parse?` — the value of a list of tokens and of a text.
-/

set_option autoImplicit false

namespace IndexShards

open Json

/-- A JSON value. -/
inductive JsonValue where
  | null
  | bool (b : Bool)
  /-- A number, as it is written. -/
  | number (text : String)
  /-- A string, with its text if it has one. -/
  | string (text? : Option String)
  | array (items : List JsonValue)
  | object (fields : List (Option String × JsonValue))

namespace JsonValue

instance : Inhabited JsonValue := ⟨.null⟩

/-- A string with a text. -/
def text (s : String) : JsonValue := .string (some s)

/-- A whole number. -/
def int (n : Int) : JsonValue := .number (toString n)

/-- An object with these fields. -/
def record (fields : List (String × JsonValue)) : JsonValue :=
  .object (fields.map fun (k, v) => (some k, v))

/-! ## Writing -/

mutual

/-- The tokens of a value. -/
def tokens : JsonValue → List Token
  | null => [.null]
  | bool b => [.bool b]
  | number text => [.number text]
  | string text? => [.string text?]
  | array [] => [.leftBracket, .rightBracket]
  | array (x :: xs) => .leftBracket :: tokens x ++ itemTokens xs
  | object [] => [.leftBrace, .rightBrace]
  | object (f :: fs) => .leftBrace :: fieldTokens f ++ moreFieldTokens fs

/-- The tokens of the items behind the first one, and of the end of the array. -/
def itemTokens : List JsonValue → List Token
  | [] => [.rightBracket]
  | x :: xs => .comma :: tokens x ++ itemTokens xs

/-- The tokens of a field. -/
def fieldTokens : Option String × JsonValue → List Token
  | (name?, v) => .string name? :: .colon :: tokens v

/-- The tokens of the fields behind the first one, and of the end of the object. -/
def moreFieldTokens : List (Option String × JsonValue) → List Token
  | [] => [.rightBrace]
  | f :: fs => .comma :: fieldTokens f ++ moreFieldTokens fs

end

/-- The text of a value. -/
def render (v : JsonValue) : String := String.ofList (v.tokens.flatMap Token.chars)

/-! ## Reading

`fuel` bounds how deep the readers call each other.  Each of them reads a token for every two
calls, so twice the number of tokens is enough. -/

mutual

/-- The value at the head, and the tokens behind it. -/
def readValue? : Nat → List Token → Option (JsonValue × List Token)
  | 0, _ => none
  | _ + 1, [] => none
  | fuel + 1, t :: ts =>
    match t, ts with
    | .null, ts => some (.null, ts)
    | .bool b, ts => some (.bool b, ts)
    | .number text, ts => some (.number text, ts)
    | .string text?, ts => some (.string text?, ts)
    | .leftBracket, .rightBracket :: ts => some (.array [], ts)
    | .leftBracket, ts => (readItems? fuel ts).map fun (xs, rest) => (.array xs, rest)
    | .leftBrace, .rightBrace :: ts => some (.object [], ts)
    | .leftBrace, ts => (readFields? fuel ts).map fun (fs, rest) => (.object fs, rest)
    | _, _ => none

/-- The items up to the end of the array, of which there is at least one. -/
def readItems? : Nat → List Token → Option (List JsonValue × List Token)
  | 0, _ => none
  | fuel + 1, ts =>
    match readValue? fuel ts with
    | some (x, .comma :: ts) => (readItems? fuel ts).map fun (xs, rest) => (x :: xs, rest)
    | some (x, .rightBracket :: ts) => some ([x], ts)
    | _ => none

/-- The fields up to the end of the object, of which there is at least one. -/
def readFields? : Nat → List Token → Option (List (Option String × JsonValue) × List Token)
  | 0, _ => none
  | fuel + 1, ts =>
    match ts with
    | .string name? :: .colon :: ts =>
      match readValue? fuel ts with
      | some (v, .comma :: ts) =>
        (readFields? fuel ts).map fun (fs, rest) => ((name?, v) :: fs, rest)
      | some (v, .rightBrace :: ts) => some ([(name?, v)], ts)
      | _ => none
    | _ => none

end

/-- The value that the tokens make, all of them. -/
def ofTokens? (ts : List Token) : Option JsonValue :=
  match readValue? (2 * ts.length) ts with
  | some (v, []) => some v
  | _ => none

/-- The value of a text. -/
def parse? (s : String) : Option JsonValue := (tokens? s.toList).bind ofTokens?

end JsonValue
end IndexShards
