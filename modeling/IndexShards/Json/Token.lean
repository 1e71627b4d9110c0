import IndexShards.Json.Number
import IndexShards.Text.Quoted

/-!
# The tokens of JSON

A JSON text is a sequence of tokens with white space between them: brackets, commas and colons,
three words, numbers and strings.  A string literal may write a character by its number, in units of
sixteen bits; a unit that is half of a pair, without the other half, stands for no character, and a
string with one of these has no text although it is well formed.

The tokens are those of the JSON grammar and no others, as `serde_json` documents it: a control
character never stands in a string as it is, and there are neither comments nor commas before a
closing bracket.  When it writes a string, that library escapes the quote, the backslash and the
control characters, these with a letter where there is one, and nothing else.

## What is here

* `Token` — a token; a number keeps its spelling, and a string has its text or none.
* `Token.chars` — how a token is written.
* `readString?` — the string literal at the head of a list of characters.
* `Token.next?` — the token at the head.
* `tokens?` — all of them; none if some character begins no token.
-/

set_option autoImplicit false

namespace IndexShards
namespace Json

/-- A token of a JSON text. -/
inductive Token where
  | leftBrace
  | rightBrace
  | leftBracket
  | rightBracket
  | comma
  | colon
  | null
  | bool (b : Bool)
  /-- A number, as it is written. -/
  | number (text : String)
  /-- A string, with its text if it has one. -/
  | string (text? : Option String)
deriving DecidableEq

/-! ## Strings -/

/-- What stands between the quotes: characters, and units of sixteen bits. -/
inductive StringPiece where
  | char (c : Char)
  | unit (n : Nat)
deriving DecidableEq

/-- The value of a hexadecimal digit. -/
def hexValue? (c : Char) : Option Nat :=
  if '0' ≤ c ∧ c ≤ '9' then some (c.toNat - '0'.toNat)
  else if 'a' ≤ c ∧ c ≤ 'f' then some (c.toNat - 'a'.toNat + 10)
  else if 'A' ≤ c ∧ c ≤ 'F' then some (c.toNat - 'A'.toNat + 10)
  else none

/-- The unit that four hexadecimal digits stand for. -/
def unitOf? (a b c d : Char) : Option Nat := do
  let a ← hexValue? a
  let b ← hexValue? b
  let c ← hexValue? c
  let d ← hexValue? d
  some (((a * 16 + b) * 16 + c) * 16 + d)

/-- What a letter after a backslash stands for. -/
def escaped? (c : Char) : Option Char :=
  match c with
  | '"' => some '"'
  | '\\' => some '\\'
  | '/' => some '/'
  | 'b' => some '\x08'
  | 'f' => some '\x0c'
  | 'n' => some '\n'
  | 'r' => some '\r'
  | 't' => some '\t'
  | _ => none

/-- The pieces up to the closing quote, and what follows it. -/
def readPieces? : List Char → Option (List StringPiece × List Char)
  | [] => none
  | '"' :: cs => some ([], cs)
  | '\\' :: 'u' :: a :: b :: c :: d :: cs =>
    match unitOf? a b c d with
    | some n => (readPieces? cs).map fun (ps, rest) => (.unit n :: ps, rest)
    | none => none
  | '\\' :: c :: cs =>
    match escaped? c with
    | some e => (readPieces? cs).map fun (ps, rest) => (.char e :: ps, rest)
    | none => none
  | c :: cs =>
    if c.toNat < 0x20 ∨ c = '\\' then none
    else (readPieces? cs).map fun (ps, rest) => (.char c :: ps, rest)

/-- The unit is the first half of a pair. -/
def isHighHalf (n : Nat) : Bool := decide (0xD800 ≤ n) && decide (n < 0xDC00)

/-- The unit is the second half of a pair. -/
def isLowHalf (n : Nat) : Bool := decide (0xDC00 ≤ n) && decide (n < 0xE000)

/-- The characters that the pieces stand for, if every half of a pair has its other half. -/
def charsOf? : List StringPiece → Option (List Char)
  | [] => some []
  | .char c :: ps => (charsOf? ps).map (c :: ·)
  | .unit n :: ps =>
    if isHighHalf n then
      match ps with
      | .unit m :: qs =>
        if isLowHalf m then
          (charsOf? qs).map (Char.ofNat (0x10000 + (n - 0xD800) * 0x400 + (m - 0xDC00)) :: ·)
        else none
      | _ => none
    else if isLowHalf n then none
    else (charsOf? ps).map (Char.ofNat n :: ·)

/-- The text of a string whose opening quote has been read, and what follows its closing one. -/
def readString? (cs : List Char) : Option (Option String × List Char) :=
  (readPieces? cs).map fun (ps, rest) => ((charsOf? ps).map String.ofList, rest)

/-! ## Writing -/

/-- The two hexadecimal digits of a number below 256. -/
def twoHexDigits (n : Nat) : List Char := [Nat.digitChar (n / 16), Nat.digitChar (n % 16)]

/-- How a character is written in a string. -/
def escapedChar (c : Char) : List Char :=
  if c = '"' then ['\\', '"']
  else if c = '\\' then ['\\', '\\']
  else if c = '\x08' then ['\\', 'b']
  else if c = '\x0c' then ['\\', 'f']
  else if c = '\n' then ['\\', 'n']
  else if c = '\r' then ['\\', 'r']
  else if c = '\t' then ['\\', 't']
  else if c.toNat < 0x20 then ['\\', 'u', '0', '0'] ++ twoHexDigits c.toNat
  else [c]

/-- How a string is written.  One without a text is written as half of a pair. -/
def stringChars : Option String → List Char
  | some s => '"' :: s.toList.flatMap escapedChar ++ ['"']
  | none => ['"', '\\', 'u', 'd', '8', '0', '0', '"']

/-- How a token is written. -/
def Token.chars : Token → List Char
  | leftBrace => ['\x7b']
  | rightBrace => ['\x7d']
  | leftBracket => ['[']
  | rightBracket => [']']
  | comma => [',']
  | colon => [':']
  | null => ['n', 'u', 'l', 'l']
  | bool true => ['t', 'r', 'u', 'e']
  | bool false => ['f', 'a', 'l', 's', 'e']
  | number text => text.toList
  | string text? => stringChars text?

/-! ## Reading -/

/-- White space between tokens. -/
def isSpace (c : Char) : Bool := c == ' ' || c == '\t' || c == '\n' || c == '\r'

/-- A character that can stand in a number. -/
def inNumber (c : Char) : Bool :=
  c.isDigit || c == '-' || c == '+' || c == '.' || c == 'e' || c == 'E'

/-- The number at the head: all characters that can stand in one have to make one. -/
def readNumber? (cs : List Char) : Option (Token × List Char) :=
  let ds := cs.takeWhile inNumber
  (NumberText.ofChars? ds).map fun _ => (.number (String.ofList ds), cs.dropWhile inNumber)

/-- The token at the head, and what follows it. -/
def Token.next? : List Char → Option (Token × List Char)
  | '\x7b' :: cs => some (.leftBrace, cs)
  | '\x7d' :: cs => some (.rightBrace, cs)
  | '[' :: cs => some (.leftBracket, cs)
  | ']' :: cs => some (.rightBracket, cs)
  | ',' :: cs => some (.comma, cs)
  | ':' :: cs => some (.colon, cs)
  | 'n' :: 'u' :: 'l' :: 'l' :: cs => some (.null, cs)
  | 't' :: 'r' :: 'u' :: 'e' :: cs => some (.bool true, cs)
  | 'f' :: 'a' :: 'l' :: 's' :: 'e' :: cs => some (.bool false, cs)
  | '"' :: cs => (readString? cs).map fun (text?, rest) => (.string text?, rest)
  | cs => readNumber? cs

/-- The tokens of the characters, as long as `fuel` lasts; a token and a space use up one unit
each. -/
def tokensWithin? : Nat → List Char → Option (List Token)
  | _, [] => some []
  | 0, _ => none
  | fuel + 1, c :: cs =>
    if isSpace c then tokensWithin? fuel cs
    else match Token.next? (c :: cs) with
      | some (t, rest) => (tokensWithin? fuel rest).map (t :: ·)
      | none => none

/-- The tokens of the characters. -/
def tokens? (cs : List Char) : Option (List Token) := tokensWithin? cs.length cs

end Json
end IndexShards
