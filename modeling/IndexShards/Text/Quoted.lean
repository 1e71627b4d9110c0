import IndexShards.Text.Quoted.Table

/-!
# Quoted texts in messages

A message that shows a list of names writes each of them between double quotes, so that a reader
sees where a name ends and which characters it really holds.

## What is here

* `quoteChar c` — how a character is written between quotes.
* `quoted s` — the text in quotes.
* `quotedList ss` — a list of texts in quotes, in brackets.
-/

set_option autoImplicit false

namespace IndexShards
namespace Text

/-- The digits of a code point in hexadecimal, with lower case letters. -/
def hexDigits (n : Nat) : List Char := Nat.toDigits 16 n

/-- How a character is written between quotes: with a backslash if it is a quote, a backslash or
one of four control characters, by its number if it is not seen on its own, and else as it is. -/
def quoteChar (c : Char) : List Char :=
  if c = '\x00' then ['\\', '0']
  else if c = '\t' then ['\\', 't']
  else if c = '\n' then ['\\', 'n']
  else if c = '\r' then ['\\', 'r']
  else if c = '"' then ['\\', '"']
  else if c = '\\' then ['\\', '\\']
  else if inRanges hiddenRanges c then ['\\', 'u', '\x7b'] ++ hexDigits c.toNat ++ ['\x7d']
  else [c]

/-- The text in quotes. -/
def quoted (s : String) : String := String.ofList ('"' :: s.toList.flatMap quoteChar ++ ['"'])

/-- A list of texts in quotes, in brackets. -/
def quotedList (ss : List String) : String := "[" ++ ", ".intercalate (ss.map quoted) ++ "]"

example : quotedList ["a", "say \"b\""] = "[\"a\", \"say \\\"b\\\"\"]" := by decide +kernel

end Text
end IndexShards
