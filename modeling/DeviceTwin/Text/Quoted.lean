import DeviceTwin.Text.Classes
import DeviceTwin.Text.Numeral

/-!
# Quoted texts

A text is quoted between double quotes.  A double quote and a backslash inside it are written with
a backslash in front; tab, carriage return, line feed and the null character have letters of their
own; a character that has no visible form, or that would attach itself to the quote before it, is
written by its code point.  Everything else stands for itself.

`read` takes a quoted text apart again and also accepts the escapes that `quote` does not use.
-/

namespace DeviceTwin.Text

/-- How one character is written inside quotes. -/
def escape (c : Char) : Text :=
  match c with
  | '"' => ['\\', '"']
  | '\\' => ['\\', '\\']
  | '\t' => ['\\', 't']
  | '\r' => ['\\', 'r']
  | '\n' => ['\\', 'n']
  | '\x00' => ['\\', '0']
  | c =>
    if isExtending c || isUnprintable c then
      "\\u\x7b".toList ++ Numeral.renderHex c.toNat ++ ['}']
    else [c]

/-- The text in double quotes. -/
def quote (t : Text) : Text := '"' :: t.flatMap escape ++ ['"']

namespace Quoted

/-- The value of a hexadecimal digit of either case. -/
def hexValue? (c : Char) : Option Nat :=
  if '0' ≤ c ∧ c ≤ '9' then some (c.toNat - '0'.toNat)
  else if 'a' ≤ c ∧ c ≤ 'f' then some (c.toNat - 'a'.toNat + 10)
  else if 'A' ≤ c ∧ c ≤ 'F' then some (c.toNat - 'A'.toNat + 10)
  else none

/-- The number that hexadecimal digits denote, read on top of the digits already seen. -/
def hexNumber? (seen : Nat) : Text → Option Nat
  | [] => some seen
  | c :: rest => do hexNumber? (seen * 16 + (← hexValue? c)) rest

/-- The character with the code point that the digits denote. -/
def scalar? (digits : Text) : Option Char := do
  guard (1 ≤ digits.length ∧ digits.length ≤ 6)
  let n ← hexNumber? 0 digits
  if h : n.isValidChar then some (Char.ofNatAux n h) else none

/-- The character that a single letter behind a backslash stands for. -/
def letter? : Char → Option Char
  | '"' => some '"'
  | '\x27' => some '\x27'
  | '\\' => some '\\'
  | 't' => some '\t'
  | 'r' => some '\r'
  | 'n' => some '\n'
  | '0' => some '\x00'
  | _ => none

/-- Where a reader stands inside quotes. -/
inductive Place where
  /-- Between two characters of the text. -/
  | between
  /-- Behind a backslash. -/
  | escape
  /-- Inside an escape by two digits; holds the value of the first one once that has been read. -/
  | byte (high : Option Nat)
  /-- In front of the brace that opens an escape by a code point. -/
  | brace
  /-- Inside those braces; holds the digits that have been read, newest first. -/
  | code (digits : Text)
  /-- Behind a backslash that ends a line: the white space in front of the next character is
  skipped. -/
  | continued
  deriving DecidableEq, Repr

/-- What is read with one character more in front of it. -/
def push (c : Char) (read : Option (Text × Text)) : Option (Text × Text) :=
  read.map fun (body, after) => (c :: body, after)

/-- Inside quotes: the characters up to the closing quote, and what follows it.  Two digits denote
a code point below 128, digits in braces may have underscores between them, and a carriage return
has to be escaped. -/
def readBody : Place → Text → Option (Text × Text)
  | _, [] => none
  | .escape, c :: rest =>
    match c with
    | 'x' => readBody (.byte none) rest
    | 'u' => readBody .brace rest
    | '\n' => readBody .continued rest
    | c => (letter? c).bind fun c => push c (readBody .between rest)
  | .byte none, c :: rest =>
    (hexValue? c).bind fun high => if high < 8 then readBody (.byte (some high)) rest else none
  | .byte (some high), c :: rest =>
    (hexValue? c).bind fun low => push (.ofNat (16 * high + low)) (readBody .between rest)
  | .brace, c :: rest => if c = '{' then readBody (.code []) rest else none
  | .code digits, c :: rest =>
    if c = '}' then
      (scalar? digits.reverse).bind fun c => push c (readBody .between rest)
    else if c = '_' ∧ digits ≠ [] then readBody (.code digits) rest
    else readBody (.code (c :: digits)) rest
  | place, c :: rest =>
    if place = .continued ∧ c ∈ [' ', '\t', '\n', '\r'] then readBody .continued rest
    else match c with
      | '"' => some ([], rest)
      | '\\' => readBody .escape rest
      | '\r' => none
      | c => push c (readBody .between rest)

/-- The text that a quoted text at the start stands for, and what follows the closing quote. -/
def read : Text → Option (Text × Text)
  | '"' :: rest => readBody .between rest
  | _ => none

end Quoted

end DeviceTwin.Text
