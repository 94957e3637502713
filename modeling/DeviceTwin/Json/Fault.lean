import DeviceTwin.Text.Quoted
import DeviceTwin.Text.Utf8

/-!
# What can be wrong with a JSON text

A fault is one of the causes listed here, together with the place where reading stopped.  While a
text is read the place is known by how many bytes are still unread; `Fault.locate` turns that into
a line and a column.  Lines are counted from one, and the column counts the bytes of the line that
lie in front of the place, so it may fall inside a character.

Causes are of three kinds: the text breaks the grammar, it ends too early, or it is grammatical
but not what was asked for.
-/

namespace DeviceTwin.Json

/-- What a value turned out to be. -/
inductive Found where
  | null
  | bool (value : Bool)
  /-- An integer, by its decimal text. -/
  | integer (text : Text)
  /-- A number that is no integer, by its text. -/
  | float (text : Text)
  | string (value : Text)
  | list
  | object
  deriving DecidableEq, Repr

/-- What a value was asked to be. -/
inductive Expected where
  | text
  | flag
  | count
  | nothing
  | config
  | choice
  deriving DecidableEq, Repr

/-- What is wrong. -/
inductive Cause where
  | endInList
  | endInObject
  | endInString
  | endInValue
  | expectedColon
  | expectedListComma
  | expectedObjectComma
  | expectedWord
  | expectedValue
  | invalidEscape
  | invalidNumber
  | numberOutOfRange
  | controlCharacter
  | keyNotString
  | loneSurrogate
  | trailingComma
  | trailingCharacters
  | unfinishedEscape
  /-- The value is of another kind than asked for. -/
  | wrongType (found : Found) (expected : Expected)
  /-- The value is of the right kind, but not one that was asked for. -/
  | wrongValue (found : Found) (expected : Expected)
  /-- The word is none of those that were asked for. -/
  | unknownChoice (word : Text) (choices : List Text)
  /-- An object has a key twice that may occur once. -/
  | duplicateKey (key : Text)
  deriving DecidableEq, Repr

/-- The kinds of causes. -/
inductive Category where
  /-- The text breaks the grammar. -/
  | malformed
  /-- The text ends too early. -/
  | truncated
  /-- The text is not what was asked for. -/
  | mistyped
  deriving DecidableEq, Repr

/-- The words for what was found. -/
def Found.words : Found → Text
  | null => "null".toList
  | bool value => (if value then "boolean `true`" else "boolean `false`").toList
  | integer text => "integer `".toList ++ text ++ "`".toList
  | float text => "floating point `".toList ++ text ++ "`".toList
  | string value => "string ".toList ++ Text.quote value
  | list => "sequence".toList
  | object => "map".toList

/-- The words for what was expected. -/
def Expected.words : Expected → Text
  | text => "a string".toList
  | flag => "a boolean".toList
  | count => "usize".toList
  | nothing => "unit".toList
  | config => "struct Config".toList
  | choice => "variant identifier".toList

/-- Words in backquotes with commas between them. -/
def listWords : List Text → Text
  | [] => []
  | [w] => "`".toList ++ w ++ "`".toList
  | w :: next :: rest => "`".toList ++ w ++ "`, ".toList ++ listWords (next :: rest)

namespace Cause

/-- The kind of a cause. -/
def category : Cause → Category
  | endInList | endInObject | endInString | endInValue => .truncated
  | wrongType .. | wrongValue .. | unknownChoice .. | duplicateKey .. => .mistyped
  | _ => .malformed

/-- The words for a cause. -/
def words : Cause → Text
  | endInList => "EOF while parsing a list".toList
  | endInObject => "EOF while parsing an object".toList
  | endInString => "EOF while parsing a string".toList
  | endInValue => "EOF while parsing a value".toList
  | expectedColon => "expected `:`".toList
  | expectedListComma => "expected `,` or `]`".toList
  | expectedObjectComma => "expected `,` or `\x7d`".toList
  | expectedWord => "expected ident".toList
  | expectedValue => "expected value".toList
  | invalidEscape => "invalid escape".toList
  | invalidNumber => "invalid number".toList
  | numberOutOfRange => "number out of range".toList
  | controlCharacter =>
    "control character (\\u0000-\\u001F) found while parsing a string".toList
  | keyNotString => "key must be a string".toList
  | loneSurrogate => "lone leading surrogate in hex escape".toList
  | trailingComma => "trailing comma".toList
  | trailingCharacters => "trailing characters".toList
  | unfinishedEscape => "unexpected end of hex escape".toList
  | wrongType found expected =>
    "invalid type: ".toList ++ found.words ++ ", expected ".toList ++ expected.words
  | wrongValue found expected =>
    "invalid value: ".toList ++ found.words ++ ", expected ".toList ++ expected.words
  | unknownChoice word choices =>
    "unknown variant `".toList ++ word ++ "`, expected one of ".toList ++ listWords choices
  | duplicateKey key => "duplicate field `".toList ++ key ++ "`".toList

end Cause

/-- What is wrong, and how many bytes were still unread. -/
structure Fault where
  cause : Cause
  unread : Nat
  deriving DecidableEq, Repr

/-- A fault in front of the unread text. -/
def faultAt (cause : Cause) (rest : Text) : Fault := ⟨cause, Utf8.size rest⟩

/-- A fault behind the first byte of the unread text, or at its end. -/
def faultAfter (cause : Cause) (rest : Text) : Fault := ⟨cause, Utf8.size rest - 1⟩

/-- A place in a text. -/
structure Position where
  line : Nat
  column : Nat
  deriving DecidableEq, Repr

/-- The place that is a number of bytes further on in a text. -/
def Position.advance (p : Position) : Nat → Text → Position
  | 0, _ => p
  | _, [] => p
  | bytes + 1, c :: rest =>
    let size := c.utf8Size
    if c = '\n' then advance ⟨p.line + 1, 0⟩ (bytes + 1 - size) rest
    else advance ⟨p.line, p.column + min (bytes + 1) size⟩ (bytes + 1 - size) rest

/-- What is wrong with a text, and where. -/
structure Error where
  cause : Cause
  position : Position
  deriving DecidableEq, Repr

/-- The words for an error. -/
def Error.message (e : Error) : Text :=
  e.cause.words ++ " at line ".toList ++ Numeral.render e.position.line ++ " column ".toList ++
    Numeral.render e.position.column

/-- A fault with its place in the text that was read. -/
def Fault.locate (whole : Text) (f : Fault) : Error :=
  ⟨f.cause, Position.advance ⟨1, 0⟩ (Utf8.size whole - f.unread) whole⟩

end DeviceTwin.Json
