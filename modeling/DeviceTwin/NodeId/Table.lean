import DeviceTwin.Text.Blank
import DeviceTwin.Text.Quoted

/-!
# Tables of standard nodes

A table lists nodes of the standard namespace, one a line: name, number and type with commas
between them.  Blank lines and lines that start with `#` are skipped, and blanks around a line and
around its fields do not matter.  A name has to be usable as an identifier in generated source
text and may not occur twice; a number may.
-/

namespace DeviceTwin.NodeTable

/-- One node of a table. -/
structure Row where
  name : Text
  number : UInt32
  type : Text
  deriving DecidableEq, Repr

/-- What is wrong with a line. -/
inductive Fault where
  /-- There are not three fields. -/
  | fieldCount (found : Nat)
  /-- The name cannot be used as an identifier. -/
  | invalidName (name : Text)
  /-- The number is none, or too large. -/
  | invalidNumber (value : Text)
  /-- An earlier row has the same name. -/
  | duplicateName (name : Text)
  deriving DecidableEq, Repr

/-- The first line that is at fault, counted from one, and its fault. -/
structure ParseError where
  line : Nat
  fault : Fault
  deriving DecidableEq, Repr

/-- The words for a fault. -/
def Fault.message : Fault → Text
  | .fieldCount found =>
    "expected 3 fields (name, numeric id, type), found ".toList ++ Numeral.render found
  | .invalidName name => Text.quote name ++ " is not a valid identifier".toList
  | .invalidNumber value => Text.quote value ++ " is not a valid numeric id".toList
  | .duplicateName name => "duplicate name ".toList ++ Text.quote name

/-- The words for an error. -/
def ParseError.message (e : ParseError) : Text :=
  "line ".toList ++ Numeral.render e.line ++ ": ".toList ++ e.fault.message

/-- Words with a meaning of their own in generated source text: keywords in use or reserved. -/
def keywords : List Text :=
  [ "as", "async", "await", "break", "const", "continue", "crate", "dyn", "else", "enum",
    "extern", "false", "fn", "for", "if", "impl", "in", "let", "loop", "match", "mod", "move",
    "mut", "pub", "ref", "return", "self", "Self", "static", "struct", "super", "trait", "true",
    "type", "unsafe", "use", "where", "while", "abstract", "become", "box", "do", "final", "gen",
    "macro", "override", "priv", "try", "typeof", "unsized", "virtual", "yield" ].map
    String.toList

/-- A character that may start an identifier: an ASCII letter or the underscore. -/
def isNameStart (c : Char) : Bool := c.isAlpha || c = '_'

/-- A character that may continue an identifier. -/
def isNamePart (c : Char) : Bool := c.isAlphanum || c = '_'

/-- An identifier of generated source text. -/
def isName (name : Text) : Bool :=
  match name with
  | [] => false
  | first :: rest =>
    isNameStart first && rest.all isNamePart && name != ['_'] && !keywords.contains name

/-- A line that holds no row: blank, or a comment. -/
def isSkipped (line : Text) : Bool :=
  match Text.trim line with
  | [] => true
  | c :: _ => c = '#'

/-- The fields of a line: what stands between the commas, without the blanks around it. -/
def fields (line : Text) : List Text := (Text.pieces ',' (Text.trim line)).map Text.trim

/-- Reads a line that is not skipped, after rows with the names `seen`. -/
def parseRow (seen : List Text) (line : Text) : Except Fault Row :=
  match fields line with
  | [name, number, type] =>
    if !isName name then .error (.invalidName name)
    else match Numeral.parse UInt32.size number with
      | none => .error (.invalidNumber number)
      | some n =>
        if seen.contains name then .error (.duplicateName name)
        else .ok { name, number := .ofNat n, type }
  | fs => .error (.fieldCount fs.length)

/-- Reads lines, the first of which has the number `line`, after rows with the names `seen`. -/
def parseLines (line : Nat) (seen : List Text) : List Text → Except ParseError (List Row)
  | [] => .ok []
  | l :: rest =>
    if isSkipped l then parseLines (line + 1) seen rest
    else match parseRow seen l with
      | .error fault => .error { line, fault }
      | .ok row => (parseLines (line + 1) (row.name :: seen) rest).map (row :: ·)

/-- Reads a table. -/
def parse (text : Text) : Except ParseError (List Row) := parseLines 1 [] (Text.lines text)

/-- One row as a line of a table, without its end. -/
def Row.render (r : Row) : Text :=
  r.name ++ ',' :: Numeral.render r.number.toNat ++ ',' :: r.type

/-- A table with one line for each row. -/
def render (rows : List Row) : Text := Text.unlines (rows.map Row.render)

end DeviceTwin.NodeTable
