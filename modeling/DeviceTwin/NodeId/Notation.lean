import DeviceTwin.NodeId.Basic
import DeviceTwin.Text.Quoted

/-!
# The notation of node identifiers

An identifier is written `i=` and a number or `s=` and a text, after `ns=`, the index and a
semicolon unless the namespace is the standard one.  Reading also accepts the index of the
standard namespace, and a text without `s=` where it cannot be mistaken for something else.
-/

namespace DeviceTwin.NodeId

/-- Why a text is not an identifier. -/
inductive ParseError where
  /-- There is no text. -/
  | empty
  /-- The namespace prefix does not end; carries the whole text. -/
  | missingTerminator (input : Text)
  /-- The namespace prefix holds no index; carries what it holds. -/
  | invalidSpace (value : Text)
  /-- A numeric identifier holds no number; carries what it holds. -/
  | invalidNumber (value : Text)
  deriving DecidableEq, Repr

/-- The words for an error. -/
def ParseError.message : ParseError → Text
  | .empty => "Node id is empty".toList
  | .missingTerminator input =>
    "Namespace prefix of ".toList ++ Text.quote input ++ " is not terminated by ';'".toList
  | .invalidSpace value => Text.quote value ++ " is not a valid namespace index".toList
  | .invalidNumber value => Text.quote value ++ " is not a valid numeric id".toList

/-- An identifier inside its namespace, with its kind in front. -/
def renderIdentifier : Identifier → Text
  | .numeric n => 'i' :: '=' :: Numeral.render n.toNat
  | .text t => 's' :: '=' :: t

/-- The normal form of an identifier. -/
def render (id : NodeId) : Text :=
  if id.space = standardSpace then renderIdentifier id.identifier
  else 'n' :: 's' :: '=' :: Numeral.render id.space.toNat ++ ';' :: renderIdentifier id.identifier

/-- Reads what stands behind the namespace prefix. -/
def parseIdentifier : Text → Except ParseError Identifier
  | 'i' :: '=' :: digits =>
    match Numeral.parse UInt32.size digits with
    | some n => .ok (.numeric (.ofNat n))
    | none => .error (.invalidNumber digits)
  | 's' :: '=' :: t => .ok (.text t)
  | t => .ok (.text t)

/-- Reads an identifier. -/
def parse : Text → Except ParseError NodeId
  | [] => .error .empty
  | 'n' :: 's' :: '=' :: after =>
    match Text.cutAt (· = ';') after with
    | none => .error (.missingTerminator ('n' :: 's' :: '=' :: after))
    | some (index, rest) =>
      match Numeral.parse UInt16.size index with
      | none => .error (.invalidSpace index)
      | some k => (parseIdentifier rest).map (⟨.ofNat k, ·⟩)
  | t => (parseIdentifier t).map (⟨standardSpace, ·⟩)

end DeviceTwin.NodeId
