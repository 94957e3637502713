import DeviceTwin.Text.Utf8

/-!
# Node identifiers

A node is identified by the index of a namespace and, inside that namespace, by a number or by a
text.  Identifiers are ordered by namespace, then numbers before texts, then by value; texts
compare by their bytes in UTF-8.  Fifteen namespaces have names.
-/

namespace DeviceTwin

/-- What identifies a node inside its namespace. -/
inductive Identifier where
  | numeric (n : UInt32)
  | text (t : Text)
  deriving DecidableEq, Repr

/-- The identifier of a node. -/
structure NodeId where
  /-- The index of the namespace. -/
  space : UInt16
  /-- What identifies the node inside the namespace. -/
  identifier : Identifier
  deriving DecidableEq, Repr

namespace Identifier

/-- The number, if it is one. -/
def number? : Identifier → Option UInt32
  | numeric n => some n
  | text _ => none

/-- The text, if it is one. -/
def text? : Identifier → Option Text
  | numeric _ => none
  | text t => some t

/-- Numbers come before texts; numbers compare by value and texts by their bytes. -/
def order : Identifier → Identifier → Ordering
  | numeric m, numeric n => compare m.toNat n.toNat
  | numeric _, text _ => .lt
  | text _, numeric _ => .gt
  | text s, text t =>
    List.compareLex (fun a b => compare a.toNat b.toNat) (Utf8.encode s) (Utf8.encode t)

end Identifier

namespace NodeId

/-- The standard namespace. -/
def standardSpace : UInt16 := 0

/-- The node with the given number in the standard namespace. -/
def standard (n : UInt32) : NodeId := ⟨standardSpace, .numeric n⟩

/-- The identifier that stands for no node. -/
def null : NodeId := standard 0

instance : Inhabited NodeId := ⟨null⟩

/-- Whether the identifier stands for no node. -/
def isNull (id : NodeId) : Bool := id = null

/-- The order of identifiers: by namespace, then inside the namespace. -/
def order (a b : NodeId) : Ordering :=
  (compare a.space.toNat b.space.toNat).then (a.identifier.order b.identifier)

/-- The identifiers in increasing order, each once. -/
def sortUnique (ids : List NodeId) : List NodeId :=
  (ids.mergeSort fun a b => a.order b != .gt).eraseReps

end NodeId

namespace Namespaces

/-- The named namespaces by index. -/
def names : List (UInt16 × Text) :=
  [ (0, "STANDARD".toList), (1, "TS".toList), (2, "TIT".toList),
    (3, "MODBUS_DEVICES".toList), (4, "GROUP".toList), (5, "USER".toList),
    (6, "HISTORICAL_DB".toList), (7, "SCADA".toList), (9, "SIM_ITEM".toList),
    (10, "IEC_LINK".toList), (11, "IEC_DEV".toList), (12, "MODBUS_PORTS".toList),
    (14, "TS_FORMAT".toList), (15, "SERVER_PARAMS".toList), (16, "IEC_TRANSMIT".toList) ]

/-- The name of the namespace with the given index. -/
def nameOf (index : UInt16) : Option Text :=
  (names.find? (·.1 = index)).map (·.2)

/-- The index of the namespace with the given name. -/
def find (name : Text) : Option UInt16 :=
  (names.find? (·.2 = name)).map (·.1)

end Namespaces

end DeviceTwin
