import DeviceTwin.NodeId.Table

/-!
# Source text for a table

A table is turned into source text with three sections: a constant for the number of every node,
a constant for its identifier, and a list of all rows.  The text has thirteen lines of its own and
four lines for every row.
-/

namespace DeviceTwin.NodeTable

/-- The lines in front of the numbers. -/
def sourceHead : List Text :=
  [ "// @generated from resources/node_ids.csv".toList,
    [],
    "#[allow(non_upper_case_globals)]".toList,
    "pub mod id \x7b".toList,
    "    use super::NumericId;".toList ]

/-- The two lines that define the number of a node. -/
def Row.numberLines (r : Row) : List Text :=
  [ "    /// ".toList ++ r.type,
    "    pub const ".toList ++ r.name ++ ": NumericId = ".toList ++
      Numeral.render r.number.toNat ++ ";".toList ]

/-- The lines between the numbers and the identifiers. -/
def sourceMiddle : List Text :=
  [ "\x7d".toList,
    [],
    "#[allow(non_upper_case_globals)]".toList,
    "pub mod node \x7b".toList ]

/-- The line that defines the identifier of a node; `space` is how the index of the standard
namespace is called there. -/
def Row.nodeLine (space : Text) (r : Row) : Text :=
  "    pub const ".toList ++ r.name ++
    ": super::NodeId = super::NodeId::numeric(super::id::".toList ++ r.name ++ ", ".toList ++
    space ++ ");".toList

/-- The lines between the identifiers and the rows. -/
def sourceRows : List Text :=
  [ "\x7d".toList,
    [],
    "pub static TABLE: &[(&str, NumericId, &str)] = &[".toList ]

/-- The line for a node in the list of all rows. -/
def Row.tableLine (r : Row) : Text :=
  "    (".toList ++ Text.quote r.name ++ ", id::".toList ++ r.name ++ ", ".toList ++
    Text.quote r.type ++ "),".toList

/-- The lines of the source text. -/
def sourceLines (rows : List Row) (space : Text) : List Text :=
  sourceHead ++ rows.flatMap Row.numberLines ++ sourceMiddle ++ rows.map (Row.nodeLine space) ++
    sourceRows ++ rows.map Row.tableLine ++ ["];".toList]

/-- The source text for a table. -/
def source (rows : List Row) (space : Text) : Text := Text.unlines (sourceLines rows space)

theorem length_sourceLines (rows : List Row) (space : Text) :
    (sourceLines rows space).length = 4 * rows.length + 13 := by
  have h : (rows.flatMap Row.numberLines).length = 2 * rows.length := by
    induction rows with
    | nil => rfl
    | cons r rows ih =>
      simp only [List.flatMap_cons, List.length_append, ih, List.length_cons, Row.numberLines]
      simp only [List.length_nil]
      omega
  simp only [sourceLines, List.length_append, h, List.length_map]
  simp only [sourceHead, sourceMiddle, sourceRows, List.length_cons, List.length_nil]
  omega

end DeviceTwin.NodeTable
