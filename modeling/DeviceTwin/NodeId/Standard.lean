import DeviceTwin.NodeId.Basic
import DeviceTwin.NodeId.Table

/-!
# The standard nodes

The nodes of the standard namespace that are known by name, in the order of their numbers.  Names
and numbers are all different, so that looking up a name and finding the name of a number undo
each other.
-/

namespace DeviceTwin

namespace NodeTable

/-- The number of the first row with the given name, as a node of the standard namespace. -/
def lookup (rows : List Row) (name : Text) : Option NodeId :=
  (rows.find? (·.name = name)).map fun r => NodeId.standard r.number

/-- The name of the first row with the given number. -/
def findName (rows : List Row) (number : UInt32) : Option Text :=
  (rows.find? (·.number = number)).map (·.name)

end NodeTable

namespace StandardNodes

/-- A row from literals. -/
def row (name : String) (number : UInt32) (type : String) : NodeTable.Row :=
  { name := name.toList, number, type := type.toList }

/-- The table of the standard nodes. -/
def table : List NodeTable.Row :=
  [
    row "Boolean" 1 "DataType",
    row "SByte" 2 "DataType",
    row "Byte" 3 "DataType",
    row "Int16" 4 "DataType",
    row "UInt16" 5 "DataType",
    row "Int32" 6 "DataType",
    row "UInt32" 7 "DataType",
    row "Int64" 8 "DataType",
    row "UInt64" 9 "DataType",
    row "Double" 11 "DataType",
    row "String" 12 "DataType",
    row "DateTime" 13 "DataType",
    row "ByteString" 15 "DataType",
    row "NodeId" 17 "DataType",
    row "ExpandedNodeId" 18 "DataType",
    row "QualifiedName" 20 "DataType",
    row "LocalizedText" 21 "DataType",
    row "BaseDataType" 24 "DataType",
    row "References" 31 "ReferenceType",
    row "NonHierarchicalReferences" 32 "ReferenceType",
    row "HierarchicalReferences" 33 "ReferenceType",
    row "HasChild" 34 "ReferenceType",
    row "Organizes" 35 "ReferenceType",
    row "HasModellingRule" 37 "ReferenceType",
    row "HasTypeDefinition" 40 "ReferenceType",
    row "Aggregates" 44 "ReferenceType",
    row "HasSubtype" 45 "ReferenceType",
    row "HasProperty" 46 "ReferenceType",
    row "HasComponent" 47 "ReferenceType",
    row "BaseObjectType" 58 "ObjectType",
    row "FolderType" 61 "ObjectType",
    row "BaseVariableType" 62 "VariableType",
    row "PropertyType" 68 "VariableType",
    row "ModellingRule_Mandatory" 78 "Object",
    row "RootFolder" 84 "Object",
    row "ObjectsFolder" 85 "Object",
    row "TypesFolder" 86 "Object",
    row "ModellingRules" 87 "Object",
    row "AggregateFunction_Average" 2342 "Object",
    row "AggregateFunction_Total" 2344 "Object",
    row "AggregateFunction_Minimum" 2346 "Object",
    row "AggregateFunction_Maximum" 2347 "Object",
    row "AggregateFunction_Count" 2352 "Object",
    row "AggregateFunction_Start" 2357 "Object",
    row "AggregateFunction_End" 2358 "Object" ]

/-- The standard node with the given name. -/
def lookup (name : Text) : Option NodeId := NodeTable.lookup table name

/-- The name of the standard node with the given number. -/
def findName (number : UInt32) : Option Text := NodeTable.findName table number

theorem nodup_numbers : (table.map (·.number)).Nodup := by decide

end StandardNodes

end DeviceTwin
