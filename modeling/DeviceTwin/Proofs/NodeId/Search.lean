import DeviceTwin.NodeId.Standard
import DeviceTwin.Proofs.NodeId.SourceReading

/-!
# Searching a table by name and by number

The list of all rows in the source text for a table is searched from its start, by name or by
number.  Reading a table makes sure that no name occurs twice, but says nothing about numbers.  So
a name is found in the one row that has it (`find?_of_nodup`), while a number is found in the first
row that has it, and any later row with that number is shown under the name of that first one.
Going from a name to its number and back comes out at the name, for all names, exactly if no two
rows share a number (`forall_findName_numberOf_iff`).  The standard nodes share none, and neither
indices nor names of namespaces occur twice, so that these lead to each other too
(`Namespaces.find_eq_some_iff`).
-/

namespace DeviceTwin

namespace NodeTable

/-! ## First matches -/

section Keys

variable {α β : Type} [DecidableEq β] {key : α → β} {as : List α}

theorem find?_of_nodup (h : (as.map key).Nodup) {a : α} (ha : a ∈ as) :
    as.find? (key · = key a) = some a := by
  induction as with
  | nil => simp at ha
  | cons x as ih =>
    obtain ⟨hfresh, hrest⟩ := List.nodup_cons.1 h
    rcases List.mem_cons.1 ha with rfl | ha
    · exact List.find?_cons_of_pos (by simp)
    · have hne : key x ≠ key a := fun heq => hfresh (heq ▸ List.mem_map_of_mem ha)
      rw [List.find?_cons_of_neg (by simpa using hne), ih hrest ha]

theorem find?_eq_some_iff_of_nodup (h : (as.map key).Nodup) {a : α} {b : β} :
    as.find? (key · = b) = some a ↔ a ∈ as ∧ key a = b := by
  constructor
  · intro hfind
    exact ⟨List.mem_of_find?_eq_some hfind, by simpa using List.find?_some hfind⟩
  · rintro ⟨ha, rfl⟩
    exact find?_of_nodup h ha

theorem isSome_find?_iff_of_nodup (h : (as.map key).Nodup) (b : β) :
    (as.find? (key · = b)).isSome = true ↔ as.countP (key · = b) = 1 := by
  have hcount : as.countP (key · = b) = (as.map key).count b := by
    rw [List.count, List.countP_map]
    exact List.countP_congr fun x _ => by simp
  have hle : (as.map key).count b ≤ 1 := List.nodup_iff_count_le_one.1 h b
  have hpos : (as.find? (key · = b)).isSome = true ↔ 0 < as.countP (key · = b) := by
    rw [List.find?_isSome, List.countP_pos_iff]
  rw [hpos]
  omega

end Keys

/-! ## Searches -/

section Searches

variable {rows : List Row}

theorem lookup_eq_some_iff (h : (rows.map Row.name).Nodup) {name : Text} {id : NodeId} :
    lookup rows name = some id ↔ ∃ r ∈ rows, r.name = name ∧ NodeId.standard r.number = id := by
  rw [lookup, Option.map_eq_some_iff]
  simp only [find?_eq_some_iff_of_nodup h, and_assoc]

theorem lookup_name (h : (rows.map Row.name).Nodup) {r : Row} (hr : r ∈ rows) :
    lookup rows r.name = some (NodeId.standard r.number) :=
  (lookup_eq_some_iff h).2 ⟨r, hr, rfl, rfl⟩

theorem findName_eq_some_iff {n : UInt32} {name : Text} :
    findName rows n = some name ↔ ∃ before r after, rows = before ++ r :: after ∧
      r.number = n ∧ r.name = name ∧ ∀ x ∈ before, x.number ≠ n := by
  simp only [findName, Option.map_eq_some_iff, List.find?_eq_some_iff_append]
  constructor
  · rintro ⟨r, ⟨hr, before, after, hrows, hbefore⟩, hname⟩
    exact ⟨before, r, after, hrows, by simpa using hr, hname, by simpa using hbefore⟩
  · rintro ⟨before, r, after, hrows, hr, hname, hbefore⟩
    exact ⟨r, ⟨by simpa using hr, before, after, hrows, by simpa using hbefore⟩, hname⟩

theorem findName_eq_none_iff {n : UInt32} :
    findName rows n = none ↔ ∀ r ∈ rows, r.number ≠ n := by
  simp [findName]

theorem exists_row_of_findName {n : UInt32} {name : Text} (h : findName rows n = some name) :
    ∃ r ∈ rows, r.number = n ∧ r.name = name := by
  obtain ⟨before, r, after, rfl, hnumber, hname, -⟩ := findName_eq_some_iff.1 h
  exact ⟨r, by simp, hnumber, hname⟩

theorem lookup_of_findName (h : (rows.map Row.name).Nodup) {n : UInt32} {name : Text}
    (hfind : findName rows n = some name) : lookup rows name = some (NodeId.standard n) := by
  obtain ⟨r, hr, rfl, rfl⟩ := exists_row_of_findName hfind
  exact lookup_name h hr

theorem findName_of_mem (h : (rows.map Row.number).Nodup) {r : Row} (hr : r ∈ rows) :
    findName rows r.number = some r.name := by
  rw [findName, find?_of_nodup h hr, Option.map_some]

/-- The number of the node with the given name. -/
def numberOf (rows : List Row) (name : Text) : Option UInt32 :=
  (lookup rows name).bind (·.identifier.number?)

theorem numberOf_name (h : (rows.map Row.name).Nodup) {r : Row} (hr : r ∈ rows) :
    numberOf rows r.name = some r.number := by
  rw [numberOf, lookup_name h hr]
  rfl

/-- If every name is found again by its number, two rows with one number have one name, and so are
one row. -/
theorem forall_findName_numberOf_iff (h : (rows.map Row.name).Nodup) :
    (∀ r ∈ rows, (numberOf rows r.name).bind (findName rows) = some r.name) ↔
      (rows.map Row.number).Nodup := by
  constructor
  · intro hback
    refine List.Nodup.map_on (fun r hr r' hr' hnumber => ?_) (List.Nodup.of_map _ h)
    have hname : findName rows r.number = some r.name := by
      simpa [numberOf_name h hr] using hback r hr
    have hname' : findName rows r'.number = some r'.name := by
      simpa [numberOf_name h hr'] using hback r' hr'
    rw [hnumber, hname'] at hname
    exact List.inj_on_of_nodup_map h hr hr' (Option.some.inj hname).symm
  · intro hnumbers r hr
    rw [numberOf_name h hr, Option.bind_some, findName_of_mem hnumbers hr]

/-- With no number twice, names and numbers belong to each other. -/
theorem lookup_eq_some_iff_findName (hnames : (rows.map Row.name).Nodup)
    (hnumbers : (rows.map Row.number).Nodup) {name : Text} {id : NodeId} :
    lookup rows name = some id ↔ ∃ n, id = NodeId.standard n ∧ findName rows n = some name := by
  constructor
  · intro h
    obtain ⟨r, hr, rfl, rfl⟩ := (lookup_eq_some_iff hnames).1 h
    exact ⟨r.number, rfl, findName_of_mem hnumbers hr⟩
  · rintro ⟨n, rfl, hfind⟩
    exact lookup_of_findName hnames hfind

end Searches

end NodeTable

/-! ## Namespaces -/

namespace Namespaces

theorem nodup_indices : (names.map Prod.fst).Nodup := by decide

theorem nodup_names : (names.map Prod.snd).Nodup := by decide

/-- The index that is found for a name is the one that has this name. -/
theorem find_eq_some_iff {index : UInt16} {name : Text} :
    find name = some index ↔ nameOf index = some name := by
  rw [find, nameOf, Option.map_eq_some_iff, Option.map_eq_some_iff]
  constructor
  · rintro ⟨entry, hentry, rfl⟩
    obtain ⟨hmem, rfl⟩ := (NodeTable.find?_eq_some_iff_of_nodup nodup_names).1 hentry
    exact ⟨entry, NodeTable.find?_of_nodup nodup_indices hmem, rfl⟩
  · rintro ⟨entry, hentry, rfl⟩
    obtain ⟨hmem, rfl⟩ := (NodeTable.find?_eq_some_iff_of_nodup nodup_indices).1 hentry
    exact ⟨entry, NodeTable.find?_of_nodup nodup_names hmem, rfl⟩

end Namespaces

namespace NodeTable

/-! ## Searches of the source text -/

/-- The node with the number in the first entry that has the given name. -/
def lookupEntry (entries : List (Text × UInt32 × Text)) (name : Text) : Option NodeId :=
  (entries.find? (·.1 = name)).map fun e => NodeId.standard e.2.1

/-- The name in the first entry that has the given number. -/
def findEntry (entries : List (Text × UInt32 × Text)) (number : UInt32) : Option Text :=
  (entries.find? (·.2.1 = number)).map (·.1)

theorem lookupEntry_map (rows : List Row) :
    lookupEntry (rows.map fun r => (r.name, r.number, r.type)) = lookup rows := by
  funext name
  simp only [lookupEntry, lookup, List.find?_map, Option.map_map]
  rfl

theorem findEntry_map (rows : List Row) :
    findEntry (rows.map fun r => (r.name, r.number, r.type)) = findName rows := by
  funext n
  simp only [findEntry, findName, List.find?_map, Option.map_map]
  rfl

end NodeTable

namespace StandardNodes

open NodeTable

/-! ## The standard nodes -/

/-- The text from which the table of the standard nodes is read. -/
def listing : Text :=
  Text.unlines (List.map String.toList
    [ "# name,numeric_id,type",
      "Boolean,1,DataType",
      "SByte,2,DataType",
      "Byte,3,DataType",
      "Int16,4,DataType",
      "UInt16,5,DataType",
      "Int32,6,DataType",
      "UInt32,7,DataType",
      "Int64,8,DataType",
      "UInt64,9,DataType",
      "Double,11,DataType",
      "String,12,DataType",
      "DateTime,13,DataType",
      "ByteString,15,DataType",
      "NodeId,17,DataType",
      "ExpandedNodeId,18,DataType",
      "QualifiedName,20,DataType",
      "LocalizedText,21,DataType",
      "BaseDataType,24,DataType",
      "",
      "References,31,ReferenceType",
      "NonHierarchicalReferences,32,ReferenceType",
      "HierarchicalReferences,33,ReferenceType",
      "HasChild,34,ReferenceType",
      "Organizes,35,ReferenceType",
      "HasModellingRule,37,ReferenceType",
      "HasTypeDefinition,40,ReferenceType",
      "Aggregates,44,ReferenceType",
      "HasSubtype,45,ReferenceType",
      "HasProperty,46,ReferenceType",
      "HasComponent,47,ReferenceType",
      "",
      "BaseObjectType,58,ObjectType",
      "FolderType,61,ObjectType",
      "BaseVariableType,62,VariableType",
      "PropertyType,68,VariableType",
      "ModellingRule_Mandatory,78,Object",
      "RootFolder,84,Object",
      "ObjectsFolder,85,Object",
      "TypesFolder,86,Object",
      "ModellingRules,87,Object",
      "",
      "AggregateFunction_Average,2342,Object",
      "AggregateFunction_Total,2344,Object",
      "AggregateFunction_Minimum,2346,Object",
      "AggregateFunction_Maximum,2347,Object",
      "AggregateFunction_Count,2352,Object",
      "AggregateFunction_Start,2357,Object",
      "AggregateFunction_End,2358,Object" ])

theorem eq_ok_of_toOption {ε α : Type} {x : Except ε α} {a : α} (h : x.toOption = some a) :
    x = .ok a := by
  cases x with
  | ok b => exact congrArg Except.ok (Option.some.inj h)
  | error e => nomatch h

theorem parse_listing : parse listing = .ok table := by
  apply eq_ok_of_toOption
  -- The characters are spelt out once, before they are read.
  simp only [listing, List.map_cons, List.map_nil, String.reduceToList]
  decide +kernel

theorem lookup_eq_some_iff_findName {name : Text} {id : NodeId} :
    lookup name = some id ↔ ∃ n, id = NodeId.standard n ∧ findName n = some name :=
  NodeTable.lookup_eq_some_iff_findName (accepted_of_parse parse_listing).distinct nodup_numbers

end StandardNodes

namespace NodeTable

/-! ## The main statement -/

/-- What a search among rows finds. -/
structure Searched (rows : List Row) : Prop where
  /-- A name is found if exactly one row has it. -/
  lookup_isSome : ∀ name, (lookup rows name).isSome = true ↔ rows.countP (·.name = name) = 1
  /-- What is found for a name is the number of its row, in the standard namespace. -/
  lookup_row : ∀ r ∈ rows, lookup rows r.name = some (NodeId.standard r.number)
  /-- What is found for a number is the name in the first row with that number. -/
  findName_first : ∀ n name, findName rows n = some name ↔
    ∃ before r after, rows = before ++ r :: after ∧ r.number = n ∧ r.name = name ∧
      ∀ x ∈ before, x.number ≠ n
  /-- Nothing is found for a number that no row has. -/
  findName_none : ∀ n, findName rows n = none ↔ ∀ r ∈ rows, r.number ≠ n
  /-- The name that is found for a number leads back to it. -/
  lookup_findName : ∀ n name, findName rows n = some name →
    lookup rows name = some (NodeId.standard n)
  /-- Every name leads to a number that leads back to it, exactly if no two rows share a number. -/
  findName_numberOf : (∀ r ∈ rows, (numberOf rows r.name).bind (findName rows) = some r.name) ↔
    (rows.map Row.number).Nodup

theorem searched_of_parse {text : Text} {rows : List Row} (h : parse text = .ok rows) :
    Searched rows := by
  have hnames := (accepted_of_parse h).distinct
  exact
    { lookup_isSome := fun name => by
        rw [lookup, Option.isSome_map, isSome_find?_iff_of_nodup hnames]
      lookup_row := fun _ hr => lookup_name hnames hr
      findName_first := fun _ _ => findName_eq_some_iff
      findName_none := fun _ => findName_eq_none_iff
      lookup_findName := fun _ _ hfind => lookup_of_findName hnames hfind
      findName_numberOf := forall_findName_numberOf_iff hnames }

/-- For every table that is read, searching the list of all rows in its source text is searching
its rows.  A name is found in the one row that has it, a number in the first row that has it, and
nothing is found elsewhere; a number leads to a name that leads back, and every name leads to a
number that leads back exactly if no two rows share a number.  The standard nodes are read from
their listing, and there names and numbers lead to each other, for all texts and all numbers. -/
theorem names_and_numbers_are_found :
    (∀ text rows, parse text = .ok rows →
      (∀ space, '\n' ∉ space → ∃ x entries, readSource (source rows space) = some x ∧
        x.table? = some entries ∧ lookupEntry entries = lookup rows ∧
        findEntry entries = findName rows) ∧
      Searched rows) ∧
    parse StandardNodes.listing = .ok StandardNodes.table ∧
    (∀ name id, StandardNodes.lookup name = some id ↔
      ∃ n, id = NodeId.standard n ∧ StandardNodes.findName n = some name) ∧
    ∀ n name, StandardNodes.findName n = some name ↔
      StandardNodes.lookup name = some (NodeId.standard n) := by
  refine ⟨fun text rows h => ⟨fun space hspace => ?_, searched_of_parse h⟩,
    StandardNodes.parse_listing, fun _ _ => StandardNodes.lookup_eq_some_iff_findName,
    fun n name => ?_⟩
  · have haccepted := accepted_of_parse h
    exact ⟨reading rows space, _, readSource_source haccepted hspace, table?_reading haccepted,
      lookupEntry_map rows, findEntry_map rows⟩
  · rw [StandardNodes.lookup_eq_some_iff_findName]
    constructor
    · intro hfind
      exact ⟨n, rfl, hfind⟩
    · rintro ⟨m, hid, hfind⟩
      cases hid
      exact hfind

/-- Of two rows with one number, the second is shown under the name of the first. -/
theorem names_and_numbers_are_found_shared :
    ∃ rows, parse "a,7,x\nb,7,y".toList = .ok rows ∧
      lookup rows ['b'] = some (NodeId.standard 7) ∧ findName rows 7 = some ['a'] ∧
      ¬ ∀ r ∈ rows, (numberOf rows r.name).bind (findName rows) = some r.name := by
  have hparse : parse "a,7,x\nb,7,y".toList = .ok [⟨['a'], 7, ['x']⟩, ⟨['b'], 7, ['y']⟩] := rfl
  obtain ⟨-, hsearched⟩ := names_and_numbers_are_found.1 _ _ hparse
  refine ⟨_, hparse, hsearched.lookup_row ⟨['b'], 7, ['y']⟩ (by simp), ?_, ?_⟩
  · exact (hsearched.findName_first 7 ['a']).2 ⟨[], ⟨['a'], 7, ['x']⟩, [_], rfl, rfl, rfl, by simp⟩
  · rw [hsearched.findName_numberOf]
    decide

end NodeTable

end DeviceTwin
