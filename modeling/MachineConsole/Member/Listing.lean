import MachineConsole.Member.Registry

/-!
Contract: the lines that describe the members of an object.

Owns: `memberListing`, all members of an object, and `memberHelp`, the overloads of one member.
-/

namespace MachineConsole.Listing

/-- Which accessors a member has. -/
def access : Bool → Bool → String
  | true, true => "available for 'get' and 'set'"
  | true, false => "available for 'get'"
  | false, true => "available for 'set'"
  | false, false => "not available"

/-- A section of a listing, which is left out when it has no items. -/
def headed (items heading usage : List String) : List String :=
  if items.isEmpty then [] else heading ++ items ++ usage ++ [""]

/-- How a member that holds a value is used; `place` is its name with any index. -/
def valueUsage (target place : String) : List String :=
  ["Usage:", " - get: " ++ target ++ " " ++ place, " - set: " ++ target ++ " " ++ place ++ " Value"]

def methodLine (labels : Labels) (method : Method) : String :=
  " - " ++ method.text labels

def methodLines (labels : Labels) (target : String) (methods : List Method) : List String :=
  let inOrder := methods.mergeSort fun method other => decide (method.name ≤ other.name)
  headed (inOrder.map (methodLine labels)) ["The following methods are available:"]
    ["", "Usage:", " " ++ target ++ " MethodName param1 param2 ..."]

def propertyLines (target : String) (properties : List Property) : List String :=
  headed
    (properties.flatMap fun property =>
      [" - " ++ property.type.name ++ " " ++ property.name,
        "     " ++ access property.get?.isSome property.set?.isSome])
    ["The following properties are available:"]
    (valueUsage target "PropertyName")

def indexerLines (labels : Labels) (target : String) (indexers : List Indexer) : List String :=
  headed
    (indexers.flatMap fun indexer =>
      [" - " ++ indexer.type.name ++ " " ++ indexer.name ++ "[" ++
          parameterTexts labels indexer.parameters ++ "]",
        "     " ++ access indexer.get?.isSome indexer.set?.isSome])
    ["The following indexers are available:"]
    (valueUsage target "IndexerName [index]")

def fieldLines (target : String) (fields : List Field) : List String :=
  headed
    (fields.map fun field =>
      " - " ++ field.type.name ++ " " ++ field.name ++
        (if field.isReadOnly then " (read only)" else ""))
    ["The following fields are available:"]
    (valueUsage target "FieldName")

/-- All members of an object and how they are used. -/
def memberListing (labels : Labels) (target : String) (table? : Option MemberTable)
    (extensions : List Method) : List String :=
  match table? with
  | none => [target ++ " does not expose any members."]
  | some table =>
    [target ++ " is of type " ++ table.name, ""] ++
      methodLines labels target (table.methods ++ extensions) ++
      propertyLines target table.properties ++
      indexerLines labels target table.indexers ++
      fieldLines target table.fields

/-- The overloads of a method, or the form of an indexer. -/
def memberHelp (labels : Labels) (target member : String) (table? : Option MemberTable)
    (extensions : List Method) : List String :=
  let declared := (table?.map MemberTable.methods).getD []
  let methods := (declared ++ extensions).filter fun method => method.name == member
  if methods.isEmpty then
    match (table?.map fun table => table.indexersNamed member).getD [] with
    | [] => []
    | indexer :: _ =>
      ["Indexer " ++ member ++ " takes " ++ toString indexer.parameters.length ++
          " index value(s).",
        "Usage: " ++ target ++ " " ++ member ++ " [index] [value]"]
  else
    ["The following overloads of " ++ member ++ " are available:"] ++
      methods.map (methodLine labels) ++
      ["", "Usage:", " " ++ target ++ " " ++ member ++ " param1 param2 ..."]

end MachineConsole.Listing
