import SchemaDocs.Number.Numeral
import SchemaDocs.Schema.Basic
import SchemaDocs.Schema.LoadError
import SchemaDocs.Schema.MapNotation

/-!
# From records to a schema

Loading checks each record and types it. An attribute may have several
spellings, of which the first that is present counts, whatever its value; lists
and descriptions may be null or left out. Nothing is resolved and nothing is
reordered. The first fault ends the loading: within a record attributes are
checked in a fixed order, and lists from front to back.
-/

namespace SchemaDocs.Load

abbrev Record := List (String × Value)

abbrev Result := Except LoadError

def fail (place : Place) (fault : RecordFault) : Result α := .error (.at place fault)

/-- The value of the first spelling that is present. -/
def attribute? (record : Record) (spellings : List String) : Option Value :=
  spellings.findSome? (Value.get? record)

def object (place : Place) : Value → Result Record
  | .object entries => .ok entries
  | v => fail place (.notAnObject v.kind)

/-- A string with something in it. -/
def requiredText (place : Place) (fault : RecordFault) : Option Value → Result String
  | some (.text s) => if s = "" then fail place fault else .ok s
  | _ => fail place fault

def name (place : Place) (record : Record) : Result String :=
  requiredText place (.missing "name") (attribute? record ["name"])

def list (place : Place) (record : Record) (key : String) : Result (List Value) :=
  match attribute? record [key] with
  | none => .ok []
  | some .null => .ok []
  | some (.list items) => .ok items
  | some v => fail place (.notAList key v.kind)

def description (place : Place) (record : Record) : Result String :=
  match attribute? record ["description"] with
  | none => .ok ""
  | some .null => .ok ""
  | some (.text s) => .ok s
  | some _ => fail place (.notAString "description")

/-- An integer, or a text that spells one. -/
def number (place : Place) (record : Record) : Result (Option Int) :=
  match attribute? record ["number"] with
  | none => .ok none
  | some .null => .ok none
  | some (.bool _) => fail place (.boolForInteger "number")
  | some (.int n) => .ok (some n)
  | some (.text s) =>
    match Numeral.readInt? s with
    | some n => .ok (some n)
    | none => fail place (.notAnInteger "number" (.text s))
  | some v => fail place (.notAnInteger "number" v)

def flag (place : Place) (record : Record) (key : String) (spellings : List String) :
    Result Bool :=
  match attribute? record spellings with
  | none => .ok false
  | some .null => .ok false
  | some (.bool b) => .ok b
  | some _ => fail place (.notABoolean key)

/-- A label; an empty one stands for "optional". -/
def label (place : Place) (record : Record) : Result Label :=
  match attribute? record ["label"] with
  | none => .ok .optional
  | some v =>
    if v.isFalsy then .ok .optional
    else match v with
      | .text s => match Label.ofText? s with
        | some l => .ok l
        | none => fail place (.unknownLabel v)
      | _ => fail place (.unknownLabel v)

/-- A map is written out in the type, or has the type "map" and two attributes. -/
def mapType (place : Place) (record : Record) (typeName : String) :
    Result (Option MapType) := do
  match MapNotation.parse? typeName with
  | some (key, value) => return some { keyType := key, valueType := value }
  | none =>
    if typeName ≠ "map" then return none
    let key ← requiredText place (.mapMissing "key_type")
      (attribute? record ["key_type", "keyType"])
    let value ← requiredText place (.mapMissing "value_type")
      (attribute? record ["value_type", "valueType"])
    return some { keyType := Text.trim key, valueType := Text.trim value }

/-- Null and the empty string are no default. -/
def defaultValue (record : Record) : Option String :=
  match attribute? record ["default_value", "defaultValue"] with
  | none => none
  | some .null => none
  | some (.text s) => if s = "" then none else some s
  | some v => some v.display

def oneof (record : Record) : Option Value :=
  match attribute? record ["oneof", "oneof_name", "oneofdecl"] with
  | none => none
  | some v => if v.isFalsy then none else some v

def field (place : Place) (v : Value) : Result Field := do
  let record ← object (place ++ [.anyField]) v
  let name ← name (place ++ [.anyField]) record
  let place := place ++ [.field name]
  let typeName ← requiredText place (.missing "type")
    (attribute? record ["type", "type_name", "typeName"])
  let typeName := Text.trim typeName
  let label ← label place record
  let map ← mapType place record typeName
  let number ← number place record
  let description ← description place record
  return {
    name, typeName, number, map, description
    label := if map.isSome then .repeated else label
    oneof := oneof record
    defaultValue := defaultValue record }

def enumValue (place : Place) (v : Value) : Result EnumValue := do
  let record ← object (place ++ [.anyValue]) v
  let name ← name (place ++ [.anyValue]) record
  match ← number (place ++ [.value name]) record with
  | none => fail place (.valueWithoutNumber name)
  | some number => return { name, number, description := ← description place record }

def enumDef (path scope : String) (v : Value) : Result EnumDef := do
  let place : Place := [.file path, .enumIn scope]
  let record ← object place v
  let name ← name place record
  let fullName := qualify scope name
  let place : Place := [.file path, .enum fullName]
  let values ← (← list place record "values").mapM (enumValue place)
  return {
    name, fullName, values
    description := ← description place record
    filePath := path }

def method (place : Place) (v : Value) : Result Method := do
  let record ← object (place ++ [.anyMethod]) v
  let name ← name (place ++ [.anyMethod]) record
  let place := place ++ [.method name]
  let requestType ← requiredText place (.missing "request_type")
    (attribute? record ["request_type", "requestType", "input_type", "inputType"])
  let responseType ← requiredText place (.missing "response_type")
    (attribute? record ["response_type", "responseType", "output_type", "outputType"])
  let clientStreaming ← flag place record "client_streaming"
    ["client_streaming", "clientStreaming", "requestStreaming"]
  let serverStreaming ← flag place record "server_streaming"
    ["server_streaming", "serverStreaming", "responseStreaming"]
  return {
    name, clientStreaming, serverStreaming
    requestType := Text.trim requestType
    responseType := Text.trim responseType
    description := ← description place record }

def service (path scope : String) (v : Value) : Result Service := do
  let place : Place := [.file path, .anyService]
  let record ← object place v
  let name ← name place record
  let fullName := qualify scope name
  let place : Place := [.file path, .service fullName]
  let methods ← (← list place record "methods").mapM (method place)
  return {
    name, fullName, methods
    description := ← description place record
    filePath := path }

/-- Messages nest as deep as the value they are read from; `fuel` is a bound on
that depth. -/
def message : (fuel : Nat) → (path scope : String) → Value → Result Message
  | 0, path, scope, v => fail [.file path, .messageIn scope] (.notAnObject v.kind)
  | fuel + 1, path, scope, v => do
    let place : Place := [.file path, .messageIn scope]
    let record ← object place v
    let name ← name place record
    let fullName := qualify scope name
    let place : Place := [.file path, .message fullName]
    let fields ← (← list place record "fields").mapM (field place)
    let messages ← (← list place record "messages").mapM (message fuel path fullName)
    let enums ← (← list place record "enums").mapM (enumDef path fullName)
    return {
      name, fullName, fields, messages, enums
      description := ← description place record
      filePath := path }

/-- The file at an index of the list. A file without a package has an empty one,
but must say so. -/
def file (index : Nat) (v : Value) : Result File := do
  let record ← object [.entry index] v
  let path ← requiredText [.entry index] (.missing "path")
    (attribute? record ["path", "name"])
  let place : Place := [.file path]
  let package ← match attribute? record ["package"] with
    | none => fail place (.missing "package")
    | some v =>
      if v.isFalsy then .ok ""
      else match v with
        | .text s => .ok s
        | _ => fail place (.notAString "package")
  let dependencies ← (← list place record "dependencies").mapM fun
    | .text s => .ok s
    | _ => fail place .dependenciesNotPaths
  let messages ← (← list place record "messages").mapM (message v.depth path package)
  let enums ← (← list place record "enums").mapM (enumDef path package)
  let services ← (← list place record "services").mapM (service path package)
  return {
    path, package, dependencies, messages, enums, services
    description := ← description place record }

/-- The files in order, numbered from `index`. -/
def files (index : Nat) : List Value → Result (List File)
  | [] => .ok []
  | v :: rest => do
    let first ← file index v
    return first :: (← files (index + 1) rest)

end SchemaDocs.Load

namespace SchemaDocs

/-- Reads a set of records. A route base that is null counts as empty. -/
def Schema.load (raw routeBase : Value) : Except LoadError Schema := do
  let .object record := raw | .error (.notADescriptorSet raw.kind)
  let some (.list records) := Value.get? record "files" | .error .noFileList
  let base ← match routeBase with
    | .null => .ok ""
    | .text s => .ok s
    | v => .error (.routeBaseNotText v.kind)
  return { files := ← Load.files 0 records, routeBase := base }

end SchemaDocs
