import SchemaDocs.Value

/-!
# What can be wrong with a record

A fault has a place and a cause. The place names the file, then each declaration
on the way down to the faulty record; a file without a usable path is named by
its number. Attributes are named by the first of their spellings.
-/

namespace SchemaDocs

/-- One step of the way to a record. The forms without a name stand for records
whose name is not known. -/
inductive PlaceStep
  | entry (index : Nat)
  | file (path : String)
  | messageIn (scope : String)
  | message (fullName : String)
  | enumIn (scope : String)
  | enum (fullName : String)
  | anyService
  | service (fullName : String)
  | anyField
  | field (name : String)
  | anyValue
  | value (name : String)
  | anyMethod
  | method (name : String)
deriving DecidableEq, Repr

def PlaceStep.text : PlaceStep → String
  | .entry index => "files[" ++ toString index ++ "]"
  | .file path => path
  | .messageIn scope => "message in '" ++ scope ++ "'"
  | .message name => "message '" ++ name ++ "'"
  | .enumIn scope => "enum in '" ++ scope ++ "'"
  | .enum name => "enum '" ++ name ++ "'"
  | .anyService => "service"
  | .service name => "service '" ++ name ++ "'"
  | .anyField => "field"
  | .field name => "field '" ++ name ++ "'"
  | .anyValue => "value"
  | .value name => "value '" ++ name ++ "'"
  | .anyMethod => "method"
  | .method name => "method '" ++ name ++ "'"

/-- The steps from the file down. -/
abbrev Place := List PlaceStep

inductive RecordFault
  | notAnObject (kind : String)
  | missing (key : String)
  | notAList (key kind : String)
  | notAString (key : String)
  | dependenciesNotPaths
  | boolForInteger (key : String)
  | notAnInteger (key : String) (given : Value)
  | notABoolean (key : String)
  | unknownLabel (given : Value)
  | mapMissing (key : String)
  | valueWithoutNumber (name : String)

def RecordFault.text : RecordFault → String
  | .notAnObject kind => "expected an object, got " ++ kind
  | .missing key => "missing required attribute '" ++ key ++ "'"
  | .notAList key kind => "'" ++ key ++ "' must be a list, got " ++ kind
  | .notAString key => "'" ++ key ++ "' must be a string"
  | .dependenciesNotPaths => "'dependencies' must be a list of file paths"
  | .boolForInteger key => "'" ++ key ++ "' must be an integer"
  | .notAnInteger key given => "'" ++ key ++ "' must be an integer, got " ++ given.literal
  | .notABoolean key => "'" ++ key ++ "' must be a boolean"
  | .unknownLabel given =>
    "unknown label " ++ given.literal ++
      ", expected one of ['optional', 'required', 'repeated']"
  | .mapMissing key => "map field is missing '" ++ key ++ "'"
  | .valueWithoutNumber name => "value '" ++ name ++ "' is missing 'number'"

inductive LoadError
  | notADescriptorSet (kind : String)
  | noFileList
  | routeBaseNotText (kind : String)
  | at (place : Place) (fault : RecordFault)

def LoadError.message : LoadError → String
  | .notADescriptorSet kind =>
    "Descriptor input must be an object with a 'files' list, got " ++ kind
  | .noFileList => "Descriptor input is missing the 'files' list"
  | .routeBaseNotText kind => "Route base must be a string, got " ++ kind
  | .at place fault => place.foldr (fun step rest => step.text ++ ": " ++ rest) fault.text

end SchemaDocs
