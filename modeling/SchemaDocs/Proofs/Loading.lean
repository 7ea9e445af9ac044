import SchemaDocs.Proofs.Failure
import SchemaDocs.Schema.Load

/-!
# What a record is loaded as

Loading looks at the attributes of a record one after the other, and the first
that is wrong ends it. Where none is, each function of the loader gives the
entity that the attributes say. There is one lemma for each function, with one
premise for each attribute, so that a record is loaded without opening any of
them.
-/

namespace SchemaDocs

/-! ## What is read of a record -/

theorem Load.attribute?_singleton (r : Load.Record) (key : String) :
    Load.attribute? r [key] = Value.get? r key := by
  rw [Load.attribute?, List.findSome?_cons, List.findSome?_nil]
  cases Value.get? r key <;> rfl

theorem Load.object_eq_ok_iff {place : Place} {v : Value} {record : Load.Record} :
    Load.object place v = .ok record ↔ v = .object record := by
  cases v <;> simp [Load.object, Load.fail]

theorem Load.requiredText_eq_ok_iff {place : Place} {fault : RecordFault}
    {v : Option Value} {s : String} :
    Load.requiredText place fault v = .ok s ↔ v = some (.text s) ∧ s ≠ "" := by
  rw [Load.requiredText.eq_def]
  split
  · next t =>
      split
      · next ht => simp [Load.fail, ht, eq_comm]
      · next ht => simpa using fun h : t = s => h ▸ ht
  · next hno => simpa [Load.fail] using fun h => absurd h (hno s)

/-- The package of a file, as its record gives it. -/
def Load.package (place : Place) (record : Load.Record) : Load.Result String :=
  match Load.attribute? record ["package"] with
  | none => Load.fail place (.missing "package")
  | some v =>
    if v.isFalsy then .ok ""
    else match v with
      | .text s => .ok s
      | _ => Load.fail place (.notAString "package")

theorem Load.file_eq (i : Nat) (v : Value) : Load.file i v = (do
    let record ← Load.object [.entry i] v
    let path ← Load.requiredText [.entry i] (.missing "path")
      (Load.attribute? record ["path", "name"])
    let place : Place := [.file path]
    let package ← Load.package place record
    let dependencies ← (← Load.list place record "dependencies").mapM fun
      | .text s => .ok s
      | _ => Load.fail place .dependenciesNotPaths
    let messages ← (← Load.list place record "messages").mapM
      (Load.message v.depth path package)
    let enums ← (← Load.list place record "enums").mapM (Load.enumDef path package)
    let services ← (← Load.list place record "services").mapM (Load.service path package)
    return {
      path, package, dependencies, messages, enums, services
      description := ← Load.description place record }) := by
  rw [Load.file]
  refine bind_congr fun record => bind_congr fun path => ?_
  dsimp only
  rw [Load.package]
  cases Load.attribute? record ["package"] with
  | none => rfl
  | some v =>
      dsimp only
      split
      · rfl
      · cases v <;> rfl

/-- The route base of a schema. -/
def Load.base : Value → Load.Result String
  | .null => .ok ""
  | .text s => .ok s
  | v => .error (.routeBaseNotText v.kind)

/-- An object that lists the records of files. What else it holds plays no
role. -/
def Value.Describes (raw : Value) (records : List Value) : Prop :=
  ∃ entries, raw = .object entries ∧ Value.get? entries "files" = some (.list records)

theorem Value.Describes.unique {raw : Value} {records records' : List Value}
    (h : raw.Describes records) (h' : raw.Describes records') : records = records' := by
  obtain ⟨entries, rfl, hentries⟩ := h
  obtain ⟨entries', hraw, hentries'⟩ := h'
  cases hraw
  cases hentries.symm.trans hentries'
  rfl

theorem Schema.load_eq {raw routeBase : Value} {records : List Value}
    (hraw : raw.Describes records) : Schema.load raw routeBase = (do
      let base ← Load.base routeBase
      let files ← Load.files 0 records
      return { files, routeBase := base }) := by
  obtain ⟨entries, rfl, hentries⟩ := hraw
  simp only [Schema.load, hentries]
  cases routeBase <;> rfl

theorem Schema.load_of_not_object {raw routeBase : Value} (h : ∀ r, raw ≠ .object r) :
    Schema.load raw routeBase = .error (.notADescriptorSet raw.kind) := by
  cases raw with
  | object r => exact absurd rfl (h r)
  | _ => rfl

theorem Schema.load_of_no_files {r : Load.Record} {routeBase : Value}
    (h : ∀ records, Value.get? r "files" ≠ some (.list records)) :
    Schema.load (.object r) routeBase = .error .noFileList := by
  simp only [Schema.load]

/-! ## Full names -/

theorem qualify_of_ne {scope : String} (h : scope ≠ "") (name : String) :
    qualify scope name = scope ++ "." ++ name := if_neg h

theorem qualify_ne_empty {name : String} (scope : String) (h : name ≠ "") :
    qualify scope name ≠ "" := by
  rw [qualify]
  split
  · exact h
  · simp [h]

/-! ## Text that is loaded as it is -/

/-- A type name that loading takes as it stands. -/
structure Load.PlainType (type : String) : Prop where
  nonempty : type ≠ ""
  trimmed : Text.trim type = type
  noNotation : MapNotation.parse? type = none
  notMap : type ≠ "map"

namespace Load

variable {place : Place} {record : Record}

theorem requiredText_eq_ok {fault : RecordFault} {s : String} (h : s ≠ "") :
    requiredText place fault (some (.text s)) = .ok s := by
  rw [requiredText, if_neg h]

theorem mapType_of_plain {type : String} (h : PlainType type) :
    mapType place record type = .ok none := by
  rw [mapType, h.noNotation]
  simp only [if_pos h.notMap]
  rfl

theorem mapType_map {key value : String}
    (hkey : attribute? record ["key_type", "keyType"] = some (.text key))
    (hvalue : attribute? record ["value_type", "valueType"] = some (.text value))
    (hk : PlainType key) (hv : PlainType value) :
    mapType place record "map" = .ok (some { keyType := key, valueType := value }) := by
  have hnotation : MapNotation.parse? "map" = none := by decide
  rw [mapType, hnotation, hkey, hvalue, requiredText_eq_ok hk.nonempty,
    requiredText_eq_ok hv.nonempty]
  simp only [bind, Except.bind, hk.trimmed, hv.trimmed]
  rfl

theorem label_eq_ok {l : Label} (h : attribute? record ["label"] = some (.text l.text)) :
    label place record = .ok l := by
  rw [label, h]
  cases l <;> rfl

theorem number_eq_ok {n : Int} (h : attribute? record ["number"] = some (.int n)) :
    number place record = .ok (some n) := by
  rw [number, h]

theorem description_eq_ok {s : String}
    (h : attribute? record ["description"] = some (.text s)) :
    description place record = .ok s := by
  rw [description, h]

theorem name_eq_ok {s : String} (h : attribute? record ["name"] = some (.text s))
    (hs : s ≠ "") : name place record = .ok s := by
  rw [name, h, requiredText_eq_ok hs]

theorem list_eq_ok {key : String} {items : List Value}
    (h : attribute? record [key] = some (.list items)) :
    list place record key = .ok items := by
  rw [list, h]

/-- What a field is loaded as, from its attributes. -/
theorem field_eq_ok {fieldName type text : String} {l : Label} {n : Int}
    {map : Option MapType}
    (hname : attribute? record ["name"] = some (.text fieldName))
    (hnamed : fieldName ≠ "")
    (htype : attribute? record ["type", "type_name", "typeName"] = some (.text type))
    (htyped : type ≠ "") (htrimmed : Text.trim type = type)
    (hlabel : attribute? record ["label"] = some (.text l.text))
    (hmap : ∀ place, mapType place record type = .ok map)
    (hnumber : attribute? record ["number"] = some (.int n))
    (hdescription : attribute? record ["description"] = some (.text text)) :
    field place (.object record) = .ok {
      name := fieldName, typeName := type, number := some n
      label := if map.isSome then .repeated else l
      map, oneof := oneof record, defaultValue := defaultValue record
      description := text } := by
  rw [field, object]
  simp only [bind, Except.bind, name_eq_ok hname hnamed, htype, requiredText_eq_ok htyped,
    htrimmed, label_eq_ok hlabel, hmap, number_eq_ok hnumber,
    description_eq_ok hdescription]
  rfl

theorem flag_eq_ok {key : String} {spellings : List String} {b : Bool}
    (h : attribute? record spellings = some (.bool b)) :
    flag place record key spellings = .ok b := by
  rw [flag, h]

theorem enumValue_eq_ok {valueName text : String} {n : Int}
    (hname : attribute? record ["name"] = some (.text valueName))
    (hnamed : valueName ≠ "")
    (hnumber : attribute? record ["number"] = some (.int n))
    (hdescription : attribute? record ["description"] = some (.text text)) :
    enumValue place (.object record) =
      .ok { name := valueName, number := n, description := text } := by
  rw [enumValue, object]
  simp only [bind, Except.bind, name_eq_ok hname hnamed, number_eq_ok hnumber,
    description_eq_ok hdescription]
  rfl

theorem enumDef_eq_ok {path scope enumName text : String} {items : List Value}
    {values : List EnumValue}
    (hname : attribute? record ["name"] = some (.text enumName)) (hnamed : enumName ≠ "")
    (hlist : attribute? record ["values"] = some (.list items))
    (hvalues : ∀ place, items.mapM (enumValue place) = .ok values)
    (hdescription : attribute? record ["description"] = some (.text text)) :
    enumDef path scope (.object record) = .ok {
      name := enumName, fullName := qualify scope enumName, values, description := text
      filePath := path } := by
  rw [enumDef, object]
  simp only [bind, Except.bind, name_eq_ok hname hnamed, list_eq_ok hlist, hvalues,
    description_eq_ok hdescription]
  rfl

theorem method_eq_ok {methodName request response text : String} {client server : Bool}
    (hname : attribute? record ["name"] = some (.text methodName))
    (hnamed : methodName ≠ "")
    (hrequest : attribute? record ["request_type", "requestType",
      "input_type", "inputType"] =
      some (.text request))
    (hresponse : attribute? record
      ["response_type", "responseType", "output_type", "outputType"] =
        some (.text response))
    (hclient : attribute? record
      ["client_streaming", "clientStreaming", "requestStreaming"] =
        some (.bool client))
    (hserver : attribute? record
      ["server_streaming", "serverStreaming", "responseStreaming"] =
        some (.bool server))
    (hdescription : attribute? record ["description"] = some (.text text))
    (hin : PlainType request) (hout : PlainType response) :
    method place (.object record) = .ok {
      name := methodName, requestType := request, responseType := response
      clientStreaming := client, serverStreaming := server, description := text } := by
  rw [method, object]
  simp only [bind, Except.bind, name_eq_ok hname hnamed, hrequest, hresponse,
    requiredText_eq_ok hin.nonempty, requiredText_eq_ok hout.nonempty, flag_eq_ok hclient,
    flag_eq_ok hserver, description_eq_ok hdescription, hin.trimmed, hout.trimmed]
  rfl

theorem service_eq_ok {path scope serviceName text : String} {items : List Value}
    {methods : List Method}
    (hname : attribute? record ["name"] = some (.text serviceName))
    (hnamed : serviceName ≠ "")
    (hlist : attribute? record ["methods"] = some (.list items))
    (hmethods : ∀ place, items.mapM (method place) = .ok methods)
    (hdescription : attribute? record ["description"] = some (.text text)) :
    service path scope (.object record) = .ok {
      name := serviceName, fullName := qualify scope serviceName, methods
      description := text, filePath := path } := by
  rw [service, object]
  simp only [bind, Except.bind, name_eq_ok hname hnamed, list_eq_ok hlist, hmethods,
    description_eq_ok hdescription]
  rfl

theorem message_eq_ok {fuel : Nat} {path scope messageName text : String}
    {fieldItems messageItems enumItems : List Value} {fields : List Field}
    {messages : List Message} {enums : List EnumDef}
    (hname : attribute? record ["name"] = some (.text messageName))
    (hnamed : messageName ≠ "")
    (hfieldList : attribute? record ["fields"] = some (.list fieldItems))
    (hfields : ∀ place, fieldItems.mapM (field place) = .ok fields)
    (hmessageList : attribute? record ["messages"] = some (.list messageItems))
    (hmessages : messageItems.mapM (message fuel path (qualify scope messageName)) =
      .ok messages)
    (henumList : attribute? record ["enums"] = some (.list enumItems))
    (henums : enumItems.mapM (enumDef path (qualify scope messageName)) = .ok enums)
    (hdescription : attribute? record ["description"] = some (.text text)) :
    message (fuel + 1) path scope (.object record) = .ok {
      name := messageName, fullName := qualify scope messageName, fields, messages, enums
      description := text, filePath := path } := by
  rw [message, object]
  simp only [bind, Except.bind, name_eq_ok hname hnamed, list_eq_ok hfieldList, hfields,
    list_eq_ok hmessageList, hmessages, list_eq_ok henumList, henums,
    description_eq_ok hdescription]
  rfl

theorem file_eq_ok {index : Nat} {path package : String} {dependencies : List String}
    {dependencyItems messageItems enumItems serviceItems : List Value}
    {messages : List Message} {enums : List EnumDef} {services : List Service}
    (hpath : attribute? record ["path", "name"] = some (.text path)) (hnamed : path ≠ "")
    (hpackage : attribute? record ["package"] = some (.text package))
    (hdependencyList : attribute? record ["dependencies"] = some (.list dependencyItems))
    (hdependencies : dependencyItems = dependencies.map .text)
    (hmessageList : attribute? record ["messages"] = some (.list messageItems))
    (hmessages : messageItems.mapM (message (Value.object record).depth path package) =
      .ok messages)
    (henumList : attribute? record ["enums"] = some (.list enumItems))
    (henums : enumItems.mapM (enumDef path package) = .ok enums)
    (hserviceList : attribute? record ["services"] = some (.list serviceItems))
    (hservices : serviceItems.mapM (service path package) = .ok services)
    (hdescription : attribute? record ["description"] = none) :
    file index (.object record) =
      .ok { path, package, dependencies, messages, enums, services } := by
  have hfalsy :
      (Value.text package).isFalsy = true → package = "" := by simp [Value.isFalsy]
  have htexts (f : Value → Result String) (hf : ∀ s, f (.text s) = .ok s) :
      dependencyItems.mapM f = .ok dependencies := by
    rw [hdependencies, List.mapM_map]
    have hall : ∀ s ∈ dependencies, (f ∘ Value.text) s = .ok (id s) := fun s _ => hf s
    rw [mapM_eq_map hall, List.map_id]
  have hnone :
      description [.file path] record = .ok "" := by rw [description, hdescription]
  rw [file, object]
  simp only [bind, Except.bind, hpath, requiredText_eq_ok hnamed, hpackage]
  split
  case' isTrue hempty => obtain rfl := hfalsy hempty
  all_goals
    simp only [list_eq_ok hdependencyList, htexts, list_eq_ok hmessageList, hmessages,
      list_eq_ok henumList, henums, list_eq_ok hserviceList,
      hservices, hnone, implies_true]
    rfl

end Load

end SchemaDocs
