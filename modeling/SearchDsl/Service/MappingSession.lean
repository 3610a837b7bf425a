import SearchDsl.Service.MappingOps
/-!
A session of steps on one field mapping, and the building of a mapping document from fields
given one by one. Each step answers with its result or its error, and with the mapping after
it; a step that fails changes nothing.
-/

namespace SearchDsl.Service

/-- Why a mapping step failed. -/
inductive MappingFault where
  | malformed (why : String)
  | failed (e : Error)
  | invalid (m : MappingErrors)
  deriving Repr, Inhabited

abbrev MappingStep := Except MappingFault

def MappingFault.toJson : MappingFault → Json
  | .malformed _ => badRequest
  | .failed e => errorJson e
  | .invalid m => mappingErrorsJson m

def liftError {α : Type} (r : Except Error α) : MappingStep α := r.mapError .failed

def liftErrors {α : Type} (r : Except MappingErrors α) : MappingStep α := r.mapError .invalid

def stepText (ms : Json.Members) (key : String) : MappingStep String :=
  match Json.Members.get? ms key with
  | some (.str s) => .ok s
  | _ => .error (.malformed ("expected a string at " ++ key))

def stepParam (ms : Json.Members) : MappingStep MappingParam := do
  let key ← stepText ms "param"
  match MappingParam.ofKey? key with
  | some p => pure p
  | none => throw (.malformed ("unknown mapping param " ++ key))

def stepMember (ms : Json.Members) (key : String) : Json := (Json.Members.get? ms key).getD .null

/-- One step: the mapping after it and its result. -/
def mappingStepBy (m : Mapping) (what : String) (ms : Json.Members) : MappingStep (Mapping × Json) :=
  match what with
  | "set" => do
    let p ← stepParam ms
    let m' ← liftErrors (m.set p (stepMember ms "value"))
    pure (m', .null)
  | "clear" => do
    let p ← stepParam ms
    pure (m.reset p, .null)
  | "get" => do
    let p ← stepParam ms
    pure (m, optJson id (m.param? p))
  | "is_set" => do
    let p ← stepParam ms
    pure (m, .bool (m.isSet p))
  | "add_property" => do
    let name ← stepText ms "name"
    let child ← liftErrors (Mapping.decode (stepMember ms "mapping"))
    pure (← liftError (m.addProperty name child), .null)
  | "add_field" => do
    let name ← stepText ms "name"
    let child ← liftErrors (Mapping.decode (stepMember ms "mapping"))
    pure (← liftError (m.addField name child), .null)
  | "add_property_new" => do
    let name ← stepText ms "name"
    let t ← liftError (FieldType.parse (← stepText ms "type"))
    pure (← liftError (m.addProperty name (Mapping.new t)), .null)
  | "add_field_new" => do
    let name ← stepText ms "name"
    let t ← liftError (FieldType.parse (← stepText ms "type"))
    pure (← liftError (m.addField name (Mapping.new t)), .null)
  | "set_children" => do
    let p ← stepParam ms
    let children ← liftErrors (Fields.decode (stepMember ms "fields"))
    pure (← liftError (m.setChildren p children), .null)
  | "remove_property" => do
    let name ← stepText ms "name"
    let (rest, removed) := m.properties.remove name
    pure (m.mapProperties fun _ => rest, optJson Mapping.toJson removed)
  | "lookup" => do
    let path ← stepText ms "path"
    pure (m, optJson Mapping.toJson (m.properties.lookup path))
  | "validate" =>
    let errs := m.validate
    if errs.isEmpty then pure (m, .null) else throw (.invalid errs)
  | "child_set" => do
    let name ← stepText ms "name"
    let p ← stepParam ms
    match m.properties.get? name with
    | none => pure (m, absent)
    | some child =>
      let child' ← liftErrors (child.set p (stepMember ms "value"))
      pure (m.mapProperties (·.insert name child'), .null)
  | "getters" => pure (m, mappingGetters m)
  | "properties_view" => pure (m, fieldsView m.properties)
  | "fields_view" => pure (m, fieldsView m.fields)
  | other => throw (.malformed ("unknown step " ++ other))

/-- Run one step; a failed step leaves the mapping as it was. -/
def runMappingStep (m : Mapping) (step : Json) : Mapping × Json :=
  let outcome : MappingStep (Mapping × Json) := match step with
    | .obj ms =>
      match Json.Members.get? ms "do" with
      | some (.str what) => mappingStepBy m what ms
      | _ => .error (.malformed "a step names what it does")
    | _ => .error (.malformed "a step is an object")
  let withState (m : Mapping) (j : Json) : Json :=
    match j with
    | .obj fs => Json.mkObj (fs ++ [("mapping", m.toJson)])
    | j => j
  match outcome with
  | .ok (m', r) => (m', Json.mkObj [("result", r), ("mapping", m'.toJson)])
  | .error f => (m, withState m f.toJson)

def runMappingSteps (m : Mapping) : List Json → List Json
  | [] => []
  | step :: rest =>
    let (m', entry) := runMappingStep m step
    entry :: runMappingSteps m' rest

/-- The mapping a session starts from. -/
def initialMapping (init : Json) : MappingStep Mapping :=
  match init with
  | .obj ms =>
    match Json.Members.get? ms "ctor" with
    | some (.str "text") => .ok (Mapping.new .text)
    | some (.str "keyword") => .ok (Mapping.new .keyword)
    | some _ => .error (.malformed "unknown constructor")
    | none => do
      let tag ← stepText ms "type"
      match Json.Members.get? ms "dims", Json.Members.get? ms "properties" with
      | some (.int dims), _ =>
        if tag = "dense_vector" then liftError (Mapping.denseVector dims)
        else liftError ((FieldType.parse tag).map Mapping.new)
      | some _, _ =>
        if tag = "dense_vector" then .error (.malformed "expected an integer at dims")
        else liftError ((FieldType.parse tag).map Mapping.new)
      | none, some raw => do
        let children ← liftErrors (Fields.decode raw)
        pure (if tag = "nested" then Mapping.nested children else Mapping.object children)
      | none, none => liftError ((FieldType.parse tag).map Mapping.new)
  | _ => .error (.malformed "expected an object at init")

def mappingOpsOp (req : Json) : Reply := do
  let .arr steps := reqGet req "ops" | .error "expected an array at ops"
  match initialMapping (reqGet req "init") with
  | .ok m => .ok (Json.mkObj [("steps", .arr (runMappingSteps m steps))])
  | .error (.malformed why) => .error why
  | .error f => .ok f.toJson

/-- A field of a document being built: a mapping of a type, or one read from JSON. -/
def builtField (item : Json) : MappingStep (String × Mapping) :=
  match item with
  | .obj ms => do
    let name ← stepText ms "name"
    match Json.Members.get? ms "json" with
    | some j => pure (name, ← liftErrors (Mapping.decode j))
    | none => pure (name, Mapping.new (← liftError (FieldType.parse (← stepText ms "type"))))
  | _ => .error (.malformed "expected a field object")

/-- `mappings_build`: a document of the given fields, one of them edited, with its `dynamic`. -/
def mappingsBuildOp (req : Json) : Reply :=
  let build : MappingStep (Fields × Mappings) := do
    let .arr items := reqGet req "fields" | throw (.malformed "expected an array at fields")
    let named ← items.mapM builtField
    let fields := Fields.ofList named
    let fields ← match reqGet req "edit" with
      | .null => pure fields
      | .obj es => do
        let name ← stepText es "name"
        let p ← stepParam es
        match fields.get? name with
        | none => pure fields
        | some child => pure (fields.insert name (← liftErrors (child.set p (stepMember es "value"))))
      | _ => throw (.malformed "expected an object at edit")
    let dynamic ← match reqGet req "dynamic" with
      | .null => pure none
      | .str tag => some <$> liftError (Tagged.parse tag)
      | _ => throw (.malformed "expected a string at dynamic")
    pure (fields, { dynamic, properties := fields })
  match build with
  | .ok (fields, d) =>
    .ok (Json.mkObj [("ok", d.toJson), ("serialize", d.toJson), ("fields", fieldsView fields),
      ("same_len", .bool true), ("validate", validationJson d.validate)])
  | .error (.malformed why) => .error why
  | .error f => .ok f.toJson

end SearchDsl.Service
