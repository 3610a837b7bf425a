import SearchDsl.Mapping.Basic
/-!
Building a mapping from a record of parameter values, and the mapping document of an index:
its top-level fields under `properties` and how it treats fields it does not declare.
-/

namespace SearchDsl

namespace Mapping

/-- Build a mapping of a type from given values, collecting every error: the values in
parameter order, then the `fields` and `properties` children, then the required parameters. -/
def build (t : FieldType) (given : List (MappingParam × Json)) (fields properties : Option Fields) :
    Except MappingErrors Mapping :=
  let step (acc : Mapping × MappingErrors) (p : MappingParam) : Mapping × MappingErrors :=
    match given.lookup p with
    | none => acc
    | some v =>
      match acc.1.set p v with
      | .ok m => (m, acc.2)
      | .error more => (acc.1, acc.2.append more)
  let (m, errs) := MappingParam.all.foldl step (new t, {})
  let child (acc : Mapping × MappingErrors) (p : MappingParam) : Option Fields →
      Mapping × MappingErrors
    | none => acc
    | some fs =>
      match acc.1.setChildren p fs with
      | .ok m => (m, acc.2)
      | .error e => (acc.1, acc.2.push e)
  let (m, errs) := child (child (m, errs) .fields fields) .properties properties
  (errs.append ⟨m.missingRequired⟩).toExcept m

end Mapping

/-- The mapping document of an index. -/
structure Mappings where
  dynamic : Option Dynamic := none
  properties : Fields := .empty
  deriving Repr, Inhabited

namespace Mappings

def toJson (d : Mappings) : Json :=
  Json.mkObj ((d.dynamic.map fun x => ("dynamic", x.toJson)).toList ++
    [("properties", Fields.toJson d.properties)])

def validate (d : Mappings) : MappingErrors := Mapping.validateChildren {} d.properties.entries

def dynamicOf (raw : Json) : Except Error Dynamic :=
  match Loose.ofJson raw with
  | .ok (some l) => Tagged.parse l.text
  | _ => .error (((Error.ofKind .invalidDynamic).withParam "dynamic").withReceived raw.render)

/-- Read a document from JSON, collecting the errors of `dynamic` and of every field. Other keys
are ignored. -/
def decode (v : Json) : Except MappingErrors Mappings :=
  match v with
  | .obj ms =>
    let (dynamic, errs) : Option Dynamic × MappingErrors :=
      match Json.Members.get? ms "dynamic" with
      | none | some .null => (none, {})
      | some raw =>
        match dynamicOf raw with
        | .ok d => (some d, {})
        | .error e => (none, .single e)
    let (properties, errs) : Fields × MappingErrors :=
      match Json.Members.get? ms "properties" with
      | none => (.empty, errs)
      | some raw =>
        match Fields.decode raw with
        | .ok fs => (fs, errs)
        | .error inner => (.empty, errs.append inner)
    errs.toExcept { dynamic, properties }
  | other => .error (.single (((Error.ofKind .invalidParams).withDetail
      "expected a mappings object").withJson other))

end Mappings

end SearchDsl
