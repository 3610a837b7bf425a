import SearchDsl.Mapping.Setting
/-!
Field mappings. A mapping is one field type with the parameters that type accepts; two of those
parameters hold named child mappings: `properties`, the fields of an object, and `fields`, other
indexings of the same value. Children are kept sorted by name.

Reading and building a mapping report every problem, not only the first: each parameter that is
refused, each child that is invalid, and each required parameter that is missing. An error of
a child keeps the child's type and names the child's path below the mapping.
-/

namespace SearchDsl

mutual

/-- The mapping of one field. -/
inductive Mapping where
  | mk (type : FieldType) (settings : List (MappingParam × FieldSetting))
      (fields properties : Fields)
  deriving Repr

/-- Named child mappings, sorted by name, with distinct names. -/
inductive Fields where
  | mk (entries : List (String × Mapping))
  deriving Repr

end

instance : Inhabited Mapping := ⟨.mk .text [] (.mk []) (.mk [])⟩

instance : Inhabited Fields := ⟨.mk []⟩

namespace Fields

def entries : Fields → List (String × Mapping)
  | mk es => es

def empty : Fields := mk []

def len (fs : Fields) : Nat := fs.entries.length

def isEmpty (fs : Fields) : Bool := fs.entries.isEmpty

def names (fs : Fields) : List String := fs.entries.map (·.1)

def get? (fs : Fields) (name : String) : Option Mapping := fs.entries.lookup name

def insertEntry (name : String) (m : Mapping) : List (String × Mapping) → List (String × Mapping)
  | [] => [(name, m)]
  | (n, x) :: rest =>
    if name = n then (name, m) :: rest
    else if name < n then (name, m) :: (n, x) :: rest
    else (n, x) :: insertEntry name m rest

def insert (fs : Fields) (name : String) (m : Mapping) : Fields := mk (insertEntry name m fs.entries)

def remove (fs : Fields) (name : String) : Fields × Option Mapping :=
  (mk (fs.entries.filter fun (n, _) => n ≠ name), fs.get? name)

def ofList (xs : List (String × Mapping)) : Fields := xs.foldl (fun fs (n, m) => fs.insert n m) empty

end Fields

namespace Mapping

def type : Mapping → FieldType
  | mk t _ _ _ => t

def settings : Mapping → List (MappingParam × FieldSetting)
  | mk _ ss _ _ => ss

def fields : Mapping → Fields
  | mk _ _ fs _ => fs

def properties : Mapping → Fields
  | mk _ _ _ ps => ps

def new (t : FieldType) : Mapping := mk t [] .empty .empty

def setting? (m : Mapping) (p : MappingParam) : Option FieldSetting := m.settings.lookup p

def paramIndex (p : MappingParam) : Nat := MappingParam.all.idxOf p

def insertSetting (p : MappingParam) (s : FieldSetting) :
    List (MappingParam × FieldSetting) → List (MappingParam × FieldSetting)
  | [] => [(p, s)]
  | (q, x) :: rest =>
    if p = q then (p, s) :: rest
    else if paramIndex p < paramIndex q then (p, s) :: (q, x) :: rest
    else (q, x) :: insertSetting p s rest

def putSetting (m : Mapping) (p : MappingParam) (s : Option FieldSetting) : Mapping :=
  match m, s with
  | mk t ss fs ps, some s => mk t (insertSetting p s ss) fs ps
  | mk t ss fs ps, none => mk t (ss.filter fun (q, _) => q ≠ p) fs ps

def reset (m : Mapping) (p : MappingParam) : Mapping :=
  match m, p with
  | mk t ss _ ps, .fields => mk t ss .empty ps
  | mk t ss fs _, .properties => mk t ss fs .empty
  | m, p => m.putSetting p none

end Mapping

mutual

/-- The JSON of a mapping: its type and the parameters it has set, in its type's order. -/
def Mapping.toJson : Mapping → Json
  | .mk t ss fs ps =>
    Json.mkObj (("type", .str t.tag) :: t.params.filterMap fun p =>
      (match p with
        | .fields => if fs.isEmpty then none else some (Fields.toJson fs)
        | .properties => if ps.isEmpty then none else some (Fields.toJson ps)
        | p => (ss.lookup p).bind FieldSetting.toJson?).map fun j => (p.key, j))

def Fields.toJson : Fields → Json
  | .mk es => Json.mkObj (Fields.entriesJson es)

def Fields.entriesJson : List (String × Mapping) → List (String × Json)
  | [] => []
  | (n, m) :: rest => (n, Mapping.toJson m) :: Fields.entriesJson rest

end

namespace Mapping

def param? (m : Mapping) (p : MappingParam) : Option Json :=
  match p with
  | .fields => if m.fields.isEmpty then none else some (Fields.toJson m.fields)
  | .properties => if m.properties.isEmpty then none else some (Fields.toJson m.properties)
  | p => (m.setting? p).bind FieldSetting.toJson?

def isSet (m : Mapping) (p : MappingParam) : Bool := (m.param? p).isSome

/-- The errors of the parameters a mapping's type requires and it lacks. -/
def missingRequired (m : Mapping) : List Error :=
  let required (kind : ErrorKind) (p : MappingParam) : Error :=
    ((Error.ofKind kind).withMapping m.type).withParam p.key
  match m.type with
  | .denseVector => if (m.setting? .dims).isNone then [required .dimsRequired .dims] else []
  | .scaledFloat =>
    if (m.setting? .scalingFactor).isNone then [required .valueRequired .scalingFactor] else []
  | .fieldAlias =>
    match m.setting? .path with
    | some (.text s) => if s.isEmpty then [required .pathRequired .path] else []
    | _ => [required .pathRequired .path]
  | _ => []

mutual

def validate : Mapping → MappingErrors
  | m@(mk _ _ (.mk fs) (.mk ps)) =>
    validateChildren (validateChildren ⟨m.missingRequired⟩ fs) ps

def validateChildren (acc : MappingErrors) : List (String × Mapping) → MappingErrors
  | [] => acc
  | (n, child) :: rest =>
    let inner := validate child
    validateChildren (if inner.isEmpty then acc else acc.absorb n inner) rest

end

def unsupported (t : FieldType) (p : MappingParam) : Error :=
  (((Error.ofKind .invalidParams).withDetail (t.tag ++ " does not accept " ++ p.key)).withMapping
    t).withParam p.key

/-- Replace the children under `fields` or `properties`. -/
def setChildren (m : Mapping) (p : MappingParam) (children : Fields) : Except Error Mapping :=
  if !m.type.supports p then .error (unsupported m.type p)
  else
    match m, p with
    | mk t ss _ ps, .fields => .ok (mk t ss children ps)
    | mk t ss fs _, .properties => .ok (mk t ss fs children)
    | m, p => .error ((((Error.ofKind .invalidParams).withMapping m.type).withParam p.key).withDetail
        "not a child mapping parameter")

/-- Change the children under `properties`, whatever the mapping's type. -/
def mapProperties (m : Mapping) (f : Fields → Fields) : Mapping :=
  match m with
  | mk t ss fs ps => mk t ss fs (f ps)

/-- Add one child under `properties`; only containers have them. -/
def addProperty (m : Mapping) (name : String) (child : Mapping) : Except Error Mapping :=
  match m with
  | mk t ss fs ps =>
    if t.isContainer then .ok (mk t ss fs (ps.insert name child))
    else .error (((Error.ofKind .invalidParams).withMapping t).withParam "properties")

def addField (m : Mapping) (name : String) (child : Mapping) : Except Error Mapping :=
  match m with
  | mk t ss fs ps =>
    if t.supports .fields then .ok (mk t ss (fs.insert name child) ps)
    else .error (((Error.ofKind .invalidParams).withMapping t).withParam "fields")

def setValue (m : Mapping) (p : MappingParam) (v : Json) : Except Error Mapping :=
  match v with
  | .null => .ok (m.reset p)
  | v => (p.settingOf v).map (m.putSetting p)

/-- The type a mapping object names; without one, an object with `properties` is an `object`. -/
def readType (ms : Json.Members) : Except Error FieldType :=
  match Json.Members.get? ms "type" with
  | some (.str tag) => FieldType.parse tag
  | some other => .error ((Error.ofKind .invalidType).withReceived other.render)
  | none =>
    if (Json.Members.get? ms "properties").isSome then .ok .object
    else .error (Error.ofKind .missingType)

end Mapping

mutual

/-- Read a mapping from JSON, reporting every invalid parameter and child, and every missing
required parameter. Unknown keys are ignored. -/
def Mapping.decode (v : Json) : Except MappingErrors Mapping :=
  match v with
  | .obj ms =>
    match Mapping.readType ms with
    | .error e => .error (.single (e.withJson v))
    | .ok t =>
      let (m, errs) := Mapping.decodeMembers (Mapping.new t) {} ms
      (errs.append ⟨m.missingRequired⟩).toExcept m
  | other => .error (.single (((Error.ofKind .invalidParams).withDetail
      "expected a mapping object").withJson other))
termination_by 4 * sizeOf v + 3
decreasing_by all_goals simp only [Json.obj.sizeOf_spec]; omega

def Mapping.decodeMembers (m : Mapping) (errs : MappingErrors) (ms : Json.Members) :
    Mapping × MappingErrors :=
  match ms with
  | [] => (m, errs)
  | (key, raw) :: rest =>
    match MappingParam.ofKey? key with
    | some p =>
      if key = "type" then Mapping.decodeMembers m errs rest
      else
        match Mapping.set m p raw with
        | .ok m' => Mapping.decodeMembers m' errs rest
        | .error more => Mapping.decodeMembers m (errs.append more) rest
    | none => Mapping.decodeMembers m errs rest
termination_by 4 * sizeOf ms + 2
decreasing_by all_goals simp only [List.cons.sizeOf_spec, Prod.mk.sizeOf_spec]; omega

/-- Set one parameter from JSON, checked against the mapping's type; null clears it. Children
under `fields` or `properties` report every invalid child, each keeping its own type. -/
def Mapping.set (m : Mapping) (p : MappingParam) (v : Json) : Except MappingErrors Mapping :=
  if !m.type.supports p then .error (.single (Mapping.unsupported m.type p))
  else
    match p with
    | .fields | .properties =>
      match Fields.decode v with
      | .error inner => .error ⟨inner.errors.map (·.withMapping m.type)⟩
      | .ok children => (m.setChildren p children).mapError .single
    | p => (m.setValue p v).mapError fun e => .single ((e.withMapping m.type).withParam p.key)
termination_by 4 * sizeOf v + 1
decreasing_by omega

/-- Read named children from JSON; null is none. Every invalid child is reported under its name. -/
def Fields.decode (v : Json) : Except MappingErrors Fields :=
  match v with
  | .null => .ok .empty
  | .obj ms =>
    let (fs, errs) := Fields.decodeMembers .empty {} ms
    errs.toExcept fs
  | other => .error (.single (((Error.ofKind .invalidParams).withParam "properties").withReceived
      other.render))
termination_by 4 * sizeOf v
decreasing_by simp only [Json.obj.sizeOf_spec]; omega

def Fields.decodeMembers (fs : Fields) (errs : MappingErrors) (ms : Json.Members) :
    Fields × MappingErrors :=
  match ms with
  | [] => (fs, errs)
  | (name, child) :: rest =>
    match Mapping.decode child with
    | .ok m => Fields.decodeMembers (fs.insert name m) errs rest
    | .error inner => Fields.decodeMembers fs (errs.absorb name inner) rest
termination_by 4 * sizeOf ms + 3
decreasing_by all_goals simp only [List.cons.sizeOf_spec, Prod.mk.sizeOf_spec]; omega

end

namespace Mapping

def denseVector (dims : Int) : Except Error Mapping :=
  ((new .denseVector).setValue .dims (.int dims)).mapError fun e =>
    (e.withMapping .denseVector).withParam "dims"

def object (properties : Fields) : Mapping := mk .object [] .empty properties

def nested (properties : Fields) : Mapping := mk .nested [] .empty properties

end Mapping

namespace Fields

/-- The mapping at a dotted path: the first part names a child, and each further part a child
of its `properties`, else of its `fields`. -/
def lookup (fs : Fields) (path : String) : Option Mapping :=
  match path.splitOn "." with
  | [] => none
  | first :: rest => do
    let top ← fs.get? first
    rest.foldlM (fun m part => (m.properties.get? part).orElse fun _ => m.fields.get? part) top

end Fields

end SearchDsl
