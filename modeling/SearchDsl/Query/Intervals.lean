import SearchDsl.Query.Script
/-!
Intervals rules: the tree of an `intervals` clause. A leaf rule matches analyzed text, a prefix,
a pattern or a fuzzy term; `all_of` and `any_of` combine child rules, which they need at least
one of. A `match` or combining rule may be restricted by a filter: a relation to a second rule,
or a script. A gap limit below zero means no limit and is not written; `ordered` is written only
when true.

Reading a rule is total by the size of the JSON read: every step goes into a value inside the
one it reads, or to a function of lower rank on the same value.
-/

namespace SearchDsl

/-- The kind of an intervals rule. -/
inductive RuleKind where
  | matchText | termPrefix | wildcard | fuzzy | allOf | anyOf
  deriving DecidableEq, Repr, Inhabited

namespace RuleKind

def all : List RuleKind := [matchText, termPrefix, wildcard, fuzzy, allOf, anyOf]

def tag : RuleKind → String
  | matchText => "match" | termPrefix => "prefix" | wildcard => "wildcard" | fuzzy => "fuzzy"
  | allOf => "all_of" | anyOf => "any_of"

def parse (s : String) : Except Error RuleKind :=
  match all.find? fun k => k.tag = s with
  | some k => .ok k
  | none => .error (((Error.ofKind .unsupportedKind).withClause .intervals).withReceived (Text.quoted s))

end RuleKind

def filterRelations : List String :=
  ["after", "before", "contained_by", "containing", "not_contained_by", "not_containing",
    "not_overlapping", "overlapping"]

mutual

/-- A node of an intervals rule tree. -/
inductive Rule where
  | matchText (query : String) (maxGaps : Int) (ordered : Bool) (useField : String)
      (filter : Option IntervalFilter) (params : Params)
  | termPrefix (text useField : String) (params : Params)
  | wildcard (text useField : String) (params : Params)
  | fuzzy (text useField : String) (params : Params)
  | allOf (rules : List Rule) (maxGaps : Int) (ordered : Bool) (filter : Option IntervalFilter)
  | anyOf (rules : List Rule) (maxGaps : Int) (ordered : Bool) (filter : Option IntervalFilter)
  deriving Repr, Inhabited

/-- A restriction of a rule's intervals. -/
inductive IntervalFilter where
  | related (relation : String) (rule : Rule)
  | script (s : Script)
  deriving Repr, Inhabited

end

namespace Rule

def kind : Rule → RuleKind
  | matchText .. => .matchText
  | termPrefix .. => .termPrefix
  | wildcard .. => .wildcard
  | fuzzy .. => .fuzzy
  | allOf .. => .allOf
  | anyOf .. => .anyOf

def textSlot : RuleKind → String
  | .matchText => "query"
  | .termPrefix => "prefix"
  | .wildcard => "pattern"
  | .fuzzy => "term"
  | .allOf | .anyOf => "intervals"

def declared : RuleKind → List Param
  | .fuzzy => Param.fuzzyRuleList
  | _ => Param.analyzedRuleList

def gapMembers (maxGaps : Int) (ordered : Bool) : List (String × Json) :=
  (if maxGaps = -1 then [] else [("max_gaps", .int maxGaps)]) ++
    (if ordered then [("ordered", .bool true)] else [])

end Rule

mutual

/-- The body of a rule, without its kind key. -/
def Rule.bodyJson : Rule → Json
  | .matchText query gaps ordered useField filter params =>
    Json.mkObj (("query", .str query) :: Rule.gapMembers gaps ordered ++
      params.members Param.analyzedRuleList ++ Shape.nonEmpty "use_field" useField ++
      IntervalFilter.member filter)
  | .termPrefix text useField params =>
    Json.mkObj (("prefix", .str text) :: params.members Param.analyzedRuleList ++
      Shape.nonEmpty "use_field" useField)
  | .wildcard text useField params =>
    Json.mkObj (("pattern", .str text) :: params.members Param.analyzedRuleList ++
      Shape.nonEmpty "use_field" useField)
  | .fuzzy text useField params =>
    Json.mkObj (("term", .str text) :: params.members Param.fuzzyRuleList ++
      Shape.nonEmpty "use_field" useField)
  | .allOf rules gaps ordered filter =>
    Json.mkObj (("intervals", .arr (Rule.listJson rules)) :: Rule.gapMembers gaps ordered ++
      IntervalFilter.member filter)
  | .anyOf rules gaps ordered filter =>
    Json.mkObj (("intervals", .arr (Rule.listJson rules)) :: Rule.gapMembers gaps ordered ++
      IntervalFilter.member filter)

def Rule.toJson (r : Rule) : Json := .obj [(r.kind.tag, r.bodyJson)]

def Rule.listJson : List Rule → List Json
  | [] => []
  | r :: rest => r.toJson :: Rule.listJson rest

def IntervalFilter.toJson : IntervalFilter → Json
  | .related relation rule => .obj [(relation, rule.toJson)]
  | .script s => .obj [("script", s.toJson)]

def IntervalFilter.member : Option IntervalFilter → List (String × Json)
  | some f => [("filter", f.toJson)]
  | none => []

end

def requiredText (k : RuleKind) (text : String) : Except Error String :=
  if text.isEmpty then
    .error (((Error.ofKind .valueRequired).withClause .intervals).withParam
      (k.tag ++ "." ++ Rule.textSlot k))
  else .ok text

def requiredRules (k : RuleKind) (rules : List Rule) : Except Error (List Rule) :=
  if rules.isEmpty then
    .error (((Error.ofKind .intervalsRequired).withClause .intervals).withParam k.tag)
  else .ok rules

def gapLimit (n : Int) : Int := if n < 0 then -1 else n

def IntervalFilter.relate (relation : String) (rule : Rule) : Except Error IntervalFilter :=
  if filterRelations.contains relation then .ok (.related relation rule)
  else .error ((((Error.ofKind .invalidParams).withClause .intervals).withParam "filter").withReceived
    (Text.quoted relation))

mutual

/-- Read a rule object: one key naming the kind, holding the body. -/
def Rule.decode (v : Json) : Except Error Rule :=
  match v with
  | .obj [(key, body)] => do
    let k ← RuleKind.parse key
    (Rule.decodeBody k body).mapError fun e => (e.withClause .intervals).withJson v
  | .obj [] => .error ((Error.ofKind .intervalsRequired).withClause .intervals)
  | .obj _ => .error ((((Error.ofKind .invalidParams).withClause .intervals).withDetail
      "a rule object holds a single rule").withJson v)
  | other => .error ((((Error.ofKind .invalidParams).withClause .intervals).withDetail
      "expected a rule object").withReceived other.render)
termination_by 4 * sizeOf v + 3

def Rule.decodeBody (k : RuleKind) (body : Json) : Except Error Rule :=
  match body with
  | .obj ms => Rule.decodeMembers k ms
  | .null => Rule.decodeMembers k []
  | other => .error (Shape.invalidSlot k.tag other)
termination_by 4 * sizeOf body + 2

def Rule.decodeMembers (k : RuleKind) (ms : Json.Members) : Except Error Rule :=
  match k with
  | .matchText => do
    let query ← requiredText .matchText (← Shape.text ms "query")
    let gaps ← (Shape.int? ms "max_gaps").map fun g => gapLimit (g.getD (-1))
    let ordered ← (Shape.flag? ms "ordered").map (·.getD false)
    let useField ← Shape.text ms "use_field"
    let filter ← IntervalFilter.decodeSlot ms
    let params ← Params.ofMembers Param.analyzedRuleList (some .intervals) ms
    pure (.matchText query gaps ordered useField filter params)
  | .termPrefix => do
    let text ← requiredText .termPrefix (← Shape.text ms "prefix")
    let useField ← Shape.text ms "use_field"
    let params ← Params.ofMembers Param.analyzedRuleList (some .intervals) ms
    pure (.termPrefix text useField params)
  | .wildcard => do
    let text ← requiredText .wildcard (← Shape.text ms "pattern")
    let useField ← Shape.text ms "use_field"
    let params ← Params.ofMembers Param.analyzedRuleList (some .intervals) ms
    pure (.wildcard text useField params)
  | .fuzzy => do
    let text ← requiredText .fuzzy (← Shape.text ms "term")
    let useField ← Shape.text ms "use_field"
    let params ← Params.ofMembers Param.fuzzyRuleList (some .intervals) ms
    pure (.fuzzy text useField params)
  | .allOf => do
    let rules ← requiredRules .allOf (← Rule.decodeChildren .allOf ms)
    let gaps ← (Shape.int? ms "max_gaps").map fun g => gapLimit (g.getD (-1))
    let ordered ← (Shape.flag? ms "ordered").map (·.getD false)
    let filter ← IntervalFilter.decodeSlot ms
    pure (.allOf rules gaps ordered filter)
  | .anyOf => do
    let rules ← requiredRules .anyOf (← Rule.decodeChildren .anyOf ms)
    let gaps ← (Shape.int? ms "max_gaps").map fun g => gapLimit (g.getD (-1))
    let ordered ← (Shape.flag? ms "ordered").map (·.getD false)
    let filter ← IntervalFilter.decodeSlot ms
    pure (.anyOf rules gaps ordered filter)
termination_by 4 * sizeOf ms + 1

/-- The child rules of a combining rule, from its `intervals` array. -/
def Rule.decodeChildren (k : RuleKind) (ms : Json.Members) : Except Error (List Rule) :=
  match h : Json.Members.get? ms "intervals" with
  | none | some .null => .ok []
  | some (.arr items) =>
    have := Json.Members.sizeOf_lt_of_get? h
    have : sizeOf items < sizeOf (Json.arr items) := by simp
    Rule.decodeItems k items 0
  | some other => .error ((((Error.ofKind .invalidParams).withClause .intervals).withParam
      "intervals").withReceived other.render)
termination_by 4 * sizeOf ms

/-- Read child rules in order; the error of the child at position `i` names it `kind[i]`. -/
def Rule.decodeItems (k : RuleKind) (items : List Json) (i : Nat) : Except Error (List Rule) :=
  match items with
  | [] => .ok []
  | item :: rest => do
    let r ← (Rule.decode item).mapError (·.withRole (k.tag ++ "[" ++ toString i ++ "]"))
    let rs ← Rule.decodeItems k rest (i + 1)
    pure (r :: rs)
termination_by 4 * sizeOf items

/-- The `filter` slot of a rule; null or absent is none. -/
def IntervalFilter.decodeSlot (ms : Json.Members) : Except Error (Option IntervalFilter) :=
  match h : Json.Members.get? ms "filter" with
  | none | some .null => .ok none
  | some raw =>
    have := Json.Members.sizeOf_lt_of_get? h
    (IntervalFilter.decode raw).map some
termination_by 4 * sizeOf ms

/-- Read a filter: one key, `script` or a relation holding a rule. -/
def IntervalFilter.decode (v : Json) : Except Error IntervalFilter :=
  let invalid : Error :=
    (((Error.ofKind .invalidParams).withClause .intervals).withParam "filter").withReceived v.render
  match v with
  | .obj [(key, body)] =>
    if key = "script" then (Script.decode body).map .script
    else do
      let r ← (Rule.decode body).mapError (·.withRole ("filter." ++ key))
      IntervalFilter.relate key r
  | _ => .error invalid
termination_by 4 * sizeOf v + 3

end

namespace Rule

def ofQuery (query : String) : Except Error Rule := do
  pure (.matchText (← requiredText .matchText query) (-1) false "" none {})

def ofPattern (k : RuleKind) (text : String) : Except Error Rule := do
  let text ← requiredText k text
  match k with
  | .termPrefix => pure (.termPrefix text "" {})
  | .wildcard => pure (.wildcard text "" {})
  | _ => pure (.fuzzy text "" {})

def ofChildren (k : RuleKind) (rules : List Rule) : Except Error Rule := do
  let rules ← requiredRules k rules
  match k with
  | .anyOf => pure (.anyOf rules (-1) false none)
  | _ => pure (.allOf rules (-1) false none)

def withMaxGaps (r : Rule) (n : Int) : Rule :=
  match r with
  | .matchText q _ o u f ps => .matchText q (gapLimit n) o u f ps
  | .allOf rs _ o f => .allOf rs (gapLimit n) o f
  | .anyOf rs _ o f => .anyOf rs (gapLimit n) o f
  | r => r

def withOrdered (r : Rule) (o : Bool) : Rule :=
  match r with
  | .matchText q g _ u f ps => .matchText q g o u f ps
  | .allOf rs g _ f => .allOf rs g o f
  | .anyOf rs g _ f => .anyOf rs g o f
  | r => r

def withUseField (r : Rule) (u : String) : Rule :=
  match r with
  | .matchText q g o _ f ps => .matchText q g o u f ps
  | .termPrefix t _ ps => .termPrefix t u ps
  | .wildcard t _ ps => .wildcard t u ps
  | .fuzzy t _ ps => .fuzzy t u ps
  | r => r

def withFilter (r : Rule) (f : IntervalFilter) : Rule :=
  match r with
  | .matchText q g o u _ ps => .matchText q g o u (some f) ps
  | .allOf rs g o _ => .allOf rs g o (some f)
  | .anyOf rs g o _ => .anyOf rs g o (some f)
  | r => r

def push (r : Rule) (child : Rule) : Rule :=
  match r with
  | .allOf rs g o f => .allOf (rs ++ [child]) g o f
  | .anyOf rs g o f => .anyOf (rs ++ [child]) g o f
  | r => r

def params : Rule → Params
  | .matchText _ _ _ _ _ ps | .termPrefix _ _ ps | .wildcard _ _ ps | .fuzzy _ _ ps => ps
  | _ => {}

/-- Replace the parameters of a leaf rule. -/
def setParams (r : Rule) (ps : Params) : Rule :=
  match r with
  | .matchText q g o u f _ => .matchText q g o u f ps
  | .termPrefix t u _ => .termPrefix t u ps
  | .wildcard t u _ => .wildcard t u ps
  | .fuzzy t u _ => .fuzzy t u ps
  | r => r

def accept (r : Rule) (p : Param) (v : Option Loose) : Except Error Rule :=
  (r.params.accept p v (some .intervals)).map r.setParams

end Rule

/-- `intervals`: a rule tree applied to one field. -/
structure IntervalsQuery where
  field : String := ""
  rule : Option Rule := none
  params : Params := {}
  deriving Repr, Inhabited

namespace IntervalsQuery

def isEmpty (q : IntervalsQuery) : Bool := q.field.isEmpty

def body (q : IntervalsQuery) : Json :=
  if q.isEmpty then .null
  else
    let ruleMember := match q.rule with
      | some r => [(r.kind.tag, r.bodyJson)]
      | none => []
    Shape.wrapField q.field (ruleMember ++ q.params.members QueryKind.intervals.params)

/-- Read a body: the field holding exactly one root rule and the parameters. -/
def decode (v : Json) : Except Error IntervalsQuery := do
  match ← Shape.fieldKeyed v none with
  | none => pure {}
  | some (field, ms) =>
    let present := RuleKind.all.filterMap fun k => (Json.Members.get? ms k.tag).map fun raw => (k, raw)
    let rule ← match present with
      | [(k, raw)] => (Rule.decodeBody k raw).mapError (·.withField field)
      | [] => throw ((Error.ofKind .intervalsRequired).withField field)
      | _ :: (second, _) :: _ => throw ((((Error.ofKind .invalidParams).withParam second.tag).withDetail
          "an intervals query holds a single root rule").withField field)
    let params ← (Params.ofMembers QueryKind.intervals.params (some .intervals) ms).mapError
      (·.withField field)
    pure ⟨field, some rule, params⟩

def build (field : String) (rule : Option Rule) (given : ParamInput) :
    Except Error IntervalsQuery := do
  requireField .intervals field
  match rule with
  | none => throw (Error.atField .intervals field (Error.ofKind .intervalsRequired))
  | some r =>
    let params ← (Params.ofGiven QueryKind.intervals.params (some .intervals) given).mapError
      (Error.atField .intervals field)
    pure ⟨field, some r, params⟩

def setRule (q : IntervalsQuery) (r : Rule) : IntervalsQuery := { q with rule := some r }

end IntervalsQuery

end SearchDsl
