import SearchDsl.Service.QueryView
/-!
The typed getters of clauses, scoring functions and intervals rules, as answers show them: each
getter under its own name, an absent optional value as `null`, a scalar as its JSON (an instant
as its RFC 3339 text), and a nested query as its JSON.
-/

namespace SearchDsl.Service

def listView (cs : List Clause) : Json :=
  Json.mkObj [("len", .int cs.length), ("kinds", kindsJson (cs.map Clause.kind)),
    ("first", optJson Clause.envelope cs.head?), ("items", .arr (Clause.envelopes cs))]

def scalarView (s : Option Scalar) : Json := optJson Scalar.toJson s

def queryView (q : Option Query) : Json := optJson Query.toJson q

mutual

def ruleView : Rule → Json
  | .matchText query gaps ordered useField filter ps =>
    Json.mkObj [("kind", .str "match"), ("query", .str query), ("max_gaps", .int gaps),
      ("ordered", .bool ordered), ("use_field", .str useField),
      ("analyzer", paramValue ps .analyzer), ("filter", filterView filter)]
  | .termPrefix text useField ps =>
    Json.mkObj [("kind", .str "prefix"), ("pattern", .str text), ("use_field", .str useField),
      ("analyzer", paramValue ps .analyzer)]
  | .wildcard text useField ps =>
    Json.mkObj [("kind", .str "wildcard"), ("pattern", .str text), ("use_field", .str useField),
      ("analyzer", paramValue ps .analyzer)]
  | .fuzzy text useField ps =>
    Json.mkObj [("kind", .str "fuzzy"), ("term", .str text), ("use_field", .str useField),
      ("prefix_length", paramValue ps .prefixLength),
      ("transpositions", paramValue ps .transpositions),
      ("fuzziness", paramValue ps .fuzziness), ("analyzer", paramValue ps .analyzer)]
  | .allOf rules gaps ordered filter =>
    Json.mkObj [("kind", .str "all_of"), ("intervals", .arr (ruleListView rules)),
      ("max_gaps", .int gaps), ("ordered", .bool ordered), ("filter", filterView filter)]
  | .anyOf rules gaps ordered filter =>
    Json.mkObj [("kind", .str "any_of"), ("intervals", .arr (ruleListView rules)),
      ("max_gaps", .int gaps), ("ordered", .bool ordered), ("filter", filterView filter)]

def ruleListView : List Rule → List Json
  | [] => []
  | r :: rs => ruleView r :: ruleListView rs

def filterView : Option IntervalFilter → Json
  | none => .null
  | some (.script s) => Json.mkObj [("script", s.toJson)]
  | some (.related relation r) => Json.mkObj [("relation", .str relation), ("rule", ruleView r)]

end

def functionBodyView : FunctionBody → Json
  | .decay d =>
    Json.mkObj [("kind", .str d.curve.kind.tag), ("field", .str d.field),
      ("origin", d.origin.toJson), ("scale", d.scale.toJson), ("offset", scalarView d.offset),
      ("decay", .float (d.decay.getD 0.5)), ("multi_value_mode", .str d.multiValueMode)]
  | .fieldValueFactor f =>
    Json.mkObj [("field", .str f.field), ("factor", .float (f.factor.getD 1.0)),
      ("missing", optJson .float f.missing), ("modifier", .str (Tagged.tag f.params.modifier))]
  | .scriptScore s => Json.mkObj [("script", s.toJson)]
  | .randomScore r => Json.mkObj [("seed", scalarView r.seed), ("field", .str r.field)]
  | .weight => .null

def functionView (f : ScoreFunction) : Json :=
  Json.mkObj [("kind", .str f.kind.tag), ("weight", optJson .float f.weight?),
    ("filter", queryView f.filter), ("body", functionBodyView f.body), ("json", f.toJson)]

def scriptView (s : Script) : List (String × Json) :=
  [("script", s.toJson), ("source", .str s.source), ("id", .str s.id), ("lang", .str s.lang)]

def clauseGetters : Clause → Json
  | .term q => Json.mkObj [("field", .str q.field), ("value", scalarView q.value)]
  | .terms q =>
    let (values, lookup, source) := match q.source with
      | .values vs => (vs, none, "values")
      | .lookup l => ([], some l, "lookup")
    Json.mkObj [("field", .str q.field), ("values", .arr (values.map Scalar.toJson)),
      ("lookup", optJson TermsLookup.toJson lookup), ("source", .str source)]
  | .matchText q | .matchBoolPrefix q | .matchPhrase q | .matchPhrasePrefix q =>
    Json.mkObj [("field", .str q.field), ("query", .str q.queryText),
      ("query_value", scalarView q.query)]
  | .multiMatch q =>
    Json.mkObj [("query", .str q.query), ("fields", namesJson q.fields),
      ("type", .str (Tagged.tag (q.matchType.getD .bestFields)))]
  | .queryString q =>
    Json.mkObj [("query", .str q.query), ("default_field", .str q.defaultField),
      ("fields", namesJson q.fields)]
  | .simpleQueryString q =>
    Json.mkObj [("query", .str q.query), ("fields", namesJson q.fields), ("flags", .str q.flags)]
  | .fieldExists q => Json.mkObj [("field", .str q.field)]
  | .termPrefix q | .wildcard q | .fuzzy q =>
    Json.mkObj [("field", .str q.field), ("value", .str q.value)]
  | .regexp q => Json.mkObj [("field", .str q.field), ("value", .str q.value), ("flags", .str q.flags)]
  | .range q =>
    Json.mkObj [("field", .str q.field), ("gt", scalarView q.bounds.gt),
      ("gte", scalarView q.bounds.gte), ("lt", scalarView q.bounds.lt),
      ("lte", scalarView q.bounds.lte)]
  | .ids q => Json.mkObj [("values", namesJson q.values), ("len", .int q.values.length)]
  | .bool must filter should mustNot _ =>
    Json.mkObj [("must", listView must), ("filter", listView filter), ("should", listView should),
      ("must_not", listView mustNot)]
  | .boosting positive negative nb _ =>
    Json.mkObj [("positive", queryView positive), ("negative", queryView negative),
      ("negative_boost", .float nb)]
  | .constantScore filter _ => Json.mkObj [("filter", queryView filter)]
  | .disMax queries _ => Json.mkObj [("queries", listView queries)]
  | .functionScore query functions _ =>
    Json.mkObj [("query", queryView query), ("functions", .arr (functions.map functionView))]
  | .script q => Json.mkObj (scriptView q.script)
  | .scriptScore query script _ =>
    Json.mkObj [("query", queryView query), ("script", script.toJson)]
  | .matchAll _ | .matchNone _ => Json.mkObj []
  | .intervals q => Json.mkObj [("field", .str q.field), ("rule", optJson ruleView q.rule)]

def queryGetters (q : Query) (k : QueryKind) : Json :=
  match q.get? k with
  | some c => clauseGetters c
  | none => .str "absent"

end SearchDsl.Service
