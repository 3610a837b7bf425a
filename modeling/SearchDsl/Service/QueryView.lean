import SearchDsl.Query.Decode
import SearchDsl.Service.Answer
/-!
How clauses and queries are shown in answers: a clause with its kind, body, envelope, the value
of every parameter its kind declares, and whether it reads back; a query with its kinds and
whether it reads back.
-/

namespace SearchDsl.Service

def paramValue (ps : Params) (p : Param) : Json := optJson Setting.toJson (ps.value? p)

def paramView (declared : List Param) (ps : Params) : List (String × Json) :=
  declared.map fun p => (p.key, paramValue ps p)

/-- A scoring function as the parameter view lists it. -/
def functionSummary (f : ScoreFunction) : Json :=
  let extra : List (String × Json) := match f.body with
    | .decay d => [("decay", .float (d.decay.getD 0.5))]
    | .fieldValueFactor ff =>
      [("factor", .float (ff.factor.getD 1.0)), ("modifier", .str (Tagged.tag ff.params.modifier))]
    | _ => []
  Json.mkObj ([("kind", .str f.kind.tag), ("weight", optJson .float f.weight?)] ++ extra)

/-- The parameter view of a clause: its declared parameters and the values its kind adds. -/
def clauseView (c : Clause) : Json :=
  let extra : List (String × Json) := match c with
    | .matchText q | .matchBoolPrefix q | .matchPhrase q | .matchPhrasePrefix q =>
      [("query_text", .str q.queryText)]
    | .multiMatch q => [("type", .str (Tagged.tag (q.matchType.getD .bestFields)))]
    | .boosting _ _ nb _ => [("negative_boost", .float nb)]
    | .functionScore _ fs _ => [("functions", .arr (fs.map functionSummary))]
    | _ => []
  Json.mkObj (paramView c.kind.params c.params ++ extra)

def clauseAnswer (c : Clause) : Json :=
  Json.mkObj [("kind", .str c.kind.tag), ("is_empty", .bool c.isEmpty), ("body", c.body),
    ("envelope", c.envelope), ("params", clauseView c),
    ("reparsed", resultJson (Clause.ofEnvelope c.envelope) Clause.envelope)]

def kindsJson (ks : List QueryKind) : Json := .arr (ks.map fun k => .str k.tag)

def queryAnswer (q : Query) : Json :=
  Json.mkObj [("ok", q.toJson), ("kinds", kindsJson q.kinds), ("len", .int q.len),
    ("is_empty", .bool q.isEmpty), ("reparsed", resultJson (Query.decode q.toJson) Query.toJson)]

def clauseListAnswer (cs : List Clause) : Json :=
  Json.mkObj [("ok", .arr (Clause.envelopes cs)), ("kinds", kindsJson (cs.map Clause.kind)),
    ("len", .int cs.length)]

end SearchDsl.Service
