import SearchDsl.Query.FullText
import SearchDsl.Query.Intervals
import SearchDsl.Query.ScoreFunction
/-!
Clauses and queries. A clause is one node of the query tree, of one of the 26 kinds; a query
holds at most one clause of each kind, in kind order. Compound clauses hold child clauses:
`bool` a list per role, `dis_max` one list, `boosting`, `constant_score`, `script_score` and
`function_score` nested queries, and `function_score` its scoring functions, each with an
optional filter query.

A clause is empty when it lacks what it is about: its field, its query text, its children. An
empty clause writes `null`, a query or clause list drops it, and a nested query that holds only
empty clauses counts as absent. JSON objects are written with their keys in byte order, so a
query writes its clauses by tag, not by kind.
-/

namespace SearchDsl

mutual

/-- One node of a query tree. -/
inductive Clause where
  | term (q : TermQuery)
  | terms (q : TermsQuery)
  | matchText (q : MatchQuery)
  | matchAll (q : BareQuery)
  | matchNone (q : BareQuery)
  | matchBoolPrefix (q : MatchQuery)
  | matchPhrase (q : MatchQuery)
  | matchPhrasePrefix (q : MatchQuery)
  | multiMatch (q : MultiMatchQuery)
  | queryString (q : QueryStringQuery)
  | simpleQueryString (q : SimpleQueryStringQuery)
  | fieldExists (q : ExistsQuery)
  | termPrefix (q : PatternQuery)
  | wildcard (q : PatternQuery)
  | regexp (q : RegexpQuery)
  | fuzzy (q : PatternQuery)
  | range (q : RangeQuery)
  | ids (q : IdsQuery)
  | bool (must filter should mustNot : List Clause) (params : Params)
  | boosting (positive negative : Option Query) (negativeBoost : Float) (params : Params)
  | constantScore (filter : Option Query) (params : Params)
  | disMax (queries : List Clause) (params : Params)
  | functionScore (query : Option Query) (functions : List ScoreFunction) (params : Params)
  | script (q : ScriptQuery)
  | scriptScore (query : Option Query) (script : Script) (params : Params)
  | intervals (q : IntervalsQuery)
  deriving Repr, Inhabited

/-- Clauses of distinct kinds, in kind order. -/
inductive Query where
  | mk (clauses : List Clause)
  deriving Repr, Inhabited

/-- A scoring function with an optional filter query and its weight. -/
inductive ScoreFunction where
  | mk (body : FunctionBody) (filter : Option Query) (params : Params)
  deriving Repr, Inhabited

end

/-- The roles of a `bool` clause. -/
inductive BoolRole where
  | must | filter | should | mustNot
  deriving DecidableEq, Repr, Inhabited

namespace BoolRole

def all : List BoolRole := [must, filter, should, mustNot]

def key : BoolRole → String
  | must => "must" | filter => "filter" | should => "should" | mustNot => "must_not"

def ofKey? (s : String) : Option BoolRole := all.find? fun r => r.key = s

end BoolRole

namespace Clause

def kind : Clause → QueryKind
  | term _ => .term | terms _ => .terms | matchText _ => .matchText | matchAll _ => .matchAll
  | matchNone _ => .matchNone | matchBoolPrefix _ => .matchBoolPrefix
  | matchPhrase _ => .matchPhrase | matchPhrasePrefix _ => .matchPhrasePrefix
  | multiMatch _ => .multiMatch | queryString _ => .queryString
  | simpleQueryString _ => .simpleQueryString | fieldExists _ => .fieldExists
  | termPrefix _ => .termPrefix | wildcard _ => .wildcard | regexp _ => .regexp
  | fuzzy _ => .fuzzy | range _ => .range | ids _ => .ids | bool .. => .bool
  | boosting .. => .boosting | constantScore .. => .constantScore | disMax .. => .disMax
  | functionScore .. => .functionScore | script _ => .script | scriptScore .. => .scriptScore
  | intervals _ => .intervals

/-- Whether a clause lacks what it is about. -/
def isEmpty : Clause → Bool
  | term q => q.isEmpty | terms q => q.isEmpty | matchText q => q.isEmpty
  | matchAll q => q.isEmpty | matchNone q => q.isEmpty | matchBoolPrefix q => q.isEmpty
  | matchPhrase q => q.isEmpty | matchPhrasePrefix q => q.isEmpty | multiMatch q => q.isEmpty
  | queryString q => q.isEmpty | simpleQueryString q => q.isEmpty
  | fieldExists q => q.isEmpty | termPrefix q => q.isEmpty | wildcard q => q.isEmpty
  | regexp q => q.isEmpty | fuzzy q => q.isEmpty | range q => q.isEmpty | ids q => q.isEmpty
  | bool m f s n _ => m.isEmpty && f.isEmpty && s.isEmpty && n.isEmpty
  | boosting p n _ _ => p.isNone && n.isNone
  | constantScore f _ => f.isNone
  | disMax qs _ => qs.isEmpty
  | functionScore q fs _ => q.isNone && fs.isEmpty
  | script q => q.isEmpty
  | scriptScore q s _ => q.isNone && s.isEmpty
  | intervals q => q.isEmpty

/-- The empty clause of a kind, which clearing a clause leaves behind. -/
def empty : QueryKind → Clause
  | .term => term {} | .terms => terms {} | .matchText => matchText {}
  | .matchAll => matchAll {} | .matchNone => matchNone {}
  | .matchBoolPrefix => matchBoolPrefix {} | .matchPhrase => matchPhrase {}
  | .matchPhrasePrefix => matchPhrasePrefix {} | .multiMatch => multiMatch {}
  | .queryString => queryString {} | .simpleQueryString => simpleQueryString {}
  | .fieldExists => fieldExists {} | .termPrefix => termPrefix {} | .wildcard => wildcard {}
  | .regexp => regexp {} | .fuzzy => fuzzy {} | .range => range {} | .ids => ids {}
  | .bool => bool [] [] [] [] {} | .boosting => boosting none none 0.0 {}
  | .constantScore => constantScore none {} | .disMax => disMax [] {}
  | .functionScore => functionScore none [] {} | .script => script {}
  | .scriptScore => scriptScore none {} {} | .intervals => intervals {}

def params : Clause → Params
  | term q => q.params | terms q => q.params | matchText q => q.params
  | matchAll q => q.params | matchNone q => q.params | matchBoolPrefix q => q.params
  | matchPhrase q => q.params | matchPhrasePrefix q => q.params | multiMatch q => q.params
  | queryString q => q.params | simpleQueryString q => q.params
  | fieldExists q => q.params | termPrefix q => q.params | wildcard q => q.params
  | regexp q => q.params | fuzzy q => q.params | range q => q.params | ids q => q.params
  | bool _ _ _ _ ps | boosting _ _ _ ps | constantScore _ ps | disMax _ ps
  | functionScore _ _ ps | scriptScore _ _ ps => ps
  | script q => q.params | intervals q => q.params

def setParams (c : Clause) (ps : Params) : Clause :=
  match c with
  | term q => term { q with params := ps } | terms q => terms { q with params := ps }
  | matchText q => matchText { q with params := ps }
  | matchAll q => matchAll { q with params := ps }
  | matchNone q => matchNone { q with params := ps }
  | matchBoolPrefix q => matchBoolPrefix { q with params := ps }
  | matchPhrase q => matchPhrase { q with params := ps }
  | matchPhrasePrefix q => matchPhrasePrefix { q with params := ps }
  | multiMatch q => multiMatch { q with params := ps }
  | queryString q => queryString { q with params := ps }
  | simpleQueryString q => simpleQueryString { q with params := ps }
  | fieldExists q => fieldExists { q with params := ps }
  | termPrefix q => termPrefix { q with params := ps }
  | wildcard q => wildcard { q with params := ps }
  | regexp q => regexp { q with params := ps } | fuzzy q => fuzzy { q with params := ps }
  | range q => range { q with params := ps } | ids q => ids { q with params := ps }
  | bool m f s n _ => bool m f s n ps
  | boosting p n b _ => boosting p n b ps
  | constantScore f _ => constantScore f ps
  | disMax qs _ => disMax qs ps
  | functionScore q fs _ => functionScore q fs ps
  | script q => script { q with params := ps }
  | scriptScore q s _ => scriptScore q s ps
  | intervals q => intervals { q with params := ps }

end Clause

namespace Query

def clauses : Query → List Clause
  | mk cs => cs

def empty : Query := mk []

def isEmpty (q : Query) : Bool := q.clauses.all Clause.isEmpty

def len (q : Query) : Nat := q.clauses.length

def kinds (q : Query) : List QueryKind := q.clauses.map Clause.kind

def get? (q : Query) (k : QueryKind) : Option Clause := q.clauses.find? fun c => c.kind = k

def insertClause (c : Clause) : List Clause → List Clause
  | [] => [c]
  | d :: rest =>
    if d.kind = c.kind then c :: rest
    else if c.kind.index < d.kind.index then c :: d :: rest
    else d :: insertClause c rest

def remove (q : Query) (k : QueryKind) : Query × Option Clause :=
  (mk (q.clauses.filter fun c => c.kind ≠ k), q.get? k)

/-- Store a clause, returning the one it replaces; an empty clause removes its kind instead. -/
def set (q : Query) (c : Clause) : Query × Option Clause :=
  if c.isEmpty then q.remove c.kind
  else (mk (insertClause c q.clauses), q.get? c.kind)

def modify (q : Query) (k : QueryKind) (f : Clause → Clause) : Query :=
  mk (q.clauses.map fun c => if c.kind = k then f c else c)

def ofClause (c : Clause) : Query := (empty.set c).1

end Query

def itemRole (role : String) (i : Nat) : String := role ++ "[" ++ toString i ++ "]"

mutual

/-- The body of a clause, without its kind; `null` for an empty clause. -/
def Clause.body : Clause → Json
  | .term q => q.body
  | .terms q => q.body
  | .matchText q => q.body .matchText
  | .matchAll q => q.body .matchAll
  | .matchNone q => q.body .matchNone
  | .matchBoolPrefix q => q.body .matchBoolPrefix
  | .matchPhrase q => q.body .matchPhrase
  | .matchPhrasePrefix q => q.body .matchPhrasePrefix
  | .multiMatch q => q.body
  | .queryString q => q.body
  | .simpleQueryString q => q.body
  | .fieldExists q => q.body
  | .termPrefix q => q.body .termPrefix
  | .wildcard q => q.body .wildcard
  | .regexp q => q.body
  | .fuzzy q => q.body .fuzzy
  | .range q => q.body
  | .ids q => q.body
  | .bool must filter should mustNot params =>
    if must.isEmpty && filter.isEmpty && should.isEmpty && mustNot.isEmpty then .null
    else Json.mkObj (Clause.roleMember "must" must ++ Clause.roleMember "filter" filter ++
      Clause.roleMember "should" should ++ Clause.roleMember "must_not" mustNot ++
      params.members QueryKind.bool.params)
  | .boosting positive negative negativeBoost params =>
    if positive.isNone && negative.isNone then .null
    else Json.mkObj (Query.slotMember "positive" positive ++ Query.slotMember "negative" negative ++
      [("negative_boost", .float negativeBoost)] ++ params.members QueryKind.boosting.params)
  | .constantScore filter params =>
    match filter with
    | none => .null
    | some f => Json.mkObj (("filter", f.toJson) :: params.members QueryKind.constantScore.params)
  | .disMax queries params =>
    if queries.isEmpty then .null
    else Json.mkObj (("queries", .arr (Clause.envelopes queries)) ::
      params.members QueryKind.disMax.params)
  | .functionScore query functions params =>
    if query.isNone && functions.isEmpty then .null
    else Json.mkObj (Query.slotMember "query" query ++
      (if functions.isEmpty then [] else [("functions", .arr (ScoreFunction.listJson functions))]) ++
      params.members QueryKind.functionScore.params)
  | .script q => q.body
  | .scriptScore query script params =>
    if query.isNone && script.isEmpty then .null
    else Json.mkObj (Query.slotMember "query" query ++ [("script", script.toJson)] ++
      params.members QueryKind.scriptScore.params)
  | .intervals q => q.body

def Clause.envelope (c : Clause) : Json :=
  if c.isEmpty then .null else .obj [(c.kind.tag, c.body)]

def Clause.envelopes : List Clause → List Json
  | [] => []
  | c :: rest => c.envelope :: Clause.envelopes rest

def Clause.roleMember (key : String) (cs : List Clause) : List (String × Json) :=
  if cs.isEmpty then [] else [(key, .arr (Clause.envelopes cs))]

def Clause.entries : List Clause → List (String × Json)
  | [] => []
  | c :: rest => if c.isEmpty then Clause.entries rest else (c.kind.tag, c.body) :: Clause.entries rest

def Query.toJson : Query → Json
  | .mk cs =>
    match Clause.entries cs with
    | [] => .null
    | es => Json.mkObj es

def Query.slotMember (key : String) : Option Query → List (String × Json)
  | some q => [(key, q.toJson)]
  | none => []

def ScoreFunction.toJson : ScoreFunction → Json
  | .mk body filter params =>
    Json.mkObj (Shape.opt body.kind.tag body.toJson? ++ Query.slotMember "filter" filter ++
      params.members Param.functionList)

def ScoreFunction.listJson : List ScoreFunction → List Json
  | [] => []
  | f :: rest => f.toJson :: ScoreFunction.listJson rest

end

namespace ScoreFunction

def body : ScoreFunction → FunctionBody
  | mk b _ _ => b

def filter : ScoreFunction → Option Query
  | mk _ f _ => f

def params : ScoreFunction → Params
  | mk _ _ ps => ps

def kind (f : ScoreFunction) : FunctionKind := f.body.kind

def weight? (f : ScoreFunction) : Option Float := f.params.weight?

end ScoreFunction

/-- A list of clauses, as the roles of compound clauses hold them: empty clauses are left
out. -/
def Clause.pushTo (cs : List Clause) (c : Clause) : List Clause :=
  if c.isEmpty then cs else cs ++ [c]

def Clause.removeAt (cs : List Clause) (i : Nat) : List Clause × Option Clause :=
  if i < cs.length then (cs.eraseIdx i, cs[i]?) else (cs, none)

end SearchDsl
