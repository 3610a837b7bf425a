/-!
The 26 kinds of query clause and their tags. A query holds at most one clause per kind, and its
clauses are listed in the order of `QueryKind.all`.
-/

namespace SearchDsl

/-- A kind of query clause. -/
inductive QueryKind where
  | term | terms | matchText | matchAll | matchNone | matchBoolPrefix | matchPhrase
  | matchPhrasePrefix | multiMatch | queryString | simpleQueryString | fieldExists | termPrefix
  | wildcard | regexp | fuzzy | range | ids | bool | boosting | constantScore | disMax
  | functionScore | script | scriptScore | intervals
  deriving DecidableEq, Repr, Inhabited

namespace QueryKind

def all : List QueryKind :=
  [term, terms, matchText, matchAll, matchNone, matchBoolPrefix, matchPhrase, matchPhrasePrefix,
    multiMatch, queryString, simpleQueryString, fieldExists, termPrefix, wildcard, regexp, fuzzy,
    range, ids, bool, boosting, constantScore, disMax, functionScore, script, scriptScore,
    intervals]

def tag : QueryKind → String
  | term => "term"
  | terms => "terms"
  | matchText => "match"
  | matchAll => "match_all"
  | matchNone => "match_none"
  | matchBoolPrefix => "match_bool_prefix"
  | matchPhrase => "match_phrase"
  | matchPhrasePrefix => "match_phrase_prefix"
  | multiMatch => "multi_match"
  | queryString => "query_string"
  | simpleQueryString => "simple_query_string"
  | fieldExists => "exists"
  | termPrefix => "prefix"
  | wildcard => "wildcard"
  | regexp => "regexp"
  | fuzzy => "fuzzy"
  | range => "range"
  | ids => "ids"
  | bool => "bool"
  | boosting => "boosting"
  | constantScore => "constant_score"
  | disMax => "dis_max"
  | functionScore => "function_score"
  | script => "script"
  | scriptScore => "script_score"
  | intervals => "intervals"

/-- Position of a kind in `all`; clauses of a query are ordered by it. -/
def index : QueryKind → Nat
  | term => 0 | terms => 1 | matchText => 2 | matchAll => 3 | matchNone => 4
  | matchBoolPrefix => 5 | matchPhrase => 6 | matchPhrasePrefix => 7 | multiMatch => 8
  | queryString => 9 | simpleQueryString => 10 | fieldExists => 11 | termPrefix => 12
  | wildcard => 13 | regexp => 14 | fuzzy => 15 | range => 16 | ids => 17 | bool => 18
  | boosting => 19 | constantScore => 20 | disMax => 21 | functionScore => 22 | script => 23
  | scriptScore => 24 | intervals => 25

def ofTag? (s : String) : Option QueryKind := all.find? fun k => k.tag = s

theorem ofTag?_tag (k : QueryKind) : ofTag? k.tag = some k := by
  cases k <;> rfl

end QueryKind

end SearchDsl
