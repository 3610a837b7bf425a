import SearchDsl.Scalar
import SearchDsl.Tag
/-!
The parameter registry of query clauses. A parameter is named by its JSON key; a clause holds a
setting for some of its parameters and leaves the rest at their defaults. A setting is stored
only when it differs from the default, so a clause whose settings are all default holds none,
and writing a clause back never shows a default. The settings of a clause are a list sorted by
parameter with each parameter at most once, which makes equal settings equal lists.
-/

namespace SearchDsl

/-- A parameter of a query clause. -/
inductive Param where
  | boost | analyzer | quoteAnalyzer | caseInsensitive | fuzziness | fuzzyRewrite | rewrite
  | maxExpansions | fuzzyMaxExpansions | prefixLength | fuzzyPrefixLength | operator
  | defaultOperator | lenient | transpositions | fuzzyTranspositions | minimumShouldMatch
  | name | slop | timeZone | relation | format | zeroTermsQuery | cutoffFrequency
  | autoGenerateSynonymsPhraseQuery | scoreMode | boostMode | minScore | maxBoost
  | maxDeterminizedStates | modifier | weight | tieBreaker | allowLeadingWildcard
  | analyzeWildcard
  deriving DecidableEq, Repr, Inhabited

namespace Param

def all : List Param :=
  [boost, analyzer, quoteAnalyzer, caseInsensitive, fuzziness, fuzzyRewrite, rewrite,
    maxExpansions, fuzzyMaxExpansions, prefixLength, fuzzyPrefixLength, operator,
    defaultOperator, lenient, transpositions, fuzzyTranspositions, minimumShouldMatch, name,
    slop, timeZone, relation, format, zeroTermsQuery, cutoffFrequency,
    autoGenerateSynonymsPhraseQuery, scoreMode, boostMode, minScore, maxBoost,
    maxDeterminizedStates, modifier, weight, tieBreaker, allowLeadingWildcard, analyzeWildcard]

def key : Param → String
  | boost => "boost" | analyzer => "analyzer" | quoteAnalyzer => "quote_analyzer"
  | caseInsensitive => "case_insensitive" | fuzziness => "fuzziness"
  | fuzzyRewrite => "fuzzy_rewrite" | rewrite => "rewrite" | maxExpansions => "max_expansions"
  | fuzzyMaxExpansions => "fuzzy_max_expansions" | prefixLength => "prefix_length"
  | fuzzyPrefixLength => "fuzzy_prefix_length" | operator => "operator"
  | defaultOperator => "default_operator" | lenient => "lenient"
  | transpositions => "transpositions" | fuzzyTranspositions => "fuzzy_transpositions"
  | minimumShouldMatch => "minimum_should_match" | name => "_name" | slop => "slop"
  | timeZone => "time_zone" | relation => "relation" | format => "format"
  | zeroTermsQuery => "zero_terms_query" | cutoffFrequency => "cutoff_frequency"
  | autoGenerateSynonymsPhraseQuery => "auto_generate_synonyms_phrase_query"
  | scoreMode => "score_mode" | boostMode => "boost_mode" | minScore => "min_score"
  | maxBoost => "max_boost" | maxDeterminizedStates => "max_determinized_states"
  | modifier => "modifier" | weight => "weight" | tieBreaker => "tie_breaker"
  | allowLeadingWildcard => "allow_leading_wildcard" | analyzeWildcard => "analyze_wildcard"

def ofKey? (k : String) : Option Param := all.find? fun p => p.key = k

def index (p : Param) : Nat := all.idxOf p

end Param

/-- The stored value of one parameter. -/
inductive Setting where
  | text (s : String)
  | flag (b : Bool)
  | count (n : Int)
  | real (f : Float)
  | number (n : Number)
  | rewrite (r : Rewrite)
  | operator (o : Operator)
  | relation (r : Relation)
  | zeroTerms (z : ZeroTerms)
  | scoreMode (m : ScoreMode)
  | boostMode (m : BoostMode)
  | modifier (m : Modifier)
  deriving Repr, Inhabited

namespace Setting

/-- The JSON of a setting: tags for the closed sets, the value for the rest. -/
def toJson : Setting → Json
  | text s => .str s
  | flag b => .bool b
  | count n => .int n
  | real f => .float f
  | number n => n.toJson
  | rewrite r => .str r.tag
  | operator o => .str (Tagged.tag o)
  | relation r => .str (Tagged.tag r)
  | zeroTerms z => .str (Tagged.tag z)
  | scoreMode m => .str (Tagged.tag m)
  | boostMode m => .str (Tagged.tag m)
  | modifier m => .str (Tagged.tag m)

end Setting

def maxBoostDefault : Float := 3.4028234663852886e38

/-- The value a parameter has when no setting is stored; `weight` and `cutoff_frequency` have
none. -/
def Param.default : Param → Option Setting
  | .boost => some (.real 1.0)
  | .analyzer | .quoteAnalyzer | .fuzziness | .minimumShouldMatch | .name | .timeZone
  | .format => some (.text "")
  | .caseInsensitive | .lenient | .analyzeWildcard => some (.flag false)
  | .transpositions | .fuzzyTranspositions | .autoGenerateSynonymsPhraseQuery
  | .allowLeadingWildcard => some (.flag true)
  | .fuzzyRewrite | .rewrite => some (.rewrite .constantScore)
  | .maxExpansions | .fuzzyMaxExpansions => some (.count 50)
  | .prefixLength | .fuzzyPrefixLength | .slop => some (.count 0)
  | .operator | .defaultOperator => some (.operator .or)
  | .relation => some (.relation .intersects)
  | .zeroTermsQuery => some (.zeroTerms .none)
  | .cutoffFrequency | .weight => none
  | .scoreMode => some (.scoreMode .multiply)
  | .boostMode => some (.boostMode .multiply)
  | .minScore => some (.real 0.0)
  | .maxBoost => some (.real maxBoostDefault)
  | .maxDeterminizedStates => some (.count 10000)
  | .modifier => some (.modifier .none)
  | .tieBreaker => some (.real 0.0)

/-- The settings of a clause: sorted by parameter, each parameter at most once. -/
structure Params where
  entries : List (Param × Setting) := []
  deriving Repr, Inhabited

namespace Params

def get? (ps : Params) (p : Param) : Option Setting := (ps.entries.lookup p)

def putEntry (p : Param) (s : Setting) : List (Param × Setting) → List (Param × Setting)
  | [] => [(p, s)]
  | (q, t) :: rest =>
    if q = p then (p, s) :: rest
    else if p.index < q.index then (p, s) :: (q, t) :: rest
    else (q, t) :: putEntry p s rest

def put (ps : Params) (p : Param) : Option Setting → Params
  | some s => ⟨putEntry p s ps.entries⟩
  | none => ⟨ps.entries.filter fun e => e.1 ≠ p⟩

def reset (ps : Params) (p : Param) : Params := ps.put p none

def isDefault (ps : Params) : Bool := ps.entries.isEmpty

def value? (ps : Params) (p : Param) : Option Setting := (ps.get? p).orElse fun _ => p.default

def members (ps : Params) (declared : List Param) : List (String × Json) :=
  declared.filterMap fun p => (ps.get? p).map fun s => (p.key, s.toJson)

def text (ps : Params) (p : Param) : String :=
  match ps.get? p with
  | some (.text s) => s
  | _ => ""

def real (ps : Params) (p : Param) (default : Float) : Float :=
  match ps.get? p with
  | some (.real f) => f
  | _ => default

def boost (ps : Params) : Float := ps.real .boost 1.0

def weight? (ps : Params) : Option Float :=
  match ps.get? .weight with
  | some (.real f) => some f
  | _ => none

def modifier (ps : Params) : Modifier :=
  match ps.get? .modifier with
  | some (.modifier m) => m
  | _ => .none

@[simp] theorem reset_get?_self (ps : Params) (p : Param) : (ps.reset p).get? p = none := by
  simp only [reset, put, get?]
  induction ps.entries with
  | nil => rfl
  | cons e rest ih =>
    obtain ⟨q, s⟩ := e
    by_cases h : q = p
    · subst h; simpa using ih
    · have hb : (p == q) = false := by simpa using Ne.symm h
      simp only [List.filter, ne_eq, h, not_false_eq_true, decide_true, List.lookup_cons, hb]
      simpa using ih

end Params

end SearchDsl
