import SearchDsl.Param.Basic
/-!
The parameters each holder declares. A clause, a scoring function or an intervals rule reads,
applies and writes only its declared parameters, always in the order listed here.
-/

namespace SearchDsl

namespace Param

def matchList : List Param :=
  [analyzer, autoGenerateSynonymsPhraseQuery, fuzziness, maxExpansions, prefixLength,
    fuzzyTranspositions, fuzzyRewrite, lenient, operator, minimumShouldMatch, zeroTermsQuery,
    cutoffFrequency, boost, name]

def functionList : List Param := [weight]

def factorList : List Param := [modifier]

def analyzedRuleList : List Param := [analyzer]

def fuzzyRuleList : List Param := [prefixLength, transpositions, fuzziness, analyzer]

end Param

/-- The parameters a clause kind declares. -/
def QueryKind.params : QueryKind → List Param
  | .term => [.boost, .caseInsensitive, .name]
  | .terms | .fieldExists | .ids | .boosting | .constantScore | .script | .matchAll
  | .matchNone | .intervals => [.boost, .name]
  | .termPrefix | .wildcard => [.rewrite, .caseInsensitive, .boost, .name]
  | .regexp => [.caseInsensitive, .maxDeterminizedStates, .rewrite, .boost, .name]
  | .fuzzy => [.fuzziness, .maxExpansions, .prefixLength, .transpositions, .rewrite, .boost, .name]
  | .range => [.format, .timeZone, .relation, .boost, .name]
  | .matchText => Param.matchList
  | .matchBoolPrefix =>
    [.analyzer, .minimumShouldMatch, .operator, .fuzziness, .prefixLength, .maxExpansions,
      .fuzzyTranspositions, .fuzzyRewrite, .boost, .name]
  | .matchPhrase => [.analyzer, .slop, .zeroTermsQuery, .boost, .name]
  | .matchPhrasePrefix => [.analyzer, .maxExpansions, .slop, .zeroTermsQuery, .boost, .name]
  | .multiMatch =>
    [.analyzer, .autoGenerateSynonymsPhraseQuery, .fuzziness, .maxExpansions, .prefixLength,
      .fuzzyTranspositions, .fuzzyRewrite, .lenient, .operator, .minimumShouldMatch,
      .zeroTermsQuery, .cutoffFrequency, .tieBreaker, .slop, .boost, .name]
  | .queryString =>
    [.defaultOperator, .allowLeadingWildcard, .analyzeWildcard, .analyzer, .quoteAnalyzer,
      .autoGenerateSynonymsPhraseQuery, .fuzziness, .fuzzyMaxExpansions, .fuzzyPrefixLength,
      .fuzzyTranspositions, .lenient, .maxDeterminizedStates, .minimumShouldMatch, .rewrite,
      .timeZone, .tieBreaker, .boost, .name]
  | .simpleQueryString =>
    [.defaultOperator, .analyzer, .analyzeWildcard, .autoGenerateSynonymsPhraseQuery,
      .fuzzyMaxExpansions, .fuzzyPrefixLength, .fuzzyTranspositions, .lenient,
      .minimumShouldMatch, .boost, .name]
  | .bool => [.minimumShouldMatch, .boost, .name]
  | .disMax => [.tieBreaker, .boost, .name]
  | .functionScore => [.scoreMode, .boostMode, .minScore, .maxBoost, .boost, .name]
  | .scriptScore => [.minScore, .boost, .name]

end SearchDsl
