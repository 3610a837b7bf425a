import SearchDsl.Error
import SearchDsl.Text.Blank
import SearchDsl.Text.Debug
import SearchDsl.Decimal.Read
/-!
Closed sets of tags. A tag is read after trimming blanks and ignoring ASCII case, and is written
in its canonical spelling (upper case for operators and relations, lower case for the rest).
Each set names the error kind of a text that is none of its tags. The rewrite methods are a set
of their own: three fixed tags and three tags that carry a term count as a suffix.
-/

namespace SearchDsl

/-- A closed set of tags: every value, its spellings with the canonical one first, and the error
kind of a text that names none of them. -/
class Tagged (α : Type) where
  all : List α
  spellings : α → List String
  invalid : ErrorKind

namespace Tagged

variable {α : Type} [Tagged α]

def tag (v : α) : String := (spellings v).headD ""

def names (v : α) (t : String) : Bool :=
  (spellings v).any fun n => Decimal.asciiLower n == Decimal.asciiLower t

/-- The value a text names, blanks trimmed and ASCII case ignored; otherwise the set's error,
showing the text as given. -/
def parse (s : String) : Except Error α :=
  let t := Text.trim s
  match (all : List α).find? fun v => names v t with
  | some v => .ok v
  | none => .error ((Error.ofKind (invalid α)).withReceived (Text.quoted s))

end Tagged

/-- How the terms of an analyzed query combine. -/
inductive Operator where
  | and | or
  deriving DecidableEq, Repr, Inhabited

instance : Tagged Operator where
  all := [.and, .or]
  spellings
    | .and => ["AND"] | .or => ["OR"]
  invalid := .invalidOperator

/-- What a full-text query matches when analysis removes every token. -/
inductive ZeroTerms where
  | none | all
  deriving DecidableEq, Repr, Inhabited

instance : Tagged ZeroTerms where
  all := [.none, .all]
  spellings
    | .none => ["none"] | .all => ["all"]
  invalid := .invalidZeroTermQuery

/-- How a range query treats indexed ranges. -/
inductive Relation where
  | intersects | contains | within
  deriving DecidableEq, Repr, Inhabited

instance : Tagged Relation where
  all := [.intersects, .contains, .within]
  spellings
    | .intersects => ["INTERSECTS"] | .contains => ["CONTAINS"] | .within => ["WITHIN"]
  invalid := .invalidRelation

/-- Scoring algorithm of a text field. -/
inductive Similarity where
  | bm25 | boolean
  deriving DecidableEq, Repr, Inhabited

instance : Tagged Similarity where
  all := [.bm25, .boolean]
  spellings
    | .bm25 => ["BM25"] | .boolean => ["boolean"]
  invalid := .invalidSimilarity

/-- What a text field records in its index. -/
inductive IndexOptions where
  | docs | freqs | positions | offsets
  deriving DecidableEq, Repr, Inhabited

instance : Tagged IndexOptions where
  all := [.docs, .freqs, .positions, .offsets]
  spellings
    | .docs => ["docs"] | .freqs => ["freqs"] | .positions => ["positions"]
    | .offsets => ["offsets"]
  invalid := .invalidIndexOptions

/-- Vertex order of polygons. -/
inductive Orientation where
  | right | left
  deriving DecidableEq, Repr, Inhabited

instance : Tagged Orientation where
  all := [.right, .left]
  spellings
    | .right => ["right", "ccw", "counterclockwise"] | .left => ["left", "cw", "clockwise"]
  invalid := .invalidOrientation

/-- Term vectors stored for a text field. -/
inductive TermVector where
  | no | yes | withPositions | withOffsets | withPositionsOffsets | withPositionsPayloads
  | withPositionsOffsetsPayloads
  deriving DecidableEq, Repr, Inhabited

instance : Tagged TermVector where
  all := [.no, .yes, .withPositions, .withOffsets, .withPositionsOffsets, .withPositionsPayloads,
    .withPositionsOffsetsPayloads]
  spellings
    | .no => ["no"] | .yes => ["yes"] | .withPositions => ["with_positions"]
    | .withOffsets => ["with_offsets"] | .withPositionsOffsets => ["with_positions_offsets"]
    | .withPositionsPayloads => ["with_positions_payloads"]
    | .withPositionsOffsetsPayloads => ["with_positions_offsets_payloads"]
  invalid := .invalidTermVector

/-- How a function score combines with the query score. -/
inductive BoostMode where
  | multiply | replace | sum | avg | max | min
  deriving DecidableEq, Repr, Inhabited

instance : Tagged BoostMode where
  all := [.multiply, .replace, .sum, .avg, .max, .min]
  spellings
    | .multiply => ["multiply"] | .replace => ["replace"] | .sum => ["sum"]
    | .avg => ["avg"] | .max => ["max"] | .min => ["min"]
  invalid := .invalidBoostMode

/-- How the scores of several functions combine. -/
inductive ScoreMode where
  | multiply | sum | avg | first | max | min
  deriving DecidableEq, Repr, Inhabited

instance : Tagged ScoreMode where
  all := [.multiply, .sum, .avg, .first, .max, .min]
  spellings
    | .multiply => ["multiply"] | .sum => ["sum"] | .avg => ["avg"] | .first => ["first"]
    | .max => ["max"] | .min => ["min"]
  invalid := .invalidScoreMode

/-- Function applied to a field value before it scores. -/
inductive Modifier where
  | none | log | log1p | log2p | ln | ln1p | ln2p | square | sqrt | reciprocal
  deriving DecidableEq, Repr, Inhabited

instance : Tagged Modifier where
  all := [.none, .log, .log1p, .log2p, .ln, .ln1p, .ln2p, .square, .sqrt, .reciprocal]
  spellings
    | .none => ["none"] | .log => ["log"] | .log1p => ["log1p"] | .log2p => ["log2p"]
    | .ln => ["ln"] | .ln1p => ["ln1p"] | .ln2p => ["ln2p"] | .square => ["square"]
    | .sqrt => ["sqrt"] | .reciprocal => ["reciprocal"]
  invalid := .invalidModifier

/-- Handling of fields a mapping does not name. -/
inductive Dynamic where
  | on | off | strict | runtime
  deriving DecidableEq, Repr, Inhabited

instance : Tagged Dynamic where
  all := [.on, .off, .strict, .runtime]
  spellings
    | .on => ["true"] | .off => ["false"] | .strict => ["strict"] | .runtime => ["runtime"]
  invalid := .invalidDynamic

def Dynamic.toJson : Dynamic → Json
  | .on => .bool true
  | .off => .bool false
  | d => .str (Tagged.tag d)

/-- Execution strategy of a multi-field match. -/
inductive MultiMatchType where
  | bestFields | mostFields | crossFields | phrase | phrasePrefix | boolPrefix
  deriving DecidableEq, Repr, Inhabited

instance : Tagged MultiMatchType where
  all := [.bestFields, .mostFields, .crossFields, .phrase, .phrasePrefix, .boolPrefix]
  spellings
    | .bestFields => ["best_fields"] | .mostFields => ["most_fields"]
    | .crossFields => ["cross_fields"] | .phrase => ["phrase"]
    | .phrasePrefix => ["phrase_prefix"] | .boolPrefix => ["bool_prefix"]
  invalid := .invalidMultiMatchType

/-- Relation between a query shape and indexed shapes. -/
inductive SpatialRelation where
  | intersects | disjoint | within | contains
  deriving DecidableEq, Repr, Inhabited

instance : Tagged SpatialRelation where
  all := [.intersects, .disjoint, .within, .contains]
  spellings
    | .intersects => ["intersects"] | .disjoint => ["disjoint"] | .within => ["within"]
    | .contains => ["contains"]
  invalid := .invalidSpatialRelation

/-- How a multi-term query is rewritten; the `topTerms` methods keep a number of terms. -/
inductive Rewrite where
  | constantScore | constantScoreBoolean | scoringBoolean
  | topTermsBlendedFreqs (n : Nat) | topTermsBoost (n : Nat) | topTerms (n : Nat)
  deriving DecidableEq, Repr, Inhabited

namespace Rewrite

/-- The tag of a rewrite method, the term count written as a suffix. -/
def tag : Rewrite → String
  | constantScore => "constant_score"
  | constantScoreBoolean => "constant_score_boolean"
  | scoringBoolean => "scoring_boolean"
  | topTermsBlendedFreqs n => "top_terms_blended_freqs_" ++ toString n
  | topTermsBoost n => "top_terms_boost_" ++ toString n
  | topTerms n => "top_terms_" ++ toString n

def sized : List (String × (Nat → Rewrite)) :=
  [("top_terms_blended_freqs_", topTermsBlendedFreqs), ("top_terms_boost_", topTermsBoost),
    ("top_terms_", topTerms)]

/-- The rewrite method a text names, blanks trimmed and ASCII case ignored. A text that starts
with a sized prefix must end in a 32-bit count. -/
def parse (s : String) : Except Error Rewrite :=
  let invalid : Error := (Error.ofKind .invalidRewrite).withReceived (Text.quoted s)
  let t := Decimal.asciiLower (Text.trim s)
  if t = "constant_score" then .ok constantScore
  else if t = "constant_score_boolean" then .ok constantScoreBoolean
  else if t = "scoring_boolean" then .ok scoringBoolean
  else
    match sized.find? fun p => t.startsWith p.1 with
    | some (p, mk) =>
      match Decimal.parseU32? (String.ofList (t.toList.drop p.length)) with
      | some n => .ok (mk n)
      | none => .error invalid
    | none => .error invalid

end Rewrite

end SearchDsl

namespace SearchDsl

def QueryKind.parse (s : String) : Except Error QueryKind :=
  match QueryKind.ofTag? s with
  | some k => .ok k
  | none => .error ((Error.ofKind .unsupportedKind).withReceived (Text.quoted s))

def FieldType.parse (s : String) : Except Error FieldType :=
  match FieldType.ofTag? s with
  | some t => .ok t
  | none => .error ((Error.ofKind .invalidType).withReceived (Text.quoted s))

end SearchDsl
