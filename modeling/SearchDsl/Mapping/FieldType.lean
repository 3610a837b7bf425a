/-!
Field types of an index mapping and the parameters a mapping may carry. Each type accepts a
fixed list of parameters, which is also the order in which a mapping of that type writes them.
-/

namespace SearchDsl

/-- The `type` of a field mapping. -/
inductive FieldType where
  | text | keyword | constantKeyword | wildcard | long | integer | short | byte | double | float
  | halfFloat | scaledFloat | unsignedLong | date | dateNanos | boolean | binary | ip | geoPoint
  | geoShape | point | shape | object | nested | join | flattened | denseVector | rankFeature
  | rankFeatures | completion | searchAsYouType | tokenCount | integerRange | floatRange
  | longRange | doubleRange | dateRange | ipRange | histogram | fieldAlias | percolator
  deriving DecidableEq, Repr, Inhabited

/-- A parameter of a field mapping, named by its key. -/
inductive MappingParam where
  | analyzer | searchAnalyzer | searchQuoteAnalyzer | normalizer | boost | coerce | copyTo
  | docValues | dims | depthLimit | dynamic | eagerGlobalOrdinals | enabled | fields | format
  | ignoreAbove | ignoreMalformed | ignoreZValue | index | indexOptions | maxInputLength
  | maxShingleSize | metadata | norms | nullValue | orientation | path | positionIncrementGap
  | positiveScoreImpact | preservePositionIncrements | preserveSeparators | properties
  | relations | scalingFactor | similarity | splitQueriesOnWhitespace | store | termVector | value
  deriving DecidableEq, Repr, Inhabited

namespace FieldType

def all : List FieldType :=
  [text, keyword, constantKeyword, wildcard, long, integer, short, byte, double, float, halfFloat,
    scaledFloat, unsignedLong, date, dateNanos, boolean, binary, ip, geoPoint, geoShape, point,
    shape, object, nested, join, flattened, denseVector, rankFeature, rankFeatures, completion,
    searchAsYouType, tokenCount, integerRange, floatRange, longRange, doubleRange, dateRange,
    ipRange, histogram, fieldAlias, percolator]

def tag : FieldType → String
  | text => "text" | keyword => "keyword" | constantKeyword => "constant_keyword"
  | wildcard => "wildcard" | long => "long" | integer => "integer" | short => "short"
  | byte => "byte" | double => "double" | float => "float" | halfFloat => "half_float"
  | scaledFloat => "scaled_float" | unsignedLong => "unsigned_long" | date => "date"
  | dateNanos => "date_nanos" | boolean => "boolean" | binary => "binary" | ip => "ip"
  | geoPoint => "geo_point" | geoShape => "geo_shape" | point => "point" | shape => "shape"
  | object => "object" | nested => "nested" | join => "join" | flattened => "flattened"
  | denseVector => "dense_vector" | rankFeature => "rank_feature"
  | rankFeatures => "rank_features" | completion => "completion"
  | searchAsYouType => "search_as_you_type" | tokenCount => "token_count"
  | integerRange => "integer_range" | floatRange => "float_range" | longRange => "long_range"
  | doubleRange => "double_range" | dateRange => "date_range" | ipRange => "ip_range"
  | histogram => "histogram" | fieldAlias => "alias" | percolator => "percolator"

def ofTag? (s : String) : Option FieldType := all.find? fun t => t.tag = s

theorem ofTag?_tag (t : FieldType) : ofTag? t.tag = some t := by
  cases t <;> rfl

end FieldType

namespace MappingParam

def all : List MappingParam :=
  [analyzer, searchAnalyzer, searchQuoteAnalyzer, normalizer, boost, coerce, copyTo, docValues,
    dims, depthLimit, dynamic, eagerGlobalOrdinals, enabled, fields, format, ignoreAbove,
    ignoreMalformed, ignoreZValue, index, indexOptions, maxInputLength, maxShingleSize, metadata,
    norms, nullValue, orientation, path, positionIncrementGap, positiveScoreImpact,
    preservePositionIncrements, preserveSeparators, properties, relations, scalingFactor,
    similarity, splitQueriesOnWhitespace, store, termVector, value]

def key : MappingParam → String
  | analyzer => "analyzer" | searchAnalyzer => "search_analyzer"
  | searchQuoteAnalyzer => "search_quote_analyzer" | normalizer => "normalizer"
  | boost => "boost" | coerce => "coerce" | copyTo => "copy_to" | docValues => "doc_values"
  | dims => "dims" | depthLimit => "depth_limit" | dynamic => "dynamic"
  | eagerGlobalOrdinals => "eager_global_ordinals" | enabled => "enabled" | fields => "fields"
  | format => "format" | ignoreAbove => "ignore_above" | ignoreMalformed => "ignore_malformed"
  | ignoreZValue => "ignore_z_value" | index => "index" | indexOptions => "index_options"
  | maxInputLength => "max_input_length" | maxShingleSize => "max_shingle_size"
  | metadata => "meta" | norms => "norms" | nullValue => "null_value"
  | orientation => "orientation" | path => "path"
  | positionIncrementGap => "position_increment_gap"
  | positiveScoreImpact => "positive_score_impact"
  | preservePositionIncrements => "preserve_position_increments"
  | preserveSeparators => "preserve_separators" | properties => "properties"
  | relations => "relations" | scalingFactor => "scaling_factor" | similarity => "similarity"
  | splitQueriesOnWhitespace => "split_queries_on_whitespace" | store => "store"
  | termVector => "term_vector" | value => "value"

def ofKey? (s : String) : Option MappingParam := all.find? fun p => p.key = s

theorem ofKey?_key (p : MappingParam) : ofKey? p.key = some p := by
  cases p <;> rfl

end MappingParam

namespace FieldType

open MappingParam

/-- The parameters a field type accepts, in the order its mappings write them. -/
def params : FieldType → List MappingParam
  | text =>
    [analyzer, searchAnalyzer, searchQuoteAnalyzer, boost, copyTo, eagerGlobalOrdinals, fields,
      index, indexOptions, norms, positionIncrementGap, similarity, store, termVector, metadata]
  | keyword =>
    [normalizer, boost, copyTo, docValues, eagerGlobalOrdinals, fields, ignoreAbove, index,
      indexOptions, norms, nullValue, similarity, splitQueriesOnWhitespace, store, metadata]
  | constantKeyword => [value, metadata]
  | wildcard => [copyTo, ignoreAbove, nullValue, fields]
  | long | integer | short | byte | double | float | halfFloat | unsignedLong =>
    [coerce, boost, copyTo, docValues, fields, ignoreMalformed, index, nullValue, store, metadata]
  | scaledFloat =>
    [scalingFactor, coerce, boost, copyTo, docValues, fields, ignoreMalformed, index, nullValue,
      store, metadata]
  | date | dateNanos =>
    [format, boost, copyTo, docValues, fields, ignoreMalformed, index, nullValue, store, metadata]
  | boolean => [boost, copyTo, docValues, fields, index, nullValue, store, metadata]
  | binary => [docValues, store]
  | ip => [boost, copyTo, docValues, fields, ignoreMalformed, index, nullValue, store, metadata]
  | geoPoint =>
    [copyTo, docValues, ignoreMalformed, ignoreZValue, index, nullValue, metadata]
  | geoShape | shape => [orientation, coerce, ignoreMalformed, ignoreZValue, metadata]
  | point => [ignoreMalformed, ignoreZValue, nullValue, metadata]
  | object => [dynamic, enabled, properties]
  | nested => [dynamic, properties]
  | join => [relations, eagerGlobalOrdinals]
  | flattened =>
    [boost, depthLimit, docValues, eagerGlobalOrdinals, ignoreAbove, index, indexOptions,
      nullValue, similarity, splitQueriesOnWhitespace, properties, metadata]
  | denseVector => [dims, metadata]
  | rankFeature | rankFeatures => [positiveScoreImpact, metadata]
  | completion =>
    [analyzer, searchAnalyzer, preserveSeparators, preservePositionIncrements, maxInputLength,
      metadata]
  | searchAsYouType =>
    [maxShingleSize, analyzer, searchAnalyzer, searchQuoteAnalyzer, copyTo, index, indexOptions,
      norms, similarity, store, termVector, metadata]
  | tokenCount => [analyzer, boost, docValues, fields, index, nullValue, store, metadata]
  | integerRange | floatRange | longRange | doubleRange | ipRange =>
    [coerce, boost, docValues, index, store, metadata]
  | dateRange => [format, coerce, boost, docValues, index, store, metadata]
  | histogram => [metadata]
  | fieldAlias => [path]
  | percolator => []

def supports (t : FieldType) (p : MappingParam) : Bool := t.params.contains p

def isContainer (t : FieldType) : Bool := t.supports .properties

end FieldType

end SearchDsl
