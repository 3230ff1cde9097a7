/-!
# Issues

An issue says what is wrong with a part of a value and where that part is.
-/

namespace StoryGraph

inductive Fault where
  | stringType
  | stringTooShort
  | intType
  | intParsing
  | intParsingSize
  | intFromFloat
  | finiteNumber
  | greaterThanEqual
  | lessThanEqual
  | floatType
  | floatParsing
  | boolType
  | boolParsing
  | enum
  | dictType
  | listType
  | setType
  | tupleType
  | tooLong
  | missing
  | extraForbidden
  | modelType
  | modelAttributesType
  | unionTagNotFound
  | unionTagInvalid
  | datetimeType
  | datetimeParsing
  | datetimeFromDateParsing
  | noSuchAttribute
  | invalidKey
  deriving DecidableEq

/-- The word for a fault in answers. -/
def Fault.word : Fault → String
  | stringType => "string_type"
  | stringTooShort => "string_too_short"
  | intType => "int_type"
  | intParsing => "int_parsing"
  | intParsingSize => "int_parsing_size"
  | intFromFloat => "int_from_float"
  | finiteNumber => "finite_number"
  | greaterThanEqual => "greater_than_equal"
  | lessThanEqual => "less_than_equal"
  | floatType => "float_type"
  | floatParsing => "float_parsing"
  | boolType => "bool_type"
  | boolParsing => "bool_parsing"
  | enum => "enum"
  | dictType => "dict_type"
  | listType => "list_type"
  | setType => "set_type"
  | tupleType => "tuple_type"
  | tooLong => "too_long"
  | missing => "missing"
  | extraForbidden => "extra_forbidden"
  | modelType => "model_type"
  | modelAttributesType => "model_attributes_type"
  | unionTagNotFound => "union_tag_not_found"
  | unionTagInvalid => "union_tag_invalid"
  | datetimeType => "datetime_type"
  | datetimeParsing => "datetime_parsing"
  | datetimeFromDateParsing => "datetime_from_date_parsing"
  | noSuchAttribute => "no_such_attribute"
  | invalidKey => "invalid_key"

/-- One step from a value to a part of it. -/
inductive Step where
  | key (name : String)
  | index (position : Int)
  deriving DecidableEq

structure Issue where
  fault : Fault
  place : List Step
  deriving DecidableEq

/-- The mark by which a message refers to the issues that travel beside it. -/
def issuesMark : String := "<issues>"

end StoryGraph
