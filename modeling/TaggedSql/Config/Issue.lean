/-
  What is wrong with a field of a configuration.

  An issue says where it is, as a path of field names and numbers, and of which kind it is.
-/
import TaggedSql.Value

namespace TaggedSql.Config

/-- A step of the path to a faulty place. -/
inductive Place where
  | field (name : String)
  | key (number : Int)
  deriving DecidableEq, Repr

/-- The kinds of issues. -/
inductive IssueKind where
  | missing
  | stringType
  | stringTooShort
  | stringEncoding
  | boolType
  | boolContent
  | mappingType
  | unknownField
  | frozen
  deriving DecidableEq, Repr

/-- The name of a kind of issues. -/
def IssueKind.name : IssueKind → String
  | missing => "missing"
  | stringType => "string_type"
  | stringTooShort => "string_too_short"
  | stringEncoding => "string_unicode"
  | boolType => "bool_type"
  | boolContent => "bool_parsing"
  | mappingType => "dict_type"
  | unknownField => "extra_forbidden"
  | frozen => "frozen_instance"

/-- Something wrong at a place. -/
structure Issue where
  path : List Place
  kind : IssueKind
  deriving DecidableEq, Repr

end TaggedSql.Config
