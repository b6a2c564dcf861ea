import CallAttribution.Text.Basic

/-!
# Reports on refused documents

A document that does not have the expected shape is refused with every problem found in it, each
with the place where it stands. A report shows the number of problems, the name of the expected
shape, and for each problem its place and its description.
-/

namespace CallAttribution.Schema

inductive Problem where
  | missing
  | notText
  | emptyText
  | notInteger
  | malformedInteger
  | fractional
  | oversizedInteger
  | notFinite
  | notTruth
  | malformedTruth
  | below (bound : Int)
  | above (bound : Int)
  | notTable
  | notTuple
  | notRecord (name : String)
  | unexpected
  /-- A rule of the domain is broken. -/
  | rule (description : String)
  deriving DecidableEq

def Problem.kind : Problem → String
  | .missing => "missing"
  | .notText => "string_type"
  | .emptyText => "string_too_short"
  | .notInteger => "int_type"
  | .malformedInteger => "int_parsing"
  | .fractional => "int_from_float"
  | .oversizedInteger => "int_parsing_size"
  | .notFinite => "finite_number"
  | .notTruth => "bool_type"
  | .malformedTruth => "bool_parsing"
  | .below _ => "greater_than_equal"
  | .above _ => "less_than_equal"
  | .notTable => "dict_type"
  | .notTuple => "tuple_type"
  | .notRecord _ => "model_type"
  | .unexpected => "extra_forbidden"
  | .rule _ => "value_error"

def Problem.message : Problem → String
  | .missing => "Field required"
  | .notText => "Input should be a valid string"
  | .emptyText => "String should have at least 1 character"
  | .notInteger => "Input should be a valid integer"
  | .malformedInteger => "Input should be a valid integer, unable to parse string as an integer"
  | .fractional => "Input should be a valid integer, got a number with a fractional part"
  | .oversizedInteger => "Unable to parse input string as an integer, exceeded maximum size"
  | .notFinite => "Input should be a finite number"
  | .notTruth => "Input should be a valid boolean"
  | .malformedTruth => "Input should be a valid boolean, unable to interpret input"
  | .below bound => "Input should be greater than or equal to " ++ Text.showInt bound
  | .above bound => "Input should be less than or equal to " ++ Text.showInt bound
  | .notTable => "Input should be a valid dictionary"
  | .notTuple => "Input should be a valid tuple"
  | .notRecord name => "Input should be a valid dictionary or instance of " ++ name
  | .unexpected => "Extra inputs are not permitted"
  | .rule description => "Value error, " ++ description

/-- A problem and its place: the keys and positions that lead to it from the whole document. -/
structure Issue where
  place : List String
  problem : Problem
  deriving DecidableEq

/-- A part of a place; one that contains a point is set between grave accents. -/
def showPart (part : String) : String :=
  if part.toList.contains '.' then "\x60" ++ part ++ "\x60" else part

/-- The lines of an issue. A problem of the whole document has no line for its place. The offending
value, shown behind the kind of the problem, is left out. -/
def Issue.lines (i : Issue) : List String :=
  let description := "  " ++ i.problem.message ++ " [type=" ++ i.problem.kind ++ "]"
  if i.place.isEmpty then [description]
  else [".".intercalate (i.place.map showPart), description]

structure Report where
  shape : String
  issues : List Issue
  deriving DecidableEq

def Report.message (r : Report) : String :=
  let count := r.issues.length
  let noun := if count = 1 then " validation error for " else " validation errors for "
  "\n".intercalate ((Text.showNat count ++ noun ++ r.shape) :: r.issues.flatMap Issue.lines)

end CallAttribution.Schema
