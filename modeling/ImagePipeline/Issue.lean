namespace ImagePipeline

inductive Complaint where
  | malformedJson
  | notAnObject
  | missing
  | notText
  | emptyText
  | notOneOf (choices : List String)
  | notAnInteger
  | unreadableInteger
  | fractionalInteger
  | oversizedInteger
  | infiniteNumber
  | notABoolean
  | unreadableBoolean
  | notANumber
  | unreadableNumber
  | notAList
  | notAFile (received : String)
  deriving DecidableEq, Inhabited

namespace Complaint

def code : Complaint → String
  | malformedJson => "json_invalid"
  | notAnObject => "model_type"
  | missing => "missing"
  | notText => "string_type"
  | emptyText => "string_too_short"
  | notOneOf _ => "enum"
  | notAnInteger => "int_type"
  | unreadableInteger => "int_parsing"
  | fractionalInteger => "int_from_float"
  | oversizedInteger => "int_parsing_size"
  | infiniteNumber => "finite_number"
  | notABoolean => "bool_type"
  | unreadableBoolean => "bool_parsing"
  | notANumber => "float_type"
  | unreadableNumber => "float_parsing"
  | notAList => "list_type"
  | notAFile _ => "value_error"

def alternatives : List String → String
  | [] => ""
  | [only] => only
  | [first, last] => first ++ " or " ++ last
  | first :: rest => first ++ ", " ++ alternatives rest

def message : Complaint → String
  | malformedJson => "Invalid JSON"
  | notAnObject => "Input should be an object"
  | missing => "Field required"
  | notText => "Input should be a valid string"
  | emptyText => "String should have at least 1 character"
  | notOneOf choices => "Input should be " ++ alternatives (choices.map fun c => "'" ++ c ++ "'")
  | notAnInteger => "Input should be a valid integer"
  | unreadableInteger => "Input should be a valid integer, unable to parse string as an integer"
  | fractionalInteger => "Input should be a valid integer, got a number with a fractional part"
  | oversizedInteger => "Unable to parse input string as an integer, exceeded maximum size"
  | infiniteNumber => "Input should be a finite number"
  | notABoolean => "Input should be a valid boolean"
  | unreadableBoolean => "Input should be a valid boolean, unable to interpret input"
  | notANumber => "Input should be a valid number"
  | unreadableNumber => "Input should be a valid number, unable to parse string as a number"
  | notAList => "Input should be a valid list"
  | notAFile received => "Value error, Expected UploadFile, received: " ++ received

end Complaint

inductive Place where
  | member (name : String)
  | item (index : Nat)
  deriving DecidableEq, Inhabited

namespace Place

def text : Place → String
  | member name => name
  | item index => toString index

end Place

structure Issue where
  complaint : Complaint
  location : List Place
  deriving DecidableEq, Inhabited

namespace Issue

def inside (name : String) (issue : Issue) : Issue :=
  { issue with location := .member name :: issue.location }

end Issue

end ImagePipeline
