import CodeMarkup.ShortNames
import CodeMarkup.Theme

/-!
What can be wrong with the settings of a formatter. Every problem is reported under the key that the
caller used, with a code and a message.
-/

namespace CodeMarkup

inductive NamesError where
  | unusable (shown : String)
  | unknownKind (e : UnknownKind)

def NamesError.message : NamesError → String
  | unusable shown => "short_names must be a mapping of token kinds to names, got " ++ shown
  | unknownKind e => e.message

inductive Problem where
  | notText
  | notLayout
  | unreadableBool
  | notBool
  | unreadableInt
  | longInt
  | fractionalInt
  | infiniteInt
  | notInt
  | theme (e : ThemeError)
  | names (e : NamesError)
  | unknownKey
  | frozen

namespace Problem

def code : Problem → String
  | notText => "string_type"
  | notLayout => "enum"
  | unreadableBool => "bool_parsing"
  | notBool => "bool_type"
  | unreadableInt => "int_parsing"
  | longInt => "int_parsing_size"
  | fractionalInt => "int_from_float"
  | infiniteInt => "finite_number"
  | notInt => "int_type"
  | theme _ => "value_error"
  | names _ => "value_error"
  | unknownKey => "extra_forbidden"
  | frozen => "frozen_instance"

def message : Problem → String
  | notText => "Input should be a valid string"
  | notLayout => "Input should be 'table' or 'div'"
  | unreadableBool => "Input should be a valid boolean, unable to interpret input"
  | notBool => "Input should be a valid boolean"
  | unreadableInt => "Input should be a valid integer, unable to parse string as an integer"
  | longInt => "Unable to parse input string as an integer, exceeded maximum size"
  | fractionalInt => "Input should be a valid integer, got a number with a fractional part"
  | infiniteInt => "Input should be a finite number"
  | notInt => "Input should be a valid integer"
  | theme e => "Value error, " ++ e.message
  | names e => "Value error, " ++ e.message
  | unknownKey => "Extra inputs are not permitted"
  | frozen => "Instance is frozen"

end Problem

end CodeMarkup
