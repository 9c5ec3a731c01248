import NamedConstants.Kind
import NamedConstants.Text.Quoted

/-!
# Failures

What can go wrong, as causes: each constructor says what was met and holds the
parts of the message. `Failure.message` is the only place where messages are
worded. A failure may be wrapped in the description of the operation it
interrupted; its root is what remains without the wrappers.
-/

set_option autoImplicit false

namespace NamedConstants

/-- Why a text could not be read as a scalar. -/
inductive Reason
  | emptyInteger
  | invalidDigit
  | tooLarge
  | tooSmall
  | emptyFloat
  | invalidFloat
  | outOfRange
  | invalidBool
  | notUtf8 (fault : Text.Utf8Fault)
  | endOfInput
  | invalidCharacters
  | impossibleTime
  | trailingInput
  | other (text : String)
  deriving DecidableEq, Repr

/-- The wording of a reason. -/
def Reason.text : Reason → String
  | emptyInteger => "cannot parse integer from empty string"
  | invalidDigit => "invalid digit found in string"
  | tooLarge => "number too large to fit in target type"
  | tooSmall => "number too small to fit in target type"
  | emptyFloat => "cannot parse float from empty string"
  | invalidFloat => "invalid float literal"
  | outOfRange => "value out of range"
  | invalidBool => "invalid syntax"
  | notUtf8 (.invalid length position) =>
    "invalid utf-8 sequence of " ++ toString length ++ " bytes from index " ++ toString position
  | notUtf8 (.incomplete position) =>
    "incomplete utf-8 byte sequence from index " ++ toString position
  | endOfInput => "premature end of input"
  | invalidCharacters => "input contains invalid characters"
  | impossibleTime => "input is out of range"
  | trailingInput => "trailing input"
  | other text => text

/-- What went wrong. -/
inductive Failure
  /-- The text is not written as a scalar of the kind. -/
  | unreadable (input : String) (kind : Kind) (reason : Reason)
  /-- Fewer bytes than the fixed form of the kind has. -/
  | insufficientData (kind : Kind) (needed got : Nat)
  /-- No bytes at all. -/
  | emptyData (kind : Kind)
  /-- The kinds do not convert into each other. -/
  | unsupportedConversion (source : String) (target : Kind)
  /-- Nothing converts into the kind. -/
  | unsupportedTarget (kind : String)
  /-- The number does not fit the kind. -/
  | overflow (value : String) (kind : Kind)
  /-- No member answers to the input. -/
  | unknownConstant (input : String)
  /-- There is no value. -/
  | nilValue
  /-- A structured node could not be decoded. -/
  | node (detail : String)
  /-- The description of the operation that failed. -/
  | context (description : String) (cause : Failure)
  /-- The text is not the JSON that was asked for. -/
  | json (detail : String)
  /-- A file operation failed. -/
  | io (detail : String)
  /-- A source file does not parse. -/
  | sourceText (file detail : String)
  /-- A piece of source text does not parse. -/
  | grammar (detail : String)
  /-- A directive asks for something impossible. -/
  | directive (detail : String)
  /-- The source declares no family. -/
  | noFamilies (file : String)
  /-- The path names no place for a companion. -/
  | invalidPath (path : String)
  /-- The configuration is unusable. -/
  | configuration (detail : String)
  /-- The configuration file is no valid configuration or cannot be read. -/
  | unreadableConfiguration (detail : String)
  /-- A variable of the environment is missing. -/
  | variableNotSet (name : String)
  /-- A pattern is not a regular expression. -/
  | pattern (detail : String)
  deriving Repr

namespace Failure

/-- The message of a failure. -/
def message : Failure → String
  | unreadable input kind reason =>
    "cannot parse " ++ Text.quotedString input ++ " as " ++ kind.name ++ ": " ++ reason.text
  | insufficientData kind needed got =>
    "insufficient data for " ++ kind.name ++ ": need " ++ toString needed ++ " bytes, got " ++
      toString got
  | emptyData kind => "empty binary data for " ++ kind.name
  | unsupportedConversion source target => "cannot convert " ++ source ++ " to " ++ target.name
  | unsupportedTarget kind => "unsupported target kind: " ++ kind
  | overflow value kind => "value " ++ value ++ " overflows " ++ kind.name
  | unknownConstant input => "unknown constants " ++ input
  | nilValue => "nil value"
  | node detail => "structured node error: " ++ detail
  | context description cause => description ++ ": " ++ cause.message
  | json detail => "JSON error: " ++ detail
  | io detail => "IO error: " ++ detail
  | sourceText file detail => "Parse error in file " ++ file ++ ": " ++ detail
  | grammar detail => "Syn parse error: " ++ detail
  | directive detail => "Invalid annotation: " ++ detail
  | noFamilies file => "No enums found in " ++ file
  | invalidPath path => "Invalid output path: " ++ path
  | configuration detail => "Configuration error: " ++ detail
  | unreadableConfiguration detail => "Configuration error: " ++ detail
  | variableNotSet name => "Environment variable not set: " ++ name
  | pattern detail => "Invalid regex pattern: " ++ detail

/-- The failure without the descriptions around it. -/
def root : Failure → Failure
  | context _ cause => cause.root
  | failure => failure

/-- No member answers to the input. -/
def isUnknownConstant (failure : Failure) : Bool :=
  match failure.root with
  | unknownConstant _ => true
  | _ => false

end Failure

/-- A computation that may fail. -/
abbrev Result (α : Type) := Except Failure α

/-- Describes the operation in which a failure occurred. -/
def Result.describe {α : Type} (description : String) (result : Result α) : Result α :=
  result.mapError (.context description)

end NamedConstants
