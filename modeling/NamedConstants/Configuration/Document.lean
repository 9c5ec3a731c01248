import NamedConstants.Configuration.Basic
import NamedConstants.Configuration.Substitution
import NamedConstants.Toml.Reader

/-!
# Reading a configuration

A configuration is written as a TOML document. A key that is missing leaves its
setting at the default, a key that is unknown is passed over, and a value of
another class than its setting is refused. A group of settings may also be
given as an array, in the order of its keys.
-/

set_option autoImplicit false

namespace NamedConstants

namespace Toml

/-- The truth value of a setting, or its default. -/
def boolean? (absent : Bool) : Option Toml → Option Bool
  | none => some absent
  | some (.boolean value) => some value
  | some _ => none

/-- The text of a value. -/
def text? : Toml → Option String
  | .string text => some text
  | _ => none

/-- The texts of an array. -/
def texts? : Toml → Option (List String)
  | .array items => items.mapM text?
  | _ => none

/-- The values of the given keys. An array gives them in order; a date is a
group without any of them. -/
def group? (keys : List String) : Toml → Option (List (Option Toml))
  | .table _ members => some (keys.map (Members.find? members))
  | .array items => some ((List.range keys.length).map fun position => items[position]?)
  | .tables items =>
    some ((List.range keys.length).map fun position => items[position]?.map (.table .header))
  | .date => some (keys.map fun _ => none)
  | _ => none

/-- The choice of a representation: its name, alone or as the key of something
empty. -/
def representation? : Toml → Option Representation
  | .string name => ofName? name
  | .table _ [(name, .table _ [])] => ofName? name
  | .table _ [(name, .array [])] => ofName? name
  | _ => none
where
  ofName? : String → Option Representation
    | "name" => some .byName
    | "value" => some .byValue
    | _ => none

/-- The enabled surfaces of a family. -/
def handlers? (value : Toml) : Option Handlers := do
  match ← group? ["json", "text", "binary", "yaml", "sql"] value with
  | [json, text, binary, yaml, sql] =>
    return ⟨← boolean? false json, ← boolean? false text, ← boolean? false binary,
      ← boolean? false yaml, ← boolean? false sql⟩
  | _ => none

/-- The options of a type. -/
def options? (typeName : String) (value : Toml) : Option Options := do
  match ← group? ["uppercase_fields", "generate_name_constants", "handlers", "serde"] value with
  | [uppercaseFields, nameConstants, handlers, representation] =>
    return {
      typeName
      uppercaseFields := ← boolean? false uppercaseFields
      nameConstants := ← boolean? false nameConstants
      handlers := ← handlers.elim (some .none) handlers?
      representation := ← representation.elim (some .byName) representation? }
  | _ => none

/-- The options of several types. -/
def types? : Toml → Option (List (String × Options))
  | .table _ members =>
    members.mapM fun (typeName, value) => (options? typeName value).map fun o => (typeName, o)
  | _ => none

/-- The settings of a document. -/
def configuration? (members : Members) : Option Configuration := do
  return {
    failfast := ← boolean? false (members.find? "failfast")
    insensitive := ← boolean? false (members.find? "insensitive")
    verbose := ← boolean? false (members.find? "verbose")
    outputSuffix := ←
      (members.find? "output_suffix").elim (some Configuration.default.outputSuffix) text?
    filenames := ← (members.find? "filenames").elim (some []) texts?
    types := ← (members.find? "types").elim (some []) types? }

end Toml

namespace Configuration

/-- Replaces the variables in the file names and the suffix, and checks the
suffix. -/
def resolve (environment : Environment) (configuration : Configuration) : Result Configuration := do
  let filenames ← configuration.filenames.mapM (substitute environment)
  let outputSuffix ← substitute environment configuration.outputSuffix
  checkSuffix outputSuffix
  return { configuration with filenames, outputSuffix }

/-- The configuration that a text writes down. -/
def ofText (environment : Environment) (text : String) : Result Configuration :=
  match (Toml.ofText? text.toList).bind Toml.configuration? with
  | some configuration => configuration.resolve environment
  | none => .error (.unreadableConfiguration "the text is no configuration")

/-- The variables that the settings of a text refer to. -/
def referredVariables (text : String) : List String :=
  match (Toml.ofText? text.toList).bind Toml.configuration? with
  | some configuration =>
    (configuration.outputSuffix :: configuration.filenames).flatMap fun setting =>
      (Reference.all setting.toList).map fun reference => String.ofList reference.name
  | none => []

end Configuration

end NamedConstants
