/-!
# New configurations

The texts that a new configuration file starts with. Both say what holds
without a configuration.
-/

set_option autoImplicit false

namespace NamedConstants.CommandLine

/-- The shortest configuration. -/
def minimalTemplate : String := "filenames = []\n"

/-- The lines of the configuration that explains every setting. -/
def templateLines : List String := [
  "# enumforge configuration",
  "",
  "# Source files or directories to generate for when none are given on the",
  "# command line. $\x7bVAR\x7d and $\x7bVAR:-default\x7d are substituted.",
  "filenames = []",
  "",
  "# Make generated `parse` fail on unknown input instead of returning the",
  "# invalid sentinel.",
  "failfast = false",
  "",
  "# Also accept lower-cased names and aliases.",
  "insensitive = false",
  "",
  "# Print a line per generated file.",
  "verbose = false",
  "",
  "# Companion files are written next to their source as <stem><suffix>.rs.",
  "output_suffix = \"_enums\"",
  "",
  "# Options for type aliases without an `enumforge:` annotation.",
  "# [types.Status]",
  "# serde = \"name\"                  # or \"value\"",
  "# uppercase_fields = false",
  "# generate_name_constants = false",
  "# handlers = \x7b json = true, text = true, binary = false, yaml = false, sql = false \x7d"]

/-- The configuration that explains every setting. -/
def fullTemplate : String := String.join (templateLines.map (· ++ "\n"))

end NamedConstants.CommandLine
