import NamedConstants.Codec.Binary
import NamedConstants.Codec.Driver
import NamedConstants.Codec.Json
import NamedConstants.Codec.Text
import NamedConstants.Main
import NamedConstants.Proofs.BinaryFloat.Conversion
import NamedConstants.Proofs.BinaryFloat.DoubleRounding
import NamedConstants.Proofs.BinaryFloat.FewestDigits
import NamedConstants.Proofs.BinaryFloat.Narrowing
import NamedConstants.Proofs.BinaryFloat.Positional
import NamedConstants.Proofs.BinaryFloat.Reading
import NamedConstants.Proofs.BinaryFloat.Rounding
import NamedConstants.Proofs.BinaryFloat.Shortest
import NamedConstants.Proofs.BinaryFloat.Truncation
import NamedConstants.Proofs.BinaryFloat.Units
import NamedConstants.Proofs.Calendar
import NamedConstants.Proofs.Codec.Agreement
import NamedConstants.Proofs.Codec.ByName
import NamedConstants.Proofs.Codec.ByValue
import NamedConstants.Proofs.Codec.Bytes
import NamedConstants.Proofs.Codec.Floats
import NamedConstants.Proofs.Codec.JsonFloats
import NamedConstants.Proofs.Codec.RoundTrip
import NamedConstants.Proofs.Codec.Scanning
import NamedConstants.Proofs.Codec.WellFormed
import NamedConstants.Proofs.CommandLine.DryRun
import NamedConstants.Proofs.Companion.Field
import NamedConstants.Proofs.Companion.Table
import NamedConstants.Proofs.Configuration.Substitution
import NamedConstants.Proofs.Declaration.Doc
import NamedConstants.Proofs.Declaration.Literals
import NamedConstants.Proofs.Family.Folding
import NamedConstants.Proofs.Family.Lenient
import NamedConstants.Proofs.Family.Lookup
import NamedConstants.Proofs.Family.Numbers
import NamedConstants.Proofs.Family.Resolution
import NamedConstants.Proofs.Family.Table
import NamedConstants.Proofs.Json.Grammar
import NamedConstants.Proofs.Json.Integer
import NamedConstants.Proofs.Json.Number
import NamedConstants.Proofs.Json.Reader
import NamedConstants.Proofs.Json.Regular
import NamedConstants.Proofs.Json.RoundTrip
import NamedConstants.Proofs.Json.String
import NamedConstants.Proofs.Json.Token
import NamedConstants.Proofs.Json.WellFormed
import NamedConstants.Proofs.Node.Numbers
import NamedConstants.Proofs.Node.Values
import NamedConstants.Proofs.Node.Wrappers
import NamedConstants.Proofs.Scalar.Binary
import NamedConstants.Proofs.Scalar.Coercion
import NamedConstants.Proofs.Scalar.Conversion
import NamedConstants.Proofs.Scalar.FixedForm
import NamedConstants.Proofs.Scalar.FixedWidth
import NamedConstants.Proofs.Scalar.FloatRoundTrip
import NamedConstants.Proofs.Scalar.FloatText
import NamedConstants.Proofs.Scalar.IntegerGrammar
import NamedConstants.Proofs.Scalar.IntegerText
import NamedConstants.Proofs.Scalar.Key
import NamedConstants.Proofs.Scalar.Structured
import NamedConstants.Proofs.Scalar.Text
import NamedConstants.Proofs.Scalar.TimestampText
import NamedConstants.Proofs.Text.Blank
import NamedConstants.Proofs.Text.DecimalDigits
import NamedConstants.Proofs.Text.LetterCase
import NamedConstants.Proofs.Text.Utf8
import NamedConstants.Proofs.Text.ValidUtf8
import NamedConstants.Proofs.Timestamp
import NamedConstants.Samples
