import NamedConstants.Scalar.Text

/-!
# Loose coercion

A value of any kind is brought into a wanted kind where that makes sense: text
and bytes are read, truth values count as zero and one, floats lose their
fraction on the way to an integer. A number that does not fit is a failure,
never a wrapped or clamped one.
-/

set_option autoImplicit false

namespace NamedConstants

namespace RawValue

/-- The text of a value that is made of characters. -/
def characters? : RawValue → Option String
  | scalar (.string text) => some text
  | scalar (.bytes bytes) => some (Text.lossyString bytes)
  | _ => none

/-- The failure to convert between two kinds. -/
def unsupported {α : Type} (source : RawValue) (target : Kind) : Result α :=
  .error (.unsupportedConversion source.kindName target)

end RawValue

/-- The bounds of the integers that a text may spell before they are brought
into a kind: those of 128 bits. -/
def wideMinimum : Int := -(twoTo 127 : Nat)

def wideMaximum : Int := (twoTo 127 : Nat) - 1

/-- The whole part of a float, if the kind has it. The bounds of the kind are
compared as floats, so the first number above a bound may pass; the range of the
kind is checked again afterwards. -/
def wholePart (x : Double) (kind : IntegerKind) : Result Int :=
  let whole : Double := .ofInt x.truncate
  if x.isFinite && (BinaryFloat.ofInt kind.minimum).le whole &&
      whole.le (.ofInt kind.maximum) then
    .ok x.truncate
  else .error (.overflow (String.ofList x.toText) (.integer kind))

/-- The integer that a value denotes. -/
def denotedInteger (source : RawValue) (kind : IntegerKind) : Result Int :=
  match source with
  | .scalar (.bool value) => .ok (if value then 1 else 0)
  | .scalar (.float x) => wholePart x.cast kind
  | source =>
    match source.characters? with
    | some text =>
      Scalar.orUnreadable text (.integer kind)
        (IntegerText.read wideMinimum wideMaximum (Text.trim text.toList))
    | none =>
      match source.toInt? with
      | some value => .ok value
      | none => source.unsupported (.integer kind)

/-- A float of 64 bits in a precision; a finite number beyond the range of the
smaller one does not fit. -/
def narrow (x : Double) : (kind : FloatKind) → Result (Scalar (.float kind))
  | .double => .ok (.float x)
  | .single =>
    if x.isFinite && !x.abs.le (BinaryFloat.largest : Single).cast then
      .error (.overflow (String.ofList x.toText) (.float .single))
    else .ok (@Scalar.float .single x.cast)

/-- The float of 64 bits that a value denotes. -/
def denotedFloat (source : RawValue) (kind : FloatKind) : Result Double :=
  match source with
  | .scalar (.float x) => .ok x.cast
  | source =>
    match source.characters? with
    | some text =>
      Scalar.orUnreadable text (.float kind)
        ((BinaryFloat.ofText (Text.trim text.toList)).mapError Scalar.floatReason)
    | none =>
      match source.toInt? with
      | some value => .ok (.ofInt value)
      | none => source.unsupported (.float kind)

/-- The truth value of a value: numbers are compared with zero. -/
def coerceBool (source : RawValue) : Result (Scalar .bool) :=
  match source with
  | .scalar (.bool value) => .ok (.bool value)
  | .scalar (.float x) => .ok (.bool (!x.isZero))
  | source =>
    match source.characters? with
    | some text => Scalar.orUnreadable text .bool (Scalar.boolOfText text)
    | none =>
      match source.toInt? with
      | some value => .ok (.bool (value != 0))
      | none => source.unsupported .bool

/-- Brings a value into a kind. -/
def coerce (source : RawValue) : (kind : Kind) → Result (Scalar kind)
  | .integer kind => do Scalar.ofInt kind (← denotedInteger source kind)
  | .float kind => do narrow (← denotedFloat source kind) kind
  | .bool => coerceBool source
  | .string =>
    match source.characters? with
    | some text => .ok (.string text)
    | none => source.unsupported .string
  | .bytes =>
    match source with
    | .scalar (.bytes bytes) => .ok (.bytes bytes)
    | .scalar (.string text) => .ok (.bytes (Text.bytesOf text))
    | source => source.unsupported .bytes
  | .timestamp =>
    match source with
    | .scalar (.timestamp t) => .ok (.timestamp t)
    | source =>
      match source.characters? with
      | some text => Scalar.orUnreadable text .timestamp (Scalar.timestampOfText text.toList)
      | none => source.unsupported .timestamp
  | .structured => .error (.unsupportedTarget Kind.structured.name)

/-- Scans a value into a scalar; null leaves it as it is. -/
def scan {kind : Kind} (target : Scalar kind) (source : RawValue) : Result (Scalar kind) :=
  if source.isNull then .ok target else coerce source kind

/-- Anything but null is scanned alike into every target. -/
theorem scan_of_present {kind : Kind} {target : Scalar kind} {source : RawValue}
    (present : source.isNull = false) : scan target source = coerce source kind := by
  rw [scan, present, if_neg Bool.false_ne_true]

end NamedConstants
