import NamedConstants.Text.Blank
import NamedConstants.Timestamp.Basic
import NamedConstants.BinaryFloat.Text

/-!
# Timestamps as text

The form is that of RFC 3339: date, `T`, time, offset. It is written for the
offset zero as `Z`, with as many groups of three digits behind the seconds as
the nanoseconds need. Nanoseconds of a thousand million or more are written as
one second more, which is 60 in a leap second. The strict reader checks the
fixed part from left to right; the tolerant one, which structured data goes
through, also takes years with a sign, numbers with fewer digits and blanks
between the parts.
-/

set_option autoImplicit false

namespace NamedConstants

namespace Timestamp

/-- A number with at least `width` digits. -/
def padded (width : Nat) (n : Nat) : List Char :=
  let digits := decimalDigits n
  List.replicate (width - digits.length) '0' ++ digits

/-- A year: four digits, and a sign as soon as four digits do not hold it. -/
def yearText (year : Int) : List Char :=
  if 0 ≤ year ∧ year ≤ 9999 then padded 4 year.toNat
  else (if year < 0 then '-' else '+') :: padded 4 year.natAbs

/-- The digits behind the seconds, in groups of three. -/
def fractionText (nanos : Nat) : List Char :=
  if nanos = 0 then []
  else if nanos % 1000000 = 0 then '.' :: padded 3 (nanos / 1000000)
  else if nanos % 1000 = 0 then '.' :: padded 6 (nanos / 1000)
  else '.' :: padded 9 nanos

/-- The text of a point in time. -/
def toText (t : Timestamp) : List Char :=
  let date := t.date
  let clock := t.secondOfDay
  let isLeap := 1000000000 ≤ t.nanos
  let second := clock % 60 + if isLeap then 1 else 0
  let nanos := if isLeap then t.nanos - 1000000000 else t.nanos
  yearText date.year ++ '-' :: padded 2 date.month ++ '-' :: padded 2 date.day ++
    'T' :: padded 2 (clock / 3600) ++ ':' :: padded 2 (clock / 60 % 60) ++
    ':' :: padded 2 second ++ fractionText nanos ++ ['Z']

/-- Why a text is no timestamp. -/
inductive TextFault
  | short
  | invalid
  | outOfRange
  | trailing
  deriving DecidableEq, Repr

/-- The value of a digit. -/
def digit (c : Char) : Except TextFault Nat :=
  if c.isDigit then .ok (c.toNat - 48) else .error .invalid

/-- The number spelled by characters that must be digits. -/
def number : List Char → Except TextFault Nat
  | [] => .ok 0
  | c :: rest => go 0 (c :: rest)
where
  go (value : Nat) : List Char → Except TextFault Nat
    | [] => .ok value
    | c :: rest =>
      match digit c with
      | .ok d => go (10 * value + d) rest
      | .error fault => .error fault

/-- The character in front must be one of the given ones. -/
def expect (accepted : List Char) : List Char → Except TextFault (List Char)
  | [] => .error .short
  | c :: rest => if accepted.contains c then .ok rest else .error .invalid

/-- The digits behind the point; those after the ninth are dropped. -/
def fraction (text : List Char) : Except TextFault (Nat × List Char) :=
  match text with
  | [] => .error .short
  | c :: _ =>
    if c.isDigit then
      let (digits, rest) := BinaryFloat.spanDigits text
      let kept := digits.take 9
      .ok (BinaryFloat.digitsValue kept * tenTo (9 - kept.length), rest)
    else .error .invalid

/-- Hours and minutes of an offset; `separator` takes what stands between them.
-/
def offsetDigits (separator : List Char → Except TextFault (List Char)) (negative : Bool) :
    List Char → Except TextFault (Int × List Char)
  | h₁ :: h₂ :: rest =>
    if h₁.isDigit && h₂.isDigit then do
      let rest ← separator rest
      match rest with
      | m₁ :: m₂ :: rest =>
        if m₁.isDigit && m₂.isDigit then
          if m₁.toNat < 54 then
            let minutes : Int := 60 * ((h₁.toNat - 48) * 10 + (h₂.toNat - 48) : Nat) +
              ((m₁.toNat - 48) * 10 + (m₂.toNat - 48) : Nat)
            .ok (if negative then -minutes else minutes, rest)
          else .error .outOfRange
        else .error .invalid
      | [c] => .error (if c.toNat < 0x80 then .short else .invalid)
      | [] => .error .short
    else .error .invalid
  | [c] => .error (if c.toNat < 0x80 then .short else .invalid)
  | [] => .error .short

/-- An offset from universal time in minutes. -/
def offset (separator : List Char → Except TextFault (List Char)) :
    List Char → Except TextFault (Int × List Char)
  | [] => .error .short
  | c :: rest =>
    if c == 'Z' || c == 'z' then .ok (0, rest)
    else if c == '+' then offsetDigits separator false rest
    else if c == '-' || c == '\u2212' then offsetDigits separator true rest
    else .error .invalid

/-- The point in time of a date and a local time. The second 60 is the leap
second of its minute. -/
def assemble (date : Calendar.Date) (hour minute second nanos : Nat) (offset : Int) :
    Except TextFault Timestamp :=
  let isLeap := second == 60
  let second := if isLeap then 59 else second
  let nanos := if isLeap then nanos + 1000000000 else nanos
  let seconds := (date.toDays - epochDay) * 86400 +
    (hour * 3600 + minute * 60 + second : Nat) - 60 * offset
  match ofParts? seconds nanos with
  | some t => .ok t
  | none => .error .outOfRange

/-- The clock has the time. -/
def isClock (hour minute second : Nat) : Bool :=
  hour < 24 && minute < 60 && second ≤ 60

/-- An offset is shorter than a day. -/
def isOffset (minutes : Int) : Bool :=
  minutes.natAbs < 1440

/-- Reads the strict form. A text that is shorter than the fixed part fails as
such, whatever it holds. -/
def ofText (text : List Char) : Except TextFault Timestamp := do
  if (String.ofList text).utf8ByteSize < 19 then
    throw .short
  let part (start length : Nat) := number ((text.drop start).take length)
  let year ← part 0 4
  let _ ← expect ['-'] (text.drop 4)
  let month ← part 5 2
  let _ ← expect ['-'] (text.drop 7)
  let day ← part 8 2
  let date : Calendar.Date := ⟨year, month, day⟩
  if !date.isValid then
    throw .outOfRange
  let _ ← expect ['T', 't', ' '] (text.drop 10)
  let hour ← part 11 2
  let _ ← expect [':'] (text.drop 13)
  let minute ← part 14 2
  let _ ← expect [':'] (text.drop 16)
  let second ← part 17 2
  let (nanos, rest) ←
    match text.drop 19 with
    | '.' :: rest => fraction rest
    | rest => pure (0, rest)
  if !isClock hour minute second then
    throw .outOfRange
  let (offset, rest) ← offset (expect [':']) rest
  if !isOffset offset then
    throw .outOfRange
  if !rest.isEmpty then
    throw .trailing
  assemble date hour minute second nanos offset

/-- At least one digit and at most `width`, with blanks in front. -/
def tolerantNumber (width : Nat) (text : List Char) : Except TextFault (Nat × List Char) :=
  let text := Text.trimStart text
  let digits := (text.take width).takeWhile Char.isDigit
  if digits.isEmpty then .error (if text.isEmpty then .short else .invalid)
  else .ok (BinaryFloat.digitsValue digits, text.drop digits.length)

/-- A year: up to four digits, or a sign and any number of digits. -/
def tolerantYear (text : List Char) : Except TextFault (Int × List Char) :=
  match Text.trimStart text with
  | '-' :: rest => (signed rest).map fun (year, rest) => (-year, rest)
  | '+' :: rest => signed rest
  | text => (tolerantNumber 4 text).map fun (year, rest) => (year, rest)
where
  signed (text : List Char) : Except TextFault (Int × List Char) :=
    let (digits, rest) := BinaryFloat.spanDigits text
    if digits.isEmpty then .error .invalid else .ok (BinaryFloat.digitsValue digits, rest)

/-- The offset of the tolerant form: `UTC` in any case, or an offset with
colons or blanks between its parts. -/
def tolerantOffset (text : List Char) : Except TextFault (Int × List Char) :=
  let text := Text.trimStart text
  if (text.take 3).map Char.toUpper == ['U', 'T', 'C'] then .ok (0, text.drop 3)
  else offset (fun text => .ok (text.dropWhile fun c => c == ':' || Text.isBlank c)) text

/-- Reads the tolerant form. -/
def ofTextTolerant (text : List Char) : Except TextFault Timestamp := do
  let (year, rest) ← tolerantYear text
  let rest ← expect ['-'] (Text.trimStart rest)
  let (month, rest) ← tolerantNumber 2 rest
  let rest ← expect ['-'] (Text.trimStart rest)
  let (day, rest) ← tolerantNumber 2 rest
  let rest ← expect ['T', 't', ' '] rest
  let (hour, rest) ← tolerantNumber 2 rest
  let rest ← expect [':'] (Text.trimStart rest)
  let (minute, rest) ← tolerantNumber 2 rest
  let rest ← expect [':'] (Text.trimStart rest)
  let (second, rest) ← tolerantNumber 2 rest
  let (nanos, rest) ←
    match rest with
    | '.' :: rest => fraction rest
    | rest => pure (0, rest)
  let (offset, rest) ← tolerantOffset rest
  if !(Text.trimStart rest).isEmpty then
    throw .trailing
  let date : Calendar.Date := ⟨year, month, day⟩
  if !date.isValid || !isClock hour minute second || !isOffset offset then
    throw .outOfRange
  assemble date hour minute second nanos offset

end Timestamp

end NamedConstants
