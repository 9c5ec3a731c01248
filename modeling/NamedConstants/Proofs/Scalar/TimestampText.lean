import NamedConstants.Proofs.Text.Utf8
import NamedConstants.Proofs.Timestamp
import NamedConstants.Scalar.Coercion

/-!
# Reading timestamps

The strict reader takes the parts of a date and a time from fixed places. A written point in time
has its parts there as long as its year has four digits (`ofText_of_parts`), and putting the parts
together gives the point in time again (`assemble_written`), leap seconds included. The sign in
front of any other year is no digit, so a point in time is read back exactly if its year lies
between 0 and 9999 (`ofText_toText_timestamp_iff`).
-/

set_option autoImplicit false

namespace NamedConstants

/-! ## Years and days -/

namespace Calendar

theorem yearStart_le {first second : Int} (le : first ≤ second) :
    yearStart first ≤ yearStart second := by
  simp only [yearStart]
  omega

/-- A day belongs to a year or to a later one from the first day of this year on. -/
theorem le_yearOf_iff {year days : Int} : year ≤ yearOf days ↔ yearStart year ≤ days := by
  obtain ⟨starts, ends⟩ := yearOf_holds days
  constructor
  · intro le
    exact Int.le_trans (yearStart_le le) starts
  · intro begun
    refine Int.not_lt.mp fun earlier => ?_
    have before := yearStart_le (Int.add_one_le_of_lt earlier)
    omega

theorem monthLengths_le (year : Int) : ∀ length ∈ monthLengths year, length ≤ 31 := by
  cases leap : isLeapYear year with
  | false =>
      rw [monthLengths, leap]
      decide
  | true =>
      rw [monthLengths, leap]
      decide

/-- A date that exists has one of twelve months and one of at most 31 days. -/
theorem bounds_of_isValid {date : Date} (valid : date.isValid = true) :
    date.month ≤ 12 ∧ date.day ≤ 31 := by
  rw [Date.isValid] at valid
  cases held : (monthLengths date.year)[date.month - 1]? with
  | none =>
      rw [held] at valid
      cases valid
  | some length =>
      rw [held] at valid
      simp only [Bool.and_eq_true, decide_eq_true_eq] at valid
      obtain ⟨inside, -⟩ := List.getElem?_eq_some_iff.mp held
      have longest := monthLengths_le date.year length (List.mem_of_getElem? held)
      have months : (monthLengths date.year).length = 12 := rfl
      omega

end Calendar

namespace Timestamp

open BinaryFloat (digitsValue spanDigits)

/-! ## Numbers at fixed places -/

theorem number_go_of_allDigits {digits : List Char} (all : AllDigits digits) (value : Nat) :
    number.go value digits = .ok (Nat.ofDigitChars 10 digits value) := by
  induction digits generalizing value with
  | nil => rfl
  | cons c digits ih =>
      have own : digit c = .ok (c.toNat - 48) := if_pos all.head
      rw [number.go, own]
      exact ih all.tail _

/-- Digits are read as the number they spell. -/
theorem number_of_allDigits {digits : List Char} (all : AllDigits digits) :
    number digits = .ok (digitsValue digits) := by
  cases digits with
  | nil => rfl
  | cons c digits => exact number_go_of_allDigits all 0

theorem le_length_padded (width n : Nat) : width ≤ (padded width n).length := by
  rw [padded, List.length_append, List.length_replicate]
  omega

theorem number_padded (width n : Nat) : number (padded width n) = .ok n := by
  rw [number_of_allDigits (allDigits_padded width n), digitsValue_padded]

/-- What does not start with a digit is no number. -/
theorem number_of_other {c : Char} (other : c.isDigit = false) (rest : List Char) :
    number (c :: rest) = .error .invalid := by
  have fault : digit c = .error .invalid := if_neg (Bool.eq_false_iff.mp other)
  rw [number, number.go, fault]

/-! ## Fractions -/

/-- At most nine digits behind the point are read as nanoseconds. -/
theorem fraction_of_allDigits {digits rest : List Char} (all : AllDigits digits)
    (written : digits ≠ []) (short : digits.length ≤ 9) (ends : EndsDigits rest) :
    fraction (digits ++ rest) = .ok (fractionValue ('.' :: digits), rest) := by
  have span := spanDigits_append all ends
  obtain ⟨c, more, rfl⟩ := List.exists_cons_of_ne_nil written
  rw [List.cons_append] at span ⊢
  rw [fraction, if_pos all.head, span]
  simp only [List.take_of_length_le short, fractionValue]

/-- The written fraction is empty, or a point and at most nine digits. -/
theorem fractionText_cases {nanos : Nat} (below : nanos < 1000000000) :
    fractionText nanos = [] ∨
      ∃ digits, fractionText nanos = '.' :: digits ∧ AllDigits digits ∧ digits ≠ [] ∧
        digits.length ≤ 9 := by
  have group {width n : Nat} (positive : 0 < width) (fits : n < tenTo width) (narrow : width ≤ 9) :
      AllDigits (padded width n) ∧ padded width n ≠ [] ∧ (padded width n).length ≤ 9 := by
    have length := length_padded positive fits
    refine ⟨allDigits_padded width n, ?_, by omega⟩
    exact List.ne_nil_of_length_pos (by omega)
  rw [fractionText]
  split
  · exact .inl rfl
  split
  · exact .inr ⟨_, rfl, group (by decide) (show nanos / 1000000 < 1000 by omega) (by decide)⟩
  split
  · exact .inr ⟨_, rfl, group (by decide) (show nanos / 1000 < 1000000 by omega) (by decide)⟩
  · exact .inr ⟨_, rfl, group (by decide) below (by decide)⟩

/-- The nanoseconds behind the seconds, none if there is no point, and what follows them. -/
def nanosBehind (text : List Char) : Except TextFault (Nat × List Char) :=
  match text with
  | '.' :: rest => fraction rest
  | rest => pure (0, rest)

theorem nanosBehind_fractionText {nanos : Nat} (below : nanos < 1000000000) :
    nanosBehind (fractionText nanos ++ ['Z']) = .ok (nanos, ['Z']) := by
  have value := fractionValue_fractionText below
  rcases fractionText_cases below with none | ⟨digits, text, all, written, short⟩
  · rw [none] at value ⊢
    rw [← value]
    rfl
  · rw [text] at value ⊢
    rw [← value]
    exact fraction_of_allDigits all written short (.cons (by decide))

/-! ## Dates and times at fixed places -/

/-- A text is not shorter in bytes than in characters. -/
theorem length_le_utf8ByteSize (text : List Char) :
    text.length ≤ (String.ofList text).utf8ByteSize := by
  induction text with
  | nil => exact Nat.zero_le _
  | cons c text ih =>
      have positive := c.utf8Size_pos
      rw [String.ofList_cons, String.utf8ByteSize_append, String.utf8ByteSize_singleton,
        List.length_cons]
      omega

/-- A number of two digits is read from its two places. -/
theorem exists_padded_two {n : Nat} (small : n < 100) :
    ∃ c d, padded 2 n = [c, d] ∧ number [c, d] = .ok n := by
  have length := length_padded (show 0 < 2 by decide) small
  match padded 2 n, length, number_padded 2 n with
  | [c, d], _, read => exact ⟨c, d, rfl, read⟩

/-- A number of four digits is read from its four places. -/
theorem exists_padded_four {n : Nat} (small : n < 10000) :
    ∃ a b c d, padded 4 n = [a, b, c, d] ∧ number [a, b, c, d] = .ok n := by
  have length := length_padded (show 0 < 4 by decide) small
  match padded 4 n, length, number_padded 4 n with
  | [a, b, c, d], _, read => exact ⟨a, b, c, d, rfl, read⟩

/-- **The parts of a date and a time are read from their places.** -/
theorem ofText_of_parts {year month day hour minute second nanos : Nat} {rest : List Char}
    (short : year < 10000) (valid : Calendar.Date.isValid ⟨year, month, day⟩ = true)
    (clock : isClock hour minute second = true)
    (behind : nanosBehind rest = .ok (nanos, ['Z'])) :
    ofText (padded 4 year ++ '-' :: (padded 2 month ++ '-' :: (padded 2 day ++ 'T' ::
      (padded 2 hour ++ ':' :: (padded 2 minute ++ ':' :: (padded 2 second ++ rest)))))) =
      assemble ⟨year, month, day⟩ hour minute second nanos 0 := by
  obtain ⟨monthFits, dayFits⟩ := Calendar.bounds_of_isValid valid
  have times : (hour < 24 ∧ minute < 60) ∧ second ≤ 60 := by
    simpa only [isClock, Bool.and_eq_true, decide_eq_true_eq] using clock
  obtain ⟨y₁, y₂, y₃, y₄, yearText, years⟩ := exists_padded_four short
  obtain ⟨m₁, m₂, monthText, months⟩ :=
    exists_padded_two (Nat.lt_of_le_of_lt monthFits (by decide))
  obtain ⟨d₁, d₂, dayText, days⟩ := exists_padded_two (Nat.lt_of_le_of_lt dayFits (by decide))
  obtain ⟨h₁, h₂, hourText, hours⟩ := exists_padded_two (show hour < 100 by omega)
  obtain ⟨n₁, n₂, minuteText, minutes⟩ := exists_padded_two (show minute < 100 by omega)
  obtain ⟨s₁, s₂, secondText, seconds⟩ := exists_padded_two (show second < 100 by omega)
  rw [yearText, monthText, dayText, hourText, minuteText, secondText]
  have long : ¬(String.ofList ([y₁, y₂, y₃, y₄, '-', m₁, m₂, '-', d₁, d₂, 'T', h₁, h₂, ':', n₁, n₂,
      ':', s₁, s₂] ++ rest)).utf8ByteSize < 19 := by
    refine Nat.not_lt.mpr (Nat.le_trans ?_ (length_le_utf8ByteSize _))
    rw [List.length_append]
    exact Nat.le_add_right 19 _
  simp only [List.cons_append, List.nil_append] at long ⊢
  have separator {accepted : List Char} {c : Char} (own : accepted.contains c = true)
      (rest : List Char) : expect accepted (c :: rest) = .ok rest := if_pos own
  have universal : offset (expect [':']) ['Z'] = .ok (0, []) := rfl
  have small : isOffset 0 = true := rfl
  simp only [ofText, if_neg long, List.drop_zero, List.drop_succ_cons, List.take_succ_cons,
    List.take_zero, years, months, days, hours, minutes, seconds, bind, Except.bind,
    separator (show ['-'].contains '-' = true from rfl),
    separator (show [':'].contains ':' = true from rfl),
    separator (show ['T', 't', ' '].contains 'T' = true from rfl), valid, clock, Bool.not_true,
    Bool.false_eq_true, if_false]
  -- the offset is read alike with and without a fraction in front of it
  unfold nanosBehind at behind
  split
  · rename_i more
    have read : fraction more = .ok (nanos, ['Z']) := behind
    simp only [read, universal, small, List.isEmpty_nil, Bool.not_true, Bool.false_eq_true,
      if_false]
  · rename_i noPoint
    split at behind
    · exact absurd rfl (noPoint _)
    · cases behind
      rfl

/-- A text that starts with another character is refused, if it is long enough. -/
theorem ofText_of_other {c : Char} {rest : List Char} (other : c.isDigit = false)
    (long : 18 ≤ rest.length) : ofText (c :: rest) = .error .invalid := by
  have enough : ¬(String.ofList (c :: rest)).utf8ByteSize < 19 := by
    have bytes := length_le_utf8ByteSize (c :: rest)
    rw [List.length_cons] at bytes
    omega
  have fault := number_of_other other (rest.take 3)
  simp only [ofText, if_neg enough, List.drop_zero, List.take_succ_cons, fault, bind, Except.bind]

/-! ## Written points in time -/

theorem ofParts?_of_isSettled {t : Timestamp} (settled : t.IsSettled) :
    ofParts? t.seconds t.nanos = some t := by
  rw [ofParts?, dif_pos ⟨t.isTimestamp, settled⟩]

/-- **The parts of a written point in time give the point in time.** -/
theorem assemble_written {t : Timestamp} (settled : t.IsSettled) :
    assemble t.date (t.secondOfDay / 3600) (t.secondOfDay / 60 % 60) t.writtenSecond
        t.writtenNanos 0 =
      .ok t := by
  have days : t.date.toDays - epochDay = t.seconds / 86400 := by
    rw [date, Calendar.toDays_ofDays, Int.add_sub_cancel]
  have clock : (t.secondOfDay : Int) = t.seconds % 86400 := by
    rw [secondOfDay]
    omega
  have leap := writtenSecond_eq_sixty_iff settled
  have seconds : (t.date.toDays - epochDay) * 86400 +
      (t.secondOfDay / 3600 * 3600 + t.secondOfDay / 60 % 60 * 60 +
        (if (t.writtenSecond == 60) = true then 59 else t.writtenSecond) : Nat) - 60 * 0 =
      t.seconds := by
    rw [days]
    by_cases sixty : t.writtenSecond = 60
    · rw [if_pos (beq_iff_eq.mpr sixty)]
      have second := settled (leap.mp sixty)
      omega
    · rw [if_neg (mt beq_iff_eq.mp sixty), writtenSecond, if_neg (mt leap.mpr sixty)]
      omega
  have nanos : (if (t.writtenSecond == 60) = true then t.writtenNanos + 1000000000
      else t.writtenNanos) = t.nanos := by
    rw [writtenNanos]
    by_cases sixty : t.writtenSecond = 60
    · rw [if_pos (beq_iff_eq.mpr sixty), if_pos (leap.mp sixty)]
      exact Nat.sub_add_cancel (leap.mp sixty)
    · rw [if_neg (mt beq_iff_eq.mp sixty), if_neg (mt leap.mpr sixty)]
  unfold assemble
  dsimp only
  rw [seconds, nanos, ofParts?_of_isSettled settled]

/-- The written time is one of a clock. -/
theorem isClock_written (t : Timestamp) :
    isClock (t.secondOfDay / 3600) (t.secondOfDay / 60 % 60) t.writtenSecond = true := by
  have day : t.secondOfDay < 86400 := by
    rw [secondOfDay]
    omega
  have second : t.writtenSecond ≤ 60 := by
    rw [writtenSecond]
    split <;> omega
  simp only [isClock, Bool.and_eq_true, decide_eq_true_eq]
  omega

/-- A point in time in a year of four digits is read back, if its nanoseconds are settled. -/
theorem ofText_toText_of_short {t : Timestamp} (settled : t.IsSettled)
    (short : 0 ≤ t.date.year ∧ t.date.year ≤ 9999) : ofText t.toText = .ok t := by
  have valid := Calendar.isValid_ofDays (t.seconds / 86400 + epochDay)
  have year : ((t.date.year.toNat : Nat) : Int) = t.date.year := Int.toNat_of_nonneg short.1
  have date : (⟨t.date.year.toNat, t.date.month, t.date.day⟩ : Calendar.Date) = t.date := by
    rw [year]
  rw [toText_eq, yearText_short short, ofText_of_parts (by omega) (date.symm ▸ valid)
    t.isClock_written (nanosBehind_fractionText t.writtenNanos_lt), date, assemble_written settled]

/-- A point in time in any other year is not: a sign stands at the place of its year. -/
theorem ofText_toText_of_long {t : Timestamp} (long : ¬(0 ≤ t.date.year ∧ t.date.year ≤ 9999)) :
    ofText t.toText = .error .invalid := by
  rw [toText_eq, yearText_long long, List.cons_append]
  refine ofText_of_other (isDigit_yearSign _) ?_
  have year := le_length_padded 4 t.date.year.natAbs
  have month := le_length_padded 2 t.date.month
  have day := le_length_padded 2 t.date.day
  have hour := le_length_padded 2 (t.secondOfDay / 3600)
  have minute := le_length_padded 2 (t.secondOfDay / 60 % 60)
  have second := le_length_padded 2 t.writtenSecond
  simp only [List.length_append, List.length_cons]
  omega

/-- **A written point in time is read as what it is written as, exactly if its year has four
digits.** -/
theorem ofText_toText_eq (t : Timestamp) :
    ofText t.toText =
      if 0 ≤ t.date.year ∧ t.date.year ≤ 9999 then .ok t.asWritten else .error .invalid := by
  split
  · rename_i short
    rw [← toText_asWritten]
    exact ofText_toText_of_short t.isSettled_asWritten (by rwa [date_asWritten])
  · rename_i long
    exact ofText_toText_of_long long

/-- The seconds of the years of four digits. -/
theorem year_iff_seconds (t : Timestamp) :
    0 ≤ t.date.year ∧ t.date.year ≤ 9999 ↔
      -62167219200 ≤ t.seconds ∧ t.seconds ≤ 253402300799 := by
  have year : t.date.year = Calendar.yearOf (t.seconds / 86400 + epochDay) := rfl
  have first := @Calendar.le_yearOf_iff 0 (t.seconds / 86400 + epochDay)
  have next := @Calendar.le_yearOf_iff 10000 (t.seconds / 86400 + epochDay)
  have start : Calendar.yearStart 0 = -366 := rfl
  have finish : Calendar.yearStart 10000 = 3652059 := rfl
  have epoch : epochDay = 719162 := rfl
  rw [year]
  omega

end Timestamp

/-! ## Scalars -/

namespace Scalar

/-- A text is scanned as a timestamp as it is read, and so are the bytes of the text. -/
theorem scan_text (target : Scalar .timestamp) (text : String) :
    scan target (.scalar (.string text)) = ofText text .timestamp ∧
      scan target (.scalar (.bytes (Text.bytesOf text))) = ofText text .timestamp := by
  have bytes : (RawValue.scalar (.bytes (Text.bytesOf text))).characters? = some text := by
    rw [RawValue.characters?, Text.bytesOf, Text.lossyString_encode, String.ofList_toList]
  refine ⟨rfl, ?_⟩
  rw [scan_of_present rfl, coerce, bytes]
  · rfl
  · rintro t ⟨⟩

/-- The text of a timestamp is read as the text of its point in time. -/
theorem ofText_toText_timestamp (t : Timestamp) :
    ofText (timestamp t).toText .timestamp =
      if 0 ≤ t.date.year ∧ t.date.year ≤ 9999 then .ok (.timestamp t.asWritten)
      else .error (.unreadable (timestamp t).toText .timestamp .invalidCharacters) := by
  have characters : (timestamp t).toText.toList = t.toText := String.toList_ofList
  rw [ofText, characters, timestampOfText, Timestamp.ofText_toText_eq]
  by_cases short : 0 ≤ t.date.year ∧ t.date.year ≤ 9999
  · rw [if_pos short, if_pos short]
    rfl
  · rw [if_neg short, if_neg short]
    rfl

/-- **The text of a timestamp is read back exactly if the year lies between 0 and 9999 and the
nanoseconds are settled.** In such a year any other timestamp comes back as the one that it is
written as, with the second after its own; in any other year reading stops at the sign of the year.
Scanning the text, or its bytes, gives what reading gives. The years between 0 and 9999 are those
from `-62167219200` to `253402300799` seconds. -/
theorem ofText_toText_timestamp_iff (t : Timestamp) (target : Scalar .timestamp) :
    let text := (timestamp t).toText
    let isShort := 0 ≤ t.date.year ∧ t.date.year ≤ 9999
    (ofText text .timestamp = .ok (.timestamp t) ↔
      isShort ∧ (1000000000 ≤ t.nanos → t.seconds % 60 = 59)) ∧
    (isShort → ofText text .timestamp = .ok (.timestamp t.asWritten)) ∧
    (¬isShort → ofText text .timestamp =
      .error (.unreadable text .timestamp .invalidCharacters)) ∧
    scan target (.scalar (.string text)) = ofText text .timestamp ∧
    scan target (.scalar (.bytes (Text.bytesOf text))) = ofText text .timestamp ∧
    (isShort ↔ -62167219200 ≤ t.seconds ∧ t.seconds ≤ 253402300799) := by
  intro text isShort
  obtain ⟨scanned, scannedBytes⟩ := scan_text target text
  have failed (long : ¬isShort) : ofText text .timestamp =
      .error (.unreadable text .timestamp .invalidCharacters) :=
    (ofText_toText_timestamp t).trans (if_neg long)
  have written (short : isShort) : ofText text .timestamp = .ok (.timestamp t.asWritten) :=
    (ofText_toText_timestamp t).trans (if_pos short)
  refine ⟨⟨fun back => ?_, fun ⟨short, settled⟩ => ?_⟩, written, failed, scanned, scannedBytes,
    t.year_iff_seconds⟩
  · by_cases short : isShort
    · rw [written short] at back
      have same : t.asWritten = t := Scalar.timestamp.inj (Except.ok.inj back)
      exact ⟨short, Timestamp.asWritten_eq_self_iff.mp same⟩
    · rw [failed short] at back
      cases back
  · rw [written short, Timestamp.asWritten_of_isSettled settled]

/-- Four seconds behind a minute in June 2015, with more than a second behind that. -/
def beyondSecond : Timestamp := ⟨1435708564, 1333333333, by decide⟩

/-- In the year 2015 the text of a timestamp is read as another one, since its nanoseconds go
beyond a second that is not the last of a minute. -/
theorem ofText_toText_beyondSecond :
    beyondSecond.date.year = 2015 ∧
      (timestamp beyondSecond).toText = "2015-06-30T23:56:05.333333333Z" ∧
      ofText (timestamp beyondSecond).toText .timestamp =
        .ok (.timestamp ⟨1435708565, 333333333, by decide⟩) ∧
      ofText (timestamp beyondSecond).toText .timestamp ≠ .ok (.timestamp beyondSecond) := by
  have read : ofText (timestamp beyondSecond).toText .timestamp =
      .ok (.timestamp ⟨1435708565, 333333333, by decide⟩) :=
    (ofText_toText_timestamp beyondSecond).trans (if_pos (by decide))
  refine ⟨by decide, by decide, read, ?_⟩
  rw [read]
  intro same
  exact absurd (Scalar.timestamp.inj (Except.ok.inj same)) (by decide)

end Scalar

end NamedConstants
