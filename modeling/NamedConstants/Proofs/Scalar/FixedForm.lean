import Mathlib.Data.List.Induction
import Mathlib.Data.Nat.Digits.Defs
import NamedConstants.Proofs.Scalar.Binary
import NamedConstants.Proofs.Text.ValidUtf8

/-!
# The fixed binary form

A kind of fixed width has exactly one form for each scalar, the big-endian bytes of its
pattern, and enough bytes always read as one scalar, by their leading bytes alone
(`HasFixedForm`, `hasFixedForm_of_width?`). For integers and floats reading and writing are
inverse to each other: every pattern belongs to a scalar (`toPattern_ofPattern`,
`toBits_ofBits`), so what was read is written back byte by byte. A truth value is not: any
byte but zero is true, and true is written as one.

Strings and byte sequences are their own bytes. Of those only the bytes of a text are
read as a string, and no bytes at all are never read (`binary_form`).
-/

set_option autoImplicit false

namespace NamedConstants

/-! ## Numbers and their bytes -/

theorem naturalOfBytes_lt (bytes : Text.Bytes) :
    naturalOfBytes bytes < twoTo (8 * bytes.length) := by
  induction bytes using List.reverseRecOn with
  | nil => exact Nat.one_pos
  | append_singleton front last ih =>
      have below := last.toNat_lt
      rw [naturalOfBytes_append_singleton, List.length_append, List.length_singleton, twoTo_byte]
      omega

/-- **Bytes are written back from the number that they spell.** -/
theorem bytesOfNatural_naturalOfBytes (bytes : Text.Bytes) :
    bytesOfNatural bytes.length (naturalOfBytes bytes) = bytes := by
  induction bytes using List.reverseRecOn with
  | nil => rfl
  | append_singleton front last ih =>
      have below := last.toNat_lt
      have quotient : (256 * naturalOfBytes front + last.toNat) / 256 = naturalOfBytes front := by
        omega
      have remainder : (256 * naturalOfBytes front + last.toNat) % 256 = last.toNat := by omega
      rw [naturalOfBytes_append_singleton, List.length_append, List.length_singleton,
        bytesOfNatural, quotient, remainder, ih, Nat.toUInt8_eq, UInt8.ofNat_toNat]

/-- The last byte has the lowest digit. -/
theorem naturalOfBytes_eq_ofDigits (bytes : Text.Bytes) :
    naturalOfBytes bytes = Nat.ofDigits 256 (bytes.map UInt8.toNat).reverse := by
  induction bytes using List.reverseRecOn with
  | nil => rfl
  | append_singleton front last ih =>
      rw [naturalOfBytes_append_singleton, ih, List.map_append, List.reverse_append,
        List.map_singleton, List.reverse_singleton, List.singleton_append, Nat.ofDigits_cons,
        Nat.add_comm]

/-! ## Patterns -/

/-- **Every pattern is the pattern of an integer in the range.** -/
theorem IntegerKind.toPattern_ofPattern {kind : IntegerKind} {pattern : Nat}
    (fits : pattern < twoTo kind.bitWidth) :
    kind.Contains (kind.ofPattern pattern) ∧ kind.toPattern (kind.ofPattern pattern) = pattern := by
  have double := kind.twoTo_bitWidth
  have nonneg : (0 : Int) ≤ pattern := Int.natCast_nonneg pattern
  have below : (pattern : Int) < twoTo kind.bitWidth := Int.ofNat_lt.mpr fits
  cases signed : kind.isSigned with
  | false =>
      have value : kind.ofPattern pattern = pattern := by
        simp only [ofPattern, signed, Bool.false_and, Bool.false_eq_true, if_false]
      rw [value]
      exact ⟨(contains_unsigned signed _).mpr ⟨nonneg, below⟩,
        Int.ofNat_inj.mp (toPattern_of_nonneg nonneg below)⟩
  | true =>
      by_cases high : twoTo (kind.bitWidth - 1) ≤ pattern
      · have value : kind.ofPattern pattern = (pattern : Int) - (twoTo kind.bitWidth : Nat) := by
          simp only [ofPattern, signed, Bool.true_and, high, decide_true, if_true]
        have negative : (pattern : Int) - (twoTo kind.bitWidth : Nat) < 0 := by omega
        have written : (kind.toPattern ((pattern : Int) - (twoTo kind.bitWidth : Nat)) : Int) =
            (pattern : Int) - (twoTo kind.bitWidth : Nat) + twoTo kind.bitWidth :=
          toPattern_of_neg negative (by omega)
        rw [value]
        exact ⟨(contains_signed signed _).mpr ⟨by omega, by omega⟩, by omega⟩
      · have value : kind.ofPattern pattern = pattern := by
          simp only [ofPattern, signed, Bool.true_and, high, decide_false, Bool.false_eq_true,
            if_false]
        rw [value]
        exact ⟨(contains_signed signed _).mpr ⟨by omega, by omega⟩,
          Int.ofNat_inj.mp (toPattern_of_nonneg nonneg below)⟩

/-- **All bits are the bits of a number.** -/
theorem BinaryFloat.toBits_ofBits {format : BinaryFormat} {bits : Nat}
    (fits : bits < 2 * twoTo format.patternBits) :
    (ofBits bits : BinaryFloat format).toBits = bits := by
  have positive := twoTo_pos format.patternBits
  have parts := Nat.div_add_mod bits (twoTo format.patternBits)
  have sign : bits / twoTo format.patternBits < 2 := (Nat.div_lt_iff_lt_mul positive).mpr fits
  rw [toBits, ofBits, pattern_ofPattern]
  rcases Nat.lt_or_ge bits (twoTo format.patternBits) with low | high
  · have zero : bits / twoTo format.patternBits = 0 := Nat.div_eq_of_lt low
    rw [zero] at parts ⊢
    simpa [ofPattern] using parts
  · have one : bits / twoTo format.patternBits = 1 := by
      have := Nat.div_pos high positive
      omega
    rw [one] at parts ⊢
    simpa [ofPattern] using parts

/-! ## Scalars of a fixed width -/

namespace Scalar

/-- The number that the fixed form of a scalar spells: an integer modulo the number of
patterns, the bits of a float, one for true and zero for false. -/
def pattern? {kind : Kind} : Scalar kind → Option Nat
  | @integer kind x => some (x.value % (2 ^ (8 * kind.byteWidth) : Nat)).toNat
  | .float x => some x.toBits
  | .bool x => some x.toNat
  | _ => none

/-- What the fixed binary form of a kind has to be. -/
structure HasFixedForm (kind : Kind) (width : Nat) : Prop where
  /-- Every scalar is written as the big-endian bytes of its pattern, and is read back from
  them whatever follows. -/
  written (raw : Scalar kind) : ∃ bytes, (RawValue.scalar raw).toBytes = .ok bytes ∧
    bytes.length = width ∧ raw.pattern? = some (Nat.ofDigits 256 (bytes.map UInt8.toNat).reverse) ∧
    ∀ rest, ofBytes (bytes ++ rest) kind = .ok raw
  empty : ofBytes [] kind = .error (.emptyData kind)
  short (data : Text.Bytes) (some : data ≠ []) (few : data.length < width) :
    ofBytes data kind = .error (.insufficientData kind width data.length)
  /-- Enough bytes are always read, and only the leading ones count. -/
  read (data : Text.Bytes) (enough : width ≤ data.length) : ∃ raw, ofBytes data kind = .ok raw ∧
    ∀ other : Text.Bytes, other.take width = data.take width → ofBytes other kind = .ok raw

section Leading

variable {kind : Kind} {width : Nat} {ofPattern : Nat → Result (Scalar kind)}
variable (reads : ∀ data ≠ [], ofBytes data kind = leading kind width data >>= ofPattern)

include reads

theorem ofBytes_of_short {data : Text.Bytes} (some : data ≠ []) (few : data.length < width) :
    ofBytes data kind = .error (.insufficientData kind width data.length) := by
  rw [reads data some, leading, if_pos few]
  rfl

/-- Enough bytes are read as the pattern that the leading ones spell. -/
theorem ofBytes_of_enough (positive : 0 < width) {data : Text.Bytes}
    (enough : width ≤ data.length) :
    ofBytes data kind = ofPattern (naturalOfBytes (data.take width)) := by
  have some : data ≠ [] := List.length_pos_iff.mp (Nat.lt_of_lt_of_le positive enough)
  rw [reads data some, leading, if_neg (Nat.not_lt.mpr enough)]
  rfl

/-- A fixed form needs no more than that its patterns and the scalars belong together. -/
theorem hasFixedForm_of_leading (positive : 0 < width)
    (writes : ∀ raw : Scalar kind, ∃ number < twoTo (8 * width), raw.pattern? = some number ∧
      raw.toBytes = bytesOfNatural width number ∧ ofPattern number = .ok raw)
    (total : ∀ number < twoTo (8 * width), ∃ raw, ofPattern number = .ok raw) :
    HasFixedForm kind width where
  written raw := by
    obtain ⟨number, fits, pattern, form, back⟩ := writes raw
    refine ⟨bytesOfNatural width number, congrArg Except.ok form, length_bytesOfNatural _ _, ?_,
      fun rest => ?_⟩
    · rw [pattern, ← naturalOfBytes_eq_ofDigits, naturalOfBytes_bytesOfNatural fits]
    · have some : (bytesOfNatural width number ++ rest).isEmpty = false :=
        isEmpty_bytesOfNatural positive rest
      rw [reads _ (List.isEmpty_eq_false_iff.mp some), leading_bytesOfNatural kind fits]
      exact back
  empty := rfl
  short _ some few := ofBytes_of_short reads some few
  read data enough := by
    have taken : (data.take width).length = width := List.length_take_of_le enough
    have fits := naturalOfBytes_lt (data.take width)
    rw [taken] at fits
    obtain ⟨raw, found⟩ := total _ fits
    refine ⟨raw, (ofBytes_of_enough reads positive enough).trans found, fun other alike => ?_⟩
    have long : width ≤ other.length := by
      rw [← alike, List.length_take] at taken
      omega
    rw [ofBytes_of_enough reads positive long, alike]
    exact found

/-- What was read is written back, if every pattern is. -/
theorem toBytes_of_ofBytes (positive : 0 < width)
    (rewrites : ∀ number < twoTo (8 * width), ∀ raw, ofPattern number = .ok raw →
      raw.toBytes = bytesOfNatural width number)
    {data : Text.Bytes} {raw : Scalar kind} (read : ofBytes data kind = .ok raw) :
    (RawValue.scalar raw).toBytes = .ok (data.take width) := by
  have some : data ≠ [] := by
    rintro rfl
    cases read
  have enough : width ≤ data.length := by
    refine Nat.not_lt.mp fun few => ?_
    rw [ofBytes_of_short reads some few] at read
    cases read
  have taken : (data.take width).length = width := List.length_take_of_le enough
  have fits := naturalOfBytes_lt (data.take width)
  have again := bytesOfNatural_naturalOfBytes (data.take width)
  rw [taken] at fits again
  rw [ofBytes_of_enough reads positive enough] at read
  rw [RawValue.toBytes, rewrites _ fits raw read, again]

end Leading

/-! ## The kinds one by one -/

theorem ofBytes_integer_eq (kind : IntegerKind) {data : Text.Bytes} (some : data ≠ []) :
    ofBytes data (.integer kind) = leading (.integer kind) kind.byteWidth data >>=
      fun pattern => ofInt kind (kind.ofPattern pattern) := by
  rw [ofBytes, if_neg (by simpa using some)]

theorem ofBytes_float_eq (kind : FloatKind) {data : Text.Bytes} (some : data ≠ []) :
    ofBytes data (.float kind) = leading (.float kind) kind.byteWidth data >>=
      fun bits => .ok (.float (.ofBits bits)) := by
  rw [ofBytes, if_neg (by simpa using some)]
  rfl

theorem ofBytes_bool_eq {data : Text.Bytes} (some : data ≠ []) :
    ofBytes data .bool = leading .bool 1 data >>= fun byte => .ok (.bool (byte != 0)) := by
  rw [ofBytes, if_neg (by simpa using some)]
  rfl

theorem hasFixedForm_integer (kind : IntegerKind) :
    HasFixedForm (.integer kind) kind.byteWidth := by
  refine hasFixedForm_of_leading (fun _ => ofBytes_integer_eq kind) kind.byteWidth_pos ?_ ?_
  · intro raw
    cases raw with
    | integer x =>
        refine ⟨_, IntegerKind.toPattern_lt x.value, rfl, rfl, ?_⟩
        rw [IntegerKind.ofPattern_toPattern x.contains, ofInt_value]
  · intro number fits
    exact ⟨_, ofInt_of_contains (IntegerKind.toPattern_ofPattern fits).1⟩

theorem hasFixedForm_float (kind : FloatKind) : HasFixedForm (.float kind) kind.byteWidth := by
  refine hasFixedForm_of_leading (fun _ => ofBytes_float_eq kind) kind.byteWidth_pos ?_ ?_
  · intro raw
    cases raw with
    | float x =>
        refine ⟨_, kind.toBits_lt x, rfl, rfl, ?_⟩
        rw [BinaryFloat.ofBits_toBits]
  · intro number _
    exact ⟨_, rfl⟩

theorem hasFixedForm_bool : HasFixedForm .bool 1 := by
  refine hasFixedForm_of_leading (fun _ => ofBytes_bool_eq) Nat.one_pos ?_ ?_
  · intro raw
    cases raw with
    | bool x =>
        cases x with
        | false => exact ⟨0, by decide, rfl, rfl, rfl⟩
        | true => exact ⟨1, by decide, rfl, rfl, rfl⟩
  · intro number _
    exact ⟨_, rfl⟩

/-- **A kind with a width has a fixed form of this width.** -/
theorem hasFixedForm_of_width? {kind : Kind} {width : Nat} (fixed : kind.width? = some width) :
    HasFixedForm kind width := by
  cases kind with
  | integer kind => exact Option.some.inj fixed ▸ hasFixedForm_integer kind
  | float kind => exact Option.some.inj fixed ▸ hasFixedForm_float kind
  | bool => exact Option.some.inj fixed ▸ hasFixedForm_bool
  | string => cases fixed
  | bytes => cases fixed
  | timestamp => cases fixed
  | structured => cases fixed

/-! ## Written back -/

variable {data : Text.Bytes}

/-- **An integer that was read is written back byte by byte.** -/
theorem toBytes_of_ofBytes_integer {kind : IntegerKind} {raw : Scalar (.integer kind)}
    (read : ofBytes data (.integer kind) = .ok raw) :
    (RawValue.scalar raw).toBytes = .ok (data.take kind.byteWidth) := by
  refine toBytes_of_ofBytes (fun _ => ofBytes_integer_eq kind) kind.byteWidth_pos ?_ read
  intro number fits raw found
  obtain ⟨contains, rfl⟩ := ofInt_eq_ok_iff.mp found
  rw [toBytes, (IntegerKind.toPattern_ofPattern fits).2]

/-- **So is a float, whatever its bits are.** -/
theorem toBytes_of_ofBytes_float {kind : FloatKind} {raw : Scalar (.float kind)}
    (read : ofBytes data (.float kind) = .ok raw) :
    (RawValue.scalar raw).toBytes = .ok (data.take kind.byteWidth) := by
  refine toBytes_of_ofBytes (fun _ => ofBytes_float_eq kind) kind.byteWidth_pos ?_ read
  intro number fits raw found
  cases found
  rw [toBytes, BinaryFloat.toBits_ofBits (kind.bits_eq ▸ fits)]

/-- A truth value is written back as one if its byte was not zero. -/
theorem toBytes_of_ofBytes_bool {first : UInt8} {rest : Text.Bytes} {raw : Scalar .bool}
    (read : ofBytes (first :: rest) .bool = .ok raw) :
    (RawValue.scalar raw).toBytes = .ok [if first = 0 then 0 else 1] := by
  have byte : naturalOfBytes [first] = first.toNat := by simp [naturalOfBytes]
  rw [ofBytes_of_enough (fun _ => ofBytes_bool_eq) Nat.one_pos (by simp), List.take_succ_cons,
    List.take_zero, byte] at read
  cases read
  by_cases zero : first = 0
  · rw [if_pos zero, zero]
    rfl
  · have more : first.toNat ≠ 0 := fun none => zero (UInt8.toNat_inj.mp none)
    rw [if_neg zero, RawValue.toBytes, toBytes, bne_iff_ne.mpr more]
    rfl

/-! ## Strings and byte sequences -/

/-- What is read as a string is a text that is written as these bytes. -/
theorem ofBytes_string_eq_ok_iff (some : data ≠ []) {text : String} :
    ofBytes data .string = .ok (.string text) ↔ Text.bytesOf text = data := by
  rw [← Text.stringOf_eq_ok_iff, ofBytes, if_neg (by simpa using some)]
  cases Text.stringOf data with
  | error fault =>
      constructor
      · rintro ⟨⟩
      · rintro ⟨⟩
  | ok read =>
      constructor
      · rintro ⟨⟩
        rfl
      · rintro ⟨⟩
        rfl

/-- All other bytes are unreadable. -/
theorem ofBytes_string_unreadable_iff (some : data ≠ []) :
    (∃ fault, ofBytes data .string =
        .error (.unreadable (Text.lossyString data) .string (.notUtf8 fault))) ↔
      ∀ text, Text.bytesOf text ≠ data := by
  constructor
  · rintro ⟨fault, unread⟩ text written
    rw [(ofBytes_string_eq_ok_iff some).mpr written] at unread
    cases unread
  · intro foreign
    rw [ofBytes, if_neg (by simpa using some)]
    cases read : Text.stringOf data with
    | ok text => exact absurd (Text.stringOf_eq_ok_iff.mp read) (foreign text)
    | error fault => exact ⟨fault, rfl⟩

theorem ofBytes_bytes_of_ne_nil (some : data ≠ []) : ofBytes data .bytes = .ok (.bytes data) := by
  rw [ofBytes, if_neg (by simpa using some)]

/-- **The binary form is exact.** A kind of `width` bytes has the fixed big-endian form of
this width; what is read from it is written back as the leading bytes, except that a truth
value is written back as one whenever its byte was not zero. Strings and byte sequences are
their own bytes, both ways: a string is read from the bytes of a text and is unreadable from
all others, and no bytes at all are no scalar of any kind. -/
theorem binary_form :
    (∀ kind width, kind.width? = some width → HasFixedForm kind width) ∧
    (∀ kind (data : Text.Bytes) (raw : Scalar (.integer kind)),
      ofBytes data (.integer kind) = .ok raw →
        (RawValue.scalar raw).toBytes = .ok (data.take kind.byteWidth)) ∧
    (∀ kind (data : Text.Bytes) (raw : Scalar (.float kind)),
      ofBytes data (.float kind) = .ok raw →
        (RawValue.scalar raw).toBytes = .ok (data.take kind.byteWidth)) ∧
    (∀ first (rest : Text.Bytes) (raw : Scalar .bool), ofBytes (first :: rest) .bool = .ok raw →
      (RawValue.scalar raw).toBytes = .ok [if first = 0 then 0 else 1]) ∧
    (∀ text ≠ "", ∃ data ≠ [], (RawValue.scalar (.string text)).toBytes = .ok data ∧
      ofBytes data .string = .ok (.string text)) ∧
    (∀ data ≠ [], ∀ text, ofBytes data .string = .ok (.string text) →
      (RawValue.scalar (.string text)).toBytes = .ok data) ∧
    (∀ data ≠ [], (∃ fault, ofBytes data .string =
        .error (.unreadable (Text.lossyString data) .string (.notUtf8 fault))) ↔
      ∀ text, Text.bytesOf text ≠ data) ∧
    (∀ data ≠ [], ofBytes data .bytes = .ok (.bytes data) ∧
      (RawValue.scalar (.bytes data)).toBytes = .ok data) ∧
    ∀ kind, ofBytes [] kind = .error (.emptyData kind) := by
  refine ⟨fun _ _ => hasFixedForm_of_width?, fun _ _ _ => toBytes_of_ofBytes_integer,
    fun _ _ _ => toBytes_of_ofBytes_float, fun _ _ _ => toBytes_of_ofBytes_bool, ?_, ?_,
    fun _ => ofBytes_string_unreadable_iff, fun _ some => ⟨ofBytes_bytes_of_ne_nil some, rfl⟩,
    fun _ => rfl⟩
  · intro text spelled
    have some : Text.bytesOf text ≠ [] := by
      intro none
      exact spelled (Text.bytesOf_injective (none.trans (rfl : [] = Text.bytesOf "")))
    exact ⟨_, some, rfl, (ofBytes_string_eq_ok_iff some).mpr rfl⟩
  · intro data some text read
    exact congrArg Except.ok ((ofBytes_string_eq_ok_iff some).mp read)

/-- Trailing bytes are passed over, and any byte but zero is true. -/
example : ofBytes [0xFF, 0xFE, 7] (.integer .int16) = .ok (.integer ⟨-2, by decide⟩) ∧
    ofBytes [7] .bool = .ok (.bool true) := by
  constructor
  · rfl
  · rfl

end Scalar

end NamedConstants
