import NamedConstants.Text.Utf8

/-!
# Reading back UTF-8

A character is written as one to four bytes, and the reader finds exactly this
character and this width at the front of whatever follows
(`utf8Step_encodeChar`). So a text is determined by its bytes, and both readers,
the strict one and the lenient one, return it (`decode_encode`,
`decodeLossy_encode`).
-/

set_option autoImplicit false

namespace NamedConstants.Text

/-! ## One character -/

/-- The numbers of characters: no surrogate and nothing above the last one. -/
theorem toNat_bounds (c : Char) :
    c.toNat < 0xD800 ∨ (0xDFFF < c.toNat ∧ c.toNat < 0x110000) := by
  have valid := c.valid
  simp only [UInt32.isValidChar, Nat.isValidChar] at valid
  exact valid

theorem toNat_ofNat_of_lt {n : Nat} (below : n < 256) : (UInt8.ofNat n).toNat = n := by
  rw [UInt8.toNat_ofNat']
  exact Nat.mod_eq_of_lt below

/-- A byte of the form that continues a character, with its six bits. -/
theorem continuation_ofNat (n : Nat) :
    isContinuation (UInt8.ofNat (n % 64 + 0x80)) = true ∧
      continuationBits (UInt8.ofNat (n % 64 + 0x80)) = n % 64 := by
  have value : (UInt8.ofNat (n % 64 + 0x80)).toNat = n % 64 + 0x80 :=
    toNat_ofNat_of_lt (by omega)
  constructor
  · simp only [isContinuation, value, Bool.and_eq_true, decide_eq_true_eq]
    omega
  · calc (UInt8.ofNat (n % 64 + 0x80)).toNat - 0x80
        = n % 64 + 0x80 - 0x80 := congrArg (· - 0x80) value
      _ = n % 64 := Nat.add_sub_cancel _ _

/-- The test for a range of bytes. -/
theorem inRange_iff (low high n : Nat) :
    (decide (low ≤ n) && decide (n ≤ high)) = true ↔ low ≤ n ∧ n ≤ high := by
  rw [Bool.and_eq_true, decide_eq_true_eq, decide_eq_true_eq]

theorem stepTwo_encode {n : Nat} (low : 0x80 ≤ n) (high : n < 0x800) (rest : Bytes) :
    stepTwo (n / 64 % 32 + 0xC0) (UInt8.ofNat (n % 64 + 0x80) :: rest) =
      .character (Char.ofNat n) 2 := by
  obtain ⟨isNext, bits⟩ := continuation_ofNat n
  have value : (n / 64 % 32 + 0xC0 - 0xC0) * 64 + n % 64 = n := by omega
  simp only [stepTwo, isNext, bits, value, if_true]

theorem stepThree_encode {n : Nat} (low : 0x800 ≤ n) (high : n < 0x10000)
    (notSurrogate : n < 0xD800 ∨ 0xDFFF < n) (rest : Bytes) :
    stepThree (n / 4096 % 16 + 0xE0)
        (UInt8.ofNat (n / 64 % 64 + 0x80) :: UInt8.ofNat (n % 64 + 0x80) :: rest) =
      .character (Char.ofNat n) 3 := by
  obtain ⟨isNext, bits⟩ := continuation_ofNat n
  obtain ⟨_, middle⟩ := continuation_ofNat (n / 64)
  have second : isSecondOfThree (n / 4096 % 16 + 0xE0)
      (UInt8.ofNat (n / 64 % 64 + 0x80)).toNat = true := by
    rw [toNat_ofNat_of_lt (by omega)]
    simp only [isSecondOfThree, Bool.or_eq_true, Bool.and_eq_true, decide_eq_true_eq, beq_iff_eq,
      bne_iff_ne]
    omega
  have value : ((n / 4096 % 16 + 0xE0 - 0xE0) * 64 + n / 64 % 64) * 64 + n % 64 = n := by omega
  simp only [stepThree, second, isNext, bits, middle, value, if_true]

theorem stepFour_encode {n : Nat} (low : 0x10000 ≤ n) (high : n < 0x110000) (rest : Bytes) :
    stepFour (n / 262144 % 8 + 0xF0)
        (UInt8.ofNat (n / 4096 % 64 + 0x80) :: UInt8.ofNat (n / 64 % 64 + 0x80) ::
          UInt8.ofNat (n % 64 + 0x80) :: rest) =
      .character (Char.ofNat n) 4 := by
  obtain ⟨isNext, bits⟩ := continuation_ofNat n
  obtain ⟨isThird, third⟩ := continuation_ofNat (n / 64)
  obtain ⟨_, middle⟩ := continuation_ofNat (n / 4096)
  have second : isSecondOfFour (n / 262144 % 8 + 0xF0)
      (UInt8.ofNat (n / 4096 % 64 + 0x80)).toNat = true := by
    rw [toNat_ofNat_of_lt (by omega)]
    simp only [isSecondOfFour, Bool.or_eq_true, Bool.and_eq_true, decide_eq_true_eq, beq_iff_eq,
      bne_iff_ne]
    omega
  have value : (((n / 262144 % 8 + 0xF0 - 0xF0) * 64 + n / 4096 % 64) * 64 + n / 64 % 64) * 64 +
      n % 64 = n := by omega
  simp only [stepFour, second, isThird, third, isNext, bits, middle, value, if_true]

/-- **The reader finds a written character at the front of what follows.** -/
theorem utf8Step_encodeChar (c : Char) (rest : Bytes) :
    ∃ lead more, String.utf8EncodeChar c = lead :: more ∧
      utf8Step lead (more ++ rest) = .character c (more.length + 1) := by
  have bounds := toNat_bounds c
  have same : Char.ofNat c.toNat = c := Char.ofNat_toNat c
  -- the cases are the four widths of the written form
  by_cases one : c.toNat < 0x80
  · refine ⟨UInt8.ofNat c.toNat, [], ?_, ?_⟩
    · have narrow : c.val.toNat ≤ 0x7f := by change c.toNat ≤ 0x7f; omega
      rw [String.utf8EncodeChar, if_pos narrow]
      rfl
    · rw [utf8Step, toNat_ofNat_of_lt (by omega), if_pos one, same]
      rfl
  have wide : ¬c.val.toNat ≤ 0x7f := by change ¬c.toNat ≤ 0x7f; omega
  by_cases two : c.toNat < 0x800
  · have narrow : c.val.toNat ≤ 0x7ff := by change c.toNat ≤ 0x7ff; omega
    refine ⟨_, _, by rw [String.utf8EncodeChar, if_neg wide, if_pos narrow], ?_⟩
    change utf8Step (UInt8.ofNat (c.toNat / 64 % 32 + 0xC0))
      (UInt8.ofNat (c.toNat % 64 + 0x80) :: rest) = .character c 2
    rw [utf8Step, toNat_ofNat_of_lt (by omega), if_neg (by omega),
      if_pos ((inRange_iff _ _ _).mpr (by omega)), stepTwo_encode (by omega) two, same]
  have wider : ¬c.val.toNat ≤ 0x7ff := by change ¬c.toNat ≤ 0x7ff; omega
  by_cases three : c.toNat < 0x10000
  · have narrow : c.val.toNat ≤ 0xffff := by change c.toNat ≤ 0xffff; omega
    refine ⟨_, _, by rw [String.utf8EncodeChar, if_neg wide, if_neg wider, if_pos narrow], ?_⟩
    change utf8Step (UInt8.ofNat (c.toNat / 4096 % 16 + 0xE0))
      (UInt8.ofNat (c.toNat / 64 % 64 + 0x80) :: UInt8.ofNat (c.toNat % 64 + 0x80) :: rest) =
        .character c 3
    rw [utf8Step, toNat_ofNat_of_lt (by omega), if_neg (by omega),
      if_neg (mt (inRange_iff _ _ _).mp (by omega)), if_pos ((inRange_iff _ _ _).mpr (by omega)),
      stepThree_encode (by omega) three (by omega), same]
  · have widest : ¬c.val.toNat ≤ 0xffff := by change ¬c.toNat ≤ 0xffff; omega
    refine ⟨_, _, by rw [String.utf8EncodeChar, if_neg wide, if_neg wider, if_neg widest], ?_⟩
    change utf8Step (UInt8.ofNat (c.toNat / 262144 % 8 + 0xF0))
      (UInt8.ofNat (c.toNat / 4096 % 64 + 0x80) :: UInt8.ofNat (c.toNat / 64 % 64 + 0x80) ::
        UInt8.ofNat (c.toNat % 64 + 0x80) :: rest) = .character c 4
    rw [utf8Step, toNat_ofNat_of_lt (by omega), if_neg (by omega),
      if_neg (mt (inRange_iff _ _ _).mp (by omega)), if_neg (mt (inRange_iff _ _ _).mp (by omega)),
      if_pos ((inRange_iff _ _ _).mpr (by omega)), stepFour_encode (by omega) (by omega), same]

/-! ## Whole texts -/

theorem encode_cons (c : Char) (text : List Char) :
    encode (c :: text) = String.utf8EncodeChar c ++ encode text := rfl

theorem encode_append (front rest : List Char) :
    encode (front ++ rest) = encode front ++ encode rest :=
  List.flatMap_append

/-- The strict reader returns a written text, wherever it starts to count. -/
theorem decodeFrom_encode (text : List Char) (position : Nat) :
    decodeFrom position (encode text) = .ok text := by
  induction text generalizing position with
  | nil => rw [encode, List.flatMap_nil, decodeFrom]
  | cons c text ih =>
      obtain ⟨lead, more, written, step⟩ := utf8Step_encodeChar c (encode text)
      rw [encode_cons, written, List.cons_append, decodeFrom, step]
      simp only [Nat.add_sub_cancel, List.drop_left, ih]

/-- **The strict reader returns a written text.** -/
theorem decode_encode (text : List Char) : decode (encode text) = .ok text :=
  decodeFrom_encode text 0

/-- **The lenient reader returns a written text.** -/
theorem decodeLossy_encode (text : List Char) : decodeLossy (encode text) = text := by
  induction text with
  | nil => rw [encode, List.flatMap_nil, decodeLossy]
  | cons c text ih =>
      obtain ⟨lead, more, written, step⟩ := utf8Step_encodeChar c (encode text)
      rw [encode_cons, written, List.cons_append, decodeLossy, step]
      simp only [Nat.add_sub_cancel, List.drop_left, ih]

/-- Different texts have different bytes. -/
theorem encode_injective {first second : List Char} (same : encode first = encode second) :
    first = second := by
  have read := decode_encode first
  rw [same, decode_encode second] at read
  exact (Except.ok.inj read).symm

/-! ## Strings -/

@[simp] theorem stringOf_bytesOf (text : String) : stringOf (bytesOf text) = .ok text := by
  rw [stringOf, bytesOf, decode_encode]
  simp only [String.ofList_toList]

@[simp] theorem lossyString_encode (text : List Char) :
    lossyString (encode text) = String.ofList text := by
  rw [lossyString, decodeLossy_encode]

theorem bytesOf_append (front rest : String) :
    bytesOf (front ++ rest) = bytesOf front ++ bytesOf rest := by
  rw [bytesOf, String.toList_append, encode_append, bytesOf, bytesOf]

/-- The bytes of a string are counted as the platform counts them. -/
theorem length_bytesOf (text : String) : (bytesOf text).length = text.utf8ByteSize := by
  rw [← String.size_toByteArray, ← String.utf8Encode_toList]
  exact List.size_toByteArray.symm

theorem bytesOf_injective {first second : String} (same : bytesOf first = bytesOf second) :
    first = second :=
  String.toList_inj.mp (encode_injective same)

end NamedConstants.Text
