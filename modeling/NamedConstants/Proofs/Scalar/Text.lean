import NamedConstants.Proofs.Scalar.Binary
import NamedConstants.Proofs.Scalar.IntegerText

/-!
# Scalars as text

Integers of every width, truth values and strings are the plain kinds: their scalars are
read back from their text (`ofText_toText`).
-/

set_option autoImplicit false

namespace NamedConstants

namespace IntegerKind

theorem minimum_nonpos (kind : IntegerKind) : kind.minimum ≤ 0 :=
  kind.contains_zero.1

theorem maximum_nonneg (kind : IntegerKind) : 0 ≤ kind.maximum :=
  kind.contains_zero.2

end IntegerKind

/-- The kinds that every codec writes without a form of their own. -/
def Kind.isPlain : Kind → Bool
  | integer _ => true
  | bool => true
  | string => true
  | _ => false

namespace Scalar

/-- A plain scalar is an integer, a truth value or a string. -/
@[elab_as_elim]
theorem plain_cases {motive : (kind : Kind) → Scalar kind → Prop} {kind : Kind}
    (plain : kind.isPlain = true) (raw : Scalar kind)
    (integers : ∀ {width : IntegerKind} (x : BoundedInt width), motive _ (integer x))
    (bools : ∀ value, motive _ (bool value))
    (strings : ∀ text, motive _ (string text)) : motive kind raw := by
  cases raw with
  | integer x => exact integers x
  | bool value => exact bools value
  | string text => exact strings text
  | float => cases plain
  | bytes => cases plain
  | timestamp => cases plain
  | structured => cases plain

theorem integerOfText_writeText {kind : IntegerKind} (x : BoundedInt kind) :
    integerOfText kind (integer x).writeText = .ok (integer x) := by
  rw [integerOfText, writeText, IntegerText.read_write kind.minimum_nonpos kind.maximum_nonneg
    x.contains.1 x.contains.2]
  dsimp only
  rw [ofInt?_value]

theorem boolOfText_toText (value : Bool) : boolOfText (bool value).toText = .ok (bool value) := by
  cases value <;> rfl

/-- **A plain scalar is read back from its text.** -/
theorem ofText_toText {kind : Kind} (plain : kind.isPlain = true) (raw : Scalar kind) :
    ofText raw.toText kind = .ok raw := by
  refine plain_cases plain raw ?_ ?_ ?_
  · intro width x
    rw [ofText, toText, String.toList_ofList, integerOfText_writeText]
    rfl
  · intro value
    rw [ofText, boolOfText_toText]
    rfl
  · intro text
    rw [ofText, toText, writeText, String.ofList_toList]

end Scalar

end NamedConstants
