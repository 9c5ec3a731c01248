import NamedConstants.Companion.Layout
import NamedConstants.Proofs.Text.Piece

/-!
# Lines that are written and lines that are read

A line of code is one line of the text only if it holds no line feed. The lines
that stand in a text are the lines it was written from exactly if none of these
holds a line feed (`linesOf_text_eq_iff`).
-/

set_option autoImplicit false

namespace NamedConstants.Companion

/-- The lines that stand in a text, each ended by a line feed. -/
def linesOf (text : String) : Lines :=
  ((Text.pieces (· == '\n') text.toList).map String.ofList).dropLast

theorem length_linesOf (text : String) : (linesOf text).length = text.toList.count '\n' := by
  rw [linesOf, List.length_dropLast, List.length_map, Text.length_pieces]
  rfl

theorem text_cons (line : String) (lines : Lines) :
    text (line :: lines) = line ++ "\n" ++ text lines :=
  rfl

theorem text_append (lines others : Lines) : text (lines ++ others) = text lines ++ text others := by
  induction lines with
  | nil => exact String.empty_append.symm
  | cons line lines ih =>
      rw [List.cons_append, text_cons, text_cons, ih]
      exact String.append_assoc.symm

theorem toList_text_cons (line : String) (lines : Lines) :
    (text (line :: lines)).toList = line.toList ++ '\n' :: (text lines).toList := by
  rw [text_cons, String.toList_append, String.toList_append, List.append_assoc]
  rfl

/-- A line without a line feed stands in the text as it is. -/
theorem linesOf_text_cons {line : String} (plain : '\n' ∉ line.toList) (lines : Lines) :
    linesOf (text (line :: lines)) = line :: linesOf (text lines) := by
  have whole : ∀ c ∈ line.toList, (c == '\n') = false := by
    intro c listed
    exact beq_false_of_ne fun feed => plain (feed ▸ listed)
  rw [linesOf, toList_text_cons, Text.pieces_append_cons whole (beq_self_eq_true '\n'),
    List.map_cons, String.ofList_toList, List.dropLast_cons_of_ne_nil]
  · rfl
  · simpa using Text.pieces_ne_nil _

/-- Every line ends in a line feed of its own. -/
theorem length_le_count_text (lines : Lines) : lines.length ≤ (text lines).toList.count '\n' := by
  induction lines with
  | nil => exact Nat.zero_le _
  | cons line lines ih =>
      rw [toList_text_cons, List.count_append, List.count_cons_self, List.length_cons]
      omega

theorem count_text_eq_length_iff {lines : Lines} :
    (text lines).toList.count '\n' = lines.length ↔ ∀ line ∈ lines, '\n' ∉ line.toList := by
  induction lines with
  | nil => simp [text]
  | cons line lines ih =>
      have least := length_le_count_text lines
      rw [toList_text_cons, List.count_append, List.count_cons_self, List.length_cons,
        List.forall_mem_cons, ← ih, ← List.count_eq_zero]
      omega

/-- **Lines are read as they were written exactly if none holds a line feed.** -/
theorem linesOf_text_eq_iff {lines : Lines} :
    linesOf (text lines) = lines ↔ ∀ line ∈ lines, '\n' ∉ line.toList := by
  constructor
  · intro same
    rw [← count_text_eq_length_iff, ← length_linesOf, same]
  · intro plain
    induction lines with
    | nil => rfl
    | cons line lines ih =>
        obtain ⟨head, tail⟩ := List.forall_mem_cons.mp plain
        rw [linesOf_text_cons head, ih tail]

end NamedConstants.Companion
