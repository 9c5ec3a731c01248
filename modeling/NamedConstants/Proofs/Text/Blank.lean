import NamedConstants.Proofs.Text.DecimalDigits
import NamedConstants.Proofs.Text.Letter
import NamedConstants.Text.Blank

/-!
# Trimmed texts

What stands between blanks is what is left when they are stripped, provided that it has
none of its own (`trim_between`). Digits and signs are no blanks.
-/

set_option autoImplicit false

namespace NamedConstants.Text

theorem isBlank_of_isDigit {c : Char} (digit : c.isDigit = true) : isBlank c = false :=
  of_ascii (motive := fun c => c.isDigit = true → isBlank c = false) (by decide +kernel)
    (ascii_of_isDigit digit) digit

theorem trimStart_between {before : List Char} (blank : ∀ c ∈ before, isBlank c = true)
    {c : Char} (visible : isBlank c = false) (rest : List Char) :
    trimStart (before ++ c :: rest) = c :: rest := by
  rw [trimStart, List.dropWhile_append_of_pos blank,
    List.dropWhile_cons_of_neg (Bool.eq_false_iff.mp visible)]

theorem trimEnd_eq (text : List Char) : trimEnd text = (trimStart text.reverse).reverse :=
  rfl

/-- **A text without blanks is what is left of it between blanks.** -/
theorem trim_between {before body after : List Char} (blank : ∀ c ∈ before, isBlank c = true)
    (blank' : ∀ c ∈ after, isBlank c = true) (some : body ≠ [])
    (visible : ∀ c ∈ body, isBlank c = false) : trim (before ++ (body ++ after)) = body := by
  have start : trimStart (before ++ (body ++ after)) = body ++ after := by
    obtain ⟨c, rest, text⟩ := List.exists_cons_of_ne_nil some
    rw [text, List.cons_append]
    exact trimStart_between blank (visible c (text ▸ List.mem_cons_self)) _
  obtain ⟨c, rest, text⟩ := List.exists_cons_of_ne_nil (mt List.reverse_eq_nil_iff.mp some)
  have last : c ∈ body := List.mem_reverse.mp (text ▸ List.mem_cons_self)
  rw [trim, start, trimEnd_eq, List.reverse_append, text,
    trimStart_between (fun d member => blank' d (List.mem_reverse.mp member)) (visible c last),
    ← text, List.reverse_reverse]

/-- Nothing is left of blanks. -/
theorem trim_of_forall {blanks : List Char} (blank : ∀ c ∈ blanks, isBlank c = true) :
    trim blanks = [] := by
  have nothing : trimStart (blanks ++ []) = [] := List.dropWhile_append_of_pos blank
  rw [List.append_nil] at nothing
  rw [trim, nothing]
  rfl

/-- A text without blanks, which may be empty, is what is left of it between blanks. -/
theorem trim_padded {before body after : List Char} (blank : ∀ c ∈ before, isBlank c = true)
    (blank' : ∀ c ∈ after, isBlank c = true) (visible : ∀ c ∈ body, isBlank c = false) :
    trim (before ++ (body ++ after)) = body := by
  cases body with
  | nil =>
      refine trim_of_forall fun c inside => ?_
      rcases List.mem_append.mp inside with front | back
      · exact blank c front
      · exact blank' c back
  | cons c body => exact trim_between blank blank' (List.cons_ne_nil c body) visible

end NamedConstants.Text
