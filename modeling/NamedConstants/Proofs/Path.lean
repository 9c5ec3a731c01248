import NamedConstants.Path
import NamedConstants.Proofs.FileName
import NamedConstants.Proofs.Text.Piece

/-!
# Names at the end of paths

When the last piece of a path is a name, the path splits into its directory and
this name (`split?_of_isName`), and what is put behind a directory keeps its last
piece (`getLast?_join`). What trimming and joining take away is idle
(`exists_idle_of_trimmed`, `exists_idle_of_join`). A name with an extension is
its stem, a dot and the extension, and so is what is shown of it
(`bytes_of_extension?_eq_some`, `text_of_extension?_eq_some`).
-/

set_option autoImplicit false

namespace NamedConstants.Path

/-! ## Spelling -/

theorem ne_slash_of_not_mem {bytes : Text.Bytes} (plain : FileName.slash ∉ bytes) :
    ∀ byte ∈ bytes, (byte == FileName.slash) = false := fun _ listed =>
  beq_false_of_ne fun slash => plain (slash ▸ listed)

/-- Bytes without slashes are a relative path of one piece. -/
theorem ofBytes_of_not_mem {bytes : Text.Bytes} (plain : FileName.slash ∉ bytes) :
    ofBytes bytes = ⟨false, [⟨bytes⟩]⟩ := by
  have whole := ne_slash_of_not_mem plain
  cases bytes with
  | nil => rfl
  | cons first rest =>
      have other : ¬(first == FileName.slash) = true :=
        Bool.eq_false_iff.mp (whole first List.mem_cons_self)
      rw [ofBytes, if_neg other, cut, Text.pieces_of_forall whole, List.map_singleton]

theorem ofText_of_not_mem {text : String} (plain : '/' ∉ text.toList) :
    ofText text = ⟨false, [.ofText text]⟩ :=
  ofBytes_of_not_mem (mt FileName.slash_mem_ofText_iff.mp plain)

/-- An ending without slashes ends the last piece. -/
theorem getLast?_pieces_ofBytes (front : Text.Bytes) {ending : Text.Bytes}
    (plain : FileName.slash ∉ ending) :
    ∃ last, (ofBytes (front ++ ending)).pieces.getLast? = some ⟨last ++ ending⟩ := by
  have ends (rest : Text.Bytes) :
      ∃ last, (cut (rest ++ ending)).getLast? = some ⟨last ++ ending⟩ := by
    obtain ⟨last, found⟩ := Text.getLast?_pieces_append rest (ne_slash_of_not_mem plain)
    exact ⟨last, by rw [cut, List.getLast?_map, found]; rfl⟩
  cases front with
  | nil =>
      rw [List.nil_append, ofBytes_of_not_mem plain]
      exact ⟨[], rfl⟩
  | cons first rest =>
      rw [List.cons_append, ofBytes]
      split
      · exact ends rest
      · exact ends (first :: rest)

theorem getLast?_pieces_ofText (front : String) {ending : String}
    (plain : '/' ∉ ending.toList) :
    ∃ last, (ofText (front ++ ending)).pieces.getLast? = some last ∧
      ending.toList <:+ last.text.toList := by
  obtain ⟨last, found⟩ := getLast?_pieces_ofBytes (Text.bytesOf front)
    (mt FileName.slash_mem_ofText_iff.mp plain)
  refine ⟨⟨last ++ Text.bytesOf ending⟩, ?_, ?_⟩
  · rw [ofText, Text.bytesOf_append]
    exact found
  · rw [FileName.text_append_ofText, String.toList_append]
    exact List.suffix_append _ _

/-- A piece of a path that bytes spell holds no slash. -/
theorem slash_not_mem_of_ofBytes {bytes : Text.Bytes} {piece : FileName}
    (listed : piece ∈ (ofBytes bytes).pieces) : FileName.slash ∉ piece.bytes := by
  have inside (rest : Text.Bytes) (listed : piece ∈ cut rest) : FileName.slash ∉ piece.bytes := by
    obtain ⟨own, inside, rfl⟩ := List.mem_map.mp listed
    intro slash
    exact Bool.false_ne_true (Text.not_isSeparator_of_mem_pieces inside _ slash).symm
  cases bytes with
  | nil => exact inside [] listed
  | cons first rest =>
      rw [ofBytes] at listed
      split at listed
      · exact inside rest listed
      · exact inside (first :: rest) listed

/-- Only no bytes spell a relative path that starts with an empty piece. -/
theorem eq_nil_of_ofBytes {bytes : Text.Bytes} {rest : List FileName}
    (relative : (ofBytes bytes).isAbsolute = false)
    (starts : (ofBytes bytes).pieces = .ofText "" :: rest) : rest = [] := by
  cases bytes with
  | nil => exact (List.cons.inj starts).2.symm
  | cons first others =>
      rw [ofBytes] at relative starts
      split at starts
      · rename_i slash
        rw [if_pos slash] at relative
        cases relative
      · -- The first piece takes the first byte, which is no slash.
        rename_i plain
        dsimp only [cut] at starts
        rw [Text.pieces, if_neg plain] at starts
        split at starts
        · cases congrArg FileName.bytes (List.cons.inj starts).1
        · cases congrArg FileName.bytes (List.cons.inj starts).1

/-- What is put behind a directory keeps its last piece. -/
theorem getLast?_join (directory : Path) {path : Path} {last : FileName}
    (ends : path.pieces.getLast? = some last) :
    (directory.join path).pieces.getLast? = some last := by
  unfold join
  split
  · exact ends
  · split
    · rw [List.getLast?_append, ends, Option.some_or]
    · rw [List.getLast?_append, ends, Option.some_or]

/-! ## Directory and name -/

theorem isIdle_of_isName {name : FileName} (named : isName name = true) : isIdle name = false := by
  rw [isName, Bool.and_eq_true, Bool.not_eq_true'] at named
  exact named.1

/-- Nothing is trimmed behind a name. -/
theorem trimEnd_concat {name : FileName} (named : isName name = true) (pieces : List FileName) :
    trimEnd (pieces ++ [name]) = pieces ++ [name] := by
  have idle := isIdle_of_isName named
  simp [trimEnd, idle]

theorem trimmed_of_isName {path : Path} {name : FileName}
    (ends : path.pieces.getLast? = some name) (named : isName name = true) :
    path.trimmed = path := by
  obtain ⟨isAbsolute, pieces⟩ := path
  obtain ⟨before, rfl⟩ := List.getLast?_eq_some_iff.mp ends
  cases isAbsolute with
  | true => simp only [trimmed, trimEnd_concat named]
  | false =>
      cases before with
      | nil => rfl
      | cons first before => simp only [trimmed, List.cons_append, trimEnd_concat named]

/-- A path that ends in a name splits into its directory and the name. -/
theorem split?_of_isName {path : Path} {name : FileName}
    (ends : path.pieces.getLast? = some name) (named : isName name = true) :
    path.split? = some (trimmed ⟨path.isAbsolute, path.pieces.dropLast⟩, name) := by
  obtain ⟨before, split⟩ := List.getLast?_eq_some_iff.mp ends
  rw [split?, trimmed_of_isName ends named, split, List.reverse_append, List.reverse_singleton,
    List.singleton_append]
  simp [named]

/-- A path that splits ends in a name, but for idle pieces. -/
theorem exists_of_split? {path directory : Path} {name : FileName}
    (split : path.split? = some (directory, name)) :
    ∃ before, path.trimmed.pieces = before ++ [name] ∧ isName name = true ∧
      directory = trimmed ⟨path.isAbsolute, before⟩ := by
  unfold split? at split
  split at split
  · rename_i last before reversed
    split at split
    · rename_i named
      obtain ⟨rfl, rfl⟩ := Prod.mk.inj (Option.some.inj split)
      refine ⟨before.reverse, ?_, named, rfl⟩
      rw [← List.reverse_reverse path.trimmed.pieces, reversed, List.reverse_cons]
    · cases split
  · cases split

theorem isName_of_fileName? {path : Path} {name : FileName} (called : path.fileName? = some name) :
    isName name = true := by
  obtain ⟨⟨directory, own⟩, split, rfl⟩ := Option.map_eq_some_iff.mp called
  obtain ⟨-, -, named, -⟩ := exists_of_split? split
  exact named

/-- What is trimmed is idle. -/
theorem exists_idle_of_trimmed (path : Path) :
    path.trimmed.isAbsolute = path.isAbsolute ∧
      ∃ idles, path.pieces = path.trimmed.pieces ++ idles ∧
        ∀ piece ∈ idles, isIdle piece = true := by
  have ends (pieces : List FileName) :
      ∃ idles, pieces = trimEnd pieces ++ idles ∧ ∀ piece ∈ idles, isIdle piece = true := by
    refine ⟨(pieces.reverse.takeWhile isIdle).reverse, ?_, fun piece listed => ?_⟩
    · rw [trimEnd, ← List.reverse_append, List.takeWhile_append_dropWhile, List.reverse_reverse]
    · exact List.all_eq_true.mp List.all_takeWhile piece (List.mem_reverse.mp listed)
  obtain ⟨isAbsolute, pieces⟩ := path
  cases isAbsolute with
  | true => exact ⟨rfl, ends pieces⟩
  | false =>
      cases pieces with
      | nil => exact ⟨rfl, ends []⟩
      | cons first rest =>
          obtain ⟨idles, split, idle⟩ := ends rest
          exact ⟨rfl, idles, congrArg (first :: ·) split, idle⟩

/-- A directory loses at most an idle piece when a name is put behind it. -/
theorem exists_idle_of_join (directory : Path) (pieces : List FileName) :
    ∃ kept idles, directory.pieces = kept ++ idles ∧ (∀ piece ∈ idles, isIdle piece = true) ∧
      directory.join ⟨false, pieces⟩ = ⟨directory.isAbsolute, kept ++ pieces⟩ := by
  unfold join
  rw [if_neg Bool.false_ne_true]
  split
  · rename_i ends
    obtain ⟨before, split⟩ := List.getLast?_eq_some_iff.mp (beq_iff_eq.mp ends)
    refine ⟨before, [""], split, by simp [isIdle], ?_⟩
    rw [split, List.dropLast_concat]
  · exact ⟨directory.pieces, [], (List.append_nil _).symm, by simp, rfl⟩

/-- A path that ends in a name is spelled by some bytes. -/
theorem isEmpty_bytes_of_isName {path : Path} {name : FileName}
    (ends : path.pieces.getLast? = some name) (named : isName name = true) :
    path.bytes.isEmpty = false := by
  have joined (pieces : List Text.Bytes) (last : Text.Bytes) (ends : pieces.getLast? = some last) :
      last <:+ Text.join [FileName.slash] pieces := by
    induction pieces with
    | nil => cases ends
    | cons piece others ih =>
        cases others with
        | nil =>
            cases ends
            exact List.suffix_refl _
        | cons next others =>
            rw [List.getLast?_cons_cons] at ends
            exact (ih ends).trans (List.suffix_append _ _)
  have spelled : name.bytes <:+ path.bytes := by
    refine (joined _ _ ?_).trans (List.suffix_append _ _)
    rw [List.getLast?_map, ends, Option.map_some]
  refine Bool.eq_false_iff.mpr fun empty => ?_
  rw [List.isEmpty_iff.mp empty] at spelled
  have nothing : name = "" := congrArg FileName.mk (List.suffix_nil.mp spelled)
  rw [nothing] at named
  exact absurd named (by decide)

/-! ## Directories of spelled paths -/

/-- Trimmed pieces do not end idly. -/
theorem isIdle_of_getLast?_trimEnd {pieces : List FileName} {last : FileName}
    (ends : (trimEnd pieces).getLast? = some last) : isIdle last = false := by
  rw [trimEnd, List.getLast?_reverse] at ends
  have busy := List.head?_dropWhile_not isIdle pieces.reverse
  rw [ends] at busy
  exact busy

theorem trimEnd_trimEnd (pieces : List FileName) : trimEnd (trimEnd pieces) = trimEnd pieces := by
  rcases List.eq_nil_or_concat (trimEnd pieces) with none | ⟨before, last, split⟩
  · rw [none]
    rfl
  · rw [List.concat_eq_append] at split
    have busy : isIdle last = false :=
      isIdle_of_getLast?_trimEnd (by rw [split, List.getLast?_concat])
    rw [split, trimEnd, List.reverse_concat, List.dropWhile_cons_of_neg (by simp [busy]),
      List.reverse_cons, List.reverse_reverse]

/-- The directory of a path that bytes spell is trimmed, and does not end in an empty
piece. -/
theorem directory_of_ofBytes {bytes : Text.Bytes} {name : FileName} {directory : Path}
    (split : (ofBytes bytes).split? = some (directory, name)) :
    directory.trimmed = directory ∧ directory.pieces.getLast? ≠ some ("" : FileName) := by
  have busy (pieces : List FileName) :
      (trimEnd pieces).getLast? ≠ some ("" : FileName) := fun ends =>
    absurd (isIdle_of_getLast?_trimEnd ends) (by decide)
  obtain ⟨before, trimmed, -, rfl⟩ := exists_of_split? split
  cases absolute : (ofBytes bytes).isAbsolute with
  | true => exact ⟨congrArg (Path.mk true) (trimEnd_trimEnd before), busy before⟩
  | false =>
      cases before with
      | nil => exact ⟨rfl, fun ends => by cases ends⟩
      | cons first before =>
          refine ⟨congrArg (fun pieces => Path.mk false (first :: pieces)) (trimEnd_trimEnd before),
            ?_⟩
          -- An empty first piece would be the only one of the path.
          have filled : first ≠ "" := by
            rintro rfl
            obtain ⟨-, idles, pieces, -⟩ := exists_idle_of_trimmed (ofBytes bytes)
            rw [trimmed] at pieces
            have none := eq_nil_of_ofBytes absolute pieces
            simp at none
          change (first :: trimEnd before).getLast? ≠ some ("" : FileName)
          rw [List.getLast?_cons]
          cases ends : (trimEnd before).getLast? with
          | none => simpa using filled
          | some last => exact fun same => busy before (ends.trans same)

/-- Another name is put into the same directory. -/
theorem split?_join_of_ofBytes {bytes : Text.Bytes} {name other : FileName} {directory : Path}
    (split : (ofBytes bytes).split? = some (directory, name)) (named : isName other = true) :
    (directory.join ⟨false, [other]⟩).split? = some (directory, other) := by
  obtain ⟨settled, busy⟩ := directory_of_ofBytes split
  have joined : directory.join ⟨false, [other]⟩ =
      ⟨directory.isAbsolute, directory.pieces ++ [other]⟩ := by
    rw [join, if_neg Bool.false_ne_true, if_neg (by simpa using busy)]
  rw [joined, split?_of_isName List.getLast?_concat named, List.dropLast_concat, settled]

/-- The name of a path that bytes spell holds no slash. -/
theorem slash_not_mem_of_split? {bytes : Text.Bytes} {name : FileName} {directory : Path}
    (split : (ofBytes bytes).split? = some (directory, name)) : FileName.slash ∉ name.bytes := by
  obtain ⟨before, trimmed, -, -⟩ := exists_of_split? split
  obtain ⟨-, idles, pieces, -⟩ := exists_idle_of_trimmed (ofBytes bytes)
  refine @slash_not_mem_of_ofBytes bytes name ?_
  rw [pieces, trimmed]
  simp

/-! ## Extensions -/

section Extensions

variable {name extension : FileName}

/-- A name with an extension is its stem, a dot and the extension. -/
theorem bytes_of_extension?_eq_some (extended : extension? name = some extension) :
    name.bytes = (stem name).bytes ++ FileName.dot :: extension.bytes := by
  unfold extension? cutName at extended
  unfold stem cutName
  split at extended
  · cases extended
  · cases extended
  · rename_i after before notHidden cut
    cases extended
    -- The name was cut from its end, so everything is reversed.
    rw [← List.reverse_inj, Text.eq_of_cut?_eq_some cut]
    simp

/-- What is shown of a name with an extension is what is shown of its parts. -/
theorem text_of_extension?_eq_some (extended : extension? name = some extension) :
    name.text = (stem name).text ++ "." ++ extension.text := by
  obtain ⟨bytes⟩ := name
  have whole : bytes = _ := bytes_of_extension?_eq_some extended
  have ascii : FileName.dot.toNat < 0x80 := by decide
  calc FileName.text ⟨bytes⟩
    _ = FileName.text ⟨(stem ⟨bytes⟩).bytes ++ FileName.dot :: extension.bytes⟩ := by rw [← whole]
    _ = _ := FileName.text_append_of_ascii _ ascii _

/-- What stands behind the last dot holds no dot. -/
theorem dot_not_mem_extension (extended : extension? name = some extension) :
    FileName.dot ∉ extension.bytes := by
  unfold extension? cutName at extended
  split at extended
  · cases extended
  · cases extended
  · rename_i after before notHidden cut
    cases extended
    rw [List.mem_reverse]
    exact Text.not_mem_of_cut?_eq_some cut

/-- Bytes are cut at their last dot in one way. -/
theorem append_dot_inj {front front' ending ending' : Text.Bytes}
    (plain : FileName.dot ∉ ending) (plain' : FileName.dot ∉ ending')
    (same : front ++ FileName.dot :: ending = front' ++ FileName.dot :: ending') :
    front = front' ∧ ending = ending' := by
  have reversed (front ending : Text.Bytes) : (front ++ FileName.dot :: ending).reverse =
      ending.reverse ++ FileName.dot :: front.reverse := by
    simp
  have cut := Text.cut?_append (mt List.mem_reverse.mp plain) front.reverse
  rw [← reversed, same, reversed, Text.cut?_append (mt List.mem_reverse.mp plain')] at cut
  obtain ⟨endings, fronts⟩ := Prod.mk.inj (Option.some.inj cut)
  exact ⟨(List.reverse_inj.mp fronts).symm, (List.reverse_inj.mp endings).symm⟩

/-- A name without an extension is its stem. -/
theorem stem_of_extension?_eq_none (plain : extension? name = none) : stem name = name := by
  unfold extension? cutName at plain
  unfold stem cutName
  split at plain
  · rfl
  · rfl
  · cases plain

/-- A stem is shown with no characters of its own. -/
theorem mem_of_mem_text_stem {c : Char} (listed : c ∈ (stem name).text.toList) :
    c ∈ name.text.toList := by
  cases extended : extension? name with
  | none => rwa [stem_of_extension?_eq_none extended] at listed
  | some extension =>
      rw [text_of_extension?_eq_some extended, String.toList_append, String.toList_append]
      exact List.mem_append_left _ (List.mem_append_left _ listed)

end Extensions

end NamedConstants.Path
