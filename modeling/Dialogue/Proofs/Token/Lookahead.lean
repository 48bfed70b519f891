import Dialogue.Proofs.Token.Kinds

/-!
# One character ahead

What a rule takes depends on the piece and on the one character behind it: a keyword
must not go on as a longer one, and a name, blanks and a comment end where they can.  So
a piece is taken again wherever the same character stands behind it.
-/

namespace Dialogue

/-! ## Keywords -/

theorem Keyword.length_le_of_prefix {word other : Keyword} (longer : word.letters <+: other.letters) :
    other.letters.length ≤ word.letters.length + 1 := by
  revert longer
  cases word <;> cases other <;> decide

theorem Keyword.prefix_append_iff {word other : Keyword} {rest : List Char} :
    other.letters <+: word.letters ++ rest ↔
      other.letters <+: word.letters ∨ ∃ c ∈ rest.head?, other.letters = word.letters ++ [c] := by
  constructor
  · rintro ⟨tail, whole⟩
    rcases List.append_eq_append_iff.mp whole with ⟨more, shorter, -⟩ | ⟨more, longer, behind⟩
    · exact .inl ⟨more, shorter.symm⟩
    · have short := length_le_of_prefix ⟨more, longer.symm⟩
      rw [longer, List.length_append] at short
      match more with
      | [] => exact .inl ⟨[], by simp [longer]⟩
      | [c] => exact .inr ⟨c, by simp [behind], longer⟩
      | _ :: _ :: _ => simp at short
  · rintro (⟨more, shorter⟩ | ⟨c, front, longer⟩)
    · exact ⟨more ++ rest, by rw [← List.append_assoc, shorter]⟩
    · obtain ⟨tail, rfl⟩ := List.head?_eq_some_iff.mp front
      exact ⟨tail, by simp [longer]⟩

theorem Keyword.strip?_isSome_iff {word : Keyword} {text : List Char} :
    (word.strip? text).isSome ↔ word.letters <+: text := by
  rw [Option.isSome_iff_exists]
  constructor
  · rintro ⟨tail, found⟩
    exact ⟨tail, (strip?_eq_some.mp found).symm⟩
  · rintro ⟨tail, whole⟩
    exact ⟨tail, strip?_eq_some.mpr whole.symm⟩

namespace Lexicon

variable {lexicon : Lexicon} {rest rest' : List Char}

theorem endsWord_congr (same : rest'.head? = rest.head?) :
    lexicon.endsWord rest' = lexicon.endsWord rest := by
  unfold endsWord
  cases lexicon.matching <;> cases rest <;> cases rest' <;> cases same <;> rfl

theorem endsWord_append_congr (same : rest'.head? = rest.head?) (more : List Char) :
    lexicon.endsWord (more ++ rest') = lexicon.endsWord (more ++ rest) :=
  endsWord_congr (by rw [List.head?_append, List.head?_append, same])

theorem Delimits.congr (delimits : lexicon.Delimits rest) (same : rest'.head? = rest.head?) :
    lexicon.Delimits rest' := by
  intro c front
  exact delimits c (same ▸ front)

theorem keyword?_congr {word : Keyword}
    (found : lexicon.keyword? (word.letters ++ rest) = some (word, rest))
    (same : rest'.head? = rest.head?) :
    lexicon.keyword? (word.letters ++ rest') = some (word, rest') := by
  cases matching : lexicon.matching with
  | wordBoundary =>
      have delimits := delimits_of_endsWord matching (keyword?_eq_some found).2
      exact keyword?_letters word (delimits.congr same)
  | bare =>
      have ends (text : List Char) : lexicon.endsWord text = true := by
        simp only [endsWord, matching]
      simp only [keyword?, ends, if_true] at found ⊢
      obtain ⟨earlier, other, later, table, first, refused⟩ := List.findSome?_eq_some_iff.mp found
      obtain ⟨_, -, same'⟩ := Option.bind_eq_some_iff.mp first
      cases same'
      refine List.findSome?_eq_some_iff.mpr ⟨earlier, _, later, table, ?_, ?_⟩
      · rw [Keyword.strip?_eq_some.mpr rfl, Option.bind_some]
      · intro other member
        refine Option.bind_eq_none_iff.mpr fun tail front => ?_
        have begins := Keyword.strip?_isSome_iff.mp (Option.isSome_of_eq_some front)
        rw [Keyword.prefix_append_iff, same, ← Keyword.prefix_append_iff,
          ← Keyword.strip?_isSome_iff, Option.isSome_iff_exists] at begins
        obtain ⟨tail', front'⟩ := begins
        simpa [front'] using refused other member

theorem keyword?_name_congr {name : List Char} (outside : ∀ c ∈ rest.head?, ¬ Name.isRest c)
    (free : lexicon.keyword? (name ++ rest) = none) (same : rest'.head? = rest.head?) :
    lexicon.keyword? (name ++ rest') = none := by
  rw [keyword?, List.findSome?_eq_none_iff] at free ⊢
  intro word member
  rw [Option.bind_eq_none_iff]
  intro tail found
  have outside' : ∀ c ∈ rest'.head?, ¬ Name.isRest c := same ▸ outside
  obtain ⟨more, whole, rfl⟩ := (Keyword.strip?_word outside').mp found
  have refused := free word member
  rw [(Keyword.strip?_word outside).mpr ⟨more, whole, rfl⟩, Option.bind_some] at refused
  rw [endsWord_append_congr same]
  split at refused
  · cases refused
  · simp_all

end Lexicon

/-! ## Pieces -/

theorem span_append {p : Char → Bool} {inside rest : List Char} (all : ∀ c ∈ inside, p c)
    (stop : ∀ c ∈ rest.head?, ¬ p c) :
    (inside ++ rest).takeWhile p = inside ∧ (inside ++ rest).dropWhile p = rest := by
  have none : rest.takeWhile p = [] ∧ rest.dropWhile p = rest := by
    cases rest with
    | nil => simp
    | cons c rest =>
        have outside : ¬ p c := stop c rfl
        simp [outside]
  rw [List.takeWhile_append_of_pos all, List.dropWhile_append_of_pos all, none.1, none.2,
    List.append_nil]
  exact ⟨rfl, rfl⟩

theorem span_congr {p : Char → Bool} {tail rest : List Char}
    (same : rest.head? = (tail.dropWhile p).head?) :
    (tail.takeWhile p ++ rest).takeWhile p = tail.takeWhile p ∧
      (tail.takeWhile p ++ rest).dropWhile p = rest := by
  apply span_append (List.all_eq_true.mp List.all_takeWhile)
  intro c front
  have outside := List.head?_dropWhile_not p tail
  rw [← same, Option.mem_def.mp front] at outside
  simpa using outside

/-- A piece is taken again in front of every text that begins as the text behind it. -/
theorem Rule.Taken.congr {lexicon : Lexicon} {text rest : List Char} {piece : Piece}
    (taken : Taken lexicon text piece) (same : rest.head? = piece.rest.head?) :
    Taken lexicon (piece.text ++ rest) { piece with rest } := by
  cases taken with
  | @keyword _ rest' word found =>
      obtain ⟨rfl, -⟩ := Lexicon.keyword?_eq_some found
      exact .keyword (Lexicon.keyword?_congr found same)
  | @string value _ plain =>
      have again : Taken lexicon ('"' :: value ++ '"' :: rest) _ := .string plain
      simpa using again
  | name free front =>
      have outside := Name.take?_outside front
      rw [Name.take?_append front] at free
      exact .name (Lexicon.keyword?_name_congr outside free same)
        (Name.take?_name (Name.take?_isName front) (same ▸ outside))
  | symbol member => exact .symbol member
  | newline => exact .newline
  | @blanks c tail blank =>
      have again : Taken lexicon (c :: (tail.takeWhile isBlank ++ rest)) _ := .blanks blank
      rwa [(span_congr same).1, (span_congr same).2] at again
  | @comment tail =>
      have again : Taken lexicon ('#' :: (tail.takeWhile (· != '\n') ++ rest)) _ := .comment
      rwa [(span_congr same).1, (span_congr same).2] at again

/-! ## Scans -/

section

variable {lexicon : Lexicon} {text front rest : List Char} {piece : Piece}

theorem Rule.Taken.text_ne_nil (taken : Taken lexicon text piece) : piece.text ≠ [] := by
  obtain ⟨rule, -, found⟩ := List.exists_of_findSome?_eq_some taken.first?
  exact take?_text_ne_nil found

theorem Rule.Taken.scansTo_append (taken : Taken lexicon text piece) (whole : piece.rest = front ++ rest)
    (nonempty : front ≠ []) {rest' : List Char} {kinds : List TokenKind}
    (scans : ScansTo lexicon (front ++ rest') kinds) :
    ScansTo lexicon (piece.text ++ front ++ rest') (piece.kind.toList ++ kinds) := by
  have same : (front ++ rest').head? = piece.rest.head? := by
    rw [whole]
    cases front with
    | nil => exact (nonempty rfl).elim
    | cons => rfl
  have step := ScansTo.piece (taken.congr same).first? scans
  rwa [← List.append_assoc] at step

end

end Dialogue
