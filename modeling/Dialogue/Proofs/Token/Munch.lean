import Dialogue.Proofs.Token.Layout

/-!
# Longest words

`Munch.tokens` scans a text without a table of rules.  The next character tells
what comes, a word is taken as long as it goes on, and only a whole word is looked
up among the keywords.  Where keywords end at word boundaries the rules give the
same tokens and the same errors, whichever characters beyond ASCII are taken for
letters.
-/

namespace Dialogue

def TokenKind.ofWord (letters : List Char) : TokenKind :=
  match Keyword.ofText? (.ofList letters) with
  | some word => .keyword word
  | none => .identifier (.ofList letters)

namespace TokenKind

theorem toList_text_ofWord (letters : List Char) : (ofWord letters).text.toList = letters := by
  unfold ofWord
  split
  · rename_i word known
    rw [text, Keyword.text_of_ofText? known, String.toList_ofList]
  · rw [text, String.toList_ofList]

theorem ofWord_letters (word : Keyword) : ofWord word.letters = .keyword word := by
  rw [ofWord, Keyword.letters, String.ofList_toList, Keyword.ofText?_text]

theorem ofWord_spared {name : List Char} (spared : KeywordMatching.wordBoundary.Spares name) :
    ofWord name = .identifier (.ofList name) := by
  unfold ofWord
  split
  · rename_i word known
    have letters : word.letters = name := by
      rw [Keyword.letters, Keyword.text_of_ofText? known, String.toList_ofList]
    exact (spared word letters).elim
  · rfl

end TokenKind

namespace Munch

def token? : List Char → Option (TokenKind × List Char)
  | '"' :: tail =>
      match tail.dropWhile (· != '"') with
      | [] => none
      | _ :: rest => some (.string (.ofList (tail.takeWhile (· != '"'))), rest)
  | '\x7b' :: rest => some (.leftBrace, rest)
  | '\x7d' :: rest => some (.rightBrace, rest)
  | '=' :: rest => some (.equal, rest)
  | text => (Name.take? text).map fun (word, rest) => (.ofWord word, rest)

theorem token?_length {text rest : List Char} {kind : TokenKind}
    (found : token? text = some (kind, rest)) : rest.length < text.length := by
  unfold token? at found
  split at found
  · rename_i tail
    have shorter := (List.dropWhile_sublist (· != '"') (l := tail)).length_le
    split at found <;> cases found
    rename_i behind
    rw [behind, List.length_cons] at shorter
    rw [List.length_cons]
    omega
  · cases found
    simp
  · cases found
    simp
  · cases found
    simp
  · obtain ⟨⟨word, rest⟩, front, same⟩ := Option.map_eq_some_iff.mp found
    cases same
    exact Name.take?_length front

def tokensFrom (position : Position) (text : List Char) : Except Error (List Token) :=
  match text with
  | [] => .ok []
  | c :: tail =>
      if Rule.isSpace c then
        tokensFrom (position.next c) tail
      else if c = '#' then
        tokensFrom (position.after (c :: tail.takeWhile (· != '\n')))
          (tail.dropWhile (· != '\n'))
      else
        match _ : token? (c :: tail) with
        | none => .error (.character position c)
        | some (kind, rest) =>
            (tokensFrom (position.after kind.text.toList) rest).map
              (⟨kind, kind.lexeme, position⟩ :: ·)
termination_by text.length
decreasing_by
  · exact Nat.lt_succ_self _
  · exact Nat.lt_succ_of_le (List.dropWhile_sublist _).length_le
  · exact token?_length ‹_›

def tokens (source : String) : Except Error (List Token) :=
  tokensFrom .start source.toList

/-! ## One step -/

theorem token?_of_take? {text word rest : List Char}
    (taken : Name.take? text = some (word, rest)) :
    token? text = some (.ofWord word, rest) := by
  unfold token?
  split
  case h_5 => rw [taken, Option.map_some]
  all_goals cases taken

theorem token?_string {value rest : List Char} (plain : '"' ∉ value) :
    token? ('"' :: value ++ '"' :: rest) = some (.string (.ofList value), rest) := by
  simp [token?, Rule.upTo_quote plain]

theorem token?_of_taken {wide : Char → Bool} {text : List Char} {piece : Piece}
    (taken : Rule.Taken ⟨.wordBoundary, wide⟩ text piece) {kind : TokenKind}
    (gives : piece.kind = some kind) :
    ∃ other, token? text = some (other, piece.rest) ∧ other.text.toList = piece.text ∧
      (other = kind ∨ ∃ c ∈ piece.rest.head?, ¬ c.val < 128) := by
  cases taken with
  | @keyword _ rest word found =>
      cases gives
      obtain ⟨rfl, ends⟩ := Lexicon.keyword?_eq_some found
      have delimits := Lexicon.delimits_of_endsWord rfl ends
      have front := token?_of_take? (Name.take?_name word.isName_letters delimits.not_isRest)
      rw [TokenKind.ofWord_letters] at front
      exact ⟨_, front, rfl, .inl rfl⟩
  | @name _ name rest free front =>
      cases gives
      refine ⟨_, token?_of_take? front, TokenKind.toList_text_ofWord name, ?_⟩
      rcases Lexicon.spares_of_take? front free with spared | wide
      · exact .inl (TokenKind.ofWord_spared spared)
      · exact .inr wide
  | string plain =>
      cases gives
      exact ⟨_, token?_string plain, by simp [TokenKind.text], .inl rfl⟩
  | symbol member =>
      cases gives
      rcases Rule.symbol_mem_others member with ⟨rfl, rfl⟩ | ⟨rfl, rfl⟩ | ⟨rfl, rfl⟩
      all_goals exact ⟨_, rfl, rfl, .inl rfl⟩
  | newline | blanks | comment => cases gives

theorem exists_first?_of_token? (lexicon : Lexicon) {text rest : List Char} {kind : TokenKind}
    (found : token? text = some (kind, rest)) : ∃ piece, Rule.first? lexicon text = some piece := by
  unfold token? at found
  split at found
  · rename_i tail
    split at found <;> cases found
    rename_i behind
    obtain ⟨-, plain, whole⟩ := Rule.quoted_of_dropWhile behind
    rw [whole, ← List.cons_append]
    exact ⟨_, Rule.first?_string plain⟩
  · exact ⟨_, Rule.first?_leftBrace _⟩
  · exact ⟨_, Rule.first?_rightBrace _⟩
  · exact ⟨_, Rule.first?_equal _⟩
  · obtain ⟨⟨word, rest⟩, front, -⟩ := Option.map_eq_some_iff.mp found
    exact Rule.exists_first?_of_take? front

/-! ## The equations of the scanner -/

theorem visible_of_token? {c : Char} {tail : List Char} {found : TokenKind × List Char}
    (front : token? (c :: tail) = some found) : ¬ Rule.isSpace c ∧ c ≠ '#' := by
  constructor
  · intro space
    rcases Rule.eq_of_isSpace space with rfl | rfl | rfl | rfl <;> cases front
  · rintro rfl
    cases front

theorem tokensFrom_space {c : Char} (space : Rule.isSpace c) (position : Position)
    (tail : List Char) :
    tokensFrom position (c :: tail) = tokensFrom (position.next c) tail := by
  rw [tokensFrom, if_pos space]

theorem tokensFrom_spaces {spaces : List Char} (all : ∀ c ∈ spaces, Rule.isSpace c)
    (position : Position) (rest : List Char) :
    tokensFrom position (spaces ++ rest) = tokensFrom (position.after spaces) rest := by
  induction spaces generalizing position with
  | nil => rfl
  | cons c spaces ih =>
      rw [List.cons_append, tokensFrom_space (all c List.mem_cons_self),
        ih fun d member => all d (List.mem_cons_of_mem c member), Position.after_cons]

theorem tokensFrom_comment (position : Position) (tail : List Char) :
    tokensFrom position ('#' :: tail) =
      tokensFrom (position.after ('#' :: tail.takeWhile (· != '\n')))
        (tail.dropWhile (· != '\n')) := by
  rw [tokensFrom, if_neg (by decide), if_pos rfl]

theorem tokensFrom_token {text rest : List Char} {kind : TokenKind}
    (found : token? text = some (kind, rest)) (position : Position) :
    tokensFrom position text =
      (tokensFrom (position.after kind.text.toList) rest).map
        (⟨kind, kind.lexeme, position⟩ :: ·) := by
  cases text with
  | nil => cases found
  | cons c tail =>
      obtain ⟨visible, code⟩ := visible_of_token? found
      rw [tokensFrom, if_neg visible, if_neg code]
      split
      case h_1 nothing => cases nothing.symm.trans found
      case h_2 found' => cases found'.symm.trans found; rfl

theorem tokensFrom_of_stuck {lexicon : Lexicon} {text : List Char}
    (stuck : Rule.first? lexicon text = none) (position : Position) :
    tokensFrom position text = Scan.result ⟨[], position, text⟩ := by
  cases text with
  | nil => rw [tokensFrom]; rfl
  | cons c tail =>
      have visible : ¬ Rule.isSpace c := by
        intro space
        rcases Bool.or_eq_true_iff.mp space with blank | newline
        · cases stuck.symm.trans (Rule.first?_blank blank tail)
        · cases beq_iff_eq.mp newline
          cases stuck.symm.trans (Rule.first?_newline tail)
      have code : c ≠ '#' := by
        rintro rfl
        cases stuck.symm.trans (Rule.first?_comment tail)
      rw [tokensFrom, if_neg visible, if_neg code]
      split
      case h_1 => rfl
      case h_2 found =>
        obtain ⟨piece, taken⟩ := exists_first?_of_token? lexicon found
        cases stuck.symm.trans taken

theorem tokensFrom_of_silent {lexicon : Lexicon} {text : List Char} {piece : Piece}
    (taken : Rule.Taken lexicon text piece) (silent : piece.kind = none)
    (position : Position) :
    tokensFrom position text = tokensFrom (position.after piece.text) piece.rest := by
  cases taken with
  | keyword | string | name | symbol => cases silent
  | newline => exact tokensFrom_space rfl position _
  | @blanks c tail blank =>
      rw [← tokensFrom_spaces (Rule.isSpace_of_mem_blanks blank tail), List.cons_append,
        List.takeWhile_append_dropWhile]
  | @comment tail => exact tokensFrom_comment position tail

end Munch

/-! ## Rules and longest words -/

theorem exists_result_of_wide (lexicon : Lexicon) (position : Position) {rest : List Char}
    (wide : ∃ c ∈ rest.head?, ¬ c.val < 128) :
    ∃ error, (scanFrom lexicon position rest).result = .error error := by
  obtain ⟨c, front, wide⟩ := wide
  obtain ⟨tail, rfl⟩ := List.head?_eq_some_iff.mp front
  rw [scanFrom_stuck (Rule.first?_wide wide tail)]
  exact ⟨_, rfl⟩

theorem Munch.tokensFrom_eq_result (wide : Char → Bool) (position : Position)
    (text : List Char) :
    tokensFrom position text = (scanFrom ⟨.wordBoundary, wide⟩ position text).result := by
  fun_induction scanFrom ⟨.wordBoundary, wide⟩ position text with
  | case1 position text stuck => exact tokensFrom_of_stuck stuck position
  | case2 position text piece found later ih =>
      have taken := Rule.taken_of_first? found
      rw [Scan.result_append]
      cases gives : piece.kind with
      | none =>
          rw [tokensFrom_of_silent taken gives, ih, Piece.toList_token?_of_silent gives]
          cases later.result <;> rfl
      | some kind =>
          obtain ⟨other, front, same, agree⟩ := token?_of_taken taken gives
          rw [tokensFrom_token front, same, ih, taken.token?_eq gives]
          rcases agree with rfl | wide
          · rfl
          -- A keyword taken for a name does not show: the scan ends in an error.
          · obtain ⟨error, failed⟩ :=
              exists_result_of_wide ⟨.wordBoundary, _⟩ (position.after piece.text) wide
            rw [failed]
            rfl

/-- With word boundaries the rules, tried in order, take longest words and look them
up among the keywords: all tokens and all errors are the same.  Which characters
beyond ASCII count as letters makes no difference. -/
theorem scan_eq_munch (wide : Char → Bool) (source : String) :
    scan ⟨.wordBoundary, wide⟩ source = Munch.tokens source :=
  (Munch.tokensFrom_eq_result wide .start source.toList).symm

example : scan ⟨.wordBoundary, fun _ => true⟩ "as\u00e9" = .error (.character ⟨1, 3⟩ '\u00e9') ∧
    Munch.tokens "as\u00e9" = .error (.character ⟨1, 3⟩ '\u00e9') := by
  decide +kernel

end Dialogue
