import Dialogue.Proofs.Token.Kinds
import Mathlib.Data.List.Induction

/-!
# How tokens lie in a text

An accepted text consists of the texts of its tokens and of gaps, and nothing else:
white space and comments stand in front of every token and behind the last one.  The
place of a token counts the newlines in front of it and the characters behind the
last of them, whatever lies in between.
-/

namespace Dialogue

def TokenKind.lexeme : TokenKind → String
  | string value => value
  | kind => kind.text

/-! ## Places -/

def lastLine (text : List Char) : List Char :=
  (text.reverse.takeWhile (· != '\n')).reverse

theorem lastLine_concat_newline (text : List Char) : lastLine (text ++ ['\n']) = [] := by
  simp [lastLine]

theorem lastLine_concat {c : Char} (inside : c ≠ '\n') (text : List Char) :
    lastLine (text ++ [c]) = lastLine text ++ [c] := by
  simp [lastLine, inside]

def Position.behind (front : List Char) : Position :=
  ⟨1 + front.count '\n', 1 + (lastLine front).length⟩

theorem Position.start_after (front : List Char) : start.after front = behind front := by
  induction front using List.reverseRecOn with
  | nil => rfl
  | append_singleton front c ih =>
      rw [after_append, ih, after_cons, after_nil, next]
      split
      · rename_i newline
        rw [newline, behind, behind, lastLine_concat_newline, List.count_append]
        rfl
      · rename_i inside
        rw [behind, behind, lastLine_concat inside, List.count_append,
          List.count_singleton, if_neg (by simpa using inside), List.length_append]
        rfl

/-! ## Gaps -/

/-- A gap in front of a text: white space, and comments that end where their line
does. -/
inductive Gap (rest : List Char) : List Char → Prop
  | nil : Gap rest []
  | space {c : Char} {gap : List Char} : Rule.isSpace c → Gap rest gap → Gap rest (c :: gap)
  | comment {body gap : List Char} : '\n' ∉ body → (∀ c ∈ (gap ++ rest).head?, c = '\n') →
      Gap rest gap → Gap rest ('#' :: body ++ gap)

theorem Gap.spaces {rest gap spaces : List Char} (behind : Gap rest gap)
    (all : ∀ c ∈ spaces, Rule.isSpace c) : Gap rest (spaces ++ gap) := by
  induction spaces with
  | nil => exact behind
  | cons c spaces ih =>
      have later := ih fun d member => all d (List.mem_cons_of_mem c member)
      exact .space (all c List.mem_cons_self) later

namespace Rule.Taken

variable {lexicon : Lexicon} {text : List Char} {piece : Piece}

theorem gap (taken : Taken lexicon text piece) (silent : piece.kind = none)
    {gap rest : List Char} (behind : Gap rest gap) (whole : piece.rest = gap ++ rest) :
    Gap rest (piece.text ++ gap) := by
  cases taken with
  | keyword | string | name | symbol => cases silent
  | newline => exact .space rfl behind
  | @blanks c tail blank => exact behind.spaces (isSpace_of_mem_blanks blank tail)
  | @comment tail =>
      apply Gap.comment (not_mem_takeWhile_ne '\n' tail) _ behind
      rw [← whole]
      intro c front
      have stopped := List.head?_dropWhile_not (· != '\n') tail
      rw [Option.mem_def.mp front] at stopped
      simpa using stopped

theorem text_eq (taken : Taken lexicon text piece) {kind : TokenKind}
    (gives : piece.kind = some kind) : piece.text = kind.text.toList := by
  cases taken with
  | keyword | name =>
      cases gives
      simp [TokenKind.text, Keyword.letters]
  | string =>
      cases gives
      simp [TokenKind.text]
  | symbol member =>
      cases gives
      rcases symbol_mem_others member with ⟨rfl, rfl⟩ | ⟨rfl, rfl⟩ | ⟨rfl, rfl⟩ <;> rfl
  | newline | blanks | comment => cases gives

theorem token?_eq (taken : Taken lexicon text piece) {kind : TokenKind}
    (gives : piece.kind = some kind) (position : Position) :
    piece.token? position = some ⟨kind, kind.lexeme, position⟩ := by
  rw [Piece.token?, gives, taken.text_eq gives]
  cases kind <;> simp [TokenKind.lexeme]

end Rule.Taken

/-! ## Layouts -/

/-- Behind `front` a text consists of gaps and of the texts of these tokens, and the
tokens tell their places. -/
inductive Layout : (front text : List Char) → List Token → Prop
  | last {front gap : List Char} : Gap [] gap → Layout front gap []
  | token {front gap rest : List Char} {kind : TokenKind} {tokens : List Token} :
      Gap (kind.text.toList ++ rest) gap →
      Layout (front ++ gap ++ kind.text.toList) rest tokens →
        Layout front (gap ++ kind.text.toList ++ rest)
          (⟨kind, kind.lexeme, .behind (front ++ gap)⟩ :: tokens)

section

variable {lexicon : Lexicon}

theorem Layout.piece {front text : List Char} {piece : Piece} {tokens : List Token}
    (taken : Rule.Taken lexicon text piece)
    (layout : Layout (front ++ piece.text) piece.rest tokens) :
    Layout front (piece.text ++ piece.rest)
      ((piece.token? (.behind front)).toList ++ tokens) := by
  cases gives : piece.kind with
  | some kind =>
      rw [taken.token?_eq gives, taken.text_eq gives]
      rw [taken.text_eq gives, ← List.append_nil front] at layout
      have token := Layout.token .nil layout
      rwa [List.append_nil, List.nil_append] at token
  | none =>
      rw [Piece.toList_token?_of_silent gives, List.nil_append]
      generalize onward : piece.rest = rest at layout
      cases layout with
      | last behind =>
          exact .last (taken.gap gives behind (by rw [onward, List.append_nil]))
      | @token _ gap rest kind tokens behind layout =>
          rw [List.append_assoc] at onward
          have longer := taken.gap gives behind onward
          rw [List.append_assoc front] at layout ⊢
          have token := Layout.token longer layout
          rwa [List.append_assoc, List.append_assoc, ← List.append_assoc gap] at token

theorem layout_scanFrom {position : Position} {text : List Char}
    (whole : (scanFrom lexicon position text).rest = []) {front : List Char}
    (place : position = .behind front) :
    Layout front text (scanFrom lexicon position text).tokens := by
  fun_induction scanFrom lexicon position text generalizing front with
  | case1 position text stuck =>
      cases whole
      exact .last .nil
  | case2 position text piece found later ih =>
      have onward : position.after piece.text = .behind (front ++ piece.text) := by
        rw [place, ← Position.start_after, ← Position.start_after, Position.after_append]
      rw [Rule.first?_text found, place]
      exact Layout.piece (Rule.taken_of_first? found) (ih whole onward)

end

/-! ## What stands at a place -/

inductive Begins : List TokenKind → List Char → Prop
  | nil {text : List Char} : Begins [] text
  | cons {kind : TokenKind} {kinds : List TokenKind} {gap rest : List Char} :
      Gap rest gap → Begins kinds rest →
        Begins (kind :: kinds) (kind.text.toList ++ (gap ++ rest))

def StandsAt (source : List Char) (place : Position) (kinds : List TokenKind) : Prop :=
  ∃ front rest, source = front ++ rest ∧ place = .behind front ∧ Begins kinds rest

theorem Layout.begins {front text : List Char} {tokens : List Token}
    (layout : Layout front text tokens) :
    ∃ gap rest, text = gap ++ rest ∧ Gap rest gap ∧ Begins (tokens.map Token.kind) rest ∧
      ∀ token ∈ tokens.head?, token.position = .behind (front ++ gap) := by
  induction layout with
  | @last front gap ending =>
      refine ⟨gap, [], (List.append_nil gap).symm, ending, .nil, ?_⟩
      intro token member
      cases member
  | @token front gap rest kind tokens behind _ ih =>
      obtain ⟨gap', rest', rfl, behind', begins, -⟩ := ih
      refine ⟨gap, _, List.append_assoc _ _ _, behind, .cons behind' begins, ?_⟩
      rintro token ⟨⟩
      rfl

theorem Layout.standsAt {front text : List Char} {before after : List Token} {token : Token}
    (layout : Layout front text (before ++ token :: after)) :
    StandsAt (front ++ text) token.position ((token :: after).map Token.kind) := by
  induction before generalizing front text with
  | nil =>
      obtain ⟨gap, rest, rfl, -, begins, place⟩ := layout.begins
      exact ⟨front ++ gap, rest, (List.append_assoc _ _ _).symm, place token rfl, begins⟩
  | cons first before ih =>
      cases layout with
      | @token _ gap rest kind _ _ onward =>
          have stands := ih onward
          simpa only [List.append_assoc] using stands

theorem scan_error_place {lexicon : Lexicon} {source : String} {error : Error}
    (failed : scan lexicon source = .error error) :
    ∃ front found rest, source.toList = front ++ found :: rest ∧
      error = .character (.behind front) found := by
  obtain ⟨front, whole, place⟩ := scanFrom_text lexicon .start source.toList
  change (scanFrom lexicon .start source.toList).result = _ at failed
  rw [Scan.result] at failed
  split at failed
  · cases failed
  · rename_i found rest left
    cases failed
    refine ⟨front, found, rest, left ▸ whole, ?_⟩
    rw [place, Position.start_after]

theorem standsAt_of_scan {lexicon : Lexicon} {source : String} {before after : List Token}
    {token : Token} (accepted : scan lexicon source = .ok (before ++ token :: after)) :
    StandsAt source.toList token.position ((token :: after).map Token.kind) := by
  obtain ⟨whole, tokens⟩ := Scan.result_eq_ok_iff.mp accepted
  have layout : Layout [] source.toList _ := layout_scanFrom whole rfl
  have stands : Layout [] source.toList (before ++ token :: after) := tokens ▸ layout
  exact stands.standsAt

def laidOut (parts : List (List Char × Token)) : List Char :=
  parts.flatMap fun (gap, token) => gap ++ token.kind.text.toList

theorem Layout.exists_parts {front text : List Char} {tokens : List Token}
    (layout : Layout front text tokens) :
    ∃ (parts : List (List Char × Token)) (last : List Char),
      parts.map Prod.snd = tokens ∧ text = laidOut parts ++ last ∧ Gap [] last ∧
      ∀ before gap token after, parts = before ++ (gap, token) :: after →
        Gap (token.kind.text.toList ++ (laidOut after ++ last)) gap ∧
        token.lexeme = token.kind.lexeme ∧
        token.position = .behind (front ++ (laidOut before ++ gap)) := by
  induction layout with
  | @last front gap behind => exact ⟨[], gap, rfl, rfl, behind, by simp⟩
  | @token front gap rest kind tokens behind _ ih =>
      obtain ⟨parts, last, same, rfl, ending, each⟩ := ih
      let token : Token := ⟨kind, kind.lexeme, .behind (front ++ gap)⟩
      refine ⟨(gap, token) :: parts, last, by rw [List.map_cons, same], ?_, ending, ?_⟩
      · simp [laidOut, token]
      · intro before gap' token' after split
        rcases List.cons_eq_append_iff.mp split with ⟨rfl, first⟩ | ⟨before, rfl, others⟩
        · cases first
          exact ⟨behind, rfl, rfl⟩
        · obtain ⟨behind', lexeme, place⟩ := each before gap' token' after others
          refine ⟨behind', lexeme, ?_⟩
          rw [place]
          simp [laidOut, token]

/-- An accepted text is its tokens with gaps in front of them and a gap at the end.
Nothing else is left out, and every token tells the line and the column at which it
stands. -/
theorem scan_lossless {lexicon : Lexicon} {source : String} {tokens : List Token}
    (accepted : scan lexicon source = .ok tokens) :
    ∃ (parts : List (List Char × Token)) (last : List Char),
      parts.map Prod.snd = tokens ∧ source.toList = laidOut parts ++ last ∧ Gap [] last ∧
      ∀ before gap token after, parts = before ++ (gap, token) :: after →
        Gap (token.kind.text.toList ++ (laidOut after ++ last)) gap ∧
        token.lexeme = token.kind.lexeme ∧
        token.position.line = 1 + (laidOut before ++ gap).count '\n' ∧
        token.position.column = 1 + (lastLine (laidOut before ++ gap)).length := by
  obtain ⟨whole, rfl⟩ := Scan.result_eq_ok_iff.mp accepted
  have layout : Layout [] source.toList _ := layout_scanFrom whole rfl
  obtain ⟨parts, last, same, text, ending, each⟩ := layout.exists_parts
  refine ⟨parts, last, same, text, ending, ?_⟩
  intro before gap token after split
  obtain ⟨behind, lexeme, place⟩ := each before gap token after split
  refine ⟨behind, lexeme, ?_⟩
  rw [place]
  exact ⟨rfl, rfl⟩

theorem scan_lossless_lines :
    let source := "say \"\u00e9\n# [end]\" # \"\r\n\tend"
    let tokens : List Token := [⟨.keyword .say, "say", ⟨1, 1⟩⟩,
      ⟨.string "\u00e9\n# [end]", "\u00e9\n# [end]", ⟨1, 5⟩⟩, ⟨.keyword .finish, "end", ⟨3, 2⟩⟩]
    scan (.ofMatching .bare) source = .ok tokens ∧
      ∃ (parts : List (List Char × Token)) (last : List Char),
        parts.map Prod.snd = tokens ∧ source.toList = laidOut parts ++ last ∧ Gap [] last ∧
        ∀ before gap token after, parts = before ++ (gap, token) :: after →
          Gap (token.kind.text.toList ++ (laidOut after ++ last)) gap ∧
          token.lexeme = token.kind.lexeme ∧
          token.position.line = 1 + (laidOut before ++ gap).count '\n' ∧
          token.position.column = 1 + (lastLine (laidOut before ++ gap)).length := by
  intro source tokens
  have accepted : scan (.ofMatching .bare) source = .ok tokens := by decide +kernel
  exact ⟨accepted, scan_lossless accepted⟩

end Dialogue
