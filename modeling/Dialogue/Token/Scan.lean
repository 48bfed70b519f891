import Dialogue.Name
import Dialogue.Token

/-!
# Scanning

At every place the rules of `Rule.table` are tried in order and the first that
accepts a piece of text takes it, so a keyword wins over a name.  Blanks,
newlines and comments give no token.  `scanFrom` reads as far as some rule
applies and says where it stopped; the text was accepted when nothing is left.
-/

namespace Dialogue

/-- How the words of a script are told apart.  `wide` says which characters
beyond ASCII continue a word.  No rule accepts such a character outside strings
and comments, so a keyword in front of one is read as a name and the scan stops
right after it, whatever `wide` says. -/
structure Lexicon where
  matching : KeywordMatching
  wide : Char → Bool

namespace Lexicon

def ofMatching (matching : KeywordMatching) : Lexicon :=
  ⟨matching, fun _ => true⟩

def ofOptions (options : ScriptOptions) : Lexicon :=
  ofMatching options.keywordMatching

def continues (lexicon : Lexicon) (c : Char) : Bool :=
  if c.val < 128 then Name.isRest c else lexicon.wide c

def endsWord (lexicon : Lexicon) (rest : List Char) : Bool :=
  match lexicon.matching, rest with
  | .bare, _ => true
  | .wordBoundary, [] => true
  | .wordBoundary, c :: _ => !lexicon.continues c

end Lexicon

/-- What a rule took from the front of a text: the token it makes, if any, the
piece itself, and the text after it. -/
structure Piece where
  kind : Option TokenKind
  text : List Char
  rest : List Char

inductive Rule where
  | keyword (word : Keyword)
  | string
  | identifier
  | symbol (kind : TokenKind) (c : Char)
  | newline
  | blanks
  | comment

namespace Rule

def table : List Rule :=
  Keyword.all.map keyword ++
    [string, identifier, symbol .leftBrace '\x7b', symbol .rightBrace '\x7d',
      symbol .equal '=', newline, blanks, comment]

def isBlank (c : Char) : Bool :=
  c == ' ' || c == '\t' || c == '\r'

def take? (lexicon : Lexicon) (text : List Char) : Rule → Option Piece
  | keyword word =>
      match word.strip? text with
      | none => none
      | some rest =>
          if lexicon.endsWord rest then
            some ⟨some (.keyword word), word.letters, rest⟩
          else
            none
  | string =>
      match text with
      | '"' :: tail =>
          let value := tail.takeWhile (· != '"')
          match tail.dropWhile (· != '"') with
          | [] => none
          | quote :: rest =>
              some ⟨some (.string (.ofList value)), '"' :: value ++ [quote], rest⟩
      | _ => none
  | identifier =>
      (Name.take? text).map fun (name, rest) =>
        ⟨some (.identifier (.ofList name)), name, rest⟩
  | symbol kind c =>
      match text with
      | [] => none
      | first :: rest => if first = c then some ⟨some kind, [c], rest⟩ else none
  | newline =>
      match text with
      | '\n' :: rest => some ⟨none, ['\n'], rest⟩
      | _ => none
  | blanks =>
      match text with
      | [] => none
      | first :: rest =>
          if isBlank first then
            some ⟨none, first :: rest.takeWhile isBlank, rest.dropWhile isBlank⟩
          else
            none
  | comment =>
      match text with
      | '#' :: rest =>
          some ⟨none, '#' :: rest.takeWhile (· != '\n'), rest.dropWhile (· != '\n')⟩
      | _ => none

def first? (lexicon : Lexicon) (text : List Char) : Option Piece :=
  table.findSome? (take? lexicon text)

/-! ## A piece is the front of the text, and never empty -/

theorem take?_text {lexicon : Lexicon} {text : List Char} {rule : Rule} {piece : Piece}
    (taken : take? lexicon text rule = some piece) : text = piece.text ++ piece.rest := by
  cases rule with
  | keyword word =>
      simp only [take?] at taken
      split at taken
      · cases taken
      · rename_i rest found
        split at taken
        · cases taken
          exact (Keyword.strip?_eq_some.mp found)
        · cases taken
  | string =>
      simp only [take?] at taken
      split at taken
      · rename_i tail
        split at taken
        · cases taken
        · rename_i quote rest found
          cases taken
          have whole := List.takeWhile_append_dropWhile (p := (· != '"')) (l := tail)
          rw [found] at whole
          simp [whole]
      · cases taken
  | identifier =>
      obtain ⟨⟨name, rest⟩, found, rfl⟩ := Option.map_eq_some_iff.mp taken
      exact Name.take?_append found
  | symbol kind c =>
      simp only [take?] at taken
      split at taken
      · cases taken
      · split at taken <;> cases taken
        subst_vars
        rfl
  | newline =>
      simp only [take?] at taken
      split at taken <;> cases taken
      rfl
  | blanks =>
      simp only [take?] at taken
      split at taken
      · cases taken
      · split at taken <;> cases taken
        simp
  | comment =>
      simp only [take?] at taken
      split at taken <;> cases taken
      simp

theorem take?_text_ne_nil {lexicon : Lexicon} {text : List Char} {rule : Rule}
    {piece : Piece} (taken : take? lexicon text rule = some piece) : piece.text ≠ [] := by
  cases rule with
  | keyword word =>
      simp only [take?] at taken
      split at taken
      · cases taken
      · split at taken <;> cases taken
        exact word.letters_ne_nil
  | identifier =>
      obtain ⟨⟨name, rest⟩, found, rfl⟩ := Option.map_eq_some_iff.mp taken
      have named := Name.take?_isName found
      intro empty
      simp only at empty
      simp [empty, Name.IsName] at named
  | string =>
      simp only [take?] at taken
      split at taken
      · split at taken <;> cases taken
        simp
      · cases taken
  | symbol kind c =>
      simp only [take?] at taken
      split at taken
      · cases taken
      · split at taken <;> cases taken
        simp
  | newline =>
      simp only [take?] at taken
      split at taken <;> cases taken
      simp
  | blanks =>
      simp only [take?] at taken
      split at taken
      · cases taken
      · split at taken <;> cases taken
        simp
  | comment =>
      simp only [take?] at taken
      split at taken <;> cases taken
      simp

theorem first?_text {lexicon : Lexicon} {text : List Char} {piece : Piece}
    (taken : first? lexicon text = some piece) : text = piece.text ++ piece.rest := by
  obtain ⟨rule, -, found⟩ := List.exists_of_findSome?_eq_some taken
  exact take?_text found

theorem first?_rest_length {lexicon : Lexicon} {text : List Char} {piece : Piece}
    (taken : first? lexicon text = some piece) : piece.rest.length < text.length := by
  obtain ⟨rule, -, found⟩ := List.exists_of_findSome?_eq_some taken
  have nonempty := List.length_pos_iff.mpr (take?_text_ne_nil found)
  rw [first?_text taken, List.length_append]
  omega

end Rule

def Piece.token? (piece : Piece) (position : Position) : Option Token :=
  piece.kind.map fun kind =>
    match kind with
    | .string value => ⟨kind, value, position⟩
    | _ => ⟨kind, .ofList piece.text, position⟩

/-- The outcome of reading a text: the tokens found, the place where the reading
stopped, and the text from there on. -/
structure Scan where
  tokens : List Token
  position : Position
  rest : List Char

def scanFrom (lexicon : Lexicon) (position : Position) (text : List Char) : Scan :=
  match _ : Rule.first? lexicon text with
  | none => ⟨[], position, text⟩
  | some piece =>
      let later := scanFrom lexicon (position.after piece.text) piece.rest
      ⟨(piece.token? position).toList ++ later.tokens, later.position, later.rest⟩
termination_by text.length
decreasing_by exact Rule.first?_rest_length ‹_›

theorem scanFrom_text (lexicon : Lexicon) (position : Position) (text : List Char) :
    ∃ taken, text = taken ++ (scanFrom lexicon position text).rest ∧
      (scanFrom lexicon position text).position = position.after taken := by
  fun_induction scanFrom lexicon position text with
  | case1 position text _ => exact ⟨[], rfl, rfl⟩
  | case2 position text piece found later ih =>
      obtain ⟨taken, whole, place⟩ := ih
      refine ⟨piece.text ++ taken, ?_, ?_⟩
      · rw [List.append_assoc, ← whole]
        exact Rule.first?_text found
      · rw [Position.after_append]
        exact place

theorem first?_scanFrom_rest (lexicon : Lexicon) (position : Position) (text : List Char) :
    Rule.first? lexicon (scanFrom lexicon position text).rest = none := by
  fun_induction scanFrom lexicon position text with
  | case1 _ _ stuck => exact stuck
  | case2 _ _ _ _ _ ih => exact ih

theorem scanFrom_stuck {lexicon : Lexicon} {position : Position} {text : List Char}
    (stuck : Rule.first? lexicon text = none) :
    scanFrom lexicon position text = ⟨[], position, text⟩ := by
  unfold scanFrom
  split <;> simp_all

end Dialogue
