import Dialogue.Proofs.Token.Layout

/-!
# Words that are split

Where keywords end after their letters, a word is taken apart: keywords are stripped
off its front as long as one begins it, and what is left is a name.  Done to every
name of a scan under word boundaries, this gives the bare scan.  A digit that comes
to stand in front stops the bare scan, and nothing else stops it earlier.
-/

namespace Dialogue

/-! ## Places on one line and in a text -/

namespace Position

def shift (position : Position) (columns : Nat) : Position :=
  ⟨position.line, position.column + columns⟩

theorem shift_shift (position : Position) (first second : Nat) :
    (position.shift first).shift second = position.shift (first + second) := by
  simp only [shift, Nat.add_assoc]

def Before (first second : Position) : Prop :=
  first.line < second.line ∨ first.line = second.line ∧ first.column < second.column

theorem after_of_inline {text : List Char} (inline : '\n' ∉ text) (position : Position) :
    position.after text = position.shift text.length := by
  induction text generalizing position with
  | nil => rfl
  | cons c text ih =>
      rw [List.mem_cons, not_or] at inline
      rw [after_cons, ih inline.2, next, if_neg (Ne.symm inline.1)]
      simp [shift]
      omega

theorem before_next (position : Position) (c : Char) : position.Before (position.next c) := by
  unfold next Before
  split <;> simp

theorem Before.trans {first second third : Position} (one : first.Before second)
    (other : second.Before third) : first.Before third := by
  unfold Before at *
  omega

theorem before_after_cons (position : Position) (c : Char) (text : List Char) :
    position.Before (position.after (c :: text)) := by
  induction text generalizing position c with
  | nil => exact position.before_next c
  | cons d text ih => exact (position.before_next c).trans (ih (position.next c) d)

theorem not_before_self (position : Position) : ¬ position.Before position := by
  unfold Before
  omega

theorem eq_of_behind_eq {front front' rest rest' : List Char}
    (whole : front ++ rest = front' ++ rest') (same : behind front = behind front') :
    front = front' := by
  have longer {front more : List Char} (same : behind front = behind (front ++ more)) :
      more = [] := by
    cases more with
    | nil => rfl
    | cons c more =>
        have onward := before_after_cons (behind front) c more
        rw [← start_after, ← after_append, start_after, start_after, ← same] at onward
        exact ((behind front).not_before_self onward).elim
  rcases List.append_eq_append_iff.mp whole with ⟨more, rfl, -⟩ | ⟨more, rfl, -⟩
  · rw [longer same, List.append_nil]
  · rw [longer same.symm, List.append_nil]

end Position

/-! ## Splitting -/

namespace Keyword

theorem inline_letters (word : Keyword) : '\n' ∉ word.letters := by
  cases word <;> decide

def leading? (text : List Char) : Option (Keyword × List Char) :=
  all.findSome? fun word => (word.strip? text).map fun rest => (word, rest)

theorem eq_append_of_leading? {text rest : List Char} {word : Keyword}
    (found : leading? text = some (word, rest)) : text = word.letters ++ rest := by
  obtain ⟨other, -, stripped⟩ := List.exists_of_findSome?_eq_some found
  obtain ⟨tail, front, same⟩ := Option.map_eq_some_iff.mp stripped
  cases same
  exact strip?_eq_some.mp front

theorem length_of_leading? {text rest : List Char} {word : Keyword}
    (found : leading? text = some (word, rest)) : rest.length < text.length := by
  have nonempty := List.length_pos_iff.mpr word.letters_ne_nil
  rw [eq_append_of_leading? found, List.length_append]
  omega

theorem leading?_append {word rest : List Char} (outside : ∀ c ∈ rest.head?, ¬ Name.isRest c) :
    leading? (word ++ rest) =
      (leading? word).map fun (first, more) => (first, more ++ rest) := by
  have each (first : Keyword) :
      first.strip? (word ++ rest) = (first.strip? word).map (· ++ rest) := by
    apply Option.ext
    intro tail
    simp only [strip?_word outside, Option.map_eq_some_iff, strip?_eq_some]
    exact exists_congr fun more => and_congr_right fun _ => eq_comm
  simp only [leading?, List.map_findSome?, Function.comp_def, each, Option.map_map]

end Keyword

def Name.split (position : Position) (word : List Char) : Except Error (List Token) :=
  match _ : Keyword.leading? word with
  | some (first, rest) =>
      (split (position.shift first.letters.length) rest).map
        (⟨.keyword first, first.text, position⟩ :: ·)
  | none =>
      match word with
      | [] => .ok []
      | c :: _ =>
          if c.isDigit then .error (.character position c)
          else .ok [⟨.identifier (.ofList word), .ofList word, position⟩]
termination_by word.length
decreasing_by exact Keyword.length_of_leading? ‹_›

namespace Token

def split (token : Token) : Except Error (List Token) :=
  match token.kind with
  | .identifier name => Name.split token.position name.toList
  | _ => .ok [token]

def splitAll : List Token → Except Error (List Token)
  | [] => .ok []
  | token :: rest => token.split.bind fun first => (splitAll rest).map (first ++ ·)

theorem split_of_plain {token : Token} (plain : ∀ name, token.kind ≠ .identifier name) :
    token.split = .ok [token] := by
  unfold split
  split
  · exact (plain _ ‹_›).elim
  · rfl

theorem splitAll_append_of_plain {tokens : List Token}
    (plain : ∀ token ∈ tokens, ∀ name, token.kind ≠ .identifier name) (rest : List Token) :
    splitAll (tokens ++ rest) = (splitAll rest).map (tokens ++ ·) := by
  induction tokens with
  | nil => cases later : splitAll rest <;> simp [later, Except.map]
  | cons token tokens ih =>
      rw [List.cons_append, splitAll, split_of_plain (plain token List.mem_cons_self),
        ih fun other member => plain other (List.mem_cons_of_mem token member)]
      cases splitAll rest <;> rfl

end Token

theorem Name.not_isStart_of_isDigit {c : Char} (digit : c.isDigit) : ¬ isStart c := by
  intro start
  have low : c.val ≤ '9'.val := of_decide_eq_true (Bool.and_eq_true_iff.mp digit).2
  have high : '9'.val < c.val := by
    rcases Bool.or_eq_true_iff.mp start with alpha | underscore
    · rcases Bool.or_eq_true_iff.mp alpha with upper | lower
      · exact UInt32.lt_of_lt_of_le (by decide) (of_decide_eq_true upper).1
      · have above := (Bool.and_eq_true_iff.mp lower).1
        exact UInt32.lt_of_lt_of_le (by decide) (of_decide_eq_true above)
    · cases beq_iff_eq.mp underscore
      decide
  exact UInt32.not_le.mpr high low

theorem Name.isStart_of_isRest {c : Char} (rest : isRest c) (letter : ¬ c.isDigit) :
    isStart c := by
  simp only [isRest, isStart, Char.isAlphanum, Bool.or_eq_true] at *
  tauto

theorem Name.exists_of_split_eq_error {position : Position} {word : List Char} {error : Error}
    (failed : split position word = .error error) :
    ∃ front digit rest, word = front ++ digit :: rest ∧ '\n' ∉ front ∧ digit.isDigit ∧
      error = .character (position.shift front.length) digit := by
  fun_induction split position word with
  | case1 position word first rest found ih =>
      cases later : split (position.shift first.letters.length) rest with
      | ok tokens => simp [later, Except.map] at failed
      | error other =>
          rw [later] at failed
          cases failed
          obtain ⟨front, digit, more, rfl, inline, isDigit, rfl⟩ := ih later
          refine ⟨first.letters ++ front, digit, more, ?_, ?_, isDigit, ?_⟩
          · rw [List.append_assoc]
            exact Keyword.eq_append_of_leading? found
          · rw [List.mem_append, not_or]
            exact ⟨first.inline_letters, inline⟩
          · rw [Position.shift_shift, List.length_append]
  | case2 => cases failed
  | case3 position c tail _ digit =>
      cases failed
      exact ⟨[], c, tail, rfl, by simp, digit, rfl⟩
  | case4 => cases failed

/-! ## What is taken under the two rules -/

theorem Lexicon.keyword?_bare (wide : Char → Bool) (text : List Char) :
    (⟨.bare, wide⟩ : Lexicon).keyword? text = Keyword.leading? text := by
  unfold keyword? Keyword.leading?
  congr 1
  funext word
  cases word.strip? text <;> rfl

namespace Rule

theorem first?_digit {lexicon : Lexicon} {c : Char} (digit : c.isDigit) (tail : List Char) :
    first? lexicon (c :: tail) = none := by
  have differs : ∀ {d : Char}, ¬ d.isDigit → c ≠ d := by
    rintro d other rfl
    exact other digit
  have other := Name.not_isStart_of_isDigit digit
  rw [first?_of_not_isStart other]
  simp [others, take?, Name.take?, other, isBlank, differs]

theorem Taken.exists_first? {lexicon : Lexicon} {text : List Char} {piece : Piece}
    (taken : Taken lexicon text piece) (other : Lexicon) :
    ∃ piece, Rule.first? other text = some piece := by
  cases taken with
  | @keyword _ rest keyword found =>
      obtain ⟨first, more, letters, start⟩ := keyword.letters_eq_cons
      obtain ⟨rfl, -⟩ := Lexicon.keyword?_eq_some found
      apply exists_first?_of_take?
      rw [letters, List.cons_append, Name.take?, if_pos start]
  | name _ front => exact exists_first?_of_take? front
  | string plain => exact ⟨_, (Taken.string plain).first?⟩
  | symbol member => exact ⟨_, (Taken.symbol member).first?⟩
  | newline => exact ⟨_, Taken.newline.first?⟩
  | blanks blank => exact ⟨_, (Taken.blanks blank).first?⟩
  | comment => exact ⟨_, Taken.comment.first?⟩

theorem Taken.word_of_identifier {lexicon : Lexicon} {text : List Char} {piece : Piece}
    (taken : Taken lexicon text piece) {name : String}
    (gives : piece.kind = some (.identifier name)) :
    text = name.toList ++ piece.rest ∧ Name.IsName name.toList ∧
      ∀ c ∈ piece.rest.head?, ¬ Name.isRest c := by
  cases taken with
  | @name _ letters rest _ front =>
      cases gives
      rw [String.toList_ofList]
      exact ⟨Name.take?_append front, Name.take?_isName front, Name.take?_outside front⟩
  | keyword | string | newline | blanks | comment => cases gives
  | symbol member =>
      cases gives
      rcases symbol_mem_others member with ⟨same, -⟩ | ⟨same, -⟩ | ⟨same, -⟩ <;> cases same

variable {wide : Char → Bool}

theorem Taken.first?_bare {text : List Char} {piece : Piece}
    (taken : Taken ⟨.wordBoundary, wide⟩ text piece) :
    Rule.first? ⟨.bare, wide⟩ text = some piece ∨
      ∃ name word rest, piece.kind = some (.identifier name) ∧
        Rule.first? ⟨.bare, wide⟩ text = some ⟨some (.keyword word), word.letters, rest⟩ := by
  cases taken with
  | @keyword _ rest word found =>
      obtain ⟨rfl, ends⟩ := Lexicon.keyword?_eq_some found
      have bounded : (⟨.wordBoundary, wide⟩ : Lexicon).Delimits rest :=
        Lexicon.delimits_of_endsWord rfl ends
      have delimits : (⟨.bare, wide⟩ : Lexicon).Delimits rest := bounded
      exact .inl (first?_of_keyword? (Lexicon.keyword?_letters word delimits))
  | @name _ name rest _ front =>
      cases keyword : (⟨.bare, wide⟩ : Lexicon).keyword? text with
      | some pair => exact .inr ⟨_, pair.1, pair.2, rfl, first?_of_keyword? keyword⟩
      | none => exact .inl (first?_name front keyword)
  | string plain => exact .inl (Taken.string plain).first?
  | symbol member => exact .inl (Taken.symbol member).first?
  | newline => exact .inl Taken.newline.first?
  | blanks blank => exact .inl (Taken.blanks blank).first?
  | comment => exact .inl Taken.comment.first?

end Rule

/-! ## The bare scan -/

section

variable {wide : Char → Bool}

theorem scanFrom_bare_word (position : Position) {word rest : List Char}
    (letters : ∀ c ∈ word, Name.isRest c) (outside : ∀ c ∈ rest.head?, ¬ Name.isRest c) :
    (scanFrom ⟨.bare, wide⟩ position (word ++ rest)).result =
      (Name.split position word).bind fun tokens =>
        (scanFrom ⟨.bare, wide⟩ (position.shift word.length) rest).result.map (tokens ++ ·) := by
  -- Behind a keyword a word may go on with a digit, so it need not be a name.
  fun_induction Name.split position word with
  | case1 position word first more found ih =>
      have front : (⟨.bare, wide⟩ : Lexicon).keyword? (word ++ rest) =
          some (first, more ++ rest) := by
        rw [Lexicon.keyword?_bare, Keyword.leading?_append outside, found, Option.map_some]
      have taken : Rule.Taken ⟨.bare, wide⟩ (word ++ rest) _ := .keyword front
      have whole := Keyword.eq_append_of_leading? found
      have behind := ih fun c member => letters c (by simp [whole, member])
      rw [scanFrom_of_first? taken.first?, Scan.result_append, taken.token?_eq rfl,
        Position.after_of_inline first.inline_letters, behind, Position.shift_shift, whole,
        List.length_append]
      cases Name.split (position.shift first.letters.length) more with
      | error => rfl
      | ok tokens =>
          cases (scanFrom ⟨.bare, wide⟩
            (position.shift (first.letters.length + more.length)) rest).result <;> rfl
  | case2 position found =>
      show _ = (scanFrom ⟨.bare, wide⟩ position rest).result.map _
      rw [List.nil_append]
      cases (scanFrom ⟨.bare, wide⟩ position rest).result <;> rfl
  | case3 position c tail found digit =>
      rw [List.cons_append, scanFrom_stuck (Rule.first?_digit digit _)]
      rfl
  | case4 position c tail found letter =>
      have named : Name.IsName (c :: tail) :=
        ⟨Name.isStart_of_isRest (letters c List.mem_cons_self) letter,
          fun d member => letters d (List.mem_cons_of_mem c member)⟩
      have free : (⟨.bare, wide⟩ : Lexicon).keyword? (c :: tail ++ rest) = none := by
        rw [Lexicon.keyword?_bare, Keyword.leading?_append outside, found, Option.map_none]
      have taken : Rule.Taken ⟨.bare, wide⟩ (c :: tail ++ rest) _ :=
        .name free (Name.take?_name named outside)
      have inline : '\n' ∉ c :: tail := fun inside => by cases letters _ inside
      rw [scanFrom_of_first? taken.first?, Scan.result_append, taken.token?_eq rfl,
        Position.after_of_inline inline]
      rfl

theorem Rule.Taken.first?_bare_of_plain {text : List Char} {piece : Piece}
    (taken : Taken ⟨.wordBoundary, wide⟩ text piece)
    (plain : ∀ name, piece.kind ≠ some (.identifier name)) :
    Rule.first? ⟨.bare, wide⟩ text = some piece := by
  rcases taken.first?_bare with same | ⟨name, word, rest, gives, -⟩
  · exact same
  · exact (plain name gives).elim

theorem Scan.result_bind_append (scan : Scan) (tokens : List Token)
    (read : Except Error (List Token)) :
    (read.map (tokens ++ ·)).bind (fun all => Scan.result { scan with tokens := all }) =
      (read.bind fun later => Scan.result { scan with tokens := later }).map (tokens ++ ·) := by
  cases read with
  | error => rfl
  | ok later => exact Scan.result_append { scan with tokens := later } tokens

/-- Wherever the scan under word boundaries ends, the bare scan splits the names that
were read, and ends at the same place if it comes that far. -/
theorem scanFrom_bare_eq_splitAll (position : Position) (text : List Char) :
    (scanFrom ⟨.bare, wide⟩ position text).result =
      (Token.splitAll (scanFrom ⟨.wordBoundary, wide⟩ position text).tokens).bind fun tokens =>
        Scan.result { scanFrom ⟨.wordBoundary, wide⟩ position text with tokens } := by
  fun_induction scanFrom ⟨.wordBoundary, wide⟩ position text with
  | case1 position text stuck =>
      have stuck' : Rule.first? ⟨.bare, wide⟩ text = none := by
        rw [Option.eq_none_iff_forall_ne_some]
        intro piece found
        obtain ⟨other, found'⟩ := (Rule.taken_of_first? found).exists_first? ⟨.wordBoundary, wide⟩
        cases stuck.symm.trans found'
      rw [scanFrom_stuck stuck']
      rfl
  | case2 position text piece found later ih =>
      have taken := Rule.taken_of_first? found
      by_cases named : ∃ name, piece.kind = some (.identifier name)
      · obtain ⟨name, gives⟩ := named
        obtain ⟨whole, isName, outside⟩ := taken.word_of_identifier gives
        have letters := Name.isRest_of_isName isName
        have inline : '\n' ∉ name.toList := fun inside => by cases letters _ inside
        have onward : position.after piece.text = position.shift name.toList.length := by
          rw [taken.text_eq gives]
          exact Position.after_of_inline inline position
        rw [whole, scanFrom_bare_word position letters outside, ← onward, ih, taken.token?_eq gives]
        show _ = ((Name.split position name.toList).bind fun first =>
          (Token.splitAll later.tokens).map (first ++ ·)).bind _
        cases Name.split position name.toList with
        | error => rfl
        | ok first => exact (Scan.result_bind_append later first _).symm
      · have plain : ∀ name, piece.kind ≠ some (.identifier name) :=
          fun name gives => named ⟨name, gives⟩
        have kept : ∀ token ∈ (piece.token? position).toList, ∀ name,
            token.kind ≠ .identifier name := by
          intro token member name same
          have gives := piece.kind_token? position
          rw [Option.mem_toList.mp member, Option.map_some, same] at gives
          exact plain name gives.symm
        rw [scanFrom_of_first? (taken.first?_bare_of_plain plain), Scan.result_append, ih,
          Token.splitAll_append_of_plain kept]
        exact (Scan.result_bind_append later _ _).symm

end

/-! ## Two scans of one source -/

theorem position_scanFrom_of_mem {lexicon : Lexicon} {position : Position} {text : List Char}
    {token : Token} (member : token ∈ (scanFrom lexicon position text).tokens) :
    ∃ more, (scanFrom lexicon position text).position =
      token.position.after (token.kind.text.toList ++ more) := by
  fun_induction scanFrom lexicon position text with
  | case1 => cases member
  | case2 position text piece found later ih =>
      rcases List.mem_append.mp member with first | behind
      · have taken := Rule.taken_of_first? found
        obtain ⟨more, -, place⟩ := scanFrom_text lexicon (position.after piece.text) piece.rest
        refine ⟨more, ?_⟩
        cases gives : piece.kind with
        | none =>
            rw [Piece.toList_token?_of_silent gives] at first
            cases first
        | some kind =>
            rw [taken.token?_eq gives] at first
            cases List.mem_singleton.mp first
            rw [Position.after_append, ← taken.text_eq gives]
            exact place
      · exact ih behind

theorem Token.exists_of_split_eq_error {token : Token} {error : Error}
    (failed : token.split = .error error) :
    ∃ place digit, error = .character place digit ∧ digit.isDigit ∧
      ∀ more, place.Before (token.position.after (token.kind.text.toList ++ more)) := by
  unfold split at failed
  split at failed
  · rename_i name kind
    obtain ⟨front, digit, rest, word, inline, isDigit, rfl⟩ :=
      Name.exists_of_split_eq_error failed
    refine ⟨_, digit, rfl, isDigit, fun more => ?_⟩
    rw [kind, TokenKind.text, word, ← Position.after_of_inline inline, List.append_assoc,
      Position.after_append]
    exact Position.before_after_cons _ digit (rest ++ more)
  · cases failed

theorem Token.exists_of_splitAll_eq_error {tokens : List Token} {error : Error}
    (failed : splitAll tokens = .error error) : ∃ token ∈ tokens, token.split = .error error := by
  induction tokens with
  | nil => cases failed
  | cons token tokens ih =>
      rw [splitAll] at failed
      cases first : token.split with
      | error =>
          rw [first] at failed
          cases failed
          exact ⟨token, List.mem_cons_self, first⟩
      | ok =>
          cases later : splitAll tokens with
          | ok =>
              rw [first, later] at failed
              cases failed
          | error =>
              rw [first, later] at failed
              cases failed
              obtain ⟨other, member, stops⟩ := ih later
              exact ⟨other, List.mem_cons_of_mem token member, stops⟩

section

variable {wide : Char → Bool} {source : String}

theorem scan_bare_eq_bind : scan ⟨.bare, wide⟩ source =
    (Token.splitAll (scanFrom ⟨.wordBoundary, wide⟩ .start source.toList).tokens).bind
      fun tokens =>
        Scan.result { scanFrom ⟨.wordBoundary, wide⟩ .start source.toList with tokens } :=
  scanFrom_bare_eq_splitAll .start source.toList

theorem scan_bare_of_ok {tokens : List Token}
    (accepted : scan ⟨.wordBoundary, wide⟩ source = .ok tokens) :
    scan ⟨.bare, wide⟩ source = Token.splitAll tokens := by
  have result : (scanFrom ⟨.wordBoundary, wide⟩ .start source.toList).result = .ok tokens :=
    accepted
  obtain ⟨whole, same⟩ := Scan.result_eq_ok_iff.mp result
  rw [scan_bare_eq_bind, ← same]
  simp only [Scan.result, whole]
  cases Token.splitAll _ <;> rfl

theorem scan_bare_of_splitAll {error : Error}
    (failed : Token.splitAll (scanFrom ⟨.wordBoundary, wide⟩ .start source.toList).tokens =
      .error error) :
    scan ⟨.bare, wide⟩ source = .error error ∧
    ∃ front digit rest, source.toList = front ++ digit :: rest ∧ digit.isDigit ∧
      error = .character (.behind front) digit ∧
      (Position.behind front).Before
        (scanFrom ⟨.wordBoundary, wide⟩ .start source.toList).position ∧
      ∃ token ∈ (scanFrom ⟨.wordBoundary, wide⟩ .start source.toList).tokens,
        token.split = .error error := by
  have stops : scan ⟨.bare, wide⟩ source = .error error := by
    rw [scan_bare_eq_bind, failed]
    rfl
  obtain ⟨front, digit, rest, whole, same⟩ := scan_error_place stops
  obtain ⟨token, member, inside⟩ := Token.exists_of_splitAll_eq_error failed
  obtain ⟨place, _, same', isDigit, before⟩ := Token.exists_of_split_eq_error inside
  obtain ⟨more, ended⟩ := position_scanFrom_of_mem member
  cases same.symm.trans same'
  refine ⟨stops, front, digit, rest, whole, isDigit, same, ?_, token, member, inside⟩
  rw [ended]
  exact before more

theorem scan_bare_of_error {error : Error}
    (failed : scan ⟨.wordBoundary, wide⟩ source = .error error) :
    scan ⟨.bare, wide⟩ source = .error error ∨
    ∃ front digit rest stop found, source.toList = front ++ digit :: rest ∧ digit.isDigit ∧
      scan ⟨.bare, wide⟩ source = .error (.character (.behind front) digit) ∧
      error = .character stop found ∧ (Position.behind front).Before stop ∧
      ∃ token ∈ (scanFrom ⟨.wordBoundary, wide⟩ .start source.toList).tokens,
        token.split = .error (.character (.behind front) digit) := by
  have stopped : (scanFrom ⟨.wordBoundary, wide⟩ .start source.toList).result = .error error :=
    failed
  rw [Scan.result] at stopped
  split at stopped
  case h_1 => cases stopped
  case h_2 found behind left =>
    cases stopped
    cases split : Token.splitAll (scanFrom ⟨.wordBoundary, wide⟩ .start source.toList).tokens with
    | ok pieces =>
        left
        rw [scan_bare_eq_bind, split]
        simp only [Except.bind, Scan.result, left]
    | error cause =>
        obtain ⟨stops, front, digit, rest, whole, isDigit, rfl, earlier, inside⟩ :=
          scan_bare_of_splitAll split
        exact .inr ⟨front, digit, rest, _, found, whole, isDigit, stops, rfl, earlier, inside⟩

end

/-- The bare scan is the scan under word boundaries with its names split.  Where the
one fails the other fails, in the same way or before that, at a digit on which a name
could not be split. -/
theorem scan_bare_eq_splitAll (wide : Char → Bool) (source : String) :
    (∀ tokens, scan ⟨.wordBoundary, wide⟩ source = .ok tokens →
      scan ⟨.bare, wide⟩ source = Token.splitAll tokens ∧
      ∀ error, Token.splitAll tokens = .error error →
        ∃ front digit rest, source.toList = front ++ digit :: rest ∧ digit.isDigit ∧
          error = .character (.behind front) digit) ∧
    (∀ error, scan ⟨.wordBoundary, wide⟩ source = .error error →
      scan ⟨.bare, wide⟩ source = .error error ∨
      ∃ front digit rest stop found, source.toList = front ++ digit :: rest ∧ digit.isDigit ∧
        scan ⟨.bare, wide⟩ source = .error (.character (.behind front) digit) ∧
        error = .character stop found ∧ (Position.behind front).Before stop ∧
        ∃ token ∈ (scanFrom ⟨.wordBoundary, wide⟩ .start source.toList).tokens,
          token.split = .error (.character (.behind front) digit)) ∧
    (∀ tokens, scan ⟨.bare, wide⟩ source = .ok tokens →
      ∃ whole, scan ⟨.wordBoundary, wide⟩ source = .ok whole) := by
  refine ⟨?_, fun error failed => scan_bare_of_error failed, ?_⟩
  · intro tokens accepted
    refine ⟨scan_bare_of_ok accepted, fun error failed => ?_⟩
    obtain ⟨-, rfl⟩ := Scan.result_eq_ok_iff.mp accepted
    obtain ⟨-, front, digit, rest, whole, isDigit, same, -⟩ := scan_bare_of_splitAll failed
    exact ⟨front, digit, rest, whole, isDigit, same⟩
  · intro tokens accepted
    cases bounded : scan ⟨.wordBoundary, wide⟩ source with
    | ok whole => exact ⟨whole, rfl⟩
    | error cause =>
        rcases scan_bare_of_error bounded with same | ⟨_, _, _, _, _, -, -, stops, -⟩
        · cases accepted.symm.trans same
        · cases accepted.symm.trans stops

theorem scan_bare_eq_splitAll_asset :
    let bounded := scan (.ofMatching .wordBoundary)
    let bare := scan (.ofMatching .bare)
    let source := "set asset = ask_1"
    let tokens : List Token := [⟨.keyword .set, "set", ⟨1, 1⟩⟩,
      ⟨.identifier "asset", "asset", ⟨1, 5⟩⟩, ⟨.equal, "=", ⟨1, 11⟩⟩,
      ⟨.identifier "ask_1", "ask_1", ⟨1, 13⟩⟩]
    let pieces : List Token := [⟨.keyword .set, "set", ⟨1, 1⟩⟩,
      ⟨.keyword .into, "as", ⟨1, 5⟩⟩, ⟨.keyword .set, "set", ⟨1, 7⟩⟩, ⟨.equal, "=", ⟨1, 11⟩⟩,
      ⟨.keyword .ask, "ask", ⟨1, 13⟩⟩, ⟨.identifier "_1", "_1", ⟨1, 16⟩⟩]
    bounded source = .ok tokens ∧ bare source = .ok pieces ∧ Token.splitAll tokens = .ok pieces ∧
      (∃ whole, bounded source = .ok whole) ∧
      bounded "say bot1\n!" = .error (.character ⟨2, 1⟩ '!') ∧
      ∃ token ∈ (scanFrom (.ofMatching .wordBoundary) .start "say bot1\n!".toList).tokens,
        token.split = .error (.character ⟨1, 8⟩ '1') := by
  intro bounded bare source tokens pieces
  obtain ⟨splits, -, bounds⟩ := scan_bare_eq_splitAll (fun _ => true) source
  obtain ⟨-, stops, -⟩ := scan_bare_eq_splitAll (fun _ => true) "say bot1\n!"
  have accepted : bounded source = .ok tokens := by decide +kernel
  have read : bare source = .ok pieces := by decide +kernel
  have fails : bounded "say bot1\n!" = .error (.character ⟨2, 1⟩ '!') := by decide +kernel
  have earlier : bare "say bot1\n!" = .error (.character ⟨1, 8⟩ '1') := by decide +kernel
  refine ⟨accepted, read, (splits tokens accepted).1.symm.trans read, bounds pieces read, fails,
    ?_⟩
  rcases stops _ fails with same | ⟨_, _, _, _, _, -, -, found, -, -, inside⟩
  · cases same.symm.trans earlier
  · rwa [Except.error.inj (found.symm.trans earlier)] at inside

end Dialogue
