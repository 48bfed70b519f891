import Dialogue.Token.Scan

/-!
# Which rule applies first

`Lexicon.keyword?` is the outcome of the keyword rules alone.  Where nothing
behind a word continues it, the keyword found there is the word itself or, in a
bare lexicon, one that begins it; and a token's text is taken as that token.
-/

namespace Dialogue

/-! ## Names and what ends them -/

theorem Name.lt_of_isRest {c : Char} (rest : isRest c) : c.val < 128 := by
  rcases Bool.or_eq_true_iff.mp rest with alphanum | underscore
  · rcases Bool.or_eq_true_iff.mp alphanum with alpha | digit
    · rcases Bool.or_eq_true_iff.mp alpha with upper | lower
      · exact UInt32.lt_of_le_of_lt (of_decide_eq_true upper).2 (by decide)
      · have high := (Bool.and_eq_true_iff.mp lower).2
        exact UInt32.lt_of_le_of_lt (of_decide_eq_true high) (by decide)
    · have high := (Bool.and_eq_true_iff.mp digit).2
      exact UInt32.lt_of_le_of_lt (of_decide_eq_true high) (by decide)
  · cases beq_iff_eq.mp underscore
    decide

theorem Name.isRest_of_isName {name : List Char} (named : IsName name) :
    ∀ c ∈ name, isRest c := by
  cases name with
  | nil => exact named.elim
  | cons first rest =>
      intro c member
      rcases List.mem_cons.mp member with rfl | member
      · exact isRest_of_isStart named.1
      · exact named.2 c member

theorem Name.take?_name {name rest : List Char} (named : IsName name)
    (outside : ∀ c ∈ rest.head?, ¬ isRest c) : take? (name ++ rest) = some (name, rest) := by
  cases name with
  | nil => exact named.elim
  | cons first tail =>
      have stop : rest.takeWhile isRest = [] ∧ rest.dropWhile isRest = rest := by
        cases rest with
        | nil => simp
        | cons c rest =>
            have outer : ¬ isRest c := outside c rfl
            simp [outer]
      simp [take?, named.1, List.takeWhile_append_of_pos named.2,
        List.dropWhile_append_of_pos named.2, stop]

theorem Name.take?_outside {text name rest : List Char}
    (taken : take? text = some (name, rest)) : ∀ c ∈ rest.head?, ¬ isRest c := by
  cases text with
  | nil => cases taken
  | cons first tail =>
      simp only [take?] at taken
      split at taken <;> cases taken
      intro c member outer
      have stopped := List.head?_dropWhile_not isRest tail
      rw [Option.mem_def.mp member] at stopped
      simp [outer] at stopped

namespace Lexicon

/-- Nothing here continues the word before it. -/
def Delimits (lexicon : Lexicon) (rest : List Char) : Prop :=
  ∀ c ∈ rest.head?, ¬ lexicon.continues c

theorem continues_of_isRest (lexicon : Lexicon) {c : Char} (rest : Name.isRest c) :
    lexicon.continues c := by
  simp [continues, Name.lt_of_isRest rest, rest]

theorem Delimits.not_isRest {lexicon : Lexicon} {rest : List Char}
    (delimits : lexicon.Delimits rest) : ∀ c ∈ rest.head?, ¬ Name.isRest c :=
  fun c member isRest => delimits c member (lexicon.continues_of_isRest isRest)

theorem Delimits.endsWord {lexicon : Lexicon} {rest : List Char}
    (delimits : lexicon.Delimits rest) : lexicon.endsWord rest := by
  unfold Lexicon.endsWord
  split
  · rfl
  · rfl
  · simpa using delimits _ rfl

theorem delimits_of_endsWord {lexicon : Lexicon} {rest : List Char}
    (bounded : lexicon.matching = .wordBoundary) (ends : lexicon.endsWord rest) :
    lexicon.Delimits rest := by
  intro c member
  obtain ⟨tail, rfl⟩ := List.head?_eq_some_iff.mp member
  simpa [endsWord, bounded] using ends

theorem delimits_nil (lexicon : Lexicon) : lexicon.Delimits [] := by
  intro c member
  cases member

end Lexicon

/-! ## Keywords at the front of a text -/

namespace Keyword

theorem isRest_of_mem_letters (word : Keyword) : ∀ c ∈ word.letters, Name.isRest c := by
  apply List.all_eq_true.mp
  cases word <;> rfl

theorem letters_eq_cons (word : Keyword) :
    ∃ first more, word.letters = first :: more ∧ Name.isStart first := by
  cases word <;> exact ⟨_, _, rfl, by decide⟩

theorem isName_letters (word : Keyword) : Name.IsName word.letters := by
  obtain ⟨first, more, letters, start⟩ := word.letters_eq_cons
  have inside := word.isRest_of_mem_letters
  rw [letters] at inside ⊢
  exact ⟨start, fun c member => inside c (List.mem_cons_of_mem first member)⟩

theorem not_prefix_of_earlier (word : Keyword) :
    ∃ earlier later, all = earlier ++ word :: later ∧
      ∀ other ∈ earlier, ¬ other.letters <+: word.letters := by
  refine ⟨all.takeWhile (· ≠ word), (all.dropWhile (· ≠ word)).tail, ?_, ?_⟩
  · cases word <;> rfl
  · cases word <;> decide

theorem strip?_word {word : Keyword} {name rest tail : List Char}
    (outside : ∀ c ∈ rest.head?, ¬ Name.isRest c) :
    word.strip? (name ++ rest) = some tail ↔
      ∃ more, name = word.letters ++ more ∧ tail = more ++ rest := by
  rw [strip?_eq_some, List.append_eq_append_iff]
  constructor
  · rintro (⟨more, letters, whole⟩ | ⟨more, whole, after⟩)
    · cases more with
      | nil => exact ⟨[], by simpa using letters.symm, by simpa using whole.symm⟩
      | cons c more =>
          have inside : Name.isRest c := word.isRest_of_mem_letters c (by simp [letters])
          exact (outside c (by simp [whole]) inside).elim
    · exact ⟨more, whole, after⟩
  · rintro ⟨more, rfl, rfl⟩
    exact .inr ⟨more, rfl, rfl⟩

end Keyword

/-- Which names stay whole: under a word boundary those that are no keyword, and
bare those that do not begin with one. -/
def KeywordMatching.Spares : KeywordMatching → List Char → Prop
  | wordBoundary, name => ∀ word : Keyword, word.letters ≠ name
  | bare, name => ∀ word : Keyword, ¬ word.letters <+: name

namespace Lexicon

def keyword? (lexicon : Lexicon) (text : List Char) : Option (Keyword × List Char) :=
  Keyword.all.findSome? fun word =>
    (word.strip? text).bind fun rest =>
      if lexicon.endsWord rest then some (word, rest) else none

variable {lexicon : Lexicon} {rest : List Char}

theorem keyword?_eq_some {text : List Char} {word : Keyword}
    (found : lexicon.keyword? text = some (word, rest)) :
    text = word.letters ++ rest ∧ lexicon.endsWord rest := by
  obtain ⟨other, -, stripped⟩ := List.exists_of_findSome?_eq_some found
  obtain ⟨tail, front, ends⟩ := Option.bind_eq_some_iff.mp stripped
  split at ends <;> cases ends
  exact ⟨Keyword.strip?_eq_some.mp front, ‹_›⟩

theorem keyword?_letters (word : Keyword) (delimits : lexicon.Delimits rest) :
    lexicon.keyword? (word.letters ++ rest) = some (word, rest) := by
  obtain ⟨earlier, later, whole, unrelated⟩ := word.not_prefix_of_earlier
  rw [keyword?, List.findSome?_eq_some_iff]
  refine ⟨earlier, word, later, whole, ?_, ?_⟩
  · have stripped : word.strip? (word.letters ++ rest) = some rest :=
      Keyword.strip?_eq_some.mpr rfl
    simp [stripped, delimits.endsWord]
  · intro other member
    have kept : other.strip? (word.letters ++ rest) = none := by
      rw [Option.eq_none_iff_forall_ne_some]
      intro tail found
      obtain ⟨more, letters, -⟩ := (Keyword.strip?_word delimits.not_isRest).mp found
      exact unrelated other member ⟨more, letters.symm⟩
    rw [kept, Option.bind_none]

theorem keyword?_name {name : List Char} (letters : ∀ c ∈ name, Name.isRest c)
    (spared : lexicon.matching.Spares name) (delimits : lexicon.Delimits rest) :
    lexicon.keyword? (name ++ rest) = none := by
  rw [keyword?, List.findSome?_eq_none_iff]
  intro word _
  rw [Option.bind_eq_none_iff]
  intro tail found
  obtain ⟨more, rfl, rfl⟩ := (Keyword.strip?_word delimits.not_isRest).mp found
  rw [ite_eq_right_iff]
  intro ends
  cases matching : lexicon.matching with
  | bare =>
      rw [matching] at spared
      exact (spared word ⟨more, rfl⟩).elim
  | wordBoundary =>
      rw [matching] at spared
      cases more with
      | nil => exact (spared word (by simp)).elim
      | cons c more =>
          have inside := lexicon.continues_of_isRest (letters c (by simp))
          simp [endsWord, matching, inside] at ends

theorem spares_of_keyword?_eq_none {name : List Char}
    (outside : ∀ c ∈ rest.head?, ¬ Name.isRest c)
    (free : lexicon.keyword? (name ++ rest) = none) :
    lexicon.matching.Spares name ∨ ∃ c ∈ rest.head?, ¬ c.val < 128 := by
  rw [keyword?, List.findSome?_eq_none_iff] at free
  have refused : ∀ (word : Keyword) (more : List Char), name = word.letters ++ more →
      ¬ lexicon.endsWord (more ++ rest) := by
    intro word more whole ends
    have stripped : word.strip? (name ++ rest) = some (more ++ rest) :=
      (Keyword.strip?_word outside).mpr ⟨more, whole, rfl⟩
    have failed := free word word.mem_all
    simp [stripped, ends] at failed
  cases matching : lexicon.matching with
  | bare =>
      left
      rintro word ⟨more, whole⟩
      exact refused word more whole.symm (by simp [endsWord, matching])
  | wordBoundary =>
      by_cases known : ∃ word : Keyword, word.letters = name
      · right
        obtain ⟨word, rfl⟩ := known
        have goes := refused word [] (by simp)
        cases rest with
        | nil => simp [endsWord, matching] at goes
        | cons c tail =>
            refine ⟨c, rfl, fun narrow => outside c rfl ?_⟩
            simpa [endsWord, matching, continues, narrow] using goes
      · exact .inl fun word same => known ⟨word, same⟩

theorem spares_of_take? {text name : List Char} (front : Name.take? text = some (name, rest))
    (free : lexicon.keyword? text = none) :
    lexicon.matching.Spares name ∨ ∃ c ∈ rest.head?, ¬ c.val < 128 := by
  rw [Name.take?_append front] at free
  exact spares_of_keyword?_eq_none (Name.take?_outside front) free

theorem keyword?_eq_none_of_not_isStart {c : Char} (other : ¬ Name.isStart c) :
    lexicon.keyword? (c :: rest) = none := by
  rw [keyword?, List.findSome?_eq_none_iff]
  intro word _
  rw [Option.bind_eq_none_iff]
  intro tail found
  obtain ⟨first, more, letters, start⟩ := word.letters_eq_cons
  rw [Keyword.strip?_eq_some, letters] at found
  cases found
  exact (other start).elim

end Lexicon

/-! ## The rules in order -/

namespace Rule

variable {lexicon : Lexicon}

def others : List Rule :=
  [string, identifier, symbol .leftBrace '\x7b', symbol .rightBrace '\x7d',
    symbol .equal '=', newline, blanks, comment]

theorem first?_eq_or (lexicon : Lexicon) (text : List Char) :
    first? lexicon text =
      ((lexicon.keyword? text).map fun (word, rest) =>
        ⟨some (.keyword word), word.letters, rest⟩).or
        (others.findSome? (take? lexicon text)) := by
  have keywords : (Keyword.all.map keyword).findSome? (take? lexicon text) =
      (lexicon.keyword? text).map fun (word, rest) =>
        ⟨some (.keyword word), word.letters, rest⟩ := by
    rw [Lexicon.keyword?, List.findSome?_map, List.map_findSome?]
    congr 1
    funext word
    simp only [Function.comp_apply, take?]
    cases word.strip? text with
    | none => rfl
    | some rest =>
        simp only [Option.bind_some]
        split <;> rfl
  rw [first?, table, List.findSome?_append, keywords]
  rfl

theorem first?_nil (lexicon : Lexicon) : first? lexicon [] = none := rfl

theorem first?_of_keyword? {text rest : List Char} {word : Keyword}
    (found : lexicon.keyword? text = some (word, rest)) :
    first? lexicon text = some ⟨some (.keyword word), word.letters, rest⟩ := by
  rw [first?_eq_or, found]
  rfl

theorem first?_of_keyword?_eq_none {text : List Char} (free : lexicon.keyword? text = none) :
    first? lexicon text = others.findSome? (take? lexicon text) := by
  rw [first?_eq_or, free]
  rfl

theorem first?_name {text name rest : List Char}
    (taken : Name.take? text = some (name, rest)) (free : lexicon.keyword? text = none) :
    first? lexicon text = some ⟨some (.identifier (.ofList name)), name, rest⟩ := by
  cases text with
  | nil => cases taken
  | cons c tail =>
      have letter : c ≠ '"' := by
        rintro rfl
        cases taken
      rw [first?_of_keyword?_eq_none free]
      simp [others, take?, letter, taken]

theorem exists_first?_of_take? {text name rest : List Char}
    (taken : Name.take? text = some (name, rest)) : ∃ piece, first? lexicon text = some piece := by
  cases keyword : lexicon.keyword? text with
  | some pair => exact ⟨_, first?_of_keyword? keyword⟩
  | none => exact ⟨_, first?_name taken keyword⟩

theorem first?_of_not_isStart {c : Char} {tail : List Char} (other : ¬ Name.isStart c) :
    first? lexicon (c :: tail) = others.findSome? (take? lexicon (c :: tail)) :=
  first?_of_keyword?_eq_none (Lexicon.keyword?_eq_none_of_not_isStart other)

theorem not_mem_takeWhile_ne (stop : Char) (text : List Char) :
    stop ∉ text.takeWhile (· != stop) := by
  intro inside
  have outside := List.all_eq_true.mp List.all_takeWhile _ inside
  simp at outside

theorem upTo_quote {value rest : List Char} (plain : '"' ∉ value) :
    (value ++ '"' :: rest).takeWhile (· != '"') = value ∧
      (value ++ '"' :: rest).dropWhile (· != '"') = '"' :: rest := by
  have inside : ∀ c ∈ value, (c != '"') = true := by
    intro c member
    rw [bne_iff_ne]
    rintro rfl
    exact plain member
  simp [List.takeWhile_append_of_pos inside, List.dropWhile_append_of_pos inside]

theorem first?_string {value rest : List Char} (plain : '"' ∉ value) :
    first? lexicon ('"' :: value ++ '"' :: rest) =
      some ⟨some (.string (.ofList value)), '"' :: value ++ ['"'], rest⟩ := by
  rw [List.cons_append, first?_of_not_isStart (by decide)]
  simp [others, take?, upTo_quote plain]

theorem quoted_of_dropWhile {tail rest : List Char} {quote : Char}
    (behind : tail.dropWhile (· != '"') = quote :: rest) :
    quote = '"' ∧ '"' ∉ tail.takeWhile (· != '"') ∧
      tail = tail.takeWhile (· != '"') ++ '"' :: rest := by
  have stopped := List.head?_dropWhile_not (· != '"') tail
  rw [behind] at stopped
  obtain rfl : quote = '"' := by simpa using stopped
  refine ⟨rfl, not_mem_takeWhile_ne '"' tail, ?_⟩
  rw [← behind, List.takeWhile_append_dropWhile]

theorem first?_leftBrace (rest : List Char) :
    first? lexicon ('\x7b' :: rest) = some ⟨some .leftBrace, ['\x7b'], rest⟩ := by
  rw [first?_of_not_isStart (by decide)]
  simp [others, take?, Name.take?, Name.isStart]

theorem first?_rightBrace (rest : List Char) :
    first? lexicon ('\x7d' :: rest) = some ⟨some .rightBrace, ['\x7d'], rest⟩ := by
  rw [first?_of_not_isStart (by decide)]
  simp [others, take?, Name.take?, Name.isStart]

theorem first?_equal (rest : List Char) :
    first? lexicon ('=' :: rest) = some ⟨some .equal, ['='], rest⟩ := by
  rw [first?_of_not_isStart (by decide)]
  simp [others, take?, Name.take?, Name.isStart]

theorem first?_blank {c : Char} (blank : isBlank c) (tail : List Char) :
    first? lexicon (c :: tail) =
      some ⟨none, c :: tail.takeWhile isBlank, tail.dropWhile isBlank⟩ := by
  have cases : c = ' ' ∨ c = '\t' ∨ c = '\r' := by simpa [isBlank, or_assoc] using blank
  rcases cases with rfl | rfl | rfl
  all_goals
    rw [first?_of_not_isStart (by decide)]
    simp [others, take?, Name.take?, Name.isStart, blank]

theorem first?_newline (tail : List Char) :
    first? lexicon ('\n' :: tail) = some ⟨none, ['\n'], tail⟩ := by
  rw [first?_of_not_isStart (by decide)]
  simp [others, take?, Name.take?, Name.isStart]

theorem first?_wide {c : Char} (wide : ¬ c.val < 128) (tail : List Char) :
    first? lexicon (c :: tail) = none := by
  have other : ¬ Name.isStart c := fun start =>
    wide (Name.lt_of_isRest (Name.isRest_of_isStart start))
  have differs : ∀ {d : Char}, d.val < 128 → c ≠ d := by
    rintro d narrow rfl
    exact wide narrow
  rw [first?_of_not_isStart other]
  simp [others, take?, Name.take?, other, isBlank, differs]

theorem first?_comment (tail : List Char) :
    first? lexicon ('#' :: tail) =
      some ⟨none, '#' :: tail.takeWhile (· != '\n'), tail.dropWhile (· != '\n')⟩ := by
  rw [first?_of_not_isStart (by decide)]
  simp [others, take?, Name.take?, Name.isStart, isBlank]

theorem symbol_mem_others {kind : TokenKind} {c : Char} (member : symbol kind c ∈ others) :
    (kind = .leftBrace ∧ c = '\x7b') ∨ (kind = .rightBrace ∧ c = '\x7d') ∨
      (kind = .equal ∧ c = '=') := by
  simpa only [others, List.mem_cons, List.not_mem_nil, or_false, reduceCtorEq, false_or,
    symbol.injEq] using member

theorem first?_symbol {kind : TokenKind} {c : Char} (member : symbol kind c ∈ others)
    (rest : List Char) : first? lexicon (c :: rest) = some ⟨some kind, [c], rest⟩ := by
  rcases symbol_mem_others member with ⟨rfl, rfl⟩ | ⟨rfl, rfl⟩ | ⟨rfl, rfl⟩
  · exact first?_leftBrace rest
  · exact first?_rightBrace rest
  · exact first?_equal rest

/-! ## All that can be taken -/

/-- Everything that can be taken from the front of a text. -/
inductive Taken (lexicon : Lexicon) : List Char → Piece → Prop
  | keyword {text rest : List Char} {word : Keyword} :
      lexicon.keyword? text = some (word, rest) →
        Taken lexicon text ⟨some (.keyword word), word.letters, rest⟩
  | string {value rest : List Char} : '"' ∉ value →
      Taken lexicon ('"' :: value ++ '"' :: rest)
        ⟨some (.string (.ofList value)), '"' :: value ++ ['"'], rest⟩
  | name {text name rest : List Char} :
      lexicon.keyword? text = none → Name.take? text = some (name, rest) →
        Taken lexicon text ⟨some (.identifier (.ofList name)), name, rest⟩
  | symbol {kind : TokenKind} {c : Char} {rest : List Char} : symbol kind c ∈ others →
      Taken lexicon (c :: rest) ⟨some kind, [c], rest⟩
  | newline {rest : List Char} : Taken lexicon ('\n' :: rest) ⟨none, ['\n'], rest⟩
  | blanks {c : Char} {tail : List Char} : isBlank c →
      Taken lexicon (c :: tail) ⟨none, c :: tail.takeWhile isBlank, tail.dropWhile isBlank⟩
  | comment {tail : List Char} :
      Taken lexicon ('#' :: tail)
        ⟨none, '#' :: tail.takeWhile (· != '\n'), tail.dropWhile (· != '\n')⟩

theorem Taken.first? {text : List Char} {piece : Piece} (taken : Taken lexicon text piece) :
    first? lexicon text = some piece := by
  cases taken with
  | keyword found => exact first?_of_keyword? found
  | string plain => exact first?_string plain
  | name free front => exact first?_name front free
  | symbol member => exact first?_symbol member _
  | newline => exact first?_newline _
  | blanks blank => exact first?_blank blank _
  | comment => exact first?_comment _

theorem taken_of_first? {text : List Char} {piece : Piece}
    (found : first? lexicon text = some piece) : Taken lexicon text piece := by
  cases keyword : lexicon.keyword? text with
  | some pair =>
      cases (first?_of_keyword? keyword).symm.trans found
      exact .keyword keyword
  | none =>
      rw [first?_of_keyword?_eq_none keyword] at found
      obtain ⟨rule, member, taken⟩ := List.exists_of_findSome?_eq_some found
      cases rule with
      | keyword word => simp [others] at member
      | string =>
          simp only [take?] at taken
          split at taken
          case h_1 tail =>
            split at taken <;> cases taken
            rename_i quote rest behind
            obtain ⟨rfl, plain, whole⟩ := quoted_of_dropWhile behind
            have accepted :
                Taken lexicon ('"' :: tail.takeWhile (· != '"') ++ '"' :: rest) _ := .string plain
            rwa [List.cons_append, ← whole] at accepted
          case h_2 => cases taken
      | identifier =>
          obtain ⟨⟨name, rest⟩, front, rfl⟩ := Option.map_eq_some_iff.mp taken
          exact .name keyword front
      | symbol kind c =>
          simp only [take?] at taken
          split at taken
          · cases taken
          · split at taken <;> cases taken
            subst_vars
            exact .symbol member
      | newline =>
          simp only [take?] at taken
          split at taken <;> cases taken
          exact .newline
      | blanks =>
          simp only [take?] at taken
          split at taken
          · cases taken
          · split at taken <;> cases taken
            exact .blanks ‹_›
      | comment =>
          simp only [take?] at taken
          split at taken <;> cases taken
          exact .comment

end Rule

end Dialogue
