import Dialogue.Load
import Dialogue.Proofs.Token.First

/-!
# The kinds in a text

`ScansTo` relates a text that is accepted to the kinds of its tokens, without
their places.  Kinds that a scan gives can be told by their contents alone
(`TokenKind.Scannable`), and the text of such a kind is scanned as that kind
where nothing behind it continues a word.
-/

namespace Dialogue

inductive ScansTo (lexicon : Lexicon) : List Char → List TokenKind → Prop
  | nil : ScansTo lexicon [] []
  | piece {text : List Char} {piece : Piece} {kinds : List TokenKind} :
      Rule.first? lexicon text = some piece → ScansTo lexicon piece.rest kinds →
        ScansTo lexicon text (piece.kind.toList ++ kinds)

section

variable {lexicon : Lexicon}

theorem Piece.kind_token? (piece : Piece) (position : Position) :
    (piece.token? position).map Token.kind = piece.kind := by
  rw [token?, Option.map_map]
  cases piece.kind with
  | none => rfl
  | some kind => cases kind <;> rfl

theorem Piece.toList_token?_of_silent {piece : Piece} (silent : piece.kind = none)
    (position : Position) : (piece.token? position).toList = [] := by
  rw [token?, silent]
  rfl

theorem scanFrom_of_first? {position : Position} {text : List Char} {piece : Piece}
    (found : Rule.first? lexicon text = some piece) :
    scanFrom lexicon position text =
      let later := scanFrom lexicon (position.after piece.text) piece.rest
      ⟨(piece.token? position).toList ++ later.tokens, later.position, later.rest⟩ := by
  rw [scanFrom]
  split
  case h_1 stuck => cases stuck.symm.trans found
  case h_2 other found' =>
    cases found'.symm.trans found
    rfl

theorem Piece.map_kind_toList (piece : Piece) (position : Position) :
    (piece.token? position).toList.map Token.kind = piece.kind.toList := by
  rw [← piece.kind_token? position]
  cases piece.token? position <;> rfl

/-! ## Scans without places -/

theorem scansTo_of_scanFrom {position : Position} {text : List Char}
    (whole : (scanFrom lexicon position text).rest = []) :
    ScansTo lexicon text ((scanFrom lexicon position text).tokens.map Token.kind) := by
  fun_induction scanFrom lexicon position text with
  | case1 position text stuck =>
      cases whole
      exact .nil
  | case2 position text piece found later ih =>
      rw [List.map_append, piece.map_kind_toList]
      exact .piece found (ih whole)

theorem ScansTo.scanFrom {text : List Char} {kinds : List TokenKind}
    (scans : ScansTo lexicon text kinds) (position : Position) :
    (Dialogue.scanFrom lexicon position text).rest = [] ∧
      (Dialogue.scanFrom lexicon position text).tokens.map Token.kind = kinds := by
  induction scans generalizing position with
  | nil => simp [scanFrom_stuck (Rule.first?_nil lexicon)]
  | @piece text piece kinds found _ ih =>
      obtain ⟨whole, later⟩ := ih (position.after piece.text)
      rw [scanFrom_of_first? found]
      exact ⟨whole, by rw [List.map_append, piece.map_kind_toList, later]⟩

theorem Scan.result_eq_ok_iff {scan : Scan} {tokens : List Token} :
    scan.result = .ok tokens ↔ scan.rest = [] ∧ scan.tokens = tokens := by
  unfold result
  split
  case h_1 whole => simp [whole]
  case h_2 left => simp [left]

theorem Scan.result_append (scan : Scan) (tokens : List Token) :
    Scan.result ⟨tokens ++ scan.tokens, scan.position, scan.rest⟩ =
      scan.result.map (tokens ++ ·) := by
  unfold result
  cases scan.rest <;> rfl

theorem scansTo_iff_scan {source : String} {kinds : List TokenKind} :
    ScansTo lexicon source.toList kinds ↔
      ∃ tokens, scan lexicon source = .ok tokens ∧ tokens.map Token.kind = kinds := by
  constructor
  · intro scans
    obtain ⟨whole, read⟩ := scans.scanFrom .start
    exact ⟨_, Scan.result_eq_ok_iff.mpr ⟨whole, rfl⟩, read⟩
  · rintro ⟨tokens, accepted, rfl⟩
    obtain ⟨whole, rfl⟩ := Scan.result_eq_ok_iff.mp accepted
    exact scansTo_of_scanFrom whole

/-! ## The kinds that a scan gives -/

/-- A kind that some text of the lexicon scans to: a string without quotes, a name
that keywords leave whole, or a kind without contents. -/
def TokenKind.Scannable (matching : KeywordMatching) : TokenKind → Prop
  | string value => '"' ∉ value.toList
  | identifier name => Name.IsName name.toList ∧ matching.Spares name.toList
  | _ => True

theorem Rule.scannable_of_first? {text : List Char} {piece : Piece} {kind : TokenKind}
    (found : first? lexicon text = some piece) (gives : piece.kind = some kind) :
    kind.Scannable lexicon.matching ∨ ∃ c ∈ piece.rest.head?, ¬ c.val < 128 := by
  cases taken_of_first? found with
  | keyword =>
      cases gives
      exact .inl trivial
  | string plain =>
      cases gives
      left
      show '"' ∉ _
      rwa [String.toList_ofList]
  | @name _ name rest free front =>
      cases gives
      rcases Lexicon.spares_of_take? front free with spared | wide
      · left
        show Name.IsName _ ∧ lexicon.matching.Spares _
        rw [String.toList_ofList]
        exact ⟨Name.take?_isName front, spared⟩
      · exact .inr wide
  | symbol member =>
      cases gives
      rcases symbol_mem_others member with ⟨rfl, -⟩ | ⟨rfl, -⟩ | ⟨rfl, -⟩
      all_goals exact .inl trivial
  | newline | blanks | comment => cases gives

theorem ScansTo.not_wide {rest : List Char} {kinds : List TokenKind}
    (scans : ScansTo lexicon rest kinds) : ∀ c ∈ rest.head?, c.val < 128 := by
  intro c front
  cases scans with
  | nil => cases front
  | piece found _ =>
      refine Decidable.byContradiction fun wide => ?_
      obtain ⟨tail, rfl⟩ := List.head?_eq_some_iff.mp front
      rw [Rule.first?_wide wide] at found
      cases found

theorem ScansTo.scannable {text : List Char} {kinds : List TokenKind}
    (scans : ScansTo lexicon text kinds) : ∀ kind ∈ kinds, kind.Scannable lexicon.matching := by
  induction scans with
  | nil => simp
  | @piece text piece kinds found onward ih =>
      intro kind member
      rcases List.mem_append.mp member with gives | later
      · rcases Rule.scannable_of_first? found (Option.mem_toList.mp gives) with
          scannable | ⟨c, front, wide⟩
        · exact scannable
        · exact (wide (onward.not_wide c front)).elim
      · exact ih kind later

/-! ## Texts that scan to given kinds -/

theorem Rule.first?_token {kind : TokenKind} {rest : List Char}
    (scannable : kind.Scannable lexicon.matching) (delimits : lexicon.Delimits rest) :
    first? lexicon (kind.text.toList ++ rest) = some ⟨some kind, kind.text.toList, rest⟩ := by
  cases kind with
  | keyword word => exact first?_of_keyword? (Lexicon.keyword?_letters word delimits)
  | string value =>
      have text : (TokenKind.string value).text.toList = '"' :: value.toList ++ ['"'] := by
        simp [TokenKind.text]
      have taken : first? lexicon ('"' :: value.toList ++ '"' :: rest) = _ :=
        first?_string scannable
      simpa [text] using taken
  | identifier name =>
      obtain ⟨named, spared⟩ := scannable
      have taken := Name.take?_name named delimits.not_isRest
      have free := Lexicon.keyword?_name (Name.isRest_of_isName named) spared delimits
      simpa [TokenKind.text] using first?_name taken free
  | leftBrace => exact first?_leftBrace rest
  | rightBrace => exact first?_rightBrace rest
  | equal => exact first?_equal rest

theorem ScansTo.token {kind : TokenKind} {rest : List Char} {kinds : List TokenKind}
    (scans : ScansTo lexicon rest kinds) (scannable : kind.Scannable lexicon.matching)
    (delimits : lexicon.Delimits rest) :
    ScansTo lexicon (kind.text.toList ++ rest) (kind :: kinds) :=
  .piece (Rule.first?_token scannable delimits) scans

def Rule.isSpace (c : Char) : Bool :=
  isBlank c || c == '\n'

theorem Rule.eq_of_isSpace {c : Char} (space : isSpace c) :
    c = ' ' ∨ c = '\t' ∨ c = '\r' ∨ c = '\n' := by
  simpa [isSpace, isBlank, or_assoc] using space

theorem Rule.isSpace_of_isBlank {c : Char} (blank : isBlank c) : isSpace c := by
  rw [isSpace, blank, Bool.true_or]

theorem Rule.isSpace_of_mem_blanks {c : Char} (blank : isBlank c) (tail : List Char) :
    ∀ d ∈ c :: tail.takeWhile isBlank, isSpace d := by
  intro d member
  rcases List.mem_cons.mp member with rfl | member
  · exact isSpace_of_isBlank blank
  · exact isSpace_of_isBlank (List.all_eq_true.mp List.all_takeWhile d member)

theorem Rule.not_continues_of_isSpace {c : Char} (space : isSpace c) :
    ¬ lexicon.continues c := by
  rcases eq_of_isSpace space with rfl | rfl | rfl | rfl <;> simp [Lexicon.continues, Name.isRest]

theorem Lexicon.delimits_of_isSpace {c : Char} (space : Rule.isSpace c) (rest : List Char) :
    lexicon.Delimits (c :: rest) := by
  intro first front
  cases front
  exact Rule.not_continues_of_isSpace space

theorem Lexicon.Delimits.spaces {gap rest : List Char} (delimits : lexicon.Delimits rest)
    (spaces : ∀ c ∈ gap, Rule.isSpace c) : lexicon.Delimits (gap ++ rest) := by
  cases gap with
  | nil => exact delimits
  | cons c gap => exact delimits_of_isSpace (spaces c List.mem_cons_self) (gap ++ rest)

theorem ScansTo.dropWhile_isBlank {text : List Char} {kinds : List TokenKind}
    (scans : ScansTo lexicon text kinds) :
    ScansTo lexicon (text.dropWhile Rule.isBlank) kinds := by
  cases text with
  | nil => exact scans
  | cons c tail =>
      by_cases blank : Rule.isBlank c
      · rw [List.dropWhile_cons_of_pos blank]
        cases scans with
        | piece found onward =>
            cases (Rule.first?_blank blank tail).symm.trans found
            exact onward
      · rwa [List.dropWhile_cons_of_neg blank]

theorem ScansTo.space {c : Char} {text : List Char} {kinds : List TokenKind}
    (scans : ScansTo lexicon text kinds) (space : Rule.isSpace c) :
    ScansTo lexicon (c :: text) kinds := by
  rcases Bool.or_eq_true_iff.mp space with blank | newline
  · exact .piece (Rule.first?_blank blank text) scans.dropWhile_isBlank
  · cases beq_iff_eq.mp newline
    exact .piece (Rule.first?_newline text) scans

theorem ScansTo.spaces {gap text : List Char} {kinds : List TokenKind}
    (scans : ScansTo lexicon text kinds) (spaces : ∀ c ∈ gap, Rule.isSpace c) :
    ScansTo lexicon (gap ++ text) kinds := by
  induction gap with
  | nil => exact scans
  | cons c gap ih =>
      have later := ih fun d member => spaces d (List.mem_cons_of_mem c member)
      exact later.space (spaces c List.mem_cons_self)

/-! ## All lists of kinds that are scanned -/

def TokenKind.joined (kinds : List TokenKind) : String :=
  " ".intercalate (kinds.map text)

theorem TokenKind.joined_cons_cons (kind next : TokenKind) (kinds : List TokenKind) :
    (joined (kind :: next :: kinds)).toList =
      kind.text.toList ++ ' ' :: (joined (next :: kinds)).toList := by
  rw [joined, List.map_cons, List.map_cons, String.intercalate_cons_cons, String.toList_append,
    String.toList_append]
  simp [joined]

theorem scansTo_joined {kinds : List TokenKind}
    (scannable : ∀ kind ∈ kinds, kind.Scannable lexicon.matching) :
    ScansTo lexicon (TokenKind.joined kinds).toList kinds := by
  induction kinds with
  | nil => exact .nil
  | cons kind kinds ih =>
      have first := scannable kind List.mem_cons_self
      have later := ih fun other member => scannable other (List.mem_cons_of_mem kind member)
      cases kinds with
      | nil =>
          have alone := ScansTo.nil.token first lexicon.delimits_nil
          simpa [TokenKind.joined] using alone
      | cons next kinds =>
          rw [TokenKind.joined_cons_cons]
          exact (later.space rfl).token first (Lexicon.delimits_of_isSpace rfl _)

end

/-- The lists of kinds that some text scans to are those of scannable kinds, and of those
every one is scanned from its own texts, joined by blanks. -/
theorem scan_image (lexicon : Lexicon) (kinds : List TokenKind) :
    ((∃ source tokens, scan lexicon source = .ok tokens ∧ tokens.map Token.kind = kinds) ↔
      ∀ kind ∈ kinds, kind.Scannable lexicon.matching) ∧
    ((∃ tokens, scan lexicon (TokenKind.joined kinds) = .ok tokens ∧
        tokens.map Token.kind = kinds) ↔
      ∀ kind ∈ kinds, kind.Scannable lexicon.matching) := by
  have sound {source : String}
      (scanned : ∃ tokens, scan lexicon source = .ok tokens ∧ tokens.map Token.kind = kinds) :
      ∀ kind ∈ kinds, kind.Scannable lexicon.matching :=
    (scansTo_iff_scan.mpr scanned).scannable
  have complete (scannable : ∀ kind ∈ kinds, kind.Scannable lexicon.matching) :
      ∃ tokens, scan lexicon (TokenKind.joined kinds) = .ok tokens ∧
        tokens.map Token.kind = kinds :=
    scansTo_iff_scan.mp (scansTo_joined scannable)
  exact ⟨⟨fun ⟨_, scanned⟩ => sound scanned, fun scannable => ⟨_, complete scannable⟩⟩,
    sound, complete⟩

end Dialogue
