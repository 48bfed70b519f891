import Dialogue.Proofs.Script.Printing
import Dialogue.Proofs.Token.Lookahead
import Dialogue.Proofs.Token.Split
import Dialogue.Proofs.Token.Trivia

/-!
# White space and comments put into a text

White space and whole comments may be put at the ends of an accepted text and at both
ends of every token.  The tokens move and stay the same otherwise, so the text declares
the same bot as before.  What was read in front of the seam is read again, because
nothing that is put there continues a word.
-/

namespace Dialogue

/-! ## What was read before a seam -/

/-- From a place on, `front` was read as these tokens, and the last of them ends where
`front` ends.  It is read as these kinds in front of all that does not continue it. -/
structure Reads (lexicon : Lexicon) (position : Position) (front : List Char)
    (tokens : List Token) : Prop where
  prints : Prints lexicon front (tokens.map Token.kind)
  nil : tokens = [] → front = []
  ne_nil : tokens ≠ [] → front ≠ []
  last : ∀ token ∈ tokens.getLast?, ∃ before,
    front = before ++ token.kind.text.toList ∧ token.position = position.after before

section

variable {lexicon : Lexicon}

theorem reads_nil (position : Position) : Reads lexicon position [] [] where
  prints _ _ _ scans := scans
  nil _ := rfl
  ne_nil other := (other rfl).elim
  last _ member := nomatch member

namespace Reads

variable {position : Position} {text front rest : List Char} {piece : Piece}
  {tokens : List Token}

theorem silent (reads : Reads lexicon (position.after piece.text) front tokens)
    (taken : Rule.Taken lexicon text piece) (gives : piece.kind = none)
    (whole : piece.rest = front ++ rest) (nonempty : tokens ≠ []) :
    Reads lexicon position (piece.text ++ front) tokens where
  prints := by
    intro rest' more delimits scans
    have step := taken.scansTo_append whole (reads.ne_nil nonempty)
      (reads.prints rest' more delimits scans)
    rwa [gives] at step
  nil none := (nonempty none).elim
  ne_nil _ := by simp [taken.text_ne_nil]
  last := by
    intro token member
    obtain ⟨before, split, place⟩ := reads.last token member
    exact ⟨piece.text ++ before, by rw [split, List.append_assoc],
      by rw [place, Position.after_append]⟩

theorem token (reads : Reads lexicon (position.after piece.text) front tokens)
    (taken : Rule.Taken lexicon text piece) {kind : TokenKind} (gives : piece.kind = some kind)
    (scannable : kind.Scannable lexicon.matching) (whole : piece.rest = front ++ rest) :
    Reads lexicon position (piece.text ++ front) (⟨kind, kind.lexeme, position⟩ :: tokens) where
  prints := by
    intro rest' more delimits scans
    by_cases none : tokens = []
    · rw [reads.nil none, none, List.append_nil, taken.text_eq gives]
      exact prints_token scannable rest' more delimits scans
    · have step := taken.scansTo_append whole (reads.ne_nil none)
        (reads.prints rest' more delimits scans)
      rwa [gives] at step
  nil none := nomatch none
  ne_nil _ := by simp [taken.text_ne_nil]
  last := by
    intro token member
    by_cases none : tokens = []
    · rw [none] at member
      cases member
      rw [reads.nil none, taken.text_eq gives]
      exact ⟨[], List.append_nil _, rfl⟩
    · rw [List.getLast?_cons_of_ne_nil none] at member
      obtain ⟨before, split, place⟩ := reads.last token member
      exact ⟨piece.text ++ before, by rw [split, List.append_assoc],
        by rw [place, Position.after_append]⟩

end Reads

theorem exists_reads {position : Position} {text : List Char}
    (whole : (scanFrom lexicon position text).rest = []) {before after : List Token}
    (split : (scanFrom lexicon position text).tokens = before ++ after) :
    ∃ front rest, text = front ++ rest ∧ Reads lexicon position front before ∧
      (scanFrom lexicon (position.after front) rest).rest = [] ∧
      (scanFrom lexicon (position.after front) rest).tokens = after := by
  -- A silent piece goes to the token behind it, so `front` ends where its last token does.
  fun_induction scanFrom lexicon position text generalizing before with
  | case1 position text stuck =>
      obtain ⟨rfl, rfl⟩ := List.nil_eq_append_iff.mp split
      refine ⟨[], text, rfl, reads_nil position, ?_⟩
      rw [Position.after_nil, scanFrom_stuck stuck]
      exact ⟨whole, rfl⟩
  | case2 position text piece found later ih =>
      have taken := Rule.taken_of_first? found
      cases before with
      | nil =>
          refine ⟨[], text, rfl, reads_nil position, ?_⟩
          rw [Position.after_nil, scanFrom_of_first? found]
          exact ⟨whole, split⟩
      | cons first before =>
          cases gives : piece.kind with
          | none =>
              rw [Piece.toList_token?_of_silent gives, List.nil_append] at split
              obtain ⟨front, rest, behind, reads, onward⟩ := ih whole split
              refine ⟨piece.text ++ front, rest, ?_,
                reads.silent taken gives behind (List.cons_ne_nil _ _), ?_⟩
              · rw [List.append_assoc, ← behind]
                exact Rule.first?_text found
              · rwa [Position.after_append]
          | some kind =>
              rw [taken.token?_eq gives] at split
              obtain ⟨rfl, others⟩ := List.cons.inj split
              obtain ⟨front, rest, behind, reads, onward⟩ := ih whole others
              have scannable : kind.Scannable lexicon.matching := by
                rcases Rule.scannable_of_first? found gives with scannable | ⟨c, head, wide⟩
                · exact scannable
                · exact (wide ((scansTo_of_scanFrom whole).not_wide c head)).elim
              refine ⟨piece.text ++ front, rest, ?_, reads.token taken gives scannable behind, ?_⟩
              · rw [List.append_assoc, ← behind]
                exact Rule.first?_text found
              · rwa [Position.after_append]

end

/-! ## Seams -/

/-- The ends of a text with these tokens, and both ends of each of them. -/
inductive Seam (tokens : List Token) : (before after : List Char) → Prop
  | first {text : List Char} : Seam tokens [] text
  | last {text : List Char} : Seam tokens text []
  | before {front rest : List Char} {token : Token} : token ∈ tokens →
      token.position = .behind front → Seam tokens front rest
  | after {front rest : List Char} {token : Token} : token ∈ tokens →
      token.position = .behind front → Seam tokens (front ++ token.kind.text.toList) rest

theorem Layout.lexeme_eq {front text : List Char} {tokens : List Token}
    (layout : Layout front text tokens) :
    tokens.map Token.lexeme = (tokens.map Token.kind).map TokenKind.lexeme := by
  induction layout with
  | last => rfl
  | token _ _ ih => simp only [List.map_cons, ih]

theorem ScansTo.unique {lexicon : Lexicon} {text : List Char} {kinds kinds' : List TokenKind}
    (scans : ScansTo lexicon text kinds) (scans' : ScansTo lexicon text kinds') :
    kinds = kinds' :=
  (scans.scanFrom .start).2.symm.trans (scans'.scanFrom .start).2

theorem TokenKind.Scannable.exists_head {matching : KeywordMatching} {kind : TokenKind}
    (scannable : kind.Scannable matching) :
    ∃ c tail, kind.text.toList = c :: tail ∧ c ≠ '\n' := by
  have letter {name : List Char} (named : Name.IsName name) :
      ∃ c tail, name = c :: tail ∧ c ≠ '\n' := by
    cases name with
    | nil => exact named.elim
    | cons c tail =>
        refine ⟨c, tail, rfl, ?_⟩
        rintro rfl
        cases named.1
  cases kind with
  | keyword word => exact letter word.isName_letters
  | string value => exact ⟨'"', value.toList ++ ['"'], by simp [TokenKind.text], by decide⟩
  | identifier name => exact letter scannable.1
  | leftBrace | rightBrace | equal => exact ⟨_, [], rfl, by decide⟩

section

variable {lexicon : Lexicon} {text before after trivia : List Char}

theorem scansTo_insert (whole : (scanFrom lexicon .start text).rest = [])
    (split : text = before ++ after)
    (seam : Seam (scanFrom lexicon .start text).tokens before after) (silent : Trivia trivia) :
    ScansTo lexicon (before ++ trivia ++ after)
      ((scanFrom lexicon .start text).tokens.map Token.kind) := by
  by_cases none : trivia = []
  · rw [none, List.append_nil, ← split]
    exact scansTo_of_scanFrom whole
  cases seam with
  | first =>
      cases split
      exact (scansTo_gap_iff (silent.gap _)).mpr (scansTo_of_scanFrom whole)
  | last =>
      obtain ⟨front, rest, same, reads, whole', others⟩ :=
        exists_reads whole (List.append_nil _).symm
      have layout := layout_scanFrom whole' (Position.start_after front)
      rw [others] at layout
      cases layout with
      | last ending =>
          have ending' := silent.gap_append ending
          have read := reads.prints _ [] (ending'.delimits (by simp [none]))
            ((scansTo_gap_iff ending').mpr .nil)
          rw [List.append_nil] at split
          simpa [← split, same] using read
  | @before _ _ token member place =>
      obtain ⟨earlier, later, tokens⟩ := List.append_of_mem member
      have scannable := (scansTo_of_scanFrom whole).scannable token.kind
        (List.mem_map_of_mem member)
      obtain ⟨front, rest, same, reads, whole', others⟩ := exists_reads whole tokens
      have scans := scansTo_of_scanFrom whole'
      have layout := layout_scanFrom whole' (Position.start_after front)
      rw [others] at layout scans
      rw [tokens, List.map_append]
      cases layout with
      | @token _ gap rest kind _ gap' _ =>
          obtain ⟨c, tail, head, visible⟩ := scannable.exists_head
          rw [List.append_assoc] at same scans
          have whole'' : front ++ gap ++ (kind.text.toList ++ rest) = before ++ after := by
            rw [List.append_assoc, ← same, split]
          obtain rfl := Position.eq_of_behind_eq whole'' place
          obtain rfl := List.append_cancel_left whole''
          have open' : Gap (trivia ++ (kind.text.toList ++ rest)) gap :=
            gap'.of_visible (by rw [head]; rfl) visible _
          have longer := open'.append (silent.gap _)
          have read := reads.prints _ _ (longer.delimits (by simp [none]))
            ((scansTo_gap_iff longer).mpr ((scansTo_gap_iff gap').mp scans))
          simpa using read
  | @after front _ token member place =>
      obtain ⟨earlier, later, tokens⟩ := List.append_of_mem member
      rw [List.append_cons] at tokens
      obtain ⟨front', rest, same, reads, whole', others⟩ := exists_reads whole tokens
      have scans := scansTo_of_scanFrom whole'
      rw [others] at scans
      obtain ⟨before', ends, place'⟩ := reads.last token (by simp)
      rw [Position.start_after] at place'
      have whole'' : before' ++ (token.kind.text.toList ++ rest) =
          front ++ (token.kind.text.toList ++ after) := by
        rw [← List.append_assoc, ← ends, ← same, split, List.append_assoc]
      obtain rfl := Position.eq_of_behind_eq whole'' (place'.symm.trans place)
      obtain rfl := List.append_cancel_left (List.append_cancel_left whole'')
      have gap := silent.gap rest
      have read := reads.prints _ _ (gap.delimits none) ((scansTo_gap_iff gap).mpr scans)
      rw [tokens, List.map_append, ← ends, List.append_assoc]
      exact read

end

theorem load_congr {options : ScriptOptions} {source source' : String}
    {kinds : List TokenKind} (scans : ScansTo (.ofOptions options) source.toList kinds)
    (scans' : ScansTo (.ofOptions options) source'.toList kinds) (bot : Bot) :
    load options source = .ok bot ↔ load options source' = .ok bot := by
  have same (script : Script) : ScansTo (.ofOptions options) source.toList script.kinds ↔
      ScansTo (.ofOptions options) source'.toList script.kinds := by
    constructor
    · intro read
      rwa [read.unique scans]
    · intro read
      rwa [read.unique scans']
  rw [load_eq_ok_iff, load_eq_ok_iff]
  simp only [same]

theorem lexemes_of_scan {lexicon : Lexicon} {source : String} {tokens : List Token}
    (accepted : scan lexicon source = .ok tokens) :
    tokens.map Token.lexeme = (tokens.map Token.kind).map TokenKind.lexeme := by
  obtain ⟨whole, rfl⟩ := Scan.result_eq_ok_iff.mp accepted
  have layout : Layout [] source.toList _ := layout_scanFrom whole rfl
  exact layout.lexeme_eq

/-- White space and comments are insignificant.  Put at a seam of an accepted text they
leave its tokens as they are, and the text is loaded as the same bot or is no bot, as
before. -/
theorem scan_respaced {options : ScriptOptions} {source : String} {tokens : List Token}
    (accepted : scan (.ofOptions options) source = .ok tokens) {before after trivia : List Char}
    (split : source.toList = before ++ after) (seam : Seam tokens before after)
    (silent : Trivia trivia) :
    let respaced := String.ofList (before ++ trivia ++ after)
    (∃ moved, scan (.ofOptions options) respaced = .ok moved ∧
      moved.map Token.kind = tokens.map Token.kind ∧
      moved.map Token.lexeme = tokens.map Token.lexeme) ∧
    ∀ bot, load options respaced = .ok bot ↔ load options source = .ok bot := by
  intro respaced
  obtain ⟨whole, same⟩ := Scan.result_eq_ok_iff.mp accepted
  have scans : ScansTo (.ofOptions options) source.toList (tokens.map Token.kind) :=
    scansTo_iff_scan.mpr ⟨tokens, accepted, rfl⟩
  have scans' : ScansTo (.ofOptions options) respaced.toList (tokens.map Token.kind) := by
    rw [String.toList_ofList, ← same]
    exact scansTo_insert whole split (same ▸ seam) silent
  obtain ⟨moved, accepted', kinds⟩ := scansTo_iff_scan.mp scans'
  refine ⟨⟨moved, accepted', kinds, ?_⟩, load_congr scans' scans⟩
  rw [lexemes_of_scan accepted', kinds, lexemes_of_scan accepted]

theorem scan_respaced_word :
    let options : ScriptOptions := ⟨.bare⟩
    let source := "bot\"B\"\x7bdefault\x7bendend\x7d\x7d"
    let before := "bot\"B\"\x7bdefault\x7bend".toList
    let after := "end\x7d\x7d".toList
    let trivia := "# the end\n\t".toList
    ∃ tokens bot, scan (.ofOptions options) source = .ok tokens ∧
      source.toList = before ++ after ∧ Seam tokens before after ∧ Trivia trivia ∧
      (∃ moved, scan (.ofOptions options) (.ofList (before ++ trivia ++ after)) = .ok moved ∧
        moved.map Token.kind = tokens.map Token.kind ∧
        moved.map Token.lexeme = tokens.map Token.lexeme) ∧
      load options source = .ok bot ∧
      load options (.ofList (before ++ trivia ++ after)) = .ok bot := by
  intro options source before after trivia
  let script : Script := ⟨"B", [⟨.default, [.finish, .finish]⟩]⟩
  let tokens : List Token := [⟨.keyword .bot, "bot", ⟨1, 1⟩⟩, ⟨.string "B", "B", ⟨1, 4⟩⟩,
    ⟨.leftBrace, "\x7b", ⟨1, 7⟩⟩, ⟨.keyword .default, "default", ⟨1, 8⟩⟩,
    ⟨.leftBrace, "\x7b", ⟨1, 15⟩⟩, ⟨.keyword .finish, "end", ⟨1, 16⟩⟩,
    ⟨.keyword .finish, "end", ⟨1, 19⟩⟩, ⟨.rightBrace, "\x7d", ⟨1, 22⟩⟩,
    ⟨.rightBrace, "\x7d", ⟨1, 23⟩⟩]
  have accepted : scan (.ofOptions options) source = .ok tokens := by decide +kernel
  have differ : script.HeadingsDiffer := by
    show (script.sections.map Section.heading).Nodup
    decide
  have loaded : load options source = .ok script.toBot :=
    load_eq_ok_toBot (by decide +kernel) differ
  have split : source.toList = before ++ after := by decide +kernel
  have seam : Seam tokens ("bot\"B\"\x7bdefault\x7b".toList ++
      (TokenKind.keyword .finish).text.toList) after :=
    .after (List.mem_of_getElem? (show tokens[5]? = some _ from rfl)) (by decide +kernel)
  have silent : Trivia ('#' :: " the end".toList ++ '\n' :: ['\t']) :=
    .comment (by decide) (.space rfl .nil)
  obtain ⟨moved, same⟩ := scan_respaced accepted split seam silent
  exact ⟨tokens, script.toBot, accepted, split, seam, silent, moved, loaded,
    (same script.toBot).mpr loaded⟩

end Dialogue
