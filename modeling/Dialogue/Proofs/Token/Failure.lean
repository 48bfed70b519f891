import Dialogue.Proofs.Token.Lookahead
import Dialogue.Proofs.Token.Split
import Mathlib.Data.List.TakeWhile

/-!
# Where a scan fails

A scan that fails stops at the first character that no token of any longer text can take
in.  The text in front of it is accepted, and whatever else stands behind it the scan
stops there too.  A quote is different: it begins a string that only lacks its end, and
one more quote at the end of the text gives it one.
-/

namespace Dialogue

/-! ## Characters that begin nothing -/

theorem Name.isStart_of_take? {c : Char} {rest : List Char} {found : List Char × List Char}
    (front : take? (c :: rest) = some found) : isStart c := by
  simp only [take?] at front
  split at front
  · assumption
  · cases front

namespace Rule

variable {lexicon : Lexicon}

theorem exists_first?_of_isStart {c : Char} (start : Name.isStart c) (rest : List Char) :
    ∃ piece, first? lexicon (c :: rest) = some piece :=
  exists_first?_of_take? (by rw [Name.take?, if_pos start])

theorem Taken.exists_first?_of_head {c : Char} {rest : List Char} {piece : Piece}
    (taken : Taken lexicon (c :: rest) piece) (unquoted : c ≠ '"') (rest' : List Char) :
    ∃ piece, Rule.first? lexicon (c :: rest') = some piece := by
  generalize whole : c :: rest = text at taken
  cases taken with
  | @keyword _ rest word found =>
      obtain ⟨first, more, letters, start⟩ := word.letters_eq_cons
      obtain ⟨rfl, -⟩ := Lexicon.keyword?_eq_some found
      rw [letters] at whole
      cases whole
      exact exists_first?_of_isStart start rest'
  | string =>
      cases whole
      exact (unquoted rfl).elim
  | name _ front =>
      cases whole
      exact exists_first?_of_isStart (Name.isStart_of_take? front) rest'
  | symbol member =>
      cases whole
      exact ⟨_, (Taken.symbol member).first?⟩
  | newline =>
      cases whole
      exact ⟨_, Taken.newline.first?⟩
  | blanks blank =>
      cases whole
      exact ⟨_, (Taken.blanks blank).first?⟩
  | comment =>
      cases whole
      exact ⟨_, Taken.comment.first?⟩

theorem first?_of_stuck {c : Char} {rest : List Char} (stuck : first? lexicon (c :: rest) = none)
    (unquoted : c ≠ '"') (rest' : List Char) : first? lexicon (c :: rest') = none := by
  rw [Option.eq_none_iff_forall_ne_some]
  intro piece found
  obtain ⟨other, found'⟩ := (taken_of_first? found).exists_first?_of_head unquoted rest
  cases stuck.symm.trans found'

theorem quoteless_of_stuck {rest : List Char} (stuck : first? lexicon ('"' :: rest) = none) :
    '"' ∉ rest := by
  intro quoted
  obtain ⟨value, behind, rfl, plain⟩ := List.eq_append_cons_of_mem quoted
  cases stuck.symm.trans (first?_string plain)

/-! ## Pieces by themselves -/

theorem exists_first?_name_alone {text name rest : List Char}
    (front : Name.take? text = some (name, rest)) (free : lexicon.keyword? text = none) :
    ∃ piece, first? lexicon name = some piece ∧ piece.rest = [] := by
  have named := Name.take?_isName front
  cases alone : lexicon.keyword? name with
  | none =>
      have taken : Name.take? (name ++ []) = some (name, []) := Name.take?_name named nofun
      rw [List.append_nil] at taken
      exact ⟨_, first?_name taken alone, rfl⟩
  | some pair =>
      obtain ⟨word, tail⟩ := pair
      refine ⟨_, first?_of_keyword? alone, ?_⟩
      obtain ⟨rfl, ends⟩ := Lexicon.keyword?_eq_some alone
      cases tail with
      | nil => rfl
      | cons c tail =>
          rw [Name.take?_append front, List.append_assoc, Lexicon.keyword?,
            List.findSome?_eq_none_iff] at free
          have refused := free word word.mem_all
          have ends' : lexicon.endsWord (c :: tail ++ rest) = lexicon.endsWord (c :: tail) :=
            Lexicon.endsWord_congr rfl
          rw [Keyword.strip?_eq_some.mpr rfl, Option.bind_some, ends', if_pos ends] at refused
          cases refused

theorem Taken.exists_first?_alone {text : List Char} {piece : Piece}
    (taken : Taken lexicon text piece) :
    ∃ alone, Rule.first? lexicon piece.text = some alone ∧ alone.rest = [] := by
  have through (p : Char → Bool) (tail : List Char) : (tail.takeWhile p).dropWhile p = [] :=
    List.dropWhile_eq_nil_iff.mpr (List.all_eq_true.mp List.all_takeWhile)
  cases taken with
  | @keyword _ _ word =>
      have found := Lexicon.keyword?_letters word lexicon.delimits_nil
      rw [List.append_nil] at found
      exact ⟨_, first?_of_keyword? found, rfl⟩
  | string plain => exact ⟨_, first?_string plain, rfl⟩
  | name free front => exact exists_first?_name_alone front free
  | symbol member => exact ⟨_, first?_symbol member [], rfl⟩
  | newline => exact ⟨_, first?_newline [], rfl⟩
  | @blanks c tail blank => exact ⟨_, first?_blank blank _, through isBlank tail⟩
  | @comment tail => exact ⟨_, first?_comment _, through (· != '\n') tail⟩

end Rule

/-! ## What is read in front of the failure -/

/-- What a scan takes in is accepted by itself, and is read again in front of every text
that begins as the one behind it. -/
theorem scanFrom_again (lexicon : Lexicon) (position : Position) (text : List Char) :
    let scan := scanFrom lexicon position text
    ∃ front, text = front ++ scan.rest ∧ scan.position = position.after front ∧
      (∃ kinds, ScansTo lexicon front kinds) ∧
      ∀ rest, rest.head? = scan.rest.head? →
        scanFrom lexicon position (front ++ rest) =
          let later := scanFrom lexicon scan.position rest
          ⟨scan.tokens ++ later.tokens, later.position, later.rest⟩ := by
  fun_induction scanFrom lexicon position text with
  | case1 position text stuck => exact ⟨[], rfl, rfl, ⟨[], .nil⟩, fun _ _ => rfl⟩
  | case2 position text piece found later ih =>
      have taken := Rule.taken_of_first? found
      obtain ⟨front, whole, place, ⟨kinds, scans⟩, again⟩ := ih
      refine ⟨piece.text ++ front, ?_, ?_, ?_, ?_⟩
      · rw [List.append_assoc, ← whole]
        exact Rule.first?_text found
      · rw [Position.after_append]
        exact place
      -- With nothing behind it the piece may be another one, as a name may be a keyword there.
      · by_cases last : front = []
        · obtain ⟨alone, found', ends⟩ := taken.exists_first?_alone
          have scans : ScansTo lexicon alone.rest [] := ends ▸ .nil
          rw [last, List.append_nil]
          exact ⟨_, .piece found' scans⟩
        · rw [← List.append_nil front] at scans
          have step := taken.scansTo_append whole last scans
          rw [List.append_nil] at step
          exact ⟨_, step⟩
      · intro rest same
        have behind : (front ++ rest).head? = piece.rest.head? := by
          rw [whole, List.head?_append, List.head?_append, same]
        rw [List.append_assoc, scanFrom_of_first? (taken.congr behind).first?]
        simp only [again rest same, List.append_assoc]
        rfl

def Scanner.again (scanner : Scanner) : Nat → Scanner
  | 0 => scanner
  | n + 1 => (scanner.again n).scan.2

theorem Scan.result_eq_error_iff {scan : Scan} {error : Error} :
    scan.result = .error error ↔
      ∃ found rest, scan.rest = found :: rest ∧ error = .character scan.position found := by
  unfold result
  split
  case h_1 whole => simp [whole]
  case h_2 left => simp [left, eq_comm]

theorem Scanner.scan_again_error {scanner : Scanner} {error : Error}
    (failed : scanner.scan.1 = .error error) : scanner.scan.2.scan.1 = .error error := by
  obtain ⟨lexicon, position, text⟩ := scanner
  obtain ⟨found, rest, left, rfl⟩ := Scan.result_eq_error_iff.mp failed
  have fixed : scanFrom lexicon (scanFrom lexicon position text).position
      (scanFrom lexicon position text).rest = _ :=
    scanFrom_stuck (first?_scanFrom_rest lexicon position text)
  show (scanFrom lexicon (scanFrom lexicon position text).position
    (scanFrom lexicon position text).rest).result = _
  rw [fixed]
  exact Scan.result_eq_error_iff.mpr ⟨found, rest, left, rfl⟩

theorem Scanner.again_error {scanner : Scanner} {error : Error}
    (failed : scanner.scan.1 = .error error) (n : Nat) :
    (scanner.again n).scan.1 = .error error := by
  induction n with
  | zero => exact failed
  | succ n ih => exact scan_again_error ih

theorem exists_front_of_scan_error {lexicon : Lexicon} {source : String} {error : Error}
    (failed : scan lexicon source = .error error) :
    ∃ front found rest, source.toList = front ++ found :: rest ∧
      error = .character (.behind front) found ∧
      Rule.first? lexicon (found :: rest) = none ∧
      (∃ kinds, ScansTo lexicon front kinds) ∧
      ∃ tokens, ∀ rest', rest'.head? = some found →
        scan lexicon (.ofList (front ++ rest')) =
          (scanFrom lexicon (.behind front) rest').result.map (tokens ++ ·) := by
  have result : (scanFrom lexicon .start source.toList).result = .error error := failed
  obtain ⟨found, rest, left, rfl⟩ := Scan.result_eq_error_iff.mp result
  obtain ⟨front, whole, place, scans, again⟩ := scanFrom_again lexicon .start source.toList
  have stuck := first?_scanFrom_rest lexicon .start source.toList
  rw [place, Position.start_after]
  rw [left] at whole stuck again
  refine ⟨front, found, rest, whole, rfl, stuck, scans,
    (scanFrom lexicon .start source.toList).tokens, fun rest' same => ?_⟩
  have onward := again rest' same
  rw [place, Position.start_after] at onward
  show (scanFrom lexicon .start (String.ofList (front ++ rest')).toList).result = _
  rw [String.toList_ofList, onward, Scan.result_append]

theorem Error.message_character (place : Position) (found : Char) :
    (character place found).message =
      "Lexical error at " ++ place.text ++ ": unexpected character '" ++ found.toString ++ "'" ++
        if found = '"' then ": unterminated string literal" else "" :=
  rfl

/-- A scan that fails tells the character at which it stopped, and its place.  The text
in front of it is accepted.  If the character is a quote, no other quote is behind it,
and the text is accepted with one more quote at the end.  If it is another one, every
text that agrees with this one so far fails in the same way.  Later scans fail alike. -/
theorem scan_error_exact {lexicon : Lexicon} {source : String} {error : Error}
    (failed : scan lexicon source = .error error) :
    ∃ front found rest, source.toList = front ++ found :: rest ∧
      error = .character (.behind front) found ∧
      (∀ other tail, source.toList = other ++ tail →
        Position.behind other = .behind front → other = front) ∧
      (∃ tokens, scan lexicon (.ofList front) = .ok tokens) ∧
      (found ≠ '"' →
        error.message = "Lexical error at " ++ (Position.behind front).text ++
          ": unexpected character '" ++ found.toString ++ "'" ∧
        ∀ more, scan lexicon (.ofList (front ++ found :: more)) = .error error) ∧
      (found = '"' →
        error.message = "Lexical error at " ++ (Position.behind front).text ++
          ": unexpected character '" ++ found.toString ++ "'" ++
          ": unterminated string literal" ∧
        '"' ∉ rest ∧ ∃ tokens, scan lexicon (source ++ "\"") = .ok tokens) ∧
      ∀ n, ((Scanner.ofSource lexicon source).again n).scan.1 = .error error := by
  obtain ⟨front, found, rest, whole, rfl, stuck, ⟨kinds, scans⟩, tokens, again⟩ :=
    exists_front_of_scan_error failed
  refine ⟨front, found, rest, whole, rfl, ?_, ?_, ?_, ?_, Scanner.again_error failed⟩
  · intro other tail whole' same
    exact Position.eq_of_behind_eq (whole'.symm.trans whole) same
  · rw [← String.toList_ofList (l := front)] at scans
    obtain ⟨tokens, accepted, -⟩ := scansTo_iff_scan.mp scans
    exact ⟨tokens, accepted⟩
  · intro unquoted
    refine ⟨by rw [Error.message_character, if_neg unquoted, String.append_empty], fun more => ?_⟩
    rw [again (found :: more) rfl, scanFrom_stuck (Rule.first?_of_stuck stuck unquoted more)]
    rfl
  · rintro rfl
    have plain := Rule.quoteless_of_stuck stuck
    have closed : ScansTo lexicon ('"' :: rest ++ '"' :: []) _ :=
      .piece (Rule.first?_string plain) .nil
    have accepted := Scan.result_eq_ok_iff.mpr ⟨(closed.scanFrom (.behind front)).1, rfl⟩
    have text : source ++ "\"" = .ofList (front ++ ('"' :: rest ++ '"' :: [])) := by
      rw [← String.toList_inj]
      simp [whole]
    have closing := again ('"' :: rest ++ '"' :: []) rfl
    rw [← text, accepted] at closing
    exact ⟨by rw [Error.message_character, if_pos rfl], plain, _, closing⟩

theorem scan_error_exact_digit :
    let scan := scan (.ofMatching .bare)
    let source := "say \"\u00e9\n\" bot1 \"x\""
    let front := "say \"\u00e9\n\" bot"
    let unclosed := "end \"#\n"
    scan source = .error (.character ⟨2, 6⟩ '1') ∧ (∃ tokens, scan front = .ok tokens) ∧
      (∀ more, scan (.ofList (front.toList ++ '1' :: more)) = .error (.character ⟨2, 6⟩ '1')) ∧
      scan unclosed = .error (.character ⟨1, 5⟩ '"') ∧
      (∃ tokens, scan (unclosed ++ "\"") = .ok tokens) ∧
      ((Scanner.ofSource (.ofMatching .bare) unclosed).again 2).scan.1 =
        .error (.character ⟨1, 5⟩ '"') := by
  intro scan source front unclosed
  have failed : scan source = .error (.character ⟨2, 6⟩ '1') := by decide +kernel
  have failed' : scan unclosed = .error (.character ⟨1, 5⟩ '"') := by decide +kernel
  obtain ⟨_, _, _, -, same, exact, ⟨tokens, accepted⟩, stable, -, -⟩ := scan_error_exact failed
  obtain ⟨_, _, _, -, same', -, -, -, closed, again⟩ := scan_error_exact failed'
  obtain ⟨place, rfl⟩ := Error.character.inj same
  obtain ⟨-, rfl⟩ := Error.character.inj same'
  have place' : Position.behind front.toList = ⟨2, 6⟩ := by decide +kernel
  have split : source.toList = front.toList ++ "1 \"x\"".toList := by decide +kernel
  obtain rfl := exact front.toList _ split (place'.trans place)
  rw [String.ofList_toList] at accepted
  exact ⟨failed, ⟨tokens, accepted⟩, (stable (by decide)).2, failed', (closed rfl).2.2, again 2⟩

end Dialogue
