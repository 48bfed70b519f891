import Dialogue.Proofs.Token.Failure

/-!
# Scans that are joined at a line end

A text that ends with a newline is read in the same way whatever stands behind it: no
token and no comment goes on past its end.  A scan from a lower line gives the same
tokens on lower lines.  So two texts are scanned one behind the other as each of them
is scanned by itself.
-/

namespace Dialogue

/-! ## Lower lines -/

def Position.lower (lines : Nat) (position : Position) : Position :=
  ⟨position.line + lines, position.column⟩

def Token.lower (lines : Nat) (token : Token) : Token :=
  { token with position := token.position.lower lines }

section

variable (lines : Nat)

theorem Position.next_lower (position : Position) (c : Char) :
    (position.lower lines).next c = (position.next c).lower lines := by
  unfold next
  split
  · simp [lower, Nat.add_right_comm]
  · rfl

theorem Position.after_lower (position : Position) (text : List Char) :
    (position.lower lines).after text = (position.after text).lower lines := by
  induction text generalizing position with
  | nil => rfl
  | cons c text ih => rw [after_cons, next_lower, ih, after_cons]

theorem Piece.token?_lower (piece : Piece) (position : Position) :
    piece.token? (position.lower lines) = (piece.token? position).map (Token.lower lines) := by
  rw [token?, token?, Option.map_map]
  cases piece.kind with
  | none => rfl
  | some kind => cases kind <;> rfl

def Scan.lower (scan : Scan) : Scan :=
  ⟨scan.tokens.map (Token.lower lines), scan.position.lower lines, scan.rest⟩

theorem scanFrom_lower (lexicon : Lexicon) (position : Position) (text : List Char) :
    scanFrom lexicon (position.lower lines) text =
      (scanFrom lexicon position text).lower lines := by
  fun_induction scanFrom lexicon position text with
  | case1 position text stuck => rw [scanFrom_stuck stuck]; rfl
  | case2 position text piece found later ih =>
      rw [scanFrom_of_first? found, position.after_lower, ih, piece.token?_lower]
      simp only [Scan.lower, List.map_append]
      cases piece.token? position <;> rfl

end

/-! ## Texts that end with a newline -/

def EndsLine (text : List Char) : Prop :=
  ∀ c ∈ text.getLast?, c = '\n'

theorem EndsLine.of_append {front rest : List Char} (ends : EndsLine (front ++ rest)) :
    EndsLine rest := by
  intro c last
  apply ends c
  rw [List.getLast?_append, Option.mem_def.mp last]
  rfl

theorem EndsLine.start_after {text : List Char} (ends : EndsLine text) :
    Position.start.after text = Position.start.lower (text.count '\n') := by
  rw [Position.start_after, Position.behind, Position.start, Position.lower]
  cases text using List.reverseRecOn with
  | nil => rfl
  | append_singleton front c =>
      obtain rfl : c = '\n' := ends c (by simp)
      rw [lastLine_concat_newline]
      rfl

namespace Rule

variable {lexicon : Lexicon}

theorem Taken.eq_newline {text : List Char} {piece : Piece} (taken : Taken lexicon text piece)
    (last : '\n' ∈ piece.text.getLast?) : piece.kind = none ∧ piece.text = ['\n'] := by
  have inline {p : Char → Bool} (all : ∀ c ∈ piece.text, p c) (other : ¬ p '\n') : False :=
    other (all '\n' (List.mem_of_getLast? last))
  cases taken with
  | @keyword _ _ word =>
      exact (inline (Name.isRest_of_isName word.isName_letters) (by decide)).elim
  | string =>
      rw [List.getLast?_concat] at last
      cases last
  | name _ front =>
      exact (inline (Name.isRest_of_isName (Name.take?_isName front)) (by decide)).elim
  | symbol member =>
      rcases symbol_mem_others member with ⟨-, rfl⟩ | ⟨-, rfl⟩ | ⟨-, rfl⟩ <;> cases last
  | newline => exact ⟨rfl, rfl⟩
  | @blanks c tail blank =>
      have all : ∀ d ∈ c :: tail.takeWhile isBlank, isBlank d :=
        List.forall_mem_cons.mpr ⟨blank, List.all_eq_true.mp List.all_takeWhile⟩
      exact (inline all (by decide)).elim
  | @comment tail =>
      have all : ∀ d ∈ '#' :: tail.takeWhile (· != '\n'), (d != '\n') = true :=
        List.forall_mem_cons.mpr ⟨by decide, List.all_eq_true.mp List.all_takeWhile⟩
      exact (inline all (by decide)).elim

theorem Taken.append_of_endsLine {text : List Char} {piece : Piece}
    (taken : Taken lexicon text piece) (ends : EndsLine text) (more : List Char) :
    Taken lexicon (text ++ more) { piece with rest := piece.rest ++ more } := by
  obtain ⟨kind, front, rest⟩ := piece
  obtain rfl : text = front ++ rest := first?_text taken.first?
  cases rest with
  | nil =>
      obtain ⟨c, last⟩ := Option.ne_none_iff_exists'.mp
        (mt List.getLast?_eq_none_iff.mp taken.text_ne_nil)
      obtain rfl : c = '\n' := ends c (by simpa using last)
      obtain ⟨rfl, rfl⟩ := taken.eq_newline last
      exact .newline
  | cons c rest =>
      have again : Taken lexicon (front ++ (c :: rest ++ more)) _ := taken.congr rfl
      rwa [← List.append_assoc] at again

end Rule

/-! ## One text behind the other -/

theorem scanFrom_append_of_endsLine {lexicon : Lexicon} {position : Position} {text : List Char}
    (whole : (scanFrom lexicon position text).rest = []) (ends : EndsLine text)
    (more : List Char) :
    scanFrom lexicon position (text ++ more) =
      let later := scanFrom lexicon (position.after text) more
      ⟨(scanFrom lexicon position text).tokens ++ later.tokens, later.position, later.rest⟩ := by
  fun_induction scanFrom lexicon position text with
  | case1 position text stuck =>
      cases whole
      rfl
  | case2 position text piece found later ih =>
      have taken := Rule.taken_of_first? found
      have split := Rule.first?_text found
      have onward := ih whole (EndsLine.of_append (split ▸ ends))
      rw [scanFrom_of_first? (taken.append_of_endsLine ends more).first?]
      simp only [onward, List.append_assoc]
      rw [← Position.after_append, ← split]
      rfl

theorem Scan.result_lower_of_ok (lines : Nat) {scan : Scan} {tokens : List Token}
    (accepted : scan.result = .ok tokens) :
    (scan.lower lines).result = .ok (tokens.map (Token.lower lines)) := by
  obtain ⟨whole, rfl⟩ := result_eq_ok_iff.mp accepted
  exact result_eq_ok_iff.mpr ⟨whole, rfl⟩

theorem Scan.result_lower_of_error (lines : Nat) {scan : Scan} {error : Error}
    (failed : scan.result = .error error) : ∃ place found, error = .character place found ∧
      (scan.lower lines).result = .error (.character (place.lower lines) found) := by
  obtain ⟨found, behind, left, rfl⟩ := result_eq_error_iff.mp failed
  exact ⟨scan.position, found, rfl, result_eq_error_iff.mpr ⟨found, behind, left, rfl⟩⟩

theorem scan_append_of_endsLine {lexicon : Lexicon} {front : String} {tokens : List Token}
    (accepted : scan lexicon front = .ok tokens) (ends : EndsLine front.toList) (rest : String) :
    scan lexicon (front ++ rest) =
      ((scanFrom lexicon .start rest.toList).lower (front.toList.count '\n')).result.map
        (tokens ++ ·) := by
  have result : (scanFrom lexicon .start front.toList).result = .ok tokens := accepted
  obtain ⟨whole, rfl⟩ := Scan.result_eq_ok_iff.mp result
  show (scanFrom lexicon .start (front ++ rest).toList).result = _
  rw [String.toList_append, scanFrom_append_of_endsLine whole ends, ends.start_after,
    scanFrom_lower]
  exact Scan.result_append _ _

/-- Texts are joined at a line end: behind an accepted text that ends with a newline, every
text is scanned as it is by itself, only on lower lines.  Its tokens are added to those in
front, or it fails at the same character. -/
theorem scan_append_line {lexicon : Lexicon} {front : String} {tokens : List Token}
    (accepted : scan lexicon front = .ok tokens) (ends : EndsLine front.toList) (rest : String) :
    let lines := front.toList.count '\n'
    (∀ later, scan lexicon rest = .ok later →
      scan lexicon (front ++ rest) = .ok (tokens ++ later.map (Token.lower lines))) ∧
    ∀ error, scan lexicon rest = .error error → ∃ place found,
      error = .character place found ∧
      scan lexicon (front ++ rest) = .error (.character (place.lower lines) found) := by
  intro lines
  rw [scan_append_of_endsLine accepted ends rest]
  constructor
  · intro later accepted'
    have lowered := Scan.result_lower_of_ok lines accepted'
    exact congrArg (Except.map (tokens ++ ·)) lowered
  · intro error failed
    obtain ⟨place, found, rfl, lowered⟩ := Scan.result_lower_of_error lines failed
    exact ⟨place, found, rfl, congrArg (Except.map (tokens ++ ·)) lowered⟩

theorem scan_append_line_comment :
    let scan := scan (.ofMatching .bare)
    let front := "say \"\u00e9\n\" # \"\r\n"
    let tokens : List Token := [⟨.keyword .say, "say", ⟨1, 1⟩⟩,
      ⟨.string "\u00e9\n", "\u00e9\n", ⟨1, 5⟩⟩]
    scan front = .ok tokens ∧ EndsLine front.toList ∧
      scan "endx" = .ok [⟨.keyword .finish, "end", ⟨1, 1⟩⟩, ⟨.identifier "x", "x", ⟨1, 4⟩⟩] ∧
      scan (front ++ "endx") =
        .ok (tokens ++ [⟨.keyword .finish, "end", ⟨3, 1⟩⟩, ⟨.identifier "x", "x", ⟨3, 4⟩⟩]) ∧
      scan "\n \"" = .error (.character ⟨2, 2⟩ '"') ∧
      scan (front ++ "\n \"") = .error (.character ⟨4, 2⟩ '"') := by
  intro scan front tokens
  have accepted : scan front = .ok tokens := by decide +kernel
  have ends : EndsLine front.toList := by
    intro c last
    simpa [front] using last.symm
  have accepted' : scan "endx" =
      .ok [⟨.keyword .finish, "end", ⟨1, 1⟩⟩, ⟨.identifier "x", "x", ⟨1, 4⟩⟩] := by
    decide +kernel
  have failed : scan "\n \"" = .error (.character ⟨2, 2⟩ '"') := by decide +kernel
  have lines : front.toList.count '\n' = 2 := by decide +kernel
  have joined := (scan_append_line accepted ends "endx").1 _ accepted'
  obtain ⟨_, _, ⟨⟩, joined'⟩ := (scan_append_line accepted ends "\n \"").2 _ failed
  rw [lines] at joined joined'
  exact ⟨accepted, ends, accepted', joined, failed, joined'⟩

end Dialogue
