import Dialogue.Load
import Dialogue.Proofs.Script.Unfinished
import Dialogue.Proofs.Token.Layout

/-!
# What an error blames

`Error.Blames` says of each error which token it points at, by the kinds that stand
before this token and those from it on.  A reading that fails blames one of its tokens,
unless the script has ended before it opened a block, and it tells the place of that
token.  Since scanned tokens tell their places in the source, so do the errors of
loading.
-/

namespace Dialogue

/-- The error is about the first kind of `rest`, which stands behind `front`. -/
inductive Error.Blames : Error → (front rest : List TokenKind) → Prop
  | token {place : Position} {slot : Slot} {found : TokenKind} {front rest : List TokenKind} :
      Viable front → ¬ Viable (front ++ [found]) →
        Blames (.token place slot found) front (found :: rest)
  | unterminated {block : OpenBlock} {front inside : List TokenKind} : Balanced inside →
      Blames (.unterminated block) front (block.label.kinds ++ .leftBrace :: inside)
  | repeatedIntent {bot name : String} {place : Position} {earlier : List Section}
      {actions : List Action} {rest : List TokenKind} :
      (earlier.map Section.heading).Nodup → .intent name ∈ earlier.map Section.heading →
        Blames (.duplicateIntent name place) (Script.opening bot earlier)
          (Section.kinds ⟨.intent name, actions⟩ ++ rest)
  | secondDefault {bot : String} {place : Position} {earlier : List Section}
      {rest : List TokenKind} :
      (earlier.map Section.heading).Nodup → .default ∈ earlier.map Section.heading →
        Blames (.secondDefault place) (Script.opening bot earlier) (.keyword .default :: rest)

theorem Error.Blames.of_tokens {error : Error} {front rest : List TokenKind}
    (blames : error.Blames front rest) :
    (∀ place found, error ≠ .character place found) ∧ (∀ slot, error ≠ .endOfScript slot) ∧
      (∀ path fault, error ≠ .file path fault) ∧ (∀ cause, error ≠ .config cause) ∧
      error.severity = .fatal := by
  cases blames <;> simp [severity]

/-! ## What a failed reading blames -/

theorem Stage.blames_of_conflict? {front : List Token} {token : Token} {before later : Stage}
    {conflict : Conflict} (read : start.follow? front = some before)
    (differ : before.headings.Nodup) (step : before.next? token = some later)
    (clash : later.conflict? = some conflict) :
    ∃ earlier keyword after, front ++ [token] = earlier ++ keyword :: after ∧
      conflict.error.position? = some keyword.position ∧
      ∀ rest, conflict.error.Blames (earlier.map Token.kind)
        ((keyword :: after).map Token.kind ++ rest) := by
  have whole : start.follow? (front ++ [token]) = some later := by
    rw [follow?_append_of_follow? read, follow?_cons_of_next? step]
    rfl
  rcases conflict?_cases clash with ⟨bot, block, name, rfl, heading, member, rfl⟩ |
    ⟨bot, keyword, rfl, member, rfl⟩
  · have written : (between (bot.push block)).written =
        bot.written ++ Section.kinds ⟨.intent name, block.actions.reverse⟩ := by
      simp [Stage.written, BlockDraft.written, Section.kinds, heading]
    have known : (between (bot.push block)).headings = .intent name :: bot.headings := by
      simp [headings, BotDraft.headings, BotDraft.push, heading]
    have unequal := nodup_of_repeated step differ known member
    obtain ⟨earlier, keyword, after, split, place, front, kinds⟩ :=
      exists_split_of_mark whole List.mem_cons_self written
    refine ⟨earlier, keyword, after, split, congrArg some place.symm, fun rest => ?_⟩
    rw [front, kinds]
    exact .repeatedIntent (bot.headings_nodup_iff.mp unequal)
      (BotDraft.mem_headings_iff.mp member)
  · have unequal := nodup_of_repeated step differ rfl member
    obtain ⟨earlier, keyword, after, split, place, front, kinds⟩ :=
      exists_split_of_mark whole List.mem_cons_self rfl
    refine ⟨earlier, keyword, after, split, congrArg some place.symm, fun rest => ?_⟩
    rw [front, kinds]
    exact .secondDefault (bot.headings_nodup_iff.mp unequal)
      (BotDraft.mem_headings_iff.mp member)

theorem Bot.blames_of_ofTokens {tokens : List Token} {error : Error}
    (failed : Bot.ofTokens tokens = .error error) :
    (∃ slot, error = .endOfScript slot ∧ tokens.length < 3) ∨
    ∃ before token after, tokens = before ++ token :: after ∧
      error.position? = some token.position ∧
      error.Blames (before.map Token.kind) ((token :: after).map Token.kind) := by
  rcases ((ofTokens_eq_iff_verdict tokens _).mp failed).error_cases with
    ⟨stage, read, differ, unfinished, rfl⟩ |
    ⟨front, token, rest, later, rfl, read, -, refused, rfl⟩ |
    ⟨front, token, rest, before, later, conflict, rfl, read, differ, step, clash, rfl⟩
  · rw [List.append_nil]
    cases opened : stage.openBlocks with
    | nil => exact .inl ⟨_, rfl, (Stage.openBlocks_eq_nil_iff read unfinished).mp opened⟩
    | cons block outer =>
        obtain ⟨before, keyword, after, inside, rfl, place, kinds, balanced⟩ :=
          Stage.innermostIn_of_openBlocks read opened
        refine .inr ⟨before, keyword, after, rfl, congrArg some place.symm, ?_⟩
        rw [kinds]
        exact .unterminated balanced
  · refine .inr ⟨front, token, rest, rfl, rfl, ?_⟩
    have stuck := (Stage.next?_eq_none_iff read token).mp refused
    rw [List.map_append] at stuck
    exact .token (viable_iff_follow?.mpr ⟨later, read⟩) stuck
  · obtain ⟨earlier, keyword, after, split, place, blames⟩ :=
      Stage.blames_of_conflict? read differ step clash
    refine .inr ⟨earlier, keyword, after ++ rest, ?_, place, ?_⟩
    · rw [← List.singleton_append, ← List.append_assoc, split, List.append_assoc,
        List.cons_append]
    · rw [← List.cons_append, List.map_append]
      exact blames _

/-! ## The places of errors in the source -/

theorem load_error_cases {options : ScriptOptions} {source : String} {error : Error}
    (failed : load options source = .error error) :
    (∃ front found rest, scan (.ofOptions options) source = .error error ∧
      error = .character (.behind front) found ∧ source.toList = front ++ found :: rest) ∨
    ∃ tokens, scan (.ofOptions options) source = .ok tokens ∧
      ((∃ slot, error = .endOfScript slot ∧ tokens.length < 3) ∨
        ∃ place front rest, error.position? = some place ∧
          tokens.map Token.kind = front ++ rest ∧ error.Blames front rest ∧
          StandsAt source.toList place rest) := by
  rw [load] at failed
  cases scanned : scan (.ofOptions options) source with
  | error cause =>
      rw [scanned] at failed
      cases failed
      obtain ⟨front, found, rest, whole, place⟩ := scan_error_place scanned
      exact .inl ⟨front, found, rest, rfl, place, whole⟩
  | ok tokens =>
      rw [scanned] at failed
      refine .inr ⟨tokens, rfl, ?_⟩
      rcases Bot.blames_of_ofTokens failed with short | ⟨before, token, after, rfl, place, blames⟩
      · exact .inl short
      · exact .inr ⟨token.position, _, _, place, List.map_append, blames,
          standsAt_of_scan scanned⟩

/-- An error of loading tells where in the source the text stands that it is about. -/
theorem load_error_located {options : ScriptOptions} {source : String} {error : Error}
    (failed : load options source = .error error) :
    ((∃ place found, error = .character place found) ↔
      ∃ cause, scan (.ofOptions options) source = .error cause) ∧
    (∀ place found, error = .character place found →
      ∃ front rest, source.toList = front ++ found :: rest ∧ place = .behind front) ∧
    (∀ tokens, scan (.ofOptions options) source = .ok tokens →
      (∃ slot, error = .endOfScript slot ∧ tokens.length < 3) ∨
      ∃ place front rest, error.position? = some place ∧
        tokens.map Token.kind = front ++ rest ∧ error.Blames front rest ∧
        StandsAt source.toList place rest) ∧
    (error.position? = none ↔ ∃ slot, error = .endOfScript slot) ∧
    (∀ path fault, error ≠ .file path fault) ∧ (∀ cause, error ≠ .config cause) ∧
    error.severity = .fatal := by
  rcases load_error_cases failed with ⟨front, found, rest, scanned, rfl, whole⟩ |
    ⟨tokens, scanned, early | blamed⟩
  · rw [scanned]
    refine ⟨by simp, ?_, by simp, by simp [Error.position?], by simp, by simp, rfl⟩
    rintro _ _ ⟨⟩
    exact ⟨front, rest, whole, rfl⟩
  · obtain ⟨slot, rfl, short⟩ := early
    rw [scanned]
    refine ⟨by simp, by simp, ?_, by simp [Error.position?], by simp, by simp, rfl⟩
    rintro _ ⟨⟩
    exact .inl ⟨slot, rfl, short⟩
  · have ⟨place, _, _, placed, _, blames, _⟩ := blamed
    obtain ⟨legible, begun, noFile, noConfig, fatal⟩ := blames.of_tokens
    rw [scanned]
    refine ⟨by simp [legible], by simp [legible], ?_, by simp [placed, begun], noFile, noConfig,
      fatal⟩
    rintro _ ⟨⟩
    exact .inr blamed

theorem load_error_located_again :
    let source := "bot\"\u00e9\" \x7bintent\"buy\"\x7bsay\"\u00e9\n\"\x7d default\x7b\x7d " ++
      "intent# here\n\"buy\"\x7bend\x7d\x7d"
    load ⟨.bare⟩ source = .error (.duplicateIntent "buy" ⟨2, 14⟩) ∧
      (Error.duplicateIntent "buy" ⟨2, 14⟩).severity = .fatal ∧
      ∃ front rest, (Error.duplicateIntent "buy" ⟨2, 14⟩).Blames front rest ∧
        StandsAt source.toList ⟨2, 14⟩ rest := by
  intro source
  have failed : load ⟨.bare⟩ source = .error (.duplicateIntent "buy" ⟨2, 14⟩) := by
    decide +kernel
  obtain ⟨lexical, -, located, -, -, -, fatal⟩ := load_error_located failed
  refine ⟨failed, fatal, ?_⟩
  cases scanned : scan (.ofOptions ⟨.bare⟩) source with
  | error cause =>
      obtain ⟨_, _, ⟨⟩⟩ := lexical.mpr ⟨cause, scanned⟩
  | ok tokens =>
      rcases located tokens scanned with ⟨_, ⟨⟩, -⟩ | ⟨place, front, rest, same, -, blames, stands⟩
      cases same
      exact ⟨front, rest, blames, stands⟩

end Dialogue
