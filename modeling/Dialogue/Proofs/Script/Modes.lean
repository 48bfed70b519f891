import Dialogue.Proofs.Script.Printing
import Dialogue.Proofs.Token.Split

/-!
# One text under both keyword rules

A text can scan to different tokens when keywords end at word boundaries and when
they end after their letters.  The first difference is then a name on one side and a
keyword on the other.  No place in a script takes both, so a text that is loaded
under both rules is loaded as the same bot.
-/

namespace Dialogue

/-! ## Two scans of one text -/

/-- Where these lists differ first, one has a name and the other a keyword. -/
def Diverge (kinds other : List TokenKind) : Prop :=
  ∃ common name word rest rest',
    kinds = common ++ .identifier name :: rest ∧ other = common ++ .keyword word :: rest'

theorem Diverge.append {kinds other : List TokenKind} (diverge : Diverge kinds other)
    (front : List TokenKind) : Diverge (front ++ kinds) (front ++ other) := by
  obtain ⟨common, name, word, rest, rest', rfl, rfl⟩ := diverge
  refine ⟨front ++ common, name, word, rest, rest', ?_, ?_⟩
  all_goals rw [List.append_assoc]

section

variable {wide : Char → Bool}

theorem ScansTo.bare_eq_or_diverge {text : List Char} {kinds kinds' : List TokenKind}
    (bounded : ScansTo ⟨.wordBoundary, wide⟩ text kinds)
    (bare : ScansTo ⟨.bare, wide⟩ text kinds') : kinds = kinds' ∨ Diverge kinds kinds' := by
  induction bounded generalizing kinds' with
  | nil =>
      cases bare with
      | nil => exact .inl rfl
      | piece found _ => cases found
  | @piece text piece kinds found _ ih =>
      cases bare with
      | nil => cases found
      | @piece _ piece' kinds' found' onward =>
          rcases (Rule.taken_of_first? found).first?_bare with
            same | ⟨name, word, rest, gives, split⟩
          · cases same.symm.trans found'
            rcases ih onward with rfl | diverge
            · exact .inl rfl
            · exact .inr (diverge.append _)
          · cases split.symm.trans found'
            rw [gives]
            exact .inr ⟨[], name, word, kinds, kinds', rfl, rfl⟩

end

/-! ## Two scripts -/

theorem Stage.next?_eq_none_of_keyword {stage later : Stage} {token token' : Token}
    {name : String} {word : Keyword} (read : stage.next? token = some later)
    (identifier : token.kind = .identifier name) (keyword : token'.kind = .keyword word) :
    stage.next? token' = none := by
  cases stage with
  | inBlock bot block statement =>
      cases statement with
      | askInto | set | setEqual => simp [next?, Pending.next?, keyword]
      | _ => simp [next?, Pending.next?, identifier] at read
  | _ => simp [next?, identifier] at read

theorem Stage.exists_next?_of_follow? {stage later : Stage} {common rest : List TokenKind}
    {kind : TokenKind}
    (read : stage.follow? ((common ++ kind :: rest).map Token.ofKind) = some later) :
    ∃ place next, stage.follow? (common.map Token.ofKind) = some place ∧
      place.next? (Token.ofKind kind) = some next := by
  rw [List.map_append, List.map_cons, follow?_append] at read
  obtain ⟨place, before, onward⟩ := Option.bind_eq_some_iff.mp read
  obtain ⟨next, step, -⟩ := Option.bind_eq_some_iff.mp onward
  exact ⟨place, next, before, step⟩

theorem Script.not_diverge_kinds (script other : Script) :
    ¬ Diverge script.kinds other.kinds := by
  rintro ⟨common, name, word, rest, rest', kinds, kinds'⟩
  obtain ⟨draft, -, read⟩ := Script.follow?_tokens (Token.map_kind_ofKind script.kinds)
  obtain ⟨draft', -, read'⟩ := Script.follow?_tokens (Token.map_kind_ofKind other.kinds)
  rw [kinds] at read
  rw [kinds'] at read'
  obtain ⟨place, next, before, step⟩ := Stage.exists_next?_of_follow? read
  obtain ⟨place', next', before', step'⟩ := Stage.exists_next?_of_follow? read'
  cases before.symm.trans before'
  cases (Stage.next?_eq_none_of_keyword step rfl rfl).symm.trans step'

/-! ## Two bots -/

/-- A text that is loaded under both keyword rules is loaded as one bot. -/
theorem load_modes_agree {source : String} {bot other : Bot}
    (bounded : load ⟨.wordBoundary⟩ source = .ok bot)
    (bare : load ⟨.bare⟩ source = .ok other) : bot = other := by
  obtain ⟨script, scans, -, declares⟩ := (load_eq_ok_iff _ _ _).mp bounded
  obtain ⟨script', scans', -, declares'⟩ := (load_eq_ok_iff _ _ _).mp bare
  rcases ScansTo.bare_eq_or_diverge scans scans' with same | diverge
  · cases Script.kinds_injective same
    exact declares.bot_unique declares'
  · exact (Script.not_diverge_kinds script script' diverge).elim

theorem load_modes_agree_shop :
    let source := "bot\"Shop\"\x7bdefault\x7bask\"What?\"as\n_ask set a= _ask end\x7d" ++
      "intent\"as\"\x7bset en=\"set x = y\"say\"\"\x7d\x7d"
    ∃ bot other, load ⟨.wordBoundary⟩ source = .ok bot ∧ load ⟨.bare⟩ source = .ok other ∧
      bot = other := by
  intro source
  let script : Script := ⟨"Shop", [
    ⟨.default, [.ask "What?" "_ask", .set "a" (.copy "_ask"), .finish]⟩,
    ⟨.intent "as", [.set "en" (.literal "set x = y"), .say ""]⟩]⟩
  have differ : script.HeadingsDiffer := by
    show (script.sections.map Section.heading).Nodup
    decide
  have bounded : load ⟨.wordBoundary⟩ source = .ok script.toBot :=
    load_eq_ok_toBot (by decide +kernel) differ
  have bare : load ⟨.bare⟩ source = .ok script.toBot :=
    load_eq_ok_toBot (by decide +kernel) differ
  exact ⟨_, _, bounded, bare, load_modes_agree bounded bare⟩

end Dialogue
