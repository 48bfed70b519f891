import Dialogue.Proofs.Script.Viable

/-!
# The first block that repeats a heading

The tokens of a script are refused at the first block whose heading an earlier block
has, and only if there is one.  A repeated intent is refused at the brace that closes
it, a second default block at its keyword; what stands behind makes no difference.
-/

namespace Dialogue

/-- The first block of a script that has the heading of an earlier one. -/
structure Script.FirstRepeat (script : Script) (earlier : List Section) (part : Section) :
    Prop where
  split : ∃ later, script.sections = earlier ++ part :: later
  differ : (earlier.map Section.heading).Nodup
  repeated : part.heading ∈ earlier.map Section.heading

def Heading.repeatError (keyword : Position) : Heading → Error
  | intent name => .duplicateIntent name keyword
  | .default => .secondDefault keyword

/-- What is read of a block until it is known to repeat a heading: all of an intent, and
the keyword of a default block. -/
def Section.telling (part : Section) : List TokenKind :=
  match part.heading with
  | .intent _ => part.kinds
  | .default => [.keyword .default]

theorem BotDraft.any_of_mem_headings {bot : BotDraft} {heading : Heading}
    (member : heading ∈ bot.headings) : bot.blocks.any (·.heading = heading) = true := by
  obtain ⟨block, inside, same⟩ := List.mem_map.mp member
  exact List.any_eq_true.mpr ⟨block, inside, decide_eq_true same⟩

namespace Stage

theorem conflict?_push {bot : BotDraft} {block : BlockDraft} {name : String}
    (heading : block.heading = .intent name) (member : .intent name ∈ bot.headings) :
    (between (bot.push block)).conflict? = some (.repeatedIntent name block.keyword) := by
  simp only [BotDraft.push, conflict?, heading, BotDraft.any_of_mem_headings member, if_true]

theorem conflict?_defaultKeyword {bot : BotDraft} (member : .default ∈ bot.headings)
    (keyword : Position) :
    (defaultKeyword bot keyword).conflict? = some (.secondDefault keyword) := by
  simp only [conflict?, BotDraft.any_of_mem_headings member, if_true]

theorem readOn_repeat (outer : List OpenBlock) {bot : BotDraft} (differ : bot.headings.Nodup)
    {part : Section} (member : part.heading ∈ bot.headings) {keyword : Token}
    {inside : List Token} (kinds : (keyword :: inside).map Token.kind = part.telling)
    (other : List Token) :
    ((between bot).readOn outer (keyword :: (inside ++ other))).1 =
      .error (part.heading.repeatError keyword.position) := by
  obtain ⟨heading, actions⟩ := part
  cases heading with
  | intent name =>
      obtain ⟨inside, brace, rfl, unclosed, braceKind⟩ := Section.exists_brace kinds
      have read := follow?_unclosed unclosed bot
      have step := next?_rightBrace braceKind bot
        (Section.draft ⟨.intent name, actions⟩ keyword.position)
      have clash : (between (bot.push (Section.draft ⟨.intent name, actions⟩
          keyword.position))).conflict? = some (.repeatedIntent name keyword.position) :=
        conflict?_push rfl member
      rw [List.append_assoc, ← List.cons_append, readOn_append_of_follow? outer read differ,
        List.singleton_append, readOn, step]
      simp only [clash]
      rfl
  | default =>
      obtain ⟨keywordKind, rfl⟩ : keyword.kind = .keyword .default ∧ inside = [] := by
        simpa [Section.telling] using kinds
      have step : (between bot).next? keyword = some (defaultKeyword bot keyword.position) := by
        simp only [next?, keywordKind]
      have clash := conflict?_defaultKeyword member keyword.position
      rw [readOn, step]
      simp only [clash]
      rfl

end Stage

theorem Section.exists_telling {part : Section} {tokens : List Token} {more : List TokenKind}
    (kinds : tokens.map Token.kind = part.kinds ++ more) :
    ∃ keyword inside rest, tokens = keyword :: (inside ++ rest) ∧
      (keyword :: inside).map Token.kind = part.telling := by
  obtain ⟨heading, actions⟩ := part
  obtain ⟨front, rest, rfl, frontKinds, -⟩ := List.map_eq_append_iff.mp kinds
  cases front with
  | nil => cases heading <;> cases frontKinds
  | cons keyword inside =>
      cases heading with
      | intent name => exact ⟨keyword, inside, rest, rfl, frontKinds⟩
      | default => exact ⟨keyword, [], inside ++ rest, rfl, congrArg (List.take 1) frontKinds⟩

namespace Bot

theorem ofTokens_repeat {name : String} {earlier : List Section} {part : Section}
    (differ : (earlier.map Section.heading).Nodup)
    (repeated : part.heading ∈ earlier.map Section.heading) {before inside : List Token}
    {keyword : Token} (front : before.map Token.kind = Script.opening name earlier)
    (telling : (keyword :: inside).map Token.kind = part.telling) (other : List Token) :
    Bot.ofTokens (before ++ keyword :: (inside ++ other)) =
      .error (part.heading.repeatError keyword.position) := by
  obtain ⟨bot, written, read⟩ := Script.follow?_opening front
  have unequal : bot.headings.Nodup := by
    rw [bot.headings_nodup_iff, written]
    exact differ
  have member : part.heading ∈ bot.headings := by
    rw [BotDraft.mem_headings_iff, written]
    exact repeated
  rw [ofTokens, ScriptReader.read, ScriptReader.ofTokens,
    Stage.readOn_append_of_follow? [] read unequal]
  exact Stage.readOn_repeat [] unequal member telling other

/-- The tokens of a script are read as its bot if its headings differ.  Otherwise one block
is the first to repeat a heading, and they are refused there: the error names that block
and the place of its keyword, and the tokens behind an intent, or behind the keyword of a
default block, make no difference. -/
theorem ofTokens_first_repeat {tokens : List Token} {script : Script}
    (kinds : tokens.map Token.kind = script.kinds) :
    (script.HeadingsDiffer → Bot.ofTokens tokens = .ok script.toBot) ∧
    (¬ script.HeadingsDiffer → ∃ earlier part, script.FirstRepeat earlier part) ∧
    ∀ earlier part, script.FirstRepeat earlier part →
      ∃ before keyword inside rest, tokens = before ++ keyword :: (inside ++ rest) ∧
        before.map Token.kind = Script.opening script.name earlier ∧
        (keyword :: inside).map Token.kind = part.telling ∧
        Bot.ofTokens tokens = .error (part.heading.repeatError keyword.position) ∧
        ∀ other, Bot.ofTokens (before ++ keyword :: (inside ++ other)) =
          .error (part.heading.repeatError keyword.position) := by
  refine ⟨?_, ?_, ?_⟩
  · intro differ
    exact (ofTokens_eq_ok_iff_toBot tokens script.toBot).mpr ⟨script, kinds, differ, rfl⟩
  · intro equal
    obtain ⟨earlier, part, later, split, differ, repeated⟩ := exists_first_repeat equal
    exact ⟨earlier, part, ⟨later, split⟩, differ, repeated⟩
  · rintro earlier part ⟨⟨later, split⟩, differ, repeated⟩
    have pieces : tokens.map Token.kind = Script.opening script.name earlier ++
        (part.kinds ++ (later.flatMap Section.kinds ++ [.rightBrace])) := by
      rw [kinds, script.kinds_eq_opening, split, Script.opening_append, List.flatMap_cons]
      simp only [List.append_assoc]
    obtain ⟨before, behind, rfl, front, behindKinds⟩ := List.map_eq_append_iff.mp pieces
    obtain ⟨keyword, inside, rest, rfl, telling⟩ := Section.exists_telling behindKinds
    have answer := ofTokens_repeat differ repeated front telling
    exact ⟨before, keyword, inside, rest, rfl, front, telling, answer rest, answer⟩

theorem ofTokens_first_repeat_buy :
    let token (kind : TokenKind) (line column : Nat) : Token := ⟨kind, kind.text, ⟨line, column⟩⟩
    let script : Script := ⟨"Shop", [⟨.intent "buy", [.finish]⟩, ⟨.default, []⟩,
      ⟨.intent "buy", []⟩, ⟨.default, []⟩]⟩
    let tokens := [token (.keyword .bot) 1 1, token (.string "Shop") 1 5, token .leftBrace 1 12,
      token (.keyword .intent) 2 3, token (.string "buy") 2 10, token .leftBrace 2 16,
      token (.keyword .finish) 2 18, token .rightBrace 2 22, token (.keyword .default) 3 3,
      token .leftBrace 3 11, token .rightBrace 3 12, token (.keyword .intent) 4 3,
      token (.string "buy") 4 10, token .leftBrace 4 16, token .rightBrace 4 17,
      token (.keyword .default) 5 3, token .leftBrace 5 11, token .rightBrace 5 12,
      token .rightBrace 6 1]
    tokens.map Token.kind = script.kinds ∧
      script.FirstRepeat (script.sections.take 2) ⟨.intent "buy", []⟩ ∧
      ∃ before keyword inside rest, tokens = before ++ keyword :: (inside ++ rest) ∧
        before.map Token.kind = Script.opening "Shop" (script.sections.take 2) ∧
        ∀ other, Bot.ofTokens (before ++ keyword :: (inside ++ other)) =
          .error (.duplicateIntent "buy" ⟨4, 3⟩) := by
  intro token script tokens
  have first : script.FirstRepeat (script.sections.take 2) ⟨.intent "buy", []⟩ :=
    ⟨⟨[⟨.default, []⟩], rfl⟩, by decide, by decide⟩
  have kinds : tokens.map Token.kind = script.kinds := rfl
  obtain ⟨-, -, refused⟩ := ofTokens_first_repeat kinds
  obtain ⟨before, keyword, inside, rest, split, front, -, answer, answers⟩ := refused _ _ first
  have known : Bot.ofTokens tokens = .error (.duplicateIntent "buy" ⟨4, 3⟩) := rfl
  have same := Except.error.inj (answer.symm.trans known)
  rw [same] at answers
  exact ⟨kinds, first, before, keyword, inside, rest, split, front, answers⟩

end Bot

end Dialogue
