import Dialogue.Script.Stage

/-!
# The course of a reading

`Stage.follow?` takes a stage through a list of tokens by the grammar alone.
What it has read is `Stage.written`, so a course that ends in `closed` has read
the tokens of a script; and conversely the tokens of every script lead there.
`Stage.headings` collects the headings that have to differ so far, and a stage
is in conflict exactly when the token read last has made two of them equal.
-/

namespace Dialogue

namespace Stage

def follow? : Stage → List Token → Option Stage
  | stage, [] => some stage
  | stage, token :: rest => (stage.next? token).bind fun later => later.follow? rest

theorem follow?_cons_of_next? {stage later : Stage} {token : Token}
    (read : stage.next? token = some later) (rest : List Token) :
    stage.follow? (token :: rest) = later.follow? rest := by
  rw [follow?, read]
  rfl

theorem follow?_append (stage : Stage) (first second : List Token) :
    stage.follow? (first ++ second) =
      (stage.follow? first).bind fun later => later.follow? second := by
  induction first generalizing stage with
  | nil => rfl
  | cons token rest ih =>
      simp only [List.cons_append, follow?]
      cases stage.next? token with
      | none => rfl
      | some later => exact ih later

theorem follow?_append_of_follow? {stage later : Stage} {first : List Token}
    (read : stage.follow? first = some later) (second : List Token) :
    stage.follow? (first ++ second) = later.follow? second := by
  rw [follow?_append, read]
  rfl

theorem written_of_follow? {stage later : Stage} {tokens : List Token}
    (read : stage.follow? tokens = some later) :
    later.written = stage.written ++ tokens.map Token.kind := by
  induction tokens generalizing stage with
  | nil =>
      cases read
      simp
  | cons token rest ih =>
      obtain ⟨next, step, onward⟩ := Option.bind_eq_some_iff.mp read
      rw [ih onward, next?_written step]
      simp

end Stage

/-! ## The headings that have to differ -/

def BotDraft.headings (bot : BotDraft) : List Heading :=
  bot.blocks.map BlockDraft.heading

namespace Stage

/-- The headings of the blocks that count, the latest first: an intent counts
when its block is closed, and a default block from its keyword on. -/
def headings : Stage → List Heading
  | start => []
  | botKeyword _ => []
  | botName .. => []
  | between bot => bot.headings
  | intentKeyword bot _ => bot.headings
  | intentName bot .. => bot.headings
  | defaultKeyword bot _ => .default :: bot.headings
  | inBlock bot ⟨_, .default, _⟩ _ => .default :: bot.headings
  | inBlock bot ⟨_, .intent _, _⟩ _ => bot.headings
  | closed bot => bot.headings

theorem headings_of_next? {stage later : Stage} {token : Token}
    (read : stage.next? token = some later) :
    later.headings = stage.headings ∨ ∃ heading, later.headings = heading :: stage.headings := by
  unfold next? at read
  split at read
  case h_10 bot block _ =>
    cases read
    obtain ⟨keyword, heading, actions⟩ := block
    cases heading <;> simp [headings, BotDraft.headings, BotDraft.push]
  case h_11 bot block statement _ =>
    obtain ⟨step, -, rfl⟩ := Option.map_eq_some_iff.mp read
    obtain ⟨keyword, heading, actions⟩ := block
    cases heading <;> cases step <;> simp [headings, BlockDraft.push]
  case h_12 => cases read
  all_goals
    cases read
    simp [headings, BotDraft.headings]

theorem headings_suffix_of_next? {stage later : Stage} {token : Token}
    (read : stage.next? token = some later) : stage.headings <:+ later.headings := by
  rcases headings_of_next? read with same | ⟨heading, longer⟩
  · simp [same]
  · simp [longer]

theorem headings_suffix_of_follow? {stage later : Stage} {tokens : List Token}
    (read : stage.follow? tokens = some later) : stage.headings <:+ later.headings := by
  induction tokens generalizing stage with
  | nil =>
      cases read
      exact List.suffix_rfl
  | cons token rest ih =>
      obtain ⟨next, step, onward⟩ := Option.bind_eq_some_iff.mp read
      exact (headings_suffix_of_next? step).trans (ih onward)

/-- A token brings a conflict about exactly when it makes two headings equal. -/
theorem conflict?_eq_none_iff {stage later : Stage} {token : Token}
    (read : stage.next? token = some later) (differ : stage.headings.Nodup) :
    later.conflict? = none ↔ later.headings.Nodup := by
  unfold next? at read
  split at read
  case h_6 bot =>
    cases read
    simpa [conflict?, headings, BotDraft.headings] using fun _ => differ
  case h_10 bot block _ =>
    cases read
    obtain ⟨keyword, heading, actions⟩ := block
    cases heading with
    | intent name =>
        simpa [conflict?, headings, BotDraft.headings, BotDraft.push] using fun _ => differ
    | default =>
        simpa [conflict?, headings, BotDraft.headings, BotDraft.push] using differ
  case h_11 bot block statement _ =>
    obtain ⟨step, -, rfl⟩ := Option.map_eq_some_iff.mp read
    obtain ⟨keyword, heading, actions⟩ := block
    cases heading <;> cases step <;> simpa [conflict?, headings, BlockDraft.push] using differ
  case h_12 => cases read
  case h_1 | h_2 | h_3 =>
    cases read
    simp [conflict?, headings, BotDraft.headings]
  all_goals
    cases read
    simpa [conflict?, headings, BotDraft.headings] using differ

theorem conflict?_cases {stage : Stage} {conflict : Conflict}
    (clash : stage.conflict? = some conflict) :
    (∃ bot block name, stage = between (BotDraft.push bot block) ∧
      block.heading = .intent name ∧ .intent name ∈ bot.headings ∧
      conflict = .repeatedIntent name block.keyword) ∨
    (∃ bot keyword, stage = defaultKeyword bot keyword ∧ .default ∈ bot.headings ∧
      conflict = .secondDefault keyword) := by
  cases stage with
  | between bot =>
      obtain ⟨keyword, botName, blocks⟩ := bot
      cases blocks with
      | nil => cases clash
      | cons block earlier =>
          simp only [conflict?] at clash
          split at clash
          · rename_i name heading
            split at clash <;> cases clash
            rename_i found
            have member : .intent name ∈ BotDraft.headings ⟨keyword, botName, earlier⟩ := by
              simpa [BotDraft.headings] using found
            exact .inl ⟨⟨keyword, botName, earlier⟩, block, name, rfl, heading, member, rfl⟩
          · cases clash
  | defaultKeyword bot keyword =>
      simp only [conflict?] at clash
      split at clash <;> cases clash
      rename_i found
      have member : .default ∈ bot.headings := by
        simpa [BotDraft.headings] using found
      exact .inr ⟨bot, keyword, rfl, member, rfl⟩
  | _ => cases clash

theorem nodup_of_repeated {stage later : Stage} {token : Token} {heading : Heading}
    {headings : List Heading} (read : stage.next? token = some later)
    (differ : stage.headings.Nodup) (known : later.headings = heading :: headings)
    (repeated : heading ∈ headings) : headings.Nodup := by
  rcases headings_of_next? read with same | ⟨_, longer⟩
  · rw [← same, known, List.nodup_cons] at differ
    exact (differ.1 repeated).elim
  · rw [known] at longer
    rwa [(List.cons.inj longer).2]

end Stage

end Dialogue
