import Dialogue.Proofs.Script.Acceptance
import Dialogue.Proofs.Script.Marks
import Mathlib.Data.List.Induction

/-!
# Where a script stops being one

Kinds are viable when some script begins with them.  The stages that can be reached are
exactly those of viable kinds, since what a stage has read can always be completed.  So
a token is refused where the kinds before it are viable and are no longer so with it,
unless two headings were equal before.
-/

namespace Dialogue

/-- Some script begins with these kinds; its headings need not differ. -/
def Viable (kinds : List TokenKind) : Prop :=
  ∃ script : Script, kinds <+: script.kinds

def RepeatsIntent (kinds : List TokenKind) : Prop :=
  ∃ bot earlier name actions, .intent name ∈ earlier.map Section.heading ∧
    Script.opening bot (earlier ++ [⟨.intent name, actions⟩]) <+: kinds

def RepeatsDefault (kinds : List TokenKind) : Prop :=
  ∃ bot earlier, .default ∈ earlier.map Section.heading ∧
    Script.opening bot earlier ++ [.keyword .default] <+: kinds

def RepeatsHeading (kinds : List TokenKind) : Prop :=
  RepeatsIntent kinds ∨ RepeatsDefault kinds

/-! ## Completing what has been read -/

theorem Viable.mono {kinds more : List TokenKind} (viable : Viable more)
    (front : kinds <+: more) : Viable kinds := by
  obtain ⟨script, begins⟩ := viable
  exact ⟨script, front.trans begins⟩

theorem Pending.exists_action_kinds (statement : Pending) :
    ∃ action : Action, statement.written <+: action.kinds := by
  cases statement with
  | nothing => exact ⟨.finish, List.nil_prefix⟩
  | say => exact ⟨.say "", by simp [written, Action.kinds]⟩
  | ask => exact ⟨.ask "" "", by simp [written, Action.kinds]⟩
  | askPrompt prompt | askInto prompt =>
      exact ⟨.ask prompt "", by simp [written, Action.kinds]⟩
  | set => exact ⟨.set "" (.literal ""), by simp [written, Action.kinds]⟩
  | setName name | setEqual name =>
      exact ⟨.set name (.literal ""), by simp [written, Action.kinds]⟩

theorem BotDraft.viable_written (bot : BotDraft) : Viable bot.written := by
  refine ⟨bot.toScript, ?_⟩
  rw [bot.kinds_toScript]
  exact List.prefix_append _ _

theorem BotDraft.viable_append (bot : BotDraft) (block : BlockDraft) {kinds : List TokenKind}
    (begins : kinds <+: block.written) : Viable (bot.written ++ kinds) := by
  apply (bot.push block).viable_written.mono
  rw [bot.written_push, List.append_assoc, List.prefix_append_right_inj]
  exact begins.trans (List.prefix_append _ _)

theorem Stage.viable_written (stage : Stage) : Viable stage.written := by
  cases stage with
  | start => exact (BotDraft.viable_written ⟨.start, "", []⟩).mono List.nil_prefix
  | botKeyword keyword =>
      exact (BotDraft.viable_written ⟨keyword, "", []⟩).mono (by simp [written])
  | botName keyword name =>
      exact (BotDraft.viable_written ⟨keyword, name, []⟩).mono (by simp [written])
  | between bot => exact bot.viable_written
  | intentKeyword bot keyword =>
      exact bot.viable_append ⟨keyword, .intent "", []⟩ (by simp [Heading.kinds])
  | intentName bot keyword name =>
      exact bot.viable_append ⟨keyword, .intent name, []⟩ (by simp [Heading.kinds])
  | defaultKeyword bot keyword =>
      exact bot.viable_append ⟨keyword, .default, []⟩ (by simp [Heading.kinds])
  | inBlock bot block statement =>
      obtain ⟨action, begins⟩ := statement.exists_action_kinds
      rw [written, List.append_assoc]
      apply bot.viable_append (block.push action)
      rw [block.written_push, List.prefix_append_right_inj]
      exact begins
  | closed bot => exact ⟨bot.toScript, List.prefix_rfl⟩

theorem Script.exists_follow?_of_append {script : Script} {tokens : List Token}
    {more : List TokenKind} (whole : tokens.map Token.kind ++ more = script.kinds) :
    ∃ stage bot, Stage.start.follow? tokens = some stage ∧
      stage.follow? (more.map Token.ofKind) = some (.closed bot) := by
  have kinds : (tokens ++ more.map Token.ofKind).map Token.kind = script.kinds := by
    rw [List.map_append, Token.map_kind_ofKind, whole]
  obtain ⟨bot, -, read⟩ := Script.follow?_tokens kinds
  rw [Stage.follow?_append] at read
  obtain ⟨stage, front, onward⟩ := Option.bind_eq_some_iff.mp read
  exact ⟨stage, bot, front, onward⟩

theorem viable_iff_follow? {tokens : List Token} :
    Viable (tokens.map Token.kind) ↔ ∃ stage, Stage.start.follow? tokens = some stage := by
  constructor
  · rintro ⟨script, more, whole⟩
    obtain ⟨stage, -, read, -⟩ := Script.exists_follow?_of_append whole
    exact ⟨stage, read⟩
  · rintro ⟨stage, read⟩
    rw [← Stage.written_of_start read]
    exact stage.viable_written

/-! ## Equal headings -/

theorem RepeatsHeading.mono {kinds more : List TokenKind} (repeats : RepeatsHeading kinds)
    (front : kinds <+: more) : RepeatsHeading more := by
  rcases repeats with ⟨bot, earlier, name, actions, member, begins⟩ | ⟨bot, earlier, member, begins⟩
  · exact .inl ⟨bot, earlier, name, actions, member, begins.trans front⟩
  · exact .inr ⟨bot, earlier, member, begins.trans front⟩

theorem exists_first_repeat {sections : List Section}
    (equal : ¬ (sections.map Section.heading).Nodup) :
    ∃ earlier part later, sections = earlier ++ part :: later ∧
      (earlier.map Section.heading).Nodup ∧ part.heading ∈ earlier.map Section.heading := by
  induction sections using List.reverseRecOn with
  | nil => exact (equal List.nodup_nil).elim
  | append_singleton earlier part ih =>
      by_cases differ : (earlier.map Section.heading).Nodup
      · refine ⟨earlier, part, [], rfl, differ, ?_⟩
        by_contra other
        apply equal
        rw [List.map_append, List.map_singleton, List.nodup_append]
        refine ⟨differ, List.nodup_singleton _, ?_⟩
        rintro heading inside _ last rfl
        exact other (List.mem_singleton.mp last ▸ inside)
      · obtain ⟨front, first, later, rfl, differ', member⟩ := ih differ
        exact ⟨front, first, later ++ [part], by simp, differ', member⟩

theorem repeatsHeading_opening {name : String} {sections : List Section}
    (equal : ¬ (sections.map Section.heading).Nodup) :
    RepeatsHeading (Script.opening name sections) := by
  obtain ⟨earlier, ⟨heading, actions⟩, later, rfl, -, member⟩ := exists_first_repeat equal
  cases heading with
  | intent same =>
      refine .inl ⟨name, earlier, same, actions, member, ?_⟩
      simp [Script.opening_append]
  | default =>
      refine .inr ⟨name, earlier, member, ?_⟩
      simp [Script.opening_append, Section.kinds, Heading.kinds]

theorem BotDraft.not_nodup_of_mem {bot : BotDraft} {name : String} {earlier : List Section}
    {part : Section} (written : bot.toScript = ⟨name, earlier ++ [part]⟩)
    (member : part.heading ∈ earlier.map Section.heading) : ¬ bot.headings.Nodup := by
  intro differ
  have headings := bot.map_heading_sections
  rw [written, List.map_append, List.map_singleton] at headings
  rw [← List.nodup_reverse, ← headings, List.nodup_append] at differ
  exact differ.2.2 _ member _ (List.mem_singleton_self _) rfl

theorem BotDraft.repeatsHeading_written {bot : BotDraft} (equal : ¬ bot.headings.Nodup) :
    RepeatsHeading bot.written := by
  apply repeatsHeading_opening
  rwa [bot.map_heading_sections, List.nodup_reverse]

theorem BotDraft.repeatsHeading_default {bot : BotDraft}
    (equal : ¬ (.default :: bot.headings).Nodup) :
    RepeatsHeading (bot.written ++ [.keyword .default]) := by
  by_cases differ : bot.headings.Nodup
  · have member : .default ∈ bot.headings := by
      by_contra other
      exact equal (List.nodup_cons.mpr ⟨other, differ⟩)
    rw [← List.mem_reverse, ← bot.map_heading_sections] at member
    exact .inr ⟨bot.name, bot.toScript.sections, member, List.prefix_rfl⟩
  · exact (repeatsHeading_written differ).mono (List.prefix_append _ _)

theorem Stage.repeatsHeading_written {stage : Stage} (equal : ¬ stage.headings.Nodup) :
    RepeatsHeading stage.written := by
  cases stage with
  | start | botKeyword | botName => exact (equal List.nodup_nil).elim
  | between bot => exact BotDraft.repeatsHeading_written equal
  | intentKeyword bot | intentName bot =>
      exact (BotDraft.repeatsHeading_written equal).mono (List.prefix_append _ _)
  | defaultKeyword bot => exact BotDraft.repeatsHeading_default equal
  | inBlock bot block statement =>
      obtain ⟨keyword, heading, actions⟩ := block
      rw [written, List.append_assoc]
      cases heading with
      | intent name => exact (BotDraft.repeatsHeading_written equal).mono (List.prefix_append _ _)
      | default =>
          apply (BotDraft.repeatsHeading_default equal).mono
          simp [BlockDraft.written, Heading.kinds]
  | closed bot =>
      rw [written, bot.kinds_toScript]
      exact (BotDraft.repeatsHeading_written equal).mono (List.prefix_append _ _)

theorem repeatsHeading_iff {tokens : List Token} {stage : Stage}
    (read : Stage.start.follow? tokens = some stage) :
    RepeatsHeading (tokens.map Token.kind) ↔ ¬ stage.headings.Nodup := by
  constructor
  · rintro (⟨name, earlier, same, actions, member, more, whole⟩ |
      ⟨name, earlier, member, more, whole⟩) differ
    · obtain ⟨front, rest, rfl, frontKinds, -⟩ := List.map_eq_append_iff.mp whole.symm
      obtain ⟨bot, written, opened⟩ := Script.follow?_opening frontKinds
      rw [Stage.follow?_append_of_follow? opened] at read
      apply BotDraft.not_nodup_of_mem written member
      exact differ.sublist (Stage.headings_suffix_of_follow? read).sublist
    · rw [List.append_assoc, List.singleton_append] at whole
      obtain ⟨front, rest, rfl, frontKinds, restKinds⟩ := List.map_eq_append_iff.mp whole.symm
      obtain ⟨token, later, rfl, kind, -⟩ := List.map_eq_cons_iff.mp restKinds
      obtain ⟨bot, written, opened⟩ := Script.follow?_opening frontKinds
      have step : (Stage.between bot).next? token = some (.defaultKeyword bot token.position) := by
        simp [Stage.next?, kind]
      rw [Stage.follow?_append_of_follow? opened, Stage.follow?_cons_of_next? step] at read
      have unequal := differ.sublist (Stage.headings_suffix_of_follow? read).sublist
      have headings := bot.map_heading_sections
      rw [written] at headings
      rw [headings, List.mem_reverse] at member
      exact (List.nodup_cons.mp unequal).1 member
  · intro equal
    rw [← Stage.written_of_start read]
    exact Stage.repeatsHeading_written equal

/-! ## The first token that cannot stand -/

theorem Stage.next?_eq_none_iff {stage : Stage} {front : List Token}
    (read : start.follow? front = some stage) (token : Token) :
    stage.next? token = none ↔ ¬ Viable ((front ++ [token]).map Token.kind) := by
  rw [viable_iff_follow?, follow?_append_of_follow? read]
  cases step : stage.next? token <;> simp [follow?, step]

namespace Bot

/-- A token is refused where no script goes on with it, and what was read before
repeats no heading.  The error tells the place of that token. -/
theorem ofTokens_refuses_iff (tokens : List Token) (place : Position) (found : TokenKind) :
    (∃ slot, Bot.ofTokens tokens = .error (.token place slot found)) ↔
      ∃ i token, tokens[i]? = some token ∧ token.position = place ∧ token.kind = found ∧
        Viable ((tokens.map Token.kind).take i) ∧
        ¬ Viable ((tokens.map Token.kind).take (i + 1)) ∧
        ¬ RepeatsHeading ((tokens.map Token.kind).take i) := by
  simp only [ofTokens_eq_iff_verdict, ← List.map_take]
  constructor
  · rintro ⟨slot, verdict⟩
    rcases verdict.error_cases with ⟨later, -, -, -, same⟩ |
      ⟨front, token, rest, later, rfl, read, differ, refused, same⟩ |
      ⟨_, _, _, _, _, conflict, -, -, -, -, -, same⟩
    · exact (Stage.endError_ne_token same.symm).elim
    · cases same
      refine ⟨front.length, token, by simp, rfl, rfl, ?_, ?_, ?_⟩
      · rw [List.take_left]
        exact viable_iff_follow?.mpr ⟨later, read⟩
      · rw [List.take_length_add_append, List.take_succ_cons, List.take_zero]
        exact (Stage.next?_eq_none_iff read token).mp refused
      · rw [List.take_left, repeatsHeading_iff read, not_not]
        exact differ
    · cases conflict <;> cases same
  · rintro ⟨i, token, here, rfl, rfl, viable, stuck, calm⟩
    obtain ⟨later, read⟩ := viable_iff_follow?.mp viable
    rw [repeatsHeading_iff read, not_not] at calm
    obtain ⟨bound, rfl⟩ := List.getElem?_eq_some_iff.mp here
    have split : tokens = tokens.take i ++ tokens[i] :: tokens.drop (i + 1) := by
      rw [← List.drop_eq_getElem_cons bound, List.take_append_drop]
    rw [List.take_add_one, here] at stuck
    have refused := (Stage.next?_eq_none_iff read tokens[i]).mpr stuck
    exact ⟨later.slot, .refused split read calm refused⟩

end Bot

end Dialogue
