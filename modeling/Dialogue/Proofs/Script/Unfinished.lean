import Dialogue.Proofs.Script.Viable

/-!
# Scripts that end too early

When the tokens end, the braces that are still open tell which block is innermost: the
one whose opening brace has nothing but closed braces behind it.  A reading that ends
there names this block and the place of its keyword, and if no brace is open it says
that the script has ended.
-/

namespace Dialogue

/-! ## Braces -/

/-- Every brace is closed, and no brace is closed before it is opened. -/
structure Balanced (kinds : List TokenKind) : Prop where
  opened : ∀ front rest, kinds = front ++ rest → front.count .rightBrace ≤ front.count .leftBrace
  closed : kinds.count .leftBrace = kinds.count .rightBrace

theorem balanced_of_plain {kinds : List TokenKind} (left : .leftBrace ∉ kinds)
    (right : .rightBrace ∉ kinds) : Balanced kinds where
  opened front rest split := by
    have plain : .rightBrace ∉ front := fun inside => right (by simp [split, inside])
    simp [List.count_eq_zero_of_not_mem plain]
  closed := by
    rw [List.count_eq_zero_of_not_mem left, List.count_eq_zero_of_not_mem right]

namespace Balanced

theorem append {first second : List TokenKind} (one : Balanced first) (other : Balanced second) :
    Balanced (first ++ second) where
  opened front rest split := by
    rcases List.append_eq_append_iff.mp split with ⟨more, rfl, beyond⟩ | ⟨more, inside, -⟩
    · have settled := one.closed
      have balance := other.opened more rest beyond
      simp only [List.count_append]
      omega
    · exact one.opened front more inside
  closed := by
    simp only [List.count_append, one.closed, other.closed]

theorem flatMap {α : Type} {parts : List α} {kinds : α → List TokenKind}
    (each : ∀ part ∈ parts, Balanced (kinds part)) : Balanced (parts.flatMap kinds) := by
  induction parts with
  | nil => exact balanced_of_plain List.not_mem_nil List.not_mem_nil
  | cons part parts ih =>
      rw [List.flatMap_cons]
      apply (each part List.mem_cons_self).append
      exact ih fun other member => each other (List.mem_cons_of_mem part member)

theorem braces {inside : List TokenKind} (balanced : Balanced inside) :
    Balanced (.leftBrace :: (inside ++ [.rightBrace])) where
  opened front rest split := by
    cases front with
    | nil => simp
    | cons first front =>
        obtain ⟨rfl, onward⟩ := List.cons.inj split
        simp only [List.count_cons]
        rcases List.append_eq_append_iff.mp onward with ⟨more, rfl, last⟩ | ⟨more, within, -⟩
        · have short : more.count .rightBrace ≤ 1 := by
            apply Nat.le_trans List.count_le_length
            have size := congrArg List.length last
            simp at size
            omega
          have settled := balanced.closed
          simp only [List.count_append]
          simp
          omega
        · have balance := balanced.opened front more within
          simp
          omega
  closed := by
    simp [balanced.closed]

theorem eq_nil_of_behind {more inside inside' : List TokenKind} (balanced : Balanced inside)
    (balanced' : Balanced inside')
    (split : .leftBrace :: inside = more ++ .leftBrace :: inside') : more = [] := by
  cases more with
  | nil => rfl
  | cons first more =>
      obtain ⟨-, rfl⟩ := List.cons.inj split
      have opened := balanced.opened more _ rfl
      have settled := balanced.closed
      have settled' := balanced'.closed
      simp at settled
      omega

theorem unique {front front' inside inside' : List TokenKind} (balanced : Balanced inside)
    (balanced' : Balanced inside')
    (same : front ++ .leftBrace :: inside = front' ++ .leftBrace :: inside') :
    front = front' ∧ inside = inside' := by
  -- If one brace stood behind the other, it would be open in what must be balanced.
  rcases List.append_eq_append_iff.mp same with ⟨more, rfl, split⟩ | ⟨more, rfl, split⟩
  · cases balanced.eq_nil_of_behind balanced' split
    exact ⟨(List.append_nil front).symm, (List.cons.inj split).2⟩
  · cases balanced'.eq_nil_of_behind balanced split
    exact ⟨List.append_nil front', (List.cons.inj split).2.symm⟩

end Balanced

theorem balanced_actions (actions : List Action) :
    Balanced (actions.flatMap Action.kinds) := by
  apply Balanced.flatMap
  intro action _
  apply balanced_of_plain <;> cases action with
  | set name value => cases value <;> simp [Action.kinds, SetValue.kind]
  | _ => simp [Action.kinds]

theorem balanced_heading (heading : Heading) : Balanced heading.kinds := by
  apply balanced_of_plain <;> cases heading <;> simp [Heading.kinds]

theorem balanced_pending (statement : Pending) : Balanced statement.written := by
  apply balanced_of_plain <;> cases statement <;> simp [Pending.written]

theorem balanced_sections (sections : List Section) :
    Balanced (sections.flatMap Section.kinds) := by
  apply Balanced.flatMap
  intro part _
  have body := (balanced_actions part.actions).braces
  rw [Section.kinds, List.append_assoc]
  exact (balanced_heading part.heading).append body

/-! ## The innermost open block -/

def BlockLabel.kinds : BlockLabel → List TokenKind
  | bot name => [.keyword .bot, .string name]
  | inner heading => heading.kinds

/-- Behind its keyword stand the rest of its label, an opening brace, and nothing that
leaves a brace open. -/
def OpenBlock.InnermostIn (block : OpenBlock) (tokens : List Token) : Prop :=
  ∃ before keyword after inside, tokens = before ++ keyword :: after ∧
    keyword.position = block.keyword ∧
    (keyword :: after).map Token.kind = block.label.kinds ++ .leftBrace :: inside ∧
    Balanced inside

theorem BlockLabel.eq_of_append {front front' : List TokenKind} {label label' : BlockLabel}
    (same : front ++ label.kinds = front' ++ label'.kinds) : front = front' ∧ label = label' := by
  have reversed := congrArg List.reverse same
  cases label with
  | bot name =>
      cases label' with
      | bot name' => simpa [kinds, and_comm] using reversed
      | inner heading' => cases heading' <;> simp [kinds, Heading.kinds] at reversed
  | inner heading =>
      cases label' with
      | bot name' => cases heading <;> simp [kinds, Heading.kinds] at reversed
      | inner heading' =>
          cases heading <;> cases heading' <;> simp [kinds, Heading.kinds] at reversed ⊢
          · exact reversed.symm
          · exact reversed

theorem OpenBlock.InnermostIn.unique {block block' : OpenBlock} {tokens : List Token}
    (one : block.InnermostIn tokens) (other : block'.InnermostIn tokens) : block = block' := by
  obtain ⟨before, keyword, after, inside, rfl, place, kinds, balanced⟩ := one
  obtain ⟨before', keyword', after', inside', split, place', kinds', balanced'⟩ := other
  have whole := congrArg (List.map Token.kind) split
  rw [List.map_append, List.map_append, kinds, kinds', ← List.append_assoc,
    ← List.append_assoc] at whole
  obtain ⟨labels, -⟩ := balanced.unique balanced' whole
  obtain ⟨fronts, label⟩ := BlockLabel.eq_of_append labels
  have lengths : before.length = before'.length := by
    simpa using congrArg List.length fronts
  obtain ⟨-, behind⟩ := List.append_inj split lengths
  cases behind
  obtain ⟨name, position⟩ := block
  obtain ⟨name', position'⟩ := block'
  cases label
  cases place.symm.trans place'
  rfl

theorem Stage.exists_mark_of_openBlocks {stage : Stage} {block : OpenBlock}
    {outer : List OpenBlock} (opened : stage.openBlocks = block :: outer) :
    ∃ front inside, (front, block.keyword) ∈ stage.marks ∧
      stage.written = front ++ (block.label.kinds ++ .leftBrace :: inside) ∧
      Balanced inside := by
  have inBot (bot : BotDraft) {marks : List (List TokenKind × Position)}
      {more : List TokenKind} (kept : ([], bot.keyword) ∈ marks) (plain : Balanced more) :
      ∃ front inside, (front, bot.openBlock.keyword) ∈ marks ∧
        bot.written ++ more = front ++ (bot.openBlock.label.kinds ++ .leftBrace :: inside) ∧
        Balanced inside :=
    ⟨[], _, kept, rfl, (balanced_sections bot.toScript.sections).append plain⟩
  cases stage with
  | start | botKeyword | botName | closed => cases opened
  | between bot =>
      cases opened
      have found := inBot bot bot.keyword_mem_marks (balanced_pending .nothing)
      rwa [Pending.written, List.append_nil] at found
  | intentKeyword bot keyword =>
      cases opened
      apply inBot bot (List.mem_cons_of_mem _ bot.keyword_mem_marks)
      apply balanced_of_plain <;> simp
  | intentName bot keyword name =>
      cases opened
      apply inBot bot (List.mem_cons_of_mem _ bot.keyword_mem_marks)
      exact balanced_heading (.intent name)
  | defaultKeyword bot keyword =>
      cases opened
      apply inBot bot (List.mem_cons_of_mem _ bot.keyword_mem_marks)
      exact balanced_heading .default
  | inBlock bot block statement =>
      cases opened
      refine ⟨bot.written, _, List.mem_cons_self, ?_,
        (balanced_actions block.actions.reverse).append (balanced_pending statement)⟩
      rw [written, List.append_assoc]
      simp [BlockDraft.written, BlockDraft.openBlock, BlockLabel.kinds]

theorem Stage.innermostIn_of_openBlocks {stage : Stage} {tokens : List Token}
    {block : OpenBlock} {outer : List OpenBlock} (read : start.follow? tokens = some stage)
    (opened : stage.openBlocks = block :: outer) : block.InnermostIn tokens := by
  obtain ⟨front, inside, member, written, balanced⟩ := exists_mark_of_openBlocks opened
  obtain ⟨before, keyword, after, split, place, -, kinds⟩ :=
    exists_split_of_mark read member written
  exact ⟨before, keyword, after, inside, split, place, kinds, balanced⟩

/-! ## Where the tokens end -/

theorem Stage.openBlocks_eq_nil_iff {stage : Stage} {tokens : List Token}
    (read : start.follow? tokens = some stage) (unfinished : ∀ draft, stage ≠ closed draft) :
    stage.openBlocks = [] ↔ tokens.length < 3 := by
  rw [← List.length_map Token.kind, ← written_of_start read]
  cases stage with
  | closed draft => exact (unfinished draft rfl).elim
  | _ => simp [openBlocks, written, BotDraft.written]

namespace Bot

end Bot

end Dialogue
