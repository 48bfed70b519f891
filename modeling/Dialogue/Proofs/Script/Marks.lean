import Dialogue.Proofs.Script.Course

/-!
# The places that a stage remembers

A stage keeps the places of the keywords of its blocks.  `Stage.marks` lists them, each
with the kinds that had been read when the keyword came, and `Marked` finds the keyword
again among the tokens.  A step remembers the token that it reads or nothing new.
-/

namespace Dialogue

/-- The token behind these kinds stands at this place. -/
def Marked (tokens : List Token) (front : List TokenKind) (place : Position) : Prop :=
  ∃ before token after, tokens = before ++ token :: after ∧ before.map Token.kind = front ∧
    token.position = place

theorem Marked.append {tokens : List Token} {front : List TokenKind} {place : Position}
    (marked : Marked tokens front place) (more : List Token) :
    Marked (tokens ++ more) front place := by
  obtain ⟨before, token, after, rfl, kinds, same⟩ := marked
  exact ⟨before, token, after ++ more, by simp, kinds, same⟩

theorem marked_concat (tokens : List Token) (token : Token) :
    Marked (tokens ++ [token]) (tokens.map Token.kind) token.position :=
  ⟨tokens, token, [], rfl, rfl, rfl⟩

def BotDraft.marksOf (keyword : Position) (name : String) :
    List BlockDraft → List (List TokenKind × Position)
  | [] => [([], keyword)]
  | block :: earlier =>
      (BotDraft.written ⟨keyword, name, earlier⟩, block.keyword) :: marksOf keyword name earlier

def BotDraft.marks (bot : BotDraft) : List (List TokenKind × Position) :=
  marksOf bot.keyword bot.name bot.blocks

theorem BotDraft.keyword_mem_marks (bot : BotDraft) : ([], bot.keyword) ∈ bot.marks := by
  obtain ⟨keyword, name, blocks⟩ := bot
  induction blocks with
  | nil => exact List.mem_cons_self
  | cons block earlier ih => exact List.mem_cons_of_mem _ ih

namespace Stage

def marks : Stage → List (List TokenKind × Position)
  | start => []
  | botKeyword keyword => [([], keyword)]
  | botName keyword _ => [([], keyword)]
  | between bot => bot.marks
  | intentKeyword bot keyword => (bot.written, keyword) :: bot.marks
  | intentName bot keyword _ => (bot.written, keyword) :: bot.marks
  | defaultKeyword bot keyword => (bot.written, keyword) :: bot.marks
  | inBlock bot block _ => (bot.written, block.keyword) :: bot.marks
  | closed bot => bot.marks

theorem marks_of_next? {stage later : Stage} {token : Token}
    (read : stage.next? token = some later) :
    later.marks = stage.marks ∨
      later.marks = (stage.written, token.position) :: stage.marks := by
  unfold next? at read
  split at read
  case h_1 | h_5 | h_6 =>
    cases read
    exact .inr rfl
  case h_11 =>
    obtain ⟨step, -, rfl⟩ := Option.map_eq_some_iff.mp read
    cases step <;> exact .inl rfl
  case h_12 => cases read
  all_goals
    cases read
    exact .inl rfl

theorem marked_of_follow? {stage later : Stage} {before tokens : List Token}
    (read : stage.follow? tokens = some later) (written : stage.written = before.map Token.kind)
    (marked : ∀ mark ∈ stage.marks, Marked before mark.1 mark.2) :
    ∀ mark ∈ later.marks, Marked (before ++ tokens) mark.1 mark.2 := by
  induction tokens generalizing stage before with
  | nil =>
      cases read
      rwa [List.append_nil]
  | cons token rest ih =>
      obtain ⟨next, step, onward⟩ := Option.bind_eq_some_iff.mp read
      have longer : next.written = (before ++ [token]).map Token.kind := by
        rw [next?_written step, written, List.map_append, List.map_singleton]
      have kept : ∀ mark ∈ stage.marks, Marked (before ++ [token]) mark.1 mark.2 :=
        fun mark member => (marked mark member).append [token]
      have all : ∀ mark ∈ next.marks, Marked (before ++ [token]) mark.1 mark.2 := by
        intro mark member
        rcases marks_of_next? step with same | new
        · exact kept mark (same ▸ member)
        · rw [new] at member
          rcases List.mem_cons.mp member with rfl | old
          · rw [written]
            exact marked_concat before token
          · exact kept mark old
      have whole := ih onward longer all
      rwa [List.append_assoc] at whole

theorem marked_of_start {stage : Stage} {tokens : List Token}
    (read : start.follow? tokens = some stage) :
    ∀ mark ∈ stage.marks, Marked tokens mark.1 mark.2 := by
  have nothing : ∀ mark ∈ start.marks, Marked [] mark.1 mark.2 := by
    intro mark member
    cases member
  exact marked_of_follow? read List.map_nil.symm nothing

theorem written_of_start {tokens : List Token} {stage : Stage}
    (read : start.follow? tokens = some stage) : stage.written = tokens.map Token.kind := by
  rw [written_of_follow? read, written, List.nil_append]

theorem exists_split_of_mark {stage : Stage} {tokens : List Token} {front rest : List TokenKind}
    {place : Position} (read : start.follow? tokens = some stage)
    (member : (front, place) ∈ stage.marks) (written : stage.written = front ++ rest) :
    ∃ before token after, tokens = before ++ token :: after ∧ token.position = place ∧
      before.map Token.kind = front ∧ (token :: after).map Token.kind = rest := by
  obtain ⟨before, token, after, rfl, kinds, same⟩ := marked_of_start read _ member
  rw [written_of_start read, List.map_append, kinds, List.append_cancel_left_eq] at written
  exact ⟨before, token, after, rfl, same, kinds, written⟩

end Stage

end Dialogue
