import Dialogue.Script.Reader

/-!
# Readers that are asked again

A reader keeps its place and its open blocks when a reading fails, and the next reading
goes on from there.  The blocks left open before show only where the tokens end before a
block was opened; otherwise each reading is that of a new reader.  A reading that does
not begin at a `bot` changes nothing, so it is repeated for ever.
-/

namespace Dialogue

/-- What an error becomes where blocks were left open before, innermost first: the end
of the script is then the end of the innermost of them. -/
def Error.within : (outer : List OpenBlock) → Error → Error
  | innermost :: _, endOfScript _ => unterminated innermost
  | _, error => error

theorem Conflict.within_error (conflict : Conflict) (outer : List OpenBlock) :
    conflict.error.within outer = conflict.error := by
  cases conflict <;> cases outer <;> rfl

namespace Stage

theorem endError_append (stage : Stage) (opened outer : List OpenBlock) :
    stage.endError (opened ++ outer) = (stage.endError opened).within outer := by
  cases opened with
  | cons innermost opened => cases outer <;> rfl
  | nil => cases outer <;> rfl

theorem readOn_outer (outer : List OpenBlock) (stage : Stage) (tokens : List Token) :
    stage.readOn outer tokens =
      ((stage.readOn [] tokens).1.mapError (Error.within outer),
        ⟨(stage.readOn [] tokens).2.tokens, (stage.readOn [] tokens).2.leftOpen ++ outer⟩) := by
  fun_induction readOn [] stage tokens with
  | case1 draft => rfl
  | case2 stage unfinished opened =>
      rw [readOn.eq_2 outer stage unfinished, endError_append]
      simp only [opened, List.append_nil]
      rfl
  | case3 stage token rest refused =>
      rw [readOn, refused]
      simp only [List.append_nil]
      cases outer <;> rfl
  | case4 stage token rest later step calm ih =>
      rw [readOn, step]
      simp only [calm]
      exact ih
  | case5 stage token rest later step conflict clash unread =>
      rw [readOn, step]
      have kept : .error conflict.error =
          (.error conflict.error : Except Error Bot).mapError (Error.within outer) :=
        congrArg Except.error (conflict.within_error outer).symm
      simp only [clash, List.append_nil, unread, ← kept]

theorem readOn_ok {outer : List OpenBlock} {stage : Stage} {tokens : List Token} {bot : Bot}
    (accepted : (stage.readOn outer tokens).1 = .ok bot) :
    (stage.readOn outer tokens).2 = ⟨[], outer⟩ := by
  fun_induction readOn outer stage tokens with
  | case1 => rfl
  | case4 stage token rest later step calm ih => exact ih accepted
  | case2 | case3 | case5 => cases accepted

end Stage

namespace ScriptReader

def again (reader : ScriptReader) : Nat → ScriptReader
  | 0 => reader
  | n + 1 => (reader.again n).read.2

def answer (reader : ScriptReader) (n : Nat) : Except Error Bot :=
  (reader.again n).read.1

theorem read_eq_fresh (reader : ScriptReader) :
    reader.read =
      let fresh := (ofTokens reader.tokens).read
      (fresh.1.mapError (Error.within reader.leftOpen),
        ⟨fresh.2.tokens, fresh.2.leftOpen ++ reader.leftOpen⟩) :=
  Stage.readOn_outer reader.leftOpen .start reader.tokens

def Stuck (reader : ScriptReader) : Prop :=
  ∀ token ∈ reader.tokens.head?, token.kind ≠ .keyword .bot

def bots (reader : ScriptReader) : Nat :=
  reader.tokens.countP (·.kind = .keyword .bot)

theorem read_of_stuck {reader : ScriptReader} (stuck : reader.Stuck) :
    reader.read.2 = reader ∧ ∃ error, reader.read.1 = .error error := by
  obtain ⟨tokens, leftOpen⟩ := reader
  cases tokens with
  | nil => exact ⟨rfl, _, rfl⟩
  | cons token rest =>
      have refused : Stage.start.next? token = none := by
        have other := stuck token rfl
        unfold Stage.next?
        split <;> simp_all
      rw [read, Stage.readOn, refused]
      exact ⟨rfl, _, rfl⟩

theorem read_of_bot {keyword : Token} {rest : List Token} {leftOpen : List OpenBlock}
    (bot : keyword.kind = .keyword .bot) :
    (read ⟨keyword :: rest, leftOpen⟩).2.tokens <:+ rest := by
  have step : Stage.start.next? keyword = some (.botKeyword keyword.position) := by
    simp only [Stage.next?, bot]
  rw [read, Stage.readOn, step]
  exact Stage.tokens_readOn _ _ _

theorem stuck_or_bot (reader : ScriptReader) :
    reader.Stuck ∨ ∃ keyword rest, reader.tokens = keyword :: rest ∧
      keyword.kind = .keyword .bot ∧ reader.read.2.tokens <:+ rest := by
  obtain ⟨tokens, leftOpen⟩ := reader
  cases tokens with
  | nil => exact .inl nofun
  | cons token rest =>
      by_cases bot : token.kind = .keyword .bot
      · exact .inr ⟨token, rest, rfl, bot, read_of_bot bot⟩
      · left
        rintro _ ⟨⟩
        exact bot

/-! ## Many readings -/

variable {reader : ScriptReader} {m n : Nat}

theorem again_of_stuck (stuck : (reader.again n).Stuck) (later : n ≤ m) :
    reader.again m = reader.again n := by
  induction later with
  | refl => rfl
  | step _ ih => rw [again, ih, (read_of_stuck stuck).1]

theorem answer_of_stuck (stuck : (reader.again n).Stuck) (later : n ≤ m) :
    reader.answer m = reader.answer n := by
  rw [answer, again_of_stuck stuck later, answer]

theorem stuck_or_fewer (reader : ScriptReader) (n : Nat) :
    (reader.again n).Stuck ∨ n + (reader.again n).bots ≤ reader.bots := by
  induction n with
  | zero => exact .inr (Nat.zero_add _ ▸ Nat.le_refl _)
  | succ n ih =>
      rcases stuck_or_bot (reader.again n) with stuck | ⟨keyword, rest, tokens, bot, used⟩
      · left
        rwa [again_of_stuck stuck (Nat.le_succ n)]
      · right
        have fewer : n + (reader.again n).bots ≤ reader.bots := by
          rcases ih with stuck | fewer
          · exact (stuck keyword (by simp [tokens]) bot).elim
          · exact fewer
        have one : (reader.again n).bots = rest.countP (·.kind = .keyword .bot) + 1 := by
          rw [bots, tokens, List.countP_cons_of_pos (by simpa using bot)]
        have left : (reader.again (n + 1)).bots ≤ rest.countP (·.kind = .keyword .bot) :=
          used.sublist.countP_le
        omega

theorem stuck_of_bots_le (enough : reader.bots ≤ n) : (reader.again n).Stuck := by
  rcases stuck_or_fewer reader n with stuck | fewer
  · exact stuck
  · intro token next bot
    have none : (reader.again n).bots = 0 := by omega
    have other := List.countP_eq_zero.mp none token (List.mem_of_mem_head? next)
    simp [bot] at other

theorem again_of_ok {bot : Bot} (accepted : reader.answer n = .ok bot) :
    reader.again (n + 1) = ⟨[], (reader.again n).leftOpen⟩ :=
  Stage.readOn_ok accepted

theorem le_of_ok {bot other : Bot} (accepted : reader.answer n = .ok bot)
    (accepted' : reader.answer m = .ok other) : m ≤ n := by
  refine Nat.le_of_not_lt fun later => ?_
  have stuck : (reader.again (n + 1)).Stuck := by
    rw [again_of_ok accepted]
    exact nofun
  obtain ⟨error, failed⟩ := (read_of_stuck stuck).2
  have same := answer_of_stuck stuck later
  cases (accepted'.symm.trans same).trans failed

/-- One reader is asked again and again.  A reading uses the `bot` that it begins at, or
changes nothing and is repeated for ever; so the answers are all alike when there were
as many readings as `bot`s.  At most one of them is a bot, and it leaves the open blocks
as they were.  Each reading is that of a new reader on the tokens that are left, but
where this one misses a script, an open block of earlier readings is unterminated. -/
theorem asked_again (tokens : List Token) :
    let reader := ofTokens tokens
    (∀ n,
      (∃ keyword rest, (reader.again n).tokens = keyword :: rest ∧
        keyword.kind = .keyword .bot ∧ (reader.again (n + 1)).tokens <:+ rest) ∨
      (reader.again (n + 1) = reader.again n ∧
        ∃ error, ∀ m, n ≤ m → reader.answer m = .error error)) ∧
    (∀ n, tokens.countP (·.kind = .keyword .bot) ≤ n → ∀ m, n ≤ m →
      reader.answer m = reader.answer n) ∧
    (∀ m n bot other, reader.answer m = .ok bot → reader.answer n = .ok other → m = n) ∧
    (∀ n bot, reader.answer n = .ok bot →
      (reader.again (n + 1)).leftOpen = (reader.again n).leftOpen) ∧
    ∀ n,
      let fresh := (ofTokens (reader.again n).tokens).read
      reader.answer n = fresh.1.mapError (Error.within (reader.again n).leftOpen) ∧
      reader.again (n + 1) =
        ⟨fresh.2.tokens, fresh.2.leftOpen ++ (reader.again n).leftOpen⟩ := by
  intro reader
  refine ⟨?_, ?_, ?_, ?_, ?_⟩
  · intro n
    rcases stuck_or_bot (reader.again n) with stuck | begins
    · obtain ⟨error, failed⟩ := (read_of_stuck stuck).2
      refine .inr ⟨again_of_stuck stuck (Nat.le_succ n), error, fun m later => ?_⟩
      rw [answer_of_stuck stuck later]
      exact failed
    · exact .inl begins
  · intro n enough m later
    have stuck : (reader.again n).Stuck := stuck_of_bots_le enough
    exact answer_of_stuck stuck later
  · intro m n bot other accepted accepted'
    exact Nat.le_antisymm (le_of_ok accepted' accepted) (le_of_ok accepted accepted')
  · intro n bot accepted
    rw [again_of_ok accepted]
  · intro n
    have simulated := read_eq_fresh (reader.again n)
    exact ⟨congrArg Prod.fst simulated, congrArg Prod.snd simulated⟩

theorem asked_again_inn :
    let token (kind : TokenKind) (line column : Nat) : Token := ⟨kind, kind.text, ⟨line, column⟩⟩
    let tokens := [token (.keyword .bot) 1 1, token (.string "Inn") 1 5, token .leftBrace 1 11,
      token (.keyword .bot) 2 1, token (.string "Bar") 2 5, token .leftBrace 2 11,
      token .rightBrace 3 1]
    let reader := ofTokens tokens
    let inn : OpenBlock := ⟨.bot "Inn", ⟨1, 1⟩⟩
    reader.answer 0 = .error (.token ⟨2, 1⟩ .innerBlock (.keyword .bot)) ∧
      reader.answer 1 = .ok ⟨"Bar", ∅, none⟩ ∧ (reader.again 2).leftOpen = [inn] ∧
      (ofTokens (reader.again 2).tokens).read.1 = .error (.endOfScript .botKeyword) ∧
      ∀ m, 2 ≤ m → reader.answer m = .error (.unterminated inn) := by
  intro token tokens reader inn
  obtain ⟨-, alike, -, kept, fresh⟩ := asked_again tokens
  have accepted : reader.answer 1 = .ok ⟨"Bar", ∅, none⟩ := rfl
  refine ⟨rfl, accepted, (kept 1 _ accepted).trans rfl, rfl, ?_⟩
  intro m later
  rw [alike 2 (by decide) m later]
  exact (fresh 2).1.trans rfl

end ScriptReader

end Dialogue
