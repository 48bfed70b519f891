import Dialogue.Proofs.Session.Resumption

/-!
# One turn at a glance

A turn runs a segment of one block: the actions from the cursor up to the next `ask` or
`end`, with it.  The segment alone says what is replied, what is stored and where the
session stands afterwards, so a turn of any session can be written down without a loop.
-/

namespace Dialogue

namespace Action

def stops : Action → Bool
  | ask _ _ => true
  | finish => true
  | say _ => false
  | set _ _ => false

def spoken? : Action → Option String
  | say text => some text
  | ask prompt _ => some prompt
  | set _ _ => none
  | finish => none

def store (bindings : Bindings) : Action → Bindings
  | set name value => bindings.insert name (value.evaluate bindings)
  | _ => bindings

/-- The actions up to the first one at which a run stops, with it, or all of them if
there is none. -/
def segment (actions : List Action) : List Action :=
  actions.takeWhile (!·.stops) ++ (actions.dropWhile (!·.stops)).take 1

def stored (bindings : Bindings) (actions : List Action) : Bindings :=
  actions.foldl store bindings

def replies (bindings : Bindings) (actions : List Action) : List String :=
  actions.zipIdx.filterMap fun (action, i) =>
    action.spoken?.map (Template.render (stored bindings (actions.take i)))

/-! ## Segments action by action -/

variable {action : Action}

theorem segment_of_stops (stops : action.stops) (rest : List Action) :
    segment (action :: rest) = [action] := by
  simp [segment, stops]

theorem segment_of_not_stops (onward : ¬ action.stops) (rest : List Action) :
    segment (action :: rest) = action :: segment rest := by
  simp [segment, onward]

theorem replies_cons (bindings : Bindings) (action : Action) (rest : List Action) :
    replies bindings (action :: rest) =
      (action.spoken?.map (Template.render bindings)).toList ++
        replies (action.store bindings) rest := by
  have later : (rest.zipIdx 1).filterMap (fun (other, i) =>
      other.spoken?.map (Template.render (stored bindings ((action :: rest).take i)))) =
        replies (action.store bindings) rest := by
    rw [List.zipIdx_succ, List.filterMap_map]
    rfl
  rw [replies, List.zipIdx_cons, List.filterMap_cons, later]
  cases action <;> rfl

end Action

namespace Session

def stopped (session : Session) (segment : List Action) : Session :=
  let ended : Session := { session with
    bindings := Action.stored session.bindings segment
    cursor := session.cursor + segment.length }
  match segment.getLast? with
  | some (.ask _ name) => ended.suspend name
  | some .finish => ended.leave
  | _ => ended

theorem stopped_cons {action : Action} (onward : ¬ action.stops) (session : Session)
    (segment : List Action) :
    session.stopped (action :: segment) =
      ({ session.advance with bindings := action.store session.bindings }).stopped segment := by
  cases segment with
  | nil =>
      cases action with
      | ask | finish => exact (onward rfl).elim
      | say | set => rfl
  | cons next rest =>
      have cursor : session.cursor + (action :: next :: rest).length =
          session.advance.cursor + (next :: rest).length := by
        simp only [List.length_cons, advance]
        omega
      simp only [stopped, List.getLast?_cons_cons, cursor]
      rfl

theorem run_eq_segment (session : Session) (actions : List Action) :
    session.run actions =
      (Action.replies session.bindings (Action.segment actions),
        session.stopped (Action.segment actions)) := by
  induction actions generalizing session with
  | nil => rfl
  | cons action rest ih =>
      by_cases stops : action.stops
      · rw [Action.segment_of_stops stops]
        cases action with
        | say | set => cases stops
        | ask prompt name => rfl
        | finish => rfl
      · rw [Action.segment_of_not_stops stops, Action.replies_cons, stopped_cons stops]
        cases action with
        | ask | finish => exact (stops rfl).elim
        | say text => rw [run, ih]; rfl
        | set name value => rw [run, ih, value_eq_evaluate]; rfl

/-! ## Turns -/

/-- What a message lets run: the block and what it is found by, if there is one, the
place in it, and the values at the beginning. -/
structure Entry where
  heading : Option Heading
  block : Option Block
  cursor : Nat
  bindings : Bindings

def entry (session : Session) (bot : Bot) (classify : String → String) (text : String) : Entry :=
  match session.phase with
  | .awaiting name =>
      ⟨session.current, session.current.bind bot.block?, session.cursor,
        session.bindings.insert name text⟩
  | .idle =>
      ⟨bot.heading? (classify text), bot.resolve? (classify text), 0, session.bindings⟩

/-- A turn in one formula, for every session, bot, classifier and text: the segment that
is run says what is replied, what is stored and where the session stands. -/
theorem turn_eq_segment (session : Session) (bot : Bot) (classify : String → String)
    (text : String) :
    let entry := session.entry bot classify text
    session.turn bot classify text =
      match entry.block with
      | none => ([], ⟨entry.bindings, .idle, none, 0⟩)
      | some block =>
          let segment := Action.segment (block.actions.drop entry.cursor)
          let bindings := Action.stored entry.bindings segment
          (Action.replies entry.bindings segment,
            match segment.getLast? with
            | some (.ask _ name) =>
                ⟨bindings, .awaiting name, entry.heading, entry.cursor + segment.length⟩
            | some .finish => ⟨bindings, .idle, none, 0⟩
            | _ => ⟨bindings, .idle, entry.heading, entry.cursor + segment.length⟩) := by
  intro entry
  cases phase : session.phase with
  | awaiting name =>
      have begun : entry = ⟨session.current, session.current.bind bot.block?, session.cursor,
          session.bindings.insert name text⟩ := by
        simp only [entry, Session.entry, phase]
      rw [begun, turn, phase]
      simp only [resume, answer, assign]
      cases session.current.bind bot.block? with
      | none => rfl
      | some block => exact run_eq_segment _ _
  | idle =>
      have begun : entry = ⟨bot.heading? (classify text), bot.resolve? (classify text), 0,
          session.bindings⟩ := by
        simp only [entry, Session.entry, phase]
      rw [begun]
      cases named : bot.resolve? (classify text) with
      | none =>
          rw [turn_of_resolve?_eq_none phase named, leave, phase]
      | some block =>
          obtain ⟨heading, answers, -, same⟩ := turn_of_resolve? phase named
          rw [same, answers, run_eq_segment, start, phase]
          rfl

end Session

end Dialogue
