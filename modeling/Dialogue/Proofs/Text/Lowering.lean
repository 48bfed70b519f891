import Dialogue.Text.Case

/-!
# Lower case in context

The lower-case form of a text contains the lower-case forms of its pieces, but for
capital sigmas: what stands around a piece can say that a sigma ends a word, or that
it does not.  When every sigma of a piece is taken as in the piece alone, and only
then, the piece has one lower-case form in the text and by itself.
-/

namespace Dialogue.Text

/-- The lower-case form of one character between two texts, the first read backwards. -/
def lowerIn (before : List Char) (c : Char) (behind : List Char) : List Char :=
  if c = 'Σ' then
    if endsWord before behind then ['ς'] else ['σ']
  else
    lowerChar c

def lowerWithin (before behind : List Char) : List Char → List Char
  | [] => []
  | c :: rest => lowerIn before c (rest ++ behind) ++ lowerWithin (c :: before) behind rest

/-- Whether every capital sigma of a piece ends a word in the text around the piece
exactly when it ends one in the piece alone. -/
def KeepsSigmas (front piece back : List Char) : Prop :=
  ∀ left right, piece = left ++ 'Σ' :: right →
    endsWord (front ++ left).reverse (right ++ back) = endsWord left.reverse right

theorem lowerAfter_append (before piece behind : List Char) :
    lowerAfter before (piece ++ behind) =
      lowerWithin before behind piece ++ lowerAfter (piece.reverse ++ before) behind := by
  induction piece generalizing before with
  | nil => rfl
  | cons c rest ih =>
      have onward : lowerAfter before (c :: rest ++ behind) =
          lowerIn before c (rest ++ behind) ++ lowerAfter (c :: before) (rest ++ behind) := rfl
      rw [onward, ih]
      simp [lowerWithin]

theorem lower_eq_lowerWithin (piece : List Char) : lower piece = lowerWithin [] [] piece := by
  have whole := lowerAfter_append [] piece []
  simpa [lower, lowerAfter] using whole

theorem lowerIn_of_ne {c : Char} (plain : c ≠ 'Σ') (before behind : List Char) :
    lowerIn before c behind = lowerChar c := by
  rw [lowerIn, if_neg plain]

theorem lowerIn_sigma (before behind : List Char) :
    lowerIn before 'Σ' behind = [if endsWord before behind then 'ς' else 'σ'] := by
  rw [lowerIn, if_pos rfl]
  split <;> rfl

theorem lowerIn_length (before behind before' behind' : List Char) (c : Char) :
    (lowerIn before c behind).length = (lowerIn before' c behind').length := by
  by_cases sigma : c = 'Σ'
  · subst sigma
    rw [lowerIn_sigma, lowerIn_sigma]
    rfl
  · rw [lowerIn_of_ne sigma, lowerIn_of_ne sigma]

theorem lowerIn_sigma_eq_iff (before behind before' behind' : List Char) :
    lowerIn before 'Σ' behind = lowerIn before' 'Σ' behind' ↔
      endsWord before behind = endsWord before' behind' := by
  rw [lowerIn_sigma, lowerIn_sigma]
  cases endsWord before behind <;> cases endsWord before' behind' <;> decide

theorem lowerWithin_eq_iff (before behind before' behind' piece : List Char) :
    lowerWithin before behind piece = lowerWithin before' behind' piece ↔
      ∀ left right, piece = left ++ 'Σ' :: right →
        endsWord (left.reverse ++ before) (right ++ behind) =
          endsWord (left.reverse ++ before') (right ++ behind') := by
  induction piece generalizing before before' with
  | nil => simp [lowerWithin]
  | cons c rest ih =>
      -- A sigma keeps its length, so the form of `c` and that of `rest` can be told apart.
      have same_length := lowerIn_length before (rest ++ behind) before' (rest ++ behind') c
      rw [lowerWithin, lowerWithin]
      constructor
      · intro same left right split
        obtain ⟨head, tail⟩ := List.append_inj same same_length
        cases left with
        | nil =>
            obtain ⟨rfl, rfl⟩ := List.cons.inj split
            exact (lowerIn_sigma_eq_iff _ _ _ _).mp head
        | cons d left =>
            obtain ⟨rfl, rest_split⟩ := List.cons.inj split
            simpa using (ih _ _).mp tail left right rest_split
      · intro agree
        have head : lowerIn before c (rest ++ behind) = lowerIn before' c (rest ++ behind') := by
          by_cases sigma : c = 'Σ'
          · subst sigma
            exact (lowerIn_sigma_eq_iff _ _ _ _).mpr (agree [] rest rfl)
          · rw [lowerIn_of_ne sigma, lowerIn_of_ne sigma]
        have tail : lowerWithin (c :: before) behind rest =
            lowerWithin (c :: before') behind' rest := by
          apply (ih _ _).mpr
          intro left right split
          simpa using agree (c :: left) right (by rw [split, List.cons_append])
        rw [head, tail]

theorem keepsSigmas_iff (front piece back : List Char) :
    KeepsSigmas front piece back ↔ lowerWithin front.reverse back piece = lower piece := by
  rw [lower_eq_lowerWithin, lowerWithin_eq_iff]
  simp [KeepsSigmas]

theorem KeepsSigmas.lower_infix {front piece back : List Char}
    (kept : KeepsSigmas front piece back) : lower piece <:+: lower (front ++ piece ++ back) := by
  have whole : lower (front ++ piece ++ back) =
      lowerWithin [] (piece ++ back) front ++ lower piece ++
        lowerAfter (piece.reverse ++ front.reverse) back := by
    rw [lower, List.append_assoc, lowerAfter_append, lowerAfter_append, List.append_nil,
      (keepsSigmas_iff front piece back).mp kept, List.append_assoc]
  rw [whole]
  exact ⟨_, _, rfl⟩

end Dialogue.Text
