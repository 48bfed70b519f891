import Dialogue.Proofs.Template.Placeholder
import Mathlib.Logic.ExistsUnique

/-!
# How a template is divided

The placeholders of a template are all the places at which a name stands in double
braces.  No two of them share a character, however many braces stand in a row, so they
divide the template into literal parts in one way only.  Rendering puts values in the
places of the names and leaves the literal parts as they are.
-/

namespace Dialogue.Template

def braced (name : List Char) : List Char :=
  '\x7b' :: '\x7b' :: (name ++ ['\x7d', '\x7d'])

/-- Behind `front` the text goes on with this name in double braces. -/
def Occurs (text front name : List Char) : Prop :=
  Name.IsName name ∧ front ++ braced name <+: text

/-! ## Placeholders in a text -/

section

variable {text rest front name : List Char}

theorem braced_ne_nil : braced name ≠ [] :=
  List.cons_ne_nil _ _

theorem not_occurs_nil : ¬ Occurs [] front name := by
  rintro ⟨-, inside⟩
  exact braced_ne_nil (List.append_eq_nil_iff.mp (List.prefix_nil.mp inside)).2

theorem occurs_nil_iff :
    Occurs text [] name ↔ ∃ rest, placeholder? text = some (name, rest) := by
  simp only [placeholder?_eq_some_iff, exists_and_left]
  exact and_congr_right fun _ => exists_congr fun _ => eq_comm

theorem occurs_append_iff {first : List Char} :
    Occurs (first ++ rest) (first ++ front) name ↔ Occurs rest front name := by
  rw [Occurs, Occurs, List.append_assoc, List.prefix_append_right_inj]

theorem occurs_cons_cons_iff {c d : Char} :
    Occurs (c :: rest) (d :: front) name ↔ d = c ∧ Occurs rest front name := by
  rw [Occurs, List.cons_append, List.cons_prefix_cons, and_left_comm]
  rfl

theorem occurs_cons_iff {c : Char} (plain : placeholder? (c :: rest) = none) :
    Occurs (c :: rest) front name ↔ ∃ front', front = c :: front' ∧ Occurs rest front' name := by
  cases front with
  | nil =>
      rw [occurs_nil_iff, plain]
      simp
  | cons d front =>
      rw [occurs_cons_cons_iff]
      constructor
      · rintro ⟨rfl, occurs⟩
        exact ⟨front, rfl, occurs⟩
      · rintro ⟨_, ⟨⟩, occurs⟩
        exact ⟨rfl, occurs⟩

theorem placeholder?_of_ne {c : Char} (other : c ≠ '\x7b') : placeholder? (c :: rest) = none := by
  unfold placeholder?
  split <;> simp_all

theorem occurs_plain_append_iff {plain : List Char} (braceless : '\x7b' ∉ plain) :
    Occurs (plain ++ rest) front name ↔ ∃ front', front = plain ++ front' ∧ Occurs rest front' name := by
  induction plain generalizing front with
  | nil => simp
  | cons c plain ih =>
      rw [List.mem_cons, not_or] at braceless
      rw [List.cons_append, occurs_cons_iff (placeholder?_of_ne (Ne.symm braceless.1))]
      simp only [ih braceless.2, List.cons_append]
      constructor
      · rintro ⟨_, rfl, front, rfl, occurs⟩
        exact ⟨front, rfl, occurs⟩
      · rintro ⟨front, rfl, occurs⟩
        exact ⟨_, rfl, front, rfl, occurs⟩

theorem not_mem_of_isName (named : Name.IsName name) : '\x7b' ∉ name :=
  fun inside => by cases Name.isRest_of_isName named _ inside

theorem placeholder?_braced (named : Name.IsName name) (rest : List Char) :
    placeholder? (braced name ++ rest) = some (name, rest) :=
  placeholder?_eq_some_iff.mpr ⟨named, rfl⟩

theorem placeholder?_second_brace (named : Name.IsName name) (rest : List Char) :
    placeholder? ('\x7b' :: (name ++ rest)) = none := by
  cases name with
  | nil => exact named.elim
  | cons first name =>
      have letter : first ≠ '\x7b' := fun same => not_mem_of_isName named (by simp [same])
      unfold placeholder?
      split <;> simp_all

theorem occurs_braced_append_iff {other : List Char} (named : Name.IsName name) :
    Occurs (braced name ++ rest) front other ↔
      (front = [] ∧ other = name) ∨
        ∃ front', front = braced name ++ front' ∧ Occurs rest front' other := by
  cases front with
  | nil =>
      rw [occurs_nil_iff, placeholder?_braced named]
      constructor
      · rintro ⟨_, ⟨⟩⟩
        exact .inl ⟨rfl, rfl⟩
      · rintro (⟨-, rfl⟩ | ⟨_, ⟨⟩, -⟩)
        exact ⟨rest, rfl⟩
  | cons d front =>
      have braceless : '\x7b' ∉ name ++ ['\x7d', '\x7d'] := by
        simp [not_mem_of_isName named]
      have second := placeholder?_second_brace named (['\x7d', '\x7d'] ++ rest)
      rw [← List.append_assoc] at second
      rw [braced, List.cons_append, List.cons_append, occurs_cons_cons_iff,
        occurs_cons_iff second]
      simp only [occurs_plain_append_iff braceless]
      constructor
      · rintro ⟨rfl, _, rfl, front, rfl, occurs⟩
        exact .inr ⟨front, rfl, occurs⟩
      · rintro (⟨⟨⟩, -⟩ | ⟨front, ⟨⟩, occurs⟩)
        exact ⟨rfl, _, rfl, front, rfl, occurs⟩

theorem Occurs.eq_or_behind {more name' : List Char} (one : Occurs text front name)
    (other : Occurs text (front ++ more) name') :
    (more = [] ∧ name' = name) ∨ front ++ braced name <+: front ++ more := by
  obtain ⟨named, rest, rfl⟩ := one
  rw [List.append_assoc, occurs_append_iff, occurs_braced_append_iff named] at other
  rcases other with same | ⟨front', rfl, -⟩
  · exact .inl same
  · rw [← List.append_assoc]
    exact .inr (List.prefix_append _ _)

theorem Occurs.disjoint {front' name' : List Char} (one : Occurs text front name)
    (other : Occurs text front' name') :
    (front = front' ∧ name = name') ∨ front ++ braced name <+: front' ∨
      front' ++ braced name' <+: front := by
  have inside : front <+: text := (List.prefix_append _ _).trans one.2
  have inside' : front' <+: text := (List.prefix_append _ _).trans other.2
  rcases List.prefix_or_prefix_of_prefix inside inside' with ⟨more, rfl⟩ | ⟨more, rfl⟩
  · rcases one.eq_or_behind other with ⟨rfl, rfl⟩ | behind
    · exact .inl ⟨(List.append_nil _).symm, rfl⟩
    · exact .inr (.inl behind)
  · rcases other.eq_or_behind one with ⟨rfl, rfl⟩ | behind
    · exact .inl ⟨List.append_nil _, rfl⟩
    · exact .inr (.inr behind)

end

theorem Occurs.hasBraces (occurs : Occurs text front name) : hasBraces text := by
  rw [Template.hasBraces, Text.occursIn_iff]
  have inside : ['\x7b', '\x7b'] <:+: front ++ braced name :=
    ⟨front, name ++ ['\x7d', '\x7d'], by simp [braced]⟩
  exact inside.trans occurs.2.isInfix

/-! ## Divisions -/

/-- A text taken apart: literal parts, each with the name that stands in double braces
behind it, and the literal part at the end. -/
structure Division where
  parts : List (List Char × List Char)
  last : List Char

namespace Division

def fill (value : List Char → List Char) (division : Division) : List Char :=
  division.parts.flatMap (fun (literal, name) => literal ++ value name) ++ division.last

def placesOf : List (List Char × List Char) → List (List Char × List Char)
  | [] => []
  | (literal, name) :: parts =>
      (literal, name) :: (placesOf parts).map (Prod.map (literal ++ braced name ++ ·) id)

def places (division : Division) : List (List Char × List Char) :=
  placesOf division.parts

def cons (c : Char) : Division → Division
  | ⟨[], last⟩ => ⟨[], c :: last⟩
  | ⟨(literal, name) :: parts, last⟩ => ⟨(c :: literal, name) :: parts, last⟩

def push (name : List Char) (division : Division) : Division :=
  ⟨([], name) :: division.parts, division.last⟩

def ofPieces : List Piece → Division
  | [] => ⟨[], []⟩
  | .character c :: pieces => (ofPieces pieces).cons c
  | .placeholder name :: pieces => (ofPieces pieces).push name

variable {division : Division} {value : List Char → List Char} {front name : List Char}

@[simp] theorem fill_cons (c : Char) : (division.cons c).fill value = c :: division.fill value := by
  obtain ⟨parts, last⟩ := division
  cases parts <;> rfl

@[simp] theorem fill_push (name : List Char) :
    (division.push name).fill value = value name ++ division.fill value := by
  simp [push, fill]

theorem places_cons (c : Char) :
    (division.cons c).places = division.places.map (Prod.map ([c] ++ ·) id) := by
  obtain ⟨parts, last⟩ := division
  cases parts with
  | nil => rfl
  | cons part parts =>
      obtain ⟨literal, name⟩ := part
      simp [cons, places, placesOf, Function.comp_def]

theorem places_push (name : List Char) :
    (division.push name).places =
      ([], name) :: division.places.map (Prod.map (braced name ++ ·) id) :=
  rfl

theorem mem_places_cons_iff {c : Char} :
    (front, name) ∈ (division.cons c).places ↔
      ∃ front', front = c :: front' ∧ (front', name) ∈ division.places := by
  rw [places_cons]
  constructor
  · intro member
    obtain ⟨⟨front, name⟩, inside, ⟨⟩⟩ := List.mem_map.mp member
    exact ⟨front, rfl, inside⟩
  · rintro ⟨front, rfl, inside⟩
    exact List.mem_map.mpr ⟨_, inside, rfl⟩

theorem mem_places_push_iff {other : List Char} :
    (front, other) ∈ (division.push name).places ↔
      (front = [] ∧ other = name) ∨
        ∃ front', front = braced name ++ front' ∧ (front', other) ∈ division.places := by
  rw [places_push, List.mem_cons, Prod.mk.injEq]
  refine or_congr_right ⟨?_, ?_⟩
  · intro member
    obtain ⟨⟨front, other⟩, inside, ⟨⟩⟩ := List.mem_map.mp member
    exact ⟨front, rfl, inside⟩
  · rintro ⟨front, rfl, inside⟩
    exact List.mem_map.mpr ⟨_, inside, rfl⟩

end Division

/-- The division gives the text, and its names are all those that stand in double braces
there. -/
structure Divides (division : Division) (text : List Char) : Prop where
  text_eq : division.fill braced = text
  occurs_iff : ∀ front name, Occurs text front name ↔ (front, name) ∈ division.places

section

variable {division : Division} {text rest name : List Char} {c : Char}

theorem divides_nil_iff : Divides division [] ↔ division = ⟨[], []⟩ := by
  constructor
  · rintro ⟨text, -⟩
    obtain ⟨_ | ⟨⟨literal, name⟩, parts⟩, last⟩ := division
    · cases text
      rfl
    · simp [Division.fill, braced] at text
  · rintro rfl
    refine ⟨rfl, fun front name => ?_⟩
    simp [not_occurs_nil, Division.places, Division.placesOf]

theorem divides_cons_iff (plain : placeholder? (c :: rest) = none) :
    Divides (division.cons c) (c :: rest) ↔ Divides division rest := by
  constructor
  · rintro ⟨text, places⟩
    rw [Division.fill_cons] at text
    refine ⟨(List.cons.inj text).2, fun front name => ?_⟩
    have here := places (c :: front) name
    rw [occurs_cons_cons_iff, Division.mem_places_cons_iff] at here
    simpa using here
  · rintro ⟨text, places⟩
    refine ⟨by rw [Division.fill_cons, text], fun front name => ?_⟩
    rw [occurs_cons_iff plain, Division.mem_places_cons_iff]
    simp only [places]

theorem divides_push_iff (named : Name.IsName name) :
    Divides (division.push name) (braced name ++ rest) ↔ Divides division rest := by
  constructor
  · rintro ⟨text, places⟩
    rw [Division.fill_push] at text
    refine ⟨List.append_cancel_left text, fun front other => ?_⟩
    have here := places (braced name ++ front) other
    rw [occurs_append_iff, Division.mem_places_push_iff] at here
    simpa [braced_ne_nil] using here
  · rintro ⟨text, places⟩
    refine ⟨by rw [Division.fill_push, text], fun front other => ?_⟩
    rw [occurs_braced_append_iff named, Division.mem_places_push_iff]
    simp only [places]

theorem Divides.exists_push (divides : Divides division (braced name ++ rest))
    (named : Name.IsName name) : ∃ shorter : Division, division = shorter.push name := by
  obtain ⟨text, places⟩ := divides
  have first : ([], name) ∈ division.places :=
    (places [] name).mp ((occurs_braced_append_iff named).mpr (.inl ⟨rfl, rfl⟩))
  obtain ⟨_ | ⟨⟨literal, other⟩, parts⟩, last⟩ := division
  · cases first
  · rcases List.mem_cons.mp first with same | later
    · cases same
      exact ⟨⟨parts, last⟩, rfl⟩
    · obtain ⟨place, -, same⟩ := List.mem_map.mp later
      exact (braced_ne_nil (List.append_eq_nil_iff.mp
        (List.append_eq_nil_iff.mp (Prod.mk.inj same).1).1).2).elim

theorem Divides.exists_cons (divides : Divides division (c :: rest))
    (plain : placeholder? (c :: rest) = none) :
    ∃ shorter : Division, division = shorter.cons c := by
  obtain ⟨text, places⟩ := divides
  obtain ⟨_ | ⟨⟨_ | ⟨d, literal⟩, name⟩, parts⟩, last⟩ := division
  · cases text
    exact ⟨⟨[], rest⟩, rfl⟩
  · have occurs := (places [] name).mpr List.mem_cons_self
    obtain ⟨_, found⟩ := occurs_nil_iff.mp occurs
    cases plain.symm.trans found
  · cases (List.cons.inj text).1
    exact ⟨⟨(literal, name) :: parts, last⟩, rfl⟩

theorem divides_iff_ofPieces : Divides division text ↔ division = .ofPieces (pieces text) := by
  fun_induction pieces text generalizing division with
  | case1 text name rest found ih =>
      obtain ⟨named, rfl⟩ := placeholder?_eq_some_iff.mp found
      constructor
      · intro divides
        obtain ⟨shorter, rfl⟩ := divides.exists_push named
        rw [ih.mp ((divides_push_iff named).mp divides)]
        rfl
      · rintro rfl
        exact (divides_push_iff named).mpr (ih.mpr rfl)
  | case2 => exact divides_nil_iff
  | case3 c rest plain ih =>
      constructor
      · intro divides
        obtain ⟨shorter, rfl⟩ := divides.exists_cons plain
        rw [ih.mp ((divides_cons_iff plain).mp divides)]
        rfl
      · rintro rfl
        exact (divides_cons_iff plain).mpr (ih.mpr rfl)

end

/-! ## Rendering -/

def valueOf (bindings : Bindings) (name : List Char) : List Char :=
  (bindings[String.ofList name]?.map String.toList).getD (braced name)

theorem fill_ofPieces (bindings : Bindings) (pieces : List Piece) :
    (Division.ofPieces pieces).fill (valueOf bindings) =
      pieces.flatMap (Piece.rendered bindings) := by
  induction pieces with
  | nil => rfl
  | cons piece pieces ih =>
      cases piece with
      | character c => rw [Division.ofPieces, Division.fill_cons, ih, List.flatMap_cons]; rfl
      | placeholder name =>
          have value : valueOf bindings name = (Piece.placeholder name).rendered bindings := by
            rw [valueOf, Piece.rendered]
            cases bindings[String.ofList name]? <;> rfl
          rw [Division.ofPieces, Division.fill_push, ih, List.flatMap_cons, value]

/-- A template has one division, with all its placeholders, which do not overlap.  It is
rendered by putting in values, and everything else stays as it is.  Without two braces
in a row there is nothing to put in. -/
theorem render_divided (bindings : Bindings) (template : String) :
    (∃! division, Divides division template.toList) ∧
    (∀ division, Divides division template.toList →
      render bindings template = .ofList (division.fill (valueOf bindings))) ∧
    (∀ front name front' name', Occurs template.toList front name →
      Occurs template.toList front' name' →
        (front = front' ∧ name = name') ∨ front ++ braced name <+: front' ∨
          front' ++ braced name' <+: front) ∧
    (¬ hasBraces template.toList →
      Divides ⟨[], template.toList⟩ template.toList ∧ render bindings template = template) := by
  refine ⟨⟨_, divides_iff_ofPieces.mpr rfl, fun _ => divides_iff_ofPieces.mp⟩, ?_, ?_, ?_⟩
  · intro division divides
    rw [render_eq_pieces, divides_iff_ofPieces.mp divides, fill_ofPieces]
  · intro front name front' name' one other
    exact one.disjoint other
  · intro plain
    refine ⟨⟨rfl, fun front name => ⟨fun occurs => ?_, nofun⟩⟩, if_neg plain⟩
    exact (plain occurs.hasBraces).elim

example : render ((∅ : Bindings).insert "a" "b")
    "\x7b\x7b\x7ba\x7d\x7d\x7d \x7b\x7bb\x7b\x7ba\x7d\x7d \x7b\x7bb\x7d\x7d" =
      "\x7bb\x7d \x7b\x7bbb \x7b\x7bb\x7d\x7d" := by
  decide +kernel

end Dialogue.Template
