import Dialogue.Json.Decode
import Dialogue.Json.Value

/-!
# Strings and numbers read back

What is written for a string or a number is read to its end, whatever stands
behind it, and decoded to the same string or number.
-/

namespace Dialogue.Json

/-! ## Strings -/

/-- The piece of a string that a character is written as: the controls without a
letter of their own are written as code units. -/
def TextUnit.ofChar (c : Char) : TextUnit :=
  match c with
  | '\x08' | '\x0C' | '\n' | '\r' | '\t' => .character c
  | _ => if c.toNat < 0x20 then .code c.toNat else .character c

theorem hexValue?_hexDigit : ∀ n < 16, RawText.hexValue? (hexDigit n) = some n := by
  decide

namespace RawText

theorem codeUnit?_of_lt {n : Nat} (small : n < 0x20) :
    codeUnit? '0' '0' (hexDigit (n / 16)) (hexDigit (n % 16)) = some n := by
  have zero : hexValue? '0' = some 0 := by decide
  have first := hexValue?_hexDigit (n / 16) (by omega)
  have second := hexValue?_hexDigit (n % 16) (by omega)
  simp only [codeUnit?, zero, first, second, bind, Option.bind, pure, Option.some.injEq]
  omega

theorem read_escaped (c : Char) (rest : List Char) :
    read (escaped c ++ rest) = ((read rest).1.push (.ofChar c), (read rest).2) := by
  unfold escaped TextUnit.ofChar
  split
  iterate 7 · simp [read, escape?]
  split
  · rename_i small
    simp [read, codeUnit?_of_lt small]
  · rename_i large
    -- The last case of `read` has an equation only under the denial of all the others.
    simp only [List.cons_append, List.nil_append]
    conv => lhs; unfold read
    split <;> simp_all [Nat.not_lt.mpr]

def ofString (text : String) : RawText :=
  ⟨text.toList.map .ofChar, none⟩

theorem read_flatMap (chars rest : List Char) :
    read (chars.flatMap escaped ++ '"' :: rest) = (⟨chars.map .ofChar, none⟩, rest) := by
  induction chars with
  | nil => rfl
  | cons c chars ih =>
      rw [List.flatMap_cons, List.append_assoc, read_escaped, ih]
      rfl

theorem decodeUnits_ofChar (c : Char) (units : List TextUnit) :
    decodeUnits none (.ofChar c :: units) = (c :: ·) <$> decodeUnits none units := by
  unfold TextUnit.ofChar
  split
  iterate 5 · rfl
  split
  · rename_i small
    have first : isFirstHalf c.toNat = false := by simp [isFirstHalf]; omega
    have second : isSecondHalf c.toNat = false := by simp [isSecondHalf]; omega
    conv => lhs; unfold decodeUnits
    simp [first, second, Char.ofNat_toNat]
  · rfl

theorem decodeUnits_map (chars : List Char) :
    decodeUnits none (chars.map .ofChar) = .ok chars := by
  induction chars with
  | nil => rfl
  | cons c chars ih =>
      rw [List.map_cons, decodeUnits_ofChar, ih]
      rfl

@[simp] theorem decode_ofString (text : String) : (ofString text).decode = .ok text := by
  simp only [decode, ofString, decodeUnits_map]
  exact congrArg Except.ok String.ofList_toList

end RawText

/-! ## Numbers -/

def continuesNumber (c : Char) : Bool :=
  c.isDigit || c == '.' || c == 'e' || c == 'E'

def EndsNumber (rest : List Char) : Prop :=
  ∀ c ∈ rest.head?, continuesNumber c = false

theorem naturalText_ne_nil (n : Nat) : naturalText n ≠ [] :=
  Nat.toDigits_ne_nil

theorem isDigit_of_mem_naturalText {n : Nat} {c : Char} (mem : c ∈ naturalText n) :
    c.isDigit = true :=
  Nat.isDigit_of_mem_toDigits (by decide) (by decide) mem

theorem naturalText_eq_cons (n : Nat) :
    ∃ c digits, naturalText n = c :: digits ∧ (c = '0' → digits = []) := by
  induction n using Nat.strongRecOn with
  | ind n ih =>
      rcases Nat.lt_or_ge n 10 with small | large
      · exact ⟨n.digitChar, [], Nat.toDigits_of_lt_base small, fun _ => rfl⟩
      · obtain ⟨c, digits, written, zero⟩ := ih (n / 10) (by omega)
        refine ⟨c, digits ++ [(n % 10).digitChar], ?_, ?_⟩
        · rw [naturalText, Nat.toDigits_of_base_le (by decide) large]
          exact congrArg (· ++ _) written
        · rintro rfl
          have value : Nat.ofDigitChars 10 (naturalText (n / 10)) 0 = n / 10 :=
            Nat.ofDigitChars_ten_toDigits
          rw [written, zero rfl] at value
          have : n / 10 = 0 := value.symm
          omega

namespace Numeral

theorem readDigits_append {digits rest : List Char} (filled : digits ≠ [])
    (all : ∀ c ∈ digits, c.isDigit = true) (ends : ∀ c ∈ rest.head?, c.isDigit = false) :
    readDigits (digits ++ rest) = .ok (digits, rest) := by
  obtain ⟨c, digits, rfl⟩ := List.exists_cons_of_ne_nil filled
  have first : c.isDigit = true := all c List.mem_cons_self
  have others : ∀ c ∈ digits, c.isDigit = true := fun c mem => all c (List.mem_cons_of_mem _ mem)
  have taken : rest.takeWhile Char.isDigit = [] := by cases rest <;> simp_all
  have kept : rest.dropWhile Char.isDigit = rest := by cases rest <;> simp_all
  simp [readDigits, first, List.takeWhile_append_of_pos others,
    List.dropWhile_append_of_pos others, taken, kept]

def ofNatural (n : Nat) : Numeral :=
  ⟨false, naturalText n, none, none⟩

theorem readFraction_of_ends {rest : List Char} (ends : EndsNumber rest) :
    readFraction rest = .ok (none, rest) := by
  unfold readFraction
  split
  · exact absurd (ends '.' rfl) (by decide)
  · rfl

theorem readExponent_of_ends {rest : List Char} (ends : EndsNumber rest) :
    readExponent rest = .ok (none, rest) := by
  unfold readExponent
  split
  · exact absurd (ends 'e' rfl) (by decide)
  · exact absurd (ends 'E' rfl) (by decide)
  · rfl

theorem read_naturalText (n : Nat) {rest : List Char} (ends : EndsNumber rest) :
    read (naturalText n ++ rest) = .ok (ofNatural n, rest) := by
  have unsigned : readSign (naturalText n ++ rest) = (false, naturalText n ++ rest) := by
    obtain ⟨c, digits, written, -⟩ := naturalText_eq_cons n
    have digit : c.isDigit = true := isDigit_of_mem_naturalText (written ▸ List.mem_cons_self)
    rw [written]
    unfold readSign
    split <;> simp_all
  have whole : readWhole (naturalText n ++ rest) = .ok (naturalText n, rest) := by
    have noDigit : ∀ c ∈ rest.head?, c.isDigit = false := fun c head => by
      have := ends c head
      simp_all [continuesNumber]
    have taken := readDigits_append (naturalText_ne_nil n)
      (fun c => isDigit_of_mem_naturalText) noDigit
    obtain ⟨c, digits, written, zero⟩ := naturalText_eq_cons n
    simp only [readWhole, taken, bind, Except.bind]
    split
    · rename_i longer
      obtain ⟨rfl, rfl⟩ := List.cons.inj (written.symm.trans longer)
      exact absurd (zero rfl) (List.cons_ne_nil _ _)
    · rfl
  simp only [read, unsigned, whole, readFraction_of_ends ends, readExponent_of_ends ends, bind,
    Except.bind, pure, Except.pure, ofNatural]

end Numeral

namespace Number

theorem le_ofDigitChars (digits : List Char) (n : Nat) : n ≤ Nat.ofDigitChars 10 digits n := by
  induction digits generalizing n with
  | nil => exact Nat.le_refl n
  | cons c digits ih =>
      rw [Nat.ofDigitChars_cons]
      exact Nat.le_trans (by omega) (ih _)

theorem gather_of_le {limit : Nat} {digits : List Char} {n : Nat}
    (fits : Nat.ofDigitChars 10 digits n ≤ limit) :
    gather limit n digits = (Nat.ofDigitChars 10 digits n, []) := by
  induction digits generalizing n with
  | nil => rfl
  | cons c digits ih =>
      rw [Nat.ofDigitChars_cons] at fits ⊢
      rw [← digitValue, Nat.mul_comm] at fits ⊢
      have below : n * 10 + digitValue c ≤ limit := Nat.le_trans (le_ofDigitChars digits _) fits
      simp only [gather, Nat.not_lt.mpr below, if_false]
      exact ih fits

end Number

theorem Numeral.number_ofNatural {n : Nat} (fits : n ≤ Number.maxNatural) :
    (ofNatural n).number = .ok (.natural n) := by
  have value : Nat.ofDigitChars 10 (naturalText n) 0 = n := Nat.ofDigitChars_ten_toDigits
  have gathered : Number.gather Number.maxNatural 0 (naturalText n) = (n, []) := by
    rw [Number.gather_of_le (by rwa [value]), value]
  simp [number, ofNatural, gathered]

end Dialogue.Json
