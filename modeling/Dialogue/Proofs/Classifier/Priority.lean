import Dialogue.Classifier
import Dialogue.Proofs.Text.Lowering
import Mathlib.Data.List.Basic

/-!
# The order of keyword rules

Rules have priority in the order in which they stand, whether a classifier is given all
of them at once or one by one.  So the rules behind some others are the fallback of
these, and a rule with a keyword that stands in the text leaves the choice to the rules
up to it.  The last holds of texts in lower case: a capital sigma of the keyword may be
the end of a word in the keyword and not in the text, and then the rule can be missed.
-/

namespace Dialogue.KeywordClassifier

def build (rules : List KeywordRule) (fallback : String) : KeywordClassifier :=
  rules.foldl KeywordClassifier.rule (.new fallback)

theorem foldl_rule (classifier : KeywordClassifier) (rules : List KeywordRule) :
    rules.foldl KeywordClassifier.rule classifier =
      { classifier with rules := classifier.rules ++ rules.map KeywordRule.lowered } := by
  induction rules generalizing classifier with
  | nil => simp
  | cons first rest ih =>
      rw [List.foldl_cons, ih]
      simp [KeywordClassifier.rule]

theorem build_eq_ofRules (rules : List KeywordRule) (fallback : String) :
    build rules fallback = .ofRules ⟨rules, fallback⟩ := by
  rw [build, foldl_rule]
  rfl

theorem recognize_ofRules_cons (first : KeywordRule) (rest : List KeywordRule)
    (fallback text : String) :
    (ofRules ⟨first :: rest, fallback⟩).recognize text =
      if first.lowered.matches (Text.lower text.toList) then first.intent
      else (ofRules ⟨rest, fallback⟩).recognize text := by
  simp only [recognize, ofRules, List.map_cons, List.find?_cons]
  cases first.lowered.matches (Text.lower text.toList) <;> rfl

theorem recognize_ofRules_append (rules others : List KeywordRule) (fallback text : String) :
    (ofRules ⟨rules ++ others, fallback⟩).recognize text =
      (ofRules ⟨rules, (ofRules ⟨others, fallback⟩).recognize text⟩).recognize text := by
  induction rules with
  | nil => rfl
  | cons first rest ih =>
      rw [List.cons_append, recognize_ofRules_cons, recognize_ofRules_cons, ih]

/-- Rules behind others are asked when those have no answer, and it does not matter
whether a classifier is given its rules at once or one by one. -/
theorem recognize_by_priority (rules others : List KeywordRule) (fallback text : String) :
    (ofRules ⟨rules ++ others, fallback⟩).recognize text =
        (ofRules ⟨rules, (ofRules ⟨others, fallback⟩).recognize text⟩).recognize text ∧
      (build (rules ++ others) fallback).recognize text =
        (build rules ((build others fallback).recognize text)).recognize text ∧
      (build rules fallback).recognize text = (ofRules ⟨rules, fallback⟩).recognize text := by
  refine ⟨recognize_ofRules_append .., ?_, by rw [build_eq_ofRules]⟩
  simp only [build_eq_ofRules]
  exact recognize_ofRules_append ..

/-! ## Keywords that stand in the text -/

theorem matches_of_keyword {rule : KeywordRule} {keyword : String}
    (listed : keyword ∈ rule.keywords) {front back : List Char}
    (kept : Text.KeepsSigmas front keyword.toList back) :
    rule.lowered.matches (Text.lower (front ++ keyword.toList ++ back)) := by
  apply List.any_eq_true.mpr
  exact ⟨_, List.mem_map_of_mem listed, Text.occursIn_iff.mpr kept.lower_infix⟩

theorem exists_recognize_of_matches {rules : List KeywordRule} {i : Nat} {rule : KeywordRule}
    (place : rules[i]? = some rule) {text : String}
    (found : rule.lowered.matches (Text.lower text.toList)) (fallback : String) :
    ∃ j ≤ i, ∃ first, rules[j]? = some first ∧
      (ofRules ⟨rules, fallback⟩).recognize text = first.intent := by
  induction rules generalizing i with
  | nil => cases place
  | cons first rest ih =>
      rw [recognize_ofRules_cons]
      by_cases early : first.lowered.matches (Text.lower text.toList)
      · rw [if_pos early]
        exact ⟨0, Nat.zero_le i, first, rfl, rfl⟩
      · rw [if_neg early]
        cases i with
        | zero =>
            cases place
            exact (early found).elim
        | succ i =>
            obtain ⟨j, within, chosen, at_j, answer⟩ := ih place
            exact ⟨j + 1, Nat.succ_le_succ within, chosen, at_j, answer⟩

/-- A rule with a keyword that stands in the text, as it is written, leaves the choice to
the rules up to it, provided that each capital sigma of the keyword ends a word in the
text exactly when it ends one in the keyword alone. -/
theorem recognize_of_keyword {rules : List KeywordRule} {i : Nat} {rule : KeywordRule}
    (place : rules[i]? = some rule) {keyword : String} (listed : keyword ∈ rule.keywords)
    {text : String} {front back : List Char} (stands : text.toList = front ++ keyword.toList ++ back)
    (kept : Text.KeepsSigmas front keyword.toList back) (fallback : String) :
    ∃ j ≤ i, ∃ first, rules[j]? = some first ∧
      (ofRules ⟨rules, fallback⟩).recognize text = first.intent ∧
      (build rules fallback).recognize text = first.intent := by
  have found : rule.lowered.matches (Text.lower text.toList) := by
    rw [stands]
    exact matches_of_keyword listed kept
  obtain ⟨j, within, first, at_j, answer⟩ := exists_recognize_of_matches place found fallback
  exact ⟨j, within, first, at_j, answer, by rw [build_eq_ofRules, answer]⟩

theorem recognize_of_keyword_pros :
    let rule : KeywordRule := ⟨"direct", ["άλλο", "ΠΡΟΣ"]⟩
    let rules : List KeywordRule := [⟨"greet", ["HELLO"]⟩, rule]
    let text := "Hello, ΠΡΟΣ ΤΑ ΠΑΝΩ"
    (rules[1]? = some rule ∧ "ΠΡΟΣ" ∈ rule.keywords ∧
      text.toList = "Hello, ".toList ++ "ΠΡΟΣ".toList ++ " ΤΑ ΠΑΝΩ".toList ∧
      Text.KeepsSigmas "Hello, ".toList "ΠΡΟΣ".toList " ΤΑ ΠΑΝΩ".toList) ∧
    ∃ j ≤ 1, ∃ first, rules[j]? = some first ∧
      (ofRules ⟨rules, "none"⟩).recognize text = first.intent ∧
      (build rules "none").recognize text = first.intent := by
  intro rule rules text
  have place : rules[1]? = some rule := rfl
  have listed : "ΠΡΟΣ" ∈ rule.keywords := by decide
  have stands : text.toList = "Hello, ".toList ++ "ΠΡΟΣ".toList ++ " ΤΑ ΠΑΝΩ".toList := by decide
  have kept : Text.KeepsSigmas "Hello, ".toList "ΠΡΟΣ".toList " ΤΑ ΠΑΝΩ".toList := by
    apply (Text.keepsSigmas_iff _ _ _).mpr
    decide +kernel
  exact ⟨⟨place, listed, stands, kept⟩, recognize_of_keyword place listed stands kept "none"⟩

/-- A keyword that stands in the text and is missed: its sigma ends a word in the keyword
and not in the text. -/
theorem not_recognize_of_infix :
    let rules : List KeywordRule := [⟨"direct", ["ΠΡΟΣ"]⟩]
    let rule : KeywordRule := ⟨"direct", ["ΠΡΟΣ"]⟩
    rules[0]? = some rule ∧ "ΠΡΟΣ" ∈ rule.keywords ∧
      "ΠΡΟΣ".toList <:+: "ΠΡΟΣΟΧΗ".toList ∧
      (build rules "none").recognize "ΠΡΟΣΟΧΗ" = "none" ∧
      ¬ ∃ j ≤ 0, ∃ first, rules[j]? = some first ∧
        (ofRules ⟨rules, "none"⟩).recognize "ΠΡΟΣΟΧΗ" = first.intent := by
  intro rules rule
  have missed : (ofRules ⟨rules, "none"⟩).recognize "ΠΡΟΣΟΧΗ" = "none" := by decide +kernel
  refine ⟨rfl, by decide, ⟨[], "ΟΧΗ".toList, rfl⟩, by rw [build_eq_ofRules, missed], ?_⟩
  rintro ⟨j, within, first, at_j, answer⟩
  obtain rfl : j = 0 := Nat.le_zero.mp within
  cases at_j
  rw [missed] at answer
  revert answer
  decide

end Dialogue.KeywordClassifier
