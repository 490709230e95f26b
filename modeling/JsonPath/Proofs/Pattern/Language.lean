import JsonPath.Pattern
import Mathlib.Computability.Language

namespace JsonPath

def Letter (holds : Char → Prop) : Language Char := {w | ∃ c, holds c ∧ w = [c]}

theorem letter_congr {P Q : Char → Prop} (same : ∀ c, P c ↔ Q c) : Letter P = Letter Q := by
  ext w
  exact exists_congr fun c => and_congr_left fun _ => same c

theorem letter_eq (d : Char) : Letter (· = d) = {[d]} := by
  ext w
  constructor
  · rintro ⟨c, rfl, same⟩
    exact same
  · intro same
    exact ⟨d, rfl, same⟩

def Repeats (l : Language Char) (low : Nat) (high? : Option Nat) : Language Char :=
  {w | ∃ n, low ≤ n ∧ (∀ high ∈ high?, n ≤ high) ∧ w ∈ l ^ n}

namespace Pattern

/-- The texts that belong to a pattern, as RFC 9485 has it. -/
def language : Pattern → Language Char
  | empty => 1
  | char c _ => {[c]}
  | dot => Letter fun c => c ≠ '\n' ∧ c ≠ '\r'
  | set false items => Letter fun c => ∃ item ∈ items, item.holds c
  | set true items => Letter fun c => ∀ item ∈ items, ¬ item.holds c
  | category negated name => Letter fun c => inCategory name c = !negated
  | group p => p.language
  | quantified p q => Repeats p.language q.low q.high?
  | sequence p ps => p.language * ps.language
  | alternatives p ps => p.language + ps.language

end Pattern

end JsonPath
