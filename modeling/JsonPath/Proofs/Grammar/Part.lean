import JsonPath.Proofs.Grammar.Meaning
import Mathlib.Logic.Relation

namespace JsonPath

namespace Grammar

namespace Derivation

@[simp]
def parts : {s : Symbol} → Derivation s → List (Sigma Derivation)
  | _, query _ ss => [⟨_, ss⟩]
  | _, moreSegments s ss => [⟨_, s⟩, ⟨_, ss⟩]
  | _, childBracketed b => [⟨_, b⟩]
  | _, descendantBracketed _ b => [⟨_, b⟩]
  | _, bracketedSelection _ ss _ => [⟨_, ss⟩]
  | _, lastSelector s => [⟨_, s⟩]
  | _, moreSelectors s _ ss => [⟨_, s⟩, ⟨_, ss⟩]
  | _, filterSelector _ c => [⟨_, c⟩]
  | _, logicalExpr cs => [⟨_, cs⟩]
  | _, lastDisjunct c => [⟨_, c⟩]
  | _, moreDisjuncts c _ cs => [⟨_, c⟩, ⟨_, cs⟩]
  | _, logicalAnd cs => [⟨_, cs⟩]
  | _, lastConjunct c => [⟨_, c⟩]
  | _, moreConjuncts c _ cs => [⟨_, c⟩, ⟨_, cs⟩]
  | _, paren p => [⟨_, p⟩]
  | _, notParen _ p => [⟨_, p⟩]
  | _, comparison left _ right => [⟨_, left⟩, ⟨_, right⟩]
  | _, test t => [⟨_, t⟩]
  | _, notTest _ t => [⟨_, t⟩]
  | _, parenExpr _ c _ => [⟨_, c⟩]
  | _, queryTest q => [⟨_, q⟩]
  | _, callTest c => [⟨_, c⟩]
  | _, queryComparable q => [⟨_, q⟩]
  | _, callComparable c => [⟨_, c⟩]
  | _, filterQuery _ ss => [⟨_, ss⟩]
  | _, call _ _ as _ => [⟨_, as⟩]
  | _, lastArgument a => [⟨_, a⟩]
  | _, moreArguments a _ as => [⟨_, a⟩, ⟨_, as⟩]
  | _, logicalArgument c => [⟨_, c⟩]
  | _, noSegment => []
  | _, childName _ _ => []
  | _, childWildcard _ _ => []
  | _, descendantName _ _ => []
  | _, descendantWildcard _ _ => []
  | _, nameSelector _ => []
  | _, wildcardSelector _ => []
  | _, indexSelector _ => []
  | _, sliceSelector _ => []
  | _, literalComparable _ => []
  | _, emptyCall _ _ _ => []
  | _, literalArgument _ => []

theorem sizeOf_part {s : Symbol} (t : Derivation s) : ∀ x ∈ t.parts, sizeOf x.2 < sizeOf t := by
  cases t <;> simp <;> omega

def Contains {s s' : Symbol} (t : Derivation s) (u : Derivation s') : Prop :=
  Relation.ReflTransGen (fun x y : Sigma Derivation => y ∈ x.2.parts) ⟨s, t⟩ ⟨s', u⟩

theorem exists_meaning?_part {s : Symbol} (t : Derivation s) {m : Meaning s}
    (meaning : t.meaning? = some m) : ∀ x ∈ t.parts, ∃ m', x.2.meaning? = some m' := by
  cases t with
  | moreSegments | moreSelectors | moreDisjuncts | moreConjuncts | moreArguments | comparison =>
    simp only [meaning?, Option.bind_eq_bind, Option.bind_eq_some_iff, Option.filter_eq_some_iff]
      at meaning
    simp only [parts, List.forall_mem_cons, List.not_mem_nil, false_imp_iff, implies_true, and_true]
    grind
  | _ => simp_all [Option.bind_eq_some_iff, Option.filter_eq_some_iff] <;> grind

theorem Contains.exists_meaning? {s s' : Symbol} {t : Derivation s} {u : Derivation s'}
    (contains : t.Contains u) {m : Meaning s} (meaning : t.meaning? = some m) :
    ∃ m', u.meaning? = some m' := by
  have whole (x : Sigma Derivation)
      (below : Relation.ReflTransGen (fun x y : Sigma Derivation => y ∈ x.2.parts) ⟨s, t⟩ x) :
      ∃ m', x.2.meaning? = some m' := by
    induction below with
    | refl => exact ⟨m, meaning⟩
    | tail _ part above =>
      obtain ⟨_, here⟩ := above
      exact exists_meaning?_part _ here _ part
  exact whole ⟨s', u⟩ contains

end Derivation

end Grammar

end JsonPath
