import JsonPath.Proofs.Grammar.Meaning
import JsonPath.Proofs.Outcome

namespace JsonPath

namespace Grammar

open Query.Parser

variable {α : Type}

@[simp]
theorem unexpected_ne_ok (ts : List Token) (a : α) : unexpected ts ≠ .ok a := by
  cases ts with
  | nil => simp [unexpected, syntaxError]
  | cons t ts => simp only [unexpected, syntaxError]; split <;> simp

@[simp]
theorem typeError_ne_ok (fault : TypeFault) (a : α) : typeError fault ≠ .ok a := by
  simp [typeError]

@[simp]
theorem syntaxError_ne_ok (fault : SyntaxFault) (a : α) : syntaxError fault ≠ .ok a := by
  simp [syntaxError]

theorem follow_eq_ok_iff {p : TokenKind → Bool} {ts : List Token} {u : Unit} :
    follow p ts = .ok u ↔ ∃ t rest, ts = t :: rest ∧ p t.kind := by
  cases ts with
  | nil => simp [follow]
  | cons t ts => by_cases ends : p t.kind <;> simp [follow, ends]

theorem checkInteger_eq_ok_iff {n m : Int} {offset : Nat} :
    checkInteger n offset = .ok m ↔ isIndex n ∧ m = n := by
  unfold checkInteger maxIndex isIndex
  split
  · rename_i range
    simp only [range, and_self, decide_true, true_and, Except.ok.injEq]
    exact eq_comm
  · rename_i range
    simp only [range, decide_false, Bool.false_eq_true, false_and, syntaxError_ne_ok]

def placed : Option (Leaf integer?) → Option (Int × Nat) := Option.map fun n => (n.value, n.token.offset)

theorem checkBound_eq_ok_iff {n? : Option (Leaf integer?)} {bound : Option Int} :
    checkBound (placed n?) = .ok bound ↔ bound? n? = some bound := by
  cases n? with
  | none => simp [checkBound, placed, bound?]
  | some n =>
    by_cases small : isIndex n.value <;>
      simp [checkBound, placed, bound?, checkInteger_eq_ok_iff, small, Except.map_eq_ok]

theorem checkLogical_eq_ok_iff {c : Condition} {u : Unit} :
    checkLogical c = .ok u ↔ c.isLogical := by
  cases c with
  | call f as => by_cases value : f.result = .value <;> simp [checkLogical, Condition.isLogical, value]
  | _ => simp [checkLogical, Condition.isLogical]

theorem checkAllLogical_eq_ok_iff {cs : List Condition} {u : Unit} :
    checkAllLogical cs = .ok u ↔ cs.all (·.isLogical) := by
  induction cs with
  | nil => simp [checkAllLogical]
  | cons c cs ih =>
    simp only [checkAllLogical, Except.bind_eq_ok, checkLogical_eq_ok_iff, ih, List.all_cons,
      Bool.and_eq_true, exists_const]

theorem checkComparable_eq_ok_iff {offset : Nat} {o : Operand} {u : Unit} :
    checkComparable offset o = .ok u ↔ o.isComparable := by
  cases o with
  | literal v => simp [checkComparable, Operand.isComparable]
  | query q => by_cases single : q.isSingular <;> simp [checkComparable, Operand.isComparable, single]
  | call f as =>
    by_cases value : f.result = .value <;> simp [checkComparable, Operand.isComparable, value]

theorem fitArgument_eq_ok_iff {type : DeclaredType} {a b : Argument} (written : a.isWritten) :
    fitArgument type a = .ok b ↔ Argument.passed? type a = some b := by
  cases a with
  | literal v => cases type <;> simp [fitArgument, Argument.passed?]
  | query q => simp [Argument.isWritten] at written
  | condition c =>
    cases c with
    | selects q =>
      cases type with
      | value => by_cases single : q.isSingular <;> simp [fitArgument, Argument.passed?, single]
      | nodes => simp [fitArgument, Argument.passed?]
      | logical => simp [fitArgument, Argument.passed?, conditionType, Condition.isLogical]
    | call f as =>
      cases type with
      | logical =>
        by_cases value : f.result = .value <;>
          simp [fitArgument, Argument.passed?, conditionType, Condition.isLogical, value]
      | value =>
        by_cases value : f.result = .value <;>
          simp [fitArgument, Argument.passed?, conditionType, value]
      | nodes =>
        by_cases nodes : f.result = .nodes <;>
          simp [fitArgument, Argument.passed?, conditionType, nodes]
    | _ => cases type <;> simp [fitArgument, Argument.passed?, conditionType, Condition.isLogical]

theorem fitArguments_eq_ok_iff {f : Function} {offset : Nat} {types : List DeclaredType}
    {as bs : List Argument} (written : ∀ a ∈ as, a.isWritten) (count : as.length = types.length)
    (place : Nat) :
    fitArguments f offset place types as = .ok bs ↔ Argument.allPassed? types as = some bs := by
  induction types generalizing as bs place with
  | nil =>
    obtain rfl : as = [] := List.length_eq_zero_iff.mp count
    simp [fitArguments, Argument.allPassed?, eq_comm]
  | cons type types ih =>
    cases as with
    | nil => simp at count
    | cons a as =>
      have first (b : Argument) : fitArgument type a = .ok b ↔ Argument.passed? type a = some b :=
        fitArgument_eq_ok_iff (written a (by simp))
      have rest (bs : List Argument) : fitArguments f offset (place + 1) types as = .ok bs ↔
          Argument.allPassed? types as = some bs :=
        ih (fun a member => written a (by simp [member])) (by simpa using count) (place + 1)
      cases fit : fitArgument type a with
      | error found =>
        have refused : Argument.passed? type a = none := by
          cases passed : Argument.passed? type a with
          | none => rfl
          | some b => simp [(first b).mpr passed] at fit
        simp [fitArguments, fit, Argument.allPassed?, refused]
      | ok b =>
        simp only [fitArguments, fit, Argument.allPassed?, (first b).mp fit, Except.bind_eq_ok,
          Option.bind_some, Option.map_eq_some_iff, rest]
        simp [pure, Except.pure]

theorem allPassed?_length {types : List DeclaredType} {as bs : List Argument}
    (passed : Argument.allPassed? types as = some bs) : as.length = types.length := by
  induction types generalizing as bs with
  | nil => cases as <;> simp_all [Argument.allPassed?]
  | cons type types ih =>
    cases as with
    | nil => simp [Argument.allPassed?] at passed
    | cons a as =>
      simp only [Argument.allPassed?, Option.bind_eq_some_iff, Option.map_eq_some_iff] at passed
      obtain ⟨b, -, bs, rest, -⟩ := passed
      simpa using ih rest

theorem functionArgument_isWritten {t : Derivation .functionArgument} {a : Argument}
    (meaning : t.meaning? = some a) : a.isWritten := by
  cases t with
  | literalArgument literal =>
    obtain rfl : Argument.literal literal.value = a := by simpa using meaning
    rfl
  | logicalArgument c =>
    simp only [Derivation.meaning?, Option.map_eq_some_iff] at meaning
    obtain ⟨c, -, rfl⟩ := meaning
    rfl

theorem arguments_isWritten : ∀ {t : Derivation .arguments} {as : List Argument},
    t.meaning? = some as → ∀ a ∈ as, a.isWritten
  | .lastArgument a, as, meaning => by
    simp only [Derivation.meaning?, Option.map_eq_some_iff] at meaning
    obtain ⟨b, meaning, rfl⟩ := meaning
    simpa using functionArgument_isWritten meaning
  | .moreArguments a _ bs, as, meaning => by
    simp only [Derivation.meaning?, Option.bind_eq_bind, Option.bind_eq_some_iff] at meaning
    obtain ⟨b, first, cs, more, meaning⟩ := meaning
    obtain rfl : b :: cs = as := by simpa using meaning
    simpa using ⟨functionArgument_isWritten first, arguments_isWritten more⟩

theorem checkCall_eq_ok_iff {name : Leaf name?} {left : Mark .lparen} {as : List Argument}
    {result : Function × List Argument} (written : ∀ a ∈ as, a.isWritten) :
    checkCall name.value name.token left.token as = .ok result ↔ call? name left as = some result := by
  by_cases adjacent : left.token.offset = name.token.stop
  · cases known : Function.ofName? name.value with
    | none => simp [checkCall, call?, adjacent, known]
    | some f =>
      by_cases count : as.length = f.arity
      · simp only [checkCall, call?, adjacent, known, count, ne_eq, not_true_eq_false, if_false,
          if_true, Except.bind_eq_ok, fitArguments_eq_ok_iff written count, Option.bind_some,
          Option.map_eq_some_iff]
        simp [pure, Except.pure]
      · have refused : Argument.allPassed? f.parameters as = none := by
          cases passed : Argument.allPassed? f.parameters as with
          | none => rfl
          | some bs => exact absurd (allPassed?_length passed) count
        simp [checkCall, call?, adjacent, known, count, refused]
  · simp [checkCall, call?, adjacent]

end Grammar

end JsonPath
