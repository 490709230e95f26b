import JsonPath.Proofs.Grammar.Follow
import JsonPath.Proofs.Grammar.Meaning
import Mathlib.Data.List.Chain

namespace JsonPath

def Token.relocate (move : Nat → Nat) (t : Token) : Token := ⟨t.kind, move t.offset, t.text⟩

namespace Grammar

variable (move : Nat → Nat)

def Leaf.relocate {α : Type} {read : TokenKind → Option α} (l : Leaf read) : Leaf read :=
  ⟨l.token.relocate move, l.value, l.reads⟩

section

variable {α : Type} {read : TokenKind → Option α} (l : Leaf read)

@[simp]
theorem Leaf.relocate_token : (l.relocate move).token = l.token.relocate move := rfl

@[simp]
theorem Leaf.relocate_value : (l.relocate move).value = l.value := rfl

end

namespace Literal

def relocate : Literal → Literal
  | string s => string (s.relocate move)
  | int n => int (n.relocate move)
  | number x => number (x.relocate move)
  | true mark => true (mark.relocate move)
  | false mark => false (mark.relocate move)
  | null mark => null (mark.relocate move)

@[simp]
theorem relocate_token (l : Literal) : (l.relocate move).token = l.token.relocate move := by
  cases l <;> rfl

@[simp]
theorem relocate_value (l : Literal) : (l.relocate move).value = l.value := by
  cases l <;> rfl

end Literal

namespace ComparisonOp

def relocate : ComparisonOp → ComparisonOp
  | eq mark => eq (mark.relocate move)
  | ne mark => ne (mark.relocate move)
  | lt mark => lt (mark.relocate move)
  | le mark => le (mark.relocate move)
  | gt mark => gt (mark.relocate move)
  | ge mark => ge (mark.relocate move)

@[simp]
theorem relocate_token (o : ComparisonOp) : (o.relocate move).token = o.token.relocate move := by
  cases o <;> rfl

@[simp]
theorem relocate_value (o : ComparisonOp) : (o.relocate move).value = o.value := by
  cases o <;> rfl

end ComparisonOp

def SliceForm.relocate (form : SliceForm) : SliceForm :=
  ⟨form.start.map (·.relocate move), form.colon.relocate move, form.stop.map (·.relocate move),
    form.step.map fun (colon, n?) => (colon.relocate move, n?.map (·.relocate move))⟩

@[simp]
def Derivation.relocate : {s : Symbol} → Derivation s → Derivation s
  | _, query root ss => query (root.relocate move) ss.relocate
  | _, noSegment => noSegment
  | _, moreSegments s ss => moreSegments s.relocate ss.relocate
  | _, childName dot name => childName (dot.relocate move) (name.relocate move)
  | _, childWildcard dot star => childWildcard (dot.relocate move) (star.relocate move)
  | _, childBracketed b => childBracketed b.relocate
  | _, descendantName dots name => descendantName (dots.relocate move) (name.relocate move)
  | _, descendantWildcard dots star => descendantWildcard (dots.relocate move) (star.relocate move)
  | _, descendantBracketed dots b => descendantBracketed (dots.relocate move) b.relocate
  | _, bracketedSelection left ss right =>
    bracketedSelection (left.relocate move) ss.relocate (right.relocate move)
  | _, lastSelector s => lastSelector s.relocate
  | _, moreSelectors s comma ss => moreSelectors s.relocate (comma.relocate move) ss.relocate
  | _, nameSelector name => nameSelector (name.relocate move)
  | _, wildcardSelector star => wildcardSelector (star.relocate move)
  | _, indexSelector index => indexSelector (index.relocate move)
  | _, sliceSelector form => sliceSelector (form.relocate move)
  | _, filterSelector question c => filterSelector (question.relocate move) c.relocate
  | _, logicalExpr cs => logicalExpr cs.relocate
  | _, lastDisjunct c => lastDisjunct c.relocate
  | _, moreDisjuncts c or cs => moreDisjuncts c.relocate (or.relocate move) cs.relocate
  | _, logicalAnd cs => logicalAnd cs.relocate
  | _, lastConjunct c => lastConjunct c.relocate
  | _, moreConjuncts c and cs => moreConjuncts c.relocate (and.relocate move) cs.relocate
  | _, paren p => paren p.relocate
  | _, notParen bang p => notParen (bang.relocate move) p.relocate
  | _, comparison left operator right =>
    comparison left.relocate (operator.relocate move) right.relocate
  | _, test t => test t.relocate
  | _, notTest bang t => notTest (bang.relocate move) t.relocate
  | _, parenExpr left c right => parenExpr (left.relocate move) c.relocate (right.relocate move)
  | _, queryTest q => queryTest q.relocate
  | _, callTest c => callTest c.relocate
  | _, literalComparable literal => literalComparable (literal.relocate move)
  | _, queryComparable q => queryComparable q.relocate
  | _, callComparable c => callComparable c.relocate
  | _, filterQuery anchor ss => filterQuery (anchor.relocate move) ss.relocate
  | _, emptyCall name left right =>
    emptyCall (name.relocate move) (left.relocate move) (right.relocate move)
  | _, call name left as right =>
    call (name.relocate move) (left.relocate move) as.relocate (right.relocate move)
  | _, lastArgument a => lastArgument a.relocate
  | _, moreArguments a comma as => moreArguments a.relocate (comma.relocate move) as.relocate
  | _, literalArgument literal => literalArgument (literal.relocate move)
  | _, logicalArgument c => logicalArgument c.relocate

theorem optionalTokens_relocate (n? : Option (Leaf integer?)) :
    optionalTokens (n?.map (·.relocate move)) = (optionalTokens n?).map (·.relocate move) := by
  cases n? <;> rfl

theorem SliceForm.tokens_relocate (form : SliceForm) :
    (form.relocate move).tokens = form.tokens.map (·.relocate move) := by
  obtain ⟨start, colon, stop, step⟩ := form
  cases step <;> simp [relocate, tokens, stepTokens, optionalTokens_relocate]

theorem Derivation.tokens_relocate {s : Symbol} (t : Derivation s) :
    (t.relocate move).tokens = t.tokens.map (·.relocate move) := by
  induction t with
  | sliceSelector form => exact form.tokens_relocate move
  | _ => simp_all

theorem bound?_relocate (n? : Option (Leaf integer?)) : bound? (n?.map (·.relocate move)) = bound? n? := by
  cases n? <;> rfl

theorem SliceForm.selector?_relocate (form : SliceForm) : (form.relocate move).selector? = form.selector? := by
  obtain ⟨start, colon, stop, step⟩ := form
  cases step <;> simp [selector?, relocate, bound?_relocate]

/-- Between a name and a parenthesis behind it there is as much room as before: none, or some. -/
def KeepsCalls (ts : List Token) : Prop :=
  ts.IsChain fun name left => (∃ n, name.kind = .name n) → left.kind = .lparen →
    (move left.offset = move name.offset + name.text.length ↔ left.offset = name.stop)

variable {move}

theorem call?_relocate {name : Leaf name?} {left : Mark .lparen} {rest : List Token}
    (keeps : KeepsCalls move (name.token :: left.token :: rest)) (as : List Argument) :
    call? (name.relocate move) (left.relocate move) as = call? name left as := by
  have first := (List.isChain_cons_cons.mp keeps).1 ⟨_, name_kind name⟩ left.kind
  have place : (left.relocate move).token.offset = (name.relocate move).token.stop ↔
      left.token.offset = name.token.stop := first
  simp only [call?, place, Leaf.relocate_value]

theorem Derivation.meaning?_relocate {s : Symbol} (t : Derivation s) (keeps : KeepsCalls move t.tokens) :
    (t.relocate move).meaning? = t.meaning? := by
  induction t with
  | indexSelector index => rfl
  | sliceSelector form => exact form.selector?_relocate move
  | emptyCall name left right => exact call?_relocate keeps []
  | call name left as right ih =>
    have inside : KeepsCalls move as.tokens := by
      have tail : KeepsCalls move (as.tokens ++ [right.token]) := keeps.tail.tail
      exact tail.left_of_append
    simp only [relocate, meaning?, ih inside, funext (call?_relocate keeps)]
  -- No other production looks at an offset, and its parts keep the calls of the whole.
  | _ => simp_all [KeepsCalls, List.isChain_append, List.isChain_cons]

end Grammar

end JsonPath
