import JsonPath.Proofs.Grammar.Follow
import JsonPath.Proofs.Grammar.Nesting
import JsonPath.Proofs.Grammar.Part

namespace JsonPath

def TokenKind.opened : TokenKind → Int
  | .lparen | .lbracket => 1
  | .rparen | .rbracket => -1
  | _ => 0

namespace Grammar

open Query

@[simp]
theorem openCount_nil : openCount [] = 0 := rfl

theorem openCount_cons_opened (t : Token) (ts : List Token) :
    openCount (t :: ts) = t.kind.opened + openCount ts := by
  rw [openCount_cons]
  congr 1
  unfold TokenKind.opened
  split <;> simp_all [openCount]

@[simp]
theorem opened_mark {k : TokenKind} (m : Mark k) : m.token.kind.opened = k.opened := by
  rw [m.kind]

theorem opened_of_reads {α : Type} {read : TokenKind → Option α} {k : TokenKind} {v : α}
    (reads : read k = some v)
    (never : ∀ k ∈ [TokenKind.lparen, .lbracket, .rparen, .rbracket], read k = none) :
    k.opened = 0 := by
  have other (k' : TokenKind) (bracket : k' ∈ [TokenKind.lparen, .lbracket, .rparen, .rbracket]) :
      k ≠ k' := by
    intro kind
    rw [kind, never k' bracket] at reads
    contradiction
  unfold TokenKind.opened
  split <;> simp_all

theorem opened_anchor (l : Leaf anchor?) : l.token.kind.opened = 0 :=
  opened_of_reads l.reads (by simp [anchor?])

theorem opened_literal (l : Literal) : l.token.kind.opened = 0 :=
  opened_of_reads l.reads (by simp [Parser.literal?])

theorem opened_comparison (o : ComparisonOp) : o.token.kind.opened = 0 :=
  opened_of_reads o.reads (by simp [Parser.comparison?])

theorem openCount_optionalTokens (n? : Option (Leaf integer?)) : openCount (optionalTokens n?) = 0 := by
  cases n? with
  | none => rfl
  | some n =>
    rw [optionalTokens, openCount_cons_opened, integer_kind]
    rfl

theorem SliceForm.openCount_tokens (form : SliceForm) : openCount form.tokens = 0 := by
  obtain ⟨start, colon, stop, step⟩ := form
  have second : openCount (stepTokens step) = 0 := by
    cases step with
    | none => rfl
    | some step =>
      rw [stepTokens, openCount_cons_opened, openCount_optionalTokens, opened_mark]
      rfl
  rw [tokens, openCount_append, openCount_cons_opened, openCount_append, openCount_optionalTokens,
    openCount_optionalTokens, opened_mark, second]
  rfl

namespace Derivation

theorem openCount_tokens {s : Symbol} (t : Derivation s) : openCount t.tokens = 0 := by
  induction t with
  | sliceSelector form => exact form.openCount_tokens
  | _ =>
    simp_all only [tokens, openCount_append, openCount_cons_opened, openCount_nil, opened_mark,
      opened_anchor, opened_literal, opened_comparison, name_kind, string_kind, integer_kind, Int.add_zero, Int.zero_add] <;> rfl

@[simp]
def around : {s : Symbol} → Derivation s → Nat
  | _, bracketedSelection _ _ _ => 1
  | _, parenExpr _ _ _ => 1
  | _, call _ _ _ _ => 1
  | _, _ => 0

theorem nestsWithin_inside {limit : Nat} {left : Token} {inner rest : List Token}
    (opens : left.kind = .lparen ∨ left.kind = .lbracket)
    (within : NestsWithin limit (left :: (inner ++ rest))) :
    ∃ limit' : Nat, limit = limit' + 1 ∧ NestsWithin limit' inner := by
  have opened : openCount [left] = 1 := by
    rcases opens with kind | kind <;> simp [openCount, kind]
  have room := within [] left _ rfl opens
  rw [List.nil_append, opened] at room
  refine ⟨limit - 1, by omega, fun before t after same opens' => ?_⟩
  have bound := within (left :: before) t (after ++ rest) (by simp [same]) opens'
  rw [List.cons_append, openCount_cons, opened] at bound
  omega

theorem nestsWithin_parts {s : Symbol} (t : Derivation s) {limit : Nat}
    (within : NestsWithin limit t.tokens) :
    ∃ limit' : Nat, limit = limit' + t.around ∧ ∀ x ∈ t.parts, NestsWithin limit' x.2.tokens := by
  cases t with
  | bracketedSelection left ss right =>
    simpa [around] using nestsWithin_inside (.inr left.kind) within
  | parenExpr left c right =>
    simpa [around] using nestsWithin_inside (.inl left.kind) within
  | call name left as right =>
    have behind : NestsWithin limit (left.token :: (as.tokens ++ [right.token])) := by
      rw [tokens, nestsWithin_iff, nestsWithinFrom_cons_iff, openCount_cons_opened, name_kind] at within
      exact nestsWithin_iff.mpr within.2
    simpa [around] using nestsWithin_inside (.inl left.kind) behind
  | comparison | filterQuery =>
    simp_all [around, nestsWithin_iff, nestsWithinFrom_append_iff, nestsWithinFrom_cons_iff,
      openCount_cons_opened, openCount_tokens, opened_anchor, opened_comparison]
  | _ =>
    simp_all [around, nestsWithin_iff, nestsWithinFrom_append_iff, nestsWithinFrom_cons_iff,
      openCount_cons_opened, openCount_tokens, TokenKind.opened, Mark.kind]

end Derivation

end Grammar

end JsonPath
