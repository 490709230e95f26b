import JsonPath.Proofs.Grammar.Completeness
import JsonPath.Proofs.Grammar.Nesting
import JsonPath.Proofs.Grammar.Soundness
import JsonPath.Proofs.Grammar.Unambiguous
import JsonPath.Proofs.Token.Stream

namespace JsonPath

namespace Grammar

theorem ne_eof_of_reads {α : Type} {read : TokenKind → Option α} {k : TokenKind} {v : α}
    (reads : read k = some v) (never : read .eof = none) : k ≠ .eof := by
  rintro rfl
  rw [never] at reads
  contradiction

theorem Leaf.ne_eof {α : Type} {read : TokenKind → Option α} (l : Leaf read)
    (never : read .eof = none) : l.token.kind ≠ .eof :=
  ne_eof_of_reads l.reads never

theorem optionalTokens_ne_eof (n? : Option (Leaf integer?)) :
    ∀ u ∈ optionalTokens n?, u.kind ≠ .eof := by
  cases n? with
  | none => simp [optionalTokens]
  | some n => simpa [optionalTokens] using n.ne_eof rfl

theorem SliceForm.ne_eof (form : SliceForm) : ∀ u ∈ form.tokens, u.kind ≠ .eof := by
  obtain ⟨start, colon, stop, step⟩ := form
  have second : ∀ u ∈ stepTokens step, u.kind ≠ .eof := by
    cases step with
    | none => simp [stepTokens]
    | some step => simpa [stepTokens, step.1.kind] using optionalTokens_ne_eof step.2
  intro u member
  simp only [tokens, List.mem_append, List.mem_cons] at member
  rcases member with member | rfl | member | member
  · exact optionalTokens_ne_eof start u member
  · simp [colon.kind]
  · exact optionalTokens_ne_eof stop u member
  · exact second u member

theorem Derivation.ne_eof {s : Symbol} (t : Derivation s) : ∀ u ∈ t.tokens, u.kind ≠ .eof := by
  have literal (l : Literal) := ne_eof_of_reads l.reads rfl
  have operator (o : ComparisonOp) := ne_eof_of_reads o.reads rfl
  induction t with
  | sliceSelector form => exact form.ne_eof
  | _ => grind

end Grammar

namespace Query

open Grammar

def beforeEnd (ts : List Token) : List Token := ts.takeWhile (·.kind ≠ .eof)

theorem beforeEnd_append {body rest : List Token} (inside : ∀ t ∈ body, t.kind ≠ .eof)
    (ends : ∀ u ∈ rest.head?, u.kind = .eof) : beforeEnd (body ++ rest) = body := by
  rw [beforeEnd, List.takeWhile_append_of_pos (by simpa using inside)]
  cases rest with
  | nil => simp
  | cons u us => simp [ends u (by simp)]

theorem ofTokens_eq_ok_iff {text : List Char} {ts : List Token} (scanned : Token.scan text = .ok ts)
    {q : Query} :
    ofTokens ts = .ok q ↔ ∃ t : Derivation .query, t.tokens = beforeEnd ts ∧ t.meaning? = some q := by
  obtain ⟨body, last, rfl, inside, ends⟩ := Token.scan_eq_append scanned
  constructor
  · intro run
    obtain ⟨t, rest, meaning, same, first⟩ := query_sound run
    rw [same]
    exact ⟨t, (beforeEnd_append t.ne_eof first).symm, meaning⟩
  · rintro ⟨t, tokens, meaning⟩
    rw [beforeEnd_append inside (by simp [ends])] at tokens
    rw [← tokens]
    exact query_complete (by simp) meaning ends

/-- Where the tokens of a text nest within the limit, the text is parsed exactly if a derivation of
those tokens passes the static checks, as what that one derivation stands for. -/
theorem parse_eq_ok_iff_derivation {text : String} {limit : Int} {ts : List Token}
    (scanned : Token.scan text.toList = .ok ts) (within : NestsWithin limit ts) :
    (∀ q, parse text limit = .ok q ↔
      ∃ t : Derivation .query, t.tokens = beforeEnd ts ∧ t.meaning? = some q) ∧
    ∀ t t' : Derivation .query, t.tokens = t'.tokens → t = t' := by
  have shallow := checkNesting_eq_ok_iff_nestsWithin.mpr within
  refine ⟨fun q => ?_, fun t t' same => Derivation.eq_of_tokens_eq same⟩
  rw [← ofTokens_eq_ok_iff scanned]
  simp [parse, scanned, shallow, bind, Except.bind]

theorem parse_eq_ok_iff_derivation_filter :
    ∃ ts, Token.scan "$[?@.a||!(@.b<1&&count(@..*)>2)]".toList = .ok ts ∧ NestsWithin 3 ts ∧
      (∀ q, parse "$[?@.a||!(@.b<1&&count(@..*)>2)]" 3 = .ok q ↔
        ∃ t : Derivation .query, t.tokens = beforeEnd ts ∧ t.meaning? = some q) ∧
      ∀ t t' : Derivation .query, t.tokens = t'.tokens → t = t' := by
  have scanned : ∃ ts, Token.scan "$[?@.a||!(@.b<1&&count(@..*)>2)]".toList = .ok ts ∧
      checkNesting 3 0 ts = .ok () := ⟨_, by rfl, by rfl⟩
  obtain ⟨ts, scanned, shallow⟩ := scanned
  have within := checkNesting_eq_ok_iff_nestsWithin.mp shallow
  exact ⟨ts, scanned, within, parse_eq_ok_iff_derivation scanned within⟩

end Query

end JsonPath
