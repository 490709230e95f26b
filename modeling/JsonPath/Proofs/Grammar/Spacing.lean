import JsonPath.Proofs.Grammar.Parse
import JsonPath.Proofs.Grammar.Relocated
import JsonPath.Proofs.Token.Spacing

namespace JsonPath

namespace Token

open Grammar

def Called (k k' : TokenKind) : Prop := (∃ name, k = .name name) ∧ k' = .lparen

/-- The same tokens, of which a name and the parenthesis after it stand together in both or in neither. -/
inductive Alike : Option TokenKind → List Piece → List Piece → Prop
  | nil {before : Option TokenKind} : Alike before [] []
  | cons {before : Option TokenKind} {gap gap' text : List Char} {kind : TokenKind} {ps ps' : List Piece}
      (together : (∃ k ∈ before, Called k kind) → (gap = [] ↔ gap' = []))
      (others : Alike (some kind) ps ps') :
      Alike before (⟨gap, kind, text⟩ :: ps) (⟨gap', kind, text⟩ :: ps')

theorem Respaced.alike {before : Option TokenKind} {ps ps' : List Piece}
    (spaced : Respaced Called before ps ps') : Alike before ps ps' := by
  induction spaced with
  | nil => exact .nil
  | cons _ kept joined _ ih =>
    refine .cons (fun called => ⟨fun noGap => joined noGap called, fun noGap => ?_⟩) ih
    by_contra present
    exact kept present noGap

namespace Alike

variable {before : Option TokenKind} {ps ps' : List Piece} {offset offset' : Nat} {move : Nat → Nat}

theorem symm (alike : Alike before ps ps') : Alike before ps' ps := by
  induction alike with
  | nil => exact .nil
  | cons together _ ih => exact .cons (fun called => (together called).symm) ih

theorem exists_move (alike : Alike before ps ps') (offset' : Nat)
    (distinct : (placed offset ps).Pairwise fun t u => t.offset ≠ u.offset) :
    ∃ move, placed offset' ps' = (placed offset ps).map (·.relocate move) := by
  induction alike generalizing offset offset' with
  | nil => exact ⟨id, rfl⟩
  | @cons before gap gap' text kind ps ps' together others ih =>
    obtain ⟨apart, later⟩ := List.pairwise_cons.mp distinct
    obtain ⟨move, moved⟩ := ih (offset' + gap'.length + text.length) later
    refine ⟨Function.update move (offset + gap.length) (offset' + gap'.length), ?_⟩
    have same : ∀ u ∈ placed (offset + gap.length + text.length) ps, u.relocate move =
        u.relocate (Function.update move (offset + gap.length) (offset' + gap'.length)) := by
      intro u member
      have other : u.offset ≠ offset + gap.length := (apart u member).symm
      simp [relocate, Function.update_of_ne other]
    rw [placed, placed, List.map_cons, moved, List.map_congr_left same]
    simp [relocate]

theorem keepsCalls (alike : Alike before ps ps')
    (moved : placed offset' ps' = (placed offset ps).map (·.relocate move)) :
    KeepsCalls move (placed offset ps) := by
  induction alike generalizing offset offset' with
  | nil => exact .nil
  | @cons before gap gap' text kind ps ps' _ others ih =>
    obtain ⟨first, later⟩ := List.cons.inj moved
    have tail := ih later
    cases others with
    | nil => exact .singleton _
    | @cons _ gap₂ gap₂' text₂ kind₂ ps ps' together others =>
      obtain ⟨second, -⟩ := List.cons.inj later
      refine List.isChain_cons_cons.mpr ⟨fun name left => ?_, tail⟩
      have place : offset' + gap'.length = move (offset + gap.length) := congrArg Token.offset first
      have place₂ : offset' + gap'.length + text.length + gap₂'.length =
        move (offset + gap.length + text.length + gap₂.length) := congrArg Token.offset second
      have both : gap₂ = [] ↔ gap₂' = [] := together ⟨_, rfl, name, left⟩
      rw [← List.length_eq_zero_iff, ← List.length_eq_zero_iff] at both
      simp only [stop, ← place, ← place₂]
      omega

end Alike

end Token

namespace Query

open Grammar Token

theorem beforeEnd_relocate (move : Nat → Nat) (ts : List Token) :
    beforeEnd (ts.map (·.relocate move)) = (beforeEnd ts).map (·.relocate move) := by
  simp [beforeEnd, List.takeWhile_map, Function.comp_def, Token.relocate]

theorem checkNesting_relocate (move : Nat → Nat) (ts : List Token) (limit depth : Int) :
    checkNesting limit depth (ts.map (·.relocate move)) = .ok () ↔ checkNesting limit depth ts = .ok () := by
  induction ts generalizing depth with
  | nil => rfl
  | cons t ts ih =>
    have kind : (t.relocate move).kind = t.kind := rfl
    rw [List.map_cons, checkNesting, checkNesting, kind]
    split
    case h_1 | h_2 =>
      split
      · simp [Parser.syntaxError]
      · exact ih _
    all_goals exact ih _

variable {text text' : String} {ps ps' : List Piece}

theorem parse_of_alike (scanned : Token.scan text.toList = .ok (placed 0 ps))
    (scanned' : Token.scan text'.toList = .ok (placed 0 ps')) (alike : Alike none ps ps') {limit : Int}
    {q : Query} (run : parse text limit = .ok q) : parse text' limit = .ok q := by
  have distinct := (scan_tiling scanned).increasing.imp fun less => Nat.ne_of_lt less
  obtain ⟨move, moved⟩ := alike.exists_move 0 distinct
  simp only [parse, scanned, Except.bind_eq_ok] at run
  obtain ⟨_, shallow, run⟩ := run
  obtain ⟨t, tokens, meaning⟩ := (ofTokens_eq_ok_iff scanned).mp run
  have keeps : KeepsCalls move t.tokens := by
    have split : t.tokens ++ (placed 0 ps).dropWhile (·.kind ≠ .eof) = placed 0 ps := by
      rw [tokens]
      exact List.takeWhile_append_dropWhile
    have whole := alike.keepsCalls moved
    rw [← split] at whole
    exact whole.left_of_append
  have tokens' : (t.relocate move).tokens = beforeEnd (placed 0 ps') := by
    rw [t.tokens_relocate, tokens, moved, beforeEnd_relocate]
  have meaning' : (t.relocate move).meaning? = some q := by
    rw [t.meaning?_relocate keeps, meaning]
  have run' : ofTokens (placed 0 ps') = .ok q :=
    (ofTokens_eq_ok_iff scanned').mpr ⟨_, tokens', meaning'⟩
  have shallow' : checkNesting limit 0 (placed 0 ps') = .ok () := by
    rw [moved]
    exact (checkNesting_relocate move _ limit 0).mpr shallow
  simp [parse, scanned', shallow', run', bind, Except.bind]

/-- Where other blanks stand between the tokens of a text than before, the same tokens are scanned, and the
text is parsed as before unless a name and the parenthesis of its call have come apart. -/
theorem blanks_insignificant {ts : List Token} (scanned : Token.scan text.toList = .ok ts) :
    (∃ ps, Parts ps text.toList ts) ∧ ∀ ps ps', Parts ps text.toList ts → Respaced Dotted none ps ps' →
      ∃ ts', Token.scan (written ps') = .ok ts' ∧ ts'.map (·.kind) = ts.map (·.kind) ∧
        ts'.map (·.text) = ts.map (·.text) ∧ (Respaced Called none ps ps' → ∀ limit q,
          parse text limit = .ok q ↔ parse (String.ofList (written ps')) limit = .ok q) := by
  refine ⟨?_, fun ps ps' parts spaced => ?_⟩
  · obtain ⟨ps, whole, tokens, -⟩ := (scan_tiling scanned).restored
    exact ⟨ps, whole, tokens⟩
  · have again := scan_respaced scanned parts spaced
    obtain ⟨-, rfl⟩ := parts
    refine ⟨_, again, spaced.map_placed (fun kind _ => kind) 0 0, spaced.map_placed (fun _ text => text) 0 0,
      fun called limit q => ?_⟩
    have again : Token.scan (String.ofList (written ps')).toList = .ok (placed 0 ps') := by
      rwa [String.toList_ofList]
    exact ⟨parse_of_alike scanned again called.alike, parse_of_alike again scanned called.alike.symm⟩

theorem blanks_insignificant_call :
    ∃ ts ts', Token.scan "$[?count(@.a)>1]".toList = .ok ts ∧
      Token.scan "\t$[ ?count( @.a )>\n1]".toList = .ok ts' ∧ ts'.map (·.kind) = ts.map (·.kind) ∧
      ∀ limit q, parse "$[?count(@.a)>1]" limit = .ok q ↔
        parse "\t$[ ?count( @.a )>\n1]" limit = .ok q := by
  let ps (a b c d e : List Char) : List Piece :=
    [⟨a, .root, ['$']⟩, ⟨[], .lbracket, ['[']⟩, ⟨b, .question, ['?']⟩,
      ⟨[], .name "count", ['c', 'o', 'u', 'n', 't']⟩, ⟨[], .lparen, ['(']⟩, ⟨c, .current, ['@']⟩,
      ⟨[], .dot, ['.']⟩, ⟨[], .name "a", ['a']⟩, ⟨d, .rparen, [')']⟩, ⟨[], .gt, ['>']⟩,
      ⟨e, .number (.int 1), ['1']⟩, ⟨[], .rbracket, [']']⟩, ⟨[], .eof, []⟩]
  have scanned : Token.scan "$[?count(@.a)>1]".toList = .ok (placed 0 (ps [] [] [] [] [])) := by rfl
  have parts : Parts (ps [] [] [] [] []) "$[?count(@.a)>1]".toList (placed 0 (ps [] [] [] [] [])) :=
    ⟨by rfl, rfl⟩
  have text : written (ps ['\t'] [' '] [' '] [' '] ['\n']) = "\t$[ ?count( @.a )>\n1]".toList := by rfl
  have spaced {tight : TokenKind → TokenKind → Prop} (loose : ¬ tight .lbracket .question ∧
      ¬ tight .lparen .current ∧ ¬ tight (.name "a") .rparen ∧ ¬ tight .gt (.number (.int 1))) :
      Respaced tight none (ps [] [] [] [] []) (ps ['\t'] [' '] [' '] [' '] ['\n']) := by
    repeat' constructor
    all_goals simp_all
  obtain ⟨ts', scanned', kinds, -, parsed⟩ := (blanks_insignificant scanned).2 _ _ parts
    (spaced (by simp [Dotted]))
  rw [text] at scanned'
  rw [text, String.ofList_toList] at parsed
  exact ⟨_, ts', scanned, scanned', kinds, parsed (spaced (by simp [Called]))⟩

end Query

end JsonPath
