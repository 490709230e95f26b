import JsonPath.Proofs.Token.NumberLiteral
import JsonPath.Proofs.Token.StringLiteral

namespace JsonPath

namespace Token

/-- A token with the gap in front of it. -/
structure Piece where
  gap : List Char
  kind : TokenKind
  text : List Char

def written : List Piece → List Char
  | [] => []
  | p :: ps => p.gap ++ (p.text ++ written ps)

def placed : Nat → List Piece → List Token
  | _, [] => []
  | offset, p :: ps =>
    ⟨p.kind, offset + p.gap.length, p.text⟩ :: placed (offset + p.gap.length + p.text.length) ps

namespace Scan

/-- A token is scanned from its text wherever a given character, or the end, is next. -/
def Reads (kind : TokenKind) (text : List Char) (next : Option Char) : Prop :=
  ∃ c tail, text = c :: tail ∧ isBlank c = false ∧ c ≠ '.' ∧ ∀ offset rest, rest.head? = next →
    lexeme offset c (tail ++ rest) = .ok ⟨kind, text, rest⟩

/-- The pieces of a whole text. Behind a dot, or two, comes what may with no gap. -/
inductive Laid : Option Bool → List Piece → Prop
  | ending {gap : List Char} (blank : ∀ c ∈ gap, isBlank c) : Laid none [⟨gap, .eof, []⟩]
  | token {gap text : List Char} {kind : TokenKind} {ps : List Piece} (blank : ∀ c ∈ gap, isBlank c)
      (reads : Reads kind text (written ps).head?) (others : Laid none ps) :
      Laid none (⟨gap, kind, text⟩ :: ps)
  | dot {gap : List Char} {ps : List Piece} (blank : ∀ c ∈ gap, isBlank c)
      (others : Laid (some false) ps) : Laid none (⟨gap, .dot, ['.']⟩ :: ps)
  | dotdot {gap : List Char} {ps : List Piece} (blank : ∀ c ∈ gap, isBlank c)
      (others : Laid (some true) ps) : Laid none (⟨gap, .dotdot, ['.', '.']⟩ :: ps)
  | wildcard {afterDescent : Bool} {ps : List Piece} (others : Laid none ps) :
      Laid (some afterDescent) (⟨[], .wildcard, ['*']⟩ :: ps)
  | name {afterDescent : Bool} {c : Char} {tail : List Char} {ps : List Piece} (first : isNameFirst c)
      (inside : ∀ d ∈ tail, isNameChar d) (ends : ∀ d ∈ (written ps).head?, isNameChar d = false)
      (others : Laid none ps) :
      Laid (some afterDescent) (⟨[], .name (String.ofList (c :: tail)), c :: tail⟩ :: ps)
  | bracket {ps : List Piece} (others : Laid none (⟨[], .lbracket, ['[']⟩ :: ps)) :
      Laid (some true) (⟨[], .lbracket, ['[']⟩ :: ps)

theorem isBlank_iff {c : Char} : isBlank c ↔ c = ' ' ∨ c = '\t' ∨ c = '\n' ∨ c = '\r' := by
  simp [isBlank, or_assoc]

theorem blank_separates {c : Char} (blank : isBlank c) :
    Numeral.Ends [c] ∧ isNameChar c = false ∧ c ≠ '=' := by
  rcases isBlank_iff.mp blank with rfl | rfl | rfl | rfl <;> simp [Numeral.Ends] <;> decide

theorem name_append {c : Char} {tail rest : List Char} (inside : ∀ d ∈ tail, isNameChar d)
    (ends : ∀ d ∈ rest.head?, isNameChar d = false) :
    name c (tail ++ rest) = ⟨String.ofList (c :: tail), c :: tail, rest⟩ := by
  have before : rest.takeWhile isNameChar = [] ∧ rest.dropWhile isNameChar = rest := by
    cases rest with
    | nil => simp
    | cons d rest => simp [ends d rfl]
  simp [name, List.span_eq_takeWhile_dropWhile, List.takeWhile_append_of_pos inside,
    List.dropWhile_append_of_pos inside, before]

theorem exists_name (c : Char) (text : List Char) : ∃ tail rest, text = tail ++ rest ∧
    (∀ d ∈ tail, isNameChar d) ∧ (∀ d ∈ rest.head?, isNameChar d = false) ∧
    name c text = ⟨String.ofList (c :: tail), c :: tail, rest⟩ := by
  have run := (Prod.eta (text.span isNameChar)).symm
  obtain ⟨split, inside⟩ := Numeral.span_eq run
  exact ⟨_, _, split, inside, Numeral.span_stops run, rfl⟩

def Similar (next next' : Option Char) : Prop := ∀ d ∈ next', isBlank d ∨ d ∈ next

theorem Similar.notNameChar {next next' : Option Char} (similar : Similar next next')
    (ends : ∀ d ∈ next, isNameChar d = false) : ∀ d ∈ next', isNameChar d = false := by
  intro d head
  rcases similar d head with blank | same
  · exact (blank_separates blank).2.1
  · exact ends d same

theorem operator_append {offset : Nat} {c : Char} {text : List Char} {l : Lexeme TokenKind}
    (run : operator offset c text = .ok l) : ∃ tail, l.text = c :: tail ∧
      ∀ place rest, Similar l.rest.head? rest.head? →
        operator place c (tail ++ rest) = .ok ⟨l.value, l.text, rest⟩ := by
  unfold operator at run
  split at run
  case h_10 =>
    split at run <;> simp at run
  case h_7 | h_8 | h_9 =>
    cases run
    refine ⟨[], rfl, fun place rest next => ?_⟩
    cases rest with
    | nil => rfl
    | cons d rest =>
      have other : d ≠ '=' := by
        rintro rfl
        rcases next '=' rfl with blank | same
        · contradiction
        · cases text with
          | nil => contradiction
          | cons e text =>
            cases same
            simp_all
      simp [operator, other]
  all_goals
    cases run
    exact ⟨_, rfl, fun place rest next => rfl⟩

theorem number_append {offset : Nat} {c : Char} {text : List Char} {l : Lexeme Number}
    (run : number offset (c :: text) = .ok l) : ∃ tail, l.text = c :: tail ∧
      ∀ place rest, Similar l.rest.head? rest.head? →
        number place (c :: (tail ++ rest)) = .ok ⟨l.value, l.text, rest⟩ := by
  obtain ⟨n, writes, covers, delimits, valued⟩ := number_eq_ok_iff.mp run
  obtain ⟨d, tail, cons⟩ := List.exists_cons_of_ne_nil writes.ne_nil
  obtain rfl : c = d := by
    rw [cons] at covers
    exact (List.cons.inj covers).1
  refine ⟨tail, cons, fun place rest next => ?_⟩
  have delimited : n.Delimits rest := by
    intro d head
    rcases next d head with blank | same
    · exact (blank_separates blank).1.delimits n d rfl
    · exact delimits d same
  exact number_eq_ok_iff.mpr ⟨n, writes, by simp [cons], delimited, valued⟩

/-- What follows a token matters to it by one character, which may as well be a blank. -/
theorem lexeme_append {offset : Nat} {c : Char} {text : List Char} {l : Lexeme TokenKind}
    (run : lexeme offset c text = .ok l) : ∃ tail, l.text = c :: tail ∧
      ∀ place rest, Similar l.rest.head? rest.head? →
        lexeme place c (tail ++ rest) = .ok ⟨l.value, l.text, rest⟩ := by
  unfold lexeme at run
  split at run
  · next kind single =>
    cases run
    exact ⟨[], rfl, fun place rest next => by simp [lexeme, single]⟩
  · next single =>
    split at run
    · next quote =>
      obtain ⟨inside, read, same⟩ := Except.bind_eq_ok.mp run
      cases same
      obtain ⟨inner, content, closed, -⟩ := content_sound read
      refine ⟨inside.text, rfl, fun place rest next => ?_⟩
      have again := content_complete quote content (place + 1) rest
      simp [lexeme, single, quote, closed, again, bind, Except.bind, pure, Except.pure]
    · next notQuote =>
      split at run
      · next begins =>
        obtain ⟨inside, read, same⟩ := Except.bind_eq_ok.mp run
        cases same
        obtain ⟨tail, cons, again⟩ := number_append read
        refine ⟨tail, cons, fun place rest next => ?_⟩
        simp [lexeme, single, notQuote, begins, again place rest next, bind, Except.bind, pure,
          Except.pure]
      · next notNumber =>
        split at run
        · next first =>
          obtain ⟨tail, after, -, inside, ends, same⟩ := exists_name c text
          rw [same] at run
          cases run
          refine ⟨tail, rfl, fun place rest next => ?_⟩
          have again := name_append (c := c) inside (next.notNameChar ends)
          simp [lexeme, single, notQuote, notNumber, first, again]
        · next notName =>
          obtain ⟨tail, cons, again⟩ := operator_append run
          refine ⟨tail, cons, fun place rest next => ?_⟩
          simp [lexeme, single, notQuote, notNumber, notName, again place rest next]

theorem lexeme_reads {offset : Nat} {c : Char} {text : List Char} {l : Lexeme TokenKind}
    (notBlank : isBlank c = false) (notDot : c ≠ '.') (run : lexeme offset c text = .ok l)
    {next : Option Char} (similar : Similar l.rest.head? next) :
    Reads l.value l.text next := by
  obtain ⟨tail, cons, again⟩ := lexeme_append run
  refine ⟨c, tail, cons, notBlank, notDot, fun place rest head => ?_⟩
  subst head
  exact again place rest similar

theorem Reads.exists_run {kind : TokenKind} {text : List Char} {next : Option Char}
    (reads : Reads kind text next) : ∃ c tail rest, isBlank c = false ∧ c ≠ '.' ∧ rest.head? = next ∧
      lexeme 0 c (tail ++ rest) = .ok ⟨kind, text, rest⟩ := by
  obtain ⟨c, tail, -, notBlank, notDot, run⟩ := reads
  have head : next.toList.head? = next := by cases next <;> rfl
  exact ⟨c, tail, next.toList, notBlank, notDot, head, run 0 next.toList head⟩

theorem Reads.similar {kind : TokenKind} {text : List Char} {next next' : Option Char}
    (reads : Reads kind text next) (similar : Similar next next') : Reads kind text next' := by
  obtain ⟨c, tail, rest, notBlank, notDot, rfl, run⟩ := reads.exists_run
  exact lexeme_reads notBlank notDot run similar

def resume : Option Bool → Nat → Nat → List Char → Except ScanError (List Token)
  | none, fuel, offset, text => scanFrom fuel offset text
  | some afterDescent, fuel, offset, text => do
    let (ts, rest) ← shorthand afterDescent offset text
    let more ← scanFrom fuel (offset + (ts.flatMap (·.text)).length) rest
    return ts ++ more

theorem scanFrom_of_notBlank {c : Char} (notBlank : isBlank c = false) (fuel offset : Nat) (text : List Char) :
    scanFrom (fuel + 1) offset (c :: text) = (do
      let (ts, rest) ← step offset c text
      let more ← scanFrom fuel (offset + (ts.flatMap (·.text)).length) rest
      return ts ++ more) := by
  simp [scanFrom, notBlank]

theorem scanFrom_eq_of_enough {fuel fuel' : Nat} {text : List Char} (enough : text.length ≤ fuel)
    (enough' : text.length ≤ fuel') (offset : Nat) :
    scanFrom fuel offset text = scanFrom fuel' offset text := by
  induction fuel generalizing fuel' text offset with
  | zero =>
    obtain rfl : text = [] := List.length_eq_zero_iff.mp (by omega)
    cases fuel' <;> rfl
  | succ fuel ih =>
    cases text with
    | nil => cases fuel' <;> rfl
    | cons c text =>
      obtain ⟨fuel', rfl⟩ := Nat.exists_eq_add_of_le' (Nat.le_trans (Nat.le_add_left 1 _) enough')
      have left := Nat.le_of_succ_le_succ enough
      have left' := Nat.le_of_succ_le_succ enough'
      by_cases blank : isBlank c
      · rw [scanFrom, scanFrom, if_pos blank, if_pos blank]
        exact ih left left' _
      · have notBlank : isBlank c = false := by simpa using blank
        rw [scanFrom_of_notBlank notBlank, scanFrom_of_notBlank notBlank]
        rcases first : step offset c text with e | ⟨ts, rest⟩
        · rfl
        · have shorter := step_shortens first
          have later := ih (Nat.le_trans shorter left) (Nat.le_trans shorter left')
            (offset + (ts.flatMap (·.text)).length)
          simp only [bind, Except.bind, later]

theorem scanFrom_dots {dots text : List Char} {kind : TokenKind} {afterDescent : Bool} {offset : Nat}
    (first : step offset '.' (dots ++ text) = (do
      let (ts, rest) ← shorthand afterDescent (offset + 1 + dots.length) text
      return (⟨kind, offset, '.' :: dots⟩ :: ts, rest))) (fuel : Nat) :
    scanFrom (fuel + 1) offset ('.' :: (dots ++ text)) =
      (resume (some afterDescent) fuel (offset + 1 + dots.length) text).map
        (⟨kind, offset, '.' :: dots⟩ :: ·) := by
  rw [scanFrom_of_notBlank (by decide), first, resume]
  rcases shorthand afterDescent (offset + 1 + dots.length) text with e | ⟨ts, rest⟩
  · rfl
  · have moved : offset + ((⟨kind, offset, '.' :: dots⟩ :: ts).flatMap Token.text).length =
        offset + 1 + dots.length + (ts.flatMap Token.text).length := by
      simp only [List.flatMap_cons, List.length_append, List.length_cons]
      omega
    simp only [bind, Except.bind, pure, Except.pure, moved]
    cases scanFrom fuel _ rest <;> rfl

theorem scanFrom_dot {text : List Char} (oneDot : text.head? ≠ some '.') (fuel offset : Nat) :
    scanFrom (fuel + 1) offset ('.' :: text) =
      (resume (some false) fuel (offset + 1) text).map (⟨.dot, offset, ['.']⟩ :: ·) := by
  have first : step offset '.' ([] ++ text) = (do
      let (ts, rest) ← shorthand false (offset + 1 + 0) text
      return (⟨.dot, offset, ['.']⟩ :: ts, rest)) := by
    unfold step
    rw [if_pos rfl, List.nil_append]
    split
    · simp_all
    · rfl
  exact scanFrom_dots first fuel

theorem scanFrom_dotdot (text : List Char) (fuel offset : Nat) :
    scanFrom (fuel + 1) offset ('.' :: '.' :: text) =
      (resume (some true) fuel (offset + 2) text).map (⟨.dotdot, offset, ['.', '.']⟩ :: ·) := by
  have first : step offset '.' (['.'] ++ text) = (do
      let (ts, rest) ← shorthand true (offset + 1 + 1) text
      return (⟨.dotdot, offset, ['.', '.']⟩ :: ts, rest)) := rfl
  exact scanFrom_dots first fuel

theorem scanFrom_lexeme {offset : Nat} {c : Char} {text : List Char} {l : Lexeme TokenKind}
    (notBlank : isBlank c = false) (notDot : c ≠ '.') (run : lexeme offset c text = .ok l) (fuel : Nat) :
    scanFrom (fuel + 1) offset (c :: text) =
      (scanFrom fuel (offset + l.text.length) l.rest).map (⟨l.value, offset, l.text⟩ :: ·) := by
  rw [scanFrom_of_notBlank notBlank, step_of_ne_dot notDot, run]
  simp only [bind, Except.bind, pure, Except.pure, List.flatMap_cons, List.flatMap_nil, List.append_nil]
  cases scanFrom fuel _ l.rest <;> rfl

theorem scanFrom_gap {gap : List Char} (blank : ∀ c ∈ gap, isBlank c) {text : List Char} {fuel : Nat}
    (offset : Nat) (enough : (gap ++ text).length ≤ fuel) :
    ∃ more, text.length ≤ more ∧
      scanFrom fuel offset (gap ++ text) = scanFrom more (offset + gap.length) text := by
  induction gap generalizing offset fuel with
  | nil => exact ⟨fuel, enough, rfl⟩
  | cons d gap ih =>
    obtain ⟨fuel, rfl⟩ := Nat.exists_eq_add_of_le' (Nat.le_trans (Nat.le_add_left 1 _) enough)
    have first : isBlank d := blank d (by simp)
    obtain ⟨more, left, later⟩ := ih (fun e member => blank e (by simp [member])) (offset + 1)
      (Nat.le_of_succ_le_succ enough)
    refine ⟨more, left, ?_⟩
    rw [List.cons_append, scanFrom, if_pos first, later, List.length_cons, Nat.add_assoc, Nat.add_comm 1]

theorem scanFrom_gap_cons {gap : List Char} (blank : ∀ c ∈ gap, isBlank c) {c : Char} {text : List Char}
    {fuel : Nat} (offset : Nat) (enough : (gap ++ c :: text).length ≤ fuel) :
    ∃ more, text.length ≤ more ∧ scanFrom fuel offset (gap ++ c :: text) =
      scanFrom (more + 1) (offset + gap.length) (c :: text) := by
  obtain ⟨more, left, skipped⟩ := scanFrom_gap blank offset enough
  obtain ⟨more, rfl⟩ := Nat.exists_eq_add_of_le' (Nat.le_trans (Nat.le_add_left 1 _) left)
  exact ⟨more, Nat.le_of_succ_le_succ left, skipped⟩

theorem shorthand_name {c : Char} {tail rest : List Char} (first : isNameFirst c)
    (inside : ∀ d ∈ tail, isNameChar d) (ends : ∀ d ∈ rest.head?, isNameChar d = false)
    (afterDescent : Bool) (offset : Nat) :
    shorthand afterDescent offset (c :: (tail ++ rest)) =
      .ok ([⟨.name (String.ofList (c :: tail)), offset, c :: tail⟩], rest) := by
  have notStar : c ≠ '*' := by
    rintro rfl
    contradiction
  have notBracket : c ≠ '[' := by
    rintro rfl
    contradiction
  simp [shorthand, notStar, notBracket, first, name_append inside ends]

theorem Laid.head?_ne_dot {afterDescent : Bool} {ps : List Piece} (laid : Laid (some afterDescent) ps) :
    (written ps).head? ≠ some '.' := by
  cases laid with
  | wildcard | bracket => simp [written]
  | @name _ c tail ps first =>
    have notDot : c ≠ '.' := by
      rintro rfl
      contradiction
    simpa [written] using notDot

theorem resume_of_shorthand {afterDescent : Bool} {fuel offset : Nat} {text rest : List Char}
    {ts more : List Token} (first : shorthand afterDescent offset text = .ok (ts, rest))
    (later : scanFrom fuel (offset + (ts.flatMap (·.text)).length) rest = .ok more) :
    resume (some afterDescent) fuel offset text = .ok (ts ++ more) := by
  simp only [resume, first, bind, Except.bind, later, pure, Except.pure]

theorem resume_written {mode : Option Bool} {ps : List Piece} (laid : Laid mode ps) {fuel : Nat}
    (offset : Nat) (enough : (written ps).length ≤ fuel) :
    resume mode fuel offset (written ps) = .ok (placed offset ps) := by
  induction laid generalizing fuel offset with
  | @ending gap blank =>
    obtain ⟨more, -, skipped⟩ := scanFrom_gap blank offset enough
    cases more <;> exact skipped
  | @token gap text kind ps blank reads others ih =>
    obtain ⟨c, tail, rfl, notBlank, notDot, run⟩ := reads
    obtain ⟨more, left, front⟩ := scanFrom_gap_cons blank offset enough
    have later : scanFrom more _ (written ps) = _ := ih (offset + gap.length + (c :: tail).length)
      (Nat.le_trans (by simp) left)
    have read := scanFrom_lexeme notBlank notDot (run (offset + gap.length) (written ps) rfl) more
    rw [later] at read
    exact front.trans read
  | @dot gap ps blank others ih =>
    obtain ⟨more, left, front⟩ := scanFrom_gap_cons blank offset enough
    have read := scanFrom_dot others.head?_ne_dot more (offset + gap.length)
    rw [ih _ left] at read
    exact front.trans read
  | @dotdot gap ps blank others ih =>
    obtain ⟨more, left, front⟩ := scanFrom_gap_cons blank offset enough
    have read := scanFrom_dotdot (written ps) more (offset + gap.length)
    rw [ih _ (Nat.le_of_succ_le left)] at read
    exact front.trans read
  | @wildcard afterDescent ps others ih =>
    have first : shorthand afterDescent offset ('*' :: written ps) =
      .ok ([⟨.wildcard, offset, ['*']⟩], written ps) := rfl
    exact resume_of_shorthand first (ih _ (Nat.le_of_succ_le enough))
  | @name afterDescent c tail ps first inside ends others ih =>
    have left : (written ps).length ≤ fuel := by
      simp only [written, List.length_append] at enough
      omega
    have later : scanFrom fuel (offset + (c :: tail).length) (written ps) = _ := ih _ left
    refine resume_of_shorthand (shorthand_name first inside ends afterDescent offset) ?_
    simpa using later
  | @bracket ps others ih =>
    have first : shorthand true offset ('[' :: written ps) = .ok ([], '[' :: written ps) := rfl
    exact resume_of_shorthand first (ih offset enough)

def HasLayout (mode : Option Bool) (offset : Nat) (text : List Char) (ts : List Token) : Prop :=
  ∃ ps, Laid mode ps ∧ written ps = text ∧ placed offset ps = ts

namespace HasLayout

variable {offset : Nat} {text : List Char} {ts : List Token}

theorem ending (offset : Nat) : HasLayout none offset [] [⟨.eof, offset, []⟩] :=
  ⟨[⟨[], .eof, []⟩], .ending (by simp), rfl, rfl⟩

theorem blank {c : Char} (blank : isBlank c) (layout : HasLayout none (offset + 1) text ts) :
    HasLayout none offset (c :: text) ts := by
  obtain ⟨ps, laid, rfl, rfl⟩ := layout
  have wider {gap : List Char} (inside : ∀ d ∈ gap, isBlank d) : ∀ d ∈ c :: gap, isBlank d :=
    List.forall_mem_cons.mpr ⟨blank, inside⟩
  have moved (gap : List Char) : offset + (c :: gap).length = offset + 1 + gap.length := by
    simp only [List.length_cons]
    omega
  cases laid with
  | ending blank => exact ⟨_, .ending (wider blank), rfl, by simp only [placed, moved]⟩
  | token blank reads others =>
    exact ⟨_, .token (wider blank) reads others, rfl, by simp only [placed, moved]⟩
  | dot blank others => exact ⟨_, .dot (wider blank) others, rfl, by simp only [placed, moved]⟩
  | dotdot blank others => exact ⟨_, .dotdot (wider blank) others, rfl, by simp only [placed, moved]⟩

theorem lexeme {c : Char} {l : Lexeme TokenKind} (notBlank : isBlank c = false) (notDot : c ≠ '.')
    (read : Scan.lexeme offset c text = .ok l)
    (layout : HasLayout none (offset + l.text.length) l.rest ts) :
    HasLayout none offset (c :: text) (⟨l.value, offset, l.text⟩ :: ts) := by
  obtain ⟨ps, laid, after, rfl⟩ := layout
  have takes := lexeme_scanned offset c text
  rw [read] at takes
  have reads : Reads l.value l.text (written ps).head? := by
    rw [after]
    exact lexeme_reads notBlank notDot read fun d head => .inr head
  have covers : l.text ++ written ps = c :: text := by
    rw [after]
    exact takes.1.symm
  exact ⟨⟨[], l.value, l.text⟩ :: ps, .token (by simp) reads laid, covers, rfl⟩

theorem dots {dots : List Char} {kind : TokenKind} {afterDescent : Bool}
    (laid : ∀ {ps}, Laid (some afterDescent) ps → Laid none (⟨[], kind, dots⟩ :: ps))
    (layout : HasLayout (some afterDescent) (offset + dots.length) text ts) :
    HasLayout none offset (dots ++ text) (⟨kind, offset, dots⟩ :: ts) := by
  obtain ⟨ps, following, rfl, rfl⟩ := layout
  exact ⟨_, laid following, rfl, rfl⟩

theorem of_bracket {ps : List Piece} (laid : Laid none ps) (begins : written ps = '[' :: text) :
    ∃ qs, ps = ⟨[], .lbracket, ['[']⟩ :: qs := by
  have noGap {gap body : List Char} (blank : ∀ c ∈ gap, isBlank c) (begins : gap ++ body = '[' :: text) :
      gap = [] := by
    cases gap with
    | nil => rfl
    | cons c gap =>
      obtain ⟨rfl, -⟩ := List.cons.inj begins
      exact absurd (blank '[' (by simp)) (by decide)
  cases laid with
  | ending blank =>
    obtain rfl := noGap blank begins
    simp [written] at begins
  | @token gap body kind ps blank reads others =>
    obtain rfl := noGap blank begins
    obtain ⟨c, tail, rfl, -, -, run⟩ := reads
    obtain ⟨rfl, -⟩ := List.cons.inj begins
    have first := run 0 (written ps) rfl
    have known : Scan.lexeme 0 '[' (tail ++ written ps) = .ok ⟨.lbracket, ['['], tail ++ written ps⟩ := rfl
    rw [known] at first
    obtain ⟨rfl, alone, -⟩ := Lexeme.mk.inj (Except.ok.inj first)
    exact ⟨ps, by rw [← alone]⟩
  | dot blank others | dotdot blank others =>
    obtain rfl := noGap blank begins
    simp [written] at begins

theorem shorthand {afterDescent : Bool} {rest : List Char} {us : List Token}
    (run : Scan.shorthand afterDescent offset text = .ok (ts, rest))
    (layout : HasLayout none (offset + (ts.flatMap (·.text)).length) rest us) :
    HasLayout (some afterDescent) offset text (ts ++ us) := by
  obtain ⟨ps, laid, rfl, rfl⟩ := layout
  cases text with
  | nil => simp [Scan.shorthand] at run
  | cons c text =>
    simp only [Scan.shorthand] at run
    split at run
    · next star =>
      subst star
      obtain ⟨rfl, rfl⟩ := Prod.mk.inj (Except.ok.inj run)
      exact ⟨_, .wildcard laid, rfl, rfl⟩
    · split at run
      · next bracket =>
        obtain ⟨rfl, rfl⟩ := bracket
        obtain ⟨rfl, after⟩ := Prod.mk.inj (Except.ok.inj run)
        obtain ⟨qs, rfl⟩ := of_bracket laid after.symm
        exact ⟨_, .bracket laid, after.symm, rfl⟩
      · split at run
        · next first =>
          obtain ⟨tail, more, rfl, inside, ends, same⟩ := exists_name c text
          rw [same] at run
          obtain ⟨rfl, rfl⟩ := Prod.mk.inj (Except.ok.inj run)
          exact ⟨_, .name first inside ends laid, rfl, by simp [placed]⟩
        · split at run <;> simp at run

end HasLayout

theorem scanFrom_hasLayout {fuel offset : Nat} {text : List Char} {ts : List Token}
    (run : scanFrom fuel offset text = .ok ts) (enough : text.length ≤ fuel) :
    HasLayout none offset text ts := by
  induction fuel generalizing offset text ts with
  | zero =>
    obtain rfl : text = [] := List.length_eq_zero_iff.mp (by omega)
    cases run
    exact .ending offset
  | succ fuel ih =>
    -- Behind a dot, or two, the same fuel is left for what follows the shorthand.
    have behind {afterDescent : Bool} {place : Nat} {text : List Char} {us : List Token}
        (run : resume (some afterDescent) fuel place text = .ok us) (enough : text.length ≤ fuel) :
        HasLayout (some afterDescent) place text us := by
      simp only [resume, Except.bind_eq_ok] at run
      obtain ⟨⟨ts, rest⟩, first, more, later, same⟩ := run
      cases same
      have covers := shorthand_scanned afterDescent place text
      rw [first] at covers
      have length : text.length = _ := congrArg List.length covers.1
      rw [List.length_append] at length
      have shorter : rest.length ≤ fuel := Nat.le_trans (by simp only at length; omega) enough
      exact .shorthand first (ih later shorter)
    cases text with
    | nil =>
      cases run
      exact .ending offset
    | cons c text =>
      have left : text.length ≤ fuel := Nat.le_of_succ_le_succ enough
      by_cases blank : isBlank c
      · rw [scanFrom, if_pos blank] at run
        exact .blank blank (ih run left)
      · have notBlank : isBlank c = false := by simpa using blank
        by_cases dot : c = '.'
        · subst dot
          by_cases twice : text.head? = some '.'
          · obtain ⟨text, rfl⟩ := List.head?_eq_some_iff.mp twice
            rw [scanFrom_dotdot, Except.map_eq_ok] at run
            obtain ⟨us, run, rfl⟩ := run
            exact .dots (.dotdot (by simp)) (behind run (Nat.le_of_succ_le left))
          · rw [scanFrom_dot twice, Except.map_eq_ok] at run
            obtain ⟨us, run, rfl⟩ := run
            exact .dots (.dot (by simp)) (behind run left)
        · rcases read : lexeme offset c text with e | l
          · simp [scanFrom_of_notBlank notBlank, step_of_ne_dot dot, read, bind, Except.bind] at run
          · rw [scanFrom_lexeme notBlank dot read, Except.map_eq_ok] at run
            obtain ⟨us, run, rfl⟩ := run
            have takes := lexeme_scanned offset c text
            rw [read] at takes
            have length := takes.1.length
            have nonempty := List.length_pos_iff.mpr takes.2
            have shorter : l.rest.length ≤ fuel := by
              simp only [List.length_cons] at length
              omega
            exact .lexeme notBlank dot read (ih run shorter)

end Scan

/-- A scan gives the tokens of the pieces that a text is laid out in. -/
theorem scan_eq_ok_iff_hasLayout {text : List Char} {ts : List Token} :
    scan text = .ok ts ↔ Scan.HasLayout none 0 text ts := by
  constructor
  · intro scanned
    exact Scan.scanFrom_hasLayout scanned (Nat.le_refl _)
  · rintro ⟨ps, laid, rfl, rfl⟩
    exact Scan.resume_written laid 0 (Nat.le_refl _)

end Token

end JsonPath
