import JsonPath.Text.Lines
import Mathlib.Algebra.GroupWithZero.Nat
import Mathlib.Data.List.Basic

namespace JsonPath

def OneLine (text : List Char) : Prop := ∀ c ∈ text, isLineBreak c = false

/-- What ends a line, by what follows: a return takes a line feed behind it along. -/
inductive LineBreak : List Char → List Char → Prop
  | pair (rest : List Char) : LineBreak ['\r', '\n'] rest
  | single {c : Char} {rest : List Char} (ends : isLineBreak c)
      (alone : ¬ (c = '\r' ∧ rest.head? = some '\n')) : LineBreak [c] rest

theorem oneLine_cons {c : Char} {text : List Char} :
    OneLine (c :: text) ↔ isLineBreak c = false ∧ OneLine text :=
  List.forall_mem_cons

namespace LineBreak

variable {e rest : List Char} (ends : LineBreak e rest)

include ends

theorem isLineBreak_of_mem {c : Char} (member : c ∈ e) : isLineBreak c := by
  cases ends with
  | pair =>
    simp only [List.mem_cons, List.not_mem_nil, or_false] at member
    rcases member with rfl | rfl <;> rfl
  | single ends =>
    rwa [List.mem_singleton.mp member]

theorem length_pos : 0 < e.length := by
  cases ends <;> simp

theorem shorten {before after : List Char} (parts : rest = before ++ after) : LineBreak e before := by
  cases ends with
  | pair => exact .pair before
  | single ends alone =>
    refine .single ends fun joined => alone ⟨joined.1, ?_⟩
    rw [parts, List.head?_append, joined.2, Option.some_or]

end LineBreak

theorem oneLine_or_lineBreak (text : List Char) : OneLine text ∨
    ∃ line e rest, text = line ++ (e ++ rest) ∧ OneLine line ∧ LineBreak e rest := by
  induction text with
  | nil => exact .inl (by simp [OneLine])
  | cons c text ih =>
    by_cases ends : isLineBreak c
    · right
      by_cases joined : c = '\r' ∧ text.head? = some '\n'
      · obtain ⟨rfl, head⟩ := joined
        obtain ⟨rest, rfl⟩ := List.head?_eq_some_iff.mp head
        exact ⟨[], ['\r', '\n'], rest, rfl, by simp [OneLine], .pair rest⟩
      · exact ⟨[], [c], text, rfl, by simp [OneLine], .single ends joined⟩
    · have plain : isLineBreak c = false := by simpa using ends
      rcases ih with whole | ⟨line, e, rest, rfl, inside, ends⟩
      · exact .inl (oneLine_cons.mpr ⟨plain, whole⟩)
      · exact .inr ⟨c :: line, e, rest, rfl, oneLine_cons.mpr ⟨plain, inside⟩, ends⟩

theorem lineInduction {P : List Char → Prop} (oneLine : ∀ line, OneLine line → P line)
    (lineBreak : ∀ line e rest, OneLine line → LineBreak e rest → P rest → P (line ++ (e ++ rest)))
    (text : List Char) : P text := by
  induction size : text.length using Nat.strongRecOn generalizing text with
  | ind length ih =>
    rcases oneLine_or_lineBreak text with plain | ⟨line, e, rest, rfl, plain, ends⟩
    · exact oneLine text plain
    · have positive := ends.length_pos
      have shorter : rest.length < length := by
        simp only [List.length_append] at size
        omega
      exact lineBreak line e rest plain ends (ih _ shorter rest rfl)

theorem splitLine_cons {c : Char} (plain : isLineBreak c = false) (text : List Char) :
    splitLine (c :: text) = (c :: (splitLine text).1, (splitLine text).2) := by
  have notReturn : c ≠ '\r' := by
    rintro rfl
    contradiction
  rw [splitLine]
  · rw [if_neg (by simp [plain])]
  · exact fun _ same => absurd same notReturn

theorem splitLine_oneLine {line : List Char} (plain : OneLine line) : splitLine line = (line, none) := by
  induction line with
  | nil => rfl
  | cons c line ih =>
    rw [oneLine_cons] at plain
    rw [splitLine_cons plain.1, ih plain.2]

theorem splitLine_lineBreak {line e rest : List Char} (plain : OneLine line) (ends : LineBreak e rest) :
    splitLine (line ++ (e ++ rest)) = (line, some rest) := by
  induction line with
  | nil =>
    cases ends with
    | pair => rfl
    | @single c rest ends alone =>
      rw [List.nil_append, List.singleton_append, splitLine]
      · rw [if_pos ends]
      · rintro after rfl rfl
        exact alone ⟨rfl, rfl⟩
  | cons c line ih =>
    rw [oneLine_cons] at plain
    rw [List.cons_append, splitLine_cons plain.1, ih plain.2]

theorem linesFrom_nil (fuel : Nat) : linesFrom fuel [] = [] := by
  cases fuel <;> rfl

theorem linesFrom_oneLine {line : List Char} (plain : OneLine line) (nonempty : line ≠ []) (fuel : Nat) :
    linesFrom (fuel + 1) line = [line] := by
  rw [linesFrom, splitLine_oneLine plain]
  exact nonempty

theorem linesFrom_lineBreak {line e rest : List Char} (plain : OneLine line) (ends : LineBreak e rest)
    (fuel : Nat) : linesFrom (fuel + 1) (line ++ (e ++ rest)) = line :: linesFrom fuel rest := by
  rw [linesFrom, splitLine_lineBreak plain ends]
  intro none
  have nothing : e = [] := (List.append_eq_nil_iff.mp (List.append_eq_nil_iff.mp none).2).1
  exact absurd ends.length_pos (by simp [nothing])

theorem linesFrom_eq_lines {fuel : Nat} {text : List Char} (fueled : text.length ≤ fuel) :
    linesFrom fuel text = lines text := by
  unfold lines
  induction text using lineInduction generalizing fuel with
  | oneLine line plain =>
    cases line with
    | nil => rw [linesFrom_nil, linesFrom_nil]
    | cons c line =>
      obtain ⟨fuel, rfl⟩ := Nat.exists_eq_add_of_lt (Nat.lt_of_lt_of_le (Nat.succ_pos _) fueled)
      rw [List.length_cons, linesFrom_oneLine plain (List.cons_ne_nil c line),
        linesFrom_oneLine plain (List.cons_ne_nil c line)]
  | lineBreak line e rest plain ends ih =>
    have shorter : rest.length < (line ++ (e ++ rest)).length := by
      have positive := ends.length_pos
      simp only [List.length_append]
      omega
    obtain ⟨n, whole⟩ := Nat.exists_eq_add_of_lt (Nat.zero_lt_of_lt shorter)
    obtain ⟨fuel, rfl⟩ := Nat.exists_eq_add_of_lt (Nat.lt_of_lt_of_le (Nat.zero_lt_of_lt shorter) fueled)
    rw [whole, linesFrom_lineBreak plain ends, linesFrom_lineBreak plain ends,
      ih (show rest.length ≤ 0 + fuel by omega), ih (show rest.length ≤ 0 + n by omega)]

theorem lines_oneLine {line : List Char} (plain : OneLine line) (nonempty : line ≠ []) :
    lines line = [line] := by
  rw [← linesFrom_eq_lines (Nat.le_succ line.length), linesFrom_oneLine plain nonempty]

theorem lines_lineBreak {line e rest : List Char} (plain : OneLine line) (ends : LineBreak e rest) :
    lines (line ++ (e ++ rest)) = line :: lines rest := by
  rw [← linesFrom_eq_lines (Nat.le_succ _), linesFrom_lineBreak plain ends, linesFrom_eq_lines]
  simp only [List.length_append]
  omega

/-- How many breaks of a text are pairs of a return and a line feed. -/
def pairedBreaks : List Char → Nat
  | '\r' :: '\n' :: rest => pairedBreaks rest + 1
  | _ :: rest => pairedBreaks rest
  | [] => 0

theorem pairedBreaks_cons {c : Char} {text : List Char} (alone : ¬ (c = '\r' ∧ text.head? = some '\n')) :
    pairedBreaks (c :: text) = pairedBreaks text := by
  rw [pairedBreaks]
  rintro rest rfl rfl
  exact alone ⟨rfl, rfl⟩

theorem pairedBreaks_oneLine_append {line : List Char} (plain : OneLine line) (text : List Char) :
    pairedBreaks (line ++ text) = pairedBreaks text := by
  induction line with
  | nil => rfl
  | cons c line ih =>
    rw [oneLine_cons] at plain
    rw [List.cons_append, pairedBreaks_cons, ih plain.2]
    rintro ⟨rfl, -⟩
    exact absurd plain.1 (by decide)

theorem LineBreak.length_add_pairedBreaks {e rest : List Char} (ends : LineBreak e rest) :
    e.length + pairedBreaks rest = pairedBreaks (e ++ rest) + 1 := by
  cases ends with
  | pair =>
    show 2 + pairedBreaks rest = pairedBreaks rest + 1 + 1
    omega
  | single ends alone =>
    rw [List.singleton_append, pairedBreaks_cons alone, List.length_singleton, Nat.add_comm]

theorem pairedBreaks_eq_zero_iff {text : List Char} :
    pairedBreaks text = 0 ↔ ¬ ['\r', '\n'] <:+: text := by
  fun_induction pairedBreaks text with
  | case1 rest ih =>
    refine iff_of_false (Nat.succ_ne_zero _) (not_not_intro ?_)
    exact (List.prefix_append ['\r', '\n'] rest).isInfix
  | case2 c rest alone ih =>
    have front : ¬ ['\r', '\n'] <+: c :: rest := by
      rintro ⟨after, same⟩
      cases same
      exact alone after rfl rfl
    rw [ih, List.infix_cons_iff, or_iff_right front]
  | case3 => simp

theorem length_eq_sum_lines {text : List Char} (closed : ∀ c ∈ text.getLast?, isLineBreak c) :
    text.length = ((lines text).map (·.length + 1)).sum + pairedBreaks text := by
  induction text using lineInduction with
  | oneLine line plain =>
    cases last : line.getLast? with
    | none =>
      rw [List.getLast?_eq_none_iff.mp last]
      rfl
    | some c =>
      have breaks := closed c last
      rw [plain c (List.mem_of_getLast? last)] at breaks
      contradiction
  | lineBreak line e rest plain ends ih =>
    have counted := ends.length_add_pairedBreaks
    have closed' : ∀ c ∈ rest.getLast?, isLineBreak c := by
      intro c last
      refine closed c ?_
      have nonempty : rest ≠ [] := List.ne_nil_of_mem (List.mem_of_getLast? last)
      rwa [← List.append_assoc, List.getLast?_append_of_ne_nil _ nonempty]
    have total := ih closed'
    rw [lines_lineBreak plain ends, pairedBreaks_oneLine_append plain, List.map_cons, List.sum_cons]
    simp only [List.length_append]
    omega

/-- The line of a text that an offset falls into, with what stands before and after it. -/
structure LineAt (text : List Char) (offset : Nat) (before line after : List Char) : Prop where
  whole : text = before ++ line ++ after
  oneLine : OneLine line
  begins : ∀ c ∈ before.getLast?, isLineBreak c
  ends : ∀ c ∈ after.head?, isLineBreak c
  listed : ∃ later, lines text = lines before ++ line :: later
  least : before.length ≤ offset
  inside : offset < before.length + line.length

namespace LineAt

variable {first e rest : List Char} {offset : Nat}

theorem alone (plain : OneLine first) (inside : offset < first.length) : LineAt first offset [] first [] where
  whole := by simp
  oneLine := plain
  begins := by simp
  ends := by simp
  listed := ⟨[], lines_oneLine plain (List.ne_nil_of_length_pos (Nat.zero_lt_of_lt inside))⟩
  least := Nat.zero_le offset
  inside := by simpa using inside

theorem foremost (plain : OneLine first) (ends : LineBreak e rest) (inside : offset < first.length) :
    LineAt (first ++ (e ++ rest)) offset [] first (e ++ rest) where
  whole := rfl
  oneLine := plain
  begins := by simp
  ends := by
    intro c head
    rw [List.head?_append_of_ne_nil _ (List.ne_nil_of_length_pos ends.length_pos)] at head
    exact ends.isLineBreak_of_mem (List.mem_of_mem_head? head)
  listed := ⟨lines rest, lines_lineBreak plain ends⟩
  least := Nat.zero_le offset
  inside := by simpa using inside

theorem behind {before line after : List Char} (plain : OneLine first) (ends : LineBreak e rest)
    (here : LineAt rest offset before line after) :
    LineAt (first ++ (e ++ rest)) (first.length + e.length + offset) (first ++ (e ++ before)) line after := by
  have parts : rest = before ++ (line ++ after) := by simpa using here.whole
  have ends' : LineBreak e before := ends.shorten parts
  have least := here.least
  have inside := here.inside
  obtain ⟨later, split⟩ := here.listed
  refine ⟨?_, here.oneLine, ?_, here.ends, ⟨later, ?_⟩, ?_, ?_⟩
  · rw [parts]
    simp
  · intro c last
    rw [← List.append_assoc] at last
    cases last' : before.getLast? with
    | none =>
      rw [List.getLast?_eq_none_iff.mp last', List.append_nil,
        List.getLast?_append_of_ne_nil _ (List.ne_nil_of_length_pos ends.length_pos)] at last
      exact ends.isLineBreak_of_mem (List.mem_of_getLast? last)
    | some d =>
      rw [List.getLast?_append_of_ne_nil _ (List.ne_nil_of_mem (List.mem_of_getLast? last'))] at last
      exact here.begins c last
  · rw [lines_lineBreak plain ends, split, lines_lineBreak plain ends', List.cons_append]
  · simp only [List.length_append]
    omega
  · simp only [List.length_append]
    omega

end LineAt

theorem exists_lineAt {text : List Char} {offset : Nat} {c : Char} (at? : text[offset]? = some c)
    (plain : isLineBreak c = false) : ∃ before line after, LineAt text offset before line after := by
  induction text using lineInduction generalizing offset with
  | oneLine line oneLine =>
    obtain ⟨inside, -⟩ := List.getElem?_eq_some_iff.mp at?
    exact ⟨_, _, _, .alone oneLine inside⟩
  | lineBreak first e rest oneLine ends ih =>
    by_cases early : offset < first.length
    · exact ⟨_, _, _, .foremost oneLine ends early⟩
    · rw [List.getElem?_append_right (Nat.le_of_not_lt early)] at at?
      -- The offset is not in the break, whose characters all end lines.
      have beyond : e.length ≤ offset - first.length := by
        by_contra within
        rw [List.getElem?_append_left (Nat.lt_of_not_le within)] at at?
        have breaks := ends.isLineBreak_of_mem (List.mem_of_getElem? at?)
        rw [plain] at breaks
        contradiction
      rw [List.getElem?_append_right beyond] at at?
      obtain ⟨before, line, after, here⟩ := ih at?
      have there := here.behind oneLine ends
      rw [show first.length + e.length + (offset - first.length - e.length) = offset by omega] at there
      exact ⟨_, _, _, there⟩

end JsonPath
