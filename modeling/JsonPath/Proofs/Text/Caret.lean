import JsonPath.Proofs.Text.Lines
import JsonPath.Query.Error

namespace JsonPath

namespace Caret

/-- A message, an empty line, a line of the query and a caret behind so many spaces. -/
def shown (message : String) (line : List Char) (column : Nat) : String :=
  message ++ "\n\n" ++ String.ofList line ++ "\n" ++ String.ofList (List.replicate column ' ' ++ ['^'])

theorem locate_within {line : List Char} {column : Nat} (within : column ≤ line.length)
    (later : List (List Char)) : locate (line :: later) column = (line, (column : Int)) := by
  cases later with
  | nil =>
    rw [locate]
    congr 1
    omega
  | cons next later =>
    rw [locate, if_pos (by omega)]
    exact List.cons_ne_nil next later

theorem locate_beyond {line : List Char} {offset : Int} (beyond : line.length < offset)
    {later : List (List Char)} (more : later ≠ []) :
    locate (line :: later) offset = locate later (offset - (line.length + 1)) := by
  cases later with
  | nil => contradiction
  | cons next later =>
    rw [locate, if_neg (by omega)]
    exact more

theorem locate_append (before : List (List Char)) {line : List Char} {column : Nat}
    (within : column ≤ line.length) (later : List (List Char)) :
    locate (before ++ line :: later) ((before.map (·.length + 1)).sum + column : Nat) =
      (line, (column : Int)) := by
  induction before with
  | nil => simpa using locate_within within later
  | cons first before ih =>
    rw [List.cons_append, List.map_cons, List.sum_cons, locate_beyond (by omega) (by simp), ← ih]
    congr 1
    omega

theorem locate_lines {text before line after : List Char} {offset : Nat}
    (here : LineAt text offset before line after) {column : Nat} (within : column ≤ line.length) :
    locate (lines text) (before.length - pairedBreaks before + column) = (line, (column : Int)) := by
  obtain ⟨later, listed⟩ := here.listed
  have length := length_eq_sum_lines here.begins
  rw [listed, ← locate_append (lines before) within later]
  congr 1
  omega

theorem format_eq_shown {query : String} {offset : Int} {line : List Char} {column : Nat}
    (located : locate (lines query.toList) offset = (line, (column : Int))) (message : String) :
    format message (some offset) (some query) = shown message line column := by
  rw [format, point, located]
  rfl

/-- The line of an offset is shown, and below it the caret at the place of the offset in the line, if no
pair of a return and a line feed stands before the line. Otherwise the caret is as many places further to
the right as there are pairs, as far as the line goes. -/
theorem format_pointsAt (message : String) {query : String} {offset : Nat} {c : Char}
    (at? : query.toList[offset]? = some c) (plain : isLineBreak c = false) :
    ∃ before line after, LineAt query.toList offset before line after ∧
      (¬ ['\r', '\n'] <:+: before →
        format message (some offset) (some query) = shown message line (offset - before.length)) ∧
      (offset + pairedBreaks before ≤ before.length + line.length →
        format message (some offset) (some query) =
          shown message line (offset - before.length + pairedBreaks before)) := by
  obtain ⟨before, line, after, here⟩ := exists_lineAt at? plain
  have least := here.least
  have inside := here.inside
  have moved (room : offset + pairedBreaks before ≤ before.length + line.length) :
      format message (some offset) (some query) =
        shown message line (offset - before.length + pairedBreaks before) := by
    apply format_eq_shown
    rw [← locate_lines here (by omega)]
    congr 1
    omega
  refine ⟨before, line, after, here, fun unpaired => ?_, moved⟩
  have none : pairedBreaks before = 0 := pairedBreaks_eq_zero_iff.mpr unpaired
  have exactly := moved (by omega)
  rwa [none, Nat.add_zero] at exactly

theorem format_pointsAt_equals :
    let query := "$[?@.a\u2028 = 1]"
    query.toList[8]? = some '=' ∧ isLineBreak '=' = false ∧
    ∃ before line after, LineAt query.toList 8 before line after ∧
      (¬ ['\r', '\n'] <:+: before →
        format "unexpected" (some (8 : Nat)) (some query) = shown "unexpected" line (8 - before.length)) ∧
      (8 + pairedBreaks before ≤ before.length + line.length →
        format "unexpected" (some (8 : Nat)) (some query) =
          shown "unexpected" line (8 - before.length + pairedBreaks before)) := by
  intro query
  have at? : query.toList[8]? = some '=' := by decide
  exact ⟨at?, by decide, format_pointsAt "unexpected" at? (by decide)⟩

/-- Behind a return with a line feed the caret is not under the offset. -/
theorem format_behind_pair : ∃ before line after, LineAt "$\r\n.a=".toList 5 before line after ∧
    format "unexpected" (some 5) (some "$\r\n.a=") = "unexpected\n\n.a=\n   ^" ∧
    format "unexpected" (some 5) (some "$\r\n.a=") ≠ shown "unexpected" line (5 - before.length) := by
  refine ⟨['$', '\r', '\n'], ['.', 'a', '='], [], ?_, by decide +kernel, by decide +kernel⟩
  refine ⟨by decide, by simp [OneLine, isLineBreak], ?_, ?_, ⟨[], by decide +kernel⟩, by decide, by decide⟩
  · rintro c ⟨⟩
    rfl
  · rintro c ⟨⟩

end Caret

end JsonPath
