import JsonPath.Proofs.Path.Scan
import JsonPath.Proofs.Value.LineEnds
import JsonPath.Proofs.Value.Written
import JsonPath.Report.Console

namespace JsonPath

/-- No character is a control below the blank, as line ends and tabulators are. -/
def Printable (text : List Char) : Prop := ∀ c ∈ text, 0x1F < c.toNat

namespace Printable

@[simp] theorem nil : Printable [] := List.forall_mem_nil _

@[simp] theorem cons_iff {c : Char} {text : List Char} :
    Printable (c :: text) ↔ 0x1F < c.toNat ∧ Printable text :=
  List.forall_mem_cons

@[simp] theorem append_iff {before after : List Char} :
    Printable (before ++ after) ↔ Printable before ∧ Printable after :=
  List.forall_mem_append

theorem flatMap {α : Type} {l : List α} {f : α → List Char} (each : ∀ a ∈ l, Printable (f a)) :
    Printable (l.flatMap f) := by
  intro c member
  obtain ⟨a, inside, member⟩ := List.mem_flatMap.mp member
  exact each a inside c member

theorem not_mem {text : List Char} (printable : Printable text) {c : Char} (control : c.toNat ≤ 0x1F) :
    c ∉ text := fun member => Nat.not_lt.mpr control (printable c member)

theorem unbroken {text : List Char} (printable : Printable text) : Unbroken text := by
  intro c member
  refine ⟨?_, ?_⟩ <;> rintro rfl <;> exact absurd (printable _ member) (by decide)

theorem controlDigits {n : Nat} (small : n ≤ 0x1F) :
    Printable [Nat.digitChar (n / 16), Nat.digitChar (n % 16)] := by
  have all : ∀ n < 32, 0x1F < (Nat.digitChar (n / 16)).toNat ∧ 0x1F < (Nat.digitChar (n % 16)).toNat := by
    decide
  simpa using all n (by omega)

theorem toDigits (n : Nat) : Printable (Nat.toDigits 10 n) := by
  intro c member
  have digit : c.isDigit := Nat.isDigit_of_mem_toDigits (by decide) (by decide) member
  simp only [Char.isDigit, Bool.and_eq_true, decide_eq_true_eq] at digit
  exact Nat.lt_of_lt_of_le (by decide) digit.1

theorem zeros (n : Nat) : Printable (Decimal.zeros n) := by
  intro c member
  rw [List.eq_of_mem_replicate member]
  decide

theorem int (n : Int) : Printable (toString n).toList := by
  rw [Numeral.toList_toString_int, append_iff]
  refine ⟨?_, toDigits n.natAbs⟩
  split <;> simp

theorem decimal (d : Decimal) : Printable d.text.toList := by
  have digits := toDigits d.digits
  have parts (n : Nat) : Printable ((Nat.toDigits 10 d.digits).take n) ∧
      Printable ((Nat.toDigits 10 d.digits).drop n) := by
    rwa [← append_iff, List.take_append_drop]
  simp only [Decimal.text, String.toList_ofList]
  split
  · split
    · simp [zeros, digits]
    · split
      · simp [zeros, digits]
      · simp [parts]
  · have sign : 0x1F < (if d.point - 1 < 0 then '-' else '+').toNat := by
      split <;> decide
    simp only [append_iff, cons_iff]
    refine ⟨⟨?_, by decide, sign, zeros _⟩, toDigits _⟩
    split
    · next first only => rwa [only] at digits
    · next first rest _ both =>
      rw [both, cons_iff] at digits
      simp [digits]
    · exact nil

theorem double (d : Double) : Printable d.text.toList := by
  cases d with
  | nan => simp [Double.text]
  | infinite s => cases s <;> simp [Double.text]
  | finite s e f =>
    have magnitude :
        Printable (if Double.steps e f = 0 then "0.0" else (Double.shortest e f).text).toList := by
      split
      · simp
      · exact decimal _
    cases s <;> simp [Double.text, magnitude]

theorem number (n : Number) : Printable n.json.toList := by
  cases n with
  | int n => exact int n
  | double d =>
    cases d with
    | nan => simp [Number.json]
    | infinite s => cases s <;> simp [Number.json]
    | finite s e f => exact double _

theorem quote (s : String) : Printable (Value.Writer.quote s).toList := by
  rw [Value.Writer.toList_quote]
  have inside : Printable (s.toList.flatMap Value.Writer.escapeChar) := by
    refine flatMap fun c _ => ?_
    unfold Value.Writer.escapeChar
    iterate 7
      split
      · simp
    split
    · next control => simpa using controlDigits (n := c.toNat) (by omega)
    · next notControl =>
      have above : 0x1F < c.toNat := by omega
      simpa using above
  simp [inside]

-- On one line the layout adds blanks only, so that all depends on the strings and the numbers.
mutual

theorem value : ∀ (v : Value) (depth : Nat), Printable (Value.Writer.value .line depth v).toList
  | .null, depth => by simp [Value.Writer.value]
  | .bool b, depth => by cases b <;> simp [Value.Writer.value]
  | .number n, depth => by simpa [Value.Writer.value] using number n
  | .string s, depth => by simpa [Value.Writer.value] using quote s
  | .array [], depth => by simp [Value.Writer.value]
  | .array (v :: vs), depth => by
    simp [Value.Writer.value, Value.Writer.Layout.opening, Value.Writer.Layout.closing,
      value v (depth + 1), items vs depth]
  | .object [], depth => by simp [Value.Writer.value]
  | .object ((name, v) :: ms), depth => by
    simp [Value.Writer.value, Value.Writer.Layout.opening, Value.Writer.Layout.closing,
      quote name, value v (depth + 1), members ms depth]

theorem items : ∀ (vs : List Value) (depth : Nat), Printable (Value.Writer.items .line depth vs).toList
  | [], depth => by simp [Value.Writer.items]
  | v :: vs, depth => by
    simp [Value.Writer.items, Value.Writer.Layout.separator, value v (depth + 1), items vs depth]

theorem members : ∀ (ms : List (String × Value)) (depth : Nat),
    Printable (Value.Writer.members .line depth ms).toList
  | [], depth => by simp [Value.Writer.members]
  | (name, v) :: ms, depth => by
    simp [Value.Writer.members, Value.Writer.Layout.separator, quote name, value v (depth + 1),
      members ms depth]

end

theorem write (v : Value) : Printable v.write.toList := value v 0

theorem step (s : Step) : Printable s.inner := by
  cases s with
  | member name =>
    have inside : Printable (name.toList.flatMap escapeChar) := by
      refine flatMap fun c _ => ?_
      unfold escapeChar
      iterate 7
        split
        · simp
      split
      · next control => simpa using controlDigits control
      · next printable => simpa using printable
    simp [Step.inner, inside]
  | index n => exact int n

theorem path (n : Node) : Printable n.path.toList := by
  rw [Node.path, Location.toList_text, cons_iff]
  exact ⟨by decide, flatMap fun s _ => by simp [step s]⟩

end Printable

section

variable {separator : Char}

theorem splitOn_append_cons {front : List Char} (absent : separator ∉ front) (rest : List Char) :
    (front ++ separator :: rest).splitOn separator = front :: rest.splitOn separator := by
  have single : front.splitOn separator = [front] := List.splitOn_eq_singleton absent
  rw [List.splitOn_eq_splitOnP] at single ⊢
  rw [List.splitOnP_append_cons front rest (p := (· == separator)) (beq_self_eq_true separator), single,
    List.singleton_append, ← List.splitOn_eq_splitOnP]

theorem splitOn_flatMap {lines : List (List Char)} (absent : ∀ l ∈ lines, separator ∉ l) :
    (lines.flatMap fun l => l ++ [separator]).splitOn separator = lines ++ [[]] := by
  induction lines with
  | nil => rfl
  | cons l lines ih =>
    rw [List.forall_mem_cons] at absent
    rw [List.flatMap_cons, List.append_assoc, List.singleton_append, splitOn_append_cons absent.1,
      ih absent.2, List.cons_append]

end

namespace Report

def printed (format : Format) (nodes : List Node) (themeName : String) : List Char :=
  (Console.outputAll ((prepare format nodes false themeName).flatMap Operation.calls)).toList

theorem toList_outputAll_write (lines : List String) :
    (Console.outputAll ((lines.map .write).flatMap Operation.calls)).toList =
      (lines.map String.toList).flatMap fun l => l ++ ['\n'] := by
  induction lines with
  | nil => rfl
  | cons l lines ih =>
    simp only [Console.outputAll, String.toList_join] at ih
    simp [Console.outputAll, Operation.calls, Console.output, ih]

section

variable {format : Format} {nodes : List Node} {themeName : String} {line : Node → String}

theorem lineReport_plain (nonempty : nodes ≠ []) (line : Bool → Node → String) :
    lineReport line nodes false = nodes.map fun n => .write (line false n) := by
  simp [lineReport, lineOperations, nonempty]

theorem exists_of_mem_lineReport {line : Bool → Node → String} (nonempty : nodes ≠ []) {text : String}
    (member : .write text ∈ lineReport line nodes false) : ∃ n ∈ nodes, text = line false n := by
  rw [lineReport_plain nonempty] at member
  obtain ⟨n, inside, same⟩ := List.mem_map.mp member
  cases same
  exact ⟨n, inside, rfl⟩

theorem splitOn_printed
    (prepared : prepare format nodes false themeName = nodes.map fun n => .write (line n))
    (unbroken : ∀ n, Unbroken (line n).toList) :
    (printed format nodes themeName).splitOn '\n' = nodes.map (fun n => (line n).toList) ++ [[]] := by
  have writes : prepare format nodes false themeName = (nodes.map line).map .write := by
    rw [prepared, List.map_map]
    rfl
  have absent : ∀ l ∈ (nodes.map line).map String.toList, '\n' ∉ l := by
    rw [List.map_map]
    exact List.forall_mem_map.mpr fun n _ feed => (unbroken n '\n' feed).2 rfl
  rw [printed, writes, toList_outputAll_write, splitOn_flatMap absent, List.map_map]
  rfl

end

/-- What a reader of a report by lines finds. -/
structure LinesRecovered (nodes : List Node) (themeName : String) : Prop where
  valueLines : prepare .values nodes false themeName = nodes.map fun n => .write n.value.write
  pathLines : prepare .paths nodes false themeName = nodes.map fun n => .write n.path
  nodeLines : prepare .nodes nodes false themeName =
    nodes.map fun n => .write (n.path ++ "\t" ++ n.value.write)
  unbroken : ∀ format, format ≠ .json → ∀ text, .write text ∈ prepare format nodes false themeName →
    Unbroken text.toList
  oneTab : ∀ text, .write text ∈ prepare .nodes nodes false themeName → text.toList.count '\t' = 1
  values : (printed .values nodes themeName).splitOn '\n' =
    nodes.map (fun n => n.value.write.toList) ++ [[]]
  paths : (printed .paths nodes themeName).splitOn '\n' = nodes.map (fun n => n.path.toList) ++ [[]]
  columns : ((printed .nodes nodes themeName).splitOn '\n').dropLast.map (·.splitOn '\t') =
    nodes.map fun n => [n.path.toList, n.value.write.toList]

theorem toList_columns (n : Node) : (n.path ++ "\t" ++ n.value.write).toList =
    n.path.toList ++ '\t' :: n.value.write.toList := by
  simp

theorem unbroken_columns (n : Node) : Unbroken (n.path ++ "\t" ++ n.value.write).toList := by
  rw [toList_columns, Value.unbroken_append, Value.unbroken_cons]
  exact ⟨(Printable.path n).unbroken, by decide, (Printable.write n.value).unbroken⟩

theorem splitOn_columns (n : Node) : (n.path ++ "\t" ++ n.value.write).toList.splitOn '\t' =
    [n.path.toList, n.value.write.toList] := by
  have path : '\t' ∉ n.path.toList := (Printable.path n).not_mem (by decide)
  have value : '\t' ∉ n.value.write.toList := (Printable.write n.value).not_mem (by decide)
  rw [toList_columns, splitOn_append_cons path, List.splitOn_eq_singleton value]

theorem count_columns (n : Node) : (n.path ++ "\t" ++ n.value.write).toList.count '\t' = 1 := by
  have path : n.path.toList.count '\t' = 0 :=
    List.count_eq_zero.mpr ((Printable.path n).not_mem (by decide))
  have value : n.value.write.toList.count '\t' = 0 :=
    List.count_eq_zero.mpr ((Printable.write n.value).not_mem (by decide))
  rw [toList_columns, List.count_append, List.count_cons_self, path, value]

theorem lines_recovered {nodes : List Node} (nonempty : nodes ≠ []) (themeName : String) :
    LinesRecovered nodes themeName := by
  have valueLines : prepare .values nodes false themeName = nodes.map fun n => .write n.value.write :=
    lineReport_plain nonempty valueLine
  have pathLines : prepare .paths nodes false themeName = nodes.map fun n => .write n.path :=
    lineReport_plain nonempty pathLine
  have nodeLines : prepare .nodes nodes false themeName =
      nodes.map fun n => .write (n.path ++ "\t" ++ n.value.write) :=
    lineReport_plain nonempty nodeLine
  refine ⟨valueLines, pathLines, nodeLines, fun format notJson text member => ?_, fun text member => ?_,
    splitOn_printed valueLines fun n => (Printable.write n.value).unbroken,
    splitOn_printed pathLines fun n => (Printable.path n).unbroken, ?_⟩
  · cases format with
    | json => exact absurd rfl notJson
    | values =>
      obtain ⟨n, -, rfl⟩ := exists_of_mem_lineReport nonempty member
      exact (Printable.write n.value).unbroken
    | paths =>
      obtain ⟨n, -, rfl⟩ := exists_of_mem_lineReport nonempty member
      exact (Printable.path n).unbroken
    | nodes =>
      obtain ⟨n, -, rfl⟩ := exists_of_mem_lineReport nonempty member
      exact unbroken_columns n
  · obtain ⟨n, -, rfl⟩ := exists_of_mem_lineReport nonempty member
    exact count_columns n
  · rw [splitOn_printed nodeLines unbroken_columns, List.dropLast_concat, List.map_map]
    exact List.map_congr_left fun n _ => splitOn_columns n

/-- A name and a text that hold a line end and a tabulator, as they are and escaped. -/
theorem lines_recovered_controls :
    let nodes : List Node := [⟨.string "\n\\n", [.member "\t"]⟩, ⟨.array [], [.member "\\t", .index 0]⟩]
    nodes ≠ [] ∧ LinesRecovered nodes "" ∧
    printed .nodes nodes "" = "$['\\t']\t\"\\n\\\\n\"\n$['\\\\t'][0]\t[]\n".toList := by
  intro nodes
  have nonempty : nodes ≠ [] := List.cons_ne_nil _ _
  exact ⟨nonempty, lines_recovered nonempty "", by decide +kernel⟩

end Report

end JsonPath
