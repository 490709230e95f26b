import JsonPath.Proofs.Command.Files
import JsonPath.Proofs.Report.Lines
import Mathlib.Algebra.Group.Int.Defs

namespace JsonPath

namespace Command

/-- On the standard input the text is the document. -/
def Reads (text : String) (v : Value) : Prop :=
  ∀ file t, document ⟨.ok text, file⟩ none t = .ok v t ∧ document ⟨.ok text, file⟩ (some "-") t = .ok v t

theorem reads_of_isText {text : String} {v : Value} (isText : Value.IsText v text.toList) :
    Reads text v := by
  intro file t
  have read : readText text = .ok v := readText_eq_ok_iff.mpr isText
  have input : standardInput ⟨.ok text, file⟩ t = .ok v t := by
    rw [standardInput]
    simp only [read]
    rfl
  exact ⟨input, input⟩

theorem reads_write {v : Value} (lossless : v.Lossless) : Reads v.write v := by
  have isText := lossless.isText .line (List.forall_mem_nil _)
  rw [List.append_nil] at isText
  exact reads_of_isText isText

theorem reads_writeBlock {v : Value} (lossless : v.Lossless) (indent : Nat) :
    Reads (v.writeBlock indent) v := by
  have isText := lossless.isText (.block indent) (List.forall_mem_nil _)
  rw [List.append_nil] at isText
  exact reads_of_isText isText

end Command

namespace Report

/-- What is read of a report as one array, and of its values one by one. -/
structure JsonReadBack (nodes : List Node) (themeName : String) : Prop where
  prepared : prepare .json nodes false themeName = [.write (wholeText nodes)]
  whole : Command.Reads (wholeText nodes) (.array (nodes.map (·.value)))
  printed : Command.Reads (String.ofList (printed .json nodes themeName)) (.array (nodes.map (·.value)))
  single : ∀ n ∈ nodes, Command.Reads n.value.write n.value ∧
    ∀ indent, Command.Reads (n.value.writeBlock indent) n.value

theorem printed_json (nodes : List Node) (themeName : String) :
    printed .json nodes themeName = (wholeText nodes).toList ++ ['\n'] := by
  have writes : prepare .json nodes false themeName = [wholeText nodes].map .write := rfl
  rw [printed, writes, toList_outputAll_write]
  simp

theorem json_read_back {nodes : List Node} (lossless : ∀ n ∈ nodes, n.value.Lossless)
    (themeName : String) : JsonReadBack nodes themeName := by
  have whole : (Value.array (nodes.map (·.value))).Lossless := .array (List.forall_mem_map.mpr lossless)
  refine ⟨rfl, Command.reads_writeBlock whole 2, Command.reads_of_isText ?_, fun n member =>
    ⟨Command.reads_write (lossless n member), Command.reads_writeBlock (lossless n member)⟩⟩
  rw [String.toList_ofList, printed_json]
  exact whole.isText (.block 2) (List.forall_mem_singleton.mpr .lineFeed)

/-- Names out of order, a text with a quote and a line end, a long integer, and empty containers. -/
theorem json_read_back_nested :
    let v : Value := .object [("b", .string "\"\n"), ("a", .array [.int (-(10 ^ 20)), .array [], .object []])]
    (∀ n ∈ [Node.root v, ⟨.null, [.index 0]⟩], n.value.Lossless) ∧
    JsonReadBack [Node.root v, ⟨.null, [.index 0]⟩] "" := by
  intro v
  have lossless : v.Lossless := by
    refine .object (by decide) (List.forall_mem_cons.mpr ⟨.string _, List.forall_mem_singleton.mpr (.array ?_)⟩)
    refine List.forall_mem_cons.mpr ⟨.int (by decide), List.forall_mem_cons.mpr ⟨?_, ?_⟩⟩
    · exact .array (List.forall_mem_nil _)
    · exact List.forall_mem_singleton.mpr (.object List.nodup_nil (List.forall_mem_nil _))
  have both : ∀ n ∈ [Node.root v, ⟨.null, [.index 0]⟩], n.value.Lossless :=
    List.forall_mem_cons.mpr ⟨lossless, List.forall_mem_singleton.mpr .null⟩
  exact ⟨both, json_read_back both ""⟩

end Report

end JsonPath
