import JsonPath.Command.Program
import JsonPath.Proofs.Text.Utf8
import JsonPath.Proofs.Value.LineEnds

namespace JsonPath

def HoldsText (bytes : List UInt8) : Prop := ∃ text, bytes = Utf8.encode text

def Holds (bytes : List UInt8) (v : Value) : Prop :=
  ∃ text, bytes = Utf8.encode text ∧ Value.IsText v text

/-- The bytes encode a text with an integer of so many digits, more than are read, where reading stops. -/
def HoldsLongInteger (bytes : List UInt8) (digits : Nat) : Prop :=
  ∃ text, bytes = Utf8.encode text ∧ Value.LongInteger digits text

theorem readText_eq_ok_iff {text : String} {v : Value} :
    readText text = .ok v ↔ Value.IsText v text.toList := by
  rw [← Value.read_eq_ok_iff, readText]
  rcases Value.read text with e | w
  · cases e <;> simp
  · simp

theorem readText_eq_integerTooLong_iff {text : String} {digits : Nat} :
    readText text = .error (.integerTooLong digits) ↔ Value.LongInteger digits text.toList := by
  rw [← Value.read_eq_integerTooLong_iff, readText]
  rcases Value.read text with e | w
  · cases e <;> simp
  · simp

theorem readText_ne_encoding {text : String} {invalid : Utf8.Invalid} :
    readText text ≠ .error (.encoding invalid) := by
  rw [readText]
  split <;> simp

theorem readBytes_encode (text : List Char) :
    readBytes (Utf8.encode text) = readText (String.ofList (unifyLineEnds text)) := by
  have decoded : Utf8.decode (Utf8.encode text) = .ok (String.ofList text) := by
    rw [Utf8.decode_eq_ok_iff, String.toList_ofList]
  simp only [readBytes, decoded, String.toList_ofList]

theorem readBytes_eq_encoding_iff {bytes : List UInt8} :
    (∃ invalid, readBytes bytes = .error (.encoding invalid)) ↔ ¬ HoldsText bytes := by
  constructor
  · rintro ⟨invalid, run⟩ ⟨text, rfl⟩
    rw [readBytes_encode] at run
    exact readText_ne_encoding run
  · intro noText
    cases decoded : Utf8.decode bytes with
    | error invalid => exact ⟨invalid, by rw [readBytes, decoded]⟩
    | ok text => exact absurd ⟨text.toList, Utf8.decode_eq_ok_iff.mp decoded⟩ noText

theorem holdsText_of_readBytes {bytes : List UInt8} {result : Except TextFailure Value}
    (run : readBytes bytes = result) (encoded : ∀ invalid, result ≠ .error (.encoding invalid)) :
    HoldsText bytes := by
  by_contra noText
  obtain ⟨invalid, failed⟩ := readBytes_eq_encoding_iff.mpr noText
  exact encoded invalid (run.symm.trans failed)

theorem readBytes_eq_ok_iff {bytes : List UInt8} {v : Value} :
    readBytes bytes = .ok v ↔ Holds bytes v := by
  constructor
  · intro run
    obtain ⟨text, rfl⟩ := holdsText_of_readBytes run (by simp)
    rw [readBytes_encode, readText_eq_ok_iff, String.toList_ofList, Value.isText_unifyLineEnds_iff] at run
    exact ⟨text, rfl, run⟩
  · rintro ⟨text, rfl, isText⟩
    rwa [readBytes_encode, readText_eq_ok_iff, String.toList_ofList, Value.isText_unifyLineEnds_iff]

theorem readBytes_eq_integerTooLong_iff {bytes : List UInt8} {digits : Nat} :
    readBytes bytes = .error (.integerTooLong digits) ↔ HoldsLongInteger bytes digits := by
  constructor
  · intro run
    obtain ⟨text, rfl⟩ := holdsText_of_readBytes run (by simp)
    rw [readBytes_encode, readText_eq_integerTooLong_iff, String.toList_ofList,
      Value.longInteger_unifyLineEnds_iff] at run
    exact ⟨text, rfl, run⟩
  · rintro ⟨text, rfl, long⟩
    rwa [readBytes_encode, readText_eq_integerTooLong_iff, String.toList_ofList,
      Value.longInteger_unifyLineEnds_iff]

def Decodes (bytes : List UInt8) : Prop :=
  HoldsText bytes ∧ ∀ digits, ¬ HoldsLongInteger bytes digits

theorem Holds.decodes {bytes : List UInt8} {v : Value} (holds : Holds bytes v) : Decodes bytes := by
  refine ⟨⟨holds.choose, holds.choose_spec.1⟩, fun digits long => ?_⟩
  rw [← readBytes_eq_ok_iff] at holds
  rw [← readBytes_eq_integerTooLong_iff, holds] at long
  contradiction

theorem Holds.unique {bytes : List UInt8} {v w : Value} (first : Holds bytes v) (second : Holds bytes w) :
    v = w := by
  rw [← readBytes_eq_ok_iff] at first second
  exact Except.ok.inj (first.symm.trans second)

theorem readBytes_cases (bytes : List UInt8) :
    (∃ v, readBytes bytes = .ok v ∧ Holds bytes v) ∨
    (∃ message, readBytes bytes = .error (.malformed message) ∧ Decodes bytes ∧ ∀ v, ¬ Holds bytes v) ∨
    (∃ invalid, readBytes bytes = .error (.encoding invalid) ∧ ¬ HoldsText bytes) ∨
    ∃ digits, readBytes bytes = .error (.integerTooLong digits) ∧ HoldsLongInteger bytes digits := by
  -- The decoder fails first and the reader after it, each in its own way.
  cases run : readBytes bytes with
  | ok v => exact .inl ⟨v, rfl, readBytes_eq_ok_iff.mp run⟩
  | error failure =>
    cases failure with
    | encoding invalid =>
      exact .inr (.inr (.inl ⟨invalid, rfl, readBytes_eq_encoding_iff.mp ⟨invalid, run⟩⟩))
    | integerTooLong digits =>
      exact .inr (.inr (.inr ⟨digits, rfl, readBytes_eq_integerTooLong_iff.mp run⟩))
    | malformed message =>
      refine .inr (.inl ⟨message, rfl, ⟨holdsText_of_readBytes run (by simp), fun digits long => ?_⟩,
        fun v holds => ?_⟩)
      · rw [← readBytes_eq_integerTooLong_iff, run] at long
        cases long
      · rw [← readBytes_eq_ok_iff, run] at holds
        contradiction

theorem ofFile_content (bytes : List UInt8) :
    (∃ ms, Settings.ofFile (.content bytes) = .ok (ms, false) ∧ Holds bytes (.object ms)) ∨
    (Settings.ofFile (.content bytes) = .ok ([], true) ∧ Decodes bytes ∧ ∀ ms, ¬ Holds bytes (.object ms)) ∨
    ∃ failure, Settings.ofFile (.content bytes) = .error failure ∧ failure ≠ .malformed ∧
      ¬ Decodes bytes := by
  rcases readBytes_cases bytes with
    ⟨v, run, holds⟩ | ⟨message, run, decodes, noObject⟩ | ⟨invalid, run, noText⟩ | ⟨digits, run, long⟩
  · cases v with
    | object ms => exact .inl ⟨ms, by simp only [Settings.ofFile, run], holds⟩
    | _ =>
      refine .inr (.inl ⟨by simp only [Settings.ofFile, run], holds.decodes, fun ms object => ?_⟩)
      cases holds.unique object
  · exact .inr (.inl ⟨by simp only [Settings.ofFile, run], decodes, fun ms => noObject _⟩)
  · exact .inr (.inr ⟨.encoding invalid, by simp only [Settings.ofFile, run], by simp,
      fun decodes => noText decodes.1⟩)
  · exact .inr (.inr ⟨.failure (.integerTooLong digits), by simp only [Settings.ofFile, run], by simp,
      fun decodes => decodes.2 digits long⟩)

theorem document_content {bytes : List UInt8} {input : Input} {name : String} (isFile : name ≠ "-")
    (found : input.file name = .content bytes) (t : Transcript) :
    (∃ v, Command.document input (some name) t = .ok v t ∧ Holds bytes v) ∨
    (∃ message, Command.document input (some name) t =
      .error (.refused (.malformed (Refusal.named name) message)) t ∧ Decodes bytes ∧ ∀ v, ¬ Holds bytes v) ∨
    ∃ failure, Command.document input (some name) t = .error failure t ∧ (∀ r, failure ≠ .refused r) ∧
      ¬ Decodes bytes := by
  rw [Command.document, if_neg isFile, found]
  rcases readBytes_cases bytes with
    ⟨v, run, holds⟩ | ⟨message, run, decodes, noValue⟩ | ⟨invalid, run, noText⟩ | ⟨digits, run, long⟩
  · exact .inl ⟨v, by simp only [run]; rfl, holds⟩
  · exact .inr (.inl ⟨message, by simp only [run]; rfl, decodes, noValue⟩)
  · exact .inr (.inr ⟨.encoding invalid, by simp only [run]; rfl, by simp, fun decodes => noText decodes.1⟩)
  · exact .inr (.inr ⟨.integerTooLong digits, by simp only [run]; rfl, by simp,
      fun decodes => decodes.2 digits long⟩)

section
variable {bytes : List UInt8}

theorem ofFile_eq_ok_iff {ms : List (String × Value)} :
    Settings.ofFile (.content bytes) = .ok (ms, false) ↔ Holds bytes (.object ms) := by
  rcases ofFile_content bytes with ⟨ms', run, holds⟩ | ⟨run, -, noObject⟩ | ⟨failure, run, -, fails⟩
  · rw [run]
    refine ⟨fun same => ?_, fun object => ?_⟩
    · cases same
      exact holds
    · cases holds.unique object
      rfl
  · simp [run, noObject]
  · simp only [run, reduceCtorEq, false_iff]
    exact fun object => fails object.decodes

theorem ofFile_malformed_iff {ms : List (String × Value)} :
    Settings.ofFile (.content bytes) = .ok (ms, true) ↔
      ms = [] ∧ Decodes bytes ∧ ∀ ms, ¬ Holds bytes (.object ms) := by
  rcases ofFile_content bytes with ⟨ms', run, holds⟩ | ⟨run, decodes, noObject⟩ | ⟨failure, run, -, fails⟩
  · simp only [run, Except.ok.injEq, Prod.mk.injEq, Bool.false_eq_true, and_false, false_iff]
    exact fun ⟨_, _, noObject⟩ => noObject ms' holds
  · simp [run, decodes, noObject, eq_comm]
  · simp [run, fails]

theorem ofFile_error_iff : (∃ failure, Settings.ofFile (.content bytes) = .error failure) ↔ ¬ Decodes bytes := by
  rcases ofFile_content bytes with ⟨ms', run, holds⟩ | ⟨run, decodes, -⟩ | ⟨failure, run, -, fails⟩
  · simp [run, holds.decodes]
  · simp [run, decodes]
  · simp [run, fails]

theorem load_malformed (decodes : Decodes bytes) (noObject : ∀ ms, ¬ Holds bytes (.object ms)) :
    Settings.load (.content bytes) = .error .malformed := by
  rw [Settings.load, ofFile_malformed_iff.mpr ⟨rfl, decodes, noObject⟩]
  rfl

theorem load_of_not_decodes (fails : ¬ Decodes bytes) :
    ∃ failure, Settings.load (.content bytes) = .error failure ∧ failure ≠ .malformed := by
  rcases ofFile_content bytes with ⟨ms, -, holds⟩ | ⟨-, decodes, -⟩ | ⟨failure, run, other, -⟩
  · exact absurd holds.decodes fails
  · exact absurd decodes fails
  · refine ⟨failure, ?_, other⟩
    rw [Settings.load, run]
    rfl

variable {input : Input} {name : String} (isFile : name ≠ "-") (found : input.file name = .content bytes)
  (t : Transcript)
include isFile found

theorem document_eq_ok_iff {v : Value} {t' : Transcript} :
    Command.document input (some name) t = .ok v t' ↔ Holds bytes v ∧ t' = t := by
  rcases document_content isFile found t with
    ⟨w, run, holds⟩ | ⟨message, run, -, noValue⟩ | ⟨failure, run, -, fails⟩
  · rw [run]
    refine ⟨fun same => ?_, fun ⟨other, same⟩ => ?_⟩
    · cases same
      exact ⟨holds, rfl⟩
    · rw [holds.unique other, same]
  · simp [run, noValue]
  · simp only [run, reduceCtorEq, false_iff]
    exact fun ⟨holds, _⟩ => fails holds.decodes

theorem document_malformed_iff :
    (∃ message, Command.document input (some name) t =
      .error (.refused (.malformed (Refusal.named name) message)) t) ↔
    Decodes bytes ∧ ∀ v, ¬ Holds bytes v := by
  rcases document_content isFile found t with
    ⟨w, run, holds⟩ | ⟨message, run, decodes, noValue⟩ | ⟨failure, run, other, fails⟩
  · simp only [run, reduceCtorEq, exists_false, false_iff]
    exact fun ⟨_, noValue⟩ => noValue w holds
  · simp [run, decodes, noValue]
  · simp only [fails, false_and, iff_false]
    rintro ⟨message, same⟩
    rw [run] at same
    cases same
    exact other _ rfl

theorem document_fails_iff :
    (∃ failure t', Command.document input (some name) t = .error failure t' ∧ ∀ r, failure ≠ .refused r) ↔
      ¬ Decodes bytes := by
  rcases document_content isFile found t with
    ⟨w, run, holds⟩ | ⟨message, run, decodes, noValue⟩ | ⟨failure, run, other, fails⟩
  · simp [run, holds.decodes]
  · simp [run, decodes]
  · exact iff_of_true ⟨failure, t, run, other⟩ fails

end

/-- What becomes of the content of a file that holds settings, and of one that holds a document. Reading
may go as deep as a text nests; a bound on recursion is left aside. -/
structure ContentReported (bytes : List UInt8) : Prop where
  settings : ∀ ms, Settings.ofFile (.content bytes) = .ok (ms, false) ↔ Holds bytes (.object ms)
  malformed : ∀ ms, Settings.ofFile (.content bytes) = .ok (ms, true) ↔
    ms = [] ∧ Decodes bytes ∧ ∀ ms, ¬ Holds bytes (.object ms)
  settingsFail : (∃ failure, Settings.ofFile (.content bytes) = .error failure) ↔ ¬ Decodes bytes
  /-- Malformed settings end the program. -/
  refused : ∀ args input, input.file (Program.settingsFile args) = .content bytes → Decodes bytes →
    (∀ ms, ¬ Holds bytes (.object ms)) →
    Program.run args input = { exit := 2, stderr := "Error: Malformed config\n" }
  /-- Settings that cannot be decoded end it as well, but not as malformed ones do. -/
  notRefused : ∀ args input, input.file (Program.settingsFile args) = .content bytes → ¬ Decodes bytes →
    (Program.run args input).exit = 1 ∧ (Program.run args input).stderr = ""
  document : ∀ input name, name ≠ "-" → input.file name = .content bytes → ∀ t v t',
    Command.document input (some name) t = .ok v t' ↔ Holds bytes v ∧ t' = t
  malformedDocument : ∀ input name, name ≠ "-" → input.file name = .content bytes → ∀ t,
    (∃ message, Command.document input (some name) t =
      .error (.refused (.malformed (Refusal.named name) message)) t) ↔
    Decodes bytes ∧ ∀ v, ¬ Holds bytes v
  documentFails : ∀ input name, name ≠ "-" → input.file name = .content bytes → ∀ t,
    (∃ failure t', Command.document input (some name) t = .error failure t' ∧
      ∀ r, failure ≠ .refused r) ↔ ¬ Decodes bytes

/-- Each content that is text is used or refused, and only what is no text, or has an integer that is too
long, ends otherwise. -/
theorem contentReported (bytes : List UInt8) : ContentReported bytes where
  settings _ := ofFile_eq_ok_iff
  malformed _ := ofFile_malformed_iff
  settingsFail := ofFile_error_iff
  refused args input found decodes noObject := by
    rw [Program.run, found, load_malformed decodes noObject]
  notRefused args input found fails := by
    obtain ⟨failure, load, other⟩ := load_of_not_decodes fails
    rw [Program.run, found, load]
    cases failure with
    | malformed => exact absurd rfl other
    | _ => exact ⟨rfl, rfl⟩
  document _ _ isFile found t _ _ := document_eq_ok_iff isFile found t
  malformedDocument _ _ isFile found t := document_malformed_iff isFile found t
  documentFails _ _ isFile found t := document_fails_iff isFile found t

/-- A list is no object of settings. -/
theorem contentReported_array :
    Program.run [] ⟨.ok "", fun _ => .content [0x5B, 0x5D]⟩ =
      { exit := 2, stderr := "Error: Malformed config\n" } := by
  have holds : Holds [0x5B, 0x5D] (.array []) := readBytes_eq_ok_iff.mp rfl
  exact (contentReported [0x5B, 0x5D]).refused [] _ rfl holds.decodes fun ms object => by
    cases holds.unique object

/-- A byte that begins no character gets past the file of settings and the document. -/
theorem content_invalid_byte :
    Settings.ofFile (.content [0xFF]) = .error (.encoding ⟨.start, 0, [0xFF]⟩) ∧
    Command.document ⟨.ok "", fun _ => .content [0xFF]⟩ (some "document") {} =
      .error (.encoding ⟨.start, 0, [0xFF]⟩) {} :=
  ⟨rfl, rfl⟩

end JsonPath
