import JsonPath.Log
import JsonPath.Options
import JsonPath.Pattern.Reader
import JsonPath.Pattern.Safety
import JsonPath.Pattern.Text
import JsonPath.Pattern.Walk
import JsonPath.Text.Lines

namespace JsonPath

/-- Why a text was not matched. A pattern that is merely invalid matches nothing instead. -/
inductive MatchFailure
  | excess (e : Excess)
  | integerTooLong (digits : Nat)
  deriving DecidableEq

namespace Pattern

def tooBigMessage (text : String) (place : Nat) : String :=
  let (line, column) := lineAndColumn text.toList place
  "repeat count too big at position " ++ toString place
    ++ if text.toList.contains '\n' then
        " (line " ++ toString line ++ ", column " ++ toString column ++ ")"
      else ""

/-- The pattern that a text writes. One that is invalid or has too big a count is logged and is none;
one that is too long or unsafe is refused. -/
def compile (options : Options) (source : String) :
    Except MatchFailure (Option Pattern × List LogEntry) :=
  if source.length > options.maxPatternLength then
    .error (.excess (.patternLength source.length options.maxPatternLength))
  else match read source with
  | .error (.integerTooLong digits) => .error (.integerTooLong digits)
  | .error (.invalid cause offset) =>
    .ok (none, [⟨.debug, "Invalid I-Regexp: " ++ cause.located offset source⟩])
  | .ok p =>
    if p.isUnsafe && options.rejectUnsafePatterns then
      .error (.excess (.unsafePattern source))
    else match p.tooBig? with
    | some place =>
      .ok (none, [⟨.debug, "Regex compilation failed for " ++ quoted source ++ ": "
        ++ tooBigMessage p.text place⟩])
    | none => .ok (some p, [])

end Pattern

/-- What tells whether a whole text, or some part of it, belongs to a compiled pattern. -/
structure Engine where
  whole : Pattern → List Char → Bool
  part : Pattern → List Char → Bool

def Engine.standard : Engine := ⟨Pattern.matchesWhole, Pattern.matchesPart⟩

structure Matcher where
  compiled : List (String × Option Pattern) := []

namespace Matcher

/-- A pattern from the matcher, or compiled and kept there. One that is refused is not kept. -/
def pattern (m : Matcher) (options : Options) (source : String) :
    Except MatchFailure (Option Pattern × List LogEntry × Matcher) :=
  match m.compiled.lookup source with
  | some p => .ok (p, [], m)
  | none => do
    let (p, log) ← Pattern.compile options source
    return (p, log, ⟨(source, p) :: m.compiled⟩)

def test (engine : Engine) (options : Options) (p? : Option Pattern) (text : String)
    (anchored : Bool) : Except MatchFailure Bool :=
  match p? with
  | none => .ok false
  | some p =>
    if text.length > options.maxInputLength then
      .error (.excess (.inputLength text.length options.maxInputLength))
    else if anchored then .ok (engine.whole p text.toList)
    else .ok (engine.part p text.toList)

def runWith (engine : Engine) (m : Matcher) (options : Options) (source text : String)
    (anchored : Bool) : Except MatchFailure Bool × List LogEntry × Matcher :=
  match m.pattern options source with
  | .error e => (.error e, [], m)
  | .ok (p?, log, m) => (test engine options p? text anchored, log, m)

def run (m : Matcher) (options : Options) (source text : String) (anchored : Bool) :
    Except MatchFailure Bool × List LogEntry × Matcher :=
  m.runWith .standard options source text anchored

end Matcher

end JsonPath
