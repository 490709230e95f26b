import JsonPath.Command.Arguments
import Mathlib.Data.List.TakeWhile

namespace JsonPath

namespace Arguments

variable {spellings : Spellings} {ms : List Mention} {pending : Option Parameter}

theorem mem_of_lookup {s : String} {known : Parameter × Effect} (found : spellings.lookup s = some known) :
    (s, known) ∈ spellings := by
  obtain ⟨before, after, rfl, -⟩ := List.lookup_eq_some_iff.mp found
  simp

theorem cluster?_spelled {letters : List Char} (run : cluster? spellings letters = some (ms, pending)) :
    (∀ m ∈ ms, ∃ c effect, spellings.lookup (String.ofList ['-', c]) = some (m.1, effect)) ∧
    ∀ p ∈ pending, ∃ c, spellings.lookup (String.ofList ['-', c]) = some (p, .takes) := by
  fun_induction cluster? spellings letters generalizing ms pending with
  | case1 =>
    cases run
    simp
  | case2 => contradiction
  | case3 c rest p b known ih =>
    obtain ⟨⟨ms, pending⟩, inner, same⟩ := Option.map_eq_some_iff.mp run
    cases same
    obtain ⟨mentioned, waiting⟩ := ih inner
    refine ⟨?_, waiting⟩
    intro m member
    rcases List.mem_cons.mp member with rfl | member
    · exact ⟨c, .sets b, known⟩
    · exact mentioned m member
  | case4 c rest p known last =>
    cases run
    refine ⟨by simp, ?_⟩
    intro p' same
    cases same
    exact ⟨c, known⟩
  | case5 c rest p known more =>
    cases run
    refine ⟨?_, by simp⟩
    intro m member
    rw [List.mem_singleton.mp member]
    exact ⟨c, .takes, known⟩

theorem spelled?_spelled {arg : List Char} (run : spelled? spellings arg = some (ms, pending)) :
    ∃ p effect, spellings.lookup (String.ofList (arg.takeWhile (· ≠ '='))) = some (p, effect) ∧
      (∀ m ∈ ms, m.1 = p) ∧ (∀ p' ∈ pending, p' = p ∧ effect = .takes) ∧
      (effect = .takes → (arg = arg.takeWhile (· ≠ '=') ∧ ms = [] ∧ pending = some p) ∨
        ∃ value, arg = arg.takeWhile (· ≠ '=') ++ '=' :: value ∧
          ms = [(p, .text (String.ofList value))] ∧ pending = none) := by
  obtain ⟨⟨p, effect⟩, known, effects⟩ := Option.bind_eq_some_iff.mp run
  have whole : arg.takeWhile (· ≠ '=') ++ arg.dropWhile (· ≠ '=') = arg := List.takeWhile_append_dropWhile
  refine ⟨p, effect, known, ?_⟩
  cases behind : arg.dropWhile (· ≠ '=') with
  | nil =>
    rw [behind] at effects whole
    cases effect with
    | sets b =>
      cases effects
      simp
    | takes =>
      cases effects
      rw [List.append_nil] at whole
      exact ⟨by simp, by simp, fun _ => .inl ⟨whole.symm, rfl, rfl⟩⟩
  | cons d value =>
    have sign : d = '=' := by
      have stops := List.head?_dropWhile_not (· ≠ '=') arg
      rw [behind] at stops
      simpa using stops
    subst sign
    rw [behind] at effects whole
    cases effect with
    | sets b => contradiction
    | takes =>
      cases effects
      exact ⟨by simp, by simp, fun _ => .inr ⟨value, whole.symm, rfl, rfl⟩⟩

theorem lookup_eq_head? (p : Parameter) (ms : List Mention) :
    ms.lookup p = (ms.filter (·.1 = p)).head?.map Prod.snd := by
  induction ms with
  | nil => rfl
  | cons m ms ih =>
    obtain ⟨q, given⟩ := m
    rw [List.lookup_cons, List.filter_cons]
    by_cases same : q = p
    · simp [same]
    · have differs : (p == q) = false := by simpa using Ne.symm same
      simpa [same, differs] using ih

theorem given?_eq_getLast? (a : Arguments) (p : Parameter) :
    a.given? p = (a.mentions.filter (·.1 = p)).getLast?.map Prod.snd := by
  rw [given?, lookup_eq_head?, List.filter_reverse, List.head?_reverse]

end Arguments

/-- What a command takes an argument for. `mentions` are those that an option makes by itself. -/
inductive Role
  | option (mentions : List Mention)
  | value (p : Parameter)
  | stop
  | operand

namespace Role

def isOption : Role → Bool
  | option _ => true
  | _ => false

def mentioned : Role → String → List Mention
  | option ms, _ => ms
  | value p, arg => [(p, .text arg)]
  | stop, _ => []
  | operand, _ => []

def operands : Role → String → List String
  | operand, arg => [arg]
  | _, _ => []

end Role

abbrev Line := List (Role × String)

namespace Line

def args (line : Line) : List String := line.map Prod.snd

def mentions (line : Line) : List Mention := line.flatMap fun word => word.1.mentioned word.2

def operands (line : Line) : List String := line.flatMap fun word => word.1.operands word.2

def arguments (line : Line) : Arguments := ⟨line.mentions, line.operands⟩

def ofOperands (args : List String) : Line := args.map (Prod.mk .operand)

open Arguments in
/-- The roles are those that a command with these options gives to its arguments. `pending` is the
parameter whose value comes first. -/
inductive Reads (spellings : Spellings) : Option Parameter → Line → Prop
  | done : Reads spellings none []
  | value {p : Parameter} {arg : String} {line : Line} (rest : Reads spellings none line) :
      Reads spellings (some p) ((.value p, arg) :: line)
  | stop (args : List String) : Reads spellings none ((.stop, "--") :: ofOperands args)
  | option {arg : String} {ms : List Mention} {pending : Option Parameter} {line : Line}
      (goesOn : arg ≠ "--") (dash : isOption arg) (means : option? spellings arg = some (ms, pending))
      (rest : Reads spellings pending line) : Reads spellings none ((.option ms, arg) :: line)
  | operand {arg : String} {line : Line} (plain : ¬ isOption arg) (rest : Reads spellings none line) :
      Reads spellings none ((.operand, arg) :: line)

@[simp] theorem args_cons (role : Role) (arg : String) (line : Line) :
    args ((role, arg) :: line) = arg :: line.args := rfl

@[simp] theorem mentions_cons (role : Role) (arg : String) (line : Line) :
    mentions ((role, arg) :: line) = role.mentioned arg ++ line.mentions := List.flatMap_cons

@[simp] theorem operands_cons (role : Role) (arg : String) (line : Line) :
    operands ((role, arg) :: line) = role.operands arg ++ line.operands := List.flatMap_cons

theorem args_ofOperands (args : List String) : (ofOperands args).args = args := by
  simp [ofOperands, Line.args, Function.comp_def]

theorem mentions_ofOperands (args : List String) : (ofOperands args).mentions = [] := by
  simp [ofOperands, mentions, Role.mentioned]

theorem operands_ofOperands (args : List String) : (ofOperands args).operands = args := by
  simp [ofOperands, operands, List.flatMap_map, Role.operands]

variable {spellings : Spellings} {pending : Option Parameter}

theorem ne_dashes {arg : String} (plain : ¬ Arguments.isOption arg) : arg ≠ "--" := by
  rintro rfl
  exact plain (by decide)

theorem Reads.readFrom {line : Line} (reads : Reads spellings pending line) :
    Arguments.readFrom spellings true pending line.args = some line.arguments := by
  induction reads with
  | done => rfl
  | value rest ih =>
    rw [args_cons, Arguments.readFrom, ih]
    simp [arguments, Role.mentioned, Role.operands]
  | stop args =>
    rw [args_cons, args_ofOperands, Arguments.readFrom, if_pos rfl]
    simp [arguments, Role.mentioned, Role.operands, mentions_ofOperands, operands_ofOperands]
  | option goesOn dash means rest ih =>
    rw [args_cons, Arguments.readFrom, if_neg goesOn, if_pos dash, means]
    simp [ih, arguments, Role.mentioned, Role.operands]
  | operand plain rest ih =>
    rw [args_cons, Arguments.readFrom, if_neg (ne_dashes plain), if_neg plain, if_pos rfl, ih]
    simp [arguments, Role.mentioned, Role.operands]

theorem exists_reads {args : List String} {a : Arguments}
    (run : Arguments.readFrom spellings true pending args = some a) :
    ∃ line, Reads spellings pending line ∧ line.args = args ∧ line.arguments = a := by
  induction args generalizing pending a with
  | nil =>
    cases pending with
    | none => exact ⟨[], .done, rfl, Option.some.inj run⟩
    | some p => contradiction
  | cons arg rest ih =>
    cases pending with
    | some p =>
      obtain ⟨a, readRest, rfl⟩ := Option.map_eq_some_iff.mp run
      obtain ⟨line, reads, rfl, rfl⟩ := ih readRest
      exact ⟨(.value p, arg) :: line, .value reads, rfl, rfl⟩
    | none =>
      rw [Arguments.readFrom] at run
      by_cases stop : arg = "--"
      · subst stop
        rw [if_pos rfl] at run
        cases run
        exact ⟨(.stop, "--") :: ofOperands rest, .stop rest, by simp [args_ofOperands],
          by simp [arguments, Role.mentioned, Role.operands, mentions_ofOperands, operands_ofOperands]⟩
      · rw [if_neg stop] at run
        by_cases dash : Arguments.isOption arg
        · rw [if_pos dash] at run
          cases means : Arguments.option? spellings arg with
          | none =>
            rw [means] at run
            contradiction
          | some found =>
            rw [means] at run
            obtain ⟨a, readRest, rfl⟩ := Option.map_eq_some_iff.mp run
            obtain ⟨line, reads, rfl, rfl⟩ := ih readRest
            exact ⟨(.option found.1, arg) :: line, .option stop dash means reads, rfl, rfl⟩
        · rw [if_neg dash, if_pos rfl] at run
          obtain ⟨a, readRest, rfl⟩ := Option.map_eq_some_iff.mp run
          obtain ⟨line, reads, rfl, rfl⟩ := ih readRest
          exact ⟨(.operand, arg) :: line, .operand dash reads, rfl, rfl⟩

theorem readFrom_eq_some_iff {args : List String} {a : Arguments} :
    Arguments.readFrom spellings true pending args = some a ↔
      ∃ line, Reads spellings pending line ∧ line.args = args ∧ line.arguments = a := by
  constructor
  · exact exists_reads
  · rintro ⟨line, reads, rfl, rfl⟩
    exact reads.readFrom

end Line

end JsonPath
