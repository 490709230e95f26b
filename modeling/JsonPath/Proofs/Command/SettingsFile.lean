import JsonPath.Command.Program
import JsonPath.Proofs.Command.Arguments

namespace JsonPath

namespace Settings

/-- The file that an argument names if it looks like the option for the file of settings. Its name stands
in the argument or is the next one. -/
def named? (arg : String) (after : List String) : Option String :=
  if arg = "--config" then after.head?
  else if fileFlag.isPrefixOf arg.toList then some (String.ofList (arg.toList.drop fileFlag.length))
  else none

theorem fileFlag_eq : fileFlag = "--config".toList ++ ['='] := rfl

theorem fileArgument_cons (arg : String) (after : List String) :
    fileArgument (arg :: after) = (named? arg after).getD (fileArgument after) := by
  rw [fileArgument.eq_def, named?]
  by_cases bare : arg = "--config"
  · cases after <;> simp [bare, fileArgument]
  · by_cases joined : fileFlag.isPrefixOf arg.toList <;> simp [bare, joined]

theorem named?_bare (after : List String) : named? "--config" after = after.head? := by
  simp only [named?, if_true]

theorem named?_joined {arg : String} {name : List Char} (same : arg.toList = fileFlag ++ name)
    (after : List String) : named? arg after = some (String.ofList name) := by
  have longer : arg ≠ "--config" := by
    rintro rfl
    rw [fileFlag_eq, List.append_assoc, List.self_eq_append_right] at same
    exact List.cons_ne_nil _ _ same
  have joined : fileFlag.isPrefixOf arg.toList := by
    rw [List.isPrefixOf_iff_prefix, same]
    exact List.prefix_append _ _
  rw [named?, if_neg longer, if_pos joined, same, List.drop_left]

theorem takeWhile_config (rest : List Char) :
    ("--config".toList ++ rest).takeWhile (· ≠ '=') = "--config".toList ++ rest.takeWhile (· ≠ '=') :=
  List.takeWhile_append_of_pos (List.all_eq_true.mp (by decide))

theorem takeWhile_named {arg : String} {after : List String} {file : String}
    (looks : named? arg after = some file) : arg.toList.takeWhile (· ≠ '=') = "--config".toList := by
  unfold named? at looks
  split at looks
  · next bare =>
    rw [bare]
    exact (congrArg _ (List.append_nil _).symm).trans (takeWhile_config [])
  · split at looks
    · next joined =>
      obtain ⟨name, same⟩ := List.isPrefixOf_iff_prefix.mp joined
      rw [← same, fileFlag_eq, List.append_assoc, takeWhile_config]
      rfl
    · contradiction

theorem named?_letters {arg : String} {d : Char} {letters : List Char} (chars : arg.toList = d :: letters)
    (other : ∀ rest, d = '-' → letters = '-' :: rest → False) (after : List String) :
    named? arg after = none := by
  rw [Option.eq_none_iff_forall_ne_some]
  intro file looks
  have whole : arg.toList.takeWhile (· ≠ '=') ++ arg.toList.dropWhile (· ≠ '=') = arg.toList :=
    List.takeWhile_append_dropWhile
  have dashes : "--config".toList = '-' :: '-' :: "config".toList := rfl
  rw [takeWhile_named looks, dashes, chars] at whole
  obtain ⟨first, rest⟩ := List.cons.inj whole
  exact other _ first.symm rest.symm

end Settings

open Settings (named? fileArgument fileFlag defaultFile)

namespace Arguments

variable {spellings : Spellings} {ms : List Mention} {pending : Option Parameter}

def TakesFile (spellings : Spellings) : Prop :=
  ∀ s effect, spellings.lookup s = some (.config, effect) ↔ s = "--config" ∧ effect = .takes

theorem TakesFile.ne_letter (file : TakesFile spellings) {c : Char} {p : Parameter} {effect : Effect}
    (known : spellings.lookup (String.ofList ['-', c]) = some (p, effect)) : p ≠ .config := by
  rintro rfl
  have same : (String.ofList ['-', c]).length = 8 := congrArg String.length ((file _ _).mp known).1
  rw [String.length_ofList] at same
  exact absurd same (by simp)

/-- What an option with its mentions has to do with the file of settings: it is the option for it, which
stands alone or has the name in it, or looks different and mentions no file. -/
inductive OnFile : String → List Mention → Option Parameter → Prop
  | alone : OnFile "--config" [] (some .config)
  | joined {arg : String} {name : List Char} (same : arg.toList = fileFlag ++ name) :
      OnFile arg [(.config, .text (String.ofList name))] none
  | other {arg : String} {ms : List Mention} {pending : Option Parameter}
      (apart : ∀ after, named? arg after = none) (others : ∀ m ∈ ms, m.1 ≠ .config)
      (waits : pending ≠ some .config) : OnFile arg ms pending

theorem spelled?_onFile (file : TakesFile spellings) {arg : String}
    (means : spelled? spellings arg.toList = some (ms, pending)) : OnFile arg ms pending := by
  obtain ⟨p, effect, known, mentioned, waiting, value⟩ := spelled?_spelled means
  by_cases isFile : p = .config
  · subst isFile
    obtain ⟨spelled, takes⟩ := (file _ _).mp known
    rw [← String.toList_inj, String.toList_ofList] at spelled
    rw [spelled] at value
    rcases value takes with ⟨alone, rfl, rfl⟩ | ⟨name, joined, rfl, rfl⟩
    · rw [String.toList_inj.mp alone]
      exact .alone
    · apply OnFile.joined
      rw [joined, Settings.fileFlag_eq, List.append_assoc, List.singleton_append]
  · apply OnFile.other
    · intro after
      rw [Option.eq_none_iff_forall_ne_some]
      intro name looks
      rw [Settings.takeWhile_named looks, String.ofList_toList, (file _ _).mpr ⟨rfl, rfl⟩] at known
      cases known
      contradiction
    · intro m member
      rw [mentioned m member]
      exact isFile
    · intro same
      exact isFile (waiting _ same).1.symm

theorem option?_onFile (file : TakesFile spellings) {arg : String}
    (means : option? spellings arg = some (ms, pending)) : OnFile arg ms pending := by
  unfold option? at means
  split at means
  · next rest chars =>
    rw [← chars] at means
    exact spelled?_onFile file means
  · next letters other chars =>
    obtain ⟨mentioned, waiting⟩ := cluster?_spelled means
    apply OnFile.other (Settings.named?_letters chars other)
    · intro m member
      obtain ⟨c, effect, known⟩ := mentioned m member
      exact file.ne_letter known
    · intro same
      obtain ⟨c, known⟩ := waiting .config same
      exact file.ne_letter known rfl
  · contradiction

end Arguments

namespace Line

/-- A file that an argument names by its looks, and whether the argument is an option. -/
structure Naming where
  file : String
  isOption : Bool

def namings : Line → List Naming
  | [] => []
  | (role, arg) :: rest =>
    ((named? arg (args rest)).map (Naming.mk · role.isOption)).toList ++ namings rest

def given (line : Line) : List String := (line.namings.filter (·.isOption)).map (·.file)

theorem given_cons (role : Role) (arg : String) (line : Line) : given ((role, arg) :: line) =
    (if role.isOption then (named? arg line.args).toList else []) ++ line.given := by
  rw [given, namings, List.filter_append, List.map_append]
  congr 1
  cases named? arg line.args <;> cases role <;> rfl

theorem given_ofOperands (args : List String) : (ofOperands args).given = [] := by
  induction args with
  | nil => rfl
  | cons arg args ih => exact (given_cons .operand arg _).trans ih

/-- The file of the first argument that looks like the option, whatever it is. -/
theorem fileArgument_args (line : Line) :
    fileArgument line.args = (line.namings.head?.map (·.file)).getD defaultFile := by
  induction line with
  | nil => rfl
  | cons word line ih =>
    obtain ⟨role, arg⟩ := word
    rw [args_cons, Settings.fileArgument_cons, namings]
    cases named? arg (args line) with
    | none => exact ih
    | some file => rfl

theorem Reads.mentions_config {spellings : Spellings} (file : Arguments.TakesFile spellings)
    {pending : Option Parameter} {line : Line} (reads : Reads spellings pending line) :
    line.mentions.filter (·.1 = .config) =
      ((if pending = some .config then line.args.head?.toList else []) ++ line.given).map
        fun name => (.config, .text name) := by
  -- An option without its value mentions nothing yet. Its file counts from the next argument, while
  -- `given` has it with the option, so the statement is about any parameter still waiting.
  induction reads with
  | done => rfl
  | @value p arg line rest ih =>
    rw [mentions_cons, List.filter_append, ih, given_cons]
    by_cases isFile : p = .config <;> simp [isFile, Role.mentioned, Role.isOption]
  | stop args =>
    rw [mentions_cons, mentions_ofOperands, given_cons, given_ofOperands]
    rfl
  | @option arg ms pending line goesOn dash means rest ih =>
    rw [mentions_cons, List.filter_append, ih, given_cons]
    cases Arguments.option?_onFile file means with
    | alone => simp [Role.mentioned, Role.isOption, Settings.named?_bare]
    | joined same => simp [Role.mentioned, Role.isOption, Settings.named?_joined same]
    | other apart others waits =>
      have none : ms.filter (·.1 = .config) = [] := by simpa using others
      simp [Role.mentioned, Role.isOption, apart, waits, none]
  | operand plain rest ih =>
    rw [mentions_cons, List.filter_append, ih, given_cons]
    simp [Role.mentioned, Role.isOption]

theorem Reads.text?_config {spellings : Spellings} (file : Arguments.TakesFile spellings) {line : Line}
    (reads : Reads spellings none line) : line.arguments.text? .config = line.given.getLast? := by
  rw [Arguments.text?, Arguments.given?_eq_getLast?]
  have mentions : line.arguments.mentions.filter (·.1 = .config) =
      line.given.map fun name => (.config, .text name) := reads.mentions_config file
  rw [mentions, List.getLast?_map]
  cases line.given.getLast? <;> rfl

theorem head?_given {line : Line} (option : ∀ naming ∈ line.namings.head?, naming.isOption) :
    line.given.head? = line.namings.head?.map (·.file) := by
  unfold given
  cases namings : line.namings with
  | nil => rfl
  | cons naming namings =>
    have first : naming.isOption := option naming (by simp_all)
    rw [List.filter_cons_of_pos first]
    rfl

end Line

namespace Invocation

def spellings? : String → Option Spellings
  | "query" => some querySpellings
  | "validate" => some validateSpellings
  | _ => none

def config? : Invocation → Option String
  | help => none
  | query r => some r.config
  | validate r => some r.config

/-- Behind the options of the program and the name of a command, the line is read with its roles. -/
def ReadAs (args : List String) (line : Line) : Prop :=
  ∃ mentions command spellings,
    Arguments.read? globalSpellings false args = some ⟨mentions, command :: line.args⟩ ∧
    spellings? command = some spellings ∧ line.Reads spellings none

theorem takesFile {command : String} {spellings : Spellings}
    (known : spellings? command = some spellings) : Arguments.TakesFile spellings := by
  have file (only : ∀ e ∈ spellings, e.2.1 = .config → e.1 = "--config" ∧ e.2.2 = .takes)
      (found : spellings.lookup "--config" = some (.config, .takes)) : Arguments.TakesFile spellings := by
    intro s effect
    constructor
    · intro found
      exact only (s, .config, effect) (Arguments.mem_of_lookup found) rfl
    · rintro ⟨rfl, rfl⟩
      exact found
  unfold spellings? at known
  split at known
  · cases known
    exact file (by decide) rfl
  · cases known
    exact file (by decide) rfl
  · contradiction

theorem named?_command {command : String} {spellings : Spellings}
    (known : spellings? command = some spellings) (after : List String) : named? command after = none := by
  unfold spellings? at known
  split at known
  · rfl
  · rfl
  · contradiction

theorem option?_global {arg : String} {ms : List Mention} {pending : Option Parameter}
    (means : Arguments.option? globalSpellings arg = some (ms, pending)) :
    pending = none ∧ ∀ after, named? arg after = none := by
  have flags (s : String) (p : Parameter) : globalSpellings.lookup s ≠ some (p, .takes) := by
    intro found
    have only : ∀ e ∈ globalSpellings, e.2.2 ≠ .takes := by decide
    exact only (s, p, .takes) (Arguments.mem_of_lookup found) rfl
  unfold Arguments.option? at means
  split at means
  · next rest chars =>
    rw [← chars] at means
    obtain ⟨p, effect, known, -, waiting, -⟩ := Arguments.spelled?_spelled means
    constructor
    · rw [Option.eq_none_iff_forall_ne_some]
      intro p' same
      obtain ⟨rfl, rfl⟩ := waiting p' same
      exact flags _ _ known
    · intro after
      rw [Option.eq_none_iff_forall_ne_some]
      intro file looks
      rw [Settings.takeWhile_named looks] at known
      contradiction
  · next letters other chars =>
    obtain ⟨-, waiting⟩ := Arguments.cluster?_spelled means
    refine ⟨?_, Settings.named?_letters chars other⟩
    rw [Option.eq_none_iff_forall_ne_some]
    intro p same
    obtain ⟨c, known⟩ := waiting p same
    exact flags _ _ known
  · contradiction

theorem fileArgument_operands {args : List String} {a : Arguments}
    (run : Arguments.readFrom globalSpellings false none args = some a) :
    fileArgument args = fileArgument a.operands := by
  -- No option of the program takes a value, so none is ever waiting behind the first argument.
  induction args generalizing a with
  | nil =>
    cases run
    rfl
  | cons arg rest ih =>
    rw [Arguments.readFrom] at run
    by_cases stop : arg = "--"
    · rw [if_pos stop] at run
      cases run
      rw [stop, Settings.fileArgument_cons]
      rfl
    · rw [if_neg stop] at run
      by_cases dash : Arguments.isOption arg
      · rw [if_pos dash] at run
        cases means : Arguments.option? globalSpellings arg with
        | none =>
          rw [means] at run
          contradiction
        | some found =>
          obtain ⟨ms, pending⟩ := found
          obtain ⟨rfl, apart⟩ := option?_global means
          rw [means] at run
          obtain ⟨a, readRest, rfl⟩ := Option.map_eq_some_iff.mp run
          have behind := ih readRest
          rw [Settings.fileArgument_cons, apart]
          exact behind
      · rw [if_neg dash] at run
        cases run
        rfl

theorem queryRequest?_config {defaults : Defaults} {a : Arguments} {text : String} {file : Option String}
    {r : QueryRequest} (run : queryRequest? defaults a text file = some r) :
    r.config = (a.text? .config).getD defaultFile := by
  simp only [queryRequest?, Option.bind_eq_bind, Option.pure_def, Option.bind_eq_some_iff,
    Option.some.injEq] at run
  obtain ⟨maxResults, -, offset, -, maxDepth, -, maxNodesVisited, -, rfl⟩ := run
  rfl

section

variable {defaults : Defaults} {args : List String} {invocation : Invocation} {config : String}
  (asks : invocation.config? = some config)

include asks

theorem query?_config (run : query? defaults args = some invocation) :
    ∃ a, Arguments.read? querySpellings true args = some a ∧
      config = (a.text? .config).getD defaultFile := by
  obtain ⟨a, read, run⟩ := Option.bind_eq_some_iff.mp run
  refine ⟨a, read, ?_⟩
  have request {text : String} {file : Option String}
      (run : (queryRequest? defaults a text file).map .query = some invocation) :
      config = (a.text? .config).getD defaultFile := by
    obtain ⟨r, request, rfl⟩ := Option.map_eq_some_iff.mp run
    cases asks
    exact queryRequest?_config request
  split at run
  · cases run
    contradiction
  · split at run
    · exact request run
    · exact request run
    · contradiction

theorem validate?_config (run : validate? defaults args = some invocation) :
    ∃ a, Arguments.read? validateSpellings true args = some a ∧
      config = (a.text? .config).getD defaultFile := by
  obtain ⟨a, read, run⟩ := Option.bind_eq_some_iff.mp run
  refine ⟨a, read, ?_⟩
  split at run
  · cases run
    contradiction
  · split at run
    · contradiction
    · cases run
      cases asks
      rfl

theorem read?_config {verbose : Bool} (run : read? defaults args = some (verbose, invocation)) :
    ∃ mentions command rest spellings a,
      Arguments.read? globalSpellings false args = some ⟨mentions, command :: rest⟩ ∧
      spellings? command = some spellings ∧ Arguments.read? spellings true rest = some a ∧
      config = (a.text? .config).getD defaultFile := by
  obtain ⟨⟨mentions, operands⟩, global, run⟩ := Option.bind_eq_some_iff.mp run
  dsimp only at run
  split at run
  · cases run
    contradiction
  · split at run
    · next rest _ =>
      obtain ⟨_, run, same⟩ := Option.map_eq_some_iff.mp run
      cases same
      obtain ⟨a, read, named⟩ := query?_config asks run
      exact ⟨mentions, "query", rest, querySpellings, a, global, rfl, read, named⟩
    · next rest _ =>
      obtain ⟨_, run, same⟩ := Option.map_eq_some_iff.mp run
      cases same
      obtain ⟨a, read, named⟩ := validate?_config asks run
      exact ⟨mentions, "validate", rest, validateSpellings, a, global, rfl, read, named⟩
    · contradiction

end

/-- The file that is loaded is that of the first argument that looks like the option, and the command is
given that of the last one that is the option. As long as the first that looks like it is the option, the
two agree exactly if the first and the last file of the option are the same. -/
theorem settingsFile_agrees_iff {defaults : Defaults} {args : List String} {verbose : Bool}
    {invocation : Invocation} {config : String}
    (run : read? defaults args = some (verbose, invocation)) (asks : invocation.config? = some config) :
    (∃ line, ReadAs args line) ∧ ∀ line, ReadAs args line →
      fileArgument args = (line.namings.head?.map (·.file)).getD defaultFile ∧
      config = line.given.getLast?.getD defaultFile ∧
      ((∀ naming ∈ line.namings.head?, naming.isOption) →
        (fileArgument args = config ↔ line.given.head? = line.given.getLast?)) := by
  obtain ⟨mentions, command, rest, spellings, a, global, known, read, named⟩ := read?_config asks run
  constructor
  · obtain ⟨line, reads, rfl, -⟩ := Line.readFrom_eq_some_iff.mp read
    exact ⟨line, mentions, command, spellings, global, known, reads⟩
  · rintro line ⟨mentions', command', spellings', global', known', reads⟩
    cases global.symm.trans global'
    cases known.symm.trans known'
    cases read.symm.trans reads.readFrom
    have loaded : fileArgument args = (line.namings.head?.map (·.file)).getD defaultFile := by
      rw [fileArgument_operands global, Settings.fileArgument_cons, named?_command known, Option.getD_none,
        Line.fileArgument_args]
    have last : config = line.given.getLast?.getD defaultFile := by
      rw [named, reads.text?_config (takesFile known)]
    refine ⟨loaded, last, ?_⟩
    intro option
    rw [loaded, last, ← Line.head?_given option]
    cases line.given with
    | nil => simp
    | cons first rest => simp [List.getLast?_cons]

theorem settingsFile_agrees_iff_joined :
    let args := ["-v", "query", "--config=a.json", "--out", "paths", "$", "b.json"]
    let r : QueryRequest := { query := "$", file := some "b.json", config := "a.json", out := "paths" }
    read? [] args = some (true, .query r) ∧ (query r).config? = some "a.json" ∧
    (∃ line, ReadAs args line) ∧ ∀ line, ReadAs args line →
      fileArgument args = (line.namings.head?.map (·.file)).getD defaultFile ∧
      "a.json" = line.given.getLast?.getD defaultFile ∧
      ((∀ naming ∈ line.namings.head?, naming.isOption) →
        (fileArgument args = "a.json" ↔ line.given.head? = line.given.getLast?)) := by
  intro args r
  have run : read? [] args = some (true, .query r) := by rfl
  exact ⟨run, rfl, settingsFile_agrees_iff run rfl⟩

/-- Of several mentions the first is loaded, and an argument that is no option at all is loaded as if it
were one. -/
theorem settingsFile_disagrees :
    let twice := ["query", "--config", "a.json", "--config", "b.json", "$"]
    let value := ["query", "--out-theme", "--config", "$"]
    let operand := ["validate", "--", "--config", "$"]
    ((read? [] twice).bind (·.2.config?) = some "b.json" ∧ fileArgument twice = "a.json") ∧
    ((read? [] value).bind (·.2.config?) = some ".rfcpath.json" ∧ fileArgument value = "$") ∧
    ((read? [] operand).bind (·.2.config?) = some ".rfcpath.json" ∧ fileArgument operand = "$") := by
  decide +kernel

end Invocation

end JsonPath
