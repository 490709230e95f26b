namespace JsonPath

inductive Parameter
  | help | verbose | config | color | maxResults | offset | out | outTheme | maxDepth
  | maxNodesVisited
  deriving DecidableEq

/-- What a mention of an option does: it sets a truth value, or takes the argument after it. -/
inductive Effect
  | sets (b : Bool)
  | takes
  deriving DecidableEq

abbrev Spellings := List (String × Parameter × Effect)

inductive Given
  | flag (b : Bool)
  | text (s : String)
  deriving DecidableEq

abbrev Mention := Parameter × Given

/-- A command line taken apart: the options mentioned in it, and the other arguments. -/
structure Arguments where
  mentions : List Mention
  operands : List String
  deriving DecidableEq

namespace Arguments

/-- A dash and more makes an argument an option. -/
def isOption (arg : String) : Bool :=
  match arg.toList with
  | '-' :: _ :: _ => true
  | _ => false

/-- Single letters after one dash. The first that takes a value takes the letters after it, or where
none are left the next argument: then it is the parameter left over. -/
def cluster? (spellings : Spellings) : List Char → Option (List Mention × Option Parameter)
  | [] => some ([], none)
  | c :: rest =>
    match spellings.lookup (String.ofList ['-', c]) with
    | none => none
    | some (p, .sets b) =>
      (cluster? spellings rest).map fun (ms, pending) => ((p, .flag b) :: ms, pending)
    | some (p, .takes) =>
      if rest.isEmpty then some ([], some p) else some ([(p, .text (String.ofList rest))], none)

def spelled? (spellings : Spellings) (arg : List Char) : Option (List Mention × Option Parameter) :=
  (spellings.lookup (String.ofList (arg.takeWhile (· ≠ '=')))).bind fun (p, effect) =>
    match effect, arg.dropWhile (· ≠ '=') with
    | .takes, [] => some ([], some p)
    | .takes, _ :: value => some ([(p, .text (String.ofList value))], none)
    | .sets b, [] => some ([(p, .flag b)], none)
    | .sets _, _ => none

/-- The mentions that one argument makes, and the parameter whose value is the next argument. -/
def option? (spellings : Spellings) (arg : String) : Option (List Mention × Option Parameter) :=
  match arg.toList with
  | '-' :: '-' :: rest => spelled? spellings ('-' :: '-' :: rest)
  | _ :: letters => cluster? spellings letters
  | [] => none

/-- Takes a command line apart. Two dashes end the options. Options may stand after other arguments if
`mixed`; otherwise the first other argument ends them. Nothing results from an unknown option, from a
value for an option that takes none, and where a value is missing. `pending` is the parameter whose
value comes next, whatever it looks like. -/
def readFrom (spellings : Spellings) (mixed : Bool) : Option Parameter → List String → Option Arguments
  | none, [] => some ⟨[], []⟩
  | some _, [] => none
  | some p, arg :: rest =>
    (readFrom spellings mixed none rest).map fun a => { a with mentions := (p, .text arg) :: a.mentions }
  | none, arg :: rest =>
    if arg = "--" then some ⟨[], rest⟩
    else if isOption arg then
      match option? spellings arg with
      | none => none
      | some (ms, pending) =>
        (readFrom spellings mixed pending rest).map fun a => { a with mentions := ms ++ a.mentions }
    else if mixed then
      (readFrom spellings mixed none rest).map fun a => { a with operands := arg :: a.operands }
    else some ⟨[], arg :: rest⟩

def read? (spellings : Spellings) (mixed : Bool) (args : List String) : Option Arguments :=
  readFrom spellings mixed none args

/-- The last mention of a parameter counts. -/
def given? (a : Arguments) (p : Parameter) : Option Given := a.mentions.reverse.lookup p

def text? (a : Arguments) (p : Parameter) : Option String :=
  match a.given? p with
  | some (.text s) => some s
  | _ => none

def flag? (a : Arguments) (p : Parameter) : Option Bool :=
  match a.given? p with
  | some (.flag b) => some b
  | _ => none

end Arguments

end JsonPath
