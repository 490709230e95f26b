import JsonPath.Pattern

namespace JsonPath

inductive CharTest
  | char (negated : Bool) (c : Char)
  | range (negated : Bool) (low high : Char)
  | category (negated : Bool) (name : String)
  | noneOf (items : List ClassItem)
  deriving DecidableEq

namespace CharTest

def holds : CharTest → Char → Bool
  | char negated d, c => (c == d) != negated
  | range negated low high, c => (low ≤ c && c ≤ high) != negated
  | category negated name, c => Pattern.inCategory name c != negated
  | noneOf items, c => !items.any (·.holds c)

def excluded : List CharTest → List Char
  | [] => []
  | char true c :: ts => c :: excluded ts
  | _ :: ts => excluded ts

/-- Whether a character belongs to a class of tests. It passes one of the tests, but characters that are
excluded one by one are excluded together. -/
def anyHolds (ts : List CharTest) (c : Char) : Bool :=
  ts.any fun
    | char true _ => !(excluded ts).contains c
    | t => t.holds c

def coverAll (ts : List CharTest) : Bool :=
  ts.any fun
    | category negated name => ts.contains (category (!negated) name)
    | _ => false

end CharTest

namespace ClassItem

def test : ClassItem → CharTest
  | char c _ => .char false c
  | range low _ high _ => if low = high then .char false low else .range false low high
  | category negated name => .category negated name

def exclusion : ClassItem → CharTest
  | char c _ => .char true c
  | range low _ high _ => if low = high then .char true low else .range true low high
  | category negated name => .category (!negated) name

def unescaped : ClassItem → ClassItem
  | char c _ => .char c false
  | range low _ high _ => if low = high then .char low false else .range low false high false
  | category negated name => .category negated name

end ClassItem

/-- A pattern in the form in which it is matched: without groups, and with one class for neighbouring
branches of one character each. -/
inductive Normal
  | empty
  | any
  | test (t : CharTest)
  | anyOf (ts : List CharTest)
  | sequence (first rest : Normal)
  | branches (first rest : Normal)
  | repeated (body : Normal) (low : Nat) (high? : Option Nat)
  deriving DecidableEq

namespace Normal

def items : Normal → List Normal
  | empty => []
  | sequence first rest => first :: rest.items
  | n => [n]

def ofItems : List Normal → Normal
  | [] => empty
  | [n] => n
  | n :: ns => sequence n (ofItems ns)

def alternatives : Normal → List Normal
  | branches first rest => first :: rest.alternatives
  | n => [n]

def ofAlternatives : List Normal → Normal
  | [] => empty
  | [n] => n
  | n :: ns => branches n (ofAlternatives ns)

/-- A class with these tests. Beside its complement a category leaves no character out. -/
def ofTests (ts : List CharTest) : Normal :=
  if CharTest.coverAll ts then any
  else match ts with
  | [t] => test t
  | ts => anyOf ts

/-- A character class as it is written. The complement of a class that leaves no character out is no
different from it. -/
def ofClass (negated : Bool) (members : List ClassItem) : Normal :=
  if !negated || CharTest.coverAll (members.map (·.test)) then ofTests (members.map (·.test))
  else match members with
  | [member] => test member.exclusion
  | members => test (.noneOf (members.map (·.unescaped)))

/-- The tests that a branch of one character shares with its neighbours. A range by itself is not
shared. -/
def tests : Normal → List CharTest
  | test (.range ..) => []
  | test t => [t]
  | anyOf ts => ts
  | _ => []

def hasRepetition : Normal → Bool
  | sequence first rest => first.hasRepetition || rest.hasRepetition
  | branches first rest => first.hasRepetition || rest.hasRepetition
  | repeated .. => true
  | _ => false

/-- The items that one branch begins with and all the others too, up to the first with a repetition. -/
def commonItems : List Normal → List (List Normal) → List Normal
  | [], _ => []
  | n :: ns, others =>
    if !n.hasRepetition && others.all (·.head? == some n) then
      n :: commonItems ns (others.map List.tail)
    else []

def splitBranch : List Normal → List (List Normal)
  | [branches first rest] => (branches first rest).alternatives.map items
  | ns => [ns]

def remainder : List Normal → Normal
  | [branches first rest] => sequence (branches first rest) empty
  | ns => ofItems ns

def joinRun (run : List Normal) : List Normal :=
  match run.eraseDups with
  | [] => []
  | [n] => [n]
  | ns => [ofTests (ns.flatMap tests)]

/-- Joins neighbouring branches of one character each. `run` holds those just before the list. -/
def joinNeighbours : List Normal → List Normal → List Normal
  | run, [] => joinRun run
  | run, n :: ns =>
    if n.tests.isEmpty then joinRun run ++ n :: joinNeighbours [] ns
    else joinNeighbours (run ++ [n]) ns

/-- The items that stand for several branches. What all of them begin with comes first, and then what is
left of them, with neighbours joined. -/
def ofBranches : List (List Normal) → List Normal
  | [] => []
  | [ns] => ns
  | bs =>
    let bs := bs.flatMap splitBranch
    let common := commonItems (bs.headD []) bs.tail
    common ++ [ofAlternatives (joinNeighbours [] (bs.map fun ns => remainder (ns.drop common.length)))]

end Normal

namespace Pattern

/-- Nothing but empty texts can belong to a pattern, as it has no atom other than groups. -/
def isHollow : Pattern → Bool
  | empty => true
  | group p => p.isHollow
  | quantified p _ => p.isHollow
  | sequence p ps => p.isHollow && ps.isHollow
  | alternatives p ps => p.isHollow && ps.isHollow
  | _ => false

def branchForms : Pattern → List (List Normal)
  | empty => [[]]
  | char c _ => [[.test (.char false c)]]
  | dot => [[.test (.noneOf [.char '\n' false, .char '\r' false])]]
  | set negated members => [[.ofClass negated members]]
  | category negated name => [[.test (.category negated name)]]
  | group p => [Normal.ofBranches p.branchForms]
  | quantified p q =>
    let body := Normal.ofBranches p.branchForms
    if p.isHollow || (q.low = 1 && q.high? = some 1) then [body]
    else [[.repeated (.ofItems body) q.low q.high?]]
  | sequence p ps => [Normal.ofBranches p.branchForms ++ Normal.ofBranches ps.branchForms]
  | alternatives p ps => p.branchForms ++ ps.branchForms

def normal (p : Pattern) : Normal := .ofItems (Normal.ofBranches p.branchForms)

end Pattern

end JsonPath
