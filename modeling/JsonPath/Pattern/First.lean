import JsonPath.Pattern.Normal

namespace JsonPath

namespace Normal

/-- The items of one character that can begin a text, and whether the form has the empty text. There is
none if any character can come first. -/
def firsts? : Normal → Option (List Normal × Bool)
  | empty => some ([], true)
  | any => none
  | sequence first rest => do
    let (fs, hasEmpty) ← first.firsts?
    if hasEmpty then
      let (gs, hasEmpty) ← rest.firsts?
      return (fs ++ gs, hasEmpty)
    else return (fs, false)
  | branches first rest => do
    let (fs, hasEmpty) ← first.firsts?
    let (gs, restHasEmpty) ← rest.firsts?
    return (fs ++ gs, hasEmpty || restHasEmpty)
  | repeated body low _ => do
    let (fs, hasEmpty) ← body.firsts?
    return (fs, hasEmpty || low = 0)
  | n => some ([n], false)

def isExclusion : Normal → Bool
  | test (.char true _) => true
  | _ => false

def itemTests : Normal → List CharTest
  | test t => [t]
  | anyOf ts => ts
  | _ => []

/-- The class that the first character of a text has to belong to, if the form asks for one. Classes that
can come first are joined like neighbouring branches, but none that excludes a single character. -/
def firstClass? (n : Normal) : Option (List CharTest) :=
  match n.firsts? with
  | some (fs, false) =>
    let ts := fs.flatMap itemTests
    if fs.any isExclusion || CharTest.coverAll ts then none else some ts
  | _ => none

end Normal

end JsonPath
