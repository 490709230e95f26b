import JsonPath.Text.Category

namespace JsonPath

namespace Category

/-- The categories of all code points: the first code point of each run of one category, in order. -/
structure Chart where
  starts : Array (Nat × Category)

namespace Chart

def letterIndex (c : Char) : Nat :=
  if c.toNat < 'a'.toNat then c.toNat - 'A'.toNat else c.toNat - 'a'.toNat + 26

/-- Reads runs. A letter names the category by its place in `all`, and a number after it is the length
of a run longer than one. The length of the run being read is zero until a digit is seen. -/
def readRuns : List Char → Option (Category × Nat) → List (Category × Nat)
  | [], none => []
  | [], some (k, n) => [(k, max n 1)]
  | c :: rest, pending =>
    if c.isDigit then readRuns rest (pending.map fun (k, n) => (k, 10 * n + (c.toNat - '0'.toNat)))
    else
      let next := some (all.getD (letterIndex c) cn, 0)
      match pending with
      | none => readRuns rest next
      | some (k, n) => (k, max n 1) :: readRuns rest next

def ofLines (lines : List String) : Chart :=
  let runs := lines.flatMap fun line => readRuns line.toList none
  ⟨(runs.foldl (fun (start, acc) (k, n) => (start + n, acc.push (start, k))) (0, #[])).2⟩

/-- The last run from `low` on and before `high` that starts no later than a code point, if the one
at `low` does. -/
def lastRun (chart : Chart) (codePoint low high : Nat) : Nat :=
  if low + 1 < high then
    let middle := (low + high) / 2
    if (chart.starts.getD middle (0, cn)).1 ≤ codePoint then chart.lastRun codePoint middle high
    else chart.lastRun codePoint low middle
  else low
termination_by high - low

def run (chart : Chart) (c : Char) : Nat × Category :=
  chart.starts.getD (chart.lastRun c.toNat 0 chart.starts.size) (0, cn)

def category (chart : Chart) (c : Char) : Category := (chart.run c).2

end Chart

end Category

end JsonPath
