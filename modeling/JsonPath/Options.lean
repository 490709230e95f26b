import JsonPath.Text.Quoted

namespace JsonPath

structure Options where
  strict : Bool := false
  maxNodesVisited : Int := 1000000
  maxDepth : Int := 512
  maxExpressionDepth : Int := 64
  maxPatternLength : Int := 1000
  maxInputLength : Int := 100000
  rejectUnsafePatterns : Bool := true

inductive Excess
  | nodesVisited (limit : Int)
  | depth (limit : Int)
  | patternLength (length : Nat) (limit : Int)
  | inputLength (length : Nat) (limit : Int)
  | unsafePattern (source : String)
  deriving DecidableEq

namespace Excess

def limitName : Excess → String
  | nodesVisited _ => "maxNodesVisited"
  | depth _ => "maxDepth"
  | patternLength _ _ => "maxRegexPatternLength"
  | inputLength _ _ => "maxRegexInputLength"
  | unsafePattern _ => "rejectUnsafeRegex"

def message (e : Excess) : String :=
  match e with
  | nodesVisited limit | depth limit =>
    "Query evaluation exceeded " ++ e.limitName ++ " (" ++ toString limit ++ ")"
  | patternLength length limit =>
    "Regular expression pattern length " ++ toString length ++ " exceeds " ++ e.limitName
      ++ " (" ++ toString limit ++ ")"
  | inputLength length limit =>
    "Regular expression input length " ++ toString length ++ " exceeds " ++ e.limitName
      ++ " (" ++ toString limit ++ ")"
  | unsafePattern source =>
    "Rejected unsafe regular expression pattern: " ++ quoted source

end Excess

end JsonPath
