import JsonPath.Log

namespace JsonPath

/-- Where log entries go: they are dropped below a level, and written if a stream is attached. -/
structure Logger where
  level : LogLevel
  attached : Bool
  deriving DecidableEq

namespace Logger

/-- Verbose logging attaches a stream for entries from INFO on; otherwise none is attached. -/
def configure (verbose : Bool) : Logger :=
  if verbose then ⟨.info, true⟩ else ⟨.warning, false⟩

def isEnabled (l : Logger) (level : LogLevel) : Bool := l.level.severity ≤ level.severity

def written (l : Logger) (e : LogEntry) : String :=
  if l.attached && l.isEnabled e.level && LogLevel.info.severity ≤ e.level.severity then
    e.text ++ "\n"
  else ""

end Logger

end JsonPath
