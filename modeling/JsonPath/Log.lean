namespace JsonPath

inductive LogLevel
  | debug
  | info
  | warning
  | error
  | critical
  deriving DecidableEq

namespace LogLevel

def name : LogLevel → String
  | debug => "DEBUG"
  | info => "INFO"
  | warning => "WARNING"
  | error => "ERROR"
  | critical => "CRITICAL"

def severity : LogLevel → Nat
  | debug => 10
  | info => 20
  | warning => 30
  | error => 40
  | critical => 50

end LogLevel

structure LogEntry where
  level : LogLevel
  message : String
  deriving DecidableEq

namespace LogEntry

def text (e : LogEntry) : String := e.level.name ++ ": " ++ e.message

def linesFrom (level : LogLevel) (log : List LogEntry) : List String :=
  (log.filter fun e => level.severity ≤ e.level.severity).map text

end LogEntry

end JsonPath
