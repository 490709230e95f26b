import JsonPath.Node
import JsonPath.Report.Markup
import JsonPath.Text.Blank
import JsonPath.Value.Writer

namespace JsonPath

inductive Format
  | values
  | nodes
  | paths
  | json
  deriving DecidableEq

namespace Format

def all : List Format := [values, nodes, paths, json]

def name : Format → String
  | values => "values"
  | nodes => "nodes"
  | paths => "paths"
  | json => "json"

def normalize (s : String) : String := (trimBlanks s).map Char.toLower

/-- The format of that name, in any case and with white space around it. -/
def ofName? (s : String) : Option Format := all.find? (·.name = normalize s)

def unsupported (s : String) : String :=
  "Unsupported output format '" ++ s ++ "', expected one of: " ++ ", ".intercalate (all.map name)

end Format

/-- One step of a report: plain text, a line for the console with or without markup, or highlighted
code. -/
inductive Operation
  | write (text : String)
  | print (text : String) (markup : Bool)
  | highlight (code theme : String)
  deriving DecidableEq

inductive ConsoleCall
  | write (text : String)
  | flush
  | print (text : String) (markup : Bool)
  | highlight (code theme : String)
  deriving DecidableEq

namespace Report

def defaultTheme : String := "github-dark"

def theme (s : String) : String :=
  let trimmed := trimBlanks s
  if trimmed.isEmpty then defaultTheme else trimmed

def noResults : List Operation := [.print "No results" false]

/-- One operation for each line, for the console if colours are on. -/
def lineOperations (ls : List String) (color : Bool) : List Operation :=
  ls.map fun l => if color then .print l true else .write l

def valueLine (color : Bool) (n : Node) : String := escapeText n.value.write color

def pathLine (color : Bool) (n : Node) : String := stylePath n.path color

def nodeLine (color : Bool) (n : Node) : String := pathLine color n ++ "\t" ++ valueLine color n

def wholeText (nodes : List Node) : String := (Value.array (nodes.map (·.value))).writeBlock 2

def lineReport (line : Bool → Node → String) (nodes : List Node) (color : Bool) : List Operation :=
  if nodes.isEmpty then noResults else lineOperations (nodes.map (line color)) color

/-- The report of selected nodes. That a value cannot be written is no case of it, since values that are
read always can. -/
def prepare (format : Format) (nodes : List Node) (color : Bool) (themeName : String) :
    List Operation :=
  match format with
  | .values => lineReport valueLine nodes color
  | .nodes => lineReport nodeLine nodes color
  | .paths => lineReport pathLine nodes color
  | .json =>
    let text := wholeText nodes
    if color then [.highlight text (theme themeName)] else [.write text]

end Report

/-- Plain text goes to the stream as a line and is flushed. -/
def Operation.calls : Operation → List ConsoleCall
  | .write text => [.write (text ++ "\n"), .flush]
  | .print text markup => [.print text markup]
  | .highlight code theme => [.highlight code theme]

end JsonPath
