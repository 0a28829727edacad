import PhoneticSearch.CommandLine.Arguments
import PhoneticSearch.CommandLine.Report

/-!
# Commands

* `CommandFault.message`: the wording of a failure, its causes after it.
* `Printing`: a command at work, which prints and may fail on the way.
* `Command.prepare`: all that can fail when text is matched; it prints nothing.
* `Command.run`: what a command prints, and why it fails if it does.
* `Command.paths`: the files that a command may read.
-/

namespace PhoneticSearch

inductive CommandFault where
  | configuration (path : String) (cause : LoadFault)
  | unknownEncoding (id : String)
  | unknownFeatureSet (id : String)
  | noInputEncoding
  | noMatcher
  | unopened (path : String) (cause : ReadFault)
  | unread (path : String) (cause : ReadFault)
  | nothingToMatch
  | problems (count : Nat)
deriving Repr, DecidableEq

namespace CommandFault

/-- The causes of a fault that lie beneath its own message. -/
def causes : LoadFault → List String
  | .unreadable _ cause => [cause.message]
  | .invalid _ _ => []

def message : CommandFault → String
  | configuration path cause =>
    ": ".intercalate (s!"loading configuration {path}" :: cause.message :: causes cause)
  | unknownEncoding id => s!"unknown encoding '{id}'"
  | unknownFeatureSet id => s!"unknown feature set '{id}'"
  | noInputEncoding => "no usable 'input' encoding configured"
  | noMatcher => "no 'matcher' configured"
  | unopened path cause =>
    let reason := cause.message
    s!"opening {path}: {reason}"
  | unread path cause =>
    let reason := cause.message
    s!"reading {path}: {reason}"
  | nothingToMatch => "nothing to match; give text or --file"
  | problems count => s!"{count} problem(s) found"

end CommandFault

/-- The lines printed so far. -/
structure Printed where
  output : Array String
  warnings : Array String

def Printed.add (printed : Printed) (lines : List String) : Printed :=
  { printed with output := printed.output ++ lines }

def Printed.addWarnings (printed : Printed) (lines : List String) : Printed :=
  { printed with warnings := printed.warnings ++ lines }

/-- A command at work. If it fails, what it has printed before stays. -/
abbrev Printing := ExceptT CommandFault (StateM Printed)

namespace Printing

def print (lines : List String) : Printing Unit := modify fun printed => printed.add lines

def warn (lines : List String) : Printing Unit := modify fun printed => printed.addWarnings lines

end Printing

/-- What a command prints, line by line, and why it failed if it did. -/
structure Outcome where
  output : List String
  warnings : List String
  failure : Option CommandFault

namespace Outcome

def printed (lines : List String) : String := String.join (lines.map (· ++ "\n"))

def ofPrinting (task : Printing Unit) : Outcome :=
  let (result, printed) := task.run.run ⟨#[], #[]⟩
  { output := printed.output.toList
    warnings := printed.warnings.toList
    failure :=
      match result with
      | .ok () => none
      | .error fault => some fault }

end Outcome

/-- Text to be matched, line by line, and what it is matched with. -/
structure Query where
  resources : Resources
  encoder : Encoder
  matcher : Matcher
  lines : List String

namespace Command

open Printing

/-- A hint at the problems met while resources were put together. -/
def warnings (resources : Resources) : List String :=
  let count := resources.problems.length
  if count = 0 then []
  else [s!"Warning: {count} configuration problem(s); run `phonmatch check` for details"]

def resourcesOf (files : Files) (config : String) : Printing Resources :=
  match Resources.ofPath files config with
  | .ok resources => return resources
  | .error cause => throw (.configuration config cause)

def loadResources (files : Files) (config : String) : Printing Resources := do
  let resources ← resourcesOf files config
  warn (warnings resources)
  return resources

def encodeTexts (files : Files) (config encoding : String) (texts : List String) :
    Printing Unit := do
  let resources ← loadResources files config
  let some encoder := resources.encoder? encoding | throw (.unknownEncoding encoding)
  texts.forM fun text => print (Report.transduction encoder text)

/-- The fault of a file of query text. A directory can be opened; only reading it fails. -/
def fileFault (path : String) : ReadFault → CommandFault
  | .isDirectory => .unread path .isDirectory
  | .notUtf8 => .unread path .notUtf8
  | cause => .unopened path cause

/-- The lines of query text: those of the file, then the texts. -/
def queryLines (files : Files) (file : Option String) (texts : List String) :
    Printing (List String) :=
  match file with
  | none => return texts
  | some path =>
    match files.readText path with
    | .error cause => throw (fileFault path cause)
    | .ok text => return (Text.lines text.toList).map String.ofList ++ texts

def prepare (files : Files) (config : String) (file : Option String) (texts : List String) :
    Printing Query := do
  let resources ← loadResources files config
  let some encoder := resources.inputEncoder? | throw .noInputEncoding
  let some matcher := resources.matcher? | throw .noMatcher
  let lines ← queryLines files file texts
  if lines.isEmpty then throw .nothingToMatch
  return ⟨resources, encoder, matcher, lines⟩

def printToken (query : Query) (showPhones : Bool) (session : Session) (token : String) :
    Printing Session := do
  let (answer, session) := session.matchToken query.encoder query.matcher token
  print (Report.tokenBlock query.encoder.features showPhones answer)
  return session

def printLine (query : Query) (showPhones : Bool) (session : Session) (line : String) :
    Printing Session :=
  (tokenize line query.resources.delimiters).foldlM (printToken query showPhones) session

def matchLines (files : Files) (config : String) (file : Option String) (showPhones : Bool)
    (texts : List String) : Printing Unit := do
  let query ← prepare files config file texts
  let _ ← query.lines.foldlM (printLine query showPhones) (.start query.resources)

def checkAll (files : Files) (config : String) : Printing Unit := do
  let resources ← resourcesOf files config
  print (Report.inventory resources)
  let problems := resources.allProblems
  print (Report.findings problems)
  if !problems.isEmpty then throw (.problems problems.length)

def listDimensions (files : Files) (config id : String) : Printing Unit := do
  let resources ← loadResources files config
  let some set := resources.featureSet? id | throw (.unknownFeatureSet id)
  print (Report.dimensions set)

def run (files : Files) (command : Command) : Outcome :=
  .ofPrinting <|
    match command with
    | .encode config encoding texts => encodeTexts files config encoding texts
    | .matchTokens config file showPhones texts => matchLines files config file showPhones texts
    | .check config => checkAll files config
    | .features config set => listDimensions files config set

def config : Command → String
  | .encode config _ _ => config
  | .matchTokens config _ _ _ => config
  | .check config => config
  | .features config _ => config

def queryFile? : Command → Option String
  | .matchTokens _ file _ _ => file
  | _ => none

def includedPath? {α : Type} : Settings.Included α → Option String
  | .inPlace _ => none
  | .file path => some path

/-- The files that a command may read, apart from its configuration file, which it is given. -/
def paths (files : Files) (command : Command) : List String :=
  let mentioned :=
    match files.load Settings.Configuration.decoder command.config with
    | .error _ => []
    | .ok configuration =>
      (configuration.featureSets.filterMap includedPath? ++
        configuration.encodings.filterMap includedPath? ++
        configuration.lexicons.map (·.path)).map (Path.join (Path.parent command.config))
  mentioned ++ command.queryFile?.toList

end Command

end PhoneticSearch
