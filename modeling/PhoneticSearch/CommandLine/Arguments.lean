/-!
# Arguments

The arguments of the program are read against a grammar of options and slots.

* `Grammar`: the options of a command, and the slots that its words fill in order.
* `Arguments.read`: what a command is given. An option or slot takes effect when the argument
  after it is read, so that the first fault is the one reported.
* `Invocation.ofArguments`: the command that the program is to run.
-/

namespace PhoneticSearch

/-- Why the arguments name no command to run. -/
inductive UsageFault where
  | missingArgument
  | unknownArgument
  | unknownCommand
  | missingCommand
  | invalidValue
  | repeatedArgument
  | unexpectedValue
  | helpWanted
  /-- There are no arguments, which asks for help too. -/
  | nothingGiven
  | versionWanted
deriving Repr, DecidableEq

def UsageFault.message : UsageFault → String
  | .missingArgument => "a required argument is missing"
  | .unknownArgument => "an argument is unknown"
  | .unknownCommand => "the command is unknown"
  | .missingCommand => "a command is missing"
  | .invalidValue => "a value is missing or empty"
  | .repeatedArgument => "an argument is given twice"
  | .unexpectedValue => "a value is given to an option that takes none"
  | .helpWanted => "the commands are encode, match, check and features"
  | .nothingGiven => "the commands are encode, match, check and features"
  | .versionWanted => "phonmatch"

/-- What an option does. -/
inductive OptionEffect where
  | count
  | flag
  /-- Takes a value, which some options do not allow to be empty. -/
  | value (mayBeEmpty required : Bool)
  | help
  | version
deriving Repr, DecidableEq

structure OptionRule where
  letter : Char
  name : String
  effect : OptionEffect
deriving Repr, DecidableEq

/-- A place that words fill. -/
structure Slot where
  name : String
  required : Bool
  /-- Whether it takes all words from its place on. -/
  repeated : Bool
  mayBeEmpty : Bool
deriving Repr, DecidableEq

structure Grammar where
  options : List OptionRule
  slots : List Slot

structure Arguments where
  /-- How often the counted option is given. -/
  count : Nat
  flags : List String
  values : List (String × String)
  words : List (String × List String)
deriving Repr

namespace Arguments

def none : Arguments := ⟨0, [], [], []⟩

def wordsOf (given : Arguments) (slot : String) : List String := (given.words.lookup slot).getD []

def wordOf (given : Arguments) (slot : String) : String := (given.wordsOf slot).headD ""

def value? (given : Arguments) (option : String) : Option String := given.values.lookup option

/-- An argument that has been read but not yet taken into account. -/
inductive Pending where
  /-- An option that takes a value, and the value if it has been read. -/
  | value (rule : OptionRule) (text : Option String)
  | words (slot : Slot) (texts : List String)

structure State where
  given : Arguments
  pending : Option Pending
  /-- The number of slots filled. -/
  place : Nat
  /-- Whether all further arguments are words. -/
  wordsOnly : Bool

def State.start : State := ⟨none, .none, 0, false⟩

def maxCount : Nat := 255

def settle (state : State) : Except UsageFault State :=
  match state.pending with
  | .none => .ok state
  | some (.value _ .none) => .error .invalidValue
  | some (.value rule (some text)) =>
    if (state.given.value? rule.name).isSome then .error .repeatedArgument
    else if text == "" && rule.effect matches .value false _ then .error .invalidValue
    else
      .ok { state with
        given := { state.given with values := (rule.name, text) :: state.given.values }
        pending := .none }
  | some (.words slot texts) =>
    if !slot.mayBeEmpty && texts.contains "" then .error .invalidValue
    else
      let all := state.given.wordsOf slot.name ++ texts
      .ok { state with
        given := { state.given with words := (slot.name, all) :: state.given.words }
        pending := .none }

def trigger (rule : OptionRule) (state : State) : Except UsageFault State := do
  let state ← settle state
  let given := state.given
  match rule.effect with
  | .count => return { state with given := { given with count := min (given.count + 1) maxCount } }
  | .flag =>
    if given.flags.contains rule.name then throw .repeatedArgument
    return { state with given := { given with flags := rule.name :: given.flags } }
  | .help => throw .helpWanted
  | .version => throw .versionWanted
  | .value .. => return { state with pending := some (.value rule .none) }

/-- An option with the value attached to it. -/
def attach (rule : OptionRule) (text : String) (state : State) : Except UsageFault State := do
  match rule.effect with
  | .value .. =>
    let state ← settle state
    settle { state with pending := some (.value rule (some text)) }
  | _ => throw .unexpectedValue

/-- Options given by their letters; the rest after one that takes a value is its value. -/
def cluster (grammar : Grammar) : List Char → State → Except UsageFault State
  | [], state => .ok state
  | letter :: rest, state =>
    match grammar.options.find? fun rule => rule.letter == letter with
    | .none => .error .unknownArgument
    | some rule =>
      match rule.effect, rest with
      | .value .., '=' :: text => attach rule (String.ofList text) state
      | .value .., c :: text => attach rule (String.ofList (c :: text)) state
      | .value .., [] => trigger rule state
      | _, rest => (trigger rule state).bind (cluster grammar rest)

/-- An option given by its name, with a value after an equals sign. -/
def named (grammar : Grammar) (text : List Char) (state : State) : Except UsageFault State :=
  let name := String.ofList (text.takeWhile (· ≠ '='))
  match grammar.options.find? fun rule => rule.name == name with
  | .none => .error .unknownArgument
  | some rule =>
    match text.dropWhile (· ≠ '=') with
    | [] => trigger rule state
    | _ :: value => attach rule (String.ofList value) state

def word (grammar : Grammar) (text : String) (state : State) : Except UsageFault State :=
  match grammar.slots[state.place]? with
  | .none => .error .unknownArgument
  | some slot =>
    let place := if slot.repeated then state.place else state.place + 1
    match state.pending with
    | some (.words current texts) =>
      if current == slot && slot.repeated then
        .ok { state with pending := some (.words slot (texts ++ [text])) }
      else (settle state).map fun state =>
        { state with pending := some (.words slot [text]), place }
    | _ => (settle state).map fun state =>
        { state with pending := some (.words slot [text]), place }

inductive Shape where
  /-- The mark after which all arguments are words. -/
  | separator
  | name (text : List Char)
  | letters (text : List Char)
  | word

def shapeOf (argument : String) : Shape :=
  match argument.toList with
  | ['-', '-'] => .separator
  | '-' :: '-' :: text => .name text
  | '-' :: c :: text => .letters (c :: text)
  | _ => .word

def step (grammar : Grammar) (state : State) (argument : String) : Except UsageFault State :=
  if state.wordsOnly then word grammar argument state
  else
    match shapeOf argument with
    | .separator => .ok { state with wordsOnly := true }
    | .name text => named grammar text state
    | .letters text => cluster grammar text state
    | .word =>
      match state.pending with
      | some (.value rule .none) =>
        .ok { state with pending := some (.value rule (some argument)) }
      | _ => word grammar argument state

def complete (grammar : Grammar) (given : Arguments) : Bool :=
  (grammar.slots.all fun slot => !slot.required || !(given.wordsOf slot.name).isEmpty) &&
    grammar.options.all fun rule =>
      match rule.effect with
      | .value _ true => (given.value? rule.name).isSome
      | _ => true

def read (grammar : Grammar) (arguments : List String) : Except UsageFault Arguments := do
  let state ← arguments.foldlM (step grammar) State.start
  let state ← settle state
  if complete grammar state.given then return state.given else throw .missingArgument

end Arguments

inductive Command where
  | encode (config encoding : String) (texts : List String)
  | matchTokens (config : String) (file : Option String) (showPhones : Bool) (texts : List String)
  | check (config : String)
  | features (config set : String)
deriving Repr, DecidableEq

inductive CommandName where
  | encode
  | matchTokens
  | check
  | features
deriving Repr, DecidableEq

namespace CommandName

def ofText? : String → Option CommandName
  | "encode" => some encode
  | "match" => some matchTokens
  | "check" => some check
  | "features" => some features
  | _ => none

def verbose : OptionRule := ⟨'v', "verbose", .count⟩

def help : OptionRule := ⟨'h', "help", .help⟩

def config : Slot := ⟨"config", true, false, false⟩

def grammar : CommandName → Grammar
  | encode =>
    ⟨[⟨'e', "encoding", .value true true⟩, verbose, help], [config, ⟨"text", true, true, true⟩]⟩
  | matchTokens =>
    ⟨[⟨'f', "file", .value false false⟩, ⟨'p', "phones", .flag⟩, verbose, help],
      [config, ⟨"text", false, true, true⟩]⟩
  | check => ⟨[verbose, help], [config]⟩
  | features => ⟨[⟨'f', "features", .value true true⟩, verbose, help], [config]⟩

def command (name : CommandName) (given : Arguments) : Command :=
  let config := given.wordOf "config"
  match name with
  | encode => .encode config ((given.value? "encoding").getD "") (given.wordsOf "text")
  | matchTokens =>
    .matchTokens config (given.value? "file") (given.flags.contains "phones") (given.wordsOf "text")
  | check => .check config
  | features => .features config ((given.value? "features").getD "")

end CommandName

/-- A command and how much it is to tell of its work. -/
structure Invocation where
  verbosity : Nat
  command : Command
deriving Repr, DecidableEq

namespace Invocation

/-- The options before the name of a command. -/
def grammar : Grammar :=
  ⟨[CommandName.verbose, CommandName.help, ⟨'V', "version", .version⟩], []⟩

/-- Help on commands: each name must be one of a command of the command before it, and only the
program itself has commands. -/
def helpFault : List String → UsageFault
  | [] => .helpWanted
  | [name] =>
    if (CommandName.ofText? name).isSome || name == "help" then .helpWanted else .unknownCommand
  | _ => .unknownCommand

/-- The invocation of a command by its arguments; a verbosity given there counts instead of the
one before the command. -/
def ofCommand (verbosity : Nat) (name : CommandName) (arguments : List String) :
    Except UsageFault Invocation :=
  (Arguments.read name.grammar arguments).map fun given =>
    ⟨if given.count = 0 then verbosity else given.count, name.command given⟩

def atWord (state : Arguments.State) (word : String) (rest : List String) :
    Except UsageFault Invocation :=
  if state.wordsOnly then
    .error (if (CommandName.ofText? word).isSome || word == "help" then .unknownArgument
      else .unknownCommand)
  else if word == "help" then .error (helpFault rest)
  else
    match CommandName.ofText? word with
    | some name => ofCommand state.given.count name rest
    | none => .error .unknownCommand

/-- Reads options up to the name of a command. -/
def readFrom (state : Arguments.State) : List String → Except UsageFault Invocation
  | [] => .error (if state.given.count = 0 then .nothingGiven else .missingCommand)
  | argument :: rest =>
    match state.wordsOnly, Arguments.shapeOf argument with
    | false, .separator => readFrom { state with wordsOnly := true } rest
    | false, .name text => (Arguments.named grammar text state).bind (readFrom · rest)
    | false, .letters text => (Arguments.cluster grammar text state).bind (readFrom · rest)
    | _, _ => atWord state argument rest

def ofArguments (arguments : List String) : Except UsageFault Invocation :=
  readFrom Arguments.State.start arguments

end Invocation

end PhoneticSearch
