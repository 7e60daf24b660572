import BuildGate.CommandLine.Styled
import BuildGate.Text.Blank

namespace BuildGate.CommandLine

inductive Switch where
  | parallel
  | failFast
  | noFail
  | ignoreCache
  | skip
  | json
  deriving DecidableEq, Repr

inductive Parameter where
  | config
  | directory
  | skipRule
  | property
  deriving DecidableEq, Repr

inductive Opt where
  | switch (s : Switch)
  | parameter (p : Parameter)
  | help
  | version
  deriving DecidableEq, Repr

inductive Scope where
  | program
  | check
  | list
  deriving DecidableEq, Repr

namespace Switch

def word : Switch → String
  | parallel => "parallel"
  | failFast => "fail-fast"
  | noFail => "no-fail"
  | ignoreCache => "ignore-cache"
  | skip => "skip"
  | json => "json"

def all : List Switch := [parallel, failFast, noFail, ignoreCache, skip, json]

end Switch

namespace Parameter

def word : Parameter → String
  | config => "config"
  | directory => "module"
  | skipRule => "skip-rule"
  | property => "property"

def valueName : Parameter → String
  | config => "CONFIG"
  | directory => "DIR"
  | skipRule => "NAME"
  | property => "KEY=VALUE"

def letter? : Parameter → Option Char
  | config => some 'c'
  | directory => some 'm'
  | property => some 'D'
  | skipRule => none

def all : List Parameter := [config, directory, skipRule, property]

end Parameter

namespace Opt

def shown : Opt → String
  | switch s => "--" ++ s.word
  | parameter p => "--" ++ p.word ++ " <" ++ p.valueName ++ ">"
  | help => "--help"
  | version => "--version"

end Opt

namespace Scope

def options : Scope → List (String × Opt)
  | program => [("config", .parameter .config), ("help", .help), ("version", .version)]
  | list => [("config", .parameter .config), ("help", .help)]
  | check =>
    (Switch.all.map fun s => (s.word, .switch s))
      ++ (Parameter.all.map fun p => (p.word, .parameter p)) ++ [("help", .help)]

def ofWord? (scope : Scope) (word : String) : Option Opt := scope.options.lookup word

def letter? : Opt → Option Char
  | .switch _ => none
  | .parameter p => p.letter?
  | .help => some 'h'
  | .version => some 'V'

def ofLetter? (scope : Scope) (letter : Char) : Option Opt :=
  (scope.options.find? fun entry => letter? entry.2 = some letter).map (·.2)

end Scope

inductive UsageError where
  | nothing
  | missingCommand
  | unknownCommand (word : String)
  | unexpectedArgument (word : String)
  | unexpectedValue (value : String) (option : Opt)
  | missingValue (option : Opt)
  | repeated (option : Opt)
  | invalidProperty (value : String)
  deriving DecidableEq, Repr

namespace UsageError

def message? : UsageError → Option String
  | nothing => none
  | missingCommand => some "'enforcer' requires a subcommand but one was not provided"
  | unknownCommand word => some ("unrecognized subcommand '" ++ highlighted word ++ "'")
  | unexpectedArgument word => some ("unexpected argument '" ++ highlighted word ++ "' found")
  | unexpectedValue value option =>
    some ("unexpected value '" ++ highlighted value ++ "' for '" ++ literalWord option.shown
      ++ "' found; no more were expected")
  | missingValue option =>
    some ("a value is required for '" ++ literalWord option.shown ++ "' but none was supplied")
  | repeated option =>
    some ("the argument '" ++ highlighted option.shown ++ "' cannot be used multiple times")
  | invalidProperty value =>
    some ("invalid value '" ++ highlighted value ++ "' for '"
      ++ literalWord (Opt.parameter .property).shown ++ "': expected KEY=VALUE, got '" ++ value ++ "'")

end UsageError

inductive Stop where
  | help
  | version
  | error (e : UsageError)
  deriving DecidableEq, Repr

structure Gathered where
  config : Option String
  modules : List String
  skipRules : List String
  properties : List (String × String)
  switches : List Switch
  pending : Option (Parameter × Option String)
  deriving DecidableEq, Repr

/-- A key and a value with an equals sign between them; blanks around the key do not count, and it must
    not be empty. -/
def readProperty? (text : String) : Option (String × String) :=
  match text.toList.dropWhile (· != '=') with
  | [] => none
  | _ :: value =>
    let key := Text.trimChars (text.toList.takeWhile (· != '='))
    if key.isEmpty then none else some (String.ofList key, String.ofList value)

namespace Gathered

def empty : Gathered := ⟨none, [], [], [], [], none⟩

def store (g : Gathered) (p : Parameter) (value : String) : Except UsageError Gathered :=
  match p with
  | .config =>
    if g.config.isSome then .error (.repeated (.parameter p))
    else if value.isEmpty then .error (.missingValue (.parameter p))
    else .ok { g with config := some value }
  | .directory =>
    if value.isEmpty then .error (.missingValue (.parameter p))
    else .ok { g with modules := g.modules ++ [value] }
  | .skipRule => .ok { g with skipRules := g.skipRules ++ [value] }
  | .property =>
    match readProperty? value with
    | some property => .ok { g with properties := g.properties ++ [property] }
    | none => .error (.invalidProperty value)

def settle (g : Gathered) : Except UsageError Gathered :=
  match g.pending with
  | none => .ok g
  | some (p, none) => .error (.missingValue (.parameter p))
  | some (p, some value) => store { g with pending := none } p value

def awaitsValue (g : Gathered) : Bool :=
  match g.pending with
  | some (_, none) => true
  | _ => false

def turnOn (g : Gathered) (s : Switch) : Except UsageError Gathered :=
  if g.switches.contains s then .error (.repeated (.switch s))
  else .ok { g with switches := g.switches ++ [s] }

def take (g : Gathered) (option : Opt) (value : Option String) : Except Stop Gathered :=
  match option, value with
  | .parameter p, none =>
    (g.settle.mapError Stop.error).map fun g => { g with pending := some (p, none) }
  | .parameter p, some value => (g.settle.bind fun g => g.store p value).mapError Stop.error
  | option, some value => .error (.error (.unexpectedValue value option))
  | .switch s, none => (g.settle.bind fun g => g.turnOn s).mapError Stop.error
  | .help, none => (g.settle.mapError Stop.error).bind fun _ => .error .help
  | .version, none => (g.settle.mapError Stop.error).bind fun _ => .error .version

/-- A word of letters behind a single hyphen; the first one that takes a value takes the rest. -/
def takeLetters (scope : Scope) (g : Gathered) : List Char → Except Stop Gathered
  | [] => .ok g
  | c :: rest =>
    match scope.ofLetter? c with
    | none => .error (.error (.unexpectedArgument (String.ofList ['-', c])))
    | some (.parameter p) =>
      match rest with
      | [] => g.take (.parameter p) none
      | '=' :: value => g.take (.parameter p) (some (String.ofList value))
      | value => g.take (.parameter p) (some (String.ofList value))
    | some option => (g.take option none).bind fun g => takeLetters scope g rest

def takeWord (scope : Scope) (g : Gathered) (cs : List Char) : Except Stop Gathered :=
  let name := String.ofList (cs.takeWhile (· != '='))
  let value :=
    match cs.dropWhile (· != '=') with
    | [] => none
    | _ :: value => some (String.ofList value)
  match scope.ofWord? name with
  | some option => g.take option value
  | none => .error (.error (.unexpectedArgument ("--" ++ name)))

end Gathered

inductive Command where
  | check
  | list
  deriving DecidableEq, Repr

def commandWords : List (String × Option Command) :=
  [("check", some .check), ("list", some .list), ("help", none)]

def strayWord (scope : Scope) (escaped : Bool) (word : String) : UsageError :=
  match scope with
  | .program =>
    if escaped && (commandWords.lookup word).isSome then .unexpectedArgument word
    else .unknownCommand word
  | .check | .list => .unexpectedArgument word

inductive End where
  | words (g : Gathered)
  | command (g : Gathered) (command : Option Command) (rest : List String)

def gather (scope : Scope) (g : Gathered) : List String → Except Stop End
  | [] => .ok (.words g)
  | word :: rest =>
    let command := if scope = .program ∧ !g.awaitsValue then commandWords.lookup word else none
    match command with
    | some command => .ok (.command g command rest)
    | none =>
      match word.toList with
      | ['-', '-'] =>
        match rest with
        | [] => .ok (.words g)
        | stray :: _ => .error (.error (strayWord scope true stray))
      | '-' :: '-' :: cs => (g.takeWord scope cs).bind fun g => gather scope g rest
      | '-' :: c :: cs => (g.takeLetters scope (c :: cs)).bind fun g => gather scope g rest
      | _ =>
        match g.pending with
        | some (p, none) => gather scope { g with pending := some (p, some word) } rest
        | _ => .error (.error (strayWord scope false word))

def helpTarget : List String → Except UsageError Unit
  | [] => .ok ()
  | word :: rest =>
    match commandWords.lookup word, rest with
    | none, _ => .error (.unknownCommand word)
    | some _, [] => .ok ()
    | some none, next :: last =>
      match commandWords.lookup next, last with
      | none, _ => .error (.unknownCommand next)
      | some _, [] => .ok ()
      | some _, stray :: _ => .error (.unknownCommand stray)
    | some (some _), stray :: _ => .error (.unknownCommand stray)

structure Request where
  command : Command
  /-- The settings file that was named; the word behind the command counts more. -/
  config : Option String
  details : Gathered
  deriving DecidableEq, Repr

def Command.scope : Command → Scope
  | .check => .check
  | .list => .list

def readCommand (command : Command) (words : List String) : Except Stop Gathered :=
  match gather command.scope .empty words with
  | .ok (.words g) => g.settle.mapError Stop.error
  | .ok (.command g _ _) => g.settle.mapError Stop.error
  | .error stop => .error stop

def Request.read (words : List String) : Except Stop Request :=
  match gather .program .empty words with
  | .error stop => .error stop
  | .ok (.words g) =>
    match g.settle with
    | .error e => .error (.error e)
    | .ok g => .error (.error (if g.config.isNone then .nothing else .missingCommand))
  | .ok (.command _ none rest) =>
    match helpTarget rest with
    | .error e => .error (.error e)
    | .ok _ => .error .help
  | .ok (.command g (some command) rest) =>
    match readCommand command rest with
    | .error stop => .error stop
    | .ok details =>
      match g.settle with
      | .error e => .error (.error e)
      | .ok g => .ok ⟨command, details.config <|> g.config, details⟩

end BuildGate.CommandLine
