/-! The command line. Options come at two levels: in front of a command and behind it; `--verbose`
and `--config` are taken at both. An option that takes a value becomes pending when it is met and is
settled when the next option or the end is reached, so a word that cannot be read is refused before
a pending option is. -/
namespace Wayfinder

inductive UsageError where
  | missingRequired
  | unknownArgument
  | invalidSubcommand
  | invalidValue
  | argumentConflict
  | tooManyValues
  | missingSubcommand
  | help
  | version
  | helpForNothing
deriving DecidableEq, Repr

def UsageError.message : UsageError → String
  | .missingRequired => "a required option is missing"
  | .unknownArgument => "unexpected argument"
  | .invalidSubcommand => "unrecognized subcommand"
  | .invalidValue => "an option lacks its value"
  | .argumentConflict => "an option is given more than once"
  | .tooManyValues => "a flag is given a value"
  | .missingSubcommand | .helpForNothing => "a subcommand is required"
  | .help => "help is asked for"
  | .version => "the version is asked for"

structure RunCommand where
  site : String
  spec : String
  baseUrl : Option String := none
  output : Option String := none
deriving DecidableEq, Repr

inductive Command where
  | run (c : RunCommand)
  | graph (site : String)
deriving DecidableEq, Repr

structure CommandLine where
  verbose : Nat := 0
  config : Option String := none
  command : Command
deriving DecidableEq, Repr

inductive Level where
  | top
  | run
  | graph
deriving DecidableEq, Repr

inductive Setting where
  | config
  | site
  | spec
  | baseUrl
  | output
deriving DecidableEq, Repr

inductive Switch where
  | verbose
  | help
  | version
deriving DecidableEq, Repr

inductive CommandOption where
  | setting (s : Setting)
  | switch (s : Switch)
deriving DecidableEq, Repr

namespace Level

def ofName? : String → Option Level
  | "run" => some .run
  | "graph" => some .graph
  | _ => none

def offers : Level → CommandOption → Bool
  | _, .switch .verbose | _, .switch .help | _, .setting .config => true
  | .top, .switch .version => true
  | .run, .setting _ => true
  | .graph, .setting .site => true
  | _, _ => false

def longName? : String → Option CommandOption
  | "config" => some (.setting .config)
  | "site" => some (.setting .site)
  | "spec" => some (.setting .spec)
  | "base-url" => some (.setting .baseUrl)
  | "output" => some (.setting .output)
  | "verbose" => some (.switch .verbose)
  | "help" => some (.switch .help)
  | "version" => some (.switch .version)
  | _ => none

def shortName? : Char → Option CommandOption
  | 'o' => some (.setting .output)
  | 'v' => some (.switch .verbose)
  | 'h' => some (.switch .help)
  | 'V' => some (.switch .version)
  | _ => none

def long? (level : Level) (name : String) : Option CommandOption :=
  (longName? name).filter level.offers

def short? (level : Level) (letter : Char) : Option CommandOption :=
  (shortName? letter).filter level.offers

end Level

structure Given where
  verbose : Nat := 0
  values : List (Setting × String) := []
  pending : Option (Setting × Option String) := none

namespace Given

def maxVerbose : Nat := 255

def value? (g : Given) (s : Setting) : Option String := g.values.lookup s

def isEmpty (g : Given) : Bool := g.verbose == 0 && g.values.isEmpty

def awaits (g : Given) : Bool :=
  match g.pending with
  | some (_, none) => true
  | _ => false

def supply (g : Given) (word : String) : Given :=
  { g with pending := g.pending.map fun (s, _) => (s, some word) }

def set (g : Given) (s : Setting) (value : String) : Except UsageError Given :=
  if (g.value? s).isSome then .error .argumentConflict
  else .ok { g with values := g.values ++ [(s, value)] }

def settle (g : Given) : Except UsageError Given :=
  match g.pending with
  | none => .ok g
  | some (_, none) => .error .invalidValue
  | some (s, some value) => { g with pending := none }.set s value

def take (g : Given) (o : CommandOption) (value : Option String) : Except UsageError Given := do
  let g ← g.settle
  match o, value with
  | .setting s, some value => g.set s value
  | .setting s, none => return { g with pending := some (s, none) }
  | .switch .verbose, _ => return { g with verbose := min maxVerbose (g.verbose + 1) }
  | .switch .help, _ => throw .help
  | .switch .version, _ => throw .version

end Given

inductive Word where
  | separator
  | long (name : String) (value : Option String)
  | short (letters : List Char)
  | plain

def longWord (cs : List Char) : Word :=
  match cs.span (· ≠ '=') with
  | (name, []) => .long (String.ofList name) none
  | (name, _ :: value) => .long (String.ofList name) (some (String.ofList value))

def Word.ofString (word : String) : Word :=
  match word.toList with
  | ['-', '-'] => .separator
  | '-' :: '-' :: rest => longWord rest
  | ['-'] => .plain
  | '-' :: letters => .short letters
  | _ => .plain

namespace Level

def takeLong (level : Level) (g : Given) (name : String) (value : Option String) :
    Except UsageError Given :=
  match level.long? name, value with
  | none, _ => .error .unknownArgument
  | some (.switch _), some _ => .error .tooManyValues
  | some o, value => g.take o value

/-- What follows an option's letter is its value, also behind an equals sign. -/
def attached? : List Char → Option String
  | [] => none
  | '=' :: value => some (String.ofList value)
  | value => some (String.ofList value)

def takeShort (level : Level) (g : Given) : List Char → Except UsageError Given
  | [] => .ok g
  | letter :: rest =>
    match level.short? letter with
    | none => .error .unknownArgument
    | some (.setting s) => g.take (.setting s) (attached? rest)
    | some (.switch s) => do takeShort level (← g.take (.switch s) none) rest

def stray (level : Level) (trailing : Bool) (word : String) : UsageError :=
  match level with
  | .top =>
    if trailing && ((ofName? word).isSome || word == "help") then .unknownArgument
    else .invalidSubcommand
  | _ => .unknownArgument

def helpFor : List String → UsageError
  | [] => .help
  | [name] => if (ofName? name).isSome || name == "help" then .help else .invalidSubcommand
  | _ => .invalidSubcommand

def command? (level : Level) (word : String) : Option Level :=
  match level with
  | .top => ofName? word
  | _ => none

/-- Reads words up to a command or to the end. Behind a separator no word is an option. -/
def read (level : Level) :
    Bool → Given → List String → Except UsageError (Given × Option (Level × List String))
  | _, g, [] => .ok (g, none)
  | true, _, word :: _ => .error (level.stray true word)
  | false, g, word :: rest =>
    if !g.awaits && level == .top && word == "help" then .error (helpFor rest)
    else
      match if g.awaits then none else level.command? word with
      | some command => .ok (g, some (command, rest))
      | none =>
        match Word.ofString word with
        | .separator => read level true g rest
        | .long name value => do read level false (← level.takeLong g name value) rest
        | .short letters => do read level false (← level.takeShort g letters) rest
        | .plain =>
          if g.awaits then read level false (g.supply word) rest
          else .error (level.stray false word)

end Level

namespace CommandLine

def version : String := "0.1.0"

def usage : String :=
  "Usage: [OPTIONS] <COMMAND>\n\nCommands:\n"
    ++ "  run --site <SITE> --spec <SPEC> [--base-url <URL>] [-o, --output <FILE>]\n"
    ++ "  graph --site <SITE>\n  help\n\n"
    ++ "Options:\n  -v, --verbose\n  --config <FILE>\n  -h, --help\n  -V, --version"

def required (g : Given) (s : Setting) : Except UsageError String :=
  match g.value? s with
  | some value => .ok value
  | none => .error .missingRequired

def commandOf (level : Level) (g : Given) : Except UsageError Command := do
  match level with
  | .graph => return .graph (← required g .site)
  | _ =>
    let site ← required g .site
    let spec ← required g .spec
    return .run { site, spec, baseUrl := g.value? .baseUrl, output := g.value? .output }

def withoutCommand (g : Given) : Except UsageError CommandLine := do
  let g ← g.settle
  throw (if g.isEmpty then .helpForNothing else .missingSubcommand)

/-- What is given behind the command comes before what is given in front of it. -/
def combine (outer inner : Given) (command : Command) : CommandLine :=
  { verbose := if inner.verbose = 0 then outer.verbose else inner.verbose
    config := (inner.value? .config).or (outer.value? .config)
    command }

def parse (words : List String) : Except UsageError CommandLine := do
  match ← Level.top.read false {} words with
  | (outer, none) => withoutCommand outer
  | (outer, some (level, rest)) =>
    let (inner, _) ← level.read false {} rest
    let inner ← inner.settle
    let command ← commandOf level inner
    let outer ← outer.settle
    return combine outer inner command

end CommandLine
end Wayfinder
