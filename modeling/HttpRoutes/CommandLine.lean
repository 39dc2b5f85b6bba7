import HttpRoutes.Expression.Estimate
import HttpRoutes.Server.Start

/-!
# The command line

Two commands: `serve` answers requests until it is stopped, `check` reads a configuration and prints
the combined expression of every verb. Arguments are read from left to right, and the first that is
wrong, or asks for help, decides.
-/

namespace HttpRoutes

/-- What the program is asked to do. -/
inductive Command
  | serve (config : Option String) (watch : Bool)
  | check (config : String)
deriving DecidableEq, Repr

/-- What arguments come to. -/
inductive Arguments
  | run (command : Command)
  | help (text : String)
  | wrong
deriving DecidableEq, Repr

/-! ## Help -/

/-- The help on the program. -/
def programHelp : String :=
  "Regex REST router with config-declared routes\n\n" ++
  "Usage: restful-router [COMMAND]\n\n" ++
  "Commands:\n" ++
  "  serve  Serve the configured routes\n" ++
  "  check  Validate a config file and print the combined expression per verb\n" ++
  "  help   Print this message or the help of the given subcommand(s)\n\n" ++
  "Options:\n" ++
  "  -h, --help  Print help\n"

/-- The help on the command `serve`. -/
def serveHelp : String :=
  "Serve the configured routes\n\n" ++
  "Usage: restful-router serve [OPTIONS]\n\n" ++
  "Options:\n" ++
  "  -c, --config <CONFIG>  Path to the TOML config file\n" ++
  "      --no-watch         Do not reload routes when the config file changes\n" ++
  "  -h, --help             Print help\n"

/-- The help on the command `check`. -/
def checkHelp : String :=
  "Validate a config file and print the combined expression per verb\n\n" ++
  "Usage: restful-router check --config <CONFIG>\n\n" ++
  "Options:\n" ++
  "  -c, --config <CONFIG>  \n" ++
  "  -h, --help             Print help\n"

/-- The help on the command `help`. -/
def helpHelp : String :=
  "Print this message or the help of the given subcommand(s)\n\n" ++
  "Usage: restful-router help [COMMAND]...\n\n" ++
  "Arguments:\n" ++
  "  [COMMAND]...  Print help for the subcommand(s)\n"

/-- What the command `help` gives for the arguments behind it. -/
def helpOn : List String → Arguments
  | [] => .help programHelp
  | ["serve"] => .help serveHelp
  | ["check"] => .help checkHelp
  | ["help"] => .help helpHelp
  | _ => .wrong

/-! ## Options -/

/-- Which options a command has, what has been given so far, and the help on the command. -/
structure Options where
  hasNoWatch : Bool
  help : String
  config : Option String
  noWatch : Bool

/-- What one argument does. -/
inductive OptionStep
  | go (o : Options)
  /-- The next argument is the path of the configuration. -/
  | wantsPath
  /-- No options follow. -/
  | ended
  | help
  | wrong

/-- Give the path of the configuration. It must not be empty and is given once. -/
def Options.setConfig (o : Options) (path : String) : OptionStep :=
  if path = "" ∨ o.config.isSome then .wrong else .go { o with config := some path }

/-- The path behind the letter of its option; an equal sign may stand between them. -/
def attachedPath : List Char → String
  | '=' :: rest => String.ofList rest
  | cs => String.ofList cs

/-- Read one argument. -/
def Options.step (o : Options) (arg : String) : OptionStep :=
  match arg.toList with
  | ['-', '-'] => .ended
  | '-' :: '-' :: _ =>
    if arg = "--help" then .help
    else if arg = "--config" then .wantsPath
    else if arg = "--no-watch" ∧ o.hasNoWatch then
      if o.noWatch then .wrong else .go { o with noWatch := true }
    else
      let start := "--config=".toList
      if start.isPrefixOf arg.toList then
        o.setConfig (String.ofList (arg.toList.drop start.length))
      else .wrong
  | '-' :: 'h' :: _ => .help
  | ['-', 'c'] => .wantsPath
  | '-' :: 'c' :: path => o.setConfig (attachedPath path)
  | _ => .wrong

/-- Whether an argument can be the path of an option: it must not look like an option itself. -/
def isPath (arg : String) : Bool :=
  match arg.toList with
  | '-' :: _ :: _ => false
  | _ => true

/-- Read the arguments of a command. -/
def Options.read (o : Options) : List String → Except Arguments Options
  | [] => .ok o
  | arg :: rest =>
    match o.step arg with
    | .go o => o.read rest
    | .ended => if rest.isEmpty then .ok o else .error .wrong
    | .help => .error (.help o.help)
    | .wrong => .error .wrong
    | .wantsPath =>
      match rest with
      | [] => .error .wrong
      | path :: rest =>
        if !isPath path then .error .wrong
        else
          match o.setConfig path with
          | .go o => o.read rest
          | _ => .error .wrong

/-- Read all arguments. Without a command the server is started with the default configuration. -/
def Arguments.read : List String → Arguments
  | [] => .run (.serve none false)
  | ["--"] => .run (.serve none false)
  | "serve" :: rest =>
    match Options.read ⟨true, serveHelp, none, false⟩ rest with
    | .ok o => .run (.serve o.config (!o.noWatch))
    | .error a => a
  | "check" :: rest =>
    match Options.read ⟨false, checkHelp, none, false⟩ rest with
    | .ok o =>
      match o.config with
      | some path => .run (.check path)
      | none => .wrong
    | .error a => a
  | "help" :: rest => helpOn rest
  | arg :: _ =>
    match arg.toList with
    | '-' :: 'h' :: _ => .help programHelp
    | _ => if arg = "--help" then .help programHelp else .wrong

/-! ## Running -/

/-- How the program ends, or that it goes on serving. -/
inductive Outcome
  | exit (code : Nat) (output : String)
  | serving (server : Server)

/-- The line that `check` prints for an alternative. -/
def alternativeLine (position : Nat) (a : Alternative Handler) : String :=
  let names := ", ".intercalate (a.entry.pattern.names.map (·.getD "_"))
  s!"  #{position} group {a.outerGroup} {a.entry.pattern.text} -> {a.entry.handler.text} " ++
    s!"[{names}]\n"

/-- The lines that `check` prints for a verb. -/
def combinedLines (c : Combined Handler) : String :=
  s!"{c.verb.token} {c.source}\n" ++ String.join (c.alternatives.mapIdx alternativeLine)

/-- The configuration at a path, or the default. -/
def loadOrDefault (read : String → FileContent) : Option String → Except ConfigError Config
  | some path => Config.load (read path)
  | none => .ok Config.default

/-- Carry out a command. -/
def Command.run (read : String → FileContent) : Command → Outcome
  | serve config _ =>
    match loadOrDefault read config with
    | .error _ => .exit 1 ""
    | .ok c =>
      match Server.start c with
      | .error _ => .exit 1 ""
      | .ok (server, _) => .serving server
  | check config =>
    match Config.load (read config) with
    | .error _ => .exit 1 ""
    | .ok c =>
      match (Application.new c).result with
      | .error _ => .exit 1 ""
      | .ok app =>
        .exit 0 (String.join ((Verb.all.filterMap app.router.snapshot?).map combinedLines))

/-- Run the program. `read` gives what is found at a path. -/
def runProgram (read : String → FileContent) (args : List String) : Outcome :=
  match Arguments.read args with
  | .run command => command.run read
  | .help text => .exit 0 text
  | .wrong => .exit 2 ""

end HttpRoutes
