import PacRules.Feed.Fetch
import PacRules.Script.Render
import PacRules.Suffix.File

/-!
# A run of the program

From the words of a command line to a script. The settings are resolved, the feed is fetched
and decoded, the user's rules are gathered, the suffix rules are loaded where the mode needs
them, and the script is rendered and put where it is wanted. The first of these steps that
fails ends the run. Of the files, only the local copy of the feed and the output are ever
written, the latter as the last thing that a run does.
-/

namespace PacRules.Program

open PacRules.Text PacRules.Files PacRules.Settings PacRules.Feed PacRules.Script PacRules.Suffix

/-- What a run finds around it. -/
structure Environment (m : Type → Type) where
  home : Option Text
  /-- the time that a script's head shows -/
  now : Text
  /-- the registrable domain of a checked host by the suffixes that come with the program -/
  builtin? : (host : Text) → Option Text
  files : FileAccess m
  network : Network m

def version : Text := "0.3.0".toList

/-- Why a run fails. -/
inductive RunError where
  | configUnreadable (path : Text) (e : FileError)
  | configInvalid (path : Text)
  | feedProxy (e : ProxyError)
  | fetch (e : FetchError)
  | feed (e : Base64.DecodeError)
  | suffixes (e : SuffixFileError)
  | output (path : Text) (e : FileError)
  deriving DecidableEq

def RunError.message : RunError → Text
  | .configUnreadable path e =>
    "Failed to read config '".toList ++ path ++ "': ".toList ++ e.message
  | .configInvalid path => "Invalid config '".toList ++ path ++ ['\'']
  | .feedProxy e => e.message
  | .fetch e => e.message
  | .feed e => Feed.errorMessage e
  | .suffixes e => "Failed to load public suffix list: ".toList ++ e.message
  | .output path e => "Failed to write '".toList ++ path ++ "': ".toList ++ e.message

variable {m : Type → Type} [Monad m]

def orFail {ε α : Type} (cause : ε → RunError) (answer : m (Except ε α)) : ExceptT RunError m α :=
  ExceptT.mk do return (← answer).mapError cause

def loadConfig (env : Environment m) (args : Arguments) : ExceptT RunError m ConfigFile :=
  match args.configFrom with
  | none => return {}
  | some path => do
    let path := resolveTilde env.home path
    let octets ← env.files.read path
    let text ← orFail (.configUnreadable path) (return textOf octets)
    orFail (fun _ => .configInvalid path) (return ConfigFile.read text)

/-- The user's rules: those of the command line, then the lines of each file that is readable
text. -/
def userRules (files : FileAccess m) (inline paths : List Text) : m (List Text) := do
  let texts ← paths.mapM fun path => do return (textOf (← files.read path)).toOption
  return inline ++ (texts.filterMap id).flatMap lines

/-- The resolver for a mode: a file of suffixes is loaded only where it has a say. -/
def resolver (env : Environment m) (settings : Settings) : ExceptT RunError m Resolver :=
  match settings.pslFile, settings.mode with
  | some path, .precise => do
    let octets ← env.files.read path
    let rules ← orFail .suffixes (return SuffixRules.ofFile octets)
    return rules.lookup
  | _, _ => return .checking env.builtin?

def script (env : Environment m) (settings : Settings) : ExceptT RunError m Text := do
  let fetched ← orFail .fetch (Feed.fetch env.files env.network settings)
  let decoded ← orFail .feed (return Feed.decode fetched.content)
  let user ← userRules (m := m) env.files settings.userRules settings.userRuleFiles
  let resolve ← resolver env settings
  let rules := ScriptRules.ofLines settings.mode resolve user decoded.lines
  let header : Header :=
    { version
      generated := env.now
      modified := decoded.modified.getD ['-']
      source := fetched.source.label
      proxy := settings.proxy }
  return render rules header { compress := settings.compress, envelope := settings.base64 }

/-- A script put into the file for it, or else what is printed. -/
def deliver (files : FileAccess m) (output : Option Text) (script : Text) :
    ExceptT RunError m Text :=
  match output with
  | none => return script ++ ['\n']
  | some path => do
    orFail (.output path) (files.makeParents path)
    orFail (.output path) (files.write path (utf8 script))
    return []

def carryOut (env : Environment m) (args : Arguments) : ExceptT RunError m Text := do
  let config ← loadConfig env args
  let settings ← orFail .feedProxy (return Settings.overlay env.home args config)
  let text ← script env settings
  deliver env.files settings.output text

/-- How a run ends. -/
inductive Outcome where
  /-- the command line is not carried out -/
  | usage (e : Arguments.UsageError)
  | failed (e : RunError)
  | done (printed : Text)
  deriving DecidableEq

/-- What is printed where only the version is asked for. -/
def versionLine : Text := "genpac ".toList ++ version ++ ['\n']

def Outcome.exit : Outcome → Nat
  | .usage .displayHelp => 0
  | .usage .displayVersion => 0
  | .usage _ => 2
  | .failed _ => 1
  | .done _ => 0

def Outcome.printed : Outcome → Text
  | .usage .displayVersion => versionLine
  | .done printed => printed
  | _ => []

/-- What is told of a failure, a single line unless a path has several. -/
def Outcome.errorLine? : Outcome → Option Text
  | .failed e => some ("Error: ".toList ++ e.message)
  | _ => none

def run (env : Environment m) (words : List Text) : m Outcome :=
  match Arguments.ofWords words with
  | .error e => return .usage e
  | .ok args => do
    match ← (carryOut env args).run with
    | .ok printed => return .done printed
    | .error e => return .failed e

end PacRules.Program
