import PacRules.Text.Basic

/-!
# The command line

The words of a command line as options with values. An option is given by its long name or by
its letter, with its value attached or as the next word; letters may stand together behind one
hyphen. A word that begins with a hyphen is never a value unless it is attached or the hyphen
stands alone. A switch may go without its value and is then on. The options for user rules may
be repeated, any other may be given once. What is wrong with an option's value is told when the
option is settled: at the next option that is known, or at the end of the line.
-/

namespace PacRules.Settings

open PacRules.Text

/-- What a command line sets. -/
structure Arguments where
  proxy : Option Text := none
  feedUrl : Option Text := none
  feedProxy : Option Text := none
  localCopy : Option Text := none
  refreshLocalCopy : Option Bool := none
  userRules : List Text := []
  userRuleFrom : List Text := []
  configFrom : Option Text := none
  output : Option Text := none
  compress : Option Bool := none
  base64 : Option Bool := none
  precise : Option Bool := none
  pslFile : Option Text := none
  verbose : Bool := false
  deriving DecidableEq

namespace Arguments

/-- Why a command line is not carried out. -/
inductive UsageError where
  | invalidValue
  | unknownArgument
  | argumentConflict
  | tooManyValues
  | displayHelp
  | displayVersion
  deriving DecidableEq

/-- The options. -/
inductive Key where
  | proxy
  | feedUrl
  | feedProxy
  | localCopy
  | refreshLocalCopy
  | userRule
  | userRuleFrom
  | configFrom
  | output
  | compress
  | base64
  | precise
  | pslFile
  | verbose
  | help
  | version
  deriving DecidableEq

namespace Key

def all : List Key :=
  [proxy, feedUrl, feedProxy, localCopy, refreshLocalCopy, userRule, userRuleFrom,
   configFrom, output, compress, base64, precise, pslFile, verbose, help, version]

def name : Key → String
  | proxy => "proxy"
  | feedUrl => "gfwlist-url"
  | feedProxy => "gfwlist-proxy"
  | localCopy => "gfwlist-local"
  | refreshLocalCopy => "update-gfwlist-local"
  | userRule => "user-rule"
  | userRuleFrom => "user-rule-from"
  | configFrom => "config-from"
  | output => "output"
  | compress => "compress"
  | base64 => "base64"
  | precise => "precise"
  | pslFile => "psl-file"
  | verbose => "verbose"
  | help => "help"
  | version => "version"

def letter? : Key → Option Char
  | proxy => some 'p'
  | configFrom => some 'c'
  | output => some 'o'
  | verbose => some 'v'
  | help => some 'h'
  | version => some 'V'
  | _ => none

def ofName? (name : Text) : Option Key := all.find? fun key => key.name.toList = name

def ofLetter? (c : Char) : Option Key := all.find? fun key => key.letter? = some c

def takesValue : Key → Bool
  | verbose | help | version => false
  | _ => true

/-- Whether an option may go without its value, which is then a yes. -/
def isSwitch : Key → Bool
  | compress | base64 | precise => true
  | _ => false

def isRepeatable : Key → Bool
  | userRule | userRuleFrom => true
  | _ => false

end Key

def pathValue (value : Text) : Except UsageError Text :=
  if value.isEmpty then .error .invalidValue else .ok value

def boolValue (value : Text) : Except UsageError Bool :=
  if value = "true".toList then .ok true
  else if value = "false".toList then .ok false
  else .error .invalidValue

def set (args : Arguments) (key : Key) (value : Text) : Except UsageError Arguments :=
  match key with
  | .proxy => .ok { args with proxy := some value }
  | .feedUrl => .ok { args with feedUrl := some value }
  | .feedProxy => .ok { args with feedProxy := some value }
  | .localCopy => do return { args with localCopy := some (← pathValue value) }
  | .refreshLocalCopy => do return { args with refreshLocalCopy := some (← boolValue value) }
  | .userRule => .ok { args with userRules := args.userRules ++ [value] }
  | .userRuleFrom => do
    let paths ← (List.splitOn ',' value).mapM pathValue
    return { args with userRuleFrom := args.userRuleFrom ++ paths }
  | .configFrom => do return { args with configFrom := some (← pathValue value) }
  | .output => do return { args with output := some (← pathValue value) }
  | .compress => do return { args with compress := some (← boolValue value) }
  | .base64 => do return { args with base64 := some (← boolValue value) }
  | .precise => do return { args with precise := some (← boolValue value) }
  | .pslFile => do return { args with pslFile := some (← pathValue value) }
  | .verbose => .ok { args with verbose := true }
  | .help => .error .displayHelp
  | .version => .error .displayVersion

/-- An option that is still to be settled, and the value that it has been given. -/
structure Pending where
  key : Key
  value : Option Text := none

/-- A command line in the course of reading: what is set, by which options, the option to be
settled, and whether two hyphens have ended the options. -/
structure Reading where
  args : Arguments := {}
  seen : List Key := []
  pending : Option Pending := none
  ended : Bool := false

namespace Reading

/-- An option with what value it has been given, settled. -/
def settleWith (r : Reading) (key : Key) (value : Option Text) : Except UsageError Reading := do
  if key.takesValue && !key.isSwitch && value.isNone then throw .invalidValue
  if !key.isRepeatable && r.seen.contains key then throw .argumentConflict
  let args ← r.args.set key (value.getD "true".toList)
  return { r with args, seen := key :: r.seen }

def settle (r : Reading) : Except UsageError Reading :=
  match r.pending with
  | none => .ok r
  | some p => ({ r with pending := none } : Reading).settleWith p.key p.value

def option (r : Reading) (key : Key) (attached : Option Text) : Except UsageError Reading := do
  let r ← r.settle
  match attached with
  | some value => r.settleWith key (some value)
  | none =>
    if key.takesValue then return { r with pending := some { key } } else r.settleWith key none

/-- A word behind two hyphens, with what is attached to it behind an equals sign. -/
def long (r : Reading) (word : Text) : Except UsageError Reading :=
  let (name, attached) : Text × Option Text := match cut? ['='] word with
    | some (name, value) => (name, some value)
    | none => (word, none)
  match Key.ofName? name with
  | none => .error .unknownArgument
  | some key =>
    if !key.takesValue && attached.isSome then .error .tooManyValues else r.option key attached

/-- The value that follows an option's letter in the same word, behind an equals sign if there is
one. -/
def attachedToLetter : Text → Option Text
  | [] => none
  | '=' :: value => some value
  | value => some value

def letters (r : Reading) : Text → Except UsageError Reading
  | [] => .ok r
  | c :: t =>
    match Key.ofLetter? c with
    | none => .error .unknownArgument
    | some key =>
      if key.takesValue then r.option key (attachedToLetter t)
      else do
        let r ← r.option key none
        r.letters t

/-- A word that is no option: the value of the pending one, if that awaits a value. -/
def plain (r : Reading) (word : Text) : Except UsageError Reading :=
  match r.pending with
  | some { key, value := none } => .ok { r with pending := some { key, value := some word } }
  | _ => .error .unknownArgument

def read (r : Reading) (word : Text) : Except UsageError Reading :=
  if r.ended then .error .unknownArgument
  else match word with
    | ['-', '-'] => .ok { r with ended := true }
    | '-' :: '-' :: t => r.long t
    | '-' :: c :: t => r.letters (c :: t)
    | _ => r.plain word

end Reading

def ofWords (words : List Text) : Except UsageError Arguments := do
  let r ← words.foldlM Reading.read {}
  let r ← r.settle
  return r.args

end Arguments

end PacRules.Settings
