import PacRules.Json.NestedReader

/-!
# The config file

A JSON object with settings under names of their own. Every one may be missing or null, an
unknown one is skipped, and none may be given twice. The settings may also stand in a list
in their fixed order, from which the last ones may be left out. The files with user rules are
one path or a list of paths.
-/

namespace PacRules.Settings

open PacRules.Text PacRules.Json

/-- What a config file sets. -/
structure ConfigFile where
  proxy : Option Text := none
  feedUrl : Option Text := none
  feedProxy : Option Text := none
  localCopy : Option Text := none
  refreshLocalCopy : Option Bool := none
  userRuleFrom : Option (List Text) := none
  output : Option Text := none
  compress : Option Bool := none
  base64 : Option Bool := none
  precise : Option Bool := none
  pslFile : Option Text := none
  deriving DecidableEq

namespace ConfigFile

/-- The settings of a config file. -/
inductive Key where
  | proxy
  | feedUrl
  | feedProxy
  | localCopy
  | refreshLocalCopy
  | userRuleFrom
  | output
  | compress
  | base64
  | precise
  | pslFile
  deriving DecidableEq

namespace Key

/-- The settings in the order in which a list has them. -/
def all : List Key :=
  [proxy, feedUrl, feedProxy, localCopy, refreshLocalCopy, userRuleFrom, output, compress,
   base64, precise, pslFile]

def name : Key → String
  | proxy => "proxy"
  | feedUrl => "gfwlist-url"
  | feedProxy => "gfwlist-proxy"
  | localCopy => "gfwlist-local"
  | refreshLocalCopy => "update-gfwlist-local"
  | userRuleFrom => "user-rule-from"
  | output => "output"
  | compress => "compress"
  | base64 => "base64"
  | precise => "precise"
  | pslFile => "psl-file"

def ofName? (name : Text) : Option Key := all.find? fun key => key.name.toList = name

end Key

/-- What is told of a value of the wrong shape: the value's own fault, if it has one that shows
before any list or object in it is entered. -/
def wrongShape {α : Type} (t : Text) : Except ReadError α :=
  let told (read : Except ReadError (Unit × Text)) : Except ReadError α := do
    let _ ← read
    throw .shape
  match skipBlanks t with
  | [] => .error .endOfText
  | 'n' :: t => told (readWord "ull".toList t)
  | 't' :: t => told (readWord "rue".toList t)
  | 'f' :: t => told (readWord "alse".toList t)
  | '-' :: t => told (readNumber t)
  | '"' :: t => told ((readText t).map fun (_, t) => ((), t))
  | '[' :: _ => .error .shape
  | '\x7b' :: _ => .error .shape
  | c :: t => if c.isDigit then told (readNumber (c :: t)) else .error .syntaxFault

def readTextValue : Reader Text := fun t =>
  match skipBlanks t with
  | '"' :: t => readText t
  | t => wrongShape t

def readBoolValue : Reader Bool := fun t =>
  match skipBlanks t with
  | 't' :: t => (readWord "rue".toList t).map fun (_, t) => (true, t)
  | 'f' :: t => (readWord "alse".toList t).map fun (_, t) => (false, t)
  | t => wrongShape t

/-- The texts of a nested list that holds nothing else, or of a single text. -/
def textsOf? : Nested → Option (List Text)
  | .text t => some [t]
  | .list items => items.mapM fun
    | .text t => some t
    | .list _ => none

/-- One text or a list of texts. The value is read as a whole before its shape is looked at. -/
def readTextsValue : Reader (List Text) := fun t => do
  let (value, t) ← readNested t
  match value.bind textsOf? with
  | some texts => return (texts, t)
  | none => throw .shape

def readOptional {α : Type} (read : Reader α) : Reader (Option α) := fun t =>
  match skipBlanks t with
  | 'n' :: t => (readWord "ull".toList t).map fun (_, t) => (none, t)
  | t => (read t).map fun (value, t) => (some value, t)

def readKey (config : ConfigFile) : Key → Reader ConfigFile
  | .proxy, t => do
    let (v, t) ← readOptional readTextValue t
    return ({ config with proxy := v }, t)
  | .feedUrl, t => do
    let (v, t) ← readOptional readTextValue t
    return ({ config with feedUrl := v }, t)
  | .feedProxy, t => do
    let (v, t) ← readOptional readTextValue t
    return ({ config with feedProxy := v }, t)
  | .localCopy, t => do
    let (v, t) ← readOptional readTextValue t
    return ({ config with localCopy := v }, t)
  | .refreshLocalCopy, t => do
    let (v, t) ← readOptional readBoolValue t
    return ({ config with refreshLocalCopy := v }, t)
  | .userRuleFrom, t => do
    let (v, t) ← readOptional readTextsValue t
    return ({ config with userRuleFrom := v }, t)
  | .output, t => do
    let (v, t) ← readOptional readTextValue t
    return ({ config with output := v }, t)
  | .compress, t => do
    let (v, t) ← readOptional readBoolValue t
    return ({ config with compress := v }, t)
  | .base64, t => do
    let (v, t) ← readOptional readBoolValue t
    return ({ config with base64 := v }, t)
  | .precise, t => do
    let (v, t) ← readOptional readBoolValue t
    return ({ config with precise := v }, t)
  | .pslFile, t => do
    let (v, t) ← readOptional readTextValue t
    return ({ config with pslFile := v }, t)

def closeList (config : ConfigFile) : Reader ConfigFile := fun t =>
  match skipBlanks t with
  | [] => .error .endOfText
  | ']' :: t => .ok (config, t)
  | _ => .error .syntaxFault

/-- The settings of a list, for the keys that are left, up to the end of the list. -/
def readItems (first : Bool) (config : ConfigFile) : List Key → Reader ConfigFile
  | [], t => closeList config t
  | key :: keys, t => do
    let (more, t) ← toNextItem first t
    if more then
      let (config, t) ← readKey config key t
      readItems false config keys t
    else closeList config t

/-- The settings of an object up to its end, the ones in `seen` having been read. The number bounds
the steps. -/
def readMembers :
    (steps : Nat) → (first : Bool) → (seen : List Key) → ConfigFile → Reader ConfigFile
  | 0, _, _, _, _ => .error .endOfText
  | steps + 1, first, seen, config, t => do
    let (more, t) ← toNextMember first t
    if more then
      let (name, t) ← readText (t.drop 1)
      let key := Key.ofName? name
      if key.any seen.contains then throw .shape
      let t ← match skipBlanks t with
        | [] => throw .endOfText
        | ':' :: t => pure t
        | _ => throw .syntaxFault
      match key with
      | some key => do
        let (config, t) ← readKey config key t
        readMembers steps false (key :: seen) config t
      | none => do
        let (_, t) ← skipValue t
        readMembers steps false seen config t
    else return (config, t.drop 1)

def read (t : Text) : Except ReadError ConfigFile := do
  let (config, rest) ← match skipBlanks t with
    | '[' :: t => readItems true {} Key.all t
    | '\x7b' :: t => readMembers (t.length + 1) true [] {} t
    | t => wrongShape t
  if (skipBlanks rest).isEmpty then return config else throw .syntaxFault

end ConfigFile

end PacRules.Settings
