import PacRules.Script.Rules
import PacRules.Script.Template
import PacRules.Text.Base64

/-!
# Rendering a script

The text of a script: the template for the mode with its slots filled, and that again in the
envelope if it is wanted. All slots are filled in one pass, so a value that holds the name of
a slot is not filled in turn. What goes into the comment at the head can neither end the
comment nor break a line of it.
-/

namespace PacRules.Script

open PacRules.Text PacRules.Json

/-- What the head of a script tells, and the proxy that it sends requests to. -/
structure Header where
  version : Text
  generated : Text
  modified : Text
  source : Text
  proxy : Text

/-- How a script is written. -/
structure ScriptStyle where
  compress : Bool := false
  envelope : Bool := false

/-- A value as it may stand in a comment: its end mark is parted, its line breaks are blanks. -/
def inComment (value : Text) : Text :=
  (replace ['*', '/'] ['*', ' ', '/'] value).map fun c => if c = '\r' || c = '\n' then ' ' else c

/-- The value for the first of the slots whose name begins a text. -/
def slotAt (slots : List (Text × Text)) : Matcher := fun t =>
  slots.findSome? fun (name, value) => literal name value t

def fillSlots (template : Text) (slots : List (Text × Text)) : Text :=
  substitute (slotAt slots) template

def templateFor (mode : Mode) (compress : Bool) : String :=
  match mode, compress with
  | .precise, _ => Template.domains
  | .standard, true => Template.short
  | .standard, false => Template.full

def scriptSlots (rules : ScriptRules) (header : Header) (compress : Bool) : List (Text × Text) :=
  [("__VERSION__".toList, header.version),
   ("__GENERATED__".toList, inComment header.generated),
   ("__MODIFIED__".toList, inComment header.modified),
   ("__GFWLIST_FROM__".toList, inComment header.source),
   ("__PROXY__".toList, quoted header.proxy),
   ("__RULES__".toList, rules.json compress)]

def renderPlain (rules : ScriptRules) (header : Header) (compress : Bool) : Text :=
  fillSlots (templateFor rules.mode compress).toList (scriptSlots rules header compress)

def envelop (version script : Text) : Text :=
  fillSlots Template.envelope.toList
    [("__BASE64__".toList, Base64.encode (utf8 script)), ("__VERSION__".toList, version)]

def render (rules : ScriptRules) (header : Header) (options : ScriptStyle) : Text :=
  let script := renderPlain rules header options.compress
  if options.envelope then envelop header.version script else script

end PacRules.Script
