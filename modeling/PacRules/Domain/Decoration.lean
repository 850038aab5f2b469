import PacRules.Text.Basic

/-!
# Decoration

What is taken off a rule before its host is looked for: anchors, asterisks, the wildcards in
front of a path segment, words next to an asterisk, and leading dots. Each step is applied
to the whole text, and the steps are taken in a fixed order, each on the result of the one
before.
-/

namespace PacRules.Domain

open PacRules.Text

/-- One step of stripping a rule. -/
inductive Step where
  /-- pipes at the front, pipes and carets at the end -/
  | pipesAndCarets
  /-- asterisks at either end -/
  | outerAsterisks
  /-- a slash, an asterisk and a dot become the slash -/
  | wildcardSegment
  /-- a slash, a word, an asterisk and a dot become the slash -/
  | openSegment
  /-- an asterisk and a word behind it go -/
  | wordBehindAsterisk
  /-- a word and an asterisk at the front go -/
  | wordBeforeAsterisk
  /-- dots at the front go -/
  | leadingDots
  deriving DecidableEq

/-- The characters of a segment in front of a wildcard. -/
def isSegmentChar (c : Char) : Bool := c.isAlphanum

def isWordChar (c : Char) : Bool := c.isAlphanum || c = '_' || c = '%'

/-- A slash, a segment, an asterisk and a dot, of which the slash stays. -/
def openSegmentAt : Matcher
  | '/' :: t =>
    match run? isSegmentChar t with
    | some (segment, '*' :: '.' :: _) => some (segment.length + 2, ['/'])
    | _ => none
  | _ => none

def asteriskWordAt : Matcher
  | '*' :: t => (run? isWordChar t).map fun (word, _) => (word.length, [])
  | _ => none

/-- A text without a word and an asterisk at its front. -/
def withoutLeadingWord (t : Text) : Text :=
  match run? isWordChar t with
  | some (_, '*' :: rest) => rest
  | _ => t

namespace Step

def apply : Step → Text → Text
  | pipesAndCarets, t => trimEnd (fun c => c = '|' || c = '^') (trimStart (· = '|') t)
  | outerAsterisks, t => trim (· = '*') t
  | wildcardSegment, t => replace ['/', '*', '.'] ['/'] t
  | openSegment, t => substitute openSegmentAt t
  | wordBehindAsterisk, t => substitute asteriskWordAt t
  | wordBeforeAsterisk, t => withoutLeadingWord t
  | leadingDots, t => trimStart (· = '.') t

def all : List Step :=
  [pipesAndCarets, outerAsterisks, wildcardSegment, openSegment, wordBehindAsterisk,
   wordBeforeAsterisk, leadingDots]

end Step

/-- The results after each step, the steps being taken one after the other. -/
def stages (steps : List Step) (rule : Text) : List Text :=
  match steps with
  | [] => []
  | step :: steps => step.apply rule :: stages steps (step.apply rule)

def stripped (rule : Text) : Text := Step.all.foldl (fun t step => step.apply t) rule

end PacRules.Domain
