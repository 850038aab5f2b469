import PacRules.Files.Basic

/-!
# Paths

A path is a text of steps with slashes between them. A single dot is a step that stays where it
is, two dots lead up, and any other step leads to what has that name. A path that begins with a
slash starts from the directory above all. No name and no path may be overlong, and no path holds
a NUL.
-/

namespace PacRules.Files

open PacRules.Text

/-- A step of a path. -/
inductive PathStep where
  | stay
  | up
  | into (name : Text)
  deriving DecidableEq

def PathStep.ofText (t : Text) : PathStep :=
  if t = ['.'] then .stay else if t = ['.', '.'] then .up else .into t

def stepsOf (path : Text) : List PathStep := (fields (· = '/') path).map PathStep.ofText

/-- Whether a path starts from the directory above all. -/
def isAbsolute (path : Text) : Bool := path.head? = some '/'

/-- Whether a path ends in a slash, and so names a directory. -/
def endsInSlash (path : Text) : Bool := List.isSuffixOf ['/'] path

def longestName : Nat := 255

def longestPath : Nat := 4095

/-- Whether a name is too long for a file or a directory. -/
def isOverlong (name : Text) : Bool := longestName < utf8Size name

def pathFault? (path : Text) : Option FileError :=
  if path.any (· = '\x00') then some .nulInName
  else if longestPath < utf8Size path then some .nameTooLong
  else none

/-- A path that is given backwards, without the slashes and the single dots behind slashes that it
ends in. -/
def withoutIdleEnd : Text → Text
  | '/' :: t => withoutIdleEnd t
  | '.' :: '/' :: t => withoutIdleEnd t
  | t => t

/-- The path without its last step, empty where that is the only one. -/
def parentOf (path : Text) : Text :=
  (withoutIdleEnd ((withoutIdleEnd path.reverse).dropWhile (· ≠ '/'))).reverse

end PacRules.Files
