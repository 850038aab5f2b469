import PacRules.Text.Basic

/-!
# Paths below the home directory

A path whose first component is a tilde is a path below the home directory. Components are
parted by slashes; the slashes and single dots right behind the tilde and at the end of the
path are no components and vanish, those between other components stay. Where no home
directory is known the path is left as it is.
-/

namespace PacRules.Settings

open PacRules.Text

/-- A path without what stands for no component at its front. -/
def skipEmptyFront : Text → Text
  | '/' :: t => skipEmptyFront t
  | '.' :: '/' :: t => skipEmptyFront t
  | ['.'] => []
  | t => t

/-- A path, given backwards, without what stands for no component at its end. -/
def skipEmptyEnd : Text → Text
  | '/' :: t => skipEmptyEnd t
  | '.' :: '/' :: t => skipEmptyEnd t
  | t => t

/-- What follows a tilde that is a component of its own. -/
def belowTilde? : Text → Option Text
  | ['~'] => some []
  | '~' :: '/' :: t => some (skipEmptyEnd (skipEmptyFront t).reverse).reverse
  | _ => none

def joinPath (directory path : Text) : Text :=
  if directory.isEmpty || directory.getLast? = some '/' then directory ++ path
  else directory ++ '/' :: path

def resolveTilde (home : Option Text) (path : Text) : Text :=
  match belowTilde? path, home with
  | some rest, some home => joinPath home rest
  | _, _ => path

end PacRules.Settings
