import PacRules.Text.Utf8

/-!
# Files

What a run asks of the files around it, apart from where they are: a file is read or written
as a whole, under a path, and the directories above a path are made. Each of these may fail
in a way that has its own words.
-/

namespace PacRules.Files

open PacRules.Text

/-- Why a file cannot be read or written. -/
inductive FileError where
  | notFound
  | exists
  | notDirectory
  | isDirectory
  | nameTooLong
  | nulInName
  | notText
  | other (message : Text)
  deriving DecidableEq

def FileError.message : FileError → Text
  | .notFound => "No such file or directory (os error 2)".toList
  | .exists => "File exists (os error 17)".toList
  | .notDirectory => "Not a directory (os error 20)".toList
  | .isDirectory => "Is a directory (os error 21)".toList
  | .nameTooLong => "File name too long (os error 36)".toList
  | .nulInName => "file name contained an unexpected NUL byte".toList
  | .notText => "stream did not contain valid UTF-8".toList
  | .other message => message

/-- What can be done with files. -/
structure FileAccess (m : Type → Type) where
  /-- the octets of a file -/
  read : Text → m (Except FileError (List UInt8))
  /-- a file with given octets in place of what it held -/
  write : Text → List UInt8 → m (Except FileError Unit)
  /-- the directories above a path, where they are missing -/
  makeParents : Text → m (Except FileError Unit)

def textOf (octets : Except FileError (List UInt8)) : Except FileError Text := do
  match ofUtf8? (← octets) with
  | some t => return t
  | none => throw .notText

end PacRules.Files
