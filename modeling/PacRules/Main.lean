import PacRules.Files.Path
import PacRules.Program.Run
import Std.Time

/-!
# The command line program

A run on the files of the computer. Messages about a failure go to the error stream. There is
no network here: a download always fails, and the feed is read from its local copy. The public
suffixes that come with the program are those that the system keeps.
-/

open PacRules PacRules.Text PacRules.Files PacRules.Program PacRules.Suffix

namespace PacRules.Main

/-- An error of the system. A path that can be followed is an invalid argument only if one of its
names is overlong. -/
def fileError (e : IO.Error) : FileError :=
  match e with
  | .noFileOrDirectory _ _ _ => .notFound
  | .alreadyExists _ _ _ => .exists
  | .inappropriateType _ code _ => if code = 21 then .isDirectory else .notDirectory
  | .invalidArgument _ _ _ => .nameTooLong
  | e => .other (toString e).toList

/-- What is done with the file that a path names, if the path can be followed. -/
def withPath {α : Type} (path : Text) (act : String → IO α) : IO (Except FileError α) := do
  match pathFault? path with
  | some fault => return .error fault
  | none =>
    try return .ok (← act (String.ofList path))
    catch e => return .error (fileError e)

def files : FileAccess IO where
  read path := withPath path fun path => do return (← IO.FS.readBinFile path).toList
  write path octets := withPath path fun path =>
    IO.FS.writeBinFile path (ByteArray.mk octets.toArray)
  makeParents path :=
    if (parentOf path).isEmpty then return .ok ()
    else withPath (parentOf path) fun parent => IO.FS.createDirAll parent

def suffixList : String := "/usr/share/publicsuffix/public_suffix_list.dat"

/-- The suffix rules of the system. There are none where no list of them is kept. -/
def systemSuffixes : IO SuffixRules := do
  try return SuffixRules.ofText (← IO.FS.readFile suffixList).toList
  catch _ => return {}

/-- The present time as mail writes it, in universal time. -/
def now : IO Text := do
  let time :=
    Std.Time.DateTime.ofTimestamp (← Std.Time.Timestamp.now) Std.Time.TimeZone.ZoneRules.UTC
  return (time.format "EEE, dd MMM uuuu HH:mm:ss xx").toList

def helpText : String :=
  "Generate a PAC file from gfwlist and user rules\n\nOptions:\n" ++
    String.join (Settings.Arguments.Key.all.map fun key => "  --" ++ key.name ++ "\n")

end PacRules.Main

open PacRules.Main in
def main (words : List String) : IO UInt32 := do
  let home := (← IO.getEnv "HOME").map String.toList
  let env : Environment IO :=
    { home, now := ← now, builtin? := (← systemSuffixes).registrable?, files, network := .offline }
  let outcome ← run env (words.map String.toList)
  IO.print (String.ofList outcome.printed)
  if let .usage .displayHelp := outcome then IO.print helpText
  if let some line := outcome.errorLine? then IO.eprintln (String.ofList line)
  return UInt32.ofNat outcome.exit
