import PacRules.Json.Nested
import PacRules.Json.Reader

/-!
# Reading nested lists

A JSON value read as nested lists of texts. A value that holds anything else, a number, an
object, a truth value or a null, is read through and gives nothing. Lists and objects are
read to a limited depth.
-/

namespace PacRules.Json

open PacRules.Text

/-- How many lists and objects a value may be inside of, itself included. -/
def depthLimit : Nat := 127

/-- The names and values of an object are read for their faults only. -/
def nestedOfItems (items : List (Option Nested)) : Option Nested :=
  (items.mapM id).map Nested.list

def readName : Reader Text := fun t =>
  match skipBlanks t with
  | [] => .error .endOfText
  | '"' :: t => do
    let (name, t) ← readText t
    match skipBlanks t with
    | [] => .error .endOfText
    | ':' :: t => return (name, t)
    | _ => .error .syntaxFault
  | _ => .error .syntaxFault

/-- The way to the next item of a list, or to its end: `none` is the closing bracket, which is
left in place. In front of any item but the first there has to be a comma. -/
def toNextItem (first : Bool) : Reader Bool := fun t =>
  match skipBlanks t with
  | [] => .error .endOfText
  | ']' :: t => .ok (false, ']' :: t)
  | c :: t =>
    if first then .ok (true, c :: t)
    else if c = ',' then
      match skipBlanks t with
      | [] => .error .endOfText
      | ']' :: _ => .error .syntaxFault
      | t => .ok (true, t)
    else .error .syntaxFault

/-- The way to the next member of an object, or to its end, as for lists. -/
def toNextMember (first : Bool) : Reader Bool := fun t =>
  match skipBlanks t with
  | [] => .error .endOfText
  | '\x7d' :: t => .ok (false, '\x7d' :: t)
  | c :: t =>
    if first then if c = '"' then .ok (true, c :: t) else .error .syntaxFault
    else if c = ',' then
      match skipBlanks t with
      | [] => .error .endOfText
      | '"' :: t => .ok (true, '"' :: t)
      | _ => .error .syntaxFault
    else .error .syntaxFault

mutual

/-- A value inside of at most `depth` more lists and objects. The number bounds the steps. -/
def readNestedFrom (steps depth : Nat) (t : Text) : Except ReadError (Option Nested × Text) :=
  match steps with
  | 0 => .error .endOfText
  | steps + 1 =>
    match skipBlanks t with
    | [] => .error .endOfText
    | 'n' :: t => (readWord "ull".toList t).map fun (_, t) => (none, t)
    | 't' :: t => (readWord "rue".toList t).map fun (_, t) => (none, t)
    | 'f' :: t => (readWord "alse".toList t).map fun (_, t) => (none, t)
    | '-' :: t => (readNumber t).map fun (_, t) => (none, t)
    | '"' :: t => (readText t).map fun (text, t) => (some (.text text), t)
    | '[' :: t =>
      if depth ≤ 1 then .error .syntaxFault
      else do
        let (items, t) ← readItemsFrom steps (depth - 1) true t
        return (nestedOfItems items, t.drop 1)
    | '\x7b' :: t =>
      if depth ≤ 1 then .error .syntaxFault
      else do
        let (_, t) ← readMembersFrom steps (depth - 1) true t
        return (none, t.drop 1)
    | c :: t =>
      if c.isDigit then (readNumber (c :: t)).map fun (_, t) => (none, t) else .error .syntaxFault

def readItemsFrom (steps depth : Nat) (first : Bool) (t : Text) :
    Except ReadError (List (Option Nested) × Text) :=
  match steps with
  | 0 => .error .endOfText
  | steps + 1 => do
    let (more, t) ← toNextItem first t
    if more then
      let (item, t) ← readNestedFrom steps depth t
      let (items, t) ← readItemsFrom steps depth false t
      return (item :: items, t)
    else return ([], t)

def readMembersFrom (steps depth : Nat) (first : Bool) (t : Text) :
    Except ReadError (Unit × Text) :=
  match steps with
  | 0 => .error .endOfText
  | steps + 1 => do
    let (more, t) ← toNextMember first t
    if more then
      let (_, t) ← readName t
      let (_, t) ← readNestedFrom steps depth t
      readMembersFrom steps depth false t
    else return ((), t)

end

/-- A value that is nested in one object or list already. -/
def readNested : Reader (Option Nested) := fun t =>
  readNestedFrom (2 * t.length + 2) depthLimit t

end PacRules.Json
