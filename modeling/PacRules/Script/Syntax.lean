import PacRules.Text.Blank

/-!
# The language of the scripts

As much of the language as the scripts for rule tables are written in, and how it is spelled. A
program is a list of variables and one of functions of two parameters. Its tokens are the words,
texts and signs of its text in their order: blanks and comments between them do not count, nor does
the kind of quotes, nor a semicolon in front of a closing brace. An expression has parentheses around
it exactly where it would be read as another one without them, so its tokens are read in one way
only.
-/

namespace PacRules.Script

open PacRules.Text

inductive Expr where
  | name (x : String)
  | number (n : Nat)
  | text (t : Text)
  | boolean (b : Bool)
  | not (e : Expr)
  /-- an expression whose value does not count -/
  | void (e : Expr)
  | length (list : Expr)
  | item (list index : Expr)
  | call (function : String) (first second : Expr)
  /-- whether a new regular expression matches a subject -/
  | isMatch (pattern subject : Expr)
  /-- whether two values are not the same -/
  | differs (left right : Expr)
  /-- the left value where it counts as true, else the right one -/
  | either (left right : Expr)
  | choose (condition yes no : Expr)

inductive Statement where
  | declare (x : String) (value : Expr)
  | provided (condition : Expr) (body : Statement)
  | answer (value : Expr)
  /-- the body for every place of a list, counted from zero -/
  | eachPlace (counter : String) (list : Expr) (body : Statement)
  /-- the body, and the handler where the body throws -/
  | attempt (body : Statement) (caught : String) (handler : Statement)
  | block (body : Statement)
  | seq (first second : Statement)

structure Function where
  name : String
  first : String
  second : String
  body : Statement

/-- A program: its variables, those declared together in one list, and its functions. -/
structure Program where
  declarations : List (List (String × Expr))
  functions : List Function

/-! ### The tokens of a program -/

/-- Tokens that are enclosed where what they spell binds less tightly than its place demands. -/
def enclosed (demanded own : Nat) (tokens : List Text) : List Text :=
  if own < demanded then [['(']] ++ tokens ++ [[')']] else tokens

/-- The tokens of an expression in a place that demands so tight a binding: 1 of a choice, 2 of an
alternative, 3 of a comparison, 4 of a prefix, 5 of all else. -/
def Expr.tokens (demanded : Nat) : Expr → List Text
  | .name x => [x.toList]
  | .number n => [(toString n).toList]
  | .text t => [['"'] ++ t ++ ['"']]
  | .boolean b => [(toString b).toList]
  | .not e => enclosed demanded 4 ([['!']] ++ e.tokens 4)
  | .void e => enclosed demanded 4 (["void".toList] ++ e.tokens 4)
  | .length list => list.tokens 5 ++ [['.'], "length".toList]
  | .item list index => list.tokens 5 ++ [['[']] ++ index.tokens 1 ++ [[']']]
  | .call function first second =>
    [function.toList, ['(']] ++ first.tokens 1 ++ [[',']] ++ second.tokens 1 ++ [[')']]
  | .isMatch pattern subject =>
    ["new".toList, "RegExp".toList, ['(']] ++ pattern.tokens 1 ++
      [[')'], ['.'], "test".toList, ['(']] ++ subject.tokens 1 ++ [[')']]
  | .differs left right =>
    enclosed demanded 3 (left.tokens 3 ++ ["!==".toList] ++ right.tokens 4)
  | .either left right => enclosed demanded 2 (left.tokens 2 ++ ["||".toList] ++ right.tokens 3)
  | .choose condition yes no =>
    enclosed demanded 1 (condition.tokens 2 ++ [['?']] ++ yes.tokens 1 ++ [[':']] ++ no.tokens 1)

def Statement.tokens : Statement → List Text
  | .declare x value => ["var".toList, x.toList, ['=']] ++ value.tokens 1 ++ [[';']]
  | .provided condition body =>
    ["if".toList, ['(']] ++ condition.tokens 1 ++ [[')']] ++ body.tokens
  | .answer value => ["return".toList] ++ value.tokens 1 ++ [[';']]
  | .eachPlace counter list body =>
    ["for".toList, ['('], "var".toList, counter.toList, ['='], ['0'], [';'], counter.toList,
        ['<']] ++
      (Expr.length list).tokens 4 ++ [[';'], counter.toList, ['+', '+'], [')']] ++ body.tokens
  | .attempt body caught handler =>
    ["try".toList, ['\x7b']] ++ body.tokens ++
      [['\x7d'], "catch".toList, ['('], caught.toList, [')'], ['\x7b']] ++ handler.tokens ++
      [['\x7d']]
  | .block body => [['\x7b']] ++ body.tokens ++ [['\x7d']]
  | .seq first second => first.tokens ++ second.tokens

def Function.tokens (f : Function) : List Text :=
  ["function".toList, f.name.toList, ['('], f.first.toList, [','], f.second.toList, [')']] ++
    (Statement.block f.body).tokens

/-- The tokens of variables that are declared together. -/
def declarationTokens (declared : List (String × Expr)) : List Text :=
  let each := declared.map fun (x, value) => [x.toList, ['=']] ++ value.tokens 1
  ["var".toList] ++ [[',']].intercalate each ++ [[';']]

/-- Tokens without the semicolons in front of closing braces. -/
def withoutIdle : List Text → List Text
  | [';'] :: ['\x7d'] :: tokens => ['\x7d'] :: withoutIdle tokens
  | token :: tokens => token :: withoutIdle tokens
  | [] => []

def Program.tokens (p : Program) : List Text :=
  withoutIdle (p.declarations.flatMap declarationTokens ++ p.functions.flatMap Function.tokens)

/-! ### The tokens of a text -/

/-- The signs of more than one character. -/
def longSigns : List Text := ["!==".toList, "||".toList, ['+', '+']]

def isNameChar (c : Char) : Bool := c.isAlphanum || c = '_'

/-- The token at the front of a text, which is none where a blank or a comment stands there, and how
many characters behind the first of it, or of what is passed over. -/
def tokenAt : Text → Option Text × Nat
  | [] => (none, 0)
  | '/' :: '/' :: t => (none, (t.takeWhile (· ≠ '\n')).length + 1)
  | '/' :: '*' :: t => (none, (cut? ['*', '/'] t).elim t.length (·.1.length + 2) + 1)
  | c :: t =>
    if isBlank c then (none, 0)
    else if isNameChar c then (some (c :: t.takeWhile isNameChar), (t.takeWhile isNameChar).length)
    else if c = '"' || c = '\'' then
      (some (['"'] ++ t.takeWhile (· ≠ c) ++ ['"']), (t.takeWhile (· ≠ c)).length + 1)
    else
      let sign := (longSigns.find? (List.isPrefixOf · (c :: t))).getD [c]
      (some sign, sign.length - 1)

/-- The tokens of a text behind the characters that are still to be passed over. -/
def tokensFrom (passed : Nat) : Text → List Text
  | [] => []
  | c :: t =>
    match passed with
    | passed + 1 => tokensFrom passed t
    | 0 => (tokenAt (c :: t)).1.toList ++ tokensFrom (tokenAt (c :: t)).2 t

def tokensOf (t : Text) : List Text := withoutIdle (tokensFrom 0 t)

end PacRules.Script
