import PacRules.Json.Nested
import PacRules.Script.Answer
import PacRules.Script.Syntax

/-!
# What a program answers

The value of a call of a program in a browser. What the browser makes of patterns is given. A call
ends with a value, or something is thrown in it, or it comes to what is not covered here: a use of
values that the scripts do not make, a call of a function that is not declared further on, or a loop
that changes its own counter or list. Variables are those of their function from its beginning on,
without a value until one is declared.
-/

namespace PacRules.Script

open PacRules.Text PacRules.Json

inductive Value where
  | undefined
  | boolean (b : Bool)
  | number (n : Nat)
  | text (t : Text)
  | list (items : List Value)
  /-- what has been thrown -/
  | exception

/-- Why a call has no value. -/
inductive Fault where
  | thrown
  | uncovered
  deriving DecidableEq

/-- What a browser makes of patterns. -/
structure Browser where
  /-- which addresses a pattern matches as a regular expression, if it can be compiled as one -/
  compile? : (pattern : Text) → Option (Text → Bool)
  wildcard : (pattern address : Text) → Bool

/-- How a browser matches, where a pattern that it cannot compile matches nothing. -/
def Browser.matching (browser : Browser) : Matching where
  regexp pattern address := (browser.compile? pattern).any (· address)
  wildcard := browser.wildcard

/-! ### Values -/

namespace Value

mutual

def ofNested : Nested → Value
  | .text t => .text t
  | .list items => .list (ofEach items)

def ofEach : List Nested → List Value
  | [] => []
  | item :: items => ofNested item :: ofEach items

end

/-- Whether a value counts as true. -/
def isTruthy : Value → Bool
  | .undefined => false
  | .boolean b => b
  | .number n => n ≠ 0
  | .text t => !t.isEmpty
  | .list _ | .exception => true

def length : Value → Except Fault Value
  | .list items => .ok (.number items.length)
  | .undefined => .error .thrown
  | _ => .error .uncovered

/-- The item of a list at a place, which is undefined where there is none. -/
def item : Value → Value → Except Fault Value
  | .list items, .number n => .ok (items.getD n .undefined)
  | .undefined, _ => .error .thrown
  | _, _ => .error .uncovered

/-- Whether two values are not the same. Values of different kinds never are. -/
def differs : Value → Value → Except Fault Value
  | .undefined, .undefined => .ok (.boolean false)
  | .boolean b, .boolean b' => .ok (.boolean (b ≠ b'))
  | .number n, .number n' => .ok (.boolean (n ≠ n'))
  | .text t, .text t' => .ok (.boolean (t ≠ t'))
  | .list _, .list _ | .exception, .exception => .error .uncovered
  | _, _ => .ok (.boolean true)

end Value

/-- Whether a pattern matches a subject. A pattern that cannot be compiled is thrown. -/
def Browser.test (browser : Browser) : Value → Value → Except Fault Value
  | .text pattern, .text subject =>
    match browser.compile? pattern with
    | some isMatch => .ok (.boolean (isMatch subject))
    | none => .error .thrown
  | _, _ => .error .uncovered

/-- The functions that a browser has of its own. -/
def Browser.call (browser : Browser) (function : String) : Value → Value → Except Fault Value
  | .text address, .text pattern =>
    if function = "shExpMatch" then .ok (.boolean (browser.wildcard pattern address))
    else .error .uncovered
  | _, _ => .error .uncovered

/-! ### Expressions -/

/-- The values of variables. -/
abbrev Scope := String → Option Value

def Scope.set (scope : Scope) (x : String) (v : Value) : Scope := fun y =>
  if y = x then some v else scope y

/-- The scope in which some variables are declared further on. -/
def Scope.announce (scope : Scope) (declared : List String) : Scope := fun x =>
  if declared.contains x then some .undefined else scope x

/-- What functions answer. -/
abbrev Calls := String → Value → Value → Except Fault Value

def Expr.eval (browser : Browser) (calls : Calls) (scope : Scope) : Expr → Except Fault Value
  | .name x =>
    match scope x with
    | some v => .ok v
    | none => if x = "undefined" then .ok .undefined else .error .thrown
  | .number n => .ok (.number n)
  | .text t => .ok (.text t)
  | .boolean b => .ok (.boolean b)
  | .not e => do return .boolean !(← e.eval browser calls scope).isTruthy
  | .void e => do
    let _ ← e.eval browser calls scope
    return .undefined
  | .length list => do (← list.eval browser calls scope).length
  | .item list index => do
    let v ← list.eval browser calls scope
    v.item (← index.eval browser calls scope)
  | .call function first second => do
    let v ← first.eval browser calls scope
    let w ← second.eval browser calls scope
    if (scope function).isSome then throw .thrown else calls function v w
  | .isMatch pattern subject => do
    let v ← pattern.eval browser calls scope
    browser.test v (← subject.eval browser calls scope)
  | .differs left right => do
    let v ← left.eval browser calls scope
    v.differs (← right.eval browser calls scope)
  | .either left right => do
    let v ← left.eval browser calls scope
    if v.isTruthy then return v else right.eval browser calls scope
  | .choose condition yes no => do
    if (← condition.eval browser calls scope).isTruthy then yes.eval browser calls scope
    else no.eval browser calls scope

/-! ### Statements -/

/-- How a statement ends. -/
inductive Completion where
  | ended (scope : Scope)
  | answered (v : Value)
  | failed (fault : Fault) (scope : Scope)

def Completion.andThen (c : Completion) (next : Scope → Completion) : Completion :=
  match c with
  | .ended scope => next scope
  | .answered v => .answered v
  | .failed fault scope => .failed fault scope

/-- What is done with the value of an expression, if it has one. -/
def Completion.ofValue (scope : Scope) (value : Except Fault Value)
    (next : Value → Completion) : Completion :=
  match value with
  | .ok v => next v
  | .error fault => .failed fault scope

/-- The turns of a loop from a place on, of which so many are left. -/
def turns (turn : Nat → Scope → Completion) : (left place : Nat) → Scope → Completion
  | 0, _, scope => .ended scope
  | left + 1, place, scope => (turn place scope).andThen (turns turn left (place + 1))

/-- The end of a turn of a loop: the counter counts on, unless it is no more what it was, or the
list has another length. -/
def endTurn (counter : String) (length : Scope → Except Fault Value) (count place : Nat)
    (scope : Scope) : Completion :=
  let later := scope.set counter (.number (place + 1))
  match scope counter, length later with
  | some (.number n), .ok (.number m) =>
    if n = place ∧ m = count then .ended later else .failed .uncovered scope
  | _, _ => .failed .uncovered scope

def Statement.exec (browser : Browser) (calls : Calls) : Statement → Scope → Completion
  | .declare x value, scope =>
    .ofValue scope (value.eval browser calls scope) fun v => .ended (scope.set x v)
  | .provided condition body, scope =>
    .ofValue scope (condition.eval browser calls scope) fun v =>
      if v.isTruthy then body.exec browser calls scope else .ended scope
  | .answer value, scope => .ofValue scope (value.eval browser calls scope) .answered
  | .eachPlace counter list body, scope =>
    let length := fun scope => (Expr.length list).eval browser calls scope
    let start := scope.set counter (.number 0)
    .ofValue start (length start) fun
      | .number count =>
        turns
          (fun place scope =>
            (body.exec browser calls scope).andThen (endTurn counter length count place))
          count 0 start
      | _ => .failed .uncovered start
  | .attempt body caught handler, scope =>
    match body.exec browser calls scope with
    | .failed .thrown scope =>
      (handler.exec browser calls (scope.set caught .exception)).andThen fun later =>
        .ended fun x => if x = caught then scope x else later x
    | completion => completion
  | .block body, scope => body.exec browser calls scope
  | .seq first second, scope =>
    (first.exec browser calls scope).andThen (second.exec browser calls)

/-- The variables that a statement declares. -/
def Statement.declared : Statement → List String
  | .declare x _ => [x]
  | .provided _ body | .block body => body.declared
  | .answer _ => []
  | .eachPlace counter _ body => counter :: body.declared
  | .attempt body _ handler => body.declared ++ handler.declared
  | .seq first second => first.declared ++ second.declared

/-! ### Programs -/

/-- The variables of a call when it begins: the program's, with those of the function in front of
them. -/
def Function.scope (f : Function) (outer : Scope) (first second : Value) : Scope :=
  ((outer.announce f.body.declared).set f.first first).set f.second second

def Function.call (browser : Browser) (calls : Calls) (outer : Scope) (f : Function)
    (first second : Value) : Except Fault Value :=
  match f.body.exec browser calls (f.scope outer first second) with
  | .answered v => .ok v
  | .ended _ => .ok .undefined
  | .failed fault _ => .error fault

/-- What functions answer, each of which calls only those behind it and those of the browser. The
last one of a name is meant. -/
def callIn (browser : Browser) (outer : Scope) : List Function → Calls
  | [], name => browser.call name
  | f :: functions, name =>
    if f.name = name ∧ ∀ g ∈ functions, g.name ≠ name then
      f.call browser (callIn browser outer functions) outer
    else callIn browser outer functions name

/-- The variables of a program, given those of the slots. -/
def Program.scope (browser : Browser) (p : Program) (slots : Scope) : Except Fault Scope :=
  p.declarations.flatten.foldlM
    (fun scope (x, value) => do
      return scope.set x (← value.eval browser (fun _ _ _ => .error .uncovered) scope))
    (slots.announce (p.declarations.flatten.map Prod.fst))

/-- The values of the slots. -/
def slotScope (proxy : Text) (rules : Nested) : Scope :=
  (Scope.set (fun _ => none) "__PROXY__" (.text proxy)).set "__RULES__" (.ofNested rules)

/-- What a program answers for an address and its host, with a proxy and rules in its slots. -/
def Program.answer (browser : Browser) (p : Program) (proxy : Text) (rules : Nested)
    (address host : Text) : Except Fault Value := do
  let outer ← p.scope browser (slotScope proxy rules)
  callIn browser outer p.functions "FindProxyForURL" (.text address) (.text host)

end PacRules.Script
