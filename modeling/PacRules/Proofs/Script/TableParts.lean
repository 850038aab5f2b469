import Mathlib.Data.List.Basic
import PacRules.Proofs.Script.Turns
import PacRules.Rule.Table
import PacRules.Script.TablePrograms

/-!
# The jobs in a program for rule tables

A program for rule tables has functions for five jobs: to try a regular expression, to search a
list of either form, to ask a table and to go through the tables. What each of them answers is
stated for a call, given what the functions answer that it calls itself. That a body does its job is
shown for the shape of the body, in which the names and the way in which a truth value is written
are left open, so the full program and the short one are cases of it. `FitsList` and `FitsRules`
are the invariants of the two loops.
-/

namespace PacRules.Script

open PacRules.Text PacRules.Rule

/-! ### Scopes of calls -/

namespace Function

variable {f : Function} {outer : Scope} {first second : Value}

theorem scope_second : f.scope outer first second f.second = some second := Scope.set_self _ _ _

theorem scope_first (h : f.first ≠ f.second) :
    f.scope outer first second f.first = some first :=
  (Scope.set_of_ne h _ _).trans (Scope.set_self _ _ _)

/-- What a function neither takes nor declares is what it is around it. -/
theorem scope_of_not_mem {x : String} (h : x ∉ f.first :: f.second :: f.body.declared) :
    f.scope outer first second x = outer x := by
  simp only [List.mem_cons, not_or] at h
  rw [scope, Scope.set_of_ne h.2.1, Scope.set_of_ne h.1, Scope.announce,
    if_neg (by simpa using h.2.2)]

end Function

/-! ### Jobs -/

/-- A function tells whether a regular expression matches. -/
def AsksRegexp (f : Function) : Prop :=
  ∀ browser calls outer address pattern,
    f.call browser calls outer (.text address) (.text pattern) =
      .ok (.boolean (browser.matching.regexp pattern address))

/-- A function tells whether another one holds of a pattern of a list. -/
def AsksList (f : Function) (test : String) : Prop :=
  ∀ browser calls outer address (holds : Text → Bool) (patterns : List Text),
    outer test = none →
    (∀ pattern, calls test (.text address) (.text pattern) = .ok (.boolean (holds pattern))) →
    f.call browser calls outer (.text address) (.list (patterns.map .text)) =
      .ok (.boolean (patterns.any holds))

/-- What a script answers for a route. -/
def answerText (proxy : Text) : Route → Text
  | .direct => "DIRECT".toList
  | .proxy => proxy

/-- What a table is answered for a route, if it has one. -/
def answerValue (proxy : Text) (route? : Option Route) : Value :=
  (route?.map fun route => Value.text (answerText proxy route)).getD .undefined

/-- A table as a value of a script. -/
def tableValue (table : RuleTable) : Value :=
  .list (table.lists.map fun texts => .list (texts.map .text))

/-- A function answers for a table, given functions that search lists. -/
def AsksTable (f : Function) (regexps wildcards : String) : Prop :=
  ∀ browser calls outer address proxy table,
    outer regexps = none → outer wildcards = none → outer "undefined" = none →
    outer "proxy" = some (.text proxy) →
    (∀ patterns : List Text, calls regexps (.text address) (.list (patterns.map .text)) =
      .ok (.boolean (patterns.any (browser.matching.regexp · address)))) →
    (∀ patterns : List Text, calls wildcards (.text address) (.list (patterns.map .text)) =
      .ok (.boolean (patterns.any (browser.matching.wildcard · address)))) →
    f.call browser calls outer (.text address) (tableValue table) =
      .ok (answerValue proxy (browser.matching.route? address table.lists))

/-- A function answers for the rules, given one that answers for a table. -/
def AsksRules (f : Function) (ask : String) : Prop :=
  ∀ browser calls outer address host proxy (tables : List RuleTable)
    (route? : RuleTable → Option Route),
    outer ask = none → outer "undefined" = none →
    outer "rules" = some (.list (tables.map tableValue)) →
    (∀ table, calls ask (.text address) (tableValue table) =
      .ok (answerValue proxy (route? table))) →
    f.call browser calls outer (.text address) (.text host) =
      .ok (.text (answerText proxy ((tables.findSome? route?).getD .direct)))

/-! ### Searching a list -/

/-- What a search through patterns finds. -/
def foundText (holds : Text → Bool) : Value → Option Value
  | .text t => if holds t then some (.boolean true) else none
  | _ => none

theorem findSome?_foundText (holds : Text → Bool) (patterns : List Text) :
    ((patterns.map Value.text).findSome? (foundText holds)).getD (.boolean false) =
      .boolean (patterns.any holds) := by
  induction patterns with
  | nil => rfl
  | cons pattern patterns ih =>
      rw [List.map_cons, List.findSome?_cons, List.any_cons, foundText]
      cases holds pattern with
      | true => rfl
      | false => exact ih

/-- A call of a function for an item of a list. -/
theorem eval_call_item (browser : Browser) {calls : Calls} {scope : Scope}
    {function address list counter : String} {v item : Value} {items : List Value} {place : Nat}
    (hfree : scope function = none) (haddress : scope address = some v)
    (hlist : scope list = some (.list items)) (hcounter : scope counter = some (.number place))
    (hitem : items[place]? = some item) :
    (Expr.call function (.name address) (.item (.name list) (.name counter))).eval browser calls
      scope = calls function v item := by
  simp [Expr.eval, hfree, haddress, hlist, hcounter, Value.item, hitem, bind, Except.bind]

/-- A scope in which a list can be searched on: the parameters are what they were, and nothing
hides the function that is asked. -/
structure FitsList (f : Function) (test : String) (address : Text) (patterns : List Text)
    (scope : Scope) : Prop where
  first : scope f.first = some (.text address)
  second : scope f.second = some (.list (patterns.map .text))
  free : scope test = none

section SearchingList

variable {browser : Browser} {calls : Calls} {f : Function} {counter test : String}
  {address : Text} {patterns : List Text} {scope : Scope} {yes no : Expr}

theorem FitsList.set {x : String} (h : FitsList f test address patterns scope)
    (hfirst : x ≠ f.first) (hsecond : x ≠ f.second) (htest : x ≠ test) (v : Value) :
    FitsList f test address patterns (scope.set x v) := by
  refine ⟨?_, ?_, ?_⟩
  · rw [Scope.set_of_ne hfirst.symm, h.first]
  · rw [Scope.set_of_ne hsecond.symm, h.second]
  · rw [Scope.set_of_ne htest.symm, h.free]

/-- One pattern of the list. -/
theorem FitsList.serves {holds : Text → Bool} {place : Nat} {item : Value}
    (h : FitsList f test address patterns scope)
    (htest : ∀ pattern, calls test (.text address) (.text pattern) = .ok (.boolean (holds pattern)))
    (hyes : ∀ scope, yes.eval browser calls scope = .ok (.boolean true))
    (hitem : (patterns.map Value.text)[place]? = some item)
    (hcounter : scope counter = some (.number place)) :
    Serves counter (FitsList f test address patterns) (foundText holds item) place
      ((Statement.provided (.call test (.name f.first) (.item (.name f.second) (.name counter)))
        (.answer yes)).exec browser calls scope) := by
  obtain ⟨pattern, -, rfl⟩ := List.mem_map.1 (List.mem_of_getElem? hitem)
  have hcall := (eval_call_item browser h.free h.first h.second hcounter hitem).trans
    (htest pattern)
  rw [foundText]
  cases hholds : holds pattern with
  | true =>
      rw [hholds] at hcall
      rw [exec_provided_true hcall, exec_answer (hyes scope)]
      rfl
  | false =>
      rw [hholds] at hcall
      rw [exec_provided_false hcall]
      exact ⟨rfl, h, hcounter⟩

theorem asksList_of_exec
    (hexec : ∀ browser calls, f.body.exec browser calls =
      (Statement.seq
        (.eachPlace counter (.name f.second)
          (.provided (.call test (.name f.first) (.item (.name f.second) (.name counter)))
            (.answer yes)))
        (.answer no)).exec browser calls)
    (hdeclared : f.body.declared = [counter])
    (hnames : [f.first, f.second, counter, test].Nodup)
    (hyes : ∀ browser calls scope, yes.eval browser calls scope = .ok (.boolean true))
    (hno : ∀ browser calls scope, no.eval browser calls scope = .ok (.boolean false)) :
    AsksList f test := by
  intro browser calls outer address holds patterns hfree htest
  simp only [List.nodup_cons, List.mem_cons, List.not_mem_nil, or_false, not_or] at hnames
  obtain ⟨⟨hfs, hfc, hft⟩, ⟨hsc, hst⟩, hct, -⟩ := hnames
  have hlist : ∀ scope, FitsList f test address patterns scope →
      (Expr.name f.second).eval browser calls scope = .ok (.list (patterns.map .text)) := by
    intro scope h
    rw [Expr.eval, h.second]
  have hstart : FitsList f test address patterns
      (f.scope outer (.text address) (.list (patterns.map .text))) := by
    refine ⟨f.scope_first hfs, f.scope_second, ?_⟩
    rw [f.scope_of_not_mem, hfree]
    simp [hdeclared, Ne.symm hft, Ne.symm hst, Ne.symm hct]
  have hsearch := exec_search hlist (fun _ v h => h.set (Ne.symm hfc) (Ne.symm hsc) hct v)
    (fun _ _ _ hitem h hplace => h.serves htest (hyes browser calls) hitem hplace)
    (fun scope _ => hno browser calls scope) hstart
  rw [Function.call, hexec, hsearch, findSome?_foundText]

end SearchingList

/-! ### Trying a pattern -/

theorem asksRegexp_of_body {f : Function} {caught : String} {no : Expr}
    (hbody : f.body =
      .attempt (.answer (.isMatch (.name f.second) (.name f.first))) caught (.answer no))
    (hne : f.first ≠ f.second)
    (hno : ∀ browser calls scope, no.eval browser calls scope = .ok (.boolean false)) :
    AsksRegexp f := by
  intro browser calls outer address pattern
  rw [Function.call, hbody, Statement.exec, Statement.exec, Expr.eval, Expr.eval, Expr.eval,
    f.scope_first hne, f.scope_second]
  cases hcompile : browser.compile? pattern with
  | none =>
      simp [bind, Except.bind, Browser.test, hcompile, Completion.ofValue, Statement.exec, hno,
        Completion.andThen, Browser.matching]
  | some isMatch =>
      simp [bind, Except.bind, Browser.test, hcompile, Completion.ofValue, Browser.matching]

/-! ### Going through the tables -/

/-- What is answered for an item of the rules. -/
def foundAnswer (calls : Calls) (ask : String) (address : Text) (item : Value) : Option Value :=
  match calls ask (.text address) item with
  | .ok .undefined => none
  | .ok v => some v
  | .error _ => none

theorem foundAnswer_eq {calls : Calls} {ask : String} {address proxy : Text} {item : Value}
    {route? : Option Route}
    (h : calls ask (.text address) item = .ok (answerValue proxy route?)) :
    foundAnswer calls ask address item =
      route?.map fun route => Value.text (answerText proxy route) := by
  rw [foundAnswer, h]
  cases route? <;> rfl

/-- The first answer for a table of the rules. -/
theorem findSome?_foundAnswer {calls : Calls} {ask : String} {address proxy : Text}
    {tables : List RuleTable} {route? : RuleTable → Option Route}
    (hask : ∀ table, calls ask (.text address) (tableValue table) =
      .ok (answerValue proxy (route? table))) :
    (tables.map tableValue).findSome? (foundAnswer calls ask address) =
      (tables.findSome? route?).map fun route => Value.text (answerText proxy route) := by
  rw [List.findSome?_map, List.map_findSome?]
  exact congrArg (tables.findSome? ·) (funext fun table => foundAnswer_eq (hask table))

/-- A scope in which the tables can be gone through on: the address and the rules are what they
were, and nothing hides the function that is asked. -/
structure FitsRules (f : Function) (ask : String) (address : Text) (tables : List RuleTable)
    (scope : Scope) : Prop where
  first : scope f.first = some (.text address)
  rules : scope "rules" = some (.list (tables.map tableValue))
  free : scope ask = none
  undefined : scope "undefined" = none

section GoingThroughTables

variable {browser : Browser} {calls : Calls} {f : Function} {counter answer ask : String}
  {address proxy : Text} {tables : List RuleTable} {route? : RuleTable → Option Route}
  {scope : Scope} {condition : Expr}

theorem FitsRules.set {x : String} (h : FitsRules f ask address tables scope)
    (hfirst : x ≠ f.first) (hx : ∀ y ∈ ["rules", ask, "undefined"], x ≠ y) (v : Value) :
    FitsRules f ask address tables (scope.set x v) := by
  refine ⟨?_, ?_, ?_, ?_⟩
  · rw [Scope.set_of_ne hfirst.symm, h.first]
  · rw [Scope.set_of_ne (hx "rules" (by simp)).symm, h.rules]
  · rw [Scope.set_of_ne (hx ask (by simp)).symm, h.free]
  · rw [Scope.set_of_ne (hx "undefined" (by simp)).symm, h.undefined]

/-- One table of the rules: its answer is declared, and given if there is one. -/
theorem FitsRules.serves {place : Nat} {item : Value} (h : FitsRules f ask address tables scope)
    (hask : ∀ table, calls ask (.text address) (tableValue table) =
      .ok (answerValue proxy (route? table)))
    (hcondition : ∀ (scope : Scope) route?, scope "undefined" = none →
      scope answer = some (answerValue proxy route?) →
      condition.eval browser calls scope = .ok (.boolean route?.isSome))
    (hfirst : answer ≠ f.first) (hanswer : ∀ y ∈ ["rules", ask, "undefined"], answer ≠ y)
    (hne : counter ≠ answer)
    (hitem : (tables.map tableValue)[place]? = some item)
    (hcounter : scope counter = some (.number place)) :
    Serves counter (FitsRules f ask address tables) (foundAnswer calls ask address item) place
      ((Statement.seq
        (.declare answer (.call ask (.name f.first) (.item (.name "rules") (.name counter))))
        (.provided condition (.answer (.name answer)))).exec browser calls scope) := by
  obtain ⟨table, -, rfl⟩ := List.mem_map.1 (List.mem_of_getElem? hitem)
  have hcall := (eval_call_item browser h.free h.first h.rules hcounter hitem).trans
    (hask table)
  have hlater := h.set hfirst hanswer (answerValue proxy (route? table))
  have htold := hcondition _ (route? table) hlater.undefined (Scope.set_self _ _ _)
  rw [foundAnswer_eq (hask table), exec_seq_of_ended (exec_declare hcall)]
  cases hroute : route? table with
  | none =>
      rw [hroute] at htold hlater
      rw [exec_provided_false htold]
      exact ⟨rfl, hlater, (Scope.set_of_ne hne _ _).trans hcounter⟩
  | some route =>
      rw [hroute] at htold
      have hvalue : (Expr.name answer).eval browser calls
          (scope.set answer (answerValue proxy (some route))) =
            .ok (answerValue proxy (some route)) := by
        rw [Expr.eval, Scope.set_self]
      rw [exec_provided_true htold, exec_answer hvalue]
      rfl

theorem asksRules_of_exec
    (hexec : ∀ browser calls, f.body.exec browser calls =
      (Statement.seq
        (.eachPlace counter (.name "rules")
          (.seq
            (.declare answer (.call ask (.name f.first) (.item (.name "rules") (.name counter))))
            (.provided condition (.answer (.name answer)))))
        (.answer (.text "DIRECT".toList))).exec browser calls)
    (hdeclared : f.body.declared = [counter, answer])
    (hnames : ([f.first, f.second, counter, answer] ++ ["rules", ask, "undefined"]).Nodup)
    (hcondition : ∀ browser calls (scope : Scope) proxy route?, scope "undefined" = none →
      scope answer = some (answerValue proxy route?) →
      condition.eval browser calls scope = .ok (.boolean route?.isSome)) :
    AsksRules f ask := by
  intro browser calls outer address host proxy tables route? hfree hundefined hrules hask
  obtain ⟨hown, -, hothers⟩ := List.nodup_append.1 hnames
  simp only [List.nodup_cons, List.mem_cons, List.not_mem_nil, or_false, not_or] at hown
  obtain ⟨⟨hfs, hfc, hfa⟩, -, hca, -⟩ := hown
  have hlist : ∀ scope, FitsRules f ask address tables scope →
      (Expr.name "rules").eval browser calls scope = .ok (.list (tables.map tableValue)) := by
    intro scope h
    rw [Expr.eval, h.rules]
  -- none of the names that are asked for is one of the function's own
  have houter : ∀ x ∈ ["rules", ask, "undefined"],
      f.scope outer (.text address) (.text host) x = outer x := by
    intro x hx
    refine f.scope_of_not_mem fun hmem => ?_
    rw [hdeclared] at hmem
    exact hothers x hmem x hx rfl
  have hstart : FitsRules f ask address tables
      (f.scope outer (.text address) (.text host)) := by
    refine ⟨f.scope_first hfs, ?_, ?_, ?_⟩
    · rw [houter "rules" (by simp), hrules]
    · rw [houter ask (by simp), hfree]
    · rw [houter "undefined" (by simp), hundefined]
  have hbehind : ∀ scope, FitsRules f ask address tables scope →
      (Expr.text "DIRECT".toList).eval browser calls scope = .ok (.text "DIRECT".toList) :=
    fun _ _ => rfl
  have hsearch := exec_search hlist
    (fun _ v h => h.set (Ne.symm hfc) (hothers counter (by simp)) v)
    (fun _ _ _ hitem h hplace => h.serves hask (hcondition browser calls · proxy) (Ne.symm hfa)
      (hothers answer (by simp)) hca hitem hplace)
    hbehind hstart
  rw [Function.call, hexec, hsearch, findSome?_foundAnswer hask]
  cases tables.findSome? route? <;> rfl

end GoingThroughTables

/-! ### Asking a table -/

theorem item_tableValue (table : RuleTable) {n : Nat} (hn : n < 4) :
    (tableValue table).item (.number n) =
      .ok (.list ((table.lists.getD n []).map .text)) := by
  match n, hn with
  | 0, _ | 1, _ | 2, _ | 3, _ => rfl

theorem eval_hasMatch {browser : Browser} {calls : Calls} {scope : Scope}
    {regexps wildcards first second : String} {address : Text} {table : RuleTable} {i j : Nat}
    (hi : i < 4) (hj : j < 4) (hfree : scope regexps = none) (hfree' : scope wildcards = none)
    (hfirst : scope first = some (.text address)) (hsecond : scope second = some (tableValue table))
    (hregexps : ∀ patterns : List Text, calls regexps (.text address) (.list (patterns.map .text)) =
      .ok (.boolean (patterns.any (browser.matching.regexp · address))))
    (hwildcards : ∀ patterns : List Text,
      calls wildcards (.text address) (.list (patterns.map .text)) =
        .ok (.boolean (patterns.any (browser.matching.wildcard · address)))) :
    (hasMatch regexps wildcards first second i j).eval browser calls scope =
      .ok (.boolean (browser.matching.any address (table.lists.getD i [])
        (table.lists.getD j []))) := by
  have hcall : ∀ {f : String} {n : Nat} {b : Bool}, n < 4 → scope f = none →
      calls f (.text address) (.list ((table.lists.getD n []).map .text)) = .ok (.boolean b) →
      (Expr.call f (.name first) (.item (.name second) (.number n))).eval browser calls scope =
        .ok (.boolean b) := by
    intro f n b hn hf hb
    simp only [Expr.eval, hf, hfirst, hsecond, item_tableValue table hn, bind, Except.bind,
      Option.isSome_none, Bool.false_eq_true, if_false]
    exact hb
  rw [hasMatch, Expr.eval, hcall hi hfree (hregexps _), hcall hj hfree' (hwildcards _),
    Matching.any]
  cases (table.lists.getD i []).any (browser.matching.regexp · address) with
  | true => rfl
  | false => rfl

/-- A function answers for a table if its body does, given whether lists of either route match. -/
theorem asksTable_of_exec {f : Function} {regexps wildcards : String}
    (hdeclared : f.body.declared = [])
    (hnames : [f.first, f.second, regexps, wildcards, "proxy", "undefined"].Nodup)
    (hexec : ∀ browser calls (scope : Scope) (direct proxied : Bool) proxy,
      (hasMatch regexps wildcards f.first f.second 0 1).eval browser calls scope =
        .ok (.boolean direct) →
      (hasMatch regexps wildcards f.first f.second 2 3).eval browser calls scope =
        .ok (.boolean proxied) →
      scope "proxy" = some (.text proxy) → scope "undefined" = none →
      f.body.exec browser calls scope = .answered (answerValue proxy
        (if direct then some .direct else if proxied then some .proxy else none))) :
    AsksTable f regexps wildcards := by
  intro browser calls outer address proxy table hfree hfree' hundefined hproxy hregexps hwildcards
  simp only [List.nodup_cons, List.mem_cons, List.not_mem_nil, or_false, not_or] at hnames
  obtain ⟨⟨hfs, hfr, hfw, hfp, hfu⟩, ⟨hsr, hsw, hsp, hsu⟩, -⟩ := hnames
  have houter : ∀ x, f.first ≠ x → f.second ≠ x →
      f.scope outer (.text address) (tableValue table) x = outer x := by
    intro x hf hs
    exact f.scope_of_not_mem (by simp [hdeclared, hf.symm, hs.symm])
  have hmatch : ∀ {i j : Nat}, i < 4 → j < 4 →
      (hasMatch regexps wildcards f.first f.second i j).eval browser calls
          (f.scope outer (.text address) (tableValue table)) =
        .ok (.boolean (browser.matching.any address (table.lists.getD i [])
          (table.lists.getD j []))) := fun hi hj =>
    eval_hasMatch hi hj ((houter _ hfr hsr).trans hfree) ((houter _ hfw hsw).trans hfree')
      (f.scope_first hfs) f.scope_second hregexps hwildcards
  exact call_of_answered (hexec browser calls _ _ _ proxy (hmatch (by decide) (by decide))
    (hmatch (by decide) (by decide)) ((houter _ hfp hsp).trans hproxy)
    ((houter _ hfu hsu).trans hundefined))

end PacRules.Script
