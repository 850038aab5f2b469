import PacRules.Proofs.Script.TableParts
import PacRules.Proofs.Script.TableRoute
import PacRules.Script.Render

/-!
# What the scripts for rule tables answer

The functions of the full program and of the short one do their jobs: each body has a shape for
which this is known. In both programs they stand in the same order, and each calls only those
behind it, so what a program answers is put together once, for all programs of which this is true.
-/

namespace PacRules.Script

open PacRules.Text PacRules.Rule PacRules.Json PacRules.Suffix

/-! ### The jobs of the two programs -/

namespace FullProgram

theorem asksTable : AsksTable askTable "anyRegExp" "anyWildcard" := by
  refine asksTable_of_exec rfl (by decide) ?_
  intro browser calls scope direct proxied proxy hdirect hproxied hproxy hundefined
  have hproxy' : (Expr.name "proxy").eval browser calls scope = .ok (.text proxy) := by
    rw [Expr.eval, hproxy]
  have hundefined' : (Expr.name "undefined").eval browser calls scope = .ok .undefined := by
    rw [Expr.eval, hundefined]
    rfl
  cases direct with
  | true =>
      exact exec_seq_of_answered ((exec_provided_true hdirect).trans (exec_answer rfl)) _
  | false =>
      refine (exec_seq_of_ended (exec_provided_false hdirect) _).trans ?_
      cases proxied with
      | true =>
          exact exec_seq_of_answered
            ((exec_provided_true hproxied).trans (exec_answer hproxy')) _
      | false =>
          exact (exec_seq_of_ended (exec_provided_false hproxied) _).trans
            (exec_answer hundefined')

theorem asksRegexp : AsksRegexp askRegexp :=
  asksRegexp_of_body rfl (by decide) fun _ _ _ => rfl

theorem asksList {name test : String} (htest : test ∉ ["i", "url", "patterns"]) :
    AsksList (askList name test) test := by
  have hnames : ["url", "patterns", "i", test].Nodup := by
    simp only [List.mem_cons, List.not_mem_nil, or_false, not_or] at htest
    simp [Ne.symm htest.1, Ne.symm htest.2.1, Ne.symm htest.2.2]
  exact asksList_of_exec (fun _ _ => rfl) rfl hnames (fun _ _ _ => rfl) fun _ _ _ => rfl

theorem asksRules : AsksRules findProxy "testURL" := by
  refine asksRules_of_exec (fun _ _ => rfl) rfl (by decide) ?_
  intro browser calls scope proxy route? hundefined hanswer
  rw [Expr.eval, Expr.eval, Expr.eval, hundefined, hanswer]
  cases route? <;> rfl

end FullProgram

namespace ShortProgram

theorem asksTable : AsksTable askTable "x" "s" := by
  refine asksTable_of_exec rfl (by decide) ?_
  intro browser calls scope direct proxied proxy hdirect hproxied hproxy hundefined
  refine exec_answer ((eval_choose hdirect).trans ?_)
  cases direct with
  | true => rfl
  | false =>
      refine (eval_choose hproxied).trans ?_
      rw [Expr.eval, hproxy]
      cases proxied <;> rfl

theorem asksRegexp : AsksRegexp askRegexp :=
  asksRegexp_of_body rfl (by decide) fun _ _ _ => rfl

theorem asksList {name test : String} (htest : test ∉ ["e", "r", "n"]) :
    AsksList (askList name test) test := by
  have hnames : ["r", "n", "e", test].Nodup := by
    simp only [List.mem_cons, List.not_mem_nil, or_false, not_or] at htest
    simp [Ne.symm htest.1, Ne.symm htest.2.1, Ne.symm htest.2.2]
  exact asksList_of_exec (fun _ _ => rfl) rfl hnames (fun _ _ _ => rfl) fun _ _ _ => rfl

theorem asksRules : AsksRules findProxy "u" := by
  refine asksRules_of_exec (fun _ _ => rfl) rfl (by decide) ?_
  intro browser calls scope proxy route? hundefined hanswer
  rw [Expr.eval, absent, Expr.eval, Expr.eval, Expr.eval, hanswer]
  cases route? <;> rfl

end ShortProgram

/-! ### Calls among functions -/

section Calls

variable {browser : Browser} {outer : Scope} {f : Function} {behind : List Function}

/-- A call of a function in a list without repeated names, which calls only those behind it. -/
theorem callIn_append_cons (before : List Function)
    (h : ((before ++ f :: behind).map Function.name).Nodup) :
    callIn browser outer (before ++ f :: behind) f.name =
      f.call browser (callIn browser outer behind) outer := by
  induction before with
  | nil =>
      have hbehind : ∀ g ∈ behind, g.name ≠ f.name := fun g hg heq =>
        (List.nodup_cons.1 h).1 (List.mem_map.2 ⟨g, hg, heq⟩)
      rw [List.nil_append, callIn, if_pos ⟨rfl, hbehind⟩]
  | cons g before ih =>
      obtain ⟨hg, hrest⟩ := List.nodup_cons.1 h
      have hne : g.name ≠ f.name := fun heq =>
        hg (List.mem_map.2 ⟨f, List.mem_append_right _ List.mem_cons_self, heq.symm⟩)
      rw [List.cons_append, callIn, if_neg fun hcall => hne hcall.1, ih hrest]

end Calls

/-! ### Variables and slots -/

/-- The variables of a program for rule tables, whose values are those of the slots. -/
def tableScope (proxy : Text) (rules : Nested) : Scope :=
  (((slotScope proxy rules).announce ["proxy", "rules"]).set "proxy" (.text proxy)).set "rules"
    (.ofNested rules)

theorem tableScope_of_not_mem {x : String} (h : x ∉ ["proxy", "rules", "__PROXY__", "__RULES__"])
    (proxy : Text) (rules : Nested) : tableScope proxy rules x = none := by
  simp only [List.mem_cons, List.not_mem_nil, or_false, not_or] at h
  obtain ⟨hproxy, hrules, hproxySlot, hrulesSlot⟩ := h
  simp [tableScope, slotScope, Scope.set, Scope.announce, hproxy, hrules, hproxySlot, hrulesSlot]

theorem ofEach_eq_map (items : List Nested) : Value.ofEach items = items.map Value.ofNested := by
  induction items with
  | nil => rfl
  | cons item items ih => rw [Value.ofEach, ih, List.map_cons]

theorem ofNested_standard (user list : RuleTable) :
    Value.ofNested (ScriptRules.standard user list).nested =
      .list ([user, list].map tableValue) := by
  have htexts : ∀ texts : List Text,
      Value.ofNested (Nested.ofTexts texts) = .list (texts.map .text) := by
    intro texts
    rw [Nested.ofTexts, Value.ofNested, ofEach_eq_map, List.map_map]
    rfl
  have htable : ∀ table : RuleTable,
      Value.ofNested (.list (table.lists.map Nested.ofTexts)) = tableValue table := by
    intro table
    rw [Value.ofNested, ofEach_eq_map, List.map_map, tableValue]
    exact congrArg Value.list (List.map_congr_left fun texts _ => htexts texts)
  rw [ScriptRules.nested, Value.ofNested, ofEach_eq_map, List.map_map]
  exact congrArg Value.list (List.map_congr_left fun table _ => htable table)

/-! ### Programs for rule tables -/

/-- A program whose functions do the jobs of one for rule tables, each with those behind it. -/
structure Program.IsForTables (p : Program) (find ask regexps regexp wildcards : Function) :
    Prop where
  declarations_eq : p.declarations.flatten =
    [("proxy", .name "__PROXY__"), ("rules", .name "__RULES__")]
  functions_eq : p.functions = [find, ask, regexps, regexp, wildcards]
  name_eq : find.name = "FindProxyForURL"
  nodup : ([find, ask, regexps, regexp, wildcards].map Function.name).Nodup
  free : ∀ f ∈ [find, ask, regexps, regexp, wildcards],
    f.name ∉ ["proxy", "rules", "__PROXY__", "__RULES__"]
  asksRules : AsksRules find ask.name
  asksTable : AsksTable ask regexps.name wildcards.name
  asksRegexps : AsksList regexps regexp.name
  asksRegexp : AsksRegexp regexp
  asksWildcards : AsksList wildcards "shExpMatch"

namespace Program.IsForTables

variable {p : Program} {find ask regexps regexp wildcards : Function} {browser : Browser}
  {proxy address host : Text} {rules : Nested} {user list : RuleTable}

theorem scope_eq (h : p.IsForTables find ask regexps regexp wildcards) :
    p.scope browser (slotScope proxy rules) = .ok (tableScope proxy rules) := by
  rw [Program.scope, h.declarations_eq]
  rfl

/-- No variable hides a function. -/
theorem tableScope_name (h : p.IsForTables find ask regexps regexp wildcards) {f : Function}
    (hf : f ∈ [find, ask, regexps, regexp, wildcards]) : tableScope proxy rules f.name = none :=
  tableScope_of_not_mem (h.free f hf) proxy rules

theorem nodup_lists (h : p.IsForTables find ask regexps regexp wildcards) :
    ([regexps, regexp, wildcards].map Function.name).Nodup :=
  (List.nodup_cons.1 (List.nodup_cons.1 h.nodup).2).2

theorem callIn_regexps (h : p.IsForTables find ask regexps regexp wildcards)
    (patterns : List Text) :
    callIn browser (tableScope proxy rules) [regexps, regexp, wildcards] regexps.name
        (.text address) (.list (patterns.map .text)) =
      .ok (.boolean (patterns.any (browser.matching.regexp · address))) := by
  have hregexp : ∀ pattern,
      callIn browser (tableScope proxy rules) [regexp, wildcards] regexp.name (.text address)
          (.text pattern) = .ok (.boolean (browser.matching.regexp pattern address)) := by
    intro pattern
    rw [show callIn browser _ [regexp, wildcards] regexp.name = _ from
      callIn_append_cons [] (List.nodup_cons.1 h.nodup_lists).2]
    exact h.asksRegexp _ _ _ _ _
  rw [show callIn browser _ [regexps, regexp, wildcards] regexps.name = _ from
    callIn_append_cons [] h.nodup_lists]
  exact h.asksRegexps _ _ _ _ (browser.matching.regexp · address) _ (h.tableScope_name (by simp))
    hregexp

theorem callIn_wildcards (h : p.IsForTables find ask regexps regexp wildcards)
    (patterns : List Text) :
    callIn browser (tableScope proxy rules) [regexps, regexp, wildcards] wildcards.name
        (.text address) (.list (patterns.map .text)) =
      .ok (.boolean (patterns.any (browser.matching.wildcard · address))) := by
  rw [show callIn browser _ [regexps, regexp, wildcards] wildcards.name = _ from
    callIn_append_cons [regexps, regexp] h.nodup_lists]
  exact h.asksWildcards _ _ _ _ (browser.matching.wildcard · address) _
    (tableScope_of_not_mem (by decide) _ _) fun _ => rfl

theorem callIn_ask (h : p.IsForTables find ask regexps regexp wildcards) (table : RuleTable) :
    callIn browser (tableScope proxy rules) [ask, regexps, regexp, wildcards] ask.name
        (.text address) (tableValue table) =
      .ok (answerValue proxy (browser.matching.route? address table.lists)) := by
  rw [show callIn browser _ [ask, regexps, regexp, wildcards] ask.name = _ from
    callIn_append_cons [] (List.nodup_cons.1 h.nodup).2]
  exact h.asksTable _ _ _ _ _ _ (h.tableScope_name (by simp)) (h.tableScope_name (by simp))
    (tableScope_of_not_mem (by decide) _ _) rfl h.callIn_regexps h.callIn_wildcards

/-- The program answers with the route for the address. -/
theorem answer_eq (h : p.IsForTables find ask regexps regexp wildcards) :
    p.answer browser proxy (ScriptRules.standard user list).nested address host =
      .ok (.text (answerText proxy
        (browser.matching.answer address [user.lists, list.lists]))) := by
  have hrules : tableScope proxy (ScriptRules.standard user list).nested "rules" =
      some (.list ([user, list].map tableValue)) := by
    rw [tableScope, Scope.set_self, ofNested_standard]
  rw [Program.answer, h.scope_eq, h.functions_eq, ← h.name_eq]
  change callIn browser _ ([] ++ find :: [ask, regexps, regexp, wildcards]) find.name _ _ = _
  rw [callIn_append_cons [] h.nodup]
  exact h.asksRules _ _ _ _ _ _ _ (fun table => browser.matching.route? address table.lists)
    (h.tableScope_name (by simp)) (tableScope_of_not_mem (by decide) _ _) hrules h.callIn_ask

end Program.IsForTables

theorem FullProgram.isForTables :
    program.IsForTables findProxy askTable (askList "anyRegExp" "regExpMatch") askRegexp
      (askList "anyWildcard" "shExpMatch") where
  declarations_eq := rfl
  functions_eq := rfl
  name_eq := rfl
  nodup := by decide
  free := by decide
  asksRules := asksRules
  asksTable := asksTable
  asksRegexps := asksList (by decide)
  asksRegexp := asksRegexp
  asksWildcards := asksList (by decide)

theorem ShortProgram.isForTables :
    program.IsForTables findProxy askTable (askList "x" "m") askRegexp
      (askList "s" "shExpMatch") where
  declarations_eq := rfl
  functions_eq := rfl
  name_eq := rfl
  nodup := by decide
  free := by decide
  asksRules := asksRules
  asksTable := asksTable
  asksRegexps := asksList (by decide)
  asksRegexp := asksRegexp
  asksWildcards := asksList (by decide)

/-! ### The answer -/

/-- The program of the script for rule tables. -/
def tableProgram (compress : Bool) : Program :=
  if compress then ShortProgram.program else FullProgram.program

theorem tokensOf_templateFor (compress : Bool) :
    tokensOf (templateFor .standard compress).toList = (tableProgram compress).tokens := by
  -- one evaluation for both texts, as each waits for all that stands before it
  have hboth : tokensOf Template.full.toList = FullProgram.program.tokens ∧
      tokensOf Template.short.toList = ShortProgram.program.tokens := by
    rw [Template.full, Template.short, String.toList_ofList, String.toList_ofList]
    decide +kernel
  cases compress with
  | false => exact hboth.1
  | true => exact hboth.2

theorem isForTables_tableProgram (compress : Bool) :
    ∃ find ask regexps regexp wildcards,
      (tableProgram compress).IsForTables find ask regexps regexp wildcards := by
  cases compress with
  | false => exact ⟨_, _, _, _, _, FullProgram.isForTables⟩
  | true => exact ⟨_, _, _, _, _, ShortProgram.isForTables⟩

theorem answer_standard (browser : Browser) (proxy : Text) (resolve : Resolver)
    (user list : List Text) (address host : Text) (compress : Bool) :
    (tableProgram compress).answer browser proxy
        (ScriptRules.ofLines .standard resolve user list).nested address host =
      .ok (.text (answerText proxy (browser.matching.routeFor address user list))) := by
  obtain ⟨find, ask, regexps, regexp, wildcards, h⟩ := isForTables_tableProgram compress
  rw [ScriptRules.ofLines, h.answer_eq, Matching.answer_ofLines]

/-- The template of either script for rule tables is a text of its program. In every browser, with
any proxy and the rules of any lines, this answers every address that is to go directly if one of
the user's direct patterns matches it, else with the proxy if one of the user's proxy patterns does,
and by the list's patterns in the same way if none of the user's does. So both programs give the
same answer, and each of them gives the same for sources with the same lines in another order, or
with lines repeated. -/
theorem tableProgram_answer (browser : Browser) (proxy : Text) (resolve : Resolver)
    (user list : List Text) (address host : Text) (compress : Bool) :
    tokensOf (templateFor .standard compress).toList = (tableProgram compress).tokens ∧
    (tableProgram compress).answer browser proxy
        (ScriptRules.ofLines .standard resolve user list).nested address host =
      .ok (.text (answerText proxy (browser.matching.routeFor address user list))) ∧
    ∀ user' list' : List Text, (∀ line, line ∈ user' ↔ line ∈ user) →
      (∀ line, line ∈ list' ↔ line ∈ list) →
      (tableProgram compress).answer browser proxy
          (ScriptRules.ofLines .standard resolve user' list').nested address host =
        (tableProgram compress).answer browser proxy
          (ScriptRules.ofLines .standard resolve user list).nested address host := by
  refine ⟨tokensOf_templateFor compress, answer_standard .., ?_⟩
  intro user' list' huser hlist
  rw [answer_standard, answer_standard, Matching.routeFor_congr huser hlist]

/-- A browser in which patterns match what they spell, and a lone parenthesis cannot be compiled. -/
def literalBrowser : Browser where
  compile? pattern := if pattern = ['('] then none else some (· = pattern)
  wildcard pattern address := pattern = ['*'] ++ address ++ ['*']

theorem tableProgram_answer_rearranged :
    (∀ line, line ∈ ["/(/".toList, "b".toList, "b".toList] ↔
      line ∈ ["b".toList, "/(/".toList]) ∧
    (tableProgram true).answer literalBrowser "PROXY p".toList
        (ScriptRules.ofLines .standard (fun _ => .ok none)
          ["/(/".toList, "b".toList, "b".toList] ["@@b".toList]).nested "b".toList "b".toList =
      .ok (.text "PROXY p".toList) := by
  have hsame : ∀ line, line ∈ ["/(/".toList, "b".toList, "b".toList] ↔
      line ∈ ["b".toList, "/(/".toList] := by
    intro line
    simp [or_comm]
  obtain ⟨-, hanswer, hrearranged⟩ := tableProgram_answer literalBrowser "PROXY p".toList
    (fun _ => .ok none) ["b".toList, "/(/".toList] ["@@b".toList] "b".toList "b".toList true
  have hroute : literalBrowser.matching.routeFor "b".toList ["b".toList, "/(/".toList]
      ["@@b".toList] = .proxy := by decide
  refine ⟨hsame, (hrearranged _ _ hsame fun _ => Iff.rfl).trans ?_⟩
  rw [hanswer, hroute]
  rfl

end PacRules.Script
