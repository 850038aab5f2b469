import PacRules.Rule.Line
import PacRules.Text.LowerCase
import PacRules.Text.Units

/-!
# The answer of a script

What a browser is told by a script for an address and its host. A script for rule tables goes
through the tables in their order, and in each asks the patterns of the direct route before
those of the proxy; how a pattern is matched is left to the browser. A script for routed domains
looks for the host and then for its parent domains, in the direct list before the proxy's, by
halving a list that ascends by code units. Where nothing is found the request goes directly.

For routed domains these definitions are a reading of the script: `search` follows the loop of
`contains` in `Template.domains`, and `answerForHost` that of its `FindProxyForURL`. The scripts for
rule tables are programs besides, whose evaluation is shown to give the answer that stands here.
-/

namespace PacRules.Script

open PacRules.Text PacRules.Rule

/-- How a browser matches a pattern, given first, against an address. A regular expression that it
cannot compile matches nothing. -/
structure Matching where
  regexp : Text → Text → Bool
  wildcard : Text → Text → Bool

namespace Matching

/-- Whether one of the regular expressions or one of the globs matches an address. -/
def any (m : Matching) (address : Text) (regexps wildcards : List Text) : Bool :=
  regexps.any (m.regexp · address) || wildcards.any (m.wildcard · address)

/-- The route that a table, as four lists of patterns, has for an address. -/
def route? (m : Matching) (address : Text) (table : List (List Text)) : Option Route :=
  if m.any address (table.getD 0 []) (table.getD 1 []) then some .direct
  else if m.any address (table.getD 2 []) (table.getD 3 []) then some .proxy
  else none

/-- The route for an address: that of the first table which has one. -/
def answer (m : Matching) (address : Text) (tables : List (List (List Text))) : Route :=
  (tables.findSome? (m.route? address)).getD .direct

@[simp] theorem answer_nil (m : Matching) (address : Text) : m.answer address [] = .direct := rfl

theorem answer_cons (m : Matching) (address : Text) (table : List (List Text))
    (tables : List (List (List Text))) :
    m.answer address (table :: tables) =
      (m.route? address table).getD (m.answer address tables) := by
  unfold answer
  rw [List.findSome?_cons]
  cases m.route? address table <;> rfl

end Matching

/-- Whether an item is found in a list between two places, the second of them left out. The item
in the middle is compared by its code units, and the half in which the item would have to be is
searched on. Places are numbers without a bound. A script shifts the sum of two as a number of 32
bits, which is the same for lists of up to 2 ^ 30 items, more than a browser can read. -/
def search (list : List Text) (item : Text) (low high : Nat) : Bool :=
  if low < high then
    let middle := (low + high - 1) / 2
    let found := units (list.getD middle [])
    if found = units item then true
    else if found < units item then search list item (middle + 1) high
    else search list item low middle
  else false
termination_by high - low

def finds (list : List Text) (item : Text) : Bool := search list item 0 list.length

/-- What is found between two places of a list is a member of it there. -/
theorem exists_of_search {list : List Text} {item : Text} {low high : Nat}
    (hhigh : high ≤ list.length) (h : search list item low high = true) :
    ∃ i, low ≤ i ∧ i < high ∧ list[i]? = some item := by
  fun_induction search list item low high with
  | case1 low high hlt middle found heq =>
    have hmiddle : middle < list.length := by omega
    have hitem : list.getD middle [] = item := units_injective heq
    rw [List.getD_eq_getElem?_getD, List.getElem?_eq_getElem hmiddle, Option.getD_some] at hitem
    exact ⟨middle, by omega, by omega, hitem ▸ List.getElem?_eq_getElem hmiddle⟩
  | case2 low high hlt middle found hne hless ih =>
    obtain ⟨i, hlow, hi, hitem⟩ := ih hhigh h
    exact ⟨i, by omega, hi, hitem⟩
  | case3 low high hlt middle found hne hless ih =>
    obtain ⟨i, hlow, hi, hitem⟩ := ih (by omega) h
    exact ⟨i, hlow, by omega, hitem⟩
  | case4 => simp at h

/-- What is found in a list is a member of it, whether or not the list ascends. -/
theorem mem_of_finds {list : List Text} {item : Text} (h : finds list item = true) :
    item ∈ list := by
  obtain ⟨i, -, -, hitem⟩ := exists_of_search (Nat.le_refl _) h
  exact List.mem_of_getElem? hitem

/-- The parent domains of a domain, the nearest first: what stands behind each dot. -/
def parents : Text → List Text
  | [] => []
  | c :: t => if c = '.' then t :: parents t else parents t

@[simp] theorem parents_nil : parents [] = [] := rfl

def routeIn? (direct proxy : List Text) (domain : Text) : Option Route :=
  if finds direct domain then some .direct
  else if finds proxy domain then some .proxy
  else none

/-- The route for a host: that of the first of the host and its parents which is in a list. A
parent without any character ends the search. -/
def answerForHost (direct proxy : List Text) (host : Text) : Route :=
  let domain := lower host
  let candidates := (domain :: parents domain).takeWhile (!·.isEmpty)
  (candidates.findSome? (routeIn? direct proxy)).getD .direct

end PacRules.Script
