import PacRules.Proofs.Rule.Partition
import PacRules.Script.Answer

/-!
# The route by the patterns of two sources

A table has exactly the patterns of its source, so what a script finds in the lists of a table for
a route is what a line of the source gives for it. The route for an address thereby depends on which
patterns the two sources have, and not on the order of their lines or on how often one stands there.
-/

namespace PacRules.Script

open PacRules.Text PacRules.Rule

namespace Matching

variable {m : Matching} {address : Text} {lines lines' : List Text} {route : Route}

/-- Whether a pattern matches an address. -/
def holds (m : Matching) (address : Text) (p : Pattern) : Bool :=
  match p.form with
  | .regexp => m.regexp p.text address
  | .wildcard => m.wildcard p.text address

/-- Whether a line of a source gives a pattern for a route that matches an address. -/
def hits (m : Matching) (address : Text) (lines : List Text) (route : Route) : Bool :=
  (lines.filterMap Pattern.ofLine?).any fun p => p.route = route ∧ m.holds address p

/-- The route for an address by two sources: the first of the user's direct patterns, the user's
proxy patterns, the list's direct patterns and the list's proxy patterns of which one matches. -/
def routeFor (m : Matching) (address : Text) (user list : List Text) : Route :=
  if m.hits address user .direct then .direct
  else if m.hits address user .proxy then .proxy
  else if m.hits address list .direct then .direct
  else if m.hits address list .proxy then .proxy
  else .direct

theorem hits_eq_true_iff :
    m.hits address lines route = true ↔
      ∃ line ∈ lines, ∃ p, Pattern.ofLine? line = some p ∧ p.route = route ∧
        m.holds address p = true := by
  simp only [hits, List.any_eq_true, List.mem_filterMap, decide_eq_true_eq]
  constructor
  · rintro ⟨p, ⟨line, hline, hp⟩, hroute, hholds⟩
    exact ⟨line, hline, p, hp, hroute, hholds⟩
  · rintro ⟨line, hline, p, hp, hroute, hholds⟩
    exact ⟨p, ⟨line, hline, hp⟩, hroute, hholds⟩

/-- Only which lines a source has counts. -/
theorem hits_congr (h : ∀ line, line ∈ lines ↔ line ∈ lines') :
    m.hits address lines route = m.hits address lines' route := by
  rw [Bool.eq_iff_iff, hits_eq_true_iff, hits_eq_true_iff]
  simp only [h]

theorem any_textsFor (form : Form) (patterns : List Pattern) (f : Text → Bool) :
    (textsFor route form patterns).any f =
      patterns.any fun p => decide (p.route = route ∧ p.form = form) && f p.text := by
  rw [textsFor, List.any_map, List.any_filter]
  rfl

/-- The lists of a table for a route have the patterns of its source for this route. -/
theorem any_ofLines :
    m.any address ((RuleTable.ofLines lines).list route .regexp)
        ((RuleTable.ofLines lines).list route .wildcard) = m.hits address lines route := by
  rw [any, RuleTable.ofLines, (TableReading.holds_ofLines lines).list_eq,
    (TableReading.holds_ofLines lines).list_eq, any_textsFor, any_textsFor, hits]
  induction lines.filterMap Pattern.ofLine? with
  | nil => rfl
  | cons p patterns ih =>
      rw [List.any_cons, List.any_cons, List.any_cons, ← ih]
      cases hform : p.form with
      | regexp => simp [holds, hform, Bool.or_assoc]
      | wildcard => simp [holds, hform, Bool.or_left_comm]

theorem route?_ofLines :
    m.route? address (RuleTable.ofLines lines).lists =
      if m.hits address lines .direct then some .direct
      else if m.hits address lines .proxy then some .proxy
      else none := by
  rw [← any_ofLines, ← any_ofLines]
  rfl

theorem answer_ofLines (user list : List Text) :
    m.answer address [(RuleTable.ofLines user).lists, (RuleTable.ofLines list).lists] =
      m.routeFor address user list := by
  rw [answer_cons, answer_cons, answer_nil, route?_ofLines, route?_ofLines, routeFor]
  cases m.hits address user .direct with
  | true => rfl
  | false =>
      cases m.hits address user .proxy with
      | true => rfl
      | false =>
          cases m.hits address list .direct with
          | true => rfl
          | false => cases m.hits address list .proxy <;> rfl

/-- Neither the order of the lines of either source nor how often one stands there counts. -/
theorem routeFor_congr {user user' list list' : List Text}
    (huser : ∀ line, line ∈ user' ↔ line ∈ user) (hlist : ∀ line, line ∈ list' ↔ line ∈ list) :
    m.routeFor address user' list' = m.routeFor address user list := by
  rw [routeFor, hits_congr huser, hits_congr huser, hits_congr hlist, hits_congr hlist]
  rfl

end Matching

end PacRules.Script
