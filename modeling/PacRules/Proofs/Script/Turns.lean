import PacRules.Script.Evaluation

/-!
# Statements and loops

What a statement does follows from the values of its expressions. A loop whose body answers at some
places of a list, and elsewhere leaves a scope that is fit for another turn, answers what is
answered at the first of these places. Which scopes are fit is the invariant of the loop: the
counter may change in them, the list may not.
-/

namespace PacRules.Script

variable {browser : Browser} {calls : Calls} {counter : String} {list value : Expr}
  {body : Statement} {fits : Scope → Prop} {answer? : Value → Option Value} {items : List Value}
  {scope : Scope} {found : Option Value} {place : Nat}

@[simp] theorem Scope.set_self (scope : Scope) (x : String) (v : Value) :
    scope.set x v x = some v := if_pos rfl

@[simp] theorem Scope.set_of_ne {x y : String} (h : y ≠ x) (scope : Scope) (v : Value) :
    scope.set x v y = scope y := if_neg h

/-! ### Statements one after the other -/

theorem eval_choose {b : Bool} {yes no : Expr}
    (h : value.eval browser calls scope = .ok (.boolean b)) :
    (Expr.choose value yes no).eval browser calls scope =
      if b then yes.eval browser calls scope else no.eval browser calls scope := by
  rw [Expr.eval, h]
  rfl

theorem exec_answer {v : Value} (h : value.eval browser calls scope = .ok v) :
    (Statement.answer value).exec browser calls scope = .answered v := by
  rw [Statement.exec, h]
  rfl

theorem exec_declare {x : String} {v : Value} (h : value.eval browser calls scope = .ok v) :
    (Statement.declare x value).exec browser calls scope = .ended (scope.set x v) := by
  rw [Statement.exec, h]
  rfl

theorem exec_provided_true (h : value.eval browser calls scope = .ok (.boolean true)) :
    (Statement.provided value body).exec browser calls scope = body.exec browser calls scope := by
  rw [Statement.exec, h]
  rfl

theorem exec_provided_false (h : value.eval browser calls scope = .ok (.boolean false)) :
    (Statement.provided value body).exec browser calls scope = .ended scope := by
  rw [Statement.exec, h]
  rfl

theorem exec_seq_of_answered {v : Value} (h : body.exec browser calls scope = .answered v)
    (next : Statement) : (Statement.seq body next).exec browser calls scope = .answered v := by
  rw [Statement.exec, h]
  rfl

theorem exec_seq_of_ended {later : Scope} (h : body.exec browser calls scope = .ended later)
    (next : Statement) :
    (Statement.seq body next).exec browser calls scope = next.exec browser calls later := by
  rw [Statement.exec, h]
  rfl

theorem call_of_answered {f : Function} {outer : Scope} {first second v : Value}
    (h : f.body.exec browser calls (f.scope outer first second) = .answered v) :
    f.call browser calls outer first second = .ok v := by
  rw [Function.call, h]

/-! ### Loops -/

/-- An end of a statement in a loop with what is to be found there: this is answered, or nothing is
to be found and the loop can go on with its counter at a place. -/
def Serves (counter : String) (fits : Scope → Prop) (found : Option Value) (place : Nat) :
    Completion → Prop
  | .answered v => found = some v
  | .ended scope => found = none ∧ fits scope ∧ scope counter = some (.number place)
  | .failed _ _ => False

/-- Behind the body of a loop the counter counts on. -/
theorem serves_endTurn {length : Scope → Except Fault Value} {count : Nat}
    (hset : ∀ scope v, fits scope → fits (scope.set counter v))
    (hlength : ∀ scope, fits scope → length scope = .ok (.number count)) {c : Completion}
    (h : Serves counter fits found place c) :
    Serves counter fits found (place + 1) (c.andThen (endTurn counter length count place)) := by
  cases c with
  | answered v => exact h
  | failed fault scope => exact h
  | ended scope =>
      obtain ⟨hnone, hfits, hcounter⟩ := h
      have hlater := hset scope (.number (place + 1)) hfits
      simp only [Completion.andThen, endTurn, hcounter, hlength _ hlater, true_and, if_true]
      exact ⟨hnone, hlater, Scope.set_self _ _ _⟩

/-- The turns of a loop from a place on answer what is found first from there. -/
theorem serves_turns {turn : Nat → Scope → Completion}
    (hturn : ∀ place item scope, items[place]? = some item → fits scope →
      scope counter = some (.number place) →
      Serves counter fits (answer? item) (place + 1) (turn place scope))
    (rest : List Value) (hrest : items.drop place = rest) (hplace : place ≤ items.length)
    (hfits : fits scope) (hcounter : scope counter = some (.number place)) :
    Serves counter fits (rest.findSome? answer?) items.length
      (turns turn rest.length place scope) := by
  induction rest generalizing place scope with
  | nil =>
      have hend : place = items.length :=
        Nat.le_antisymm hplace (List.drop_eq_nil_iff.1 hrest)
      exact ⟨rfl, hfits, hend ▸ hcounter⟩
  | cons item rest ih =>
      have hitem : items[place]? = some item := by
        rw [← List.head?_drop, hrest]
        rfl
      have hserves := hturn place item scope hitem hfits hcounter
      rw [List.length_cons, turns, List.findSome?_cons]
      cases hend : turn place scope with
      | answered v =>
          rw [hend] at hserves
          rw [hserves]
          rfl
      | failed fault scope =>
          rw [hend] at hserves
          exact hserves.elim
      | ended later =>
          rw [hend] at hserves
          obtain ⟨hnone, hfits', hcounter'⟩ := hserves
          have hlt : place < items.length := (List.getElem?_eq_some_iff.1 hitem).1
          have hlater : items.drop (place + 1) = rest := by
            rw [← List.tail_drop, hrest]
            rfl
          rw [hnone]
          exact ih hlater hlt hfits' hcounter'

/-- A loop answers what its body answers first. -/
theorem serves_eachPlace
    (hlist : ∀ scope, fits scope → list.eval browser calls scope = .ok (.list items))
    (hset : ∀ scope v, fits scope → fits (scope.set counter v))
    (hbody : ∀ place item scope, items[place]? = some item → fits scope →
      scope counter = some (.number place) →
      Serves counter fits (answer? item) place (body.exec browser calls scope))
    (hfits : fits scope) :
    Serves counter fits (items.findSome? answer?) items.length
      ((Statement.eachPlace counter list body).exec browser calls scope) := by
  have hlength : ∀ scope, fits scope →
      (Expr.length list).eval browser calls scope = .ok (.number items.length) := by
    intro scope h
    rw [Expr.eval, hlist scope h]
    rfl
  have hstart := hset scope (.number 0) hfits
  rw [Statement.exec]
  simp only [Completion.ofValue, hlength _ hstart]
  refine serves_turns ?_ items (List.drop_zero) (Nat.zero_le _) hstart (Scope.set_self _ _ _)
  intro place item scope hitem h hcounter
  exact serves_endTurn hset hlength (hbody place item scope hitem h hcounter)

/-- A loop with an answer behind it, for the case that the loop has none. -/
theorem exec_search {default : Value}
    (hlist : ∀ scope, fits scope → list.eval browser calls scope = .ok (.list items))
    (hset : ∀ scope v, fits scope → fits (scope.set counter v))
    (hbody : ∀ place item scope, items[place]? = some item → fits scope →
      scope counter = some (.number place) →
      Serves counter fits (answer? item) place (body.exec browser calls scope))
    (hvalue : ∀ scope, fits scope → value.eval browser calls scope = .ok default)
    (hfits : fits scope) :
    (Statement.seq (.eachPlace counter list body) (.answer value)).exec browser calls scope =
      .answered ((items.findSome? answer?).getD default) := by
  have hserves := serves_eachPlace hlist hset hbody hfits
  cases hend : (Statement.eachPlace counter list body).exec browser calls scope with
  | answered v =>
      rw [hend] at hserves
      rw [exec_seq_of_answered hend, hserves]
      rfl
  | failed fault later =>
      rw [hend] at hserves
      exact hserves.elim
  | ended later =>
      rw [hend] at hserves
      obtain ⟨hnone, hlater, -⟩ := hserves
      rw [exec_seq_of_ended hend, exec_answer (hvalue later hlater), hnone]
      rfl

end PacRules.Script
