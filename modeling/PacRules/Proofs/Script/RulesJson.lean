import PacRules.Proofs.Json.Compact
import PacRules.Script.Rules

/-!
# The rules in a script

The rules of a script are read back from either layout as the nested lists that they were: the four
lists of the user and those of the list, or the direct domains and those of the proxy. The layouts
differ in blanks between the texts only. There are no rules exactly if every list in which texts
stand is empty.
-/

namespace PacRules.Json

open PacRules.Text

mutual

/-- The items of each list inside of which there is no other list, from left to right. -/
def Nested.innermost : Nested → List (List Nested)
  | .text _ => []
  | .list items =>
    if (Nested.innermostOfAll items).isEmpty then [items] else Nested.innermostOfAll items

def Nested.innermostOfAll : List Nested → List (List Nested)
  | [] => []
  | item :: items => item.innermost ++ Nested.innermostOfAll items

end

theorem innermostOfAll_texts (texts : List Text) :
    Nested.innermostOfAll (texts.map .text) = [] := by
  induction texts with
  | nil => rfl
  | cons t texts ih => rw [List.map_cons, Nested.innermostOfAll, ih, Nested.innermost]; rfl

theorem innermost_ofTexts (texts : List Text) :
    (Nested.ofTexts texts).innermost = [texts.map .text] := by
  rw [Nested.ofTexts, Nested.innermost, innermostOfAll_texts]
  rfl

theorem innermostOfAll_ofTexts (lists : List (List Text)) :
    Nested.innermostOfAll (lists.map Nested.ofTexts) = lists.map (List.map .text) := by
  induction lists with
  | nil => rfl
  | cons texts lists ih =>
      rw [List.map_cons, Nested.innermostOfAll, innermost_ofTexts, ih]
      rfl

theorem innermost_lists {lists : List (List Text)} (h : lists ≠ []) :
    (Nested.list (lists.map Nested.ofTexts)).innermost = lists.map (List.map .text) := by
  rw [Nested.innermost, innermostOfAll_ofTexts, if_neg]
  simpa using h

theorem heightOfAll_texts (texts : List Text) : Nested.heightOfAll (texts.map .text) = 0 := by
  induction texts with
  | nil => rfl
  | cons t texts ih =>
      rw [List.map_cons, Nested.heightOfAll, ih]
      rfl

theorem heightOfAll_ofTexts (lists : List (List Text)) :
    Nested.heightOfAll (lists.map Nested.ofTexts) ≤ 1 := by
  induction lists with
  | nil => exact Nat.zero_le 1
  | cons texts lists ih =>
      rw [List.map_cons, Nested.heightOfAll, Nested.ofTexts, Nested.height, heightOfAll_texts]
      omega

end PacRules.Json

namespace PacRules.Script

open PacRules.Text PacRules.Rule PacRules.Domain PacRules.Json

namespace ScriptRules

theorem height_nested_lt (rules : ScriptRules) : rules.nested.height < depthLimit := by
  cases rules with
  | standard user list =>
      have huser := heightOfAll_ofTexts user.lists
      have hlist := heightOfAll_ofTexts list.lists
      simp only [nested, List.map_cons, List.map_nil, Nested.height, Nested.heightOfAll, depthLimit]
      omega
  | precise routed =>
      have hrouted := heightOfAll_ofTexts routed.lists
      simp only [nested, Nested.height, depthLimit]
      omega

/-- Rules are read back from either layout. -/
theorem readNested_json (compress : Bool) (rules : ScriptRules) :
    readNested (rules.json compress) = .ok (some rules.nested, []) :=
  readNested_write (layout compress) rules.height_nested_lt

/-- The lists of patterns or domains of which rules are made. -/
def textLists : ScriptRules → List (List Text)
  | standard user list => user.lists ++ list.lists
  | precise routed => routed.lists

theorem innermost_nested (rules : ScriptRules) :
    rules.nested.innermost = rules.textLists.map (List.map .text) := by
  cases rules with
  | standard user list =>
      have hne : ∀ table : RuleTable, table.lists ≠ [] := by simp [RuleTable.lists]
      have huser := innermost_lists (hne user)
      have hlist := innermost_lists (hne list)
      have hall : Nested.innermostOfAll
          ([user, list].map fun table => .list (table.lists.map Nested.ofTexts)) =
            (user.lists ++ list.lists).map (List.map .text) := by
        simp only [List.map_cons, List.map_nil, Nested.innermostOfAll, huser, hlist,
          List.append_nil, List.map_append]
      rw [nested, Nested.innermost, hall]
      rfl
  | precise routed => exact innermost_lists (by simp [RoutedDomains.lists])

theorem table_isEmpty_iff (table : RuleTable) :
    table.isEmpty = true ↔ ∀ texts ∈ table.lists, texts = [] := by
  simp [RuleTable.isEmpty, RuleTable.size, RuleTable.lists, and_assoc]

theorem isEmpty_iff (rules : ScriptRules) :
    rules.isEmpty = true ↔ ∀ texts ∈ rules.textLists, texts = [] := by
  cases rules with
  | standard user list =>
      rw [isEmpty, Bool.and_eq_true, table_isEmpty_iff, table_isEmpty_iff, textLists,
        List.forall_mem_append]
  | precise routed =>
      simp [isEmpty, RoutedDomains.isEmpty, textLists, RoutedDomains.lists]

/-- The rules are empty exactly if no text stands in any of their innermost lists. -/
theorem isEmpty_iff_innermost (rules : ScriptRules) :
    rules.isEmpty = true ↔ ∀ items ∈ rules.nested.innermost, items = [] := by
  rw [isEmpty_iff, innermost_nested, List.forall_mem_map]
  refine forall₂_congr fun texts _ => ?_
  rw [List.map_eq_nil_iff]

end ScriptRules

/-- The rules of a script are read back from either layout, each text as it was: the four lists of
the user in front of those of the list, or the direct domains in front of those of the proxy. The
compact layout is the other one without the blanks outside of its texts, and the rules are empty
exactly if all innermost lists are. -/
theorem json_read_back :
    (∀ user list compress, readNested ((ScriptRules.standard user list).json compress) =
      .ok (some (.list [.list (user.lists.map .ofTexts), .list (list.lists.map .ofTexts)]), [])) ∧
    (∀ routed compress, readNested ((ScriptRules.precise routed).json compress) =
      .ok (some (.list [.ofTexts routed.direct, .ofTexts routed.proxy]), [])) ∧
    (∀ rules : ScriptRules, unspaced (rules.json false) = rules.json true) ∧
    ∀ rules : ScriptRules, rules.isEmpty = true ↔
      ∀ items ∈ rules.nested.innermost, items = [] := by
  refine ⟨?_, ?_, ?_, ScriptRules.isEmpty_iff_innermost⟩
  · intro user list compress
    exact ScriptRules.readNested_json compress (.standard user list)
  · intro routed compress
    exact ScriptRules.readNested_json compress (.precise routed)
  · intro rules
    exact unspaced_write .indented rules.nested

end PacRules.Script
