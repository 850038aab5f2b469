import Mathlib.Data.List.Perm.Basic
import PacRules.Proofs.Suffix.Listing

/-!
# Lookup in a listing

Rules are kept by kind and name, and are only ever asked whether they hold a name of a kind. So
two sets of rules with the same names give one answer, and a listing counts by the rules that
are found on its lines. With the longest match this says of a text and a host which domain is
the registrable one, whatever the layout of the text.
-/

namespace PacRules.Suffix

open PacRules.Text

namespace SuffixRules

variable {rules rules' : SuffixRules}

/-- The names that the rules of a kind are kept under. -/
def names (rules : SuffixRules) : RuleKind → List Text
  | .exact => rules.exact
  | .wildcard => rules.wildcard
  | .exception => rules.exception

/-- The kind of a rule as it is written, and the name that it is kept under. -/
def sorted (rule : Text) : RuleKind × Text :=
  match List.isPrefixOf? ['!'] rule with
  | some name => (.exception, name)
  | none =>
    match List.isPrefixOf? ['*', '.'] rule with
    | some name => (.wildcard, name)
    | none => (.exact, rule)

/-! ### The names of a listing -/

theorem mem_names_insert (rules : SuffixRules) (rule : Text) (kind : RuleKind) (name : Text) :
    name ∈ (rules.insert rule).names kind ↔
      sorted rule = (kind, name) ∨ name ∈ rules.names kind := by
  unfold insert sorted
  cases List.isPrefixOf? ['!'] rule with
  | some found => cases kind <;> simp [names, eq_comm]
  | none =>
      cases List.isPrefixOf? ['*', '.'] rule with
      | some found => cases kind <;> simp [names, eq_comm]
      | none => cases kind <;> simp [names, eq_comm]

theorem mem_names_foldl (rules : SuffixRules) (listed : List Text) (kind : RuleKind)
    (name : Text) :
    name ∈ (listed.foldl insert rules).names kind ↔
      (∃ rule ∈ listed, sorted rule = (kind, name)) ∨ name ∈ rules.names kind := by
  induction listed generalizing rules with
  | nil => simp
  | cons rule listed ih =>
      rw [List.foldl_cons, ih, mem_names_insert]
      simp only [List.mem_cons, exists_eq_or_imp]
      rw [or_left_comm, or_assoc]

/-- An empty line lists nothing, so it does not count that the fields leave it out. -/
theorem filterMap_fields (t : Text) :
    (fields (· = '\n') t).filterMap ruleOfLine? = (List.splitOn '\n' t).filterMap ruleOfLine? := by
  rw [fields_eq_filter_splitOn, List.filterMap_filter]
  congr 1
  funext line
  cases line with
  | nil => rfl
  | cons c line => rfl

theorem mem_names_ofText (t : Text) (kind : RuleKind) (name : Text) :
    name ∈ (ofText t).names kind ↔
      ∃ rule ∈ (List.splitOn '\n' t).filterMap ruleOfLine?, sorted rule = (kind, name) := by
  have hnone : name ∉ ({} : SuffixRules).names kind := by cases kind <;> simp [names]
  rw [ofText, mem_names_foldl, filterMap_fields]
  simp [hnone]

/-! ### Rules with the same names -/

/-- The rules have the same names of every kind. -/
def SameNames (rules rules' : SuffixRules) : Prop :=
  ∀ kind name, name ∈ rules.names kind ↔ name ∈ rules'.names kind

theorem isEmpty_iff : rules.isEmpty = true ↔ ∀ kind name, name ∉ rules.names kind := by
  constructor
  · intro h kind name
    simp only [isEmpty, Bool.and_eq_true, List.isEmpty_iff] at h
    obtain ⟨⟨hexact, hwildcard⟩, hexception⟩ := h
    cases kind <;> simp [names, hexact, hwildcard, hexception]
  · intro h
    have hexact := List.eq_nil_iff_forall_not_mem.2 (h .exact)
    have hwildcard := List.eq_nil_iff_forall_not_mem.2 (h .wildcard)
    have hexception := List.eq_nil_iff_forall_not_mem.2 (h .exception)
    simp only [names] at hexact hwildcard hexception
    simp [isEmpty, hexact, hwildcard, hexception]

theorem SameNames.isEmpty_eq (h : SameNames rules rules') : rules.isEmpty = rules'.isEmpty := by
  rw [Bool.eq_iff_iff, isEmpty_iff, isEmpty_iff]
  simp only [h _ _]

theorem SameNames.scan_eq (h : SameNames rules rules') (before : Option Text)
    (labels : List Text) : rules.scan before labels = rules'.scan before labels := by
  have hcontains : ∀ kind name,
      (rules.names kind).contains name = (rules'.names kind).contains name := by
    intro kind name
    rw [Bool.eq_iff_iff, List.contains_iff_mem, List.contains_iff_mem]
    exact h kind name
  have hexact := hcontains .exact
  have hwildcard := hcontains .wildcard
  have hexception := hcontains .exception
  simp only [names] at hexact hwildcard hexception
  induction labels generalizing before with
  | nil => rfl
  | cons label labels ih => simp only [scan, hexact, hwildcard, hexception, ih]

/-- A lookup asks only which names there are. -/
theorem SameNames.lookup_eq (h : SameNames rules rules') : rules.lookup = rules'.lookup := by
  have hregistrable : rules.registrable? = rules'.registrable? := by
    funext host
    simp only [registrable?, h.isEmpty_eq, h.scan_eq]
  rw [lookup, lookup, hregistrable]

/-! ### Texts that list the same rules -/

/-- Lists of lines that differ in the order of the lines, in how often a line stands there, in
comments and in how a line spells its rule. -/
inductive Relisted : List Text → List Text → Prop where
  | reordered {lines lines' : List Text} : lines.Perm lines' → Relisted lines lines'
  | repeated {line : Text} {lines : List Text} : line ∈ lines → Relisted (line :: lines) lines
  | commented {line : Text} {lines : List Text} : IsComment line → Relisted (line :: lines) lines
  | respelled {line line' : Text} {lines : List Text} : Respelled line line' →
      Relisted (line :: lines) (line' :: lines)
  | symm {lines lines' : List Text} : Relisted lines lines' → Relisted lines' lines
  | trans {lines lines' lines'' : List Text} : Relisted lines lines' → Relisted lines' lines'' →
      Relisted lines lines''

instance : Trans Relisted Relisted Relisted := ⟨.trans⟩

theorem Relisted.mem_iff {lines lines' : List Text} (h : Relisted lines lines') (rule : Text) :
    rule ∈ lines.filterMap ruleOfLine? ↔ rule ∈ lines'.filterMap ruleOfLine? := by
  induction h with
  | reordered hperm => exact (hperm.filterMap ruleOfLine?).mem_iff
  | @repeated line lines hmem =>
      simp only [List.mem_filterMap, List.mem_cons]
      constructor
      · rintro ⟨found, rfl | hfound, hrule⟩
        · exact ⟨found, hmem, hrule⟩
        · exact ⟨found, hfound, hrule⟩
      · rintro ⟨found, hfound, hrule⟩
        exact ⟨found, .inr hfound, hrule⟩
  | commented hcomment => rw [List.filterMap_cons_none hcomment.ruleOfLine?_eq_none]
  | respelled hline => simp only [List.filterMap_cons, hline.ruleOfLine?_eq]
  | symm _ ih => exact ih.symm
  | trans _ _ ih ih' => exact ih.trans ih'

theorem Relisted.sameNames {t t' : Text}
    (h : Relisted (List.splitOn '\n' t) (List.splitOn '\n' t')) :
    SameNames (ofText t) (ofText t') := by
  intro kind name
  rw [mem_names_ofText, mem_names_ofText]
  simp only [h.mem_iff]

/-- The answer for a host is the one that the prevailing of the listed rules gives, and no other
is allowed. The order of the lines, their repetition, comments, indentation and ASCII case do
not count. -/
theorem lookup_longest_match (t host checked : Text) (hrules : (ofText t).isEmpty = false)
    (hhost : checkedHost host = .ok checked) :
    (∃ answer, (ofText t).lookup host = .ok answer ∧
      ∀ other, Registrable (ofText t) (List.splitOn '.' checked) other ↔ other = answer) ∧
    ∀ t', Relisted (List.splitOn '\n' t) (List.splitOn '\n' t') →
      (ofText t').lookup = (ofText t).lookup := by
  constructor
  · have hanswer := registrable?_registrable hrules checked
    refine ⟨(ofText t).registrable? checked, lookup_of_checkedHost _ hhost, ?_⟩
    intro other
    constructor
    · intro hother
      exact hother.unique hanswer
    · rintro rfl
      exact hanswer
  · intro t' hlisted
    exact hlisted.symm.sameNames.lookup_eq

/-- Behind the wildcard rule for `ck` an exception decides, here for a host with a label more. -/
theorem lookup_longest_match_excepted :
    (ofText "com\n*.ck\n!www.ck".toList).isEmpty = false ∧
    checkedHost "shop.WWW.ck.".toList = .ok "shop.www.ck".toList ∧
    (∀ other, Registrable (ofText "com\n*.ck\n!www.ck".toList)
      (List.splitOn '.' "shop.www.ck".toList) other ↔ other = some "www.ck".toList) ∧
    (ofText "// islands\n  !Www.CK // web\n*.ck\ncom\n*.ck".toList).lookup =
      (ofText "com\n*.ck\n!www.ck".toList).lookup := by
  have hrules : (ofText "com\n*.ck\n!www.ck".toList).isEmpty = false := by decide
  have hhost : checkedHost "shop.WWW.ck.".toList = .ok "shop.www.ck".toList := by decide
  have hlookup : (ofText "com\n*.ck\n!www.ck".toList).lookup "shop.WWW.ck.".toList =
      .ok (some "www.ck".toList) := by decide
  obtain ⟨⟨answer, hanswer, hunique⟩, hlayout⟩ := lookup_longest_match _ _ _ hrules hhost
  obtain rfl : some "www.ck".toList = answer := Except.ok.inj (hlookup.symm.trans hanswer)
  refine ⟨hrules, hhost, hunique, hlayout _ (.symm ?_)⟩
  have hcomment : IsComment "// islands".toList :=
    @IsComment.slashes [] " islands".toList (by simp)
  have hindent : Respelled "  !Www.CK // web".toList "!Www.CK // web".toList :=
    @Respelled.indented "  ".toList "!Www.CK // web".toList (List.all_eq_true.1 rfl)
  have hremark : Respelled "!Www.CK // web".toList "!Www.CK".toList :=
    @Respelled.remarked "!Www.CK".toList "// web".toList ' ' ⟨'!', by decide, rfl⟩ rfl
  have hcase : Respelled "!Www.CK".toList "!www.ck".toList := .case (by decide)
  calc
    Relisted _ ["  !Www.CK // web".toList, "*.ck".toList, "com".toList, "*.ck".toList] :=
      .commented hcomment
    Relisted _ ["!www.ck".toList, "*.ck".toList, "com".toList, "*.ck".toList] :=
      .trans (.respelled hindent) (.trans (.respelled hremark) (.respelled hcase))
    Relisted _ ["*.ck".toList, "com".toList, "*.ck".toList, "!www.ck".toList] :=
      .reordered (by decide)
    Relisted _ ["com".toList, "*.ck".toList, "!www.ck".toList] := .repeated (by decide)

end SuffixRules

end PacRules.Suffix
