import PacRules.Proofs.Domain.Stripping
import PacRules.Proofs.Host.WebHost

/-!
# The path of a rule

A rule that goes on behind its host with a slash has the domain of that host, whatever stands
behind the slash. Stripping keeps the host, which is a firm front, and the slash behind it.
Decoding goes over plain ASCII, and the host is looked for in front of the first slash.
-/

namespace PacRules.Domain

open PacRules.Text PacRules.Host PacRules.Suffix

/-! ### The host in front of the path -/

theorem decodedRule_append {front : Text} (h : '%' ∉ front) (t : Text) :
    ∃ t', decodedRule (front ++ '/' :: t) = front ++ '/' :: t' := by
  unfold decodedRule
  split
  · refine ⟨percentDecoded t, ?_⟩
    have hslash : '%' ∉ front ++ ['/'] := by simp [h]
    simpa using percentDecoded_append hslash t
  · exact ⟨t, rfl⟩

theorem decodedRule_eq_self {rule : Text} (h : '%' ∉ rule) : decodedRule rule = rule := by
  have henc : encodesSlash rule = false := by
    simp [encodesSlash, contains_eq_false_of_not_mem List.mem_cons_self h]
  rw [decodedRule, henc]
  rfl

/-- The host that a rule is looked up by. -/
def hostOfRule? (rule : Text) : Option Text := hostPart? (decodedRule (stripped rule))

theorem ofRule?_eq_bind (resolve : Resolver) (rule : Text) :
    ofRule? resolve rule = (hostOfRule? rule).bind (ofHost? resolve) := rfl

/-- A front that stays in front of its slash and then names the host `h` gives the rule this
host, whatever the path. -/
theorem hostOfRule?_of_front {front h : Text} (hfirm : IsFirm front)
    (hplain : '%' ∉ front)
    (hhost : ∀ t, hostPart? (front ++ '/' :: t) = some h) (pipes : Nat) (path : Text) :
    hostOfRule? (List.replicate pipes '|' ++ (front ++ '/' :: path)) = some h := by
  obtain ⟨t, ht⟩ := hfirm.foldl_apply_append Step.all path
  obtain ⟨t', ht'⟩ := decodedRule_append hplain t
  rw [hostOfRule?, stripped_replicate_append, stripped, ht, ht', hhost]

/-- A rule whose first colon has a slash in front of it begins with no scheme. -/
theorem afterScheme?_eq_none {rule : Text}
    (h : ∀ before rest, rule = before ++ ':' :: rest → '/' ∈ before) :
    afterScheme? rule = none := by
  have hnone : ∀ scheme : Text, '/' ∉ scheme → List.isPrefixOf? (scheme ++ [':']) rule = none := by
    intro scheme hscheme
    rw [isPrefixOf?_eq_none_iff]
    rintro ⟨rest, hrest⟩
    rw [List.append_assoc] at hrest
    exact hscheme (h scheme rest hrest.symm)
  have hhttp := hnone "http".toList (by decide)
  have hhttps := hnone "https".toList (by decide)
  exact Option.or_eq_none_iff.2 ⟨hhttp, hhttps⟩

variable {h : Text}

theorem isFirm_of_isNamedHost (hh : IsNamedHost h) : IsFirm h where
  star_not_mem := hh.not_mem (by decide)
  head_kept c hc := by
    obtain ⟨d, t, rfl, hd⟩ := hh.exists_cons
    obtain rfl : d = c := by simpa using hc
    constructor
    · rintro rfl
      simp [isHostChar, isRunChar] at hd
    · rintro rfl
      simp [isHostChar, isRunChar] at hd

theorem isBare_of_isNamedHost (hh : IsNamedHost h) : IsBare h where
  toIsFirm := isFirm_of_isNamedHost hh
  last_kept c hc := by
    have hmem := List.mem_of_getLast? hc
    constructor
    · rintro rfl
      exact hh.not_mem (by decide) hmem
    · rintro rfl
      exact hh.not_mem (by decide) hmem

/-- A text without slashes and colons is looked up as it is if it has a dot. -/
theorem hostPart?_of_plain {t : Text} (hslash : '/' ∉ t) (hcolon : ':' ∉ t) :
    hostPart? t = if '.' ∈ t then some t else none := by
  have hscheme : afterScheme? t = none := by
    refine afterScheme?_eq_none ?_
    rintro before rest rfl
    simp at hcolon
  have hcut : cut? ['/'] t = none := cut?_eq_none_of_not_mem List.mem_cons_self hslash
  simp [hostPart?, hscheme, hcut]

/-- A bare rule that is no address and has a dot is looked up as it is. -/
theorem hostOfRule?_of_isBare {rule : Text} (hbare : IsBare rule)
    (hplain : ∀ c ∈ ['%', '/', ':'], c ∉ rule) (hdot : '.' ∈ rule) (pipes : Nat) :
    hostOfRule? (List.replicate pipes '|' ++ rule) = some rule := by
  have hpercent : '%' ∉ rule := hplain '%' (by simp)
  rw [hostOfRule?, stripped_replicate_append, stripped, hbare.foldl_apply_eq_self,
    decodedRule_eq_self hpercent, hostPart?_of_plain (hplain '/' (by simp)) (hplain ':' (by simp)),
    if_pos hdot]

/-- A rule that is nothing but a named host is looked up as it is. -/
theorem hostOfRule?_host (hh : IsNamedHost h) (pipes : Nat) :
    hostOfRule? (List.replicate pipes '|' ++ h) = some h := by
  refine hostOfRule?_of_isBare (isBare_of_isNamedHost hh) ?_ hh.dot_mem pipes
  have hall : (['%', '/', ':'].all fun c => !isNamedChar c) = true := by decide
  intro c hc
  exact hh.not_mem (by simpa using List.all_eq_true.1 hall c hc)

theorem hostPart?_path (hh : IsWebHost h) (t : Text) : hostPart? (h ++ '/' :: t) = some h := by
  have hscheme : afterScheme? (h ++ '/' :: t) = none := by
    refine afterScheme?_eq_none ?_
    intro before rest heq
    by_contra hslash
    exact hh.not_mem (by decide) (mem_front_of_append_eq heq hslash (by decide))
  have hslash := cut?_singleton_append (hh.not_mem (c := '/') (by decide)) t
  rw [hostPart?, hscheme]
  simp only [hslash]
  split
  · rfl
  · rw [List.cons_append, List.singleton_append, hh.hostAfterScheme_eq]
    rfl

/-- What a web address begins with in front of its host. -/
def schemes : List Text := ["http://".toList, "https://".toList]

theorem hostPart?_address (hh : IsWebHost h) {scheme : Text} (hscheme : scheme ∈ schemes)
    (t : Text) :
    hostPart? (scheme ++ h ++ '/' :: t) = some h := by
  have hafter : afterScheme? (scheme ++ h ++ '/' :: t) = some ('/' :: '/' :: (h ++ '/' :: t)) := by
    simp only [schemes, List.mem_cons, List.not_mem_nil, or_false] at hscheme
    rcases hscheme with rfl | rfl
    · simp [afterScheme?, List.isPrefixOf?]
    · simp [afterScheme?, List.isPrefixOf?]
  rw [hostPart?, hafter]
  simp only [hh.hostAfterScheme_eq]
  rfl

theorem hostOfRule?_path (hh : IsWebHost h) (pipes : Nat) (path : Text) :
    hostOfRule? (List.replicate pipes '|' ++ (h ++ '/' :: path)) = some h :=
  hostOfRule?_of_front (isFirm_of_isNamedHost hh.toIsNamedHost) (hh.not_mem (by decide))
    (hostPart?_path hh) pipes path

theorem hostOfRule?_address (hh : IsWebHost h) {scheme : Text} (hscheme : scheme ∈ schemes)
    (pipes : Nat) (path : Text) :
    hostOfRule? (List.replicate pipes '|' ++ (scheme ++ h ++ '/' :: path)) = some h := by
  have hall : schemes.all (fun scheme =>
      scheme.all fun c => c ≠ '%' && c ≠ '*') = true := by decide
  have hchars : ∀ c ∈ scheme, c ≠ '%' ∧ c ≠ '*' := by
    intro c hc
    simpa using List.all_eq_true.1 (List.all_eq_true.1 hall scheme hscheme) c hc
  have hfirst : ∃ c t, scheme = c :: t ∧ c ≠ '|' ∧ c ≠ '.' := by
    simp only [schemes, List.mem_cons, List.not_mem_nil, or_false] at hscheme
    rcases hscheme with rfl | rfl <;> exact ⟨'h', _, rfl, by decide, by decide⟩
  have hfirm : IsFirm (scheme ++ h) := by
    refine ⟨?_, ?_⟩
    · rw [List.mem_append, not_or]
      exact ⟨fun hmem => (hchars '*' hmem).2 rfl, hh.not_mem (by decide)⟩
    · obtain ⟨d, t, rfl, hd⟩ := hfirst
      rintro c hc
      obtain rfl : d = c := by simpa using hc
      exact hd
  refine hostOfRule?_of_front hfirm ?_ (hostPart?_address hh hscheme) pipes path
  rw [List.mem_append, not_or]
  exact ⟨fun hmem => (hchars '%' hmem).1 rfl, hh.not_mem (by decide)⟩

/-- A rule that names a web host has the domain of this host, be it the host alone, the host with
a path, or a web address, with any number of pipes in front: no path changes it. -/
theorem ofRule?_webHost_eq (hh : IsWebHost h) (resolve : Resolver) (pipes : Nat) (path : Text) :
    ∀ rule ∈ [h, h ++ '/' :: path, "http://".toList ++ h ++ '/' :: path,
        "https://".toList ++ h ++ '/' :: path],
      ofRule? resolve (List.replicate pipes '|' ++ rule) = ofHost? resolve h := by
  intro rule hrule
  have hhost : hostOfRule? (List.replicate pipes '|' ++ rule) = some h := by
    simp only [List.mem_cons, List.not_mem_nil, or_false] at hrule
    rcases hrule with rfl | rfl | rfl | rfl
    · exact hostOfRule?_host hh.toIsNamedHost pipes
    · exact hostOfRule?_path hh pipes path
    · exact hostOfRule?_address hh (by simp [schemes]) pipes path
    · exact hostOfRule?_address hh (by simp [schemes]) pipes path
  rw [ofRule?_eq_bind, hhost]
  rfl

/-- A path with every kind of decoration, behind a host with a hyphen. -/
theorem ofRule?_webHost_eq_decorated :
    IsWebHost "my-site.co.uk".toList ∧
    ∀ rule ∈ ["my-site.co.uk".toList, "my-site.co.uk/a*.b%2Fx.(com|net)*c|^".toList,
        "http://my-site.co.uk/a*.b%2Fx.(com|net)*c|^".toList,
        "https://my-site.co.uk/a*.b%2Fx.(com|net)*c|^".toList],
      ofRule? (SuffixRules.lookup {}) (List.replicate 3 '|' ++ rule) =
        some "my-site.co.uk".toList := by
  have hhost : IsWebHost "my-site.co.uk".toList := by decide
  have hdomain : ofHost? (SuffixRules.lookup {}) "my-site.co.uk".toList =
      some "my-site.co.uk".toList := by decide
  refine ⟨hhost, ?_⟩
  intro rule hrule
  rw [← hdomain]
  exact ofRule?_webHost_eq hhost _ 3 "a*.b%2Fx.(com|net)*c|^".toList rule hrule

end PacRules.Domain
