import PacRules.Domain.OfRule

/-!
# Routed domains

The domains of all rules, pooled and sorted, in two lists without a common member: those
reached directly and those reached through the proxy. A domain that rules of both kinds name
is proxied, so neither the order of the lines nor the source that they come from matters. The
lists ascend in the order of code points, which is the order of the UTF-8 octets too.
-/

namespace PacRules.Domain

open PacRules.Text PacRules.Rule PacRules.Suffix

/-- Whether a text comes before another: at the first difference it has the lesser character, or
it ends first. -/
def precedes : Text → Text → Bool
  | _, [] => false
  | [], _ :: _ => true
  | a :: s, b :: t => a.toNat < b.toNat || (a = b && precedes s t)

theorem not_precedes_self (s : Text) : precedes s s = false := by
  induction s with
  | nil => rfl
  | cons a s ih => simp [precedes, ih]

theorem precedes_trans {r s t : Text} (h : precedes r s = true) (h' : precedes s t = true) :
    precedes r t = true := by
  induction r generalizing s t with
  | nil =>
    cases t with
    | nil => cases s <;> simp [precedes] at h'
    | cons c t => rfl
  | cons a r ih =>
    cases s with
    | nil => simp [precedes] at h
    | cons b s =>
      cases t with
      | nil => simp [precedes] at h'
      | cons c t =>
        simp only [precedes, Bool.or_eq_true, Bool.and_eq_true, decide_eq_true_eq] at h h' ⊢
        rcases h with h | ⟨rfl, h⟩
        · rcases h' with h' | ⟨rfl, h'⟩
          · exact .inl (by omega)
          · exact .inl h
        · rcases h' with h' | ⟨rfl, h'⟩
          · exact .inl h'
          · exact .inr ⟨rfl, ih h h'⟩

theorem precedes_or_eq_or_precedes (s t : Text) :
    precedes s t = true ∨ s = t ∨ precedes t s = true := by
  induction s generalizing t with
  | nil => cases t <;> simp [precedes]
  | cons a s ih =>
    cases t with
    | nil => simp [precedes]
    | cons b t =>
      simp only [precedes, Bool.or_eq_true, Bool.and_eq_true, decide_eq_true_eq, List.cons.injEq]
      rcases Nat.lt_trichotomy a.toNat b.toNat with h | h | h
      · exact .inl (.inl h)
      · obtain rfl := Char.toNat_inj.1 h
        rcases ih t with h | h | h
        · exact .inl (.inr ⟨rfl, h⟩)
        · exact .inr (.inl ⟨rfl, h⟩)
        · exact .inr (.inr (.inr ⟨rfl, h⟩))
      · exact .inr (.inr (.inl h))

/-- A domain put in its place in an ascending list, unless it is there. -/
def insert (domain : Text) : List Text → List Text
  | [] => [domain]
  | d :: ds =>
    if precedes domain d then domain :: d :: ds
    else if domain = d then d :: ds
    else d :: insert domain ds

/-- The members after an insertion are the old ones and the new one. -/
@[simp] theorem mem_insert {d domain : Text} {ds : List Text} :
    d ∈ insert domain ds ↔ d = domain ∨ d ∈ ds := by
  induction ds with
  | nil => simp [insert]
  | cons a ds ih =>
    rw [insert]
    split
    · simp
    · split
      · next h => simp [h]
      · rw [List.mem_cons, ih, List.mem_cons]
        constructor
        · rintro (h | h | h)
          · exact .inr (.inl h)
          · exact .inl h
          · exact .inr (.inr h)
        · rintro (h | h | h)
          · exact .inr (.inl h)
          · exact .inl h
          · exact .inr (.inr h)

theorem pairwise_insert {domain : Text} {ds : List Text}
    (h : ds.Pairwise fun s t => precedes s t = true) :
    (insert domain ds).Pairwise fun s t => precedes s t = true := by
  induction ds with
  | nil => simp [insert]
  | cons a ds ih =>
    rw [List.pairwise_cons] at h
    rw [insert]
    split
    · next hlt =>
      refine List.pairwise_cons.2 ⟨?_, List.pairwise_cons.2 h⟩
      intro t ht
      rcases List.mem_cons.1 ht with rfl | ht
      · exact hlt
      · exact precedes_trans hlt (h.1 t ht)
    · next hlt =>
      split
      · exact List.pairwise_cons.2 h
      · next hne =>
        refine List.pairwise_cons.2 ⟨?_, ih h.2⟩
        intro t ht
        rcases mem_insert.1 ht with rfl | ht
        · rcases precedes_or_eq_or_precedes t a with h' | h' | h'
          · exact absurd h' hlt
          · exact absurd h' hne
          · exact h'
        · exact h.1 t ht

/-- Two ascending lists of domains. -/
structure RoutedDomains where
  direct : List Text := []
  proxy : List Text := []
  deriving DecidableEq

def RoutedDomains.isEmpty (routed : RoutedDomains) : Bool :=
  routed.direct.isEmpty && routed.proxy.isEmpty

/-- The two lists in the order in which a script reads them. -/
def RoutedDomains.lists (routed : RoutedDomains) : List (List Text) := [routed.direct, routed.proxy]

/-- What a reading of rules has to tell: how many rules there were and how many named no domain,
how many domains either list holds, and how many direct domains gave way to the proxy. -/
structure DomainTally where
  rules : Nat
  unresolved : Nat
  direct : Nat
  proxy : Nat
  overridden : Nat
  deriving DecidableEq

/-- Sources in the course of reading: the domains of either route so far, the number of rules and
the number of those that named none. -/
structure DomainReading where
  direct : List Text := []
  proxy : List Text := []
  rules : Nat := 0
  unresolved : Nat := 0

namespace DomainReading

def read (resolve : Resolver) (r : DomainReading) (line : Text) : DomainReading :=
  match ofLine? resolve line with
  | none => r
  | some (route, domains) =>
    let counted := { r with
      rules := r.rules + 1
      unresolved := if domains.isEmpty then r.unresolved + 1 else r.unresolved }
    match route with
    | .direct => { counted with direct := domains.foldl (fun ds d => insert d ds) r.direct }
    | .proxy => { counted with proxy := domains.foldl (fun ds d => insert d ds) r.proxy }

/-- The reading of the user's lines and then of the list's. -/
def ofLines (resolve : Resolver) (user list : List Text) : DomainReading :=
  list.foldl (read resolve) (user.foldl (read resolve) {})

/-- The two lists of a reading: the proxy keeps what both routes have. -/
def routed (r : DomainReading) : RoutedDomains :=
  { direct := r.direct.filter fun d => !r.proxy.contains d, proxy := r.proxy }

def tally (r : DomainReading) : DomainTally :=
  { rules := r.rules
    unresolved := r.unresolved
    direct := r.routed.direct.length
    proxy := r.routed.proxy.length
    overridden := r.direct.length - r.routed.direct.length }

end DomainReading

def RoutedDomains.ofLines (resolve : Resolver) (user list : List Text) : RoutedDomains :=
  (DomainReading.ofLines resolve user list).routed

end PacRules.Domain
