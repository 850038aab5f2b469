import Mathlib.Data.List.Chain
import PacRules.Proofs.Script.Slots

/-!
# The comment at the head of a script

A script is its template with the six values in the places of the names, whatever they are. The
comment at its head ends where that of the template ends: a value of the comment has no end mark of
its own, since one that is taken apart leaves none behind, and none comes about at the edge of a
value, since no piece of the template begins with a slash or ends with an asterisk. The line breaks
of the comment are those of the template and of the version.
-/

namespace PacRules.Script

open PacRules.Text PacRules.Json

variable {pieces values : List Text}

/-- The names of a script's slots in the order in which they stand in all templates. -/
def slotNames : List Text :=
  ["__VERSION__".toList, "__GENERATED__".toList, "__MODIFIED__".toList, "__GFWLIST_FROM__".toList,
    "__PROXY__".toList, "__RULES__".toList]

/-- The mark at which a comment ends. -/
def endMark : Text := ['*', '/']

/-- The pieces of the comment at the head of a script, up to its end mark. -/
def commentPieces (mode : Mode) : List Text :=
  ["/**\n * genpac ".toList,
    (if mode = .precise then " (precise)".toList else []) ++ "\n * Generated: ".toList,
    "\n * GFWList Last-Modified: ".toList, "\n * GFWList From: ".toList, "\n ".toList]

/-- The comment at the head of a script with its four values, up to its end mark. -/
def headComment (mode : Mode) (values : List Text) : Text :=
  interleaved (commentPieces mode) values

/-- The values in the comment of a script. -/
def commentValues (header : Header) : List Text :=
  [header.version, inComment header.generated, inComment header.modified,
    inComment header.source]

def lineBreaks (t : Text) : Text := t.filter fun c => c = '\r' || c = '\n'

/-! ### Texts without an end mark -/

/-- No asterisk has a slash behind it. -/
def HasNoEnd (t : Text) : Prop := t.IsChain fun c d => ¬(c = '*' ∧ d = '/')

instance (t : Text) : Decidable (HasNoEnd t) :=
  inferInstanceAs (Decidable (t.IsChain fun c d => ¬(c = '*' ∧ d = '/')))

theorem hasNoEnd_cons_iff {c : Char} {t : Text} :
    HasNoEnd (c :: t) ↔ ¬(c = '*' ∧ t.head? = some '/') ∧ HasNoEnd t := by
  rw [HasNoEnd, List.isChain_cons]
  refine and_congr_left fun _ => ?_
  cases t <;> simp

theorem isPrefixOf?_endMark_eq_none {c : Char} {t : Text} (h : ¬(c = '*' ∧ t.head? = some '/')) :
    List.isPrefixOf? endMark (c :: t) = none := by
  rw [isPrefixOf?_eq_none_iff]
  rintro ⟨rest, hrest⟩
  obtain ⟨rfl, rfl⟩ := List.cons.inj hrest
  exact h ⟨rfl, rfl⟩

/-- The first end mark is found behind a text without any. -/
theorem cut?_append_endMark {front : Text} (h : HasNoEnd front) (rest : Text) :
    cut? endMark (front ++ (endMark ++ rest)) = some (front, rest) := by
  induction front with
  | nil => rfl
  | cons c front ih =>
      obtain ⟨hhead, hfront⟩ := hasNoEnd_cons_iff.1 h
      have hnext : ¬(c = '*' ∧ (front ++ (endMark ++ rest)).head? = some '/') := by
        cases front with
        | nil => simp [endMark]
        | cons d front => exact hhead
      rw [List.cons_append, cut?, isPrefixOf?_endMark_eq_none hnext, ih hfront]
      rfl

theorem hasNoEnd_of_contains_eq_false {t : Text} (h : contains endMark t = false) :
    HasNoEnd t := by
  induction t with
  | nil => exact .nil
  | cons c t ih =>
      rw [contains, cut?] at h
      by_cases hhead : c = '*' ∧ t.head? = some '/'
      · obtain ⟨rfl, hhead⟩ := hhead
        obtain ⟨rest, rfl⟩ := List.head?_eq_some_iff.1 hhead
        simp [endMark, List.isPrefixOf?] at h
      · rw [isPrefixOf?_endMark_eq_none hhead] at h
        refine hasNoEnd_cons_iff.2 ⟨hhead, ih ?_⟩
        simpa [contains] using h

/-! ### Values in the comment -/

/-- A text whose end marks are taken apart has none, and begins as before. -/
theorem hasNoEnd_replace (t : Text) :
    HasNoEnd (replace endMark ['*', ' ', '/'] t) ∧
      (replace endMark ['*', ' ', '/'] t).head? = t.head? := by
  match t with
  | [] => exact ⟨.nil, rfl⟩
  | c :: t =>
      by_cases h : c = '*' ∧ t.head? = some '/'
      · obtain ⟨rfl, hhead⟩ := h
        obtain ⟨rest, rfl⟩ := List.head?_eq_some_iff.1 hhead
        have ih := hasNoEnd_replace rest
        have hreplaced : replace endMark ['*', ' ', '/'] ('*' :: '/' :: rest) =
            '*' :: ' ' :: '/' :: replace endMark ['*', ' ', '/'] rest :=
          replace_append_self '*' ['/'] ['*', ' ', '/'] rest
        rw [hreplaced]
        simp [hasNoEnd_cons_iff, ih.1]
      · have ih := hasNoEnd_replace t
        have hmatch : literal endMark ['*', ' ', '/'] (c :: t) = none := by
          rw [literal, ← List.isSome_isPrefixOf?_eq_isPrefixOf, isPrefixOf?_endMark_eq_none h]
          rfl
        have hreplaced : replace endMark ['*', ' ', '/'] (c :: t) =
            c :: replace endMark ['*', ' ', '/'] t := substitute_cons_of_eq_none hmatch
        rw [hreplaced, hasNoEnd_cons_iff, ih.2]
        exact ⟨⟨h, ih.1⟩, rfl⟩
termination_by t.length

theorem hasNoEnd_inComment (value : Text) : HasNoEnd (inComment value) := by
  refine List.isChain_map_of_isChain _ ?_ (hasNoEnd_replace value).1
  rintro c d h ⟨hc, hd⟩
  refine h ⟨?_, ?_⟩
  · split at hc
    · cases hc
    · exact hc
  · split at hd
    · cases hd
    · exact hd

theorem lineBreaks_inComment (value : Text) : lineBreaks (inComment value) = [] := by
  refine List.filter_eq_nil_iff.2 ?_
  intro c hc
  obtain ⟨d, -, rfl⟩ := List.mem_map.1 hc
  split <;> simp_all

theorem lineFeed_not_mem_inComment (value : Text) : '\n' ∉ inComment value := by
  intro hmem
  have hnone := List.filter_eq_nil_iff.1 (lineBreaks_inComment value) '\n' hmem
  simp at hnone

/-! ### Pieces and values together -/

/-- The text of a template between values: none of its edges makes an end mark with a value. -/
structure IsBorder (piece : Text) : Prop where
  hasNoEnd : HasNoEnd piece
  ne_nil : piece ≠ []
  head? : piece.head? ≠ some '/'
  getLast? : piece.getLast? ≠ some '*'

theorem HasNoEnd.append {s t : Text} (hs : HasNoEnd s) (ht : HasNoEnd t)
    (h : s.getLast? ≠ some '*' ∨ t.head? ≠ some '/') : HasNoEnd (s ++ t) := by
  refine List.IsChain.append hs ht ?_
  rintro c hc d hd ⟨rfl, rfl⟩
  exact h.elim (fun h => h hc) fun h => h hd

/-- No end mark comes about where values are put between borders. -/
theorem hasNoEnd_interleaved (hlength : pieces.length = values.length + 1)
    (hpieces : ∀ piece ∈ pieces, IsBorder piece) (hvalues : ∀ value ∈ values, HasNoEnd value) :
    HasNoEnd (interleaved pieces values) ∧ (interleaved pieces values).head? ≠ some '/' := by
  induction values generalizing pieces with
  | nil =>
      obtain ⟨piece, rfl⟩ := List.length_eq_one_iff.1 hlength
      have hpiece := hpieces piece List.mem_cons_self
      simpa [interleaved] using And.intro hpiece.hasNoEnd hpiece.head?
  | cons value values ih =>
      obtain ⟨piece, later, rfl⟩ := List.exists_cons_of_length_eq_add_one hlength
      rw [List.forall_mem_cons] at hpieces hvalues
      obtain ⟨hrest, hhead⟩ := ih (by simpa using hlength) hpieces.2 hvalues.2
      have hvalue := hvalues.1.append hrest (.inr hhead)
      have hpiece := hpieces.1
      rw [interleaved]
      refine ⟨hpiece.hasNoEnd.append hvalue (.inl hpiece.getLast?), ?_⟩
      rw [List.head?_append_of_ne_nil piece hpiece.ne_nil]
      exact hpiece.head?

theorem lineBreaks_interleaved (pieces values : List Text) :
    lineBreaks (interleaved pieces values) =
      interleaved (pieces.map lineBreaks) (values.map lineBreaks) := by
  induction pieces generalizing values with
  | nil => rfl
  | cons piece pieces ih =>
      cases values with
      | nil => exact List.filter_flatten
      | cons value values =>
          simp only [interleaved, List.map_cons, ← ih, lineBreaks, List.filter_append]

/-- Where a piece is cut, the text before the cut depends on the values before it only. -/
theorem exists_interleaved_eq {fronts values : List Text} (h : fronts.length = values.length)
    (front mark behind value : Text) (pieces later : List Text) :
    ∃ rest, interleaved (fronts ++ (front ++ (mark ++ behind)) :: pieces)
        (values ++ value :: later) =
      interleaved (fronts ++ [front]) values ++ (mark ++ rest) := by
  have hshort := interleaved_append h [front] []
  rw [List.append_nil] at hshort
  rw [interleaved_append h, hshort]
  exact ⟨behind ++ (value ++ interleaved pieces later), by simp [interleaved]⟩

/-! ### The templates -/

theorem isBorder_commentPieces (mode : Mode) :
    ∀ piece ∈ (commentPieces mode).tail, IsBorder piece := by
  have hall : (commentPieces mode).tail.all (fun piece => HasNoEnd piece && piece ≠ [] &&
      piece.head? ≠ some '/' && piece.getLast? ≠ some '*') = true := by
    cases mode <;> decide +kernel
  intro piece hpiece
  have hborder := List.all_eq_true.1 hall piece hpiece
  simp only [Bool.and_eq_true, decide_eq_true_eq] at hborder
  obtain ⟨⟨⟨hno, hne⟩, hhead⟩, hlast⟩ := hborder
  exact ⟨hno, hne, hhead, hlast⟩

/-- The comment has no end mark of its own where its values have none. -/
theorem hasNoEnd_headComment (mode : Mode) {values : List Text} (hlength : values.length = 4)
    (hvalues : ∀ value ∈ values, HasNoEnd value) : HasNoEnd (headComment mode values) := by
  match values with
  | version :: others =>
      rw [List.forall_mem_cons] at hvalues
      have hlater : (commentPieces mode).tail.length = others.length + 1 := hlength.symm
      obtain ⟨hothers, hhead⟩ :=
        hasNoEnd_interleaved hlater (isBorder_commentPieces mode) hvalues.2
      have hopening : HasNoEnd "/**\n * genpac ".toList := by decide
      exact hopening.append (hvalues.1.append hothers (.inr hhead)) (.inl (by decide))

theorem lineBreaks_headComment (mode : Mode) (header : Header) :
    lineBreaks (headComment mode (commentValues header)) =
      '\n' :: (lineBreaks header.version ++ List.replicate 4 '\n') := by
  have hpieces : (commentPieces mode).map lineBreaks = List.replicate 5 ['\n'] := by
    cases mode <;> decide
  rw [headComment, lineBreaks_interleaved, hpieces]
  simp [commentValues, lineBreaks_inComment, interleaved, List.replicate]

/-- Whether a template has the six names in their order and no other underscore, the first four
of them in the comment of the mode and none of the others before its end. -/
def hasParts (mode : Mode) (template : Text) : Bool :=
  let found := piecesBetween slotNames template
  found.length = 7 && found.all (fun piece => !List.contains piece '_') &&
    found.take 4 = (commentPieces mode).take 4 &&
    (found.drop 4).head?.map (List.take 4) = some "\n */".toList

theorem hasParts_templateFor (mode : Mode) (compress : Bool) :
    hasParts mode (templateFor mode compress).toList = true := by
  match mode, compress with
  | .standard, false =>
      rw [templateFor, Template.full, String.toList_ofList]
      decide +kernel
  | .standard, true =>
      rw [templateFor, Template.short, String.toList_ofList]
      decide +kernel
  | .precise, _ =>
      rw [templateFor, Template.domains, String.toList_ofList]
      decide +kernel

/-- The pieces of a template: those of the comment, the last of them with the end mark behind it,
and two more. -/
theorem exists_isMadeOf_template (mode : Mode) (compress : Bool) :
    ∃ behind later, IsMadeOf (templateFor mode compress).toList
      ((commentPieces mode).take 4 ++ ("\n ".toList ++ (endMark ++ behind)) :: later) slotNames := by
  have hparts := hasParts_templateFor mode compress
  simp only [hasParts, Bool.and_eq_true, decide_eq_true_eq] at hparts
  obtain ⟨⟨⟨hlength, hplain⟩, hfronts⟩, hclosing⟩ := hparts
  have hmade := isMadeOf_piecesBetween hlength hplain
  generalize piecesBetween slotNames (templateFor mode compress).toList = found at *
  obtain ⟨piece, hpiece, htake⟩ := Option.map_eq_some_iff.1 hclosing
  obtain ⟨later, hlater⟩ := List.head?_eq_some_iff.1 hpiece
  have hsplit : found = (commentPieces mode).take 4 ++
      ("\n ".toList ++ (endMark ++ piece.drop 4)) :: later := by
    have hend : "\n ".toList ++ (endMark ++ piece.drop 4) = piece.take 4 ++ piece.drop 4 := by
      rw [htake]
      rfl
    rw [hend, List.take_append_drop, ← hlater, ← hfronts, List.take_append_drop]
  exact ⟨piece.drop 4, later, hsplit ▸ hmade⟩

theorem areDistinct_slotNames : AreDistinct slotNames where
  head? := by decide
  pairwise := by decide

/-- The lines of a script, of which the two that tell when the script was made and where its feed
came from stand between the others, whatever they tell. -/
theorem exists_lines_render (rules : ScriptRules) (version modified proxy : Text)
    (compress : Bool) :
    ∃ changed behind, ∀ generated source,
      List.splitOn '\n'
          (render rules { version, generated, modified, source, proxy } { compress } ++ ['\n']) =
        List.splitOn '\n' ("/**\n * genpac ".toList ++ (version ++
            if rules.mode = .precise then " (precise)".toList else [])) ++
          (" * Generated: ".toList ++ inComment generated) :: changed ::
            (" * GFWList From: ".toList ++ inComment source) :: behind := by
  obtain ⟨behind, later, hmade⟩ := exists_isMadeOf_template rules.mode compress
  have hline : ∀ label value, '\n' ∉ label →
      List.splitOn '\n' (label ++ inComment value) = [label ++ inComment value] := by
    intro label value hlabel
    refine List.splitOn_eq_singleton ?_
    simpa [hlabel] using lineFeed_not_mem_inComment value
  refine ⟨" * GFWList Last-Modified: ".toList ++ inComment modified,
    List.splitOn '\n' (" ".toList ++ (endMark ++ (behind ++ (quoted proxy ++
      (interleaved later [rules.json compress] ++ ['\n']))))), ?_⟩
  intro generated source
  have hfilled : render rules { version, generated, modified, source, proxy } { compress } =
      interleaved ((commentPieces rules.mode).take 4 ++
        ("\n ".toList ++ (endMark ++ behind)) :: later)
        [version, inComment generated, inComment modified, inComment source, quoted proxy,
          rules.json compress] :=
    fillSlots_eq hmade (forall₂_slots (scriptSlots rules
      { version, generated, modified, source, proxy } compress)) areDistinct_slotNames
  have hlaid : render rules { version, generated, modified, source, proxy } { compress } ++
        ['\n'] =
      ("/**\n * genpac ".toList ++ (version ++
          if rules.mode = .precise then " (precise)".toList else [])) ++ '\n' ::
        ((" * Generated: ".toList ++ inComment generated) ++ '\n' ::
          ((" * GFWList Last-Modified: ".toList ++ inComment modified) ++ '\n' ::
            ((" * GFWList From: ".toList ++ inComment source) ++ '\n' ::
              (" ".toList ++ (endMark ++ (behind ++ (quoted proxy ++
                (interleaved later [rules.json compress] ++ ['\n'])))))))) := by
    rw [hfilled]
    simp only [commentPieces, List.take, interleaved, List.cons_append, List.append_assoc,
      List.nil_append]
    rfl
  rw [hlaid, List.splitOn_append_cons_self, List.splitOn_append_cons_self,
    List.splitOn_append_cons_self, List.splitOn_append_cons_self, hline _ _ (by decide),
    hline _ _ (by decide), hline _ _ (by decide)]
  rfl

/-- A script is its template with the values in the places of the names: each name stands once, and
no value is looked at again. The first end mark of the script is that of the template's comment if
the version holds none, and the line breaks in front of it are those of the template and of the
version, whatever the other values are. -/
theorem render_fills_slots (mode : Mode) (compress : Bool) :
    ∃ pieces, IsMadeOf (templateFor mode compress).toList pieces slotNames ∧
      (∃ rest, cut? endMark (templateFor mode compress).toList =
        some (headComment mode (slotNames.take 4), rest)) ∧
      ∀ rules header, rules.mode = mode →
        render rules header { compress } =
          interleaved pieces (commentValues header ++ [quoted header.proxy, rules.json compress]) ∧
        (contains endMark header.version = false →
          ∃ rest, cut? endMark (render rules header { compress }) =
            some (headComment mode (commentValues header), rest)) ∧
        lineBreaks (headComment mode (commentValues header)) =
          '\n' :: (lineBreaks header.version ++ List.replicate 4 '\n') := by
  obtain ⟨behind, later, hmade⟩ := exists_isMadeOf_template mode compress
  have hcut : ∀ four value more, four.length = 4 → (∀ v ∈ four, HasNoEnd v) →
      ∃ rest, cut? endMark (interleaved
          ((commentPieces mode).take 4 ++ ("\n ".toList ++ (endMark ++ behind)) :: later)
          (four ++ value :: more)) = some (headComment mode four, rest) := by
    intro four value more hfour hno
    have hlength : ((commentPieces mode).take 4).length = four.length := hfour.symm
    obtain ⟨rest, hrest⟩ :=
      exists_interleaved_eq hlength "\n ".toList endMark behind value later more
    rw [hrest]
    exact ⟨rest, cut?_append_endMark (hasNoEnd_headComment mode hfour hno) rest⟩
  refine ⟨_, hmade, ?_, ?_⟩
  · obtain ⟨rest, hrest⟩ := hcut (slotNames.take 4) "__PROXY__".toList ["__RULES__".toList] rfl
      (by decide)
    exact ⟨rest, hmade.eq ▸ hrest⟩
  · rintro rules header rfl
    have hrender : render rules header { compress } = interleaved
        ((commentPieces rules.mode).take 4 ++ ("\n ".toList ++ (endMark ++ behind)) :: later)
        (commentValues header ++ [quoted header.proxy, rules.json compress]) :=
      fillSlots_eq hmade (forall₂_slots (scriptSlots rules header compress)) areDistinct_slotNames
    refine ⟨hrender, ?_, lineBreaks_headComment rules.mode header⟩
    intro hversion
    rw [hrender]
    refine hcut (commentValues header) (quoted header.proxy) [rules.json compress] rfl ?_
    simp only [commentValues, List.forall_mem_cons]
    exact ⟨hasNoEnd_of_contains_eq_false hversion, hasNoEnd_inComment _, hasNoEnd_inComment _,
      hasNoEnd_inComment _, by simp⟩

/-- A list that claims to have been changed at a time that would end the comment, from an address
with the name of a slot. -/
theorem render_fills_slots_hostile :
    ∃ rest, cut? endMark (render (.precise {})
        { version := "0.3.0".toList, generated := "now".toList,
          modified := "**/\r\nalert(1)/*".toList, source := "__RULES__".toList,
          proxy := "*/".toList } {}) =
      some (("/**\n * genpac 0.3.0 (precise)\n * Generated: now\n" ++
        " * GFWList Last-Modified: ** /  alert(1)/*\n * GFWList From: __RULES__\n ").toList,
        rest) := by
  obtain ⟨pieces, -, -, hrender⟩ := render_fills_slots .precise false
  have hcut := (hrender (.precise {})
    { version := "0.3.0".toList, generated := "now".toList,
      modified := "**/\r\nalert(1)/*".toList, source := "__RULES__".toList,
      proxy := "*/".toList } rfl).2.1 (by decide)
  obtain ⟨rest, hrest⟩ := hcut
  have hgenerated : inComment "now".toList = "now".toList := by decide
  have hmodified : inComment "**/\r\nalert(1)/*".toList = "** /  alert(1)/*".toList := by decide
  have hsource : inComment "__RULES__".toList = "__RULES__".toList := by decide
  refine ⟨rest, hrest.trans (congrArg (fun head => some (head, rest)) ?_)⟩
  simp only [commentValues, hgenerated, hmodified, hsource]
  simp [headComment, commentPieces, interleaved]

end PacRules.Script
