import PacRules.Json.NestedReader

/-!
# Written lists are read back

What is written for nested lists is read as these lists, in either layout and whatever stands behind
it, if they are not nested too deep. An escape is read as the character that it was written for; a
line break and the spaces behind it stand only where the reader passes over blanks.
-/

namespace PacRules.Json

open PacRules.Text

/-! ### Escapes -/

theorem readHex_twoDigits {n : Nat} (h : n < 32) (t : Text) :
    readHex ('0' :: '0' :: (twoDigits n ++ t)) = .ok (n, t) := by
  have hall : ∀ n < 32, (twoDigits n).length = 2 ∧
      utf8Size ('0' :: '0' :: twoDigits n) = 4 ∧
      ('0' :: '0' :: twoDigits n).all (isDigitOf 16) = true ∧
      ofDigits 16 ('0' :: '0' :: twoDigits n) = n := by
    decide
  obtain ⟨hlength, hsize, hdigits, hvalue⟩ := hall n h
  have hfour : ('0' :: '0' :: twoDigits n).length = 4 := by simp [hlength]
  have htake : (('0' :: '0' :: twoDigits n) ++ t).take 4 = '0' :: '0' :: twoDigits n :=
    List.take_left' hfour
  have hdrop : (('0' :: '0' :: twoDigits n) ++ t).drop 4 = t := List.drop_left' hfour
  rw [← List.cons_append, ← List.cons_append]
  simp only [readHex, htake, hdrop, hsize, hdigits, hvalue]
  rfl

theorem toNat_lt_of_lt_space {c : Char} (h : c < ' ') : c.toNat < 32 :=
  UInt32.lt_iff_toNat_lt.1 h

theorem readEscape_control {c : Char} (h : c < ' ') (t : Text) :
    readEscape ("u00".toList ++ twoDigits c.toNat ++ t) = .ok (c, t) := by
  have hlt := toNat_lt_of_lt_space h
  have hhigh : isHighSurrogate c.toNat = false := by
    simp only [isHighSurrogate, Bool.and_eq_false_iff, decide_eq_false_iff_not]
    omega
  have hlow : isLowSurrogate c.toNat = false := by
    simp only [isLowSurrogate, Bool.and_eq_false_iff, decide_eq_false_iff_not]
    omega
  have hhex := readHex_twoDigits hlt t
  change readEscape ('u' :: '0' :: '0' :: (twoDigits c.toNat ++ t)) = _
  simp only [readEscape, hhex, bind, Except.bind, hhigh, hlow, Char.ofNat_toNat]
  rfl

theorem twoDigits_plain {n : Nat} (h : n < 32) : ∀ d ∈ twoDigits n, d ≠ '"' ∧ d ≠ '\\' := by
  have hall : ∀ n < 32, (twoDigits n).all (fun d => d ≠ '"' && d ≠ '\\') = true := by
    decide
  intro d hd
  simpa using List.all_eq_true.1 (hall n h) d hd

/-- A character is written as it is, or as an escape that is read as this character. -/
theorem escaped_cases (c : Char) :
    (escaped c = [c] ∧ c ≠ '"' ∧ c ≠ '\\' ∧ ¬c < ' ') ∨
      ∃ letter digits, escaped c = '\\' :: letter :: digits ∧
        (∀ d ∈ digits, d ≠ '"' ∧ d ≠ '\\') ∧
        ∀ t, readEscape (letter :: (digits ++ t)) = .ok (c, t) := by
  unfold escaped
  split
  · exact .inr ⟨'"', [], rfl, by simp, fun _ => rfl⟩
  · exact .inr ⟨'\\', [], rfl, by simp, fun _ => rfl⟩
  · exact .inr ⟨'b', [], rfl, by simp, fun _ => rfl⟩
  · exact .inr ⟨'f', [], rfl, by simp, fun _ => rfl⟩
  · exact .inr ⟨'n', [], rfl, by simp, fun _ => rfl⟩
  · exact .inr ⟨'r', [], rfl, by simp, fun _ => rfl⟩
  · exact .inr ⟨'t', [], rfl, by simp, fun _ => rfl⟩
  · next hquote hback _ _ _ _ _ =>
      split
      · next hcontrol =>
          refine .inr ⟨'u', '0' :: '0' :: twoDigits c.toNat, rfl, ?_, readEscape_control hcontrol⟩
          rw [List.forall_mem_cons, List.forall_mem_cons]
          exact ⟨by decide, by decide, twoDigits_plain (toNat_lt_of_lt_space hcontrol)⟩
      · next hcontrol => exact .inl ⟨rfl, hquote, hback, hcontrol⟩

/-! ### Texts -/

/-- One step reads what is written for one character. -/
theorem readTextFrom_escaped (c : Char) (steps : Nat) (backwards t : Text) :
    readTextFrom (steps + 1) backwards (escaped c ++ t) = readTextFrom steps (c :: backwards) t := by
  rcases escaped_cases c with ⟨h, hquote, hback, hcontrol⟩ | ⟨letter, digits, h, -, hread⟩
  · rw [h, List.singleton_append, readTextFrom, if_neg hquote, if_neg hback, if_neg hcontrol]
  · rw [h, List.cons_append, List.cons_append, readTextFrom, if_neg (by decide), if_pos rfl, hread]
    rfl

theorem readTextFrom_append {t : Text} {steps : Nat} (h : t.length < steps)
    (backwards rest : Text) :
    readTextFrom steps backwards (t.flatMap escaped ++ '"' :: rest) =
      .ok (backwards.reverse ++ t, rest) := by
  induction t generalizing steps backwards with
  | nil =>
      match steps with
      | steps + 1 => simp [readTextFrom]
  | cons c t ih =>
      match steps with
      | steps + 1 =>
          rw [List.flatMap_cons, List.append_assoc, readTextFrom_escaped,
            ih (by simpa using h)]
          simp

theorem length_le_flatMap_escaped (t : Text) : t.length ≤ (t.flatMap escaped).length := by
  induction t with
  | nil => simp
  | cons c t ih =>
      have hpos : 0 < (escaped c).length := by
        rcases escaped_cases c with ⟨h, -⟩ | ⟨letter, digits, h, -⟩ <;> simp [h]
      rw [List.flatMap_cons, List.length_append, List.length_cons]
      omega

/-- A text is read back from behind its opening quote. -/
theorem readText_append (t rest : Text) :
    readText (t.flatMap escaped ++ '"' :: rest) = .ok (t, rest) := by
  have hsteps : t.length < (t.flatMap escaped ++ '"' :: rest).length + 1 := by
    have hlength := length_le_flatMap_escaped t
    rw [List.length_append]
    omega
  exact readTextFrom_append hsteps [] rest

/-! ### Blanks -/

theorem skipBlanks_newLine (layout : Layout) (depth : Nat) (t : Text) :
    skipBlanks (layout.newLine depth ++ t) = skipBlanks t := by
  cases layout with
  | compact => rfl
  | indented =>
      refine List.dropWhile_append_of_pos ?_
      intro c hc
      rcases List.mem_cons.1 hc with rfl | hc
      · decide
      · rw [List.eq_of_mem_replicate hc]
        decide

/-- What is written for a value begins with a quote or a bracket. -/
theorem exists_write_cons (layout : Layout) (depth : Nat) (v : Nested) :
    ∃ c t, v.write layout depth = c :: t ∧ (c = '"' ∨ c = '[') := by
  cases v with
  | text t => exact ⟨_, _, rfl, .inl rfl⟩
  | list items => cases items with
    | nil => exact ⟨_, _, rfl, .inr rfl⟩
    | cons item items => exact ⟨_, _, rfl, .inr rfl⟩

theorem skipBlanks_write (layout : Layout) (depth : Nat) (v : Nested) (t : Text) :
    skipBlanks (v.write layout depth ++ t) = v.write layout depth ++ t := by
  obtain ⟨c, rest, hwrite, hc⟩ := exists_write_cons layout depth v
  rw [hwrite, List.cons_append]
  rcases hc with rfl | rfl <;> rfl

theorem toNextItem_first (layout : Layout) (depth : Nat) (v : Nested) (t : Text) :
    toNextItem true (layout.newLine depth ++ (v.write layout depth ++ t)) =
      .ok (true, v.write layout depth ++ t) := by
  rw [toNextItem, skipBlanks_newLine, skipBlanks_write]
  obtain ⟨c, rest, hwrite, hc⟩ := exists_write_cons layout depth v
  rw [hwrite, List.cons_append]
  rcases hc with rfl | rfl <;> rfl

theorem toNextItem_comma (layout : Layout) (depth : Nat) (v : Nested) (t : Text) :
    toNextItem false (',' :: (layout.newLine depth ++ (v.write layout depth ++ t))) =
      .ok (true, v.write layout depth ++ t) := by
  have hskip : skipBlanks (layout.newLine depth ++ (v.write layout depth ++ t)) =
      v.write layout depth ++ t := by
    rw [skipBlanks_newLine, skipBlanks_write]
  obtain ⟨c, rest, hwrite, hc⟩ := exists_write_cons layout depth v
  rw [hwrite, List.cons_append] at hskip ⊢
  have hcomma : ∀ s, skipBlanks (',' :: s) = ',' :: s := fun _ => rfl
  rcases hc with rfl | rfl <;> simp [toNextItem, hcomma, hskip]

theorem toNextItem_close (first : Bool) (layout : Layout) (depth : Nat) (t : Text) :
    toNextItem first (layout.newLine depth ++ ']' :: t) = .ok (false, ']' :: t) := by
  rw [toNextItem, skipBlanks_newLine]
  rfl

/-! ### Lists -/

mutual

/-- How many lists a value is made of, one inside of the other. -/
def Nested.height : Nested → Nat
  | .text _ => 0
  | .list items => Nested.heightOfAll items + 1

def Nested.heightOfAll : List Nested → Nat
  | [] => 0
  | item :: items => max item.height (Nested.heightOfAll items)

end

theorem nestedOfItems_some (items : List Nested) :
    nestedOfItems (items.map some) = some (.list items) := by
  have hall : (items.map some).mapM id = some items := by
    induction items with
    | nil => rfl
    | cons item items ih => simp [List.mapM_cons, ih]
  rw [nestedOfItems, hall]
  rfl

theorem readNestedFrom_text (steps depth : Nat) (t rest : Text) :
    readNestedFrom (steps + 1) depth (quoted t ++ rest) = .ok (some (.text t), rest) := by
  have hquoted : quoted t ++ rest = '"' :: (t.flatMap escaped ++ '"' :: rest) := by simp [quoted]
  have hskip : ∀ s, skipBlanks ('"' :: s) = '"' :: s := fun _ => rfl
  simp only [readNestedFrom, hquoted, hskip, readText_append]
  rfl

theorem readNestedFrom_bracket {depth : Nat} (hdepth : 1 < depth) (steps : Nat) (t : Text) :
    readNestedFrom (steps + 1) depth ('[' :: t) =
      (readItemsFrom steps (depth - 1) true t).map
        fun (items, t) => (nestedOfItems items, t.drop 1) := by
  have hskip : ∀ s, skipBlanks ('[' :: s) = '[' :: s := fun _ => rfl
  simp only [readNestedFrom, hskip, if_neg (Nat.not_le.2 hdepth)]
  cases readItemsFrom steps (depth - 1) true t <;> rfl

/-- An item and those behind it, from the place where the item begins. -/
theorem readItemsFrom_cons {steps depth : Nat} {first : Bool} {t s rest u : Text} {v : Nested}
    {items : List (Option Nested)} (hnext : toNextItem first t = .ok (true, s))
    (hitem : readNestedFrom steps depth s = .ok (some v, rest))
    (hitems : readItemsFrom steps depth false rest = .ok (items, u)) :
    readItemsFrom (steps + 1) depth first t = .ok (some v :: items, u) := by
  simp only [readItemsFrom, hnext, bind, Except.bind, if_true, hitem, hitems]
  rfl

theorem readItemsFrom_close {first : Bool} {t s : Text} (steps depth : Nat)
    (hnext : toNextItem first t = .ok (false, s)) :
    readItemsFrom (steps + 1) depth first t = .ok ([], s) := by
  simp only [readItemsFrom, hnext, bind, Except.bind]
  rfl

theorem write_cons_append (layout : Layout) (depth : Nat) (item : Nested) (items : List Nested)
    (rest : Text) :
    (Nested.list (item :: items)).write layout depth ++ rest =
      '[' :: (layout.newLine (depth + 1) ++ (item.write layout (depth + 1) ++
        (Nested.writeRest layout (depth + 1) items ++ (layout.newLine depth ++ ']' :: rest)))) := by
  simp [Nested.write]

theorem writeRest_cons_append (layout : Layout) (depth : Nat) (item : Nested)
    (items : List Nested) (rest : Text) :
    Nested.writeRest layout depth (item :: items) ++ rest =
      ',' :: (layout.newLine depth ++ (item.write layout depth ++
        (Nested.writeRest layout depth items ++ rest))) := by
  simp [Nested.writeRest]

mutual

/-- A value is read back, whatever stands behind it. Every character of it pays for two steps. -/
theorem readNestedFrom_write (layout : Layout) :
    ∀ (v : Nested) (depth steps limit : Nat) (rest : Text), v.height < limit →
      2 * (v.write layout depth).length ≤ steps →
      readNestedFrom steps limit (v.write layout depth ++ rest) = .ok (some v, rest)
  | .text t, depth, steps, limit, rest, _, hsteps => by
      match steps with
      | 0 => simp [Nested.write, quoted] at hsteps
      | steps + 1 => exact readNestedFrom_text steps limit t rest
  | .list [], depth, steps, limit, rest, hlimit, hsteps => by
      simp only [Nested.height, Nested.heightOfAll] at hlimit
      match steps with
      | 0 => simp [Nested.write] at hsteps
      | 1 => simp [Nested.write] at hsteps
      | steps + 2 =>
          have hclose := readItemsFrom_close steps (limit - 1)
            (toNextItem_close true .compact 0 rest)
          change readNestedFrom (steps + 2) limit ('[' :: ']' :: rest) = _
          rw [readNestedFrom_bracket hlimit]
          exact congrArg (Except.map _) hclose
  | .list (item :: items), depth, steps, limit, rest, hlimit, hsteps => by
      simp only [Nested.height, Nested.heightOfAll] at hlimit
      simp only [Nested.write, List.length_append, List.length_singleton] at hsteps
      match steps with
      | 0 => omega
      | 1 => omega
      | steps + 2 =>
          have hitem := readNestedFrom_write layout item (depth + 1) steps (limit - 1)
            (Nested.writeRest layout (depth + 1) items ++ (layout.newLine depth ++ ']' :: rest))
            (by omega) (by omega)
          have hitems := readItemsFrom_writeRest layout items (depth + 1) depth steps (limit - 1)
            rest (by omega) (by omega)
          have hall := readItemsFrom_cons
            (toNextItem_first layout (depth + 1) item _) hitem hitems
          rw [write_cons_append, readNestedFrom_bracket (by omega), hall]
          exact congrArg (fun v => Except.ok (v, rest)) (nestedOfItems_some (item :: items))

/-- The items behind the first of a list are read back up to the bracket that closes it. -/
theorem readItemsFrom_writeRest (layout : Layout) :
    ∀ (items : List Nested) (depth close steps limit : Nat) (rest : Text),
      Nested.heightOfAll items < limit →
      2 * (Nested.writeRest layout depth items).length + 1 ≤ steps →
      readItemsFrom steps limit false
          (Nested.writeRest layout depth items ++ (layout.newLine close ++ ']' :: rest)) =
        .ok (items.map some, ']' :: rest)
  | [], depth, close, steps, limit, rest, _, hsteps => by
      match steps with
      | 0 => omega
      | steps + 1 => exact readItemsFrom_close steps limit (toNextItem_close false layout close rest)
  | item :: items, depth, close, steps, limit, rest, hlimit, hsteps => by
      simp only [Nested.heightOfAll] at hlimit
      simp only [Nested.writeRest, List.length_append, List.length_singleton] at hsteps
      match steps with
      | 0 => omega
      | steps + 1 =>
          have hitem := readNestedFrom_write layout item depth steps limit
            (Nested.writeRest layout depth items ++ (layout.newLine close ++ ']' :: rest))
            (by omega) (by omega)
          have hitems := readItemsFrom_writeRest layout items depth close steps limit rest
            (by omega) (by omega)
          rw [writeRest_cons_append]
          exact readItemsFrom_cons (toNextItem_comma layout depth item _) hitem hitems

end

/-- A value that is not nested too deep is read back from its whole text. -/
theorem readNested_write (layout : Layout) {v : Nested} (h : v.height < depthLimit) :
    readNested (v.write layout 0) = .ok (some v, []) := by
  have hread := readNestedFrom_write layout v 0 (2 * (v.write layout 0).length + 2) depthLimit []
    h (by omega)
  rwa [List.append_nil] at hread

end PacRules.Json
