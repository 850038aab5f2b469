import PacRules.Text.Base64
import PacRules.Text.Units

/-!
# Opening the envelope

What the script of the envelope makes of the Base64 text that it holds, before it evaluates the
result. It knows nothing of octets or texts: it passes over all that is no symbol, turns groups
of four symbols into numbers, and puts code units together from the numbers by the patterns of
their high bits. A symbol or a number that is missing at the end counts as zero.

These definitions are a reading of the two functions that stand in `Template.envelope`: `numbers`
follows the loop of `decode64`, and `unitsFrom` that of `utf8`. The text of the template is not
evaluated here as the scripts for rule tables are, so that it says the same as the reading is seen
by comparing the two.
-/

namespace PacRules.Script.Envelope

open PacRules.Text

def keys : Text := Base64.alphabet ++ ['=']

/-- The place of a character among the symbols. That of the equals sign is 64. -/
def place (c : Char) : Nat := keys.idxOf c

/-- The numbers of a group of four places. An equals sign in the third or fourth makes none. -/
def group (a b c d : Nat) : List Nat :=
  [a <<< 2 ||| b >>> 4] ++ (if c = 64 then [] else [(b &&& 15) <<< 4 ||| c >>> 2]) ++
    (if d = 64 then [] else [(c &&& 3) <<< 6 ||| d])

def numbers : List Nat → List Nat
  | [] => []
  | [a] => group a 0 0 0
  | [a, b] => group a b 0 0
  | [a, b, c] => group a b c 0
  | a :: b :: c :: d :: rest => group a b c d ++ numbers rest

/-- The units of a surrogate pair for a number. One of the basic plane, for which no pair is meant,
is negative behind the subtraction and keeps its sign in the shift. -/
def pair (n : Nat) : List Nat :=
  let above : Int := n - 0x10000
  [(0xd800 + above / 0x400).toNat, (0xdc00 + above % 0x400).toNat]

def unitsFrom (numbers : List Nat) : List Nat :=
  match numbers with
  | [] => []
  | n :: rest =>
    let next (i : Nat) : Nat := rest.getD i 0 &&& 63
    if n < 128 then n :: unitsFrom rest
    else if 191 < n ∧ n < 224 then ((n &&& 31) <<< 6 ||| next 0) :: unitsFrom (rest.drop 1)
    else if 239 < n then
      pair ((n &&& 7) <<< 18 ||| next 0 <<< 12 ||| next 1 <<< 6 ||| next 2) ++
        unitsFrom (rest.drop 3)
    else ((n &&& 15) <<< 12 ||| next 0 <<< 6 ||| next 1) :: unitsFrom (rest.drop 2)
termination_by numbers.length
decreasing_by all_goals simp only [List.length_cons, List.length_drop]; omega

/-- The code units of the script that the envelope evaluates. -/
def opened (payload : Text) : List Nat :=
  unitsFrom (numbers ((payload.filter (List.contains keys)).map place))

@[simp] theorem unitsFrom_nil : unitsFrom [] = [] := by
  rw [unitsFrom]

@[simp] theorem opened_nil : opened [] = [] := by
  simp [opened, numbers]

end PacRules.Script.Envelope
