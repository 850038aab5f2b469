import PacRules.Host.Bidi.Table

/-!
# The bidirectional rule for labels

In a name with a right-to-left character every label has one direction, which its first
character sets: a right-to-left label holds no left-to-right letter and not both kinds of
numbers, a left-to-right label holds neither right-to-left letters nor Arabic numbers, and
either ends, nonspacing marks aside, in a letter or number of its own.
-/

namespace PacRules.Host

open PacRules.Text

/-- The bidirectional classes that may occur in a name. -/
inductive BidiClass where
  | leftToRight
  | rightToLeft
  | arabicLetter
  | arabicNumber
  | europeanNumber
  | europeanSeparator
  | commonSeparator
  | europeanTerminator
  | otherNeutral
  | boundaryNeutral
  | nonspacingMark
  deriving DecidableEq

namespace BidiClass

def tables : List (BidiClass × List Span) :=
  [(.rightToLeft, Span.ofTable rightToLeftTable),
   (.arabicLetter, Span.ofTable arabicLetterTable),
   (.arabicNumber, Span.ofTable arabicNumberTable),
   (.europeanNumber, Span.ofTable europeanNumberTable),
   (.europeanSeparator, Span.ofTable europeanSeparatorTable),
   (.commonSeparator, Span.ofTable commonSeparatorTable),
   (.europeanTerminator, Span.ofTable europeanTerminatorTable),
   (.otherNeutral, Span.ofTable otherNeutralTable),
   (.boundaryNeutral, Span.ofTable boundaryNeutralTable),
   (.nonspacingMark, Span.ofTable nonspacingMarkTable)]

def ofChar (c : Char) : BidiClass :=
  match tables.find? fun entry => inSpans entry.2 c with
  | some entry => entry.1
  | none => .leftToRight

def isRightToLeft : BidiClass → Bool
  | .rightToLeft | .arabicLetter | .arabicNumber => true
  | _ => false

/-- The classes that may stand in a label of either direction. -/
def isNeutral : BidiClass → Bool
  | .europeanNumber | .europeanSeparator | .commonSeparator | .europeanTerminator
  | .otherNeutral | .boundaryNeutral | .nonspacingMark => true
  | _ => false

end BidiClass

/-- The rule for a label of the classes `rest` after a first left-to-right letter. -/
def leftToRightLabel (rest : List BidiClass) : Bool :=
  rest.all (fun b => b = .leftToRight || b.isNeutral) &&
    match (rest.reverse.dropWhile (· = .nonspacingMark)).head? with
    | some last => last = .leftToRight || last = .europeanNumber
    | none => true

/-- The rule for a label of the classes `rest` after a first right-to-left letter. -/
def rightToLeftLabel (rest : List BidiClass) : Bool :=
  rest.all (fun b => b.isRightToLeft || b.isNeutral) &&
    !(rest.contains .europeanNumber && rest.contains .arabicNumber) &&
    match (rest.reverse.dropWhile (· = .nonspacingMark)).head? with
    | some last => last.isRightToLeft || last = .europeanNumber
    | none => true

/-- Whether a label of a name with a right-to-left character keeps the rule. -/
def bidiAllowed (label : Text) : Bool :=
  match label.map BidiClass.ofChar with
  | [] => true
  | .leftToRight :: rest => leftToRightLabel rest
  | .rightToLeft :: rest => rightToLeftLabel rest
  | .arabicLetter :: rest => rightToLeftLabel rest
  | _ :: _ => false

def hasRightToLeft (label : Text) : Bool := label.any fun c => (BidiClass.ofChar c).isRightToLeft

end PacRules.Host
