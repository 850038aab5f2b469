import PacRules.Script.Syntax

/-!
# The programs for rule tables

The scripts for rule tables as programs. Both go through the tables in a function that a browser
calls with an address and its host, and ask a table's lists in another one. The slots for the proxy
and the rules are names like any other. The full program and the short one were written apart:
they differ in how a table is asked, in how a value is told that is not there, and in their
blocks.
-/

namespace PacRules.Script

/-- Whether one of two lists of a table matches an address: the regular expressions at place `i`, or
the globs at place `j`. -/
def hasMatch (regexps wildcards address table : String) (i j : Nat) : Expr :=
  .either (.call regexps (.name address) (.item (.name table) (.number i)))
    (.call wildcards (.name address) (.item (.name table) (.number j)))

namespace FullProgram

/-- The answer of the first table that has one. -/
def findProxy : Function where
  name := "FindProxyForURL"
  first := "url"
  second := "host"
  body :=
    .seq
      (.eachPlace "i" (.name "rules") (.block (.seq
        (.declare "ret" (.call "testURL" (.name "url") (.item (.name "rules") (.name "i"))))
        (.provided (.differs (.name "ret") (.name "undefined"))
          (.block (.answer (.name "ret")))))))
      (.answer (.text "DIRECT".toList))

/-- The answer of a table. -/
def askTable : Function where
  name := "testURL"
  first := "url"
  second := "pack"
  body :=
    let oneOf := hasMatch "anyRegExp" "anyWildcard" "url" "pack"
    .seq (.provided (oneOf 0 1) (.block (.answer (.text "DIRECT".toList))))
      (.seq (.provided (oneOf 2 3) (.block (.answer (.name "proxy"))))
        (.answer (.name "undefined")))

/-- Whether a function holds of an address and one of the patterns of a list. -/
def askList (name test : String) : Function where
  name
  first := "url"
  second := "patterns"
  body :=
    .seq
      (.eachPlace "i" (.name "patterns") (.block
        (.provided (.call test (.name "url") (.item (.name "patterns") (.name "i")))
          (.block (.answer (.boolean true))))))
      (.answer (.boolean false))

/-- Whether a regular expression matches, which one does not that cannot be compiled. -/
def askRegexp : Function where
  name := "regExpMatch"
  first := "url"
  second := "pattern"
  body :=
    .attempt (.answer (.isMatch (.name "pattern") (.name "url"))) "ex" (.answer (.boolean false))

def program : Program where
  declarations := [[("proxy", .name "__PROXY__")], [("rules", .name "__RULES__")]]
  functions :=
    [findProxy, askTable, askList "anyRegExp" "regExpMatch", askRegexp,
      askList "anyWildcard" "shExpMatch"]

end FullProgram

namespace ShortProgram

/-- A value that is not there. -/
def absent : Expr := .void (.number 0)

/-- The answer of the first table that has one. -/
def findProxy : Function where
  name := "FindProxyForURL"
  first := "r"
  second := "n"
  body :=
    .seq
      (.eachPlace "e" (.name "rules") (.block (.seq
        (.declare "t" (.call "u" (.name "r") (.item (.name "rules") (.name "e"))))
        (.provided (.differs absent (.name "t")) (.answer (.name "t"))))))
      (.answer (.text "DIRECT".toList))

/-- The answer of a table. -/
def askTable : Function where
  name := "u"
  first := "r"
  second := "n"
  body :=
    let oneOf := hasMatch "x" "s" "r" "n"
    .answer (.choose (oneOf 0 1) (.text "DIRECT".toList)
      (.choose (oneOf 2 3) (.name "proxy") absent))

/-- Whether a function holds of an address and one of the patterns of a list. -/
def askList (name test : String) : Function where
  name
  first := "r"
  second := "n"
  body :=
    .seq
      (.eachPlace "e" (.name "n")
        (.provided (.call test (.name "r") (.item (.name "n") (.name "e")))
          (.answer (.not (.number 0)))))
      (.answer (.not (.number 1)))

/-- Whether a regular expression matches, which one does not that cannot be compiled. -/
def askRegexp : Function where
  name := "m"
  first := "r"
  second := "n"
  body :=
    .attempt (.answer (.isMatch (.name "n") (.name "r"))) "e" (.answer (.not (.number 1)))

def program : Program where
  declarations := [[("proxy", .name "__PROXY__"), ("rules", .name "__RULES__")]]
  functions := [findProxy, askTable, askList "x" "m", askRegexp, askList "s" "shExpMatch"]

end ShortProgram

end PacRules.Script
