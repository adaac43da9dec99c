/-
The general categories of characters, and the names of the categories and of the
groups in which they are gathered.
-/
import BinlogCursor.Text.Ranges.Coded
import BinlogCursor.Text.Table.Categories

namespace BinlogCursor.Text

inductive Category
  | lu | ll | lt | lm | lo | mn | mc | me | nd | nl | no | pc | pd | ps | pe | pi | pf | po
  | sm | sc | sk | so | zs | zl | zp | cc | cf | cs | co | cn
deriving DecidableEq

namespace Category

def all : List Category :=
  [.lu, .ll, .lt, .lm, .lo, .mn, .mc, .me, .nd, .nl, .no, .pc, .pd, .ps, .pe, .pi, .pf, .po,
    .sm, .sc, .sk, .so, .zs, .zl, .zp, .cc, .cf, .cs, .co, .cn]

def runs : List Nat :=
  base36Numbers Table.categories

def rangesOf (categories : List Category) : Ranges :=
  .ofRuns (fun value => all[value]?.any categories.contains) 0 runs

/-- The short and the long name of each category and of each group of categories. Surrogates are no
characters, and cannot be asked for by themselves. -/
def names : List (List String × List Category) := [
  (["lu", "uppercaseletter"], [.lu]), (["ll", "lowercaseletter"], [.ll]),
  (["lt", "titlecaseletter"], [.lt]), (["lc", "casedletter"], [.lu, .ll, .lt]),
  (["lm", "modifierletter"], [.lm]), (["lo", "otherletter"], [.lo]),
  (["l", "letter"], [.lu, .ll, .lt, .lm, .lo]), (["mn", "nonspacingmark"], [.mn]),
  (["mc", "spacingmark"], [.mc]), (["me", "enclosingmark"], [.me]),
  (["m", "mark", "combiningmark"], [.mn, .mc, .me]), (["nd", "decimalnumber", "digit"], [.nd]),
  (["nl", "letternumber"], [.nl]), (["no", "othernumber"], [.no]),
  (["n", "number"], [.nd, .nl, .no]), (["pc", "connectorpunctuation"], [.pc]),
  (["pd", "dashpunctuation"], [.pd]), (["ps", "openpunctuation"], [.ps]),
  (["pe", "closepunctuation"], [.pe]), (["pi", "initialpunctuation"], [.pi]),
  (["pf", "finalpunctuation"], [.pf]), (["po", "otherpunctuation"], [.po]),
  (["p", "punctuation", "punct"], [.pc, .pd, .ps, .pe, .pi, .pf, .po]),
  (["sm", "mathsymbol"], [.sm]), (["sc", "currencysymbol"], [.sc]),
  (["sk", "modifiersymbol"], [.sk]), (["so", "othersymbol"], [.so]),
  (["s", "symbol"], [.sm, .sc, .sk, .so]), (["zs", "spaceseparator"], [.zs]),
  (["zl", "lineseparator"], [.zl]), (["zp", "paragraphseparator"], [.zp]),
  (["z", "separator"], [.zs, .zl, .zp]), (["cc", "control", "cntrl"], [.cc]),
  (["cf", "format"], [.cf]), (["co", "privateuse"], [.co]), (["cn", "unassigned"], [.cn]),
  (["c", "other"], [.cc, .cf, .cs, .co, .cn]), (["any"], all)]

def ofName? (name : String) : Option Ranges :=
  if name = "ascii" then some [(0, 0x7F)]
  else if name = "assigned" then some (rangesOf [.cn]).complement
  else (names.find? (·.1.contains name)).map fun (_, categories) => rangesOf categories

end Category

end BinlogCursor.Text
