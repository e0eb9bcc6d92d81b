import AlertRouting.Unicode.CharSet
import AlertRouting.Unicode.CategoryTable

/-!
# General categories by name
-/
namespace AlertRouting.Unicode

/-- The code points of the categories with these two-letter codes. -/
def categories (codes : List String) : CharSet :=
  CharSet.unions (codes.filterMap fun code => (categoryTable.lookup code).map CharSet.ofLines)

def assigned : CharSet := categories (categoryTable.map (·.1))

def surrogates : CharSet := CharSet.ofRange 0xd800 0xdfff

def unassigned : CharSet := (assigned.union surrogates).compl

/-- The loose names of a category, or group of categories, and the codes it is made of. -/
def categoryNames : List (List String × List String) := [
  (["lu", "uppercaseletter"], ["Lu"]), (["ll", "lowercaseletter"], ["Ll"]),
  (["lt", "titlecaseletter"], ["Lt"]), (["lc", "casedletter"], ["Lu", "Ll", "Lt"]),
  (["lm", "modifierletter"], ["Lm"]), (["lo", "otherletter"], ["Lo"]),
  (["l", "letter"], ["Lu", "Ll", "Lt", "Lm", "Lo"]),
  (["mn", "nonspacingmark"], ["Mn"]), (["mc", "spacingmark"], ["Mc"]),
  (["me", "enclosingmark"], ["Me"]), (["m", "mark", "combiningmark"], ["Mn", "Mc", "Me"]),
  (["nd", "decimalnumber", "digit"], ["Nd"]), (["nl", "letternumber"], ["Nl"]),
  (["no", "othernumber"], ["No"]), (["n", "number"], ["Nd", "Nl", "No"]),
  (["pc", "connectorpunctuation"], ["Pc"]), (["pd", "dashpunctuation"], ["Pd"]),
  (["ps", "openpunctuation"], ["Ps"]), (["pe", "closepunctuation"], ["Pe"]),
  (["pi", "initialpunctuation"], ["Pi"]), (["pf", "finalpunctuation"], ["Pf"]),
  (["po", "otherpunctuation"], ["Po"]),
  (["p", "punctuation", "punct"], ["Pc", "Pd", "Ps", "Pe", "Pi", "Pf", "Po"]),
  (["sm", "mathsymbol"], ["Sm"]), (["sc", "currencysymbol"], ["Sc"]),
  (["sk", "modifiersymbol"], ["Sk"]), (["so", "othersymbol"], ["So"]),
  (["s", "symbol"], ["Sm", "Sc", "Sk", "So"]),
  (["zs", "spaceseparator"], ["Zs"]), (["zl", "lineseparator"], ["Zl"]),
  (["zp", "paragraphseparator"], ["Zp"]), (["z", "separator"], ["Zs", "Zl", "Zp"]),
  (["cc", "control", "cntrl"], ["Cc"]), (["cf", "format"], ["Cf"]), (["co", "privateuse"], ["Co"])]

/-- The code points of a category, a group of categories, or one of the sets that are named along
with them. -/
def category? (loose : String) : Option CharSet :=
  match loose with
  | "any" => some CharSet.full
  | "assigned" => some unassigned.compl
  | "ascii" => some (CharSet.ofRange 0 0x7f)
  | "cn" | "unassigned" => some unassigned
  | "c" | "other" => some ((categories ["Cc", "Cf", "Co"]).union unassigned)
  | _ => (categoryNames.find? fun e => e.1.contains loose).map fun e => categories e.2

end AlertRouting.Unicode
