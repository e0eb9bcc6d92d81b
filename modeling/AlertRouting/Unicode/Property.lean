import AlertRouting.Unicode.Category
import AlertRouting.Unicode.Script
import AlertRouting.Unicode.PropertyTable

/-!
# Binary properties

Properties that the standard derives from categories and other properties are computed here as it
derives them.
-/
namespace AlertRouting.Unicode

def listed (name : String) : CharSet :=
  match propertyTable.lookup name with
  | some lines => CharSet.ofLines lines
  | none => CharSet.empty

def lowercase : CharSet := (categories ["Ll"]).union (listed "Other_Lowercase")

def uppercase : CharSet := (categories ["Lu"]).union (listed "Other_Uppercase")

def alphabetic : CharSet :=
  CharSet.unions [lowercase, uppercase, categories ["Lt", "Lm", "Lo", "Nl"],
    listed "Other_Alphabetic"]

def patternChars : CharSet := (listed "Pattern_Syntax").union (listed "Pattern_White_Space")

def idStart : CharSet :=
  ((categories ["Lu", "Ll", "Lt", "Lm", "Lo", "Nl"]).union (listed "Other_ID_Start")).diff
    patternChars

def idContinue : CharSet :=
  (CharSet.unions [idStart, categories ["Mn", "Mc", "Nd", "Pc"],
    listed "Other_ID_Continue"]).diff patternChars

def graphemeExtend : CharSet :=
  (categories ["Me", "Mn"]).union (listed "Other_Grapheme_Extend")

def graphemeBase : CharSet :=
  (categories ["Lu", "Ll", "Lt", "Lm", "Lo", "Mn", "Mc", "Me", "Nd", "Nl", "No", "Pc", "Pd", "Ps",
    "Pe", "Pi", "Pf", "Po", "Sm", "Sc", "Sk", "So", "Zs"]).diff graphemeExtend

def derived? (name : String) : Option CharSet :=
  match name with
  | "Lowercase" => some lowercase
  | "Uppercase" => some uppercase
  | "Alphabetic" => some alphabetic
  | "Cased" => some (CharSet.unions [lowercase, uppercase, categories ["Lt"]])
  | "Case_Ignorable" =>
    some ((categories ["Mn", "Me", "Cf", "Lm", "Sk"]).union (listed "Case_Ignorable_Mark"))
  | "Changes_When_Casemapped" =>
    some (CharSet.unions [listed "Changes_When_Lowercased", listed "Changes_When_Titlecased",
      listed "Changes_When_Uppercased"])
  | "Math" => some ((categories ["Sm"]).union (listed "Other_Math"))
  | "ID_Start" => some idStart
  | "ID_Continue" => some idContinue
  | "XID_Start" => some (idStart.diff (listed "Compatibility_Start"))
  | "XID_Continue" => some (idContinue.diff (listed "Compatibility_Continue"))
  | "Grapheme_Extend" => some graphemeExtend
  | "Grapheme_Base" => some graphemeBase
  | _ => none

/-- Loose names of binary properties with the name in the tables. -/
def propertyNames : List (List String × String) := [
  (["asciihexdigit", "ahex"], "ASCII_Hex_Digit"), (["alphabetic", "alpha"], "Alphabetic"),
  (["bidicontrol", "bidic"], "Bidi_Control"), (["bidimirrored", "bidim"], "Bidi_Mirrored"),
  (["caseignorable", "ci"], "Case_Ignorable"), (["cased"], "Cased"),
  (["changeswhencasefolded", "cwcf"], "Changes_When_Casefolded"),
  (["changeswhencasemapped", "cwcm"], "Changes_When_Casemapped"),
  (["changeswhenlowercased", "cwl"], "Changes_When_Lowercased"),
  (["changeswhentitlecased", "cwt"], "Changes_When_Titlecased"),
  (["changeswhenuppercased", "cwu"], "Changes_When_Uppercased"), (["dash"], "Dash"),
  (["defaultignorablecodepoint", "di"], "Default_Ignorable_Code_Point"),
  (["deprecated", "dep"], "Deprecated"), (["diacritic", "dia"], "Diacritic"),
  (["emoji"], "Emoji"), (["emojicomponent", "ecomp"], "Emoji_Component"),
  (["emojimodifier", "emod"], "Emoji_Modifier"),
  (["emojimodifierbase", "ebase"], "Emoji_Modifier_Base"),
  (["emojipresentation", "epres"], "Emoji_Presentation"),
  (["extendedpictographic", "extpict"], "Extended_Pictographic"), (["extender", "ext"], "Extender"),
  (["graphemebase", "grbase"], "Grapheme_Base"), (["graphemeextend", "grext"], "Grapheme_Extend"),
  (["graphemelink", "grlink"], "Grapheme_Link"), (["hexdigit", "hex"], "Hex_Digit"),
  (["hyphen"], "Hyphen"), (["idsbinaryoperator", "idsb"], "IDS_Binary_Operator"),
  (["idstrinaryoperator", "idst"], "IDS_Trinary_Operator"),
  (["idsunaryoperator", "idsu"], "IDS_Unary_Operator"),
  (["idcompatmathcontinue"], "ID_Compat_Math_Continue"),
  (["idcompatmathstart"], "ID_Compat_Math_Start"), (["idcontinue", "idc"], "ID_Continue"),
  (["idstart", "ids"], "ID_Start"), (["ideographic", "ideo"], "Ideographic"),
  (["joincontrol", "joinc"], "Join_Control"),
  (["logicalorderexception", "loe"], "Logical_Order_Exception"),
  (["lowercase", "lower"], "Lowercase"), (["math"], "Math"),
  (["modifiercombiningmark", "mcm"], "Modifier_Combining_Mark"),
  (["noncharactercodepoint", "nchar"], "Noncharacter_Code_Point"),
  (["otheralphabetic", "oalpha"], "Other_Alphabetic"),
  (["otherdefaultignorablecodepoint", "odi"], "Other_Default_Ignorable_Code_Point"),
  (["othergraphemeextend", "ogrext"], "Other_Grapheme_Extend"),
  (["otheridcontinue", "oidc"], "Other_ID_Continue"), (["otheridstart", "oids"], "Other_ID_Start"),
  (["otherlowercase", "olower"], "Other_Lowercase"), (["othermath", "omath"], "Other_Math"),
  (["otheruppercase", "oupper"], "Other_Uppercase"), (["patternsyntax", "patsyn"], "Pattern_Syntax"),
  (["patternwhitespace", "patws"], "Pattern_White_Space"),
  (["prependedconcatenationmark", "pcm"], "Prepended_Concatenation_Mark"),
  (["quotationmark", "qmark"], "Quotation_Mark"), (["radical"], "Radical"),
  (["regionalindicator", "ri"], "Regional_Indicator"),
  (["sentenceterminal", "sterm"], "Sentence_Terminal"), (["softdotted", "sd"], "Soft_Dotted"),
  (["terminalpunctuation", "term"], "Terminal_Punctuation"),
  (["unifiedideograph", "uideo"], "Unified_Ideograph"), (["uppercase", "upper"], "Uppercase"),
  (["variationselector", "vs"], "Variation_Selector"),
  (["whitespace", "wspace", "space"], "White_Space"), (["xidcontinue", "xidc"], "XID_Continue"),
  (["xidstart", "xids"], "XID_Start")]

def binary? (loose : String) : Option CharSet :=
  (propertyNames.find? fun e => e.1.contains loose).bind fun e =>
    derived? e.2 <|> (propertyTable.lookup e.2).map CharSet.ofLines

end AlertRouting.Unicode
