import AlertRouting.Unicode.CharSet
import AlertRouting.Unicode.ScriptTable

/-!
# Scripts by name
-/
namespace AlertRouting.Unicode

/-- Four-letter codes of scripts, in the loose spelling, where they are not the script's name. -/
def scriptCodes : List (String × String) := [
  ("adlm", "Adlam"), ("hluw", "Anatolian_Hieroglyphs"), ("arab", "Arabic"), ("armn", "Armenian"),
  ("avst", "Avestan"), ("bali", "Balinese"), ("bamu", "Bamum"), ("bass", "Bassa_Vah"),
  ("batk", "Batak"), ("beng", "Bengali"), ("berf", "Beria_Erfe"), ("bhks", "Bhaiksuki"),
  ("bopo", "Bopomofo"), ("brah", "Brahmi"), ("brai", "Braille"), ("bugi", "Buginese"),
  ("buhd", "Buhid"), ("cans", "Canadian_Aboriginal"), ("cari", "Carian"),
  ("aghb", "Caucasian_Albanian"), ("cakm", "Chakma"), ("cher", "Cherokee"), ("chrs", "Chorasmian"),
  ("zyyy", "Common"), ("copt", "Coptic"), ("xsux", "Cuneiform"), ("cprt", "Cypriot"),
  ("cpmn", "Cypro_Minoan"), ("cyrl", "Cyrillic"), ("dsrt", "Deseret"), ("deva", "Devanagari"),
  ("diak", "Dives_Akuru"), ("dogr", "Dogra"), ("dupl", "Duployan"),
  ("egyp", "Egyptian_Hieroglyphs"), ("elba", "Elbasan"), ("elym", "Elymaic"), ("ethi", "Ethiopic"),
  ("gara", "Garay"), ("geor", "Georgian"), ("glag", "Glagolitic"), ("goth", "Gothic"),
  ("gran", "Grantha"), ("grek", "Greek"), ("gujr", "Gujarati"), ("gong", "Gunjala_Gondi"),
  ("guru", "Gurmukhi"), ("gukh", "Gurung_Khema"), ("hani", "Han"), ("hang", "Hangul"),
  ("rohg", "Hanifi_Rohingya"), ("hano", "Hanunoo"), ("hatr", "Hatran"), ("hebr", "Hebrew"),
  ("hira", "Hiragana"), ("armi", "Imperial_Aramaic"), ("zinh", "Inherited"),
  ("phli", "Inscriptional_Pahlavi"), ("prti", "Inscriptional_Parthian"), ("java", "Javanese"),
  ("kthi", "Kaithi"), ("knda", "Kannada"), ("kana", "Katakana"), ("kali", "Kayah_Li"),
  ("khar", "Kharoshthi"), ("kits", "Khitan_Small_Script"), ("khmr", "Khmer"), ("khoj", "Khojki"),
  ("sind", "Khudawadi"), ("krai", "Kirat_Rai"), ("laoo", "Lao"), ("latn", "Latin"),
  ("lepc", "Lepcha"), ("limb", "Limbu"), ("lina", "Linear_A"), ("linb", "Linear_B"),
  ("lyci", "Lycian"), ("lydi", "Lydian"), ("mahj", "Mahajani"), ("maka", "Makasar"),
  ("mlym", "Malayalam"), ("mand", "Mandaic"), ("mani", "Manichaean"), ("marc", "Marchen"),
  ("gonm", "Masaram_Gondi"), ("medf", "Medefaidrin"), ("mtei", "Meetei_Mayek"),
  ("mend", "Mende_Kikakui"), ("merc", "Meroitic_Cursive"), ("mero", "Meroitic_Hieroglyphs"),
  ("plrd", "Miao"), ("mong", "Mongolian"), ("mroo", "Mro"), ("mult", "Multani"),
  ("mymr", "Myanmar"), ("nbat", "Nabataean"), ("nagm", "Nag_Mundari"), ("nand", "Nandinagari"),
  ("talu", "New_Tai_Lue"), ("nkoo", "Nko"), ("nshu", "Nushu"), ("hmnp", "Nyiakeng_Puachue_Hmong"),
  ("ogam", "Ogham"), ("olck", "Ol_Chiki"), ("onao", "Ol_Onal"), ("hung", "Old_Hungarian"),
  ("ital", "Old_Italic"), ("narb", "Old_North_Arabian"), ("perm", "Old_Permic"),
  ("xpeo", "Old_Persian"), ("sogo", "Old_Sogdian"), ("sarb", "Old_South_Arabian"),
  ("orkh", "Old_Turkic"), ("ougr", "Old_Uyghur"), ("orya", "Oriya"), ("osge", "Osage"),
  ("osma", "Osmanya"), ("hmng", "Pahawh_Hmong"), ("palm", "Palmyrene"), ("pauc", "Pau_Cin_Hau"),
  ("phag", "Phags_Pa"), ("phnx", "Phoenician"), ("phlp", "Psalter_Pahlavi"), ("rjng", "Rejang"),
  ("runr", "Runic"), ("samr", "Samaritan"), ("saur", "Saurashtra"), ("shrd", "Sharada"),
  ("shaw", "Shavian"), ("sidd", "Siddham"), ("sidt", "Sidetic"), ("sgnw", "SignWriting"),
  ("sinh", "Sinhala"), ("sogd", "Sogdian"), ("sora", "Sora_Sompeng"), ("soyo", "Soyombo"),
  ("sund", "Sundanese"), ("sunu", "Sunuwar"), ("sylo", "Syloti_Nagri"), ("syrc", "Syriac"),
  ("tglg", "Tagalog"), ("tagb", "Tagbanwa"), ("tale", "Tai_Le"), ("lana", "Tai_Tham"),
  ("tavt", "Tai_Viet"), ("tayo", "Tai_Yo"), ("takr", "Takri"), ("taml", "Tamil"),
  ("tnsa", "Tangsa"), ("tang", "Tangut"), ("telu", "Telugu"), ("thaa", "Thaana"),
  ("tibt", "Tibetan"), ("tfng", "Tifinagh"), ("tirh", "Tirhuta"), ("todr", "Todhri"),
  ("tols", "Tolong_Siki"), ("tutg", "Tulu_Tigalari"), ("ugar", "Ugaritic"), ("vaii", "Vai"),
  ("vith", "Vithkuqi"), ("wcho", "Wancho"), ("wara", "Warang_Citi"), ("yezi", "Yezidi"),
  ("yiii", "Yi"), ("zanb", "Zanabazar_Square"), ("qaac", "Coptic"), ("qaai", "Inherited")]

def looseName (name : String) : String :=
  String.ofList ((name.toList.filter (· != '_')).map Char.toLower)

/-- The name of the script that a loose name or code stands for. -/
def scriptName? (loose : String) : Option String :=
  (scriptTable.find? fun e => looseName e.1 = loose).map (·.1) <|> scriptCodes.lookup loose

def script? (loose : String) : Option CharSet :=
  (scriptName? loose).bind fun name => (scriptTable.lookup name).map CharSet.ofLines

def scriptExtension? (loose : String) : Option CharSet :=
  (scriptName? loose).bind fun name =>
    ((scriptExtensionTable.lookup name) <|> scriptTable.lookup name).map CharSet.ofLines

end AlertRouting.Unicode
