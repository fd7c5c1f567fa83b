import EventQuery.Regex.Ast
import EventQuery.Regex.Error
import EventQuery.Text.Age
import EventQuery.Text.Break.Grapheme
import EventQuery.Text.Break.Sentence
import EventQuery.Text.CaseChange

/-!
# Properties asked for by name

The names of properties, of general categories and of scripts are compared without regard to case,
blanks, hyphens and low lines, and a leading `is` is dropped. A bare name may be any of the three;
a name with a value may be a category, a script or the use with one, an age, or the part played in
the division of a text into characters, words or sentences.
-/

namespace EventQuery.Regex.Property

open EventQuery.Property

/-- The form in which names are compared. -/
def normalName (name : String) : String :=
  let s := name.toList
  let (startsWithIs, s) :=
    match s with
    | a :: b :: rest =>
      if (a = 'i' ∨ a = 'I') ∧ (b = 's' ∨ b = 'S') then (true, rest) else (false, s)
    | s => (false, s)
  let kept := (s.filter fun c => c != ' ' && c != '_' && c != '-' && c.toNat < 128).map Char.toLower
  -- The abbreviation of one property consists of the dropped prefix and one letter.
  String.ofList (if startsWithIs && kept == ['c'] then ['i', 's', 'c'] else kept)

/-- The properties that hold or do not hold of a character. -/
def binary : List (List String × CodeSet) :=
  [(["ahex", "asciihexdigit"], asciiHexDigit), (["alpha", "alphabetic"], alphabetic),
   (["bidic", "bidicontrol"], bidiControl), (["bidim", "bidimirrored"], bidiMirrored),
   (["cased"], cased), (["ci", "caseignorable"], caseIgnorable),
   (["cwcf", "changeswhencasefolded"], changesWhenCasefolded),
   (["cwcm", "changeswhencasemapped"], changesWhenCasemapped),
   (["cwl", "changeswhenlowercased"], changesWhenLowercased),
   (["cwt", "changeswhentitlecased"], changesWhenTitlecased),
   (["cwu", "changeswhenuppercased"], changesWhenUppercased), (["dash"], dash),
   (["dep", "deprecated"], deprecated), (["di", "defaultignorablecodepoint"], defaultIgnorable),
   (["dia", "diacritic"], diacritic), (["ebase", "emojimodifierbase"], emojiModifierBase),
   (["ecomp", "emojicomponent"], emojiComponent), (["emod", "emojimodifier"], emojiModifier),
   (["emoji"], emoji), (["epres", "emojipresentation"], emojiPresentation),
   (["ext", "extender"], extender), (["extpict", "extendedpictographic"], extendedPictographic),
   (["grbase", "graphemebase"], graphemeBase), (["grext", "graphemeextend"], graphemeExtend),
   (["grlink", "graphemelink"], graphemeLink), (["hex", "hexdigit"], hexDigit),
   (["hyphen"], hyphen), (["idc", "idcontinue"], idContinue),
   (["idcompatmathcontinue"], idCompatMathContinue), (["idcompatmathstart"], idCompatMathStart),
   (["ideo", "ideographic"], ideographic), (["ids", "idstart"], idStart),
   (["idsb", "idsbinaryoperator"], idsBinaryOperator),
   (["idst", "idstrinaryoperator"], idsTrinaryOperator),
   (["idsu", "idsunaryoperator"], idsUnaryOperator), (["joinc", "joincontrol"], joinControl),
   (["loe", "logicalorderexception"], logicalOrderException), (["lower", "lowercase"], lowercase),
   (["math"], math), (["mcm", "modifiercombiningmark"], modifierCombiningMark),
   (["nchar", "noncharactercodepoint"], noncharacter),
   (["oalpha", "otheralphabetic"], otherAlphabetic),
   (["odi", "otherdefaultignorablecodepoint"], otherDefaultIgnorable),
   (["ogrext", "othergraphemeextend"], otherGraphemeExtend),
   (["oidc", "otheridcontinue"], otherIdContinue), (["oids", "otheridstart"], otherIdStart),
   (["olower", "otherlowercase"], otherLowercase), (["omath", "othermath"], otherMath),
   (["oupper", "otheruppercase"], otherUppercase), (["patsyn", "patternsyntax"], patternSyntax),
   (["patws", "patternwhitespace"], patternWhiteSpace),
   (["pcm", "prependedconcatenationmark"], prependedConcatenationMark),
   (["qmark", "quotationmark"], quotationMark), (["radical"], radical),
   (["ri", "regionalindicator"], regionalIndicator), (["sd", "softdotted"], softDotted),
   (["sterm", "sentenceterminal"], sentenceTerminal),
   (["term", "terminalpunctuation"], terminalPunctuation),
   (["uideo", "unifiedideograph"], unifiedIdeograph), (["upper", "uppercase"], uppercase),
   (["vs", "variationselector"], variationSelector),
   (["wspace", "whitespace", "space"], whiteSpace), (["xidc", "xidcontinue"], xidContinue),
   (["xids", "xidstart"], xidStart)]

/-- The names of the properties that have values. -/
def valuedNames : List String :=
  ["age", "gc", "generalcategory", "gcb", "graphemeclusterbreak", "sb", "sentencebreak", "sc",
   "script", "scx", "scriptextensions", "wb", "wordbreak"]

/-- Further properties, which have names but are not matched by. -/
def unsupported : List String :=
  ["bc", "bidiclass", "bidimirroringglyph", "bidipairedbracket", "bidipairedbrackettype", "blk",
   "block", "bmg", "bpb", "bpt", "canonicalcombiningclass", "casefolding", "ccc", "ce", "cf",
   "changeswhennfkccasefolded", "cjkaccountingnumeric", "cjkcompatibilityvariant", "cjkiicore",
   "cjkirggsource", "cjkirghsource", "cjkirgjsource", "cjkirgkpsource", "cjkirgksource",
   "cjkirgmsource", "cjkirgssource", "cjkirgtsource", "cjkirguksource", "cjkirgusource",
   "cjkirgvsource", "cjkothernumeric", "cjkprimarynumeric", "cjkrsunicode", "compex",
   "compositionexclusion", "cwkcf", "decompositionmapping", "decompositiontype", "dm", "dt", "ea",
   "eastasianwidth", "equideo", "equivalentunifiedideograph", "expandsonnfc", "expandsonnfd",
   "expandsonnfkc", "expandsonnfkd", "fcnfkc", "fcnfkcclosure", "fullcompositionexclusion",
   "hangulsyllabletype", "hst", "incb", "indicconjunctbreak", "indicpositionalcategory",
   "indicsyllabiccategory", "inpc", "insc", "isc", "jamoshortname", "jg", "joininggroup",
   "joiningtype", "jsn", "jt", "kaccountingnumeric", "kcompatibilityvariant", "kehcat", "kehdesc",
   "kehhg", "kehifao", "kehjsesh", "kehnomirror", "kehnorotate", "kiicore", "kirggsource",
   "kirghsource", "kirgjsource", "kirgkpsource", "kirgksource", "kirgmsource", "kirgssource",
   "kirgtsource", "kirguksource", "kirgusource", "kirgvsource", "kothernumeric", "kprimarynumeric",
   "krsunicode", "lb", "lc", "linebreak", "lowercasemapping", "na", "na1", "name", "namealias",
   "nfcqc", "nfcquickcheck", "nfdqc", "nfdquickcheck", "nfkccasefold", "nfkccf", "nfkcqc",
   "nfkcquickcheck", "nfkcscf", "nfkcsimplecasefold", "nfkdqc", "nfkdquickcheck", "nt",
   "numerictype", "numericvalue", "nv", "ocomment", "scf", "sfc", "simplecasefolding",
   "simplelowercasemapping", "simpletitlecasemapping", "simpleuppercasemapping", "slc", "stc",
   "suc", "tc", "titlecasemapping", "uc", "unicode1name", "unicoderadicalstroke",
   "uppercasemapping", "urs", "verticalorientation", "vo", "xonfc", "xonfd", "xonfkc", "xonfkd"]

/-- Further values, which have names but no characters to match: the category of surrogates, and
    the scripts of unassigned code points and of what Hiragana and Katakana share. -/
def vacant : List String :=
  ["cs", "surrogate", "hrkt", "katakanaorhiragana", "zzzz", "unknown"]

/-- The set under a name in a list of names. -/
def find? (name : String) (sets : List (List String × CodeSet)) : Option CodeSet :=
  (sets.find? (·.1.contains name)).map (·.2)

/-- The script with a name. -/
def script? (name : String) : Option Script :=
  Script.scripts.find? fun s => (s.names.map normalName).contains name

/-- The abbreviations that are both of a category and of a property. The category has them. -/
def ambiguous : List String := ["cf", "lc", "sc"]

/-- The set of a property that is given by a name alone: a property that holds or does not hold, or
    else a category, or else a script. -/
def single (name : String) : Except Error CodeSet :=
  let name := normalName name
  let isProperty := !ambiguous.contains name &&
    ((find? name binary).isSome || valuedNames.contains name || unsupported.contains name)
  if isProperty then
    match find? name binary with
    | some found => .ok found
    | none => .error .propertyNotFound
  else
    match (find? name Category.named).or ((script? name).map (·.characters)) with
    | some found => .ok found
    | none => .error (if vacant.contains name then .propertyValueNotFound else .propertyNotFound)

/-- The set of a value of a property, or nothing if there is no such property. -/
def values? (property value : String) : Option (Option CodeSet) :=
  match property with
  | "age" => some (Age.upTo? value)
  | "gc" | "generalcategory" => some (find? value Category.named)
  | "gcb" | "graphemeclusterbreak" => some (find? value GraphemeBreak.named)
  | "sb" | "sentencebreak" => some (find? value SentenceBreak.named)
  | "wb" | "wordbreak" => some (find? value WordBreak.named)
  | "sc" | "script" => some ((script? value).map (·.characters))
  | "scx" | "scriptextensions" => some ((script? value).map (·.extension))
  | _ => if (find? property binary).isSome || unsupported.contains property then some none else none

/-- The set of a property that is given by name and value. -/
def valued (property value : String) : Except Error CodeSet :=
  match values? (normalName property) (normalName value) with
  | some (some found) => .ok found
  | some none => .error .propertyValueNotFound
  | none => .error .propertyNotFound

/-- The set that a query asks for. -/
def lookup : PropertyQuery → Except Error CodeSet
  | .single name => single name
  | .valued property value => valued property value

end EventQuery.Regex.Property
