import StudyGraph.Text.Blank
import StudyGraph.Text.Combining
import StudyGraph.Terminal.Pattern.Script

/-!
# Properties of characters

The classes of characters that Unicode defines: general categories and groups of them, scripts, and
properties that a character has or has not. `Property.holds` tells whether a character belongs to a
class, and `Property.named?` finds a class by its name. Some properties are put together from
others; the rest are told by runs of code points that have them (`Y`) and have them not (`N`).
-/

namespace StudyGraph.Text

/-! ## Letters and words -/

/-- The marks that are alphabetic, run by run. -/
def alphabeticMarkTable : List String :=
  ["N837YN29Y13N576Y14NYNY2NY2NYN72Y11N48Y13NY7N16YN101Y7N4Y4N2Y2N4YN35YN30Y16N102Y11N101Y2N3",
    "Y9NY3NY4N106YN60Y12N3Y7N6Y20N54Y2N2Y15NY2N5Y3N10Y2N29Y3N58Y7N2Y2N2Y2N10YN10Y2N29Y3N58Y5N4",
    "Y2N2Y2N4YN30Y2N3YN11Y3N58Y8NY3NY2N21Y2N22Y3N4Y3N58Y7N2Y2N2Y2N9Y2N10Y2N30YN59Y5N3Y3NY3N10Y",
    "N40Y5N57Y7NY3NY3N8Y2N11Y2N29Y3N58Y7NY3NY3N8Y2N11Y2N15YN12Y4N58Y7NY3NY3N10YN10Y2N29Y3N75Y6N",
    "YNY8N18Y2N61YN2Y7N18YN99YN2Y6NY2N16YN163Y19N9Y11NY36N110Y12NYN2Y4N23Y4N4Y3NY3N2Y7N3Y4N13",
    "Y12NYN10Y4N1652Y2N30Y2N30Y2N30Y2N66Y19N188Y2N34YN118Y12N4Y9N222Y5N57Y10N2Y20N74Y2N11Y3N49",
    "Y5N48Y15N60Y3N30Y9N2Y2N57Y11N50Y19N412Y34N4075Y32N30836Y8N34Y2N354YN8YN23Y5N88Y2N50Y16NY",
    "N57YN38Y5N28Y12N45Y4N48Y12N37YN67Y14N12YN8Y2N45Y3N50YNY3N2Y2N5YN44Y5N5YN237Y8N20275YN2135",
    "Y5N1670Y3NY2N5Y4N788Y4N65YN321Y2N77Y3N259Y3N53Y14N45Y2N11Y3N45Y9N9YN61Y3N36Y12N18Y2N57Y3",
    "N48Y13N14Y2N92Y9N2YN6YN2YN157Y10N23Y4N58Y7N2Y2N2Y2N10YN10Y2N84Y9NYN2YNY4NY2N103Y13NY3N106",
    "Y18N237Y7N2Y7N29Y2N82Y15NYN106Y11N103Y14N257Y13N247Y6NY2N2Y2N3YNYN142Y7N2Y6N4YN28Y10N42Y5N",
    "Y4N18Y11N46Y14N200Y8N199Y8NY7N83Y22NY14N122Y6N3YNY2NY3NYN3YN66Y5NY2NY4N348Y4N9Y2NYN48Y7N3",
    "Y3N16861Y17N3616YNY55N7Y4N93Y2N19628YN9057Y7NY17N2Y7NY2NY5N100YN1619YN2YN7Y2N5YN593Y"]

/-- A property by the runs that are written in lines of a table. -/
def flagRuns (table : List String) : Runs Bool :=
  Runs.ofText (· = ['Y']) (table.flatMap String.toList)

/-- Whether a code point has a property. -/
def hasFlag (runs : Runs Bool) (c : Char) : Bool :=
  (runs.valueAt c.toNat).getD false

/-- The marks that are alphabetic. -/
def alphabeticMarks : Runs Bool :=
  flagRuns alphabeticMarkTable

/-- Letters in circles and squares, which are symbols by their category. -/
def enclosedLetters : List (Nat × Nat) :=
  [(0x24B6, 0x24E9), (0x1F130, 0x1F149), (0x1F150, 0x1F169), (0x1F170, 0x1F189)]

/-- A letter or a number that is written with letters. -/
def isLetter (c : Char) : Bool :=
  let category := Category.of c
  category.isIn "L" || category = .letterNumber

/-- The property Alphabetic. -/
def isAlphabetic (c : Char) : Bool :=
  isLetter c || inRanges enclosedLetters c.toNat || hasFlag alphabeticMarks c

/-- A character of words: letters, marks, digits, connectors and joiners. -/
def isWord (c : Char) : Bool :=
  let category := Category.of c
  category.isIn "L" || category.isIn "M" || category = .letterNumber ||
    category = .decimalNumber || category = .connectorPunctuation ||
    inRanges enclosedLetters c.toNat || c.toNat = 0x200C || c.toNat = 0x200D

/-- Further lowercase characters, besides the lowercase letters. -/
def lowercaseRanges : List (Nat × Nat) :=
  [(0xAA, 0xAA), (0xBA, 0xBA), (0x2B0, 0x2B8), (0x2C0, 0x2C1), (0x2E0, 0x2E4), (0x345, 0x345),
    (0x37A, 0x37A), (0x10FC, 0x10FC), (0x1D2C, 0x1D6A), (0x1D78, 0x1D78), (0x1D9B, 0x1DBF),
    (0x2071, 0x2071), (0x207F, 0x207F), (0x2090, 0x209C), (0x2170, 0x217F), (0x24D0, 0x24E9),
    (0x2C7C, 0x2C7D), (0xA69C, 0xA69D), (0xA770, 0xA770), (0xA7F1, 0xA7F4), (0xA7F8, 0xA7F9),
    (0xAB5C, 0xAB5F), (0xAB69, 0xAB69), (0x10780, 0x10780), (0x10783, 0x10785),
    (0x10787, 0x107B0), (0x107B2, 0x107BA), (0x1E030, 0x1E06D)]

/-- The property Lowercase. -/
def isLowercase (c : Char) : Bool :=
  Category.of c = .lowercaseLetter || inRanges lowercaseRanges c.toNat

/-- Further uppercase characters, besides the uppercase letters. -/
def uppercaseRanges : List (Nat × Nat) :=
  [(0x2160, 0x216F), (0x24B6, 0x24CF), (0x1F130, 0x1F149), (0x1F150, 0x1F169), (0x1F170, 0x1F189)]

/-- The property Uppercase. -/
def isUppercase (c : Char) : Bool :=
  Category.of c = .uppercaseLetter || inRanges uppercaseRanges c.toNat

/-- Further characters at which the case of the letters around is not looked for, besides those
of some categories. -/
def caseIgnorableRanges : List (Nat × Nat) :=
  [(0x27, 0x27), (0x2E, 0x2E), (0x3A, 0x3A), (0xB7, 0xB7), (0x387, 0x387), (0x55F, 0x55F),
    (0x5F4, 0x5F4), (0x2018, 0x2019), (0x2024, 0x2024), (0x2027, 0x2027), (0xFE13, 0xFE13),
    (0xFE52, 0xFE52), (0xFE55, 0xFE55), (0xFF07, 0xFF07), (0xFF0E, 0xFF0E), (0xFF1A, 0xFF1A)]

/-- The property Case_Ignorable. -/
def isCaseIgnorable (c : Char) : Bool :=
  let category := Category.of c
  category = .nonspacingMark || category = .enclosingMark || category = .format ||
    category = .modifierLetter || category = .modifierSymbol ||
    inRanges caseIgnorableRanges c.toNat

/-! ## Graphemes and identifiers -/

/-- The property Grapheme_Extend. -/
def isGraphemeExtend (c : Char) : Bool :=
  Category.of c != .unassigned && isCombining c || c.toNat = 0xFF9E || c.toNat = 0xFF9F

/-- The property Grapheme_Base. -/
def isGraphemeBase (c : Char) : Bool :=
  let category := Category.of c
  !(category.isIn "C" || category = .lineSeparator || category = .paragraphSeparator) &&
    !isGraphemeExtend c

/-- The property ID_Start. -/
def isIdentifierStart (c : Char) : Bool :=
  let n := c.toNat
  isLetter c && !(n = 0x2E2F) ||
    inRanges [(0x1885, 0x1886), (0x2118, 0x2118), (0x212E, 0x212E), (0x309B, 0x309C)] n

/-- The property ID_Continue. -/
def isIdentifierPart (c : Char) : Bool :=
  let category := Category.of c
  isIdentifierStart c || category = .nonspacingMark || category = .spacingMark ||
    category = .decimalNumber || category = .connectorPunctuation ||
    inRanges [(0xB7, 0xB7), (0x387, 0x387), (0x1369, 0x1371), (0x19DA, 0x19DA), (0x200C, 0x200D),
      (0x30FB, 0x30FB), (0xFF65, 0xFF65)] c.toNat

/-- Letters that do not stay in identifiers when compatibility characters are replaced. -/
def unstableRanges : List (Nat × Nat) :=
  [(0x37A, 0x37A), (0x309B, 0x309C), (0xFC5E, 0xFC63), (0xFDFA, 0xFDFB), (0xFE70, 0xFE70),
    (0xFE72, 0xFE72), (0xFE74, 0xFE74), (0xFE76, 0xFE76), (0xFE78, 0xFE78), (0xFE7A, 0xFE7A),
    (0xFE7C, 0xFE7C), (0xFE7E, 0xFE7E)]

/-- The property XID_Start. -/
def isStableIdentifierStart (c : Char) : Bool :=
  isIdentifierStart c && !inRanges unstableRanges c.toNat &&
    !inRanges [(0xE33, 0xE33), (0xEB3, 0xEB3), (0xFF9E, 0xFF9F)] c.toNat

/-- The property XID_Continue. -/
def isStableIdentifierPart (c : Char) : Bool :=
  isIdentifierPart c && !inRanges unstableRanges c.toNat

/-! ## Classes by name -/

/-- A class of characters. -/
inductive Property where
  | any
  | assigned
  | ascii
  /-- The characters of a category or a group of categories, by its code. -/
  | category (code : Text)
  | casedLetter
  /-- The characters of a script, by its code. -/
  | script (code : Text)
  /-- The characters that are used in a script, by its code. -/
  | usedInScript (code : Text)
  | alphabetic
  | lowercase
  | uppercase
  | cased
  | caseIgnorable
  | whiteSpace
  | ignorable
  | graphemeExtend
  | graphemeBase
  | identifierStart
  | identifierPart
  | stableIdentifierStart
  | stableIdentifierPart
  /-- The characters of words. -/
  | word
  /-- The characters that runs tell. -/
  | listed (runs : Runs Bool)
  deriving DecidableEq

/-- Whether a character belongs to a class. -/
def Property.holds : Property → Char → Bool
  | any, _ => true
  | assigned, c => Category.of c != .unassigned
  | ascii, c => c.toNat < 0x80
  | category code, c => (Category.of c).isIn code
  | casedLetter, c =>
    let category := Category.of c
    category = .uppercaseLetter || category = .lowercaseLetter || category = .titlecaseLetter
  | script code, c => Script.of c = code
  | usedInScript code, c => Script.isUsedIn code c
  | alphabetic, c => isAlphabetic c
  | lowercase, c => isLowercase c
  | uppercase, c => isUppercase c
  | cased, c => isLowercase c || isUppercase c || Category.of c = .titlecaseLetter
  | caseIgnorable, c => isCaseIgnorable c
  | whiteSpace, c => isBlank c
  | ignorable, c => isIgnorable c
  | graphemeExtend, c => isGraphemeExtend c
  | graphemeBase, c => isGraphemeBase c
  | identifierStart, c => isIdentifierStart c
  | identifierPart, c => isIdentifierPart c
  | stableIdentifierStart, c => isStableIdentifierStart c
  | stableIdentifierPart, c => isStableIdentifierPart c
  | word, c => isWord c
  | listed runs, c => hasFlag runs c

/-- The names of the categories and their groups, in small letters and without separators. -/
def categoryNames : List (String × String) :=
  [("C", "other"), ("Cc", "control"), ("Cc", "cntrl"), ("Cf", "format"), ("Cn", "unassigned"),
    ("Co", "privateuse"), ("L", "letter"), ("Ll", "lowercaseletter"), ("Lm", "modifierletter"),
    ("Lo", "otherletter"), ("Lt", "titlecaseletter"), ("Lu", "uppercaseletter"), ("M", "mark"),
    ("M", "combiningmark"), ("Mc", "spacingmark"), ("Me", "enclosingmark"),
    ("Mn", "nonspacingmark"), ("N", "number"), ("Nd", "decimalnumber"), ("Nd", "digit"),
    ("Nl", "letternumber"), ("No", "othernumber"), ("P", "punctuation"), ("P", "punct"),
    ("Pc", "connectorpunctuation"), ("Pd", "dashpunctuation"), ("Pe", "closepunctuation"),
    ("Pf", "finalpunctuation"), ("Pi", "initialpunctuation"), ("Po", "otherpunctuation"),
    ("Ps", "openpunctuation"), ("S", "symbol"), ("Sc", "currencysymbol"),
    ("Sk", "modifiersymbol"), ("Sm", "mathsymbol"), ("So", "othersymbol"), ("Z", "separator"),
    ("Zl", "lineseparator"), ("Zp", "paragraphseparator"), ("Zs", "spaceseparator")]

/-- The names of the properties that are put together from others. -/
def composedNames : List (Property × String × String) :=
  [(.alphabetic, "alpha", "alphabetic"), (.lowercase, "lower", "lowercase"),
    (.uppercase, "upper", "uppercase"), (.cased, "cased", "cased"),
    (.caseIgnorable, "ci", "caseignorable"), (.whiteSpace, "wspace", "whitespace"),
    (.whiteSpace, "space", "whitespace"), (.ignorable, "di", "defaultignorablecodepoint"),
    (.graphemeExtend, "grext", "graphemeextend"), (.graphemeBase, "grbase", "graphemebase"),
    (.identifierStart, "ids", "idstart"), (.identifierPart, "idc", "idcontinue"),
    (.stableIdentifierStart, "xids", "xidstart"), (.stableIdentifierPart, "xidc", "xidcontinue")]

/-- The properties that are told by runs, with their short and long names. -/
def listedTable : List (String × String × List String) :=
  [("ahex", "asciihexdigit", ["N48Y10N7Y6N26Y6"]),
    ("bidic", "bidicontrol", ["N1564YN6641Y2N26Y5N55Y4"]),
    ("bidim", "bidimirrored",
      ["N40Y2N18YNYN28YNYN29YNYN45YN15YN3710Y4N1885Y2N2460Y2N10Y2N54Y2N14Y2N177YN192Y4N3Y6N3Y",
        "N3Y2N3Y4NY4NYNYN4Y9N5YNY18N5Y4N9Y2NYNY8NY32N2Y4N5YN9Y2N2Y19N5Y2N9Y5N2Y2N4Y24N2Y16N8Y4",
        "N20Y2N7Y2N1085Y14N74YN2Y4NY2NY3N5Y4N5Y3N3Y14N403Y22N2Y6NY14N8YN7Y6N3YN4Y5NY2N2Y5N4YNY3",
        "N2Y2N10Y6N2Y2N12Y19NY4N2YNYN2YNY4N5Y2N6Y3N24Y2N11Y2N4Y4NY2N2Y2N4Y43N2Y8NY40N5YNYN3Y5N5",
        "Y3N4YN3Y5NYN256YN515Y4N3Y2NY2N14Y2N2Y10N43Y8N427Y10N2Y8N52797Y6N5Y2N162Y2N18YNYN28YNY",
        "N29YNYNY2NY2N55159YN57YN57YN57YN57Y"]),
    ("dash", "dash",
      ["N45YN1372YN51YN3649YN1029YN2057Y6N61YN39YN15YN390YN3076YN2YN31Y2N4YN28YN446YN19YN111Y",
        "N52624Y2N37YN10YN169YN3680YN318Y"]),
    ("dep", "deprecated", ["N329YN1321YN2307YNYN2089Y2N2245Y6N697Y2N908502Y"]),
    ("dia", "diacritic",
      ["N94YNYN71YN6YN4YN2Y2N503Y159NY8N5Y6N17Y2N4YN9Y2N253Y5N209YN55Y45NYNY2NY2NYN131Y8N4Y2",
        "N134Y2N4Y2N3Y3N67Y27N91Y11N58Y11N34Y2N126Y8N41Y10N16Y28N61YN16YN3Y4N28YN74YN16YN110Y",
        "N16YN110YN16YN47Y3N60YN16YN7YN119YN110YN16YN110YN16YN109Y2N16YN124YN111YN12Y6NYN107Y",
        "N13Y5N75Y2N27YNYNYN4Y2N66Y3NY2N62YN112YNY2N40Y2N4Y5N25Y7NYN10Y2N705Y3N948Y2N30YN148Y11",
        "N9YN347Y3N292YN20Y8N2YN48Y15N2Y11N3Y15N2Y12N72YN15YN38Y9N54Y2N58YN11Y2N66Y2N64Y6N82Y25",
        "N4YN6YN2Y3N50Y63N48Y36N5Y12N37Y11N445YNY3N11Y3N13Y3N13Y3N13Y2N3312Y3N317YN506Y6N105Y4",
        "N95YN30066YN12Y2NYN28Y2N82Y2N14Y34N102Y3N102YN6Y2N12YN37YN151YN27Y18N57Y4N36YN95YN12Y",
        "N36YN149Y3N65Y4N51YN100Y5N9Y3N128Y2N20272YN769Y16N270YNYN47YN45Y2N67YN764YN1183Y6NY42N",
        "Y9N637Y3N4YN165Y2N571Y6N38YN26Y5N396YN2Y3N70Y11N49Y4N192YN41YN72Y2N120Y2N62YN76YN9Y3",
        "N104Y2N178Y2N80Y2N16YN24Y7N3Y5N89Y3NY2N13Y2N95YN3YN123Y2N251Y2N126YN118Y2N115YN269Y2",
        "N258Y2N4YN156YN83YN18YN81YN421YN258YNY2N81YN65YN359Y2N23YN5356Y15N11481YN2496Y5N59Y7",
        "N564Y2N546Y17N80Y2N16382Y4NY7NY2N7937Y46N2Y23N544Y3N3Y6N8Y8N2Y7N30Y4N3714Y62N194Y7N375",
        "YN61Y4N766Y2N736Y7N109Y3NY3"]),
    ("emoji", "emoji",
      ["N35YN6YN5Y10N111YN4YN8077YN12YN216YN22YN90Y6N15Y2N367Y2N12YN166YN25Y11N4Y3N199YN231Y2",
        "N10YN9YN58Y4NY5N9YN2YN2Y2N2YN4YN2YNY2N2YN3YN3Y2N8Y3N5YNYN5Y12N11Y2N2YNY2NYN18YN2Y2N18",
        "Y6NYNY2N3Y2N5YN2Y2N4Y2N11Y2N5Y2N2YN5Y2NYNY2N20Y2N5Y6NY4N2YN4YN2YN2Y6NYN2YNYNYN6YN3YN6Y",
        "N10Y2N15YN2YN4YNYN4Y3NYN11Y2N48Y3N9YN14YN14YN372Y2N463Y3N19Y2N51YN4YN1242YN12YN601YNY",
        "N114026YN202YN160Y2N12Y2N14YN2Y10N75Y26NY2N23YN20YN2Y9N21Y2N174Y34N2Y112N2Y2NY3N2Y83N2",
        "Y3NY263NY63N11Y6NY24N7Y2N2Y8N12YN2Y4N2YN4Y2N13Y2N2YN8Y2N9YN5Y3N12Y3N8Y3N2YNYN4YN6YN3Y",
        "N6Y86N48Y70N5Y8N2Y4N3Y10N3YNY2N3YN2Y10N227Y12N4YN283Y47NY10NY185N112Y13N3Y11N3Y57NYN4",
        "Y16N2Y12N4Y10"]),
    ("ecomp", "emojicomponent",
      ["N35YN6YN5Y10N8147YN213YN56619YN62422Y26N507Y5N1456Y4N788076Y96"]),
    ("emod", "emojimodifier", ["N127995Y5"]),
    ("ebase", "emojimodifierbase",
      ["N9757YN219YN16Y4N117879YN60Y3N2YN2Y3N117Y2N2Y11N21Y19N3YN4Y3NY3N7YNYN24YN201Y2N4YN21Y",
        "N4Y2N174Y3N3Y5N83YN16Y3N9YN11YN575YN2YN8Y8N6YN9Y10N2Y3N56YN61Y2NY2NYN17Y3NY13N229Y3N42",
        "Y9"]),
    ("epres", "emojipresentation",
      ["N8986Y2N205Y4N3YN2YN521Y2N21Y2N50Y12N43YN19YN13YN8Y2N17Y2N5Y2N8YN5YN21YN7Y2NYN4YN2YN7Y",
        "N4Y2N28YN35YNYN4Y3NYN61Y3N24YN14YN859Y2N51YN4YN115886YN202YN190YN2Y10N75Y26NYN24YN20Y",
        "N2Y5NY3N21Y2N174Y33N12Y9NY70NY22N12Y43N4Y5N12Y17N3YN3Y71NYNY187N2Y63N13Y4NY24N18YN26Y2",
        "N13YN86Y85N48Y70N6YN3Y3N2Y4N3Y4N11Y2N7Y9N227Y12N4YN283Y47NY10NY185N112Y13N3Y11N3Y57NY",
        "N4Y16N2Y12N4Y10"]),
    ("extpict", "extendedpictographic",
      ["N169YN4YN8077YN12YN216YN22YN90Y6N15Y2N367Y2N12YN166YN25Y11N4Y3N199YN231Y2N10YN9YN58Y4N",
        "Y5N9YN2YN2Y2N2YN4YN2YNY2N2YN3YN3Y2N8Y3N5YNYN5Y12N11Y2N2YNY2NYN18YN2Y2N18Y6NYNY2N3Y2N5Y",
        "N2Y2N4Y2N11Y2N5Y2N2YN5Y2NYNY2N20Y2N5Y6NY4N2YN4YN2YN2Y6NYN2YNYNYN6YN3YN6YN10Y2N15YN2YN4",
        "YNYN4Y3NYN11Y2N48Y3N9YN14YN14YN372Y2N463Y3N19Y2N51YN4YN1242YN12YN601YNYN114026YN39Y4",
        "N100Y12N15Y2N15YN14Y2N37Y10N112Y2N12Y2N14YN2Y10N19Y56N27Y15N10YN20YN2Y9NY4N9Y23N6Y188",
        "N2Y112N2Y2NY3N2Y83N2Y3NY4N5Y254NY63N11Y6NY24N7Y2N2Y8N12YN2Y4N2YN4Y2N13Y2N2YN8Y2N9YN5Y3",
        "N12Y3N8Y3N2YNYN4YN6YN3YN6Y86N48Y70N5Y8N2Y17N3YNY6N2Y13N218Y38N12Y4N56Y8N10Y6N40Y8N30Y2",
        "N12Y4N2Y14N9Y39N12Y47NY10NY185N88Y8N14Y146N256Y1022"]),
    ("ext", "extender",
      ["N183YN536Y2N878YN441YN630YN137YN89YN752YN127YN2371YN56YN611YN398YN68YN5001YN43Y5N103Y2",
        "N93Y3N28438YN1526YN962YN22YN137YN108YN21Y2N21627YN2064Y2N1483YN27YN4YN1223YN293YN116Y2",
        "N498Y3N1231YN832YN19816Y2N1180Y2NYN14Y2N29000Y2N1201YN852Y3"]),
    ("hex", "hexdigit", ["N48Y10N7Y6N26Y6N65193Y10N7Y6N26Y6"]),
    ("idsb", "idsbinaryoperator", ["N12272Y2N2Y10N497Y"]),
    ("idst", "idstrinaryoperator", ["N12274Y2"]),
    ("ideo", "ideographic",
      ["N12294Y2N25Y9N14Y3N965Y6592N64Y20992N22784Y366N2Y106N29962YN13Y5N9Y7382N41Y32N97Y115",
        "N9085Y396N19716Y42720N32Y4382N2Y5774N2Y7473N15Y622N2466Y542N1506Y4939N5Y8490"]),
    ("joinc", "joincontrol", ["N8204Y2"]),
    ("loe", "logicalorderexception", ["N3648Y5N123Y5N2800Y3N2YN37114Y2N2YNY2"]),
    ("math", "math",
      ["N43YN16Y3N31YN29YNYN45YN4YN37YN31YN728Y3N2YN26Y2N2Y3N527Y3N6669YN27Y3N11YN3YN13YN14Y4",
        "N21Y5N11Y5N65Y13N4YN3Y2N4Y5N18YN4YN2Y10NYN2Y6N6YN3Y2N2Y2NY3NY6N3Y14NYN68Y24NY6NY2N4Y2",
        "N4Y32NYN6Y2N14Y268N8Y4N20Y2N90YN30Y27NYN24YN11Y7N445Y2N12Y10N4Y6N4Y2N2Y2N3Y5N14YNYN2Y6",
        "N11Y8N5Y2N57YNYN29Y4N9Y3N336Y64N256Y512N48Y21N2Y6N53212YN823Y6NYN162YN16Y3N29YNYN29YNY",
        "N131YN6Y4N3489Y2N49504YN1295Y85NY71NY2N2YN2Y2N2Y4NY12NYNY7NY65NY4N2Y8NY7NY28NY4NY5NYN3",
        "Y7NY340N2Y292N2Y50N5632Y4NY27NY2NYN2YNY10NY4NYNYN6YN4YNYNYNY3NY2NYN2YNYNYNYNYNY2NYN2Y4",
        "NY7NY4NY4NYNY10NY17N5Y3NY5NY17N52Y2N2526Y9"]),
    ("nchar", "noncharactercodepoint",
      ["N64976Y32N526Y2N65534Y2N65534Y2N65534Y2N65534Y2N65534Y2N65534Y2N65534Y2N65534Y2N65534",
        "Y2N65534Y2N65534Y2N65534Y2N65534Y2N65534Y2N65534Y2N65534Y2"]),
    ("patsyn", "patternsyntax",
      ["N33Y15N10Y7N26Y4NYN26Y4N34Y7NYNY2NYNY2N4YN4YN3YN23YN31YN7960Y24N8Y15N2Y19NY10N305Y720",
        "N160Y630N30Y1132N512Y128N385Y3N4Y25N15YN52493Y2N261Y2"]),
    ("patws", "patternwhitespace", ["N9Y5N18YN100YN8072Y2N24Y2"]),
    ("qmark", "quotationmark",
      ["N34YN4YN131YN15YN8028Y8N25Y2N3591YN457Y4N13Y3N52769Y4N189YN4YN90Y2"]),
    ("radical", "radical", ["N11904Y26NY89N12Y214"]),
    ("ri", "regionalindicator", ["N127462Y26"]),
    ("sd", "softdotted",
      ["N105Y2N196YN281YN30YN52YN20YN320YN98YNYN6409YN51YN13YN3YN132YN157YN421YN214Y2N2866Y",
        "N108453Y2N50Y2N50Y2N50Y2N50Y2N50Y2N50Y2N50Y2N50Y2N50Y2N50Y2N50Y2N50Y2N2182YN305Y2N26Y"]),
    ("sterm", "sentenceterminal",
      ["N33YN12YN16YN1353YN147Y3N180YN43Y3N246YN61YNYN3Y2N293Y2N1764Y2N790YN4Y2N773YN198Y2N157",
        "Y2N45YN5YN314Y2N354Y4N162Y2N10Y2N2Y2N29Y3N187Y2N65Y2N932YN23Y2N9Y3N3247Y3N306YN13YN22",
        "Y2N429YN29948YN270Y2N227YN3YN382Y2N86Y2N95YN152Y2N147Y3N144Y2N249YN21030YN2Y2N59YN3Y2",
        "N169YN12YN16YN65YN2804Y2N1277Y5N44Y4N189Y2N117Y4N127Y3N129Y2N6YN16Y2N88Y2NY2N108YN298",
        "Y2N117Y2N373Y2N5Y15N105Y2N249Y3N517YNYN251Y2N87Y2N420Y2N692Y2N74Y2N19241Y2N133YN65Y2",
        "N11YN553Y2N296YN19974YN7656Y"]),
    ("term", "terminalpunctuation",
      ["N33YN10YNYN11Y2N3YN830YN8YN513YN57YN72YN14YNY3N180YN43Y11NYN235Y2N54Y6NY8N31YN261Y2",
        "N1268Y2N172YN4Y6N311Y2N789Y8N773YN124Y3N71Y2N157Y3N3YN39Y4N2Y2N314Y2N354Y4N162Y2N10Y2N",
        "Y3N29Y3N187Y5N62Y2N932YN23Y2N9Y3N3247Y3N306YN13YN4YN10YNY2N3Y2N428Y2N29947Y2N269Y3N227",
        "Y5N382Y2N86Y2N95YN151Y3N147Y3N127YN16Y2N249YN21030YN2Y2N57Y3NY4N169YN10YNYN11Y2N3YN65Y",
        "N2YN1082YN48YN1158YN199YN310Y2N152Y6N68Y6N89Y4N952Y5N44Y4N189Y7N112Y4N127Y3N129Y2N6Y",
        "N16Y2N88Y5N108YN298Y2N117Y3N12Y2N358Y4N3Y15N105Y2N249Y3N517YNYN251Y2N87Y2N4Y2N414Y3N45",
        "YN645Y2N74Y2N1323Y5N17913Y2N133YN65Y3N10YN553Y2N295Y2N19974YN7655Y4"]),
    ("uideo", "unifiedideograph",
      ["N13312Y6592N64Y20992N23054Y2NYNY2N10YNYNY2N2Y3N67030Y42720N32Y4382N2Y5774N2Y7473N15",
        "Y622N4514Y4939N5Y8490"]),
    ("vs", "variationselector", ["N6155Y3NYN58864Y16N852720Y240"])]

/-- The properties that are told by runs. -/
def listedNames : List (Property × String × String) :=
  listedTable.map fun (short, long, table) => (.listed (flagRuns table), short, long)

namespace Property

/-- The category or group of categories with a name or a code in small letters. -/
def categoryNamed? (name : Text) : Option Property :=
  if name = "any".toList then some .any
  else if name = "assigned".toList then some .assigned
  else if name = "ascii".toList then some .ascii
  else if name = "lc".toList || name = "casedletter".toList then some .casedLetter
  else
    (categoryNames.find? fun (code, long) =>
      code.toList.map Char.toLower = name || long.toList = name).map fun (code, _) =>
        .category code.toList

/-- The class with a name in small letters: a property, a category or a script. -/
def named? (name : Text) : Option Property :=
  let found := (composedNames ++ listedNames).find? fun (_, short, long) =>
    short.toList = name || long.toList = name
  (found.map Prod.fst).or ((categoryNamed? name).or ((Script.named? name).map .script))

end Property

end StudyGraph.Text
