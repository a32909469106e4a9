import Intake.Unicode.Boundary

set_option autoImplicit false

/-!
# Names of sets of characters

A set of characters can be named by a general category, by a script, by a property that characters
have or lack, or by the value of a property. Names are compared without regard to case, blanks,
hyphens and underscores, and without a leading `is`.

## Main definitions

* `CharSet.named?`, `CharSet.valued?` — the set that a name means, or a property and its value.
* `CharSet.ascii?` — the sets of ASCII characters that have names of their own.
-/

namespace Intake

open CharProperty

namespace CharSet

/-! ### Categories and scripts -/

/-- The general categories under each of their names. -/
def categoryNames : List (List String × List String) := [
  (["lu", "uppercaseletter"], ["Lu"]), (["ll", "lowercaseletter"], ["Ll"]),
  (["lt", "titlecaseletter"], ["Lt"]), (["lm", "modifierletter"], ["Lm"]),
  (["lo", "otherletter"], ["Lo"]), (["lc", "casedletter"], ["Lu", "Ll", "Lt"]),
  (["l", "letter"], ["Lu", "Ll", "Lt", "Lm", "Lo"]),
  (["mn", "nonspacingmark"], ["Mn"]), (["mc", "spacingmark"], ["Mc"]),
  (["me", "enclosingmark"], ["Me"]), (["m", "mark", "combiningmark"], ["Mn", "Mc", "Me"]),
  (["nd", "decimalnumber", "digit"], ["Nd"]), (["nl", "letternumber"], ["Nl"]),
  (["no", "othernumber"], ["No"]), (["n", "number"], ["Nd", "Nl", "No"]),
  (["pc", "connectorpunctuation"], ["Pc"]), (["pd", "dashpunctuation"], ["Pd"]),
  (["ps", "openpunctuation"], ["Ps"]), (["pe", "closepunctuation"], ["Pe"]),
  (["pi", "initialpunctuation"], ["Pi"]), (["pf", "finalpunctuation"], ["Pf"]),
  (["po", "otherpunctuation"], ["Po"]),
  (["p", "punctuation", "punct"], ["Pc", "Pd", "Ps", "Pe", "Pi", "Pf", "Po"]),
  (["sm", "mathsymbol"], ["Sm"]), (["sc", "currencysymbol"], ["Sc"]),
  (["sk", "modifiersymbol"], ["Sk"]), (["so", "othersymbol"], ["So"]),
  (["s", "symbol"], ["Sm", "Sc", "Sk", "So"]),
  (["zs", "spaceseparator"], ["Zs"]), (["zl", "lineseparator"], ["Zl"]),
  (["zp", "paragraphseparator"], ["Zp"]), (["z", "separator"], ["Zs", "Zl", "Zp"]),
  (["cc", "control", "cntrl"], ["Cc"]), (["cf", "format"], ["Cf"]),
  (["co", "privateuse"], ["Co"])]

/-- The characters without a general category. -/
def unassigned : CharSet := assigned.complement

/-- The set of a general category, by a name in small letters. -/
def category? : String → Option CharSet
  | "any" => some all
  | "assigned" => some assigned
  | "ascii" => some (range 0 127)
  | "cn" | "unassigned" => some unassigned
  | "c" | "other" => some (union (category ["Cc", "Cf", "Co"]) unassigned)
  | name => (categoryNames.find? fun e => e.1.contains name).map fun e => category e.2

/-- The set of a script, by a name in small letters. -/
def script? (name : String) : Option CharSet := (scriptCode? name).map charsOfScript

/-- The set of the characters that are used with a script, by a name in small letters. -/
def usedWith? (name : String) : Option CharSet := (scriptCode? name).map charsUsedWith

/-- The set of the characters that a version of the standard knows, by its number or its name in
small letters, such as `3.2` or `v32`. -/
def age? (name : String) : Option CharSet :=
  (versions.find? fun v =>
    v == name || String.ofList ('v' :: v.toList.filter (· != '.')) == name).bind charsUpTo?

/-! ### Properties -/

/-- The set of the characters that have a property, by a name in small letters. -/
def property? : String → Option CharSet
  | "ahex" | "asciihexdigit" => some asciiHexDigit
  | "alpha" | "alphabetic" => some alphabetic
  | "bidic" | "bidicontrol" => some bidiControl
  | "ci" | "caseignorable" => some caseIgnorable
  | "cased" => some cased
  | "cwcf" | "changeswhencasefolded" => some changesWhenCasefolded
  | "cwcm" | "changeswhencasemapped" => some changesWhenCasemapped
  | "cwl" | "changeswhenlowercased" => some changesWhenLowercased
  | "cwt" | "changeswhentitlecased" => some changesWhenTitlecased
  | "cwu" | "changeswhenuppercased" => some changesWhenUppercased
  | "dash" => some dash
  | "dep" | "deprecated" => some deprecatedChars
  | "di" | "defaultignorablecodepoint" => some defaultIgnorable
  | "dia" | "diacritic" => some diacritic
  | "ebase" | "emojimodifierbase" => some emojiModifierBase
  | "ecomp" | "emojicomponent" => some emojiComponent
  | "emod" | "emojimodifier" => some emojiModifier
  | "emoji" => some emoji
  | "epres" | "emojipresentation" => some emojiPresentation
  | "ext" | "extender" => some extender
  | "extpict" | "extendedpictographic" => some extendedPictographic
  | "grbase" | "graphemebase" => some graphemeBase
  | "grext" | "graphemeextend" => some graphemeExtend
  | "grlink" | "graphemelink" => some graphemeLink
  | "hex" | "hexdigit" => some hexDigit
  | "hyphen" => some hyphen
  | "idc" | "idcontinue" => some idContinue
  | "idcompatmathcontinue" => some compatMathContinue
  | "idcompatmathstart" => some compatMathStart
  | "ideo" | "ideographic" => some ideographic
  | "ids" | "idstart" => some idStart
  | "idsb" | "idsbinaryoperator" => some idsBinaryOperator
  | "idst" | "idstrinaryoperator" => some idsTrinaryOperator
  | "idsu" | "idsunaryoperator" => some idsUnaryOperator
  | "joinc" | "joincontrol" => some joinControl
  | "loe" | "logicalorderexception" => some logicalOrderException
  | "lower" | "lowercase" => some lowercase
  | "math" => some mathematical
  | "mcm" | "modifiercombiningmark" => some modifierCombiningMark
  | "nchar" | "noncharactercodepoint" => some noncharacter
  | "oalpha" | "otheralphabetic" => some (known [otherAlphabetic])
  | "odi" | "otherdefaultignorablecodepoint" => some otherDefaultIgnorable
  | "ogrext" | "othergraphemeextend" => some otherGraphemeExtend
  | "oidc" | "otheridcontinue" => some otherIdContinue
  | "oids" | "otheridstart" => some otherIdStart
  | "olower" | "otherlowercase" => some (known [otherLowercase])
  | "omath" | "othermath" => some otherMath
  | "oupper" | "otheruppercase" => some otherUppercase
  | "patsyn" | "patternsyntax" => some patternSyntax
  | "patws" | "patternwhitespace" => some patternWhiteSpace
  | "pcm" | "prependedconcatenationmark" => some prependedConcatenationMark
  | "qmark" | "quotationmark" => some quotationMark
  | "radical" => some radical
  | "ri" | "regionalindicator" => some regionalIndicator
  | "sd" | "softdotted" => some softDotted
  | "sterm" | "sentenceterminal" => some sentenceTerminal
  | "term" | "terminalpunctuation" => some terminalPunctuation
  | "uideo" | "unifiedideograph" => some unifiedIdeograph
  | "upper" | "uppercase" => some uppercase
  | "vs" | "variationselector" => some variationSelector
  | "wspace" | "whitespace" | "space" => some blank
  | "xidc" | "xidcontinue" => some xidContinue
  | "xids" | "xidstart" => some xidStart
  | _ => none

/-! ### Names -/

/-- Whether a name begins with `is`, which does not count. -/
def startsWithIs : List Char → Bool
  | a :: b :: _ => ['i', 'I'].contains a && ['s', 'S'].contains b
  | _ => false

/-- A name without a leading `is` and without blanks, hyphens, underscores and characters beyond
ASCII, in small letters. The name `isc` is kept, for it does not mean `c`. -/
def looseName (name : List Char) : String :=
  let kept := (if startsWithIs name then name.drop 2 else name).filter fun c =>
    decide (c.toNat < 128) && !(c == ' ' || c == '-' || c == '_')
  let loose := String.ofList (kept.map Char.toLower)
  if startsWithIs name && loose == "c" then "isc" else loose

/-- The set that a name means: a property, a general category or a script. -/
def named? (name : List Char) : Option CharSet :=
  let name := looseName name
  (property? name).or ((category? name).or (script? name))

/-- The set that a value of a property means. -/
def valued? (property value : List Char) : Option CharSet :=
  let value := looseName value
  match looseName property with
  | "gc" | "generalcategory" => category? value
  | "sc" | "script" => script? value
  | "scx" | "scriptextensions" => usedWith? value
  | "age" => age? value
  | "gcb" | "graphemeclusterbreak" => graphemeClass? value
  | "wb" | "wordbreak" => wordClass? value
  | "sb" | "sentencebreak" => sentenceClass? value
  | _ => none

/-! ### Sets of ASCII characters -/

/-- The sets of ASCII characters that have a name of their own. -/
def ascii? : String → Option CharSet
  | "alnum" => some (ofSpans [(48, 57), (65, 90), (97, 122)])
  | "alpha" => some (ofSpans [(65, 90), (97, 122)])
  | "ascii" => some (range 0 127)
  | "blank" => some (ofPoints [9, 32])
  | "cntrl" => some (ofSpans [(0, 31), (127, 127)])
  | "digit" => some (range 48 57)
  | "graph" => some (range 33 126)
  | "lower" => some (range 97 122)
  | "print" => some (range 32 126)
  | "punct" => some (ofSpans [(33, 47), (58, 64), (91, 96), (123, 126)])
  | "space" => some (ofSpans [(9, 13), (32, 32)])
  | "upper" => some (range 65 90)
  | "word" => some (ofSpans [(48, 57), (65, 90), (95, 95), (97, 122)])
  | "xdigit" => some (ofSpans [(48, 57), (65, 70), (97, 102)])
  | _ => none

/-- The digits: of all scripts, or of ASCII. -/
def digits (unicode : Bool) : CharSet := if unicode then digit else range 48 57

/-- The blanks: of Unicode, or of ASCII. -/
def blanks (unicode : Bool) : CharSet := if unicode then blank else ofSpans [(9, 13), (32, 32)]

/-- The characters of words: of Unicode, or of ASCII. -/
def wordCharacters (unicode : Bool) : CharSet :=
  if unicode then word else ofSpans [(48, 57), (65, 90), (95, 95), (97, 122)]

end CharSet

end Intake
