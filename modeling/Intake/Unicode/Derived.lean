import Intake.Text.Blank
import Intake.Unicode.CaseMap
import Intake.Unicode.Category
import Intake.Unicode.Property

set_option autoImplicit false

/-!
# Properties that follow from others

Most properties of characters follow from the general category and from a few lists. All sets here
hold characters that patterns know, and no others.

## Main definitions

* `CharProperty.category` — the characters of some general categories.
* `CharProperty.alphabetic`, `CharProperty.idStart` and so on — the properties.
* `CharProperty.word` — the characters of words.
-/

namespace Intake

namespace CharProperty

/-! ### Categories -/

/-- A letter whose lower case is a matter of history: patterns count it among lower-case letters,
the newest version among letters without a case. -/
def formerLowercase : CharSet := .ofPoints [0x295]

/-- The characters of some general categories, of which `Cn` is none. -/
def category (names : List String) : CharSet :=
  let listed := (charsOfCategory names).inter knownChars
  if names.contains "Ll" then listed.union formerLowercase else listed.diff formerLowercase

/-- The characters that have a general category. -/
def assigned : CharSet := categoryTable.domain.inter knownChars

/-- Letters. -/
def letter : CharSet := category ["Lu", "Ll", "Lt", "Lm", "Lo"]

/-! ### Letters and cases -/

/-- The known characters of some sets. -/
def known (sets : List CharSet) : CharSet := (CharSet.unions sets).inter knownChars

/-- Alphabetic characters. -/
def alphabetic : CharSet := known [letter, category ["Nl"], otherAlphabetic]

/-- Lower-case characters. -/
def lowercase : CharSet := known [category ["Ll"], otherLowercase]

/-- Upper-case characters. -/
def uppercase : CharSet := known [category ["Lu"], otherUppercase]

/-- Characters that have a case. -/
def cased : CharSet := .unions [lowercase, uppercase, category ["Lt"]]

/-- Characters that are skipped when the case of their surroundings is asked for. -/
def caseIgnorable : CharSet := .union (category ["Mn", "Me", "Cf", "Lm", "Sk"]) midWord

/-- Characters that another form takes the place of in lower case. -/
def changesWhenLowercased : CharSet := .ofPoints (0x130 :: loweredPoints)

/-- Characters whose upper case has no way back to them: those that become several characters, and
those that share their upper case. -/
def otherRaised : CharSet := .ofHex [
  "B5 131 149 17F 1C5 1C8 1CB 1F0 1F2 345 390 3B0 3C2 3D0-3D1 3D5-3D6 3F0-3F1 3F5 587 1C80-1C88",
  "1E96-1E9B 1F50 1F52 1F54 1F56 1F88-1F8F 1F98-1F9F 1FA8-1FAF 1FB2 1FB4 1FB6-1FB7 1FBC 1FBE 1FC2",
  "1FC4 1FC6-1FC7 1FCC 1FD2-1FD3 1FD6-1FD7 1FE2-1FE4 1FE6-1FE7 1FF2 1FF4 1FF6-1FF7 1FFC FB00-FB06",
  "FB13-FB17"]

/-- Characters that another form takes the place of in upper case. -/
def changesWhenUppercased : CharSet := .union (.ofPoints (loweredPoints.map lowerPoint)) otherRaised

/-- Upper-case digraphs, which begin with one capital only in a title. -/
def upperDigraph : CharSet := .ofPoints [0x1C4, 0x1C7, 0x1CA, 0x1F1]

/-- Characters that stay as they are in a title but not in upper case. -/
def keptInTitle : CharSet := .ofHex [
  "1C5 1C8 1CB 1F2 10D0-10FA 10FD-10FF 1F88-1F8F 1F98-1F9F 1FA8-1FAF 1FBC 1FCC 1FFC"]

/-- Characters that another form takes the place of at the front of a title. -/
def changesWhenTitlecased : CharSet := (changesWhenUppercased.union upperDigraph).diff keptInTitle

/-- Characters that are no capitals but have a representative among those that differ in case. -/
def otherFolded : CharSet := .ofHex [
  "B5 DF 149 17F 345 3C2 3D0-3D1 3D5-3D6 3F0-3F1 3F5 587 13F8-13FD 1C80-1C88 1E9A-1E9B 1F80-1F87",
  "1F90-1F97 1FA0-1FA7 1FB2-1FB4 1FB7 1FC2-1FC4 1FC7 1FF2-1FF4 1FF7 AB70-ABBF FB00-FB06",
  "FB13-FB17"]

/-- Characters that are not their own representative among those that differ in case. The capitals
from U+13A0 to U+13F5 are. -/
def changesWhenCasefolded : CharSet :=
  (changesWhenLowercased.union otherFolded).diff (.range 0x13A0 0x13F5)

/-- Characters that any change of case changes. -/
def changesWhenCasemapped : CharSet :=
  .unions [changesWhenLowercased, changesWhenUppercased, changesWhenTitlecased]

/-! ### Names -/

/-- Signs of formal languages. -/
def formalSyntax : CharSet := patternSyntax.union patternWhiteSpace

/-- Characters that names may begin with. -/
def idStart : CharSet :=
  (CharSet.unions [letter, category ["Nl"], otherIdStart]).diff formalSyntax

/-- Characters that names may have behind their first. -/
def idContinue : CharSet :=
  (CharSet.unions [idStart, category ["Mn", "Mc", "Nd", "Pc"], otherIdContinue]).diff formalSyntax

/-- Characters that names cannot have if they are to stay names in every normal form. -/
def unstableInNames : CharSet := .ofHex [
  "37A 309B-309C FC5E-FC63 FDFA-FDFB FE70 FE72 FE74 FE76 FE78 FE7A FE7C FE7E"]

/-- Characters that names may begin with in every normal form. -/
def xidStart : CharSet := idStart.diff (unstableInNames.union (.ofHex ["E33 EB3 FF9E-FF9F"]))

/-- Characters that names may have behind their first in every normal form. -/
def xidContinue : CharSet := idContinue.diff unstableInNames

/-! ### Pictures -/

/-- Mathematical characters. -/
def mathematical : CharSet := known [category ["Sm"], otherMath]

/-- Characters that extend the one before them. -/
def graphemeExtend : CharSet := known [category ["Mn", "Me"], otherGraphemeExtend]

/-- Characters that others may extend. -/
def graphemeBase : CharSet :=
  assigned.diff (.union graphemeExtend (category ["Cc", "Cf", "Cs", "Co", "Zl", "Zp"]))

/-- Marks of annotations and of the arrangement of hieroglyphs, which a text must show. -/
def shownFormat : CharSet := .ofHex ["FFF9-FFFB 13430-13440"]

/-- Characters without a picture that a text need not show. -/
def defaultIgnorable : CharSet :=
  (CharSet.unions [otherDefaultIgnorable, category ["Cf"], variationSelector]).diff
    (.unions [.ofSpans blankSpans, shownFormat, prependedConcatenationMark])

/-! ### Words -/

/-- Decimal digits. -/
def digit : CharSet := category ["Nd"]

/-- White space. -/
def blank : CharSet := .ofSpans blankSpans

/-- The characters of words. -/
def word : CharSet :=
  .unions [alphabetic, category ["Mn", "Mc", "Me", "Nd", "Pc"], joinControl]

end CharProperty

end Intake
