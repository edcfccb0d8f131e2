import Switchboard.Property.Category
import Switchboard.Property.FlagTable

/-!
# Properties that are had or not

Properties with the values yes and no, each under its long name and its short one. Most of them
are made up of general categories and of a few characters more.
-/

namespace Switchboard.Property

open Switchboard.Text

/-- The characters of words: letters, marks, decimal digits, connectors and joiners. -/
def word : Property :=
  ⟨letters ++ [decimalNumbers, connectors, letterNumbers, otherAlphabetic] ++ marks ++
    [joinControls], []⟩

def alphabetic : Property := ⟨letters ++ [letterNumbers, otherAlphabetic], []⟩

def lowercase : Property := ⟨[lowercaseLetters, otherLowercase], []⟩

def uppercase : Property := ⟨[uppercaseLetters, otherUppercase], []⟩

/-- All characters with a case. -/
def casedRuns : List Runs := titlecaseLetters :: lowercase.within ++ uppercase.within

/-- Characters that go with the one before them. -/
def extending : List Runs := [nonspacingMarks, enclosingMarks, otherExtending]

/-- Characters that can start a name. -/
def nameStarts : List Runs := letters ++ [letterNumbers, otherNameStarts]

/-- Characters that can stand in a name. -/
def nameParts : List Runs :=
  nameStarts ++ [nonspacingMarks, spacingMarks, decimalNumbers, connectors, otherNameParts]

/-- The properties of letters and names. -/
def letterFlags : List (List String × Property) :=
  [(["alphabetic", "alpha"], alphabetic),
    (["lowercase", "lower"], lowercase),
    (["uppercase", "upper"], uppercase),
    (["cased"], ⟨casedRuns, []⟩),
    (["caseignorable", "ci"],
      ⟨[nonspacingMarks, enclosingMarks, formats, modifierLetters, modifierSymbols,
        midWordSigns], []⟩),
    (["changeswhenlowercased", "cwl"],
      ⟨titlecaseLetters :: uppercase.within, [withoutLowercase]⟩),
    (["changeswhenuppercased", "cwu"],
      ⟨titlecaseLetters :: lowercase.within, [withoutUppercase]⟩),
    (["changeswhentitlecased", "cwt"],
      ⟨titlecaseLetters :: digraphCapitals :: lowercase.within,
        [withoutUppercase, ownTitlecase]⟩),
    (["changeswhencasefolded", "cwcf"],
      ⟨titlecaseLetters :: folded :: uppercase.within, [withoutLowercase, unfoldedCapitals]⟩),
    (["changeswhencasemapped", "cwcm"], ⟨casedRuns, [withoutLowercase, withoutUppercase]⟩),
    (["softdotted", "sd"], ⟨[softDotted], []⟩),
    (["idstart", "ids"], ⟨nameStarts, [syntaxLetters]⟩),
    (["idcontinue", "idc"], ⟨nameParts, [syntaxLetters]⟩),
    (["xidstart", "xids"], ⟨nameStarts, [syntaxLetters, unstableParts, unstableStarts]⟩),
    (["xidcontinue", "xidc"], ⟨nameParts, [syntaxLetters, unstableParts]⟩),
    (["idcompatmathstart"], ⟨[mathStarts], []⟩),
    (["idcompatmathcontinue"], ⟨[mathParts], []⟩),
    (["ideographic", "ideo"], ⟨[unifiedIdeographs, otherIdeographs], []⟩),
    (["unifiedideograph", "uideo"], ⟨[unifiedIdeographs], []⟩),
    (["radical"], ⟨[radicals], []⟩),
    (["idsbinaryoperator", "idsb"], ⟨[binaryOperators], []⟩),
    (["idstrinaryoperator", "idst"], ⟨[trinaryOperators], []⟩),
    (["idsunaryoperator", "idsu"], ⟨[unaryOperators], []⟩),
    (["otheralphabetic", "oalpha"], ⟨[otherAlphabetic], []⟩),
    (["otherlowercase", "olower"], ⟨[otherLowercase], []⟩),
    (["otheruppercase", "oupper"], ⟨[otherUppercase], []⟩),
    (["otheridstart", "oids"], ⟨[otherNameStarts], []⟩),
    (["otheridcontinue", "oidc"], ⟨[otherNameParts], []⟩)]

/-- The properties of digits, marks and signs. -/
def signFlags : List (List String × Property) :=
  [(["whitespace", "wspace", "space"], ⟨separators ++ [blankControls], []⟩),
    (["asciihexdigit", "ahex"], ⟨[asciiHexDigits], []⟩),
    (["hexdigit", "hex"], ⟨[hexDigits], []⟩),
    (["math"], ⟨[mathSymbols, otherMath], []⟩),
    (["othermath", "omath"], ⟨[otherMath], []⟩),
    (["dash"], ⟨[dashes, otherDashes], []⟩),
    (["hyphen"], ⟨[hyphens], []⟩),
    (["quotationmark", "qmark"], ⟨[quotationMarks], []⟩),
    (["sentenceterminal", "sterm"], ⟨[sentenceTerminals], []⟩),
    (["terminalpunctuation", "term"], ⟨[sentenceTerminals, otherTerminals], []⟩),
    (["patternsyntax", "patsyn"], ⟨[patternSyntax], []⟩),
    (["patternwhitespace", "patws"], ⟨[patternBlanks], []⟩),
    (["diacritic", "dia"], ⟨[diacritics], []⟩),
    (["extender", "ext"], ⟨[extenders], []⟩),
    (["modifiercombiningmark", "mcm"], ⟨[modifierMarks], []⟩),
    (["prependedconcatenationmark", "pcm"], ⟨[prependedMarks], []⟩),
    (["graphemebase", "grbase"],
      ⟨letters ++ marks ++ numbers ++ punctuation ++ symbols ++ [spaces], extending⟩),
    (["graphemeextend", "grext"], ⟨extending, []⟩),
    (["graphemelink", "grlink"], ⟨[graphemeLinks], []⟩),
    (["othergraphemeextend", "ogrext"], ⟨[otherExtending], []⟩)]

/-- The properties of what is shown in a special way or not at all. -/
def displayFlags : List (List String × Property) :=
  [(["emoji"], ⟨[emoji], []⟩),
    (["emojicomponent", "ecomp"], ⟨[emojiComponents], []⟩),
    (["emojimodifier", "emod"], ⟨[emojiModifiers], []⟩),
    (["emojimodifierbase", "ebase"], ⟨[emojiModifierBases], []⟩),
    (["emojipresentation", "epres"], ⟨[emojiPresentations], []⟩),
    (["extendedpictographic", "extpict"], ⟨[pictographs], []⟩),
    (["regionalindicator", "ri"], ⟨[regionalIndicators], []⟩),
    (["bidicontrol", "bidic"], ⟨[bidiControls], []⟩),
    (["bidimirrored", "bidim"], ⟨[bidiMirrored], []⟩),
    (["joincontrol", "joinc"], ⟨[joinControls], []⟩),
    (["variationselector", "vs"], ⟨[variationSelectors], []⟩),
    (["defaultignorablecodepoint", "di"],
      ⟨[formats, variationSelectors, otherIgnorable], [visibleFormats]⟩),
    (["otherdefaultignorablecodepoint", "odi"], ⟨[otherIgnorable], []⟩),
    (["logicalorderexception", "loe"], ⟨[logicalOrderExceptions], []⟩),
    (["deprecated", "dep"], ⟨[deprecated], []⟩),
    (["noncharactercodepoint", "nchar"], ⟨[noncharacters], []⟩)]

/-- All properties that are had or not, by their names. -/
def flags : List (List String × Property) := letterFlags ++ signFlags ++ displayFlags

end Switchboard.Property
