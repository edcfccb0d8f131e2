import Switchboard.Property.BreakTable
import Switchboard.Property.Flag

/-!
# Break classes

The classes of characters by which texts are split into clusters of characters, into words and
into sentences, each under its long name and its short one.
-/

namespace Switchboard.Property

open Switchboard.Text

/-- The classes for clusters of characters. -/
def clusterClasses : List (List String × Property) :=
  [(["cr"], ⟨[carriageReturn], []⟩),
    (["lf"], ⟨[lineFeed], []⟩),
    (["control", "cn"], ⟨[clusterControls], []⟩),
    (["extend", "ex"], ⟨extending ++ [emojiModifiers], []⟩),
    (["zwj"], ⟨[joiner], []⟩),
    (["regionalindicator", "ri"], ⟨[regionalIndicators], []⟩),
    (["prepend", "pp"], ⟨[clusterPrepended], []⟩),
    (["spacingmark", "sm"], ⟨[spacingMarks, spacingLetters], [otherExtending, separateMarks]⟩),
    (["l"], ⟨[leadingJamo], []⟩),
    (["v"], ⟨[vowelJamo], []⟩),
    (["t"], ⟨[trailingJamo], []⟩),
    (["lv"], ⟨[openSyllables], []⟩),
    (["lvt"], ⟨[syllables], [openSyllables]⟩)]

/-- The classes for words. -/
def wordClasses : List (List String × Property) :=
  [(["cr"], ⟨[carriageReturn], []⟩),
    (["lf"], ⟨[lineFeed], []⟩),
    (["newline", "nl"], ⟨[newlines], []⟩),
    (["extend"], ⟨extending ++ [spacingMarks, emojiModifiers], []⟩),
    (["zwj"], ⟨[joiner], []⟩),
    (["regionalindicator", "ri"], ⟨[regionalIndicators], []⟩),
    (["format", "fo"], ⟨[wordFormats], []⟩),
    (["katakana", "ka"], ⟨[katakanaLetters], []⟩),
    (["hebrewletter", "hl"], ⟨[hebrewLetters], []⟩),
    (["aletter", "le"],
      ⟨alphabetic.within ++ [letterSigns],
        extending ++ [spacingMarks, unifiedIdeographs, otherIdeographs, hebrewLetters,
          katakanaLetters, unspacedLetters]⟩),
    (["singlequote", "sq"], ⟨[singleQuote], []⟩),
    (["doublequote", "dq"], ⟨[doubleQuote], []⟩),
    (["midnumlet", "mb"], ⟨[midBoth], []⟩),
    (["midletter", "ml"], ⟨[midLetters], []⟩),
    (["midnum", "mn"], ⟨[midNumbers], []⟩),
    (["numeric", "nu"], ⟨[decimalNumbers, numberSigns], []⟩),
    (["extendnumlet", "ex"], ⟨[connectors, wordConnectors], []⟩),
    (["wsegspace"], ⟨[wordSpaces], []⟩)]

/-- The classes for sentences. -/
def sentenceClasses : List (List String × Property) :=
  [(["cr"], ⟨[carriageReturn], []⟩),
    (["lf"], ⟨[lineFeed], []⟩),
    (["extend", "ex"], ⟨extending ++ [spacingMarks, joiner], []⟩),
    (["sep", "se"], ⟨[sentenceSeparators], []⟩),
    (["format", "fo"], ⟨[sentenceFormats], []⟩),
    (["sp"], ⟨[sentenceSpaces], []⟩),
    (["lower", "lo"], ⟨lowercase.within, [uncasedLowercase]⟩),
    (["upper", "up"], ⟨titlecaseLetters :: uppercase.within, [uncasedUppercase]⟩),
    (["oletter", "le"],
      ⟨[modifierLetters, otherLetters, letterNumbers, otherAlphabetic, caselessLetters],
        [otherLowercase, otherUppercase, nonspacingMarks, spacingMarks, otherExtending]⟩),
    (["numeric", "nu"], ⟨[decimalNumbers, sentenceNumbers], []⟩),
    (["aterm", "at"], ⟨[sentenceTerms], []⟩),
    (["scontinue", "sc"], ⟨[sentenceContinues], []⟩),
    (["sterm", "st"], ⟨[sentenceTerminals], [sentenceTerms]⟩),
    (["close", "cl"],
      ⟨[openingMarks, closingMarks, initialQuotes, finalQuotes, sentenceQuotes], []⟩)]

end Switchboard.Property
