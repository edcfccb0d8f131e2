import Switchboard.Text.LowercaseTable
import Switchboard.Text.CasedTable

/-!
# Lowercase text

Full lowercase mapping of a text: each character by its simple mapping, the dotted capital I as two
characters, and the capital sigma as final sigma where a cased letter stands before it and none
after it (marks and modifiers in between are skipped).
-/

namespace Switchboard.Text

/-- The lowercase form of one character where that is one character. -/
def lowerChar (c : Char) : Char :=
  if c.toNat < 0x80 then c.toLower else shiftCase lowercaseRuns c

/-- Whether the first character that is not skipped is a cased letter. -/
def meetsCased (cs : List Char) : Bool :=
  match cs.dropWhile fun c => caseIgnorableRanges.has c.toNat with
  | [] => false
  | c :: _ => casedRanges.has c.toNat

/-- The capital sigma. -/
def capitalSigma : Char := 'Σ'

/-- Lowercases `rest`, where `before` holds the characters in front of it, nearest first. -/
def lowerFrom (before : List Char) : List Char → List Char
  | [] => []
  | c :: rest =>
    let mapped :=
      if c = capitalSigma then
        if meetsCased before && !meetsCased rest then ['ς'] else ['σ']
      else if c = 'İ' then ['i', Char.ofNat 0x307]
      else [lowerChar c]
    mapped ++ lowerFrom (c :: before) rest

/-- The lowercase form of a text. -/
def lowercase (s : String) : String := String.ofList (lowerFrom [] s.toList)

end Switchboard.Text
