/-!
# UTF-8

Decoding of bytes, by the rules of the standard: no overlong forms, no surrogates, nothing above
U+10FFFF. `decode` gives the characters or the place and kind of the first fault. A fault is either
a sequence of one to three bytes that can start no character, or an end of input inside one.
-/

namespace Switchboard.Text.Utf8

/-- The first fault of a byte sequence that is not UTF-8. -/
inductive Fault where
  /-- `length` bytes from `start` on begin no character. -/
  | invalid (start length : Nat)
  /-- The input ends inside the character that begins at `start`. -/
  | incomplete (start : Nat)
  deriving Repr, DecidableEq

/-- The wording of a fault. -/
def Fault.message : Fault → String
  | .invalid start length =>
    s!"invalid utf-8 sequence of {length} bytes from index {start}"
  | .incomplete start => s!"incomplete utf-8 byte sequence from index {start}"

/-- A continuation byte. -/
def isContinuation (b : UInt8) : Bool := 0x80 ≤ b && b ≤ 0xBF

/-- How many continuation bytes follow a leading byte, and the range of the first of them. -/
def leading? (b : UInt8) : Option (Nat × UInt8 × UInt8) :=
  if 0xC2 ≤ b && b ≤ 0xDF then some (1, 0x80, 0xBF)
  else if b == 0xE0 then some (2, 0xA0, 0xBF)
  else if (0xE1 ≤ b && b ≤ 0xEC) || b == 0xEE || b == 0xEF then some (2, 0x80, 0xBF)
  else if b == 0xED then some (2, 0x80, 0x9F)
  else if b == 0xF0 then some (3, 0x90, 0xBF)
  else if 0xF1 ≤ b && b ≤ 0xF3 then some (3, 0x80, 0xBF)
  else if b == 0xF4 then some (3, 0x80, 0x8F)
  else none

/-- The value bits of a leading byte that `n` continuation bytes follow. -/
def leadingBits (n : Nat) (b : UInt8) : Nat :=
  if n = 1 then b.toNat % 32 else if n = 2 then b.toNat % 16 else b.toNat % 8

/-- The value bits of a continuation byte. -/
def continuationBits (b : UInt8) : Nat := b.toNat % 64

/-- Reads the characters of `bytes`, of which the first has index `start`. -/
def decodeFrom (start : Nat) (bytes : List UInt8) : Except Fault (List Char) :=
  match bytes with
  | [] => .ok []
  | b :: rest =>
    if b < 0x80 then (decodeFrom (start + 1) rest).map (Char.ofNat b.toNat :: ·)
    else
      match leading? b with
      | none => .error (.invalid start 1)
      | some (n, low, high) =>
        match rest with
        | [] => .error (.incomplete start)
        | b1 :: rest1 =>
          if !(low ≤ b1 && b1 ≤ high) then .error (.invalid start 1)
          else if n = 1 then
            (decodeFrom (start + 2) rest1).map
              (Char.ofNat (leadingBits 1 b * 64 + continuationBits b1) :: ·)
          else
            match rest1 with
            | [] => .error (.incomplete start)
            | b2 :: rest2 =>
              if !isContinuation b2 then .error (.invalid start 2)
              else if n = 2 then
                (decodeFrom (start + 3) rest2).map
                  (Char.ofNat (leadingBits 2 b * 4096 + continuationBits b1 * 64 +
                    continuationBits b2) :: ·)
              else
                match rest2 with
                | [] => .error (.incomplete start)
                | b3 :: rest3 =>
                  if !isContinuation b3 then .error (.invalid start 3)
                  else
                    (decodeFrom (start + 4) rest3).map
                      (Char.ofNat (leadingBits 3 b * 262144 + continuationBits b1 * 4096 +
                        continuationBits b2 * 64 + continuationBits b3) :: ·)
  termination_by bytes.length

/-- The text that bytes encode, or their first fault. -/
def decode (bytes : List UInt8) : Except Fault String :=
  (decodeFrom 0 bytes).map String.ofList

/-- The bytes of a text. -/
def encode (s : String) : List UInt8 := s.toUTF8.toList

end Switchboard.Text.Utf8
