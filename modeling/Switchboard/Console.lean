import Switchboard.Message
import Switchboard.Error
import Switchboard.Text.Substitute
import Switchboard.Text.Utf8

/-!
# The console bot

A bot over lines of text. `.help` asks for the listing, `.abort` drops the conversation, and every
other line that is not blank is an ordinary message. An output is written by a format whose first
placeholder takes the destination and whose second takes the content.
-/

namespace Switchboard

/-- A bot that reads lines and writes lines. -/
structure Console where
  botType : BotType
  /-- The form of an output line. -/
  format : String := "\x1b[36m[\x7b\x7d]\x1b[0m \x7b\x7d"
  deriving Repr, Inhabited

namespace Console

/-- The mark in a format that a text replaces. -/
def placeholder : List Char := ['\x7b', '\x7d']

/-- There is one user at the console. -/
def sender (c : Console) : String := c.botType.name ++ ":console_user"

/-- The one place that outputs go to. -/
def destination : Destination := ⟨"console"⟩

/-- What a line asks for; nothing if it is blank. -/
def input? (c : Console) (line : String) : Option Input :=
  let text := Text.trimmed line
  if text.isEmpty then none
  else if text = ".help" then some (Input.help c.sender destination)
  else if text = ".abort" then some (Input.abort c.sender destination)
  else some { sender := c.sender, message := text, replyTo := destination }

/-- The line that an output is written as: the destination fills the first placeholder, then the
content fills the first that is left. -/
def render (c : Console) (o : Output) : String :=
  String.ofList
    (Text.substituteFirst placeholder o.content.display.toList
      (Text.substituteFirst placeholder o.destination.name.toList c.format.toList))

/-- The lines of a stream of bytes, each with its line feed. -/
def lines (bytes : List UInt8) : List (List UInt8) :=
  bytes.foldr
    (fun b acc =>
      if b == 10 then [b] :: acc
      else
        match acc with
        | [] => [[b]]
        | line :: rest =>
          (b :: line) :: rest)
    []

/-- What is read from a stream: the inputs in order, and the failure that ends the reading early.
When nobody takes inputs any more, the first of them ends the reading. -/
def readAll (c : Console) (accepting : Bool) (bytes : List UInt8) : List Input × Option BotError :=
  go (lines bytes)
where
  /-- Reads line after line. -/
  go : List (List UInt8) → List Input × Option BotError
    | [] => ([], none)
    | line :: rest =>
      match Text.Utf8.decode line with
      | .error fault => ([], some ⟨true, [fault.message]⟩)
      | .ok text =>
        match c.input? text with
        | none => go rest
        | some input =>
          if accepting then
            let (inputs, failure) := go rest
            (input :: inputs, failure)
          else ([], none)

/-- What is logged for an input that no command takes. -/
def unmatchedNote (i : Input) : String := s!"unknown command: {i.message}"

end Console

end Switchboard
