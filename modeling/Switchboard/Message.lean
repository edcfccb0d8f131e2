import Switchboard.Bot
import Switchboard.Timestamp
import Switchboard.Json.Printer
import Switchboard.Text.Blank

/-!
# Messages

An `Input` is what a bot hands over: an ordinary message, a request for help, or a request to drop
the sender's conversation. An `Output` is a content with the destination it goes to. The destination
means something to the bot alone.
-/

namespace Switchboard

/-- Where an output goes. -/
structure Destination where
  name : String
  deriving DecidableEq, Repr, Inhabited

instance : ToString Destination := ⟨Destination.name⟩

/-- What an input asks for. -/
inductive InputKind where
  | message
  | help
  | abort
  deriving DecidableEq, Repr, Inhabited

/-- One inbound message. The sender is unique per platform and user; conversations are kept by
it. -/
structure Input where
  sender : String
  message : String
  replyTo : Destination
  kind : InputKind := .message
  sentAt : Timestamp := default
  deriving DecidableEq, Repr, Inhabited

namespace Input

/-- A request for help carries no message. -/
def help (sender : String) (replyTo : Destination) : Input := ⟨sender, "", replyTo, .help, default⟩

/-- A request to drop the conversation carries no message. -/
def abort (sender : String) (replyTo : Destination) : Input :=
  ⟨sender, "", replyTo, .abort, default⟩

end Input

namespace Text

/-- The text after the first word of `message`, without blanks at its ends, if that word is
`word`. -/
def afterWord? (word message : List Char) : Option (List Char) :=
  match stripPrefix? word (trimStart message) with
  | none => none
  | some [] => some []
  | some (c :: rest) => if isBlank c then some (trim (c :: rest)) else none

end Text

/-- The text after the first word of the message, if that word is `word`. -/
def Input.afterWord? (i : Input) (word : String) : Option String :=
  (Text.afterWord? word.toList i.message.toList).map String.ofList

/-- One line of the help listing. -/
structure HelpEntry where
  identifier : String
  instruction : String
  deriving DecidableEq, Repr, Inhabited

/-- What an output says. -/
inductive Content where
  | text (s : String)
  | help (entries : List HelpEntry)
  | json (value : Json)
  deriving Repr, Inhabited

namespace Content

/-- The text of a help listing: one line for each entry. -/
def helpText (entries : List HelpEntry) : String :=
  "\n".intercalate (entries.map fun e => e.identifier ++ ": " ++ e.instruction)

/-- The text that a reader sees. -/
def display : Content → String
  | .text s => s
  | .help entries => helpText entries
  | .json value => value.render

/-- The text of a plain text content. -/
def asText? : Content → Option String
  | .text s => some s
  | _ => none

end Content

/-- A content and where it goes. -/
structure Output where
  destination : Destination
  content : Content
  deriving Repr, Inhabited

end Switchboard
