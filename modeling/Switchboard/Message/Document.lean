import Switchboard.Json.Access
import Switchboard.Message

/-!
# Messages as documents

How inputs, outputs and their contents are written as documents and read from them. The document of
a content that is not plain text also shows what a reader sees.
-/

namespace Switchboard

namespace HelpEntry

def toJson (e : HelpEntry) : Json :=
  .ofFields [("identifier", .text e.identifier), ("instruction", .text e.instruction)]

def ofJson (v : Json) : HelpEntry := ⟨v.str "identifier", v.str "instruction"⟩

end HelpEntry

namespace Content

/-- The fields of a content's document. -/
def toFields (c : Content) : Table Json :=
  match c with
  | .text s => [("text", .text s)]
  | .json v => [("json", v), ("display", .text c.display)]
  | .help es => [("help", .array (es.map HelpEntry.toJson)), ("display", .text c.display)]

/-- The content of a document: a text, a help listing, or any value. -/
def ofJson (v : Json) : Content :=
  match v.str? "text" with
  | some s => .text s
  | none =>
    if v.has "help" then .help ((v.list "help").map HelpEntry.ofJson) else .json (v.field "json")

end Content

namespace Output

/-- The fields of an output's document. -/
def toFields (o : Output) : Table Json := ("to", .text o.destination.name) :: o.content.toFields

def ofJson (v : Json) : Output := ⟨⟨v.str "to"⟩, Content.ofJson v⟩

end Output

def InputKind.name : InputKind → String
  | .message => "message"
  | .help => "help"
  | .abort => "abort"

namespace Input

/-- The fields of an input's document. -/
def toFields (i : Input) : Table Json :=
  [("sender", .text i.sender), ("message", .text i.message), ("reply_to", .text i.replyTo.name),
    ("kind", .text i.kind.name)]

/-- The input of a document. It is answered to the sender unless the document says otherwise. -/
def ofJson (v : Json) : Input :=
  let sender := v.str "sender"
  let replyTo : Destination := ⟨(v.str? "reply_to").getD sender⟩
  match v.str "kind" with
  | "help" => help sender replyTo
  | "abort" => abort sender replyTo
  | _ => { sender, message := v.str "message", replyTo }

end Input

end Switchboard
