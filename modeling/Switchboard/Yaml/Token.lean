/-!
# Tokens of a document

The tokens that a document is made of. Blocks have tokens for their start and end, which stand where
the indentation grows and shrinks. Tags are bytes, since they may be written byte by byte.
-/

namespace Switchboard.Yaml

/-- How a scalar is written. -/
inductive ScalarStyle where
  | plain
  | quoted
  /-- A block that keeps its line ends. -/
  | literal
  /-- A block whose lines are joined. -/
  | folded
  deriving DecidableEq, Repr, Inhabited

/-- A token. -/
inductive Token where
  /-- A version directive. -/
  | version (major minor : Nat)
  /-- A directive that gives a tag handle a prefix. -/
  | tagHandle (handle start : List UInt8)
  | documentStart
  | documentEnd
  | blockSequence
  | blockMapping
  | blockEnd
  | flowSequence
  | flowSequenceEnd
  | flowMapping
  | flowMappingEnd
  | blockEntry
  | flowEntry
  | key
  | value
  | alias (name : String)
  | anchor (name : String)
  | tag (handle suffix : List UInt8)
  | scalar (text : String) (style : ScalarStyle)
  | streamEnd
  deriving DecidableEq, Repr, Inhabited

end Switchboard.Yaml
