/-!
# Placeholders

`substituteFirst hole value s` replaces the leftmost occurrence of `hole` in `s` by `value`;
a text without one stays as it is.
-/

namespace Switchboard.Text

/-- `s` with `value` in place of the leftmost `hole`. -/
def substituteFirst (hole value : List Char) : List Char → List Char
  | [] => if hole.isEmpty then value else []
  | c :: rest =>
    match hole.isPrefixOf? (c :: rest) with
    | some after => value ++ after
    | none => c :: substituteFirst hole value rest

end Switchboard.Text
