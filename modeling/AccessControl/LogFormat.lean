/-
# Log formats

The format of log lines, chosen by name.
-/
import AccessControl.Text.Blank

namespace AccessControl

/-- A format of log lines. -/
inductive LogFormat where
  | json
  | pretty
  deriving DecidableEq, Repr

namespace LogFormat

/-- The format that is used unless another is chosen. -/
def default : LogFormat := .json

/--
The format with a given name, in any case and with blanks around it; the default
for every other name and for none.
-/
def ofName (name : Option String) : LogFormat :=
  match name with
  | some text =>
    if (Text.trim text.toList).map Char.toLower = ['p', 'r', 'e', 't', 't', 'y'] then .pretty
    else .default
  | none => .default

example : ofName (some " Pretty\u00a0") = .pretty := by decide +kernel
example : ofName (some "yaml") = .json := by decide +kernel

end LogFormat

end AccessControl
