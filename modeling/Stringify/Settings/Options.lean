import Stringify.Settings.Basic

/-!
# Options

Options are the fields of a document: a list of type names and a flag. A field that is missing or
null leaves the default, and a list of names replaces the default one.
-/

namespace Stringify

/-- Why options are refused. The first two are mistakes of the user; the others are values of which
no set of names can be made. -/
inductive OptionsError where
  | namesAreText (display : String)
  | flagIsNoBoolean (display : String)
  | notACollection (kind : String)
  | noSetMember (kind : String)
  deriving DecidableEq, Repr

namespace OptionsError

/-- The wording of a refusal. -/
def message : OptionsError → String
  | .namesAreText display => s!"ignoredTypeNames must be a list of names, not {display}"
  | .flagIsNoBoolean display => s!"rejectFunctions must be a boolean, not {display}"
  | .notACollection kind => s!"'{kind}' object is not iterable"
  | .noSetMember kind => s!"unhashable type: '{kind}'"

end OptionsError

/-- The members of a set of names, split into texts and other entries. -/
structure NameEntries where
  names : List Text
  extras : List Scalar

namespace NameEntries

/-- The entries of a list of documents, none of which may be a list or an object. -/
def ofItems : List Json → Except OptionsError NameEntries
  | [] => .ok ⟨[], []⟩
  | .list _ :: _ => .error (.noSetMember "list")
  | .object _ :: _ => .error (.noSetMember "dict")
  | .text name :: rest => do
    let entries ← ofItems rest
    return { entries with names := name :: entries.names }
  | .scalar value :: rest => do
    let entries ← ofItems rest
    return { entries with extras := value :: entries.extras }

/-- The entries that a document gives: the items of a list or the field names of an object. -/
def ofJson : Json → Except OptionsError NameEntries
  | .list items => ofItems items
  | .object fields => .ok ⟨fields.map Prod.fst, []⟩
  | .text name => .ok ⟨name.map ([·]), []⟩
  | .scalar value => .error (.notACollection value.kind)

end NameEntries

namespace Settings

/-- The flag given by a field: absent and null leave it off. -/
def flagOfField : Option Json → Except OptionsError Bool
  | none => .ok false
  | some (.scalar .null) => .ok false
  | some (.scalar (.bool value)) => .ok value
  | some value => .error (.flagIsNoBoolean value.display)

/-- The settings given by an optional document. A text in the place of the names is refused first,
then a flag that is no boolean, then names of which no set can be made. -/
def ofOptions : Option Json → Except OptionsError Settings
  | none => .ok default
  | some options => do
    let ignored := options.field? "ignoredTypeNames"
    if let some (.text name) := ignored then
      throw (.namesAreText name.quoted)
    let rejectFunctions ← flagOfField (options.field? "rejectFunctions")
    match ignored with
    | none | some (.scalar .null) => return { default with rejectFunctions }
    | some value =>
      let entries ← NameEntries.ofJson value
      return ⟨sortedNames entries.names, Scalar.insertAll [] entries.extras, rejectFunctions⟩

end Settings

end Stringify
