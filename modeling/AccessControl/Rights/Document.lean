/-
# Stored access rights

The stored form of a matrix: an object with an entry for every resource, each an
object with a boolean for every action, and nothing else.  Reading it is strict;
of several defects it names the first: unknown names in key order, then what is
missing or wrong in order of declaration.
-/
import AccessControl.Rights

namespace AccessControl

/-- What is wrong with a stored matrix. -/
inductive MatrixDefect where
  | notAnObject (found : Json.Value)
  | unknownResource (key : String)
  | missingResource (resource : Resource)
  | entryNotAnObject (resource : Resource) (found : Json.Value)
  | unknownAction (resource : Resource) (key : String)
  | missingAction (resource : Resource) (action : Action)
  | notBoolean (resource : Resource) (action : Action) (found : Json.Value)
  deriving DecidableEq, Repr

/-- The wording of each defect. -/
def MatrixDefect.message : MatrixDefect → String
  | .notAnObject found => "accessRights: expected an object, found " ++ found.render
  | .unknownResource key => key ++ ": unknown resource"
  | .missingResource resource => resource.name ++ ": missing resource entry"
  | .entryNotAnObject resource found =>
    resource.name ++ ": expected an object, found " ++ found.render
  | .unknownAction resource key => resource.name ++ "." ++ key ++ ": unknown action"
  | .missingAction resource action => resource.name ++ "." ++ action.name ++ ": missing action"
  | .notBoolean resource action found =>
    resource.name ++ "." ++ action.name ++ ": expected boolean, found " ++ found.render

namespace ActionRights

/-- The stored form of a row. -/
def toValue (row : ActionRights) : Json.Value :=
  .object (Keyed.ofList (Action.all.map fun a => (a.name, .bool (row.allows a))))

/-- The flag of an action in the entry of a resource. -/
def flagOf (resource : Resource) (entry : List (String × Json.Value)) (action : Action) :
    Except MatrixDefect Bool :=
  match Keyed.find? entry action.name with
  | none => .error (.missingAction resource action)
  | some (.bool allowed) => .ok allowed
  | some found => .error (.notBoolean resource action found)

/-- The row that the entry of a resource holds. -/
def ofValue (resource : Resource) : Json.Value → Except MatrixDefect ActionRights
  | .object entry =>
    match entry.find? fun member => (Action.ofName? member.1).isNone with
    | some (key, _) => .error (.unknownAction resource key)
    | none => collect (flagOf resource entry)
  | found => .error (.entryNotAnObject resource found)

end ActionRights

namespace AccessRights

/-- The stored form of a matrix. -/
def toValue (rights : AccessRights) : Json.Value :=
  .object (Keyed.ofList (Resource.all.map fun r => (r.name, (rights.row r).toValue)))

/-- The row of a resource in a stored matrix. -/
def rowOf (document : List (String × Json.Value)) (resource : Resource) :
    Except MatrixDefect ActionRights :=
  match Keyed.find? document resource.name with
  | none => .error (.missingResource resource)
  | some entry => ActionRights.ofValue resource entry

/-- The matrix that a stored document holds. -/
def ofValue : Json.Value → Except MatrixDefect AccessRights
  | .object document =>
    match document.find? fun member => (Resource.ofName? member.1).isNone with
    | some (key, _) => .error (.unknownResource key)
    | none => collect (rowOf document)
  | found => .error (.notAnObject found)

end AccessRights

end AccessControl
