/-
# Permissions

The protected collections, the actions on them, and the twenty-five permissions
made of one of each.  Names are matched exactly; the order of declaration is the
order in which permissions are listed.
-/
import AccessControl.Json.Reader

namespace AccessControl

/-! ## Resources -/

/-- A protected collection. -/
inductive Resource where
  | users
  | roles
  | openers
  | barrierManufacturers
  | barrierModels
  deriving DecidableEq, Repr

namespace Resource

/-- The resources in order of declaration. -/
def all : List Resource := [.users, .roles, .openers, .barrierManufacturers, .barrierModels]

/-- The name used in documents and requests. -/
def name : Resource → String
  | .users => "users"
  | .roles => "roles"
  | .openers => "openers"
  | .barrierManufacturers => "barrierManufacturers"
  | .barrierModels => "barrierModels"

/-- The plural used in explanations. -/
def label : Resource → String
  | .users => "users"
  | .roles => "roles"
  | .openers => "openers"
  | .barrierManufacturers => "barrier manufacturers"
  | .barrierModels => "barrier models"

/-- The resource with a given name. -/
def ofName? (name : String) : Option Resource := all.find? fun r => r.name = name

/-- Reads a resource by its name. -/
def reader : Json.Reader Resource := Json.Reader.oneOf (all.map fun r => (r.name, r))

theorem mem_all (r : Resource) : r ∈ all := by cases r <;> decide

/-- The resources stand in the order of their positions. -/
theorem pairwise_idxOf_all : all.Pairwise fun r s => all.idxOf r < all.idxOf s := by decide

theorem ofName?_name (r : Resource) : ofName? r.name = some r := by cases r <;> decide

/-- A name denotes a resource only if it is the name of that resource. -/
theorem ofName?_eq_some_iff {name : String} {r : Resource} :
    ofName? name = some r ↔ r.name = name := by
  constructor
  · intro h
    simpa using List.find?_some h
  · rintro rfl
    exact ofName?_name r

end Resource

/-! ## Actions -/

/-- A kind of operation on a collection. -/
inductive Action where
  | list
  | view
  | create
  | edit
  | delete
  deriving DecidableEq, Repr

namespace Action

/-- The actions in order of declaration. -/
def all : List Action := [.list, .view, .create, .edit, .delete]

/-- The name used in documents and requests. -/
def name : Action → String
  | .list => "list"
  | .view => "view"
  | .create => "create"
  | .edit => "edit"
  | .delete => "delete"

/-- The words that describe the action. -/
def verb : Action → String
  | .list => "List"
  | .view => "View details of"
  | .create => "Create"
  | .edit => "Edit"
  | .delete => "Delete"

/-- The action with a given name. -/
def ofName? (name : String) : Option Action := all.find? fun a => a.name = name

/-- Reads an action by its name. -/
def reader : Json.Reader Action := Json.Reader.oneOf (all.map fun a => (a.name, a))

theorem mem_all (a : Action) : a ∈ all := by cases a <;> decide

/-- The actions stand in the order of their positions. -/
theorem pairwise_idxOf_all : all.Pairwise fun a b => all.idxOf a < all.idxOf b := by decide

theorem ofName?_name (a : Action) : ofName? a.name = some a := by cases a <;> decide

/-- A name denotes an action only if it is the name of that action. -/
theorem ofName?_eq_some_iff {name : String} {a : Action} :
    ofName? name = some a ↔ a.name = name := by
  constructor
  · intro h
    simpa using List.find?_some h
  · rintro rfl
    exact ofName?_name a

end Action

/-! ## Permissions -/

/-- The right to perform an action on a collection. -/
structure Permission where
  resource : Resource
  action : Action
  deriving DecidableEq, Repr

namespace Permission

/-- All permissions, those on one resource together. -/
def all : List Permission :=
  Resource.all.flatMap fun resource => Action.all.map fun action => ⟨resource, action⟩

/-- The name of a permission. -/
def name (p : Permission) : String := p.resource.name ++ "." ++ p.action.name

/-- A permission in JSON. -/
def toJson (p : Permission) : Json.Value := .string p.name

/-- The description of a permission. -/
def description (p : Permission) : String := p.action.verb ++ " " ++ p.resource.label

/-- The permissions of a list, each once, in order of declaration. -/
def distinct (ps : List Permission) : List Permission := all.filter fun p => p ∈ ps

theorem mem_all (p : Permission) : p ∈ all := by
  obtain ⟨resource, action⟩ := p
  exact List.mem_flatMap.2
    ⟨resource, resource.mem_all, List.mem_map.2 ⟨action, action.mem_all, rfl⟩⟩

example : all.length = 25 := rfl

end Permission

end AccessControl
