/-
# Access rights

The rights of a role: a flag for every action on every resource.  The five flags
of a resource are a row, the five rows a matrix, so a matrix is always complete.
-/
import AccessControl.Permission

namespace AccessControl

/-! ## Rows -/

/-- The flags for the actions on one resource. -/
structure ActionRights where
  list : Bool
  view : Bool
  create : Bool
  edit : Bool
  delete : Bool
  deriving DecidableEq, Repr

namespace ActionRights

/-- Whether an action is allowed. -/
def allows (row : ActionRights) : Action → Bool
  | .list => row.list
  | .view => row.view
  | .create => row.create
  | .edit => row.edit
  | .delete => row.delete

/-- The row with one flag replaced. -/
def update (row : ActionRights) (action : Action) (allowed : Bool) : ActionRights :=
  match action with
  | .list => { row with list := allowed }
  | .view => { row with view := allowed }
  | .create => { row with create := allowed }
  | .edit => { row with edit := allowed }
  | .delete => { row with delete := allowed }

/-- The row whose flags are computed one after the other, unless one computation fails. -/
def collect {ε : Type} (flag : Action → Except ε Bool) : Except ε ActionRights := do
  let list ← flag .list
  let view ← flag .view
  let create ← flag .create
  let edit ← flag .edit
  let delete ← flag .delete
  return { list, view, create, edit, delete }

/-- The row with the given flags, which is what writing them one after the other comes to
(`foldl_update`). -/
def ofFlags (flag : Action → Bool) : ActionRights :=
  ⟨flag .list, flag .view, flag .create, flag .edit, flag .delete⟩

/-- The row that denies every action. -/
def denyAll : ActionRights := ofFlags fun _ => false

/-- The row that allows every action. -/
def allowAll : ActionRights := ofFlags fun _ => true

/-- The allowed actions in order of declaration. -/
def granted (row : ActionRights) : List Action := Action.all.filter row.allows

@[simp]
theorem allows_ofFlags (flag : Action → Bool) (a : Action) : (ofFlags flag).allows a = flag a := by
  cases a <;> rfl

/-- Replacing a flag is seen at its action only. -/
@[simp]
theorem allows_update (row : ActionRights) (a b : Action) (allowed : Bool) :
    (row.update a allowed).allows b = if b = a then allowed else row.allows b := by
  cases a <;> cases b <;> rfl

/-- Writing every flag makes the row with these flags, whatever was in it before. -/
theorem foldl_update (row : ActionRights) (flag : Action → Bool) :
    Action.all.foldl (fun row a => row.update a (flag a)) row = ofFlags flag := rfl

/-- Rows that allow the same actions are equal. -/
theorem ext_allows {row other : ActionRights} (h : ∀ a, row.allows a = other.allows a) :
    row = other := by
  cases row
  cases other
  simpa [allows] using And.intro (h .list) ⟨h .view, h .create, h .edit, h .delete⟩

theorem mem_granted {row : ActionRights} {a : Action} : a ∈ row.granted ↔ row.allows a = true := by
  simp [granted, a.mem_all]

end ActionRights

/-! ## Matrices -/

/-- A row of flags for every resource. -/
structure AccessRights where
  users : ActionRights
  roles : ActionRights
  openers : ActionRights
  barrierManufacturers : ActionRights
  barrierModels : ActionRights
  deriving DecidableEq, Repr

namespace AccessRights

/-- The row of a resource. -/
def row (rights : AccessRights) : Resource → ActionRights
  | .users => rights.users
  | .roles => rights.roles
  | .openers => rights.openers
  | .barrierManufacturers => rights.barrierManufacturers
  | .barrierModels => rights.barrierModels

/-- Whether an action on a resource is allowed. -/
def allows (rights : AccessRights) (resource : Resource) (action : Action) : Bool :=
  (rights.row resource).allows action

/-- The matrix with one cell replaced. -/
def update (rights : AccessRights) (resource : Resource) (action : Action) (allowed : Bool) :
    AccessRights :=
  match resource with
  | .users => { rights with users := rights.users.update action allowed }
  | .roles => { rights with roles := rights.roles.update action allowed }
  | .openers => { rights with openers := rights.openers.update action allowed }
  | .barrierManufacturers =>
    { rights with barrierManufacturers := rights.barrierManufacturers.update action allowed }
  | .barrierModels => { rights with barrierModels := rights.barrierModels.update action allowed }

/-- The matrix whose rows are computed one after the other, unless one computation fails. -/
def collect {ε : Type} (row : Resource → Except ε ActionRights) : Except ε AccessRights := do
  let users ← row .users
  let roles ← row .roles
  let openers ← row .openers
  let barrierManufacturers ← row .barrierManufacturers
  let barrierModels ← row .barrierModels
  return { users, roles, openers, barrierManufacturers, barrierModels }

/-- The matrix with the given rows. -/
def ofRows (row : Resource → ActionRights) : AccessRights :=
  ⟨row .users, row .roles, row .openers, row .barrierManufacturers, row .barrierModels⟩

/-- The matrix with the given cells, which is what writing them one after the other comes to
(`foldl_update`). -/
def ofCells (cell : Resource → Action → Bool) : AccessRights :=
  ofRows fun resource => ActionRights.ofFlags (cell resource)

/-- The matrix that allows everything. -/
def full : AccessRights := ofCells fun _ _ => true

/-- The matrix that denies everything. -/
def empty : AccessRights := ofCells fun _ _ => false

/-- The permissions that a matrix grants, in order of declaration. -/
def granted (rights : AccessRights) : List Permission :=
  Resource.all.flatMap fun resource =>
    (rights.row resource).granted.map fun action => ⟨resource, action⟩

@[simp]
theorem row_ofRows (row : Resource → ActionRights) (r : Resource) : (ofRows row).row r = row r := by
  cases r <;> rfl

@[simp]
theorem allows_ofCells (cell : Resource → Action → Bool) (r : Resource) (a : Action) :
    (ofCells cell).allows r a = cell r a := by
  simp [ofCells, allows]

/-- Replacing a cell is seen in that cell only. -/
@[simp]
theorem allows_update (rights : AccessRights) (r s : Resource) (a b : Action) (allowed : Bool) :
    (rights.update r a allowed).allows s b =
      if s = r ∧ b = a then allowed else rights.allows s b := by
  cases r <;> cases s <;> simp [update, allows, row]

/-- Writing every cell makes the matrix with these cells, whatever was in it before. -/
theorem foldl_update (rights : AccessRights) (cell : Resource → Action → Bool) :
    Permission.all.foldl (fun m p => m.update p.resource p.action (cell p.resource p.action))
      rights = ofCells cell := rfl

/-- Matrices that allow the same are equal. -/
theorem ext_allows {rights other : AccessRights}
    (h : ∀ r a, rights.allows r a = other.allows r a) : rights = other := by
  cases rights
  cases other
  have key := fun r => ActionRights.ext_allows (h r)
  simpa [row] using And.intro (key .users)
    ⟨key .roles, key .openers, key .barrierManufacturers, key .barrierModels⟩

/-- The rows of a matrix grant, one after the other, what its cells allow. -/
theorem granted_eq_filter (rights : AccessRights) :
    rights.granted = Permission.all.filter fun p => rights.allows p.resource p.action := by
  rw [granted, Permission.all, List.filter_flatMap]
  refine congrArg (Resource.all.flatMap ·) (funext fun resource => ?_)
  rw [List.filter_map]
  rfl

/-- A permission is granted exactly when its cell allows it. -/
theorem mem_granted {rights : AccessRights} {p : Permission} :
    p ∈ rights.granted ↔ rights.allows p.resource p.action = true := by
  rw [granted_eq_filter, List.mem_filter]
  exact and_iff_right p.mem_all

end AccessRights

end AccessControl
