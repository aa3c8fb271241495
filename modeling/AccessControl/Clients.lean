/-
# The client store

Refresh clients by their tokens.
-/
import AccessControl.Store
import AccessControl.Table

namespace AccessControl

/-- Refresh clients, each under its token. -/
structure Clients where
  byToken : Table String RefreshClient

namespace Clients

/-- The store without clients. -/
def empty : Clients := ⟨.empty⟩

/-- The number of clients. -/
def size (clients : Clients) : Nat := clients.byToken.size

/-- The client with a token. -/
def find? (clients : Clients) (token : String) : Option RefreshClient := clients.byToken.find? token

/-- Stores a client whose token is new. -/
def insert (clients : Clients) (client : RefreshClient) : Except AuthorizationError Clients :=
  if clients.byToken.contains client.refreshToken then .error (.conflict .tokenIssued)
  else .ok ⟨clients.byToken.insert client.refreshToken client⟩

/-- Puts a client whose token is new in the place of the one with a given token. -/
def rotate (clients : Clients) (token : String) (replacement : RefreshClient) :
    Except AuthorizationError (Option (RefreshClient × Clients)) :=
  if clients.byToken.contains replacement.refreshToken then .error (.conflict .tokenIssued)
  else
    match clients.byToken.find? token with
    | none => .ok none
    | some retired =>
      .ok (some (retired,
        ⟨(clients.byToken.erase token).insert replacement.refreshToken replacement⟩))

/-- The clients that have not expired. -/
def unexpired (clients : Clients) (now : Instant) : Clients :=
  ⟨clients.byToken.filter fun _ client => !client.isExpired now⟩

/-- Removes the clients that have expired, and says how many there were. -/
def removeExpired (clients : Clients) (now : Instant) : Nat × Clients :=
  (clients.size - (clients.unexpired now).size, clients.unexpired now)

instance : ClientStore Clients where
  insertClient := insert
  findClient clients token := .ok (clients.find? token)
  rotateClient := rotate
  removeExpired clients now := .ok (clients.removeExpired now)

/-! ## What the calls leave -/

variable {clients clients' : Clients}

/-- A purge leaves the clients whose last instant has not passed. -/
theorem find?_unexpired_eq_some_iff {now : Instant} {token : String} {client : RefreshClient} :
    (clients.unexpired now).find? token = some client ↔
      clients.find? token = some client ∧ now ≤ client.expiresAt := by
  have hkept : (!client.isExpired now) = true ↔ now ≤ client.expiresAt := by
    rw [RefreshClient.isExpired, Bool.not_eq_true', decide_eq_false_iff_not, Instant.not_lt]
  rw [find?, unexpired, Table.find?_filter, Option.filter_eq_some_iff, hkept]
  rfl

/-- A client is stored when its token is new. -/
theorem insert_eq_ok_iff {client : RefreshClient} :
    clients.insert client = .ok clients' ↔
      clients.find? client.refreshToken = none ∧
        clients' = ⟨clients.byToken.insert client.refreshToken client⟩ := by
  unfold insert
  rw [find?, ← Table.contains_eq_false_iff]
  cases clients.byToken.contains client.refreshToken <;> simp [eq_comm]

theorem find?_eq_some_iff_of_insert {client : RefreshClient}
    (h : clients.insert client = .ok clients') {token : String} {found : RefreshClient} :
    clients'.find? token = some found ↔
      token = client.refreshToken ∧ found = client ∨ clients.find? token = some found := by
  obtain ⟨hnew, rfl⟩ := insert_eq_ok_iff.1 h
  rw [find?, Table.find?_insert_eq_some_iff]
  constructor
  · rintro (hself | ⟨-, hold⟩)
    · exact .inl hself
    · exact .inr hold
  · rintro (hself | hold)
    · exact .inl hself
    · refine .inr ⟨?_, hold⟩
      rintro rfl
      rw [hnew] at hold
      cases hold

/-- A token is swapped when it is stored and the new one is not. -/
theorem rotate_eq_ok_some_iff {token : String} {replacement retired : RefreshClient} :
    clients.rotate token replacement = .ok (some (retired, clients')) ↔
      clients.find? replacement.refreshToken = none ∧ clients.find? token = some retired ∧
        clients' =
          ⟨(clients.byToken.erase token).insert replacement.refreshToken replacement⟩ := by
  unfold rotate find?
  rw [← Table.contains_eq_false_iff]
  cases clients.byToken.contains replacement.refreshToken with
  | true => simp
  | false => cases clients.byToken.find? token <;> simp [eq_comm]

theorem find?_eq_some_iff_of_rotate {token : String} {replacement retired : RefreshClient}
    (h : clients.rotate token replacement = .ok (some (retired, clients'))) {other : String}
    {found : RefreshClient} :
    clients'.find? other = some found ↔
      other = replacement.refreshToken ∧ found = replacement ∨
        other ≠ token ∧ clients.find? other = some found := by
  obtain ⟨hnew, -, rfl⟩ := rotate_eq_ok_some_iff.1 h
  rw [find?, Table.find?_insert_eq_some_iff, Table.find?_erase_eq_some_iff]
  constructor
  · rintro (hself | ⟨-, hold⟩)
    · exact .inl hself
    · exact .inr hold
  · rintro (hself | hold)
    · exact .inl hself
    · refine .inr ⟨?_, hold⟩
      rintro rfl
      rw [hnew] at hold
      cases hold.2

/-- A swap with a new token is refused exactly when the old one is not stored. -/
theorem rotate_eq_ok_none_iff {token : String} {replacement : RefreshClient}
    (hnew : clients.find? replacement.refreshToken = none) :
    clients.rotate token replacement = .ok none ↔ clients.find? token = none := by
  unfold rotate
  rw [Table.contains_eq_false_iff.2 hnew, find?]
  cases clients.byToken.find? token <;> simp

end Clients

end AccessControl
