/-
# Principals, claims and clients survive their texts

What is exchanged in JSON is read back as it was (`wire_values_read_back`): identifiers and
instants by their texts, logins and tokens whatever characters they have.  The members may
come in any order, with any others between them.
-/
import AccessControl.Claims
import AccessControl.Principal
import AccessControl.RefreshClient
import AccessControl.Proofs.Identifier.Texts
import AccessControl.Proofs.Json.Members
import AccessControl.Proofs.Role.Persistence

namespace AccessControl

open Json (given rendered given_of_mem)
open Json.Record (advances_given advances_required)

/-! ## Scalars -/

theorem RoleId.takes_toJson (roleId : RoleId) (nesting : Nat) :
    RoleId.reader.Takes nesting roleId.toJson.chars roleId :=
  Json.takes_parsed roleId.ofText?_text nesting

theorem PrincipalId.takes_toJson (principalId : PrincipalId) (nesting : Nat) :
    PrincipalId.reader.Takes nesting principalId.toJson.chars principalId :=
  Json.takes_parsed principalId.ofText?_text nesting

/-! ## Principals -/

namespace Principal

/-- A principal of which the members with some keys have been read. -/
def drafts (principal : Principal) (seen : List String) : Draft where
  id := given seen "principalId" principal.id
  login := given seen "login" principal.login
  roleId := given seen "roleId" principal.roleId

theorem gathers (principal : Principal) (nesting : Nat) :
    layout.Gathers nesting
      (rendered [
        ("principalId", principal.id.toJson),
        ("login", .string principal.login),
        ("roleId", principal.roleId.toJson)]) principal.drafts principal where
  nodup := by
    show ["principalId", "login", "roleId"].Nodup
    decide
  blank := rfl
  advances := by
    refine List.forall_mem_cons.2 ⟨?_, List.forall_mem_cons.2 ⟨?_, List.forall_mem_singleton.2 ?_⟩⟩
    · refine advances_given (fun _ hnew => advances_required rfl hnew
        (principal.id.takes_toJson nesting)) (fun _ => rfl) fun seen => ?_
      simp [drafts]
    · refine advances_given (fun _ hnew => advances_required rfl hnew
        (Json.takes_textFor "a string" principal.login nesting)) (fun _ => rfl) fun seen => ?_
      simp [drafts]
    · refine advances_given (fun _ hnew => advances_required rfl hnew
        (principal.roleId.takes_toJson nesting)) (fun _ => rfl) fun seen => ?_
      simp [drafts]
  finish seen h := by
    simp only [rendered, List.map_cons, List.forall_mem_cons] at h
    obtain ⟨hid, hlogin, hroleId, -⟩ := h
    simp only [layout, drafts, given_of_mem, hid, hlogin, hroleId]
    rfl

theorem readsBack : Json.ReadsBack ofText toJson := by
  refine Json.Record.readsBack rfl fun principal => ?_
  exact ⟨_, _, rfl, rfl, principal.gathers 126⟩

end Principal

/-! ## Claims -/

namespace AccessClaims

/-- Claims of which the members with some keys have been read. -/
def drafts (claims : AccessClaims) (seen : List String) : Draft where
  subject := given seen "sub" claims.subject
  roleId := given seen "role_id" claims.roleId
  issuedAt := given seen "issued_at" claims.issuedAt
  expiresAt := given seen "expires_at" claims.expiresAt

theorem gathers (claims : AccessClaims) (nesting : Nat) :
    layout.Gathers nesting
      (rendered [
        ("sub", claims.subject.toJson),
        ("role_id", claims.roleId.toJson),
        ("issued_at", claims.issuedAt.toJson),
        ("expires_at", claims.expiresAt.toJson)]) claims.drafts claims where
  nodup := by
    show ["sub", "role_id", "issued_at", "expires_at"].Nodup
    decide
  blank := rfl
  advances := by
    refine List.forall_mem_cons.2 ⟨?_, List.forall_mem_cons.2 ⟨?_, List.forall_mem_cons.2
      ⟨?_, List.forall_mem_singleton.2 ?_⟩⟩⟩
    · refine advances_given (fun _ hnew => advances_required rfl hnew
        (claims.subject.takes_toJson nesting)) (fun _ => rfl) fun seen => ?_
      simp [drafts]
    · refine advances_given (fun _ hnew => advances_required rfl hnew
        (claims.roleId.takes_toJson nesting)) (fun _ => rfl) fun seen => ?_
      simp [drafts]
    · refine advances_given (fun _ hnew => advances_required rfl hnew
        (claims.issuedAt.takes_toJson nesting)) (fun _ => rfl) fun seen => ?_
      simp [drafts]
    · refine advances_given (fun _ hnew => advances_required rfl hnew
        (claims.expiresAt.takes_toJson nesting)) (fun _ => rfl) fun seen => ?_
      simp [drafts]
  finish seen h := by
    simp only [rendered, List.map_cons, List.forall_mem_cons] at h
    obtain ⟨hsubject, hroleId, hissuedAt, hexpiresAt, -⟩ := h
    simp only [layout, drafts, given_of_mem, hsubject, hroleId, hissuedAt, hexpiresAt]
    rfl

theorem readsBack : Json.ReadsBack ofText toJson := by
  refine Json.Record.readsBack rfl fun claims => ?_
  exact ⟨_, _, rfl, rfl, claims.gathers 126⟩

end AccessClaims

/-! ## Clients -/

namespace RefreshClient

/-- A client of which the members with some keys have been read. -/
def drafts (client : RefreshClient) (seen : List String) : Draft where
  principalId := given seen "principalId" client.principalId
  refreshToken := given seen "refreshToken" client.refreshToken
  expiresAt := given seen "expiresAt" client.expiresAt

theorem gathers (client : RefreshClient) (nesting : Nat) :
    layout.Gathers nesting
      (rendered [
        ("principalId", client.principalId.toJson),
        ("refreshToken", .string client.refreshToken),
        ("expiresAt", client.expiresAt.toJson)]) client.drafts client where
  nodup := by
    show ["principalId", "refreshToken", "expiresAt"].Nodup
    decide
  blank := rfl
  advances := by
    refine List.forall_mem_cons.2 ⟨?_, List.forall_mem_cons.2 ⟨?_, List.forall_mem_singleton.2 ?_⟩⟩
    · refine advances_given (fun _ hnew => advances_required rfl hnew
        (client.principalId.takes_toJson nesting)) (fun _ => rfl) fun seen => ?_
      simp [drafts]
    · refine advances_given (fun _ hnew => advances_required rfl hnew
        (Json.takes_textFor "a string" client.refreshToken nesting)) (fun _ => rfl) fun seen => ?_
      simp [drafts]
    · refine advances_given (fun _ hnew => advances_required rfl hnew
        (client.expiresAt.takes_toJson nesting)) (fun _ => rfl) fun seen => ?_
      simp [drafts]
  finish seen h := by
    simp only [rendered, List.map_cons, List.forall_mem_cons] at h
    obtain ⟨hprincipalId, hrefreshToken, hexpiresAt, -⟩ := h
    simp only [layout, drafts, given_of_mem, hprincipalId, hrefreshToken, hexpiresAt]
    rfl

theorem readsBack : Json.ReadsBack ofText toJson := by
  refine Json.Record.readsBack rfl fun client => ?_
  exact ⟨_, _, rfl, rfl, client.gathers 126⟩

end RefreshClient

/-! ## All of them -/

/--
**What is exchanged is read back.**  Every principal, all claims and every client are read back
from their text, whatever identifiers, instants and characters they hold; and also from every
text with the same members in any order and any others between them.
-/
theorem wire_values_read_back :
    Json.ReadsBack Principal.ofText Principal.toJson ∧
      Json.ReadsBack AccessClaims.ofText AccessClaims.toJson ∧
      Json.ReadsBack RefreshClient.ofText RefreshClient.toJson :=
  ⟨Principal.readsBack, AccessClaims.readsBack, RefreshClient.readsBack⟩

/-- Claims that end before they start, at the ends of time, with their members in reverse order
and two others of one name between them. -/
theorem wire_values_read_back_reversed :
    let claims : AccessClaims := ⟨⟨.ofNat 7⟩, ⟨.ofNat 1⟩, .latest, .earliest⟩
    let reversed : Json.Value := .object [
      ("exp", .array [.null, .object [("sub", .string "\"")]]),
      ("expires_at", claims.expiresAt.toJson),
      ("issued_at", claims.issuedAt.toJson),
      ("exp", .whole (-1)),
      ("role_id", claims.roleId.toJson),
      ("sub", claims.subject.toJson)]
    reversed.Extends claims.toJson ∧ AccessClaims.ofText reversed.render = .ok claims := by
  intro claims reversed
  have hextends : reversed.Extends claims.toJson :=
    ⟨_, _, rfl, rfl, List.perm_reverse.1 (List.Perm.of_eq rfl)⟩
  exact ⟨hextends, (wire_values_read_back.2.1 claims).2 reversed hextends⟩

end AccessControl
