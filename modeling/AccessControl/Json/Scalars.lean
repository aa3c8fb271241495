/-
# Identifiers and instants in JSON

Identifiers and instants are texts in JSON.
-/
import AccessControl.Identifier
import AccessControl.Json.Record
import AccessControl.Time.Text

namespace AccessControl

/-- Reads the identifier of a role. -/
def RoleId.reader : Json.Reader RoleId :=
  Json.Reader.parsed "a formatted UUID string" RoleId.ofText?

/-- The identifier of a role in JSON. -/
def RoleId.toJson (roleId : RoleId) : Json.Value := .string roleId.text

/-- Reads the identifier of a principal. -/
def PrincipalId.reader : Json.Reader PrincipalId :=
  Json.Reader.parsed "a formatted UUID string" PrincipalId.ofText?

/-- The identifier of a principal in JSON. -/
def PrincipalId.toJson (principalId : PrincipalId) : Json.Value := .string principalId.text

/-- Reads an instant. -/
def Instant.reader : Json.Reader Instant :=
  Json.Reader.parsed "an RFC 3339 formatted date and time string" Instant.ofText?

/-- An instant in JSON. -/
def Instant.toJson (t : Instant) : Json.Value := .string t.text

end AccessControl
