/-
# Expected versions

A role carries a version that grows by one with every accepted edit.  Whoever
edits says which version they expect to replace.
-/
import AccessControl.Error

namespace AccessControl

/-- The version that an edit expects to replace. -/
inductive ExpectedVersion where
  | any
  | exactly (version : UInt64)
  deriving DecidableEq, Repr

namespace ExpectedVersion

/-- Whether the actual version is an expected one. -/
def accepts : ExpectedVersion → UInt64 → Bool
  | .any, _ => true
  | .exactly version, actual => version = actual

/-- Refuses a version other than the expected one. -/
def check : ExpectedVersion → UInt64 → Except DomainError Unit
  | .any, _ => .ok ()
  | .exactly version, actual =>
    if version = actual then .ok () else .error (.conflict (.staleVersion version actual))

/-- A version passes the check exactly when it is an expected one. -/
theorem check_eq_ok_iff {expected : ExpectedVersion} {actual : UInt64} :
    expected.check actual = .ok () ↔ expected.accepts actual = true := by
  cases expected with
  | any => simp [check, accepts]
  | exactly version => by_cases h : version = actual <;> simp [check, accepts, h]

end ExpectedVersion

end AccessControl
