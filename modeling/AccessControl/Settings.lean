/-
# Settings

What can be set from outside: where the policy document lies, and how long an
access token lives.  Settings are read by their keys from a look-up.
-/
import AccessControl.Claims
import AccessControl.Number.Whole
import AccessControl.Policy

namespace AccessControl

/-- The settings of an installation. -/
structure Settings where
  /-- The place of the policy document, if it is not the standard one. -/
  policyPath : Option String
  accessTokenLifetime : Duration
  deriving DecidableEq, Repr

/-- Why settings cannot be used. -/
inductive SettingsError where
  | lifetimeNotWhole (raw : String) (fault : WholeFault)
  | lifetimeOutOfRange (minutes : Int)
  /-- No duration has this many minutes. -/
  | lifetimeTooLong (minutes : Int)
  | policyUnread (path : String)
  | policyInvalid (path : String) (error : AuthorizationError)
  deriving DecidableEq, Repr

/-- What lies behind an error of the settings. -/
inductive SettingsCause where
  | whole (fault : WholeFault)
  /-- The file could not be read as a text. -/
  | file
  | authorization (error : AuthorizationError)
  deriving DecidableEq, Repr

namespace Settings

/-- The key of the place of the policy document. -/
def policyPathKey : String := "ACS_POLICY_PATH"

/-- The key of the lifetime of access tokens. -/
def lifetimeKey : String := "ACS_ACCESS_TOKEN_TTL_MINUTES"

/-- The lifetime of access tokens that is used when no other is set, in minutes. -/
def defaultLifetime : Int := 20

/-- The longest lifetime of access tokens that can be set, in minutes: one day. -/
def longestLifetime : Int := 1440

/-- The settings that are used when nothing is set. -/
def default : Settings := ⟨none, .minutes defaultLifetime⟩

/-- The lifetime that a text sets, as a number of minutes. -/
def lifetimeOf (raw : String) : Except SettingsError Duration :=
  match Whole.ofChars (Text.trim raw.toList) with
  | .error fault => .error (.lifetimeNotWhole raw fault)
  | .ok minutes =>
    if 1 ≤ minutes ∧ minutes ≤ longestLifetime then
      (Duration.minutes? minutes).elim (.error (.lifetimeTooLong minutes)) .ok
    else .error (.lifetimeOutOfRange minutes)

/-- The settings that a look-up gives. -/
def ofLookup (lookup : String → Option String) : Except SettingsError Settings := do
  let policyPath := (lookup policyPathKey).filter fun path => ¬ Text.IsBlank path
  match lookup lifetimeKey with
  | none => return { default with policyPath }
  | some raw => return { policyPath, accessTokenLifetime := ← lifetimeOf raw }

/-- Claims with the set lifetime. -/
def issueClaims (settings : Settings) (subject : PrincipalId) (roleId : RoleId) (now : Instant) :
    Except TokenError AccessClaims :=
  AccessClaims.issue subject roleId now settings.accessTokenLifetime

/--
The policy document at the set place, or the standard one; `readFile` gives the
content of a file that can be read.
-/
def loadPolicy (settings : Settings) (readFile : String → Option ByteArray) :
    Except SettingsError PolicyDocument :=
  match settings.policyPath with
  | none => .ok .standard
  | some path =>
    match (readFile path).bind String.fromUTF8? with
    | none => .error (.policyUnread path)
    | some text => (PolicyDocument.ofText text).mapError (.policyInvalid path)

end Settings

namespace SettingsError

/-- The wording of each error. -/
def message : SettingsError → String
  | .lifetimeNotWhole raw _ =>
    Settings.lifetimeKey ++ " must be a whole number of minutes, got '" ++ raw ++ "'"
  | .lifetimeOutOfRange minutes =>
    Settings.lifetimeKey ++ " must be between 1 and " ++ toString Settings.longestLifetime ++
      ", got " ++ toString minutes
  | .lifetimeTooLong minutes =>
    Settings.lifetimeKey ++ " is out of range: " ++ toString minutes
  | .policyUnread path => "failed to read access policy from " ++ path
  | .policyInvalid path _ => "invalid access policy in " ++ path

/-- What lies behind each error. -/
def causes : SettingsError → List SettingsCause
  | .lifetimeNotWhole _ fault => [.whole fault]
  | .lifetimeOutOfRange _ => []
  | .lifetimeTooLong _ => []
  | .policyUnread _ => [.file]
  | .policyInvalid _ error => [.authorization error]

end SettingsError

end AccessControl
