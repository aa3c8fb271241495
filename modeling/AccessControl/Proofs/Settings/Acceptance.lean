/-
# Which settings are accepted

A lifetime is accepted exactly when its text is a number of minutes from one to a day's
1440, with any blanks around it and any number of leading zeros; the place of a policy is
taken as it is, unless it is blank.  Any other text, however long or large, is refused
with one of two errors: a number so large that no duration has as many minutes does not
get past the check of the range.  Claims with an accepted lifetime are valid when they
are issued, and fail to be issued at the end of time only.
-/
import AccessControl.Settings
import AccessControl.Proofs.Number.Numerals
import AccessControl.Proofs.Session.Windows
import AccessControl.Proofs.Steps
import AccessControl.Proofs.Text.Trimming

namespace AccessControl

/-! ## Numbers between blanks -/

namespace Whole

variable {numeral : List Char} {n : Int}

/-- No character of a number is blank. -/
theorem isBlank_of_denotes (h : Denotes numeral n) : ∀ c ∈ numeral, Text.isBlank c = false := by
  have hdigits : ∀ {digits : List Char}, IsNumeral digits →
      ∀ c ∈ digits, Text.isBlank c = false := by
    intro digits hnumeral c hc
    apply Text.isBlank_eq_false_of_isDecimal
    rw [Digits.isDecimal, Digits.digit?_eq_some_iff.2 ⟨hnumeral.2 c hc, rfl⟩]
    rfl
  cases h with
  | plain hnumeral => exact hdigits hnumeral
  | plus hnumeral => exact List.forall_mem_cons.2 ⟨by decide, hdigits hnumeral⟩
  | minus hnumeral => exact List.forall_mem_cons.2 ⟨by decide, hdigits hnumeral⟩

theorem ne_nil_of_denotes (h : Denotes numeral n) : numeral ≠ [] := by
  cases h with
  | plain hnumeral => exact hnumeral.1
  | plus _ => exact List.cons_ne_nil _ _
  | minus _ => exact List.cons_ne_nil _ _

end Whole

namespace Settings

variable {raw : String} {n : Int}

/-- A text is a whole number with blanks around it. -/
def Written (raw : String) (n : Int) : Prop :=
  ∃ before numeral after, raw.toList = before ++ numeral ++ after ∧
    (∀ c ∈ before, Text.isBlank c = true) ∧ (∀ c ∈ after, Text.isBlank c = true) ∧
    Whole.Denotes numeral n

theorem written_iff_denotes_trim : Written raw n ↔ Whole.Denotes (Text.trim raw.toList) n := by
  constructor
  · rintro ⟨before, numeral, after, hraw, hbefore, hafter, hnumber⟩
    rwa [hraw, Text.trim_eq hbefore (Whole.ne_nil_of_denotes hnumber)
      (Whole.isBlank_of_denotes hnumber) hafter]
  · intro h
    obtain ⟨before, after, hraw, hbefore, hafter⟩ := Text.exists_blanks_trim raw.toList
    exact ⟨before, _, after, hraw, hbefore, hafter, h⟩

/-- A number that fits is what reading the trimmed text gives. -/
theorem ofChars_trim_eq_ok_iff :
    Whole.ofChars (Text.trim raw.toList) = .ok n ↔ Written raw n ∧ Whole.Fits n := by
  rw [Whole.ofChars_eq_ok_iff, written_iff_denotes_trim]

/-! ## Lifetimes -/

/-- What is wrong with a text that sets no lifetime. -/
inductive LifetimeRefused (raw : String) : SettingsError → Prop
  /-- It is no number, or one that does not fit a word of 64 bits. -/
  | notWhole (fault : WholeFault) :
      (∀ n, Written raw n → ¬ Whole.Fits n) → LifetimeRefused raw (.lifetimeNotWhole raw fault)
  | outOfRange {n : Int} :
      Written raw n → n < 1 ∨ 1440 < n → LifetimeRefused raw (.lifetimeOutOfRange n)

/-- A number of minutes up to a day is one that a duration can have. -/
theorem minutes?_of_le (hone : 1 ≤ n) (hday : n ≤ 1440) :
    Duration.minutes? n = some (.minutes n) := by
  refine if_pos ?_
  show -(9223372036854775807 * 1000000) ≤ 60 * n * 1000000000 ∧
    60 * n * 1000000000 ≤ 9223372036854775807 * 1000000
  omega

/-- A number within the range is taken as it is. -/
theorem lifetimeOf_of_written (h : Written raw n) (hone : 1 ≤ n) (hday : n ≤ 1440) :
    lifetimeOf raw = .ok (.minutes n) := by
  have hfits : Whole.Fits n := by
    unfold Whole.Fits Whole.least Whole.greatest
    omega
  unfold lifetimeOf
  rw [ofChars_trim_eq_ok_iff.2 ⟨h, hfits⟩]
  dsimp only
  rw [if_pos ⟨hone, hday⟩, minutes?_of_le hone hday]
  rfl

/-- A text either sets a number of minutes within the range, or is refused. -/
theorem lifetimeOf_cases (raw : String) :
    (∃ n, Written raw n ∧ 1 ≤ n ∧ n ≤ 1440 ∧ lifetimeOf raw = .ok (.minutes n)) ∨
      ∃ error, lifetimeOf raw = .error error ∧ LifetimeRefused raw error := by
  cases hread : Whole.ofChars (Text.trim raw.toList) with
  | error fault =>
    refine .inr ⟨.lifetimeNotWhole raw fault, ?_, .notWhole fault fun n hwritten hfits => ?_⟩
    · rw [lifetimeOf, hread]
    · rw [ofChars_trim_eq_ok_iff.2 ⟨hwritten, hfits⟩] at hread
      cases hread
  | ok n =>
    have hwritten : Written raw n := (ofChars_trim_eq_ok_iff.1 hread).1
    by_cases hrange : 1 ≤ n ∧ n ≤ 1440
    · exact .inl ⟨n, hwritten, hrange.1, hrange.2,
        lifetimeOf_of_written hwritten hrange.1 hrange.2⟩
    · refine .inr ⟨.lifetimeOutOfRange n, ?_, .outOfRange hwritten (by omega)⟩
      rw [lifetimeOf, hread]
      exact if_neg hrange

theorem lifetimeOf_eq_ok_iff {lifetime : Duration} :
    lifetimeOf raw = .ok lifetime ↔
      ∃ n, Written raw n ∧ 1 ≤ n ∧ n ≤ 1440 ∧ lifetime = .minutes n := by
  constructor
  · intro h
    rcases lifetimeOf_cases raw with ⟨n, hwritten, hone, hday, hset⟩ | ⟨error, herror, -⟩
    · rw [h] at hset
      exact ⟨n, hwritten, hone, hday, Except.ok.inj hset⟩
    · rw [h] at herror
      cases herror
  · rintro ⟨n, hwritten, hone, hday, rfl⟩
    exact lifetimeOf_of_written hwritten hone hday

theorem lifetimeRefused_of_error {error : SettingsError} (h : lifetimeOf raw = .error error) :
    LifetimeRefused raw error := by
  rcases lifetimeOf_cases raw with ⟨n, -, -, -, hset⟩ | ⟨other, herror, hrefused⟩
  · rw [h] at hset
    cases hset
  · rw [h] at herror
    cases herror
    exact hrefused

/-! ## Settings -/

variable {lookup : String → Option String} {settings : Settings} {minutes : Int}
  {error : SettingsError}

/-- The lifetime of 20 minutes when none is set, and else the one that is. -/
def Chosen (lookup : String → Option String) (minutes : Int) : Prop :=
  lookup lifetimeKey = none ∧ minutes = 20 ∨
    ∃ raw, lookup lifetimeKey = some raw ∧ Written raw minutes ∧ 1 ≤ minutes ∧ minutes ≤ 1440

/-- The settings are those of a look-up. -/
structure GivenBy (settings : Settings) (lookup : String → Option String) : Prop where
  lifetime : ∃ minutes, Chosen lookup minutes ∧ settings.accessTokenLifetime = .minutes minutes
  /-- A place that is not blank is kept as it is, blanks around it included. -/
  policyPath : ∀ path, settings.policyPath = some path ↔
    lookup policyPathKey = some path ∧ ¬ Text.IsBlank path

theorem Chosen.range (h : Chosen lookup minutes) : 1 ≤ minutes ∧ minutes ≤ 1440 := by
  rcases h with ⟨-, rfl⟩ | ⟨_, -, -, hone, hday⟩
  · decide
  · exact ⟨hone, hday⟩

theorem exists_chosen_iff :
    (∃ minutes, Chosen lookup minutes) ↔
      ∀ raw, lookup lifetimeKey = some raw → ∃ n, Written raw n ∧ 1 ≤ n ∧ n ≤ 1440 := by
  constructor
  · rintro ⟨n, ⟨hnone, -⟩ | ⟨_, hset, hwritten⟩⟩ raw hraw
    · rw [hnone] at hraw
      cases hraw
    · rw [hset] at hraw
      cases hraw
      exact ⟨n, hwritten⟩
  · intro h
    cases hlookup : lookup lifetimeKey with
    | none => exact ⟨20, .inl ⟨hlookup, rfl⟩⟩
    | some raw =>
      obtain ⟨n, hwritten⟩ := h raw hlookup
      exact ⟨n, .inr ⟨raw, hlookup, hwritten⟩⟩

/-- The place and the lifetime of what a look-up gives. -/
theorem ofLookup_eq_ok_iff_filter :
    ofLookup lookup = .ok settings ↔
      settings.policyPath = (lookup policyPathKey).filter (fun path => ¬ Text.IsBlank path) ∧
        ∃ minutes, Chosen lookup minutes ∧ settings.accessTokenLifetime = .minutes minutes := by
  obtain ⟨place, lifetime⟩ := settings
  unfold ofLookup Chosen
  cases lookup lifetimeKey with
  | none =>
    constructor
    · rintro ⟨⟩
      exact ⟨rfl, 20, .inl ⟨rfl, rfl⟩, rfl⟩
    · rintro ⟨rfl, _, ⟨-, rfl⟩ | ⟨_, hraw, -⟩, rfl⟩
      · rfl
      · cases hraw
  | some raw =>
    constructor
    · intro h
      obtain ⟨_, hlifetime, ⟨⟩⟩ := bind_eq_ok_iff.1 h
      obtain ⟨n, hwritten, hone, hday, rfl⟩ := lifetimeOf_eq_ok_iff.1 hlifetime
      exact ⟨rfl, n, .inr ⟨raw, rfl, hwritten, hone, hday⟩, rfl⟩
    · rintro ⟨rfl, n, ⟨hnone, -⟩ | ⟨_, ⟨⟩, hwritten, hone, hday⟩, rfl⟩
      · cases hnone
      · exact bind_eq_ok_iff.2 ⟨_, lifetimeOf_of_written hwritten hone hday, rfl⟩

theorem ofLookup_eq_ok_iff : ofLookup lookup = .ok settings ↔ settings.GivenBy lookup := by
  have hplace : settings.policyPath
        = (lookup policyPathKey).filter (fun path => ¬ Text.IsBlank path) ↔
      ∀ path, settings.policyPath = some path ↔
        lookup policyPathKey = some path ∧ ¬ Text.IsBlank path := by
    rw [Option.ext_iff]
    simp only [Option.filter_eq_some_iff, decide_eq_true_eq]
  rw [ofLookup_eq_ok_iff_filter, hplace]
  exact ⟨fun h => ⟨h.2, h.1⟩, fun h => ⟨h.policyPath, h.lifetime⟩⟩

theorem exists_ofLookup_eq_ok_iff :
    (∃ settings, ofLookup lookup = .ok settings) ↔ ∃ minutes, Chosen lookup minutes := by
  simp only [ofLookup_eq_ok_iff_filter]
  constructor
  · rintro ⟨settings, -, minutes, hchosen, -⟩
    exact ⟨minutes, hchosen⟩
  · rintro ⟨minutes, hchosen⟩
    exact ⟨⟨_, .minutes minutes⟩, rfl, minutes, hchosen, rfl⟩

/-- A look-up is refused for the text of its lifetime only. -/
theorem refused_of_ofLookup (h : ofLookup lookup = .error error) :
    ∃ raw, lookup lifetimeKey = some raw ∧ LifetimeRefused raw error := by
  unfold ofLookup at h
  cases hraw : lookup lifetimeKey with
  | none =>
    rw [hraw] at h
    cases h
  | some raw =>
    rw [hraw] at h
    rcases bind_eq_error_iff.1 h with herror | ⟨_, -, h⟩
    · exact ⟨raw, rfl, lifetimeRefused_of_error herror⟩
    · cases h

theorem LifetimeRefused.ne_lifetimeTooLong (h : LifetimeRefused raw error) :
    error ≠ .lifetimeTooLong minutes := by
  rintro rfl
  cases h

/-! ## Claims with an accepted lifetime -/

namespace GivenBy

variable {subject : PrincipalId} {roleId : RoleId} {now : Instant}

/-- An accepted lifetime is one that a duration can have, and not none. -/
theorem lifetime_pos (h : settings.GivenBy lookup) :
    0 < settings.accessTokenLifetime.nanoseconds := by
  obtain ⟨minutes, hchosen, hlifetime⟩ := h.lifetime
  have hone : 1 ≤ minutes := hchosen.range.1
  rw [hlifetime]
  show 0 < 60 * minutes * 1000000000
  omega

theorem exists_minutes? (h : settings.GivenBy lookup) :
    ∃ minutes, Chosen lookup minutes ∧
      Duration.minutes? minutes = some settings.accessTokenLifetime := by
  obtain ⟨minutes, hchosen, hlifetime⟩ := h.lifetime
  rw [hlifetime]
  exact ⟨minutes, hchosen, minutes?_of_le hchosen.range.1 hchosen.range.2⟩

/-- Claims fail to be issued when they would end after the last instant. -/
theorem issueClaims_eq_error_iff (h : settings.GivenBy lookup) {error : TokenError} :
    settings.issueClaims subject roleId now = .error error ↔
      Instant.latest.nanoseconds < now.ending settings.accessTokenLifetime ∧
        error = .invalidTimeWindow := by
  have hpos := h.lifetime_pos
  have hearliest : Instant.earliest.nanoseconds ≤ now.ending settings.accessTokenLifetime := by
    calc Instant.earliest.nanoseconds ≤ now.nanoseconds := now.least_le
      _ ≤ now.nanoseconds + settings.accessTokenLifetime.nanoseconds := by omega
  rw [issueClaims, AccessClaims.issue_eq_endingWith, Instant.endingWith_eq_error_iff,
    Instant.Reaches, and_iff_right hearliest, Int.not_le]

theorem validate_of_issueClaims (h : settings.GivenBy lookup) {claims : AccessClaims}
    (hissue : settings.issueClaims subject roleId now = .ok claims) :
    claims.validate now = .ok () := by
  have hpos := h.lifetime_pos
  refine ((AccessClaims.validFor_of_issue hissue).valid now).2 ⟨Int.le_refl _, ?_⟩
  show now.nanoseconds < now.nanoseconds + settings.accessTokenLifetime.nanoseconds
  omega

end GivenBy

/--
**The lifetimes that are accepted are the whole minutes of a day.**  A look-up gives
settings exactly when no lifetime is set, or one whose text is a number from 1 to 1440
between blanks.  The settings are then those of the look-up, with a lifetime that a
duration can have; their claims fail to be issued after the end of time only, and are
valid when they are issued.  What is refused is refused for its lifetime, and never
because no duration is as long.
-/
theorem ofLookup_accepts_whole_minutes (lookup : String → Option String) :
    ((∃ settings, ofLookup lookup = .ok settings) ↔
      ∀ raw, lookup lifetimeKey = some raw → ∃ n, Written raw n ∧ 1 ≤ n ∧ n ≤ 1440) ∧
    (∀ settings, ofLookup lookup = .ok settings ↔ settings.GivenBy lookup) ∧
    (∀ settings, ofLookup lookup = .ok settings →
      (∃ minutes, Chosen lookup minutes ∧
        Duration.minutes? minutes = some settings.accessTokenLifetime) ∧
      ∀ subject roleId now,
        (∀ error, settings.issueClaims subject roleId now = .error error ↔
          Instant.latest.nanoseconds < now.ending settings.accessTokenLifetime ∧
            error = .invalidTimeWindow) ∧
        ∀ claims, settings.issueClaims subject roleId now = .ok claims →
          claims.validate now = .ok ()) ∧
    ∀ error, ofLookup lookup = .error error →
      (∃ raw, lookup lifetimeKey = some raw ∧ LifetimeRefused raw error) ∧
        ∀ minutes, error ≠ .lifetimeTooLong minutes := by
  refine ⟨exists_ofLookup_eq_ok_iff.trans exists_chosen_iff, fun _ => ofLookup_eq_ok_iff,
    fun settings h => ?_, fun error h => ?_⟩
  · have hgiven : settings.GivenBy lookup := ofLookup_eq_ok_iff.1 h
    exact ⟨hgiven.exists_minutes?, fun _ _ _ =>
      ⟨fun _ => hgiven.issueClaims_eq_error_iff, fun _ => hgiven.validate_of_issueClaims⟩⟩
  · obtain ⟨raw, hraw, hrefused⟩ := refused_of_ofLookup h
    exact ⟨⟨raw, hraw, hrefused⟩, fun _ => hrefused.ne_lifetimeTooLong⟩

/-- The law for a lifetime with a sign and a zero in front, between an ideographic and a plain
blank, and for a number of minutes that does not fit a word. -/
theorem ofLookup_accepts_whole_minutes_signed :
    let lookup : String → Option String := fun key =>
      if key = lifetimeKey then some "\u3000+045 " else some " policy.json"
    let settings : Settings := ⟨some " policy.json", .minutes 45⟩
    let claims : AccessClaims :=
      ⟨⟨.ofNat 7⟩, ⟨.ofNat 1⟩, .epoch, ⟨2700000000000, by decide, by decide⟩⟩
    let long : String → Option String := fun _ => some "10000000000000000000000"
    ofLookup lookup = .ok settings ∧
    settings.issueClaims ⟨.ofNat 7⟩ ⟨.ofNat 1⟩ .epoch = .ok claims ∧
    claims.validate .epoch = .ok () ∧
    settings.issueClaims ⟨.ofNat 7⟩ ⟨.ofNat 1⟩ .latest = .error .invalidTimeWindow ∧
    ∃ error, ofLookup long = .error error ∧ ∀ minutes, error ≠ .lifetimeTooLong minutes := by
  intro lookup settings claims long
  obtain ⟨-, hgiven, hissued, -⟩ := ofLookup_accepts_whole_minutes lookup
  have hnumeral : Whole.IsNumeral ['0', '4', '5'] := by
    refine ⟨List.cons_ne_nil _ _, ?_⟩
    rw [List.forall_mem_cons, List.forall_mem_cons, List.forall_mem_singleton]
    decide
  have hwritten : Written "\u3000+045 " 45 :=
    ⟨['\u3000'], ['+', '0', '4', '5'], [' '], rfl, List.forall_mem_singleton.2 rfl,
      List.forall_mem_singleton.2 rfl, Whole.denotes_plus_iff.2 ⟨hnumeral, by decide⟩⟩
  have hsettings : ofLookup lookup = .ok settings :=
    (hgiven settings).2 {
      lifetime := ⟨45, .inr ⟨_, rfl, hwritten, by decide, by decide⟩, rfl⟩
      policyPath := fun path => by
        show some " policy.json" = some path ↔ some " policy.json" = some path ∧ _
        refine ⟨fun h => ⟨h, ?_⟩, fun h => h.1⟩
        obtain rfl := Option.some.inj h
        decide }
  obtain ⟨-, hclaims⟩ := hissued settings hsettings
  have hissue : settings.issueClaims ⟨.ofNat 7⟩ ⟨.ofNat 1⟩ .epoch = .ok claims := rfl
  refine ⟨hsettings, hissue, (hclaims _ _ _).2 claims hissue,
    ((hclaims _ _ _).1 _).2 ⟨by decide, rfl⟩, ?_⟩
  obtain ⟨-, -, -, hrefused⟩ := ofLookup_accepts_whole_minutes long
  exact ⟨_, rfl, (hrefused _ rfl).2⟩

end Settings

end AccessControl
