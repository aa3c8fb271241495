/-
# One exchange of a token

Two attempts on one token can both find it, as the swap is a call of its own; the
swap that comes second finds the token gone.  So at most one of the attempts on a
token obtains a session, in whatever order the calls of all attempts come, and if
nothing can be wrong with the token, one does.
-/
import AccessControl.Proofs.Directory.Permanence
import AccessControl.Proofs.Session.Interleaving
import Mathlib.Data.List.Induction

namespace AccessControl.Session.System

variable {α ι : Type} {settings : Settings} {attempts : α → Attempt} {s s' : System α}
  {first : Clients} {moves : List (Move α ι)} {move : Move α ι} {a b : α} {token : String}
  {client : RefreshClient} {session : Session}

/-- An attempt has obtained a session. -/
def Succeeded (s : System α) (a : α) : Prop := ∃ session, s.stage a = .ended (.ok session)

theorem not_succeeded_start : ¬ (start first : System α).Succeeded a := by
  rintro ⟨session, hstage⟩
  cases hstage

/-- An attempt that has a session ready has not obtained one. -/
theorem not_succeeded_of_renewed (h : s.stage a = .renewed session) : ¬ s.Succeeded a := by
  rintro ⟨session', hended⟩
  rw [h] at hended
  cases hended

/-! ## Generated tokens -/

/-- The tokens that are generated for the sign-ins of a run. -/
def signedIn (moves : List (Move α ι)) : List String := moves.filterMap Move.signedIn

/-- Every generated token is generated once, and none is stored at the start. -/
structure Fresh (attempts : α → Attempt) (first : Clients) (moves : List (Move α ι)) : Prop where
  attempt_stored : ∀ a, first.find? (attempts a).fresh = none
  attempt_injective : Function.Injective fun a => (attempts a).fresh
  signIn_stored : ∀ token ∈ signedIn moves, first.find? token = none
  signIn_nodup : (signedIn moves).Nodup
  apart : ∀ a, (attempts a).fresh ∉ signedIn moves

/-- A token can have been stored: at the start, by a sign-in or by a swap. -/
def Known (attempts : α → Attempt) (first : Clients) (moves : List (Move α ι)) (s : System α)
    (token : String) : Prop :=
  (∃ client, first.find? token = some client) ∨ token ∈ signedIn moves ∨
    ∃ a, s.Succeeded a ∧ (attempts a).fresh = token

theorem signedIn_append (before after : List (Move α ι)) :
    signedIn (before ++ after) = signedIn before ++ signedIn after := List.filterMap_append

/-- What is new in a run is new in its first part. -/
theorem Fresh.of_append {before after : List (Move α ι)}
    (h : Fresh attempts first (before ++ after)) : Fresh attempts first before where
  attempt_stored := h.attempt_stored
  attempt_injective := h.attempt_injective
  signIn_stored token hmem := by
    refine h.signIn_stored token ?_
    rw [signedIn_append]
    exact List.mem_append_left _ hmem
  signIn_nodup := by
    have hnodup := h.signIn_nodup
    rw [signedIn_append] at hnodup
    exact (List.nodup_append.1 hnodup).1
  apart a hmem := by
    refine h.apart a ?_
    rw [signedIn_append]
    exact List.mem_append_left _ hmem

/-- The token of an attempt that has no session yet is new. -/
theorem Fresh.not_known_attempt (h : Fresh attempts first moves) (ha : ¬ s.Succeeded a) :
    ¬ Known attempts first moves s (attempts a).fresh := by
  rintro (⟨client, hfind⟩ | hmem | ⟨b, hb, htoken⟩)
  · rw [h.attempt_stored a] at hfind
    cases hfind
  · exact h.apart a hmem
  · rw [h.attempt_injective htoken] at hb
    exact ha hb

/-- The token of the next sign-in is new. -/
theorem Fresh.not_known_signIn
    (h : Fresh attempts first (moves ++ [(.signIn client : Move α ι)])) :
    ¬ Known attempts first moves s client.refreshToken := by
  have hlast : client.refreshToken ∈ signedIn (moves ++ [(.signIn client : Move α ι)]) := by
    rw [signedIn_append]
    exact List.mem_append_right _ List.mem_cons_self
  rintro (⟨found, hfind⟩ | hmem | ⟨b, -, htoken⟩)
  · rw [h.signIn_stored _ hlast] at hfind
    cases hfind
  · have hnodup := h.signIn_nodup
    rw [signedIn_append] at hnodup
    exact (List.nodup_append.1 hnodup).2.2 _ hmem _ List.mem_cons_self rfl
  · rw [← htoken] at hlast
    exact h.apart b hlast

/-! ## The invariant -/

/-- The sessions that attempts have ready bear the tokens that were generated for them. -/
def Ready (attempts : α → Attempt) (s : System α) : Prop :=
  ∀ a session, s.stage a = .renewed session →
    session.client.refreshToken = (attempts a).fresh

/-- What holds after every run in which the generated tokens are new. -/
structure Exclusive (attempts : α → Attempt) (first : Clients) (moves : List (Move α ι))
    (s : System α) : Prop where
  ready : Ready attempts s
  known : ∀ token client, s.clients.find? token = some client →
    Known attempts first moves s token
  /-- A token for which a session was obtained is gone for good. -/
  spent : ∀ a, s.Succeeded a → s.clients.find? (attempts a).token = none ∧
    Known attempts first moves s (attempts a).token
  once : ∀ a b, s.Succeeded a → s.Succeeded b → (attempts a).token = (attempts b).token → a = b

theorem Exclusive.start : Exclusive attempts first ([] : List (Move α ι)) (start first) where
  ready a session hstage := by cases hstage
  known token client hfind := .inl ⟨client, hfind⟩
  spent a ha := absurd ha not_succeeded_start
  once a b ha := absurd ha not_succeeded_start

/-- Nothing is stored under the token of an attempt before the attempt has obtained a session. -/
theorem Exclusive.find?_fresh (h : Exclusive attempts first moves s)
    (hfresh : Fresh attempts first moves) (ha : ¬ s.Succeeded a) :
    s.clients.find? (attempts a).fresh = none := by
  rw [Option.eq_none_iff_forall_ne_some]
  intro client hfind
  exact hfresh.not_known_attempt ha (h.known _ client hfind)

theorem Exclusive.find?_renewed (h : Exclusive attempts first moves s)
    (hfresh : Fresh attempts first moves) (a : α) (session : Session)
    (ha : s.stage a = .renewed session) :
    s.clients.find? session.client.refreshToken = none := by
  rw [h.ready a session ha]
  exact h.find?_fresh hfresh (not_succeeded_of_renewed ha)

/-! ## Stages -/

variable [DecidableEq α] [IdentityStore ι]

/-- An attempt that has ended stays so. -/
theorem Moved.stage_of_ended (h : Moved settings attempts s move s')
    {answer : Except AccessError Session} (ha : s.stage a = .ended answer) :
    s'.stage a = .ended answer := by
  rcases h.stage_or_advanced a with hsame | ⟨_, -, hadvanced⟩
  · rw [hsame, ha]
  · rw [ha] at hadvanced
    exact hadvanced.stage_of_ended

theorem Moved.succeeded (h : Moved settings attempts s move s') (ha : s.Succeeded a) :
    s'.Succeeded a := by
  obtain ⟨session, hstage⟩ := ha
  exact ⟨session, h.stage_of_ended hstage⟩

theorem Ready.moved (h : Ready attempts s) (hmoved : Moved settings attempts s move s') :
    Ready attempts s' := by
  intro a session ha
  rcases hmoved.stage_or_advanced a with hsame | ⟨_, -, hadvanced⟩
  · rw [hsame] at ha
    exact h a session ha
  · rw [ha] at hadvanced
    exact hadvanced.refreshToken_of_renewed

/-! ## What a move does to the clients -/

/-- A move is the purge of an attempt after the last instant of a client. -/
def Purges (attempts : α → Attempt) (s : System α) (client : RefreshClient) (move : Move α ι) :
    Prop :=
  ∃ a identities, move = .attempt a identities ∧ s.stage a = .begun ∧
    client.expiresAt < (attempts a).now

/-- A move is the swap by which an attempt on a token obtains a session. -/
def Rotates (attempts : α → Attempt) (s s' : System α) (token : String) (move : Move α ι) :
    Prop :=
  ∃ a identities session, move = .attempt a identities ∧ (attempts a).token = token ∧
    s.stage a = .renewed session ∧ s'.stage a = .ended (.ok session)

/-- A client that is stored stays, unless a purge finds it expired or its token is exchanged. -/
theorem Moved.find?_of_some (h : Moved settings attempts s move s')
    (hfind : s.clients.find? token = some client) :
    s'.clients.find? token = some client ∨
      s'.clients.find? token = none ∧
        (Purges attempts s client move ∨ Rotates attempts s s' token move) := by
  cases h with
  | refused _ => exact .inl hfind
  | signIn hinsert => exact .inl ((Clients.find?_eq_some_iff_of_insert hinsert).2 (.inr hfind))
  | @attempt a identities _ _ hadvanced =>
    cases hadvanced with
    | purge hstage =>
      by_cases hnow : client.expiresAt < (attempts a).now
      · refine .inr ⟨?_, .inl ⟨a, identities, rfl, hstage, hnow⟩⟩
        rw [Option.eq_none_iff_forall_ne_some]
        intro found hfound
        obtain ⟨hold, hle⟩ := Clients.find?_unexpired_eq_some_iff.1 hfound
        rw [hfind] at hold
        cases hold
        exact Instant.not_lt.2 hle hnow
      · exact .inl (Clients.find?_unexpired_eq_some_iff.2 ⟨hfind, Instant.not_lt.1 hnow⟩)
    | swap hstage hswap =>
      by_cases htoken : token = (attempts a).token
      · refine .inr ⟨?_, .inr ⟨a, identities, _, rfl, htoken.symm, hstage, stage_put_self ..⟩⟩
        rw [htoken]
        exact find?_eq_none_of_swap hswap
      · exact .inl ((find?_eq_some_iff_of_swap hswap).2 (.inr ⟨htoken, hfind⟩))
    | find _ _ | miss _ _ | renew _ _ | refuse _ _ | lose _ _ | rest _ => exact .inl hfind

/-- A token that can have been stored can have been stored later on as well. -/
theorem Known.moved (h : Known attempts first moves s token)
    (hmoved : Moved settings attempts s move s') :
    Known attempts first (moves ++ [move]) s' token := by
  rcases h with hfirst | hmem | ⟨a, ha, htoken⟩
  · exact .inl hfirst
  · refine .inr (.inl ?_)
    rw [signedIn_append]
    exact List.mem_append_left _ hmem
  · exact .inr (.inr ⟨a, hmoved.succeeded ha, htoken⟩)

/-! ## At most one session for a token -/

/-- A session that an attempt has obtained is an old one or that of a swap just made. -/
theorem Moved.succeeded_or_swap (h : Moved settings attempts s move s') (ha : s'.Succeeded a) :
    s.Succeeded a ∨ ∃ identities session, move = .attempt a identities ∧
      s.stage a = .renewed session ∧
      swap s.clients (attempts a).token session = .ok s'.clients := by
  obtain ⟨session, hended⟩ := ha
  rcases h.stage_or_advanced a with hsame | ⟨identities, hmove, hadvanced⟩
  · rw [hsame] at hended
    exact .inl ⟨session, hended⟩
  · rw [hended] at hadvanced
    rcases hadvanced.swap_of_ended with hold | ⟨hstage, hswap⟩
    · exact .inl ⟨session, hold⟩
    · exact .inr ⟨identities, session, hmove, hstage, hswap⟩

/-- A client that is stored is an old one, or its token was generated for the move. -/
theorem Moved.find?_or_generated (h : Moved settings attempts s move s')
    (hfind : s'.clients.find? token = some client) :
    s.clients.find? token = some client ∨
      (∃ added, move = .signIn added ∧ token = added.refreshToken) ∨
      ∃ a identities session, move = .attempt a identities ∧ s.stage a = .renewed session ∧
        s'.Succeeded a ∧ token = session.client.refreshToken := by
  cases h with
  | refused _ => exact .inl hfind
  | @signIn added _ hinsert =>
    rcases (Clients.find?_eq_some_iff_of_insert hinsert).1 hfind with ⟨htoken, -⟩ | hold
    · exact .inr (.inl ⟨added, rfl, htoken⟩)
    · exact .inl hold
  | @attempt a identities _ _ hadvanced =>
    cases hadvanced with
    | purge _ => exact .inl (Clients.find?_unexpired_eq_some_iff.1 hfind).1
    | @swap session _ hstage hswap =>
      rcases (find?_eq_some_iff_of_swap hswap).1 hfind with ⟨htoken, -⟩ | ⟨-, hold⟩
      · exact .inr (.inr
          ⟨a, identities, session, rfl, hstage, ⟨session, stage_put_self ..⟩, htoken⟩)
      · exact .inl hold
    | find _ _ | miss _ _ | renew _ _ | refuse _ _ | lose _ _ | rest _ => exact .inl hfind

/-- A token that is stored by a move is one that can not have been stored before. -/
theorem Exclusive.find?_or_new (h : Exclusive attempts first moves s)
    (hfresh : Fresh attempts first (moves ++ [move])) (hmoved : Moved settings attempts s move s')
    (hfind : s'.clients.find? token = some client) :
    s.clients.find? token = some client ∨
      ¬ Known attempts first moves s token ∧ Known attempts first (moves ++ [move]) s' token := by
  rcases hmoved.find?_or_generated hfind with hold | ⟨added, rfl, rfl⟩ |
    ⟨a, identities, session, -, hstage, hdone, rfl⟩
  · exact .inl hold
  · refine .inr ⟨hfresh.not_known_signIn, .inr (.inl ?_)⟩
    rw [signedIn_append]
    exact List.mem_append_right _ List.mem_cons_self
  · rw [h.ready a session hstage]
    exact .inr ⟨hfresh.of_append.not_known_attempt (not_succeeded_of_renewed hstage),
      .inr (.inr ⟨a, hdone, rfl⟩)⟩

theorem Exclusive.moved (h : Exclusive attempts first moves s)
    (hfresh : Fresh attempts first (moves ++ [move])) (hmoved : Moved settings attempts s move s') :
    Exclusive attempts first (moves ++ [move]) s' where
  ready := h.ready.moved hmoved
  known token client hfind := by
    rcases h.find?_or_new hfresh hmoved hfind with hold | ⟨-, hknown⟩
    · exact (h.known token client hold).moved hmoved
    · exact hknown
  spent a ha := by
    rcases hmoved.succeeded_or_swap ha with hold | ⟨_, session, -, -, hswap⟩
    · -- the token does not come back: it is known, and only new tokens are stored
      obtain ⟨hgone, hknown⟩ := h.spent a hold
      refine ⟨?_, hknown.moved hmoved⟩
      rw [Option.eq_none_iff_forall_ne_some]
      intro client hfind
      rcases h.find?_or_new hfresh hmoved hfind with hstored | ⟨hnew, -⟩
      · rw [hgone] at hstored
        cases hstored
      · exact hnew hknown
    · obtain ⟨-, retired, hstored⟩ := find?_of_swap hswap
      exact ⟨find?_eq_none_of_swap hswap, (h.known _ _ hstored).moved hmoved⟩
  once a b ha hb htoken := by
    rcases hmoved.succeeded_or_swap ha with hold | ⟨_, _, hmove, -, hswap⟩
    · rcases hmoved.succeeded_or_swap hb with hold' | ⟨_, _, -, -, hswap'⟩
      · exact h.once a b hold hold' htoken
      · -- the swap of `b` has found the token, which is gone since the session of `a`
        obtain ⟨-, retired, hstored⟩ := find?_of_swap hswap'
        rw [← htoken, (h.spent a hold).1] at hstored
        cases hstored
    · rcases hmoved.succeeded_or_swap hb with hold' | ⟨_, _, hmove', -, -⟩
      · obtain ⟨-, retired, hstored⟩ := find?_of_swap hswap
        rw [htoken, (h.spent b hold').1] at hstored
        cases hstored
      · rw [hmove] at hmove'
        cases hmove'
        rfl

/-- In every run with new generated tokens, at most one attempt on a token obtains a session. -/
theorem exclusive_run (settings : Settings) (hfresh : Fresh attempts first moves) :
    Exclusive attempts first moves (run settings attempts first moves) := by
  induction moves using List.reverseRecOn with
  | nil => exact .start
  | append_singleton moves move ih =>
    exact (ih hfresh.of_append).moved hfresh (moved_run_concat ..)

/-! ## Attempts that come second -/

/-- An attempt that has a session ready keeps it ready, obtains it, or finds its token gone. -/
theorem Moved.stage_of_renewed (h : Moved settings attempts s move s')
    (ha : s.stage a = .renewed session)
    (hnew : s.clients.find? session.client.refreshToken = none) :
    s'.stage a = .renewed session ∨ s'.stage a = .ended (.ok session) ∨
      s'.stage a = .ended (.error (.unauthorized .unusedRefreshToken)) ∧
        s'.clients = s.clients := by
  rcases h.stage_or_advanced a with hsame | ⟨_, -, hadvanced⟩
  · rw [hsame, ha]
    exact .inl rfl
  · rw [ha] at hadvanced
    exact .inr (hadvanced.stage_of_renewed hnew)

/-- How an attempt ends that has a session ready at some point of a run. -/
theorem stage_of_renewed_run {before after : List (Move α ι)}
    (hfresh : Fresh attempts first (before ++ after))
    (ha : (run settings attempts first before).stage a = .renewed session) :
    (run settings attempts first (before ++ after)).stage a = .renewed session ∨
      (run settings attempts first (before ++ after)).stage a = .ended (.ok session) ∨
      (run settings attempts first (before ++ after)).stage a =
        .ended (.error (.unauthorized .unusedRefreshToken)) := by
  induction after using List.reverseRecOn with
  | nil =>
    rw [List.append_nil]
    exact .inl ha
  | append_singleton after move ih =>
    rw [← List.append_assoc] at hfresh ⊢
    have hmoved := moved_run_concat settings attempts first (before ++ after) move
    have hpast := hfresh.of_append
    rcases ih hpast with hready | hended | hended
    · have hnew := (exclusive_run settings hpast).find?_renewed hpast a session hready
      rcases hmoved.stage_of_renewed hready hnew with hnext | hnext | ⟨hnext, -⟩
      · exact .inl hnext
      · exact .inr (.inl hnext)
      · exact .inr (.inr hnext)
    · exact .inr (.inl (hmoved.stage_of_ended hended))
    · exact .inr (.inr (hmoved.stage_of_ended hended))

/-- An attempt that had a session ready and ends without it stores nothing. -/
theorem answer_of_renewed_run {before after : List (Move α ι)} {answer : Except AccessError Session}
    (hfresh : Fresh attempts first (before ++ after))
    (hready : (run settings attempts first before).stage a = .renewed session)
    (hended : (run settings attempts first (before ++ after)).stage a = .ended answer) :
    answer = .ok session ∨ answer = .error (.unauthorized .unusedRefreshToken) ∧
      (run settings attempts first (before ++ after)).clients.find? (attempts a).fresh = none := by
  rcases stage_of_renewed_run hfresh hready with hnext | hnext | hnext
  · rw [hended] at hnext
    cases hnext
  · rw [hended] at hnext
    cases hnext
    exact .inl rfl
  · have hfailed : ¬ (run settings attempts first (before ++ after)).Succeeded a := by
      rintro ⟨session', hsession⟩
      rw [hnext] at hsession
      cases hsession
    rw [hended] at hnext
    cases hnext
    exact .inr ⟨rfl, (exclusive_run settings hfresh).find?_fresh hfresh hfailed⟩

/-- The swap of an attempt that comes second changes nothing. -/
theorem clients_of_lost_swap (hfresh : Fresh attempts first moves)
    (hready : (run settings attempts first moves).stage a = .renewed session)
    (hlost : (run settings attempts first (moves ++ [move])).stage a =
      .ended (.error (.unauthorized .unusedRefreshToken))) :
    (run settings attempts first (moves ++ [move])).clients =
      (run settings attempts first moves).clients := by
  have hmoved := moved_run_concat settings attempts first moves move
  have hnew := (exclusive_run settings hfresh).find?_renewed hfresh a session hready
  rcases hmoved.stage_of_renewed hready hnew with hnext | hnext | ⟨-, hclients⟩
  · rw [hlost] at hnext
    cases hnext
  · rw [hlost] at hnext
    cases hnext
  · exact hclients

/-! ## Some attempt obtains a session -/

/-- A token that nothing can be wrong with is there until an attempt on it obtains a session. -/
theorem succeeded_or_pending_run (hfresh : Fresh attempts first moves)
    (hfind : first.find? token = some client)
    (hnow : ∀ a identities, .attempt a identities ∈ moves → (attempts a).now ≤ client.expiresAt)
    (hrenew : ∀ a identities, .attempt a identities ∈ moves → (attempts a).token = token →
      ∃ session, renew identities settings client (attempts a).now (attempts a).fresh
        = .ok session) :
    (∃ a, (attempts a).token = token ∧ (run settings attempts first moves).Succeeded a) ∨
      (run settings attempts first moves).clients.find? token = some client ∧
        ∀ a, (attempts a).token = token →
          Pending client ((run settings attempts first moves).stage a) := by
  -- on the run: until the first session the token stays stored and no attempt on it has failed
  induction moves using List.reverseRecOn with
  | nil => exact .inr ⟨hfind, fun _ _ => trivial⟩
  | append_singleton moves move ih =>
    have hmoved := moved_run_concat settings attempts first moves move
    have hexclusive := exclusive_run settings hfresh.of_append
    have hlast : move ∈ moves ++ [move] := List.mem_append_right _ List.mem_cons_self
    have hpast := ih hfresh.of_append
      (fun a identities hmem => hnow a identities (List.mem_append_left _ hmem))
      (fun a identities hmem => hrenew a identities (List.mem_append_left _ hmem))
    rcases hpast with ⟨a, htoken, ha⟩ | ⟨hstored, hpending⟩
    · exact .inl ⟨a, htoken, hmoved.succeeded ha⟩
    · by_cases hdone : ∃ a, (attempts a).token = token ∧
          (run settings attempts first (moves ++ [move])).Succeeded a
      · exact .inl hdone
      · refine .inr ⟨?_, ?_⟩
        · rcases hmoved.find?_of_some hstored with hkept | ⟨-, hpurges | hrotates⟩
          · exact hkept
          · -- no attempt comes too late for the token
            obtain ⟨a, identities, rfl, -, hexpired⟩ := hpurges
            exact absurd hexpired (Instant.not_lt.2 (hnow a identities hlast))
          · obtain ⟨a, _, session, -, htoken, -, hended⟩ := hrotates
            exact absurd ⟨a, htoken, session, hended⟩ hdone
        · rintro a rfl
          rcases hmoved.stage_or_advanced a with hsame | ⟨identities, rfl, hadvanced⟩
          · rw [hsame]
            exact hpending a rfl
          · have hnew := hexclusive.find?_renewed hfresh.of_append a
            have hnext := hadvanced.pending (hpending a rfl) hstored hnew
              (hrenew a identities hlast rfl)
            rcases hnext with hnext | ha
            · exact hnext
            · exact absurd ⟨a, rfl, ha⟩ hdone

/-- Once an attempt on such a token has ended, one attempt and only one has obtained a session. -/
theorem existsUnique_succeeded_run (hfresh : Fresh attempts first moves)
    (hfind : first.find? token = some client)
    (hnow : ∀ a identities, .attempt a identities ∈ moves → (attempts a).now ≤ client.expiresAt)
    (hrenew : ∀ a identities, .attempt a identities ∈ moves → (attempts a).token = token →
      ∃ session, renew identities settings client (attempts a).now (attempts a).fresh
        = .ok session)
    (hended : ∃ a answer, (attempts a).token = token ∧
      (run settings attempts first moves).stage a = .ended answer) :
    ∃! a, (attempts a).token = token ∧ (run settings attempts first moves).Succeeded a := by
  rcases succeeded_or_pending_run hfresh hfind hnow hrenew with ⟨a, htoken, ha⟩ | ⟨-, hpending⟩
  · refine ⟨a, ⟨htoken, ha⟩, ?_⟩
    rintro b ⟨htoken', hb⟩
    exact (exclusive_run settings hfresh).once b a hb ha (htoken'.trans htoken.symm)
  · -- an attempt that has ended is not pending
    obtain ⟨a, answer, htoken, hstage⟩ := hended
    have hstill := hpending a htoken
    rw [hstage] at hstill
    cases hstill

/-! ## Exactly one exchange -/

/--
**A token is exchanged once, in whatever order the calls come.**  At most one attempt on a
token obtains a session; any other attempt on it that had a session ready ends without it
and stores nothing.  A client goes only in a purge after its last instant or in the swap of
an attempt on its token.  A token that is stored at the start, that no attempt of the run
comes too late for and that can be renewed whenever it is tried has been exchanged exactly
once as soon as one attempt on it has ended.
-/
theorem exchanges_of_run (hfresh : Fresh attempts first moves) :
    (∀ a b, (run settings attempts first moves).Succeeded a →
      (run settings attempts first moves).Succeeded b →
      (attempts a).token = (attempts b).token → a = b) ∧
    (∀ before after a session answer, moves = before ++ after →
      (run settings attempts first before).stage a = .renewed session →
      (run settings attempts first moves).stage a = .ended answer →
      answer = .ok session ∨ answer = .error (.unauthorized .unusedRefreshToken) ∧
        (run settings attempts first moves).clients.find? (attempts a).fresh = none) ∧
    (∀ before move after, moves = before ++ move :: after →
      (∀ a session, (run settings attempts first before).stage a = .renewed session →
        (run settings attempts first (before ++ [move])).stage a
          = .ended (.error (.unauthorized .unusedRefreshToken)) →
        (run settings attempts first (before ++ [move])).clients
          = (run settings attempts first before).clients) ∧
      ∀ token client, (run settings attempts first before).clients.find? token = some client →
        (run settings attempts first (before ++ [move])).clients.find? token = some client ∨
        (run settings attempts first (before ++ [move])).clients.find? token = none ∧
          (Purges attempts (run settings attempts first before) client move ∨
            Rotates attempts (run settings attempts first before)
              (run settings attempts first (before ++ [move])) token move)) ∧
    ∀ token client, first.find? token = some client →
      (∀ a identities, .attempt a identities ∈ moves → (attempts a).now ≤ client.expiresAt) →
      (∀ a identities, .attempt a identities ∈ moves → (attempts a).token = token →
        (∃ principal,
          IdentityStore.resolvePrincipal identities client.principalId = .ok principal) ∧
        ((attempts a).now.add? settings.accessTokenLifetime).isSome ∧
        ((attempts a).now.add? (.minutes 40)).isSome) →
      (∃ a answer, (attempts a).token = token ∧
        (run settings attempts first moves).stage a = .ended answer) →
      ∃! a, (attempts a).token = token ∧ (run settings attempts first moves).Succeeded a := by
  refine ⟨(exclusive_run settings hfresh).once, ?_, ?_, ?_⟩
  · rintro before after a session answer rfl hready hended
    exact answer_of_renewed_run hfresh hready hended
  · rintro before move after rfl
    have hmoved := moved_run_concat settings attempts first before move
    refine ⟨?_, fun token client hfind => hmoved.find?_of_some hfind⟩
    intro a session hready hlost
    exact clients_of_lost_swap hfresh.of_append hready hlost
  · intro token client hfind hnow hvalid hended
    refine existsUnique_succeeded_run hfresh hfind hnow ?_ hended
    intro a identities hmem htoken
    exact exists_renew_eq_ok_iff.2 (hvalid a identities hmem htoken)

/-! ## Two attempts at a time -/

/-- Two attempts on one token. -/
def racers (left : Bool) : Attempt := ⟨"shared", .epoch, if left then "left" else "right"⟩

/-- The client with the token that both attempts are on. -/
def shared : RefreshClient := ⟨Directory.vasya.id, "shared", .epoch⟩

/-- The two attempts take turns, so that both find the token; a sign-in comes between. -/
def race : List (Move Bool Directory) :=
  [.attempt true Directory.registered, .attempt false Directory.registered,
    .attempt true Directory.registered, .attempt false Directory.registered,
    .signIn ⟨Directory.vasya.id, "other", .epoch⟩,
    .attempt true Directory.registered, .attempt false Directory.registered,
    .attempt false Directory.registered, .attempt true Directory.registered]

/-- The law where both attempts have found the token and one comes second with its swap. -/
theorem exchanges_of_race :
    Fresh racers ⟨.insert .empty "shared" shared⟩ race ∧
      (∃! a, (racers a).token = "shared" ∧
        (run .default racers ⟨.insert .empty "shared" shared⟩ race).Succeeded a) ∧
      (run .default racers ⟨.insert .empty "shared" shared⟩ race).stage true =
        .ended (.error (.unauthorized .unusedRefreshToken)) := by
  have hfresh : Fresh racers ⟨.insert .empty "shared" shared⟩ race := by
    refine ⟨?_, ?_, by decide, by decide, by decide⟩
    · intro a
      cases a <;> rfl
    · intro a b htoken
      cases a <;> cases b <;> first | rfl | exact absurd htoken (by decide)
  refine ⟨hfresh, ?_, rfl⟩
  refine (exchanges_of_run hfresh).2.2.2 "shared" shared rfl ?_ ?_ ⟨false, _, rfl, rfl⟩
  · intro a identities _
    exact Int.le_refl _
  · intro a identities hmem _
    have hidentities : identities = Directory.registered := by
      simp only [race, List.mem_cons, Move.attempt.injEq, reduceCtorEq, List.not_mem_nil] at hmem
      tauto
    subst hidentities
    exact ⟨⟨Directory.vasya, rfl⟩, rfl, rfl⟩

end AccessControl.Session.System
