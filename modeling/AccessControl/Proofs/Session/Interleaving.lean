/-
# Exchanges that run at the same time

An exchange makes four calls: it purges the expired clients, looks its token up,
resolves the principal and issues a session, and swaps the tokens.  Each call is
atomic, and the calls of any number of exchanges may come in any order, with
sign-ins between them.  `advance` makes the next call of one exchange; made one
after the other they are `refresh` (`iterate_alone`).
-/
import AccessControl.Proofs.Session.Calls
import Mathlib.Logic.Function.Basic
import Mathlib.Logic.Function.Iterate

namespace AccessControl.Session

/-! ## The calls of one exchange -/

/-- An attempt to exchange a token at some instant, and the token that is generated for it. -/
structure Attempt where
  token : String
  now : Instant
  fresh : String
  deriving DecidableEq, Repr

/-- How far an attempt has come. -/
inductive Stage where
  | begun
  | purged
  | found (current : RefreshClient)
  | renewed (session : Session)
  | ended (answer : Except AccessError Session)

section

variable {ι κ : Type} [IdentityStore ι] [ClientStore κ]

/-- The next call of an attempt: the stage that it leads to and the clients that it leaves. -/
def advance (identities : ι) (settings : Settings) (attempt : Attempt) (clients : κ) :
    Stage → Stage × κ
  | .begun =>
    match ClientStore.removeExpired clients attempt.now with
    | .error error => (.ended (.error (.authorization error)), clients)
    | .ok (_, clients) => (.purged, clients)
  | .purged =>
    match lookUp clients attempt.token with
    | .error error => (.ended (.error error), clients)
    | .ok current => (.found current, clients)
  | .found current =>
    match renew identities settings current attempt.now attempt.fresh with
    | .error error => (.ended (.error error), clients)
    | .ok session => (.renewed session, clients)
  | .renewed session =>
    match swap clients attempt.token session with
    | .error error => (.ended (.error error), clients)
    | .ok clients => (.ended (.ok session), clients)
  | .ended answer => (.ended answer, clients)

/-- The next call of an attempt that runs alone. -/
def alone (identities : ι) (settings : Settings) (attempt : Attempt) (state : Stage × κ) :
    Stage × κ :=
  advance identities settings attempt state.2 state.1

/-- An attempt that has ended makes no more calls. -/
theorem iterate_alone_ended (identities : ι) (settings : Settings) (attempt : Attempt)
    (answer : Except AccessError Session) (clients : κ) (n : Nat) :
    (alone identities settings attempt)^[n] (.ended answer, clients) = (.ended answer, clients) :=
  Function.iterate_fixed rfl n

/-- **The four calls of an attempt that runs alone are an exchange.** -/
theorem iterate_alone (identities : ι) (settings : Settings) (attempt : Attempt) (clients : κ) :
    (alone identities settings attempt)^[4] (.begun, clients) =
      (.ended (refresh identities settings clients attempt.token attempt.now attempt.fresh).1,
        (refresh identities settings clients attempt.token attempt.now attempt.fresh).2) := by
  -- each call ends the attempt as it ends the exchange, or leads to the next call of both
  unfold refresh exchange
  rw [Function.iterate_succ_apply, alone, advance]
  cases ClientStore.removeExpired clients attempt.now with
  | error error => exact iterate_alone_ended ..
  | ok purged =>
    obtain ⟨count, clients⟩ := purged
    dsimp only
    rw [Function.iterate_succ_apply, alone, advance]
    cases lookUp clients attempt.token with
    | error error => exact iterate_alone_ended ..
    | ok current =>
      dsimp only
      rw [Function.iterate_succ_apply, alone, advance]
      cases hrenew : renew identities settings current attempt.now attempt.fresh with
      | error error =>
        simp only [bind, Except.bind, hrenew]
        exact iterate_alone_ended ..
      | ok session =>
        dsimp only
        rw [Function.iterate_succ_apply, alone, advance]
        simp only [bind, Except.bind, hrenew]
        cases swap clients attempt.token session with
        | error error => rfl
        | ok clients => rfl

end

/-! ## What a call can do -/

/-- The ways in which the next call of an attempt takes it from one stage to another. -/
inductive Advanced {ι : Type} [IdentityStore ι] (identities : ι) (settings : Settings)
    (attempt : Attempt) (clients : Clients) (stage : Stage) : Stage → Clients → Prop
  | purge : stage = .begun →
      Advanced identities settings attempt clients stage .purged (clients.unexpired attempt.now)
  | find {current : RefreshClient} : stage = .purged →
      clients.find? attempt.token = some current →
      Advanced identities settings attempt clients stage (.found current) clients
  | miss : stage = .purged → clients.find? attempt.token = none →
      Advanced identities settings attempt clients stage
        (.ended (.error (.unauthorized .knownRefreshToken))) clients
  | renew {current : RefreshClient} {session : Session} : stage = .found current →
      Session.renew identities settings current attempt.now attempt.fresh = .ok session →
      Advanced identities settings attempt clients stage (.renewed session) clients
  | refuse {current : RefreshClient} {error : AccessError} : stage = .found current →
      Session.renew identities settings current attempt.now attempt.fresh = .error error →
      Advanced identities settings attempt clients stage (.ended (.error error)) clients
  | swap {session : Session} {clients' : Clients} : stage = .renewed session →
      Session.swap clients attempt.token session = .ok clients' →
      Advanced identities settings attempt clients stage (.ended (.ok session)) clients'
  | lose {session : Session} {error : AccessError} : stage = .renewed session →
      Session.swap clients attempt.token session = .error error →
      Advanced identities settings attempt clients stage (.ended (.error error)) clients
  | rest {answer : Except AccessError Session} : stage = .ended answer →
      Advanced identities settings attempt clients stage (.ended answer) clients

theorem advanced_advance {ι : Type} [IdentityStore ι] (identities : ι) (settings : Settings)
    (attempt : Attempt) (clients : Clients) (stage : Stage) :
    Advanced identities settings attempt clients stage
      (advance identities settings attempt clients stage).1
      (advance identities settings attempt clients stage).2 := by
  cases stage with
  | begun => exact .purge rfl
  | purged =>
    rw [advance]
    cases hfind : clients.find? attempt.token with
    | none =>
      rw [lookUp_of_none hfind]
      exact .miss rfl hfind
    | some current =>
      rw [lookUp_of_some hfind]
      exact .find rfl hfind
  | found current =>
    rw [advance]
    cases hrenew : renew identities settings current attempt.now attempt.fresh with
    | error error => exact .refuse rfl hrenew
    | ok session => exact .renew rfl hrenew
  | renewed session =>
    rw [advance]
    cases hswap : swap clients attempt.token session with
    | error error => exact .lose rfl hswap
    | ok clients => exact .swap rfl hswap
  | ended answer => exact .rest rfl

namespace Advanced

variable {ι : Type} [IdentityStore ι] {identities : ι} {settings : Settings} {attempt : Attempt}
  {clients clients' : Clients} {stage stage' : Stage} {session : Session}

/-- An attempt that has ended stays so. -/
theorem stage_of_ended {answer : Except AccessError Session}
    (h : Advanced identities settings attempt clients (.ended answer) stage' clients') :
    stage' = .ended answer := by
  cases h with
  | rest heq => exact heq.symm
  | purge heq | find heq _ | miss heq _ | renew heq _ | refuse heq _ | swap heq _ | lose heq _ =>
    cases heq

/-- The session that an attempt has ready bears the token that was generated for the attempt. -/
theorem refreshToken_of_renewed
    (h : Advanced identities settings attempt clients stage (.renewed session) clients') :
    session.client.refreshToken = attempt.fresh := by
  cases h with
  | renew _ hrenew =>
    obtain ⟨_, -, hissue⟩ := renew_eq_ok_iff.1 hrenew
    obtain ⟨_, _, -, -, rfl⟩ := issue_eq_ok_iff.1 hissue
    rfl

/-- A session is obtained by a swap. -/
theorem swap_of_ended
    (h : Advanced identities settings attempt clients stage (.ended (.ok session)) clients') :
    stage = .ended (.ok session) ∨
      stage = .renewed session ∧ Session.swap clients attempt.token session = .ok clients' := by
  cases h with
  | swap hstage hswap => exact .inr ⟨hstage, hswap⟩
  | rest hstage => exact .inl hstage

/-- An attempt that has a session ready obtains it, or finds its token gone and stores nothing. -/
theorem stage_of_renewed
    (h : Advanced identities settings attempt clients (.renewed session) stage' clients')
    (hnew : clients.find? session.client.refreshToken = none) :
    stage' = .ended (.ok session) ∨
      stage' = .ended (.error (.unauthorized .unusedRefreshToken)) ∧ clients' = clients := by
  cases h with
  | swap heq _ =>
    cases heq
    exact .inl rfl
  | lose heq hswap =>
    cases heq
    rw [swap_eq_error hnew hswap]
    exact .inr ⟨rfl, rfl⟩
  | purge heq | find heq _ | miss heq _ | renew heq _ | refuse heq _ | rest heq => cases heq

end Advanced

/-- A stage from which an attempt on the token of a client can still obtain a session. -/
def Pending (client : RefreshClient) : Stage → Prop
  | .begun | .purged | .renewed _ => True
  | .found current => current = client
  | .ended _ => False

/-- An attempt on a token that is stored and can be renewed does not fail. -/
theorem Advanced.pending {ι : Type} [IdentityStore ι] {identities : ι} {settings : Settings}
    {attempt : Attempt} {clients clients' : Clients} {stage stage' : Stage}
    {client : RefreshClient}
    (h : Advanced identities settings attempt clients stage stage' clients')
    (hpending : Pending client stage) (hfind : clients.find? attempt.token = some client)
    (hnew : ∀ session, stage = .renewed session →
      clients.find? session.client.refreshToken = none)
    (hrenew : ∃ session,
      Session.renew identities settings client attempt.now attempt.fresh = .ok session) :
    Pending client stage' ∨ ∃ session, stage' = .ended (.ok session) := by
  cases h with
  | purge _ => exact .inl trivial
  | find _ hfound =>
    rw [hfind] at hfound
    cases hfound
    exact .inl rfl
  | miss _ hgone =>
    rw [hfind] at hgone
    cases hgone
  | renew _ _ => exact .inl trivial
  | refuse hstage hrefused =>
    -- the client that was found is the one that is stored, and that one can be renewed
    rw [hstage] at hpending
    cases hpending
    obtain ⟨session, hsession⟩ := hrenew
    rw [hsession] at hrefused
    cases hrefused
  | @swap session _ _ _ => exact .inr ⟨session, rfl⟩
  | lose hstage hlost =>
    obtain ⟨clients, hswap⟩ := exists_swap_eq_ok (hnew _ hstage) hfind
    rw [hswap] at hlost
    cases hlost
  | rest hstage =>
    rw [hstage] at hpending
    cases hpending

/-! ## Any number of attempts -/

/-- The clients, and how far each attempt has come. -/
structure System (α : Type) where
  clients : Clients
  stage : α → Stage

/-- The next call of an attempt, with the identities as they stand then, or that of a sign-in. -/
inductive Move (α ι : Type) where
  | attempt (a : α) (identities : ι)
  | signIn (client : RefreshClient)

/-- The token that is generated for a sign-in. -/
def Move.signedIn {α ι : Type} : Move α ι → Option String
  | attempt _ _ => none
  | signIn client => some client.refreshToken

namespace System

variable {α ι : Type} [DecidableEq α] [IdentityStore ι]

/-- The system in which no attempt has made a call. -/
def start (clients : Clients) : System α := ⟨clients, fun _ => .begun⟩

/-- What is left to do and stored when an attempt comes to a stage. -/
def put (s : System α) (clients : Clients) (a : α) (stage : Stage) : System α :=
  ⟨clients, Function.update s.stage a stage⟩

/-- The system after a move. -/
def step (settings : Settings) (attempts : α → Attempt) (s : System α) : Move α ι → System α
  | .attempt a identities =>
    let (stage, clients) := advance identities settings (attempts a) s.clients (s.stage a)
    s.put clients a stage
  | .signIn client =>
    match ClientStore.insertClient s.clients client with
    | .error _ => s
    | .ok clients => { s with clients }

/-- The system after moves in a given order. -/
def run (settings : Settings) (attempts : α → Attempt) (clients : Clients)
    (moves : List (Move α ι)) : System α :=
  moves.foldl (step settings attempts) (start clients)

variable {settings : Settings} {attempts : α → Attempt} {s s' : System α} {clients : Clients}

theorem run_concat (moves : List (Move α ι)) (move : Move α ι) :
    run settings attempts clients (moves ++ [move]) =
      (run settings attempts clients moves).step settings attempts move := by
  unfold run
  rw [List.foldl_append, List.foldl_cons, List.foldl_nil]

@[simp]
theorem stage_put_self (s : System α) (clients : Clients) (a : α) (stage : Stage) :
    (s.put clients a stage).stage a = stage := Function.update_self ..

theorem stage_put_of_ne (s : System α) (clients : Clients) {a b : α} (h : b ≠ a) (stage : Stage) :
    (s.put clients a stage).stage b = s.stage b := Function.update_of_ne h ..

/-! ## What a move can do -/

/-- The ways in which a move takes a system to the next one; a sign-in can be refused. -/
inductive Moved (settings : Settings) (attempts : α → Attempt) (s : System α) :
    Move α ι → System α → Prop
  | attempt {a : α} {identities : ι} {stage : Stage} {clients : Clients} :
      Advanced identities settings (attempts a) s.clients (s.stage a) stage clients →
      Moved settings attempts s (.attempt a identities) (s.put clients a stage)
  | signIn {client : RefreshClient} {clients : Clients} : s.clients.insert client = .ok clients →
      Moved settings attempts s (.signIn client) { s with clients }
  | refused (client : RefreshClient) : Moved settings attempts s (.signIn client) s

theorem moved_step (settings : Settings) (attempts : α → Attempt) (s : System α)
    (move : Move α ι) : Moved settings attempts s move (s.step settings attempts move) := by
  cases move with
  | attempt a identities => exact .attempt (advanced_advance ..)
  | signIn client =>
    rw [step]
    cases hinsert : s.clients.insert client with
    | error error =>
      simp only [ClientStore.insertClient, hinsert]
      exact .refused client
    | ok clients =>
      simp only [ClientStore.insertClient, hinsert]
      exact .signIn hinsert

/-- A move leaves the stage of an attempt or makes the next call of the attempt. -/
theorem Moved.stage_or_advanced {move : Move α ι} (h : Moved settings attempts s move s') (a : α) :
    s'.stage a = s.stage a ∨ ∃ identities, move = .attempt a identities ∧
      Advanced identities settings (attempts a) s.clients (s.stage a) (s'.stage a) s'.clients := by
  cases h with
  | refused _ => exact .inl rfl
  | signIn _ => exact .inl rfl
  | @attempt b identities _ _ hadvanced =>
    by_cases hab : a = b
    · subst hab
      rw [stage_put_self]
      exact .inr ⟨identities, rfl, hadvanced⟩
    · exact .inl (stage_put_of_ne _ _ hab _)

/-- The last of the moves of a run. -/
theorem moved_run_concat (settings : Settings) (attempts : α → Attempt) (clients : Clients)
    (moves : List (Move α ι)) (move : Move α ι) :
    Moved settings attempts (run settings attempts clients moves) move
      (run settings attempts clients (moves ++ [move])) := by
  rw [run_concat]
  exact moved_step ..

end System

end AccessControl.Session
