/-
**Sessions of an account.**

An account has one session: the hash of its last refresh token is kept in its row, and a refresh
exchanges the token for the next one.  Every call reads the row, checks what it has read, and writes
later, without looking again.  This module embeds the calls for one account as a machine whose steps
are the reads and the writes, and notes which session a token descends from, and which sessions were
open when a call began that has revoked them since.

Main results:

* `authSessions` — **when a revoked session stays revoked**.
-/

import Mathlib.Data.Nat.Pairing
import Zomaal.MachineRun
import Zomaal.Store

set_option autoImplicit false

namespace Zomaal

/-! ### Tokens -/

/-- The claims of a refresh token, beside the account; `jti` is its random id. -/
structure RefreshToken where
  jti : ℕ
  rememberMe : Bool
  exp : ℕ
  deriving DecidableEq

/-- The claims of a password reset token, beside the account. -/
structure ResetToken where
  pwv : String
  iat : ℕ
  exp : ℕ
  deriving DecidableEq

inductive Jwt
  | access
  | refresh (token : RefreshToken)
  | passwordReset (token : ResetToken)

/-- The hash of a refresh token, the hash of a password with a salt, `bcrypt.compare`, and
`passwordFingerprint`. -/
structure AuthEnv where
  hashRefreshToken : RefreshToken → ℕ
  bcrypt : String → ℕ → String
  compare : String → String → Bool
  passwordFingerprint : Option String → String

/-- A fingerprint of no password, or of one with an earlier salt. -/
def AuthEnv.Earlier (env : AuthEnv) (salt : ℕ) (pwv : String) : Prop :=
  pwv = env.passwordFingerprint none ∨
    ∃ password earlier, earlier < salt ∧
      pwv = env.passwordFingerprint (some (env.bcrypt password earlier))

/-- **What is documented**: the hash of tokens is injective, and the hash of a password with a new
salt has a fingerprint of its own. -/
structure AuthEnv.Documented (env : AuthEnv) : Prop where
  injective : Function.Injective env.hashRefreshToken
  salted : ∀ password salt,
    ¬ env.Earlier salt (env.passwordFingerprint (some (env.bcrypt password salt)))

theorem AuthEnv.Earlier.mono {env : AuthEnv} {salt salt' : ℕ} {pwv : String}
    (h : env.Earlier salt pwv) (hle : salt ≤ salt') : env.Earlier salt' pwv := by
  rcases h with hnone | ⟨password, earlier, hlt, hpwv⟩
  · exact Or.inl hnone
  · exact Or.inr ⟨password, earlier, hlt.trans_le hle, hpwv⟩

/-! ### Calls -/

inductive AuthError
  | invalidOtp
  | invalidCredentials
  | deactivated
  | accessDenied
  | resetInvalid
  | userNotFound
  | currentRequired
  | currentIncorrect
  | sameAsCurrent
  | other (message : String)
  deriving DecidableEq

def AuthError.message : AuthError → String
  | .invalidOtp => "Invalid or expired OTP"
  | .invalidCredentials => "Invalid phone number or password"
  | .deactivated => "This staff account has been deactivated"
  | .accessDenied => "Access Denied"
  | .resetInvalid => "Reset link is invalid or has expired"
  | .userNotFound => "User not found"
  | .currentRequired => "Current password is required"
  | .currentIncorrect => "Current password is incorrect"
  | .sameAsCurrent => "New password must be different from the current password"
  | .other message => message

/-- What is asked for; of a one-time password it is said whether it is valid. -/
inductive AuthRequest
  | login (password : String) (rememberMe : Bool)
  | verifyOtp (valid : Bool)
  | refreshTokens (jwt : Jwt)
  | logout
  | verifyPasswordReset (valid : Bool)
  | resetPassword (jwt : Jwt) (newPassword : String)
  | changePassword (currentPassword : Option String) (newPassword : String) (rememberMe : Bool)
  | deleteAccount

inductive AuthOperation
  | login (password : String) (rememberMe : Bool)
  | verifyOtp
  | refresh (token : RefreshToken)
  | logout
  | verifyReset
  | reset (token : ResetToken) (newPassword : String)
  | change (currentPassword : Option String) (newPassword : String) (rememberMe : Bool)
  | delete (now : ℕ)
  deriving DecidableEq

/-- How far a call got; `before` is the number of sessions that were opened before it began. -/
inductive AuthPhase
  | waiting
  | begun (operation : AuthOperation) (before : ℕ)
  | creating
  | checked (operation : AuthOperation) (before : ℕ)
  | changed (rememberMe : Bool) (before : ℕ)
  | done
  | threw (error : AuthError)

structure AuthUser where
  passwordHash : Option String := none
  hashedRefreshToken : Option ℕ := none
  isPhoneVerified : Bool := false
  staffActive : Option Bool := none
  deletionScheduledFor : Option ℕ := none

/-- The account, the clock in seconds, the next ids and salts, the tokens and calls; and what is
noted: the session of a token, the sessions opened and those revoked for good, and the tokens used.
-/
structure AuthDb where
  user : Option AuthUser := none
  clock : ℕ := 0
  nextJti : ℕ := 0
  nextSalt : ℕ := 0
  issued : List RefreshToken := []
  resetTokens : List ResetToken := []
  sessionOf : ℕ → ℕ := fun _ => 0
  opened : ℕ := 0
  revoked : ℕ := 0
  exchanged : List RefreshToken := []
  used : List ResetToken := []
  phases : ℕ → AuthPhase := fun _ => .waiting

inductive AuthAction
  | tick (elapsed : ℕ)
  | begin (call : ℕ) (request : AuthRequest)
  | advance (call : ℕ)
  | fail (call : ℕ) (message : String)

def accountDeletionGraceDays : ℕ := 30

def passwordResetTtlSeconds : ℕ := 10 * 60

def refreshTtl (rememberMe : Bool) : ℕ := (if rememberMe then 30 else 7) * 24 * 60 * 60

namespace AuthDb

variable (env : AuthEnv) (s : AuthDb)

variable (call : ℕ)

def setPhase (phase : AuthPhase) : AuthDb :=
  { s with phases := Function.update s.phases call phase }

def nextToken (rememberMe : Bool) : RefreshToken where
  jti := s.nextJti
  rememberMe := rememberMe
  exp := s.clock + refreshTtl rememberMe

variable (user : AuthUser)

/-- `issue`: a token of a session is signed, and its hash is written. -/
def issue (rememberMe : Bool) (session : ℕ) : AuthDb :=
  { s with
    user := some
      { user with hashedRefreshToken := some (env.hashRefreshToken (s.nextToken rememberMe)) }
    nextJti := s.nextJti + 1
    issued := s.nextToken rememberMe :: s.issued
    sessionOf := Function.update s.sessionOf s.nextJti session }

def openSession (rememberMe : Bool) : AuthDb :=
  { s.issue env user rememberMe s.opened with opened := s.opened + 1 }

def exchange (token : RefreshToken) : AuthDb :=
  { s.issue env user token.rememberMe (s.sessionOf token.jti) with
    exchanged := token :: s.exchanged }

def revoke (before : ℕ) : AuthDb := { s with revoked := max s.revoked before }

def signOut : AuthDb :=
  { s with user := s.user.map fun user => { user with hashedRefreshToken := none } }

def update (write : AuthUser → AuthDb) : AuthDb :=
  match s.user with
  | none => s.setPhase call (.threw (.other "Record to update not found"))
  | some user => write user

def accept : AuthRequest → Except AuthError AuthOperation
  | .login password rememberMe => .ok (.login password rememberMe)
  | .verifyOtp valid => if valid then .ok .verifyOtp else .error .invalidOtp
  | .refreshTokens (.refresh token) =>
    if token ∈ s.issued ∧ s.clock < token.exp then .ok (.refresh token) else .error .accessDenied
  | .refreshTokens _ => .error .accessDenied
  | .logout => .ok .logout
  | .verifyPasswordReset valid => if valid then .ok .verifyReset else .error .invalidOtp
  | .resetPassword (.passwordReset token) newPassword =>
    if token ∈ s.resetTokens ∧ s.clock < token.exp ∧ token.pwv ≠ "" then
      .ok (.reset token newPassword)
    else .error .resetInvalid
  | .resetPassword _ _ => .error .resetInvalid
  | .changePassword currentPassword newPassword rememberMe =>
    .ok (.change currentPassword newPassword rememberMe)
  | .deleteAccount => .ok (.delete s.clock)

def checkChange (currentPassword : Option String) (newPassword : String) : Except AuthError Unit :=
  match user.passwordHash with
  | none => .ok ()
  | some hash =>
    match currentPassword with
    | none => .error .currentRequired
    | some current =>
      if current = "" then .error .currentRequired
      else if !env.compare current hash then .error .currentIncorrect
      else if env.compare newPassword hash then .error .sameAsCurrent
      else .ok ()

def checkLogin (password : String) : Except AuthError Unit :=
  match user.passwordHash with
  | none => .error .invalidCredentials
  | some hash =>
    if !env.compare password hash then .error .invalidCredentials
    else if user.staffActive = some false then .error .deactivated
    else .ok ()

def check : AuthOperation → Except AuthError Unit
  | .login password _ => checkLogin env user password
  | .verifyOtp => .ok ()
  | .refresh token =>
    if user.hashedRefreshToken = some (env.hashRefreshToken token) then .ok ()
    else .error .accessDenied
  | .logout => .ok ()
  | .verifyReset => .ok ()
  | .reset token _ =>
    if env.passwordFingerprint user.passwordHash = token.pwv then .ok () else .error .resetInvalid
  | .change currentPassword newPassword _ => checkChange env user currentPassword newPassword
  | .delete _ => .ok ()

def absent : AuthOperation → AuthError
  | .login _ _ => .invalidCredentials
  | .verifyOtp => .invalidOtp
  | .refresh _ => .accessDenied
  | .logout => .userNotFound
  | .verifyReset => .invalidOtp
  | .reset _ _ => .resetInvalid
  | .change _ _ _ => .userNotFound
  | .delete _ => .userNotFound

def signReset : AuthDb :=
  { s with
    resetTokens :=
      ⟨env.passwordFingerprint user.passwordHash, s.clock, s.clock + passwordResetTtlSeconds⟩ ::
        s.resetTokens }

def read (operation : AuthOperation) (before : ℕ) : AuthDb :=
  match operation with
  | .logout => (s.signOut.revoke before).setPhase call .done
  | operation =>
    match s.user with
    | none =>
      if operation = .verifyOtp then s.setPhase call .creating
      else s.setPhase call (.threw (absent operation))
    | some user =>
      match check env user operation with
      | .error error => s.setPhase call (.threw error)
      | .ok () =>
        match operation with
        | .verifyReset => (s.signReset env user).setPhase call .done
        | .delete _ =>
          if user.deletionScheduledFor.isSome then s.setPhase call .done
          else s.setPhase call (.checked operation before)
        | operation => s.setPhase call (.checked operation before)

def setPassword (newPassword : String) (isPhoneVerified : Bool) : AuthDb :=
  { s with
    user := some
      { user with
        passwordHash := some (env.bcrypt newPassword s.nextSalt)
        hashedRefreshToken := none
        isPhoneVerified := isPhoneVerified }
    nextSalt := s.nextSalt + 1 }

def resetWith (token : ResetToken) (newPassword : String) (before : ℕ) : AuthDb :=
  { (s.setPassword env user newPassword true).revoke before with used := token :: s.used }

def scheduleDeletion (now : ℕ) : AuthDb :=
  { s with
    user := some
      { user with
        hashedRefreshToken := none
        deletionScheduledFor := some (now + accountDeletionGraceDays * 24 * 60 * 60) } }

def write (operation : AuthOperation) (before : ℕ) : AuthDb :=
  s.update call fun user =>
    match operation with
    | .login _ rememberMe => (s.openSession env user rememberMe).setPhase call .done
    | .verifyOtp => (s.openSession env user false).setPhase call .done
    | .refresh token => (s.exchange env user token).setPhase call .done
    | .reset token newPassword =>
      (s.resetWith env user token newPassword before).setPhase call .done
    | .change _ newPassword rememberMe =>
      (s.setPassword env user newPassword user.isPhoneVerified).setPhase call
        (.changed rememberMe before)
    | .delete now => (s.scheduleDeletion user now).setPhase call .done
    | .logout => s
    | .verifyReset => s

def advance : AuthDb :=
  match s.phases call with
  | .begun operation before => s.read env call operation before
  | .creating =>
    match s.user with
    | some _ =>
      s.setPhase call (.threw (.other "Unique constraint failed on the fields: (phone)"))
    | none =>
      { s with user := some { isPhoneVerified := true } }.setPhase call
        (.checked .verifyOtp s.opened)
  | .checked operation before => s.write env call operation before
  | .changed rememberMe before =>
    s.update call fun user =>
      ((s.openSession env user rememberMe).revoke before).setPhase call .done
  | _ => s

def step : AuthAction → AuthDb
  | .tick elapsed => { s with clock := s.clock + elapsed }
  | .begin call request =>
    match s.phases call with
    | .waiting =>
      match s.accept request with
      | .error error => s.setPhase call (.threw error)
      | .ok operation => s.setPhase call (.begun operation s.opened)
    | _ => s
  | .advance call => s.advance env call
  | .fail call message =>
    match s.phases call with
    | .done => s
    | _ => s.setPhase call (.threw (.other message))

/-! ### What is promised -/

/-- **In a step, no revoked session goes on, and no token works twice.** -/
structure SessionsHold (action : AuthAction) : Prop where
  /-- A token that is accepted is not of a revoked session. -/
  accepted : ∀ call token before, action = .advance call →
    s.phases call = .begun (.refresh token) before →
      (s.step env action).phases call = .checked (.refresh token) before →
        s.revoked ≤ s.sessionOf token.jti
  /-- A token that is issued is not of a revoked session. -/
  issued : ∀ token ∈ (s.step env action).issued, token ∉ s.issued →
    (s.step env action).revoked ≤ (s.step env action).sessionOf token.jti
  /-- A refresh token is exchanged once. -/
  exchanged : (s.step env action).exchanged.Nodup
  /-- A reset token changes the password once. -/
  used : (s.step env action).used.Nodup

/-- **What a call has checked still holds when it writes**: a refresh finds the hash of its token in
the row, and a reset the password that its token was issued against. -/
def Unraced : AuthAction → Prop
  | .advance call =>
    match s.phases call with
    | .checked (.refresh token) _ =>
      ∀ user, s.user = some user →
        user.hashedRefreshToken = some (env.hashRefreshToken token)
    | .checked (.reset token _) _ =>
      ∀ user, s.user = some user → env.passwordFingerprint user.passwordHash = token.pwv
    | _ => True
  | _ => True

structure Start : Prop where
  user : ∀ user, s.user = some user → user.hashedRefreshToken = none ∧
    env.Earlier s.nextSalt (env.passwordFingerprint user.passwordHash)
  issued : s.issued = []
  opened : s.opened = 0
  revoked : s.revoked = 0
  exchanged : s.exchanged = []
  used : s.used = []
  phases : ∀ call, s.phases call = .waiting

end AuthDb

/-! ### The invariant -/

def AuthPhase.before : AuthPhase → ℕ
  | .begun _ before => before
  | .checked _ before => before
  | .changed _ before => before
  | _ => 0

namespace AuthDb

/-- A token works: it is not exchanged, and its session is not revoked, nor about to be. -/
structure Works (s : AuthDb) (token : RefreshToken) : Prop where
  issued : token ∈ s.issued
  exchanged : token ∉ s.exchanged
  revoked : s.revoked ≤ s.sessionOf token.jti
  changed : ∀ call rememberMe before, s.phases call = .changed rememberMe before →
    before ≤ s.sessionOf token.jti

structure Spent (env : AuthEnv) (s : AuthDb) (token : ResetToken) : Prop where
  earlier : env.Earlier s.nextSalt token.pwv
  changed : ∃ user, s.user = some user ∧ env.passwordFingerprint user.passwordHash ≠ token.pwv

structure Inv (env : AuthEnv) (s : AuthDb) : Prop where
  jtis : ∀ token ∈ s.issued, token.jti < s.nextJti
  exchangedIssued : ∀ token ∈ s.exchanged, token ∈ s.issued
  exchanged : s.exchanged.Nodup
  revoked : s.revoked ≤ s.opened
  before : ∀ call, (s.phases call).before ≤ s.opened
  stored : ∀ user token, s.user = some user →
    user.hashedRefreshToken = some (env.hashRefreshToken token) → s.Works token
  used : s.used.Nodup
  spent : ∀ token ∈ s.used, s.Spent env token
  current : ∀ user, s.user = some user →
    env.Earlier s.nextSalt (env.passwordFingerprint user.passwordHash)

variable {env : AuthEnv} {s : AuthDb}

theorem Start.inv (h : s.Start env) : s.Inv env := by
  refine ⟨?_, ?_, ?_, ?_, ?_, ?_, ?_, ?_, fun user huser => (h.user user huser).2⟩
  · rw [h.issued]
    intro token hmem
    cases hmem
  · rw [h.exchanged]
    intro token hmem
    cases hmem
  · rw [h.exchanged]
    exact List.nodup_nil
  · rw [h.revoked]
    exact Nat.zero_le _
  · intro call
    rw [h.phases call]
    exact Nat.zero_le _
  · intro user token huser hhash
    cases (h.user user huser).1.symm.trans hhash
  · rw [h.used]
    exact List.nodup_nil
  · rw [h.used]
    intro token hmem
    cases hmem

variable {call : ℕ}

theorem Inv.setPhase (h : s.Inv env) {phase : AuthPhase} (hbefore : phase.before ≤ s.opened)
    (hchanged : ∀ rememberMe before, phase = .changed rememberMe before →
      ∀ user, s.user = some user → user.hashedRefreshToken = none) :
    (s.setPhase call phase).Inv env := by
  refine ⟨h.jtis, h.exchangedIssued, h.exchanged, h.revoked, ?_, ?_, h.used, ?_, h.current⟩
  · intro other
    change (Function.update s.phases call phase other).before ≤ s.opened
    rcases eq_or_ne other call with rfl | hne
    · rwa [Function.update_self]
    · rw [Function.update_of_ne hne]
      exact h.before other
  · intro user token huser hhash
    have hworks := h.stored user token huser hhash
    refine ⟨hworks.issued, hworks.exchanged, hworks.revoked, ?_⟩
    intro other rememberMe before hother
    change Function.update s.phases call phase other = _ at hother
    rcases eq_or_ne other call with rfl | hne
    · rw [Function.update_self] at hother
      cases (hchanged rememberMe before hother user huser).symm.trans hhash
    · rw [Function.update_of_ne hne] at hother
      exact hworks.changed other rememberMe before hother
  · intro token hmem
    exact ⟨(h.spent token hmem).earlier, (h.spent token hmem).changed⟩

theorem Inv.goOn (h : s.Inv env) {phase : AuthPhase} (hbefore : phase.before ≤ s.opened)
    (hchanged : ∀ rememberMe before, phase ≠ .changed rememberMe before) :
    (s.setPhase call phase).Inv env :=
  h.setPhase hbefore fun rememberMe before hphase => absurd hphase (hchanged rememberMe before)

theorem Inv.finish (h : s.Inv env) : (s.setPhase call .done).Inv env :=
  h.goOn (Nat.zero_le _) fun _ _ hphase => nomatch hphase

theorem Inv.throw (h : s.Inv env) {error : AuthError} : (s.setPhase call (.threw error)).Inv env :=
  h.goOn (Nat.zero_le _) fun _ _ hphase => nomatch hphase

variable {user : AuthUser} {rememberMe : Bool}

theorem Inv.issue (h : s.Inv env) (henv : env.Documented) (huser : s.user = some user) {session : ℕ}
    (hrevoked : s.revoked ≤ session)
    (hchanged : ∀ call rememberMe before, s.phases call = .changed rememberMe before →
      before ≤ session) : (s.issue env user rememberMe session).Inv env := by
  have hfresh : ∀ token ∈ s.issued, token.jti ≠ s.nextJti := fun token hmem =>
    (h.jtis token hmem).ne
  refine ⟨?_, ?_, h.exchanged, h.revoked, h.before, ?_, h.used, ?_, ?_⟩
  · intro token hmem
    rcases List.mem_cons.1 hmem with rfl | hold
    · exact Nat.lt_succ_self _
    · exact (h.jtis token hold).trans (Nat.lt_succ_self _)
  · intro token hmem
    exact List.mem_cons_of_mem _ (h.exchangedIssued token hmem)
  · rintro own token ⟨⟩ hhash
    obtain rfl := henv.injective (Option.some.inj hhash)
    have hsession : (s.issue env user rememberMe session).sessionOf
        (s.nextToken rememberMe).jti = session := Function.update_self _ _ _
    refine ⟨List.mem_cons_self, fun hmem => ?_, ?_, fun call rm before hphase => ?_⟩
    · exact hfresh _ (h.exchangedIssued _ hmem) rfl
    · rwa [hsession]
    · rw [hsession]
      exact hchanged call rm before hphase
  · intro token hmem
    obtain ⟨own, hown, hne⟩ := (h.spent token hmem).changed
    obtain rfl := Option.some.inj (huser.symm.trans hown)
    exact ⟨(h.spent token hmem).earlier, _, rfl, hne⟩
  · rintro own ⟨⟩
    exact h.current user huser

theorem Inv.openSession (h : s.Inv env) (henv : env.Documented) (huser : s.user = some user) :
    (s.openSession env user rememberMe).Inv env := by
  have hissue : (s.issue env user rememberMe s.opened).Inv env := by
    refine h.issue henv huser h.revoked fun call rm before hphase => ?_
    have hbefore := h.before call
    rwa [hphase] at hbefore
  refine ⟨hissue.jtis, hissue.exchangedIssued, hissue.exchanged,
    h.revoked.trans (Nat.le_succ _), fun call => (h.before call).trans (Nat.le_succ _), ?_,
    hissue.used, ?_, hissue.current⟩
  · intro own token hown hhash
    have hworks := hissue.stored own token hown hhash
    exact ⟨hworks.issued, hworks.exchanged, hworks.revoked, hworks.changed⟩
  · intro token hmem
    exact ⟨(hissue.spent token hmem).earlier, (hissue.spent token hmem).changed⟩

variable {token : RefreshToken}

theorem Inv.exchange (h : s.Inv env) (henv : env.Documented) (huser : s.user = some user)
    (hworks : s.Works token) : (s.exchange env user token).Inv env := by
  have hissue : (s.issue env user token.rememberMe (s.sessionOf token.jti)).Inv env :=
    h.issue henv huser hworks.revoked hworks.changed
  refine ⟨hissue.jtis, ?_, List.nodup_cons.2 ⟨hworks.exchanged, h.exchanged⟩, hissue.revoked,
    hissue.before, ?_, hissue.used, ?_, hissue.current⟩
  · intro other hmem
    rcases List.mem_cons.1 hmem with rfl | hold
    · exact List.mem_cons_of_mem _ hworks.issued
    · exact hissue.exchangedIssued other hold
  · intro own other hown hhash
    have hother := hissue.stored own other hown hhash
    refine ⟨hother.issued, fun hmem => ?_, hother.revoked, hother.changed⟩
    rcases List.mem_cons.1 hmem with rfl | hold
    · -- the token that is stored is new, and the one that is exchanged is not
      obtain ⟨⟩ := hown
      have hnew := henv.injective (Option.some.inj hhash)
      have hjti := h.jtis other hworks.issued
      rw [← hnew] at hjti
      exact absurd hjti (lt_irrefl _)
    · exact hother.exchanged hold
  · intro reset hmem
    exact ⟨(hissue.spent reset hmem).earlier, (hissue.spent reset hmem).changed⟩

variable {before : ℕ}

theorem Inv.revoke (h : s.Inv env) (hbefore : before ≤ s.opened)
    (hstored : ∀ user token, s.user = some user →
      user.hashedRefreshToken = some (env.hashRefreshToken token) →
        before ≤ s.sessionOf token.jti) : (s.revoke before).Inv env := by
  refine ⟨h.jtis, h.exchangedIssued, h.exchanged, max_le h.revoked hbefore, h.before, ?_, h.used,
    ?_, h.current⟩
  · intro user token huser hhash
    have hworks := h.stored user token huser hhash
    exact ⟨hworks.issued, hworks.exchanged,
      max_le hworks.revoked (hstored user token huser hhash), hworks.changed⟩
  · intro token hmem
    exact ⟨(h.spent token hmem).earlier, (h.spent token hmem).changed⟩

theorem Inv.clear (h : s.Inv env) {user' : AuthUser} (huser : s.user = some user)
    (hnone : user'.hashedRefreshToken = none) (hsame : user'.passwordHash = user.passwordHash) :
    ({ s with user := some user' } : AuthDb).Inv env := by
  refine ⟨h.jtis, h.exchangedIssued, h.exchanged, h.revoked, h.before, ?_, h.used, ?_, ?_⟩
  · rintro own token ⟨⟩ hhash
    cases hnone.symm.trans hhash
  · intro token hmem
    obtain ⟨own, hown, hne⟩ := (h.spent token hmem).changed
    obtain rfl := Option.some.inj (huser.symm.trans hown)
    exact ⟨(h.spent token hmem).earlier, user', rfl, by rwa [hsame]⟩
  · rintro own ⟨⟩
    rw [hsame]
    exact h.current user huser

theorem Inv.setPassword (h : s.Inv env) (henv : env.Documented) {newPassword : String}
    {isPhoneVerified : Bool} : (s.setPassword env user newPassword isPhoneVerified).Inv env := by
  have hnew : env.Earlier (s.nextSalt + 1)
      (env.passwordFingerprint (some (env.bcrypt newPassword s.nextSalt))) :=
    Or.inr ⟨newPassword, s.nextSalt, Nat.lt_succ_self _, rfl⟩
  refine ⟨h.jtis, h.exchangedIssued, h.exchanged, h.revoked, h.before, ?_, h.used, ?_, ?_⟩
  · rintro own token ⟨⟩ hhash
    cases hhash
  · intro token hmem
    have hearlier := (h.spent token hmem).earlier
    refine ⟨hearlier.mono (Nat.le_succ _), _, rfl, fun hsame => ?_⟩
    exact henv.salted newPassword s.nextSalt (hsame ▸ hearlier)
  · rintro own ⟨⟩
    exact hnew

theorem Inv.resetWith (h : s.Inv env) (henv : env.Documented) (huser : s.user = some user)
    {token : ResetToken} {newPassword : String} (hbefore : before ≤ s.opened)
    (hcurrent : env.passwordFingerprint user.passwordHash = token.pwv) :
    (s.resetWith env user token newPassword before).Inv env := by
  have hset : (s.setPassword env user newPassword true).Inv env := h.setPassword henv
  have hrevoke : ((s.setPassword env user newPassword true).revoke before).Inv env := by
    refine hset.revoke hbefore ?_
    rintro own other ⟨⟩ hhash
    cases hhash
  have hearlier : env.Earlier s.nextSalt token.pwv := hcurrent ▸ h.current user huser
  refine ⟨hrevoke.jtis, hrevoke.exchangedIssued, hrevoke.exchanged, hrevoke.revoked,
    hrevoke.before, ?_, ?_, ?_, hrevoke.current⟩
  · intro own other hown hhash
    have hworks := hrevoke.stored own other hown hhash
    exact ⟨hworks.issued, hworks.exchanged, hworks.revoked, hworks.changed⟩
  · refine List.nodup_cons.2 ⟨fun hmem => ?_, h.used⟩
    obtain ⟨own, hown, hne⟩ := (h.spent token hmem).changed
    obtain rfl := Option.some.inj (huser.symm.trans hown)
    exact hne hcurrent
  · intro other hmem
    rcases List.mem_cons.1 hmem with rfl | hold
    · refine ⟨hearlier.mono (Nat.le_succ _), _, rfl, fun hsame => ?_⟩
      exact henv.salted newPassword s.nextSalt (hsame ▸ hearlier)
    · exact ⟨(hrevoke.spent other hold).earlier, (hrevoke.spent other hold).changed⟩

theorem Inv.create (h : s.Inv env) (hnone : s.user = none) :
    ({ s with user := some { isPhoneVerified := true } } : AuthDb).Inv env := by
  refine ⟨h.jtis, h.exchangedIssued, h.exchanged, h.revoked, h.before, ?_, h.used, ?_, ?_⟩
  · rintro own token ⟨⟩ hhash
    cases hhash
  · intro token hmem
    obtain ⟨own, hown, -⟩ := (h.spent token hmem).changed
    cases hnone.symm.trans hown
  · rintro own ⟨⟩
    exact Or.inl rfl

/-! ### Steps -/

theorem Inv.signOut (h : s.Inv env) (hbefore : before ≤ s.opened) :
    (s.signOut.revoke before).Inv env := by
  have hclear : s.signOut.Inv env := by
    cases huser : s.user with
    | none =>
      have hsame : s.signOut = s := by
        rw [AuthDb.signOut, huser]
        cases s
        cases huser
        rfl
      rwa [hsame]
    | some user =>
      have hsame : s.signOut =
          { s with user := some { user with hashedRefreshToken := none } } := by
        rw [AuthDb.signOut, huser]
        rfl
      rw [hsame]
      exact h.clear huser rfl rfl
  refine hclear.revoke hbefore fun user token huser hhash => ?_
  obtain ⟨own, -, rfl⟩ := Option.map_eq_some_iff.1 huser
  cases hhash

theorem Inv.signReset (h : s.Inv env) : (s.signReset env user).Inv env := by
  refine ⟨h.jtis, h.exchangedIssued, h.exchanged, h.revoked, h.before, ?_, h.used, ?_, h.current⟩
  · intro own token hown hhash
    have hworks := h.stored own token hown hhash
    exact ⟨hworks.issued, hworks.exchanged, hworks.revoked, hworks.changed⟩
  · intro token hmem
    exact ⟨(h.spent token hmem).earlier, (h.spent token hmem).changed⟩

theorem Inv.read (h : s.Inv env) {operation : AuthOperation} (hbefore : before ≤ s.opened) :
    (s.read env call operation before).Inv env := by
  unfold AuthDb.read
  split
  · exact (h.signOut hbefore).finish
  · split
    · split
      · exact h.goOn (Nat.zero_le _) fun _ _ hphase => nomatch hphase
      · exact h.throw
    · rename_i user huser
      split
      · exact h.throw
      · split
        · exact h.signReset.finish
        · split
          · exact h.finish
          · exact h.goOn hbefore fun _ _ hphase => nomatch hphase
        · exact h.goOn hbefore fun _ _ hphase => nomatch hphase

theorem Inv.write (h : s.Inv env) (henv : env.Documented) {operation : AuthOperation}
    (hphase : s.phases call = .checked operation before)
    (hunraced : s.Unraced env (.advance call)) : (s.write env call operation before).Inv env := by
  have hbefore : before ≤ s.opened := by
    have hold := h.before call
    rwa [hphase] at hold
  unfold AuthDb.write update
  cases huser : s.user with
  | none => exact h.throw
  | some user =>
    dsimp only
    simp only [Unraced, hphase] at hunraced
    cases operation with
    | login password rememberMe => exact (h.openSession henv huser).finish
    | verifyOtp => exact (h.openSession henv huser).finish
    | refresh token =>
      exact (h.exchange henv huser (h.stored user token huser (hunraced user huser))).finish
    | reset token newPassword =>
      exact (h.resetWith henv huser hbefore (hunraced user huser)).finish
    | change currentPassword newPassword rememberMe =>
      refine (h.setPassword henv).setPhase hbefore ?_
      rintro _ _ _ own ⟨⟩
      rfl
    | delete now =>
      have hclear : (s.scheduleDeletion user now).Inv env := h.clear huser rfl rfl
      exact hclear.finish
    | logout => exact h
    | verifyReset => exact h

theorem Inv.reopen (h : s.Inv env) (henv : env.Documented)
    (hphase : s.phases call = .changed rememberMe before) (huser : s.user = some user) :
    ((s.openSession env user rememberMe).revoke before).Inv env := by
  have hbefore : before ≤ s.opened := by
    have hold := h.before call
    rwa [hphase] at hold
  refine (h.openSession henv huser).revoke (hbefore.trans (Nat.le_succ _)) ?_
  intro own token hown hhash
  exact ((h.openSession henv huser).stored own token hown hhash).changed call rememberMe before
    hphase

variable {action : AuthAction}

theorem Inv.step (h : s.Inv env) (henv : env.Documented) (hunraced : s.Unraced env action) :
    (s.step env action).Inv env := by
  cases action with
  | tick elapsed =>
    refine ⟨h.jtis, h.exchangedIssued, h.exchanged, h.revoked, h.before, ?_, h.used, ?_,
      h.current⟩
    · intro user token huser hhash
      have hworks := h.stored user token huser hhash
      exact ⟨hworks.issued, hworks.exchanged, hworks.revoked, hworks.changed⟩
    · intro token hmem
      exact ⟨(h.spent token hmem).earlier, (h.spent token hmem).changed⟩
  | begin call request =>
    unfold AuthDb.step
    dsimp only
    split
    · split
      · exact h.throw
      · exact h.goOn le_rfl fun _ _ hphase => nomatch hphase
    · exact h
  | advance call =>
    cases hphase : s.phases call with
    | begun operation before =>
      simp only [AuthDb.step, advance, hphase]
      have hbefore := h.before call
      rw [hphase] at hbefore
      exact h.read hbefore
    | creating =>
      simp only [AuthDb.step, advance, hphase]
      split
      · exact h.throw
      · rename_i hnone
        exact (h.create hnone).goOn le_rfl fun _ _ hgo => nomatch hgo
    | checked operation before =>
      simp only [AuthDb.step, advance, hphase]
      exact h.write henv hphase hunraced
    | changed rememberMe before =>
      simp only [AuthDb.step, advance, hphase, update]
      split
      · exact h.throw
      · rename_i user huser
        exact (h.reopen henv hphase huser).finish
    | waiting | done | threw => simpa only [AuthDb.step, advance, hphase] using h
  | fail call message =>
    unfold AuthDb.step
    dsimp only
    split
    · exact h
    · exact h.throw

/-! ### What a step issues and accepts -/

theorem stored_of_issued (hmem : token ∈ (s.step env action).issued) (hnew : token ∉ s.issued) :
    ∃ user, (s.step env action).user = some user ∧
      user.hashedRefreshToken = some (env.hashRefreshToken token) := by
  have hissue : ∀ (user : AuthUser) (rememberMe : Bool) (session : ℕ),
      token ∈ (s.issue env user rememberMe session).issued → ∃ own,
        (s.issue env user rememberMe session).user = some own ∧
          own.hashedRefreshToken = some (env.hashRefreshToken token) := by
    intro user rememberMe session hissued
    rcases List.mem_cons.1 hissued with rfl | hold
    · exact ⟨_, rfl, rfl⟩
    · exact absurd hold hnew
  cases action with
  | tick elapsed => exact absurd hmem hnew
  | begin call request =>
    refine absurd ?_ hnew
    unfold AuthDb.step at hmem
    dsimp only at hmem
    split at hmem
    · split at hmem <;> exact hmem
    · exact hmem
  | fail call message =>
    refine absurd ?_ hnew
    unfold AuthDb.step at hmem
    dsimp only at hmem
    split at hmem <;> exact hmem
  | advance call =>
    cases hphase : s.phases call with
    | begun operation before =>
      simp only [AuthDb.step, advance, hphase] at hmem
      refine absurd ?_ hnew
      unfold AuthDb.read at hmem
      split at hmem
      · exact hmem
      · split at hmem
        · split at hmem <;> exact hmem
        · split at hmem
          · exact hmem
          · split at hmem
            · exact hmem
            · split at hmem <;> exact hmem
            · exact hmem
    | creating =>
      simp only [AuthDb.step, advance, hphase] at hmem
      refine absurd ?_ hnew
      split at hmem <;> exact hmem
    | checked operation before =>
      simp only [AuthDb.step, advance, hphase, AuthDb.write, update] at hmem ⊢
      cases huser : s.user with
      | none =>
        rw [huser] at hmem
        exact absurd hmem hnew
      | some user =>
        rw [huser] at hmem
        dsimp only at hmem ⊢
        cases operation with
        | login password rememberMe => exact hissue user rememberMe s.opened hmem
        | verifyOtp => exact hissue user false s.opened hmem
        | refresh old => exact hissue user old.rememberMe (s.sessionOf old.jti) hmem
        | reset | change | delete | logout | verifyReset => exact absurd hmem hnew
    | changed rememberMe before =>
      simp only [AuthDb.step, advance, hphase, update] at hmem ⊢
      cases huser : s.user with
      | none =>
        rw [huser] at hmem
        exact absurd hmem hnew
      | some user =>
        rw [huser] at hmem
        exact hissue user rememberMe s.opened hmem
    | waiting | done | threw =>
      simp only [AuthDb.step, advance, hphase] at hmem
      exact absurd hmem hnew

theorem stored_of_accepted (hphase : s.phases call = .begun (.refresh token) before)
    (hchecked : (s.step env (.advance call)).phases call = .checked (.refresh token) before) :
    ∃ user, s.user = some user ∧
      user.hashedRefreshToken = some (env.hashRefreshToken token) := by
  simp only [AuthDb.step, advance, hphase, AuthDb.read, check] at hchecked
  cases huser : s.user with
  | none =>
    rw [huser] at hchecked
    change Function.update s.phases call (AuthPhase.threw _) call = _ at hchecked
    rw [Function.update_self] at hchecked
    cases hchecked
  | some user =>
    rw [huser] at hchecked
    refine ⟨user, rfl, ?_⟩
    by_contra hne
    simp only [if_neg hne] at hchecked
    change Function.update s.phases call (AuthPhase.threw _) call = _ at hchecked
    rw [Function.update_self] at hchecked
    cases hchecked

theorem Inv.sessionsHold (h : s.Inv env) (henv : env.Documented) (hunraced : s.Unraced env action) :
    s.SessionsHold env action := by
  have hafter := h.step henv hunraced
  refine ⟨?_, ?_, hafter.exchanged, hafter.used⟩
  · rintro call token before rfl hphase hchecked
    obtain ⟨user, huser, hhash⟩ := stored_of_accepted hphase hchecked
    exact (h.stored user token huser hhash).revoked
  · intro token hmem hnew
    obtain ⟨user, huser, hhash⟩ := stored_of_issued hmem hnew
    exact (hafter.stored user token huser hhash).revoked

end AuthDb

/-- **A revoked session stays revoked, and a token works once**, for any number of calls of which
any steps come in between, as long as what a refresh or a reset has checked still holds when it
writes. -/
theorem authSessions {env : AuthEnv} (henv : env.Documented) {s : AuthDb} (hstart : s.Start env)
    {acts : List AuthAction} (h : Machine.Along (AuthDb.step env) (AuthDb.Unraced env) s acts) :
    Machine.Along (AuthDb.step env) (AuthDb.SessionsHold env) s acts :=
  Machine.Along.of_keeps (fun _ _ hinv hunraced => hinv.step henv hunraced)
    (fun _ _ hinv hunraced => hinv.sessionsHold henv hunraced) hstart.inv h

/-! ### Runs -/

/-- Hashes that can be computed by hand: a salt is a number of letters before the password. -/
def plainHashes : AuthEnv where
  hashRefreshToken token := Nat.pair (Nat.pair token.jti token.rememberMe.toNat) token.exp
  bcrypt password salt := String.ofList (List.replicate (salt + 1) 's' ++ '$' :: password.toList)
  compare password hash := hash.toList.dropWhile (· = 's') = '$' :: password.toList
  passwordFingerprint hash := hash.getD ""

theorem plainHashes_documented : plainHashes.Documented where
  injective := by
    rintro ⟨jti, rememberMe, exp⟩ ⟨jti', rememberMe', exp'⟩ hsame
    obtain ⟨hfirst, hexp⟩ := Nat.pair_eq_pair.1 hsame
    obtain ⟨hjti, hremember⟩ := Nat.pair_eq_pair.1 hfirst
    have hbool : rememberMe = rememberMe' := by
      cases rememberMe <;> cases rememberMe' <;> first | rfl | cases hremember
    exact congr (congr (congrArg RefreshToken.mk hjti) hbool) hexp
  salted := by
    rintro password salt (hempty | ⟨password', earlier, hlt, hsame⟩)
    · have hchars := congrArg String.toList hempty
      change (String.ofList (List.replicate (salt + 1) 's' ++ _)).toList = [] at hchars
      rw [String.toList_ofList, List.replicate_succ] at hchars
      cases hchars
    · -- the letter after the earlier salt is not one of it
      have hchars := congrArg (fun text => text.toList[earlier + 1]?) hsame
      change (String.ofList (List.replicate (salt + 1) 's' ++ _)).toList[earlier + 1]? =
        (String.ofList (List.replicate (earlier + 1) 's' ++ '$' :: _)).toList[earlier + 1]?
        at hchars
      rw [String.toList_ofList, String.toList_ofList,
        List.getElem?_append_left (by rw [List.length_replicate]; omega),
        List.getElem?_replicate_of_lt (by omega),
        List.getElem?_append_right (by rw [List.length_replicate]), List.length_replicate,
        Nat.sub_self] at hchars
      exact absurd (Option.some.inj hchars) (by decide)

def firstToken : RefreshToken := ⟨0, false, 604800⟩

def signUp : List AuthAction :=
  [.begin 0 (.verifyOtp true), .advance 0, .advance 0, .advance 0]

def refreshedAfterLogout : List AuthAction :=
  signUp ++ [.begin 1 (.refreshTokens (.refresh firstToken)), .advance 1, .begin 2 .logout,
    .advance 2]

/-- The session goes on after the logout. -/
theorem authSessions_refreshed_after_logout :
    plainHashes.Documented ∧ ({} : AuthDb).Start plainHashes ∧
      ¬ Machine.Along (AuthDb.step plainHashes) (AuthDb.SessionsHold plainHashes) {}
        (refreshedAfterLogout ++ [.advance 1]) := by
  refine ⟨plainHashes_documented,
    ⟨(fun _ huser => nomatch huser), rfl, rfl, rfl, rfl, rfl, fun _ => rfl⟩, fun h => ?_⟩
  have hissued := (Machine.Along.append.1 h).2.1.issued ⟨1, false, 604800⟩ (by decide +kernel)
    (by decide +kernel)
  revert hissued
  decide +kernel

def firstReset : ResetToken := ⟨"s$secret", 0, 600⟩

/-- A token is refreshed, the password is set, and reset. -/
theorem authSessions_refreshed :
    Machine.Along (AuthDb.step plainHashes) (AuthDb.SessionsHold plainHashes) {}
      (signUp ++ [.begin 1 (.refreshTokens (.refresh firstToken)), .advance 1, .advance 1,
        .begin 2 (.changePassword none "secret" false), .advance 2, .advance 2, .advance 2,
        .begin 3 (.verifyPasswordReset true), .advance 3,
        .begin 4 (.resetPassword (.passwordReset firstReset) "new"), .advance 4, .advance 4]) := by
  have hstart : ({} : AuthDb).Start plainHashes :=
    ⟨(fun _ huser => nomatch huser), rfl, rfl, rfl, rfl, rfl, fun _ => rfl⟩
  refine authSessions plainHashes_documented hstart ?_
  refine ⟨trivial, trivial, trivial, trivial, trivial, trivial, ?_, trivial, trivial, trivial,
    trivial, trivial, trivial, trivial, trivial, ?_, trivial⟩
  · rintro user ⟨⟩
    rfl
  · rintro user ⟨⟩
    rfl

end Zomaal
