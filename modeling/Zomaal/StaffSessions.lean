/-
**Sessions of a staff member.**

The owner deactivates the membership of a staff member, and the credentials stay.  Signing in with
the password looks at the status of the membership; confirming a one-time password, exchanging a
refresh token, and confirming a new phone number do not.  This module embeds the calls about one
staff member as a machine whose steps are whole calls.

Main results:

* `staffSessions` — **when a deactivated staff member gets no session**.
-/

import Zomaal.AuthSessions
import Zomaal.JsText

set_option autoImplicit false

namespace Zomaal

/-! ### The rows -/

inductive StaffStatus
  | active
  | inactive
  deriving DecidableEq

structure StaffUser where
  phone : String
  passwordHash : Option String := none
  hashedRefreshToken : Option ℕ := none
  isPhoneVerified : Bool := true
  onboardingComplete : Bool := false
  status : StaffStatus := .active
  lastLoginAt : Option ℕ := none

/-- The account, the phone numbers of the other accounts, the clock in seconds, the ids and salts
that come next, and the tokens that were signed for the account. -/
structure StaffDb where
  user : StaffUser
  others : List String := []
  clock : ℕ := 0
  nextJti : ℕ := 0
  nextSalt : ℕ := 0
  issued : List RefreshToken := []
  resetTokens : List ResetToken := []

/-- A call; `allowed` says whether the rate limit lets it through, and `valid` whether the
provider accepts the one-time password. -/
inductive StaffCall
  | tick (elapsed : ℕ)
  | setStatus (status : StaffStatus)
  | update (status : Option StaffStatus) (phone : Option String) (password : Option String)
  | login (phone password : String) (rememberMe allowed : Bool)
  | verifyOtp (phone : String) (valid allowed : Bool)
  | refreshTokens (jwt : Jwt)
  | verifyPasswordReset (phone : String) (valid allowed : Bool)
  | resetPassword (jwt : Jwt) (newPassword : String)
  | confirmPhoneChange (phone : String) (valid allowed : Bool)

/-- What a call answers: an access and a refresh token, which carry the phone number; a reset token;
or something without a token.  A call may also be about another account. -/
inductive StaffAnswer
  | tokens (phone : String) (refresh : RefreshToken)
  | resetToken (token : ResetToken)
  | done
  | otherAccount
  deriving DecidableEq

namespace StaffDb

/-! ### The calls -/

section Calls

variable (env : AuthEnv) (s : StaffDb)

def nextToken (rememberMe : Bool) : RefreshToken where
  jti := s.nextJti
  rememberMe := rememberMe
  exp := s.clock + refreshTtl rememberMe

/-- `issue`: a pair of tokens is signed, and the hash of the refresh token is stored. -/
def issue (rememberMe : Bool) : Except AuthError StaffAnswer × StaffDb :=
  (.ok (.tokens s.user.phone (s.nextToken rememberMe)),
    { s with
      user :=
        { s.user with hashedRefreshToken := some (env.hashRefreshToken (s.nextToken rememberMe)) }
      nextJti := s.nextJti + 1
      issued := s.nextToken rememberMe :: s.issued })

def storePassword (password : String) : StaffDb :=
  { s with
    user := { s.user with passwordHash := some (env.bcrypt password s.nextSalt) }
    nextSalt := s.nextSalt + 1 }

def setStatus (status : StaffStatus) : Except AuthError StaffAnswer × StaffDb :=
  (.ok .done, { s with user := { s.user with status } })

/-- `update`: the owner changes the status, the phone number or the password. -/
def update (status : Option StaffStatus) (phone password : Option String) :
    Except AuthError StaffAnswer × StaffDb :=
  if phone.any fun phone => phone ≠ "" && (phone ≠ s.user.phone && phone ∈ s.others) then
    (.error (.other "This phone number is already registered"), s)
  else
    let hashed :=
      match JsText.truthy password with
      | none => s
      | some password => s.storePassword env password
    (.ok .done,
      { hashed with
        user :=
          { hashed.user with
            status := status.getD s.user.status
            phone := phone.getD s.user.phone } })

/-- `login`: a deactivated staff member keeps their credentials but cannot sign in at all. -/
def login (phone password : String) (rememberMe allowed : Bool) :
    Except AuthError StaffAnswer × StaffDb :=
  if !allowed then (.error (.other "Too many login attempts. Please try again later."), s)
  else if phone ≠ s.user.phone then (.ok .otherAccount, s)
  else if !(JsText.truthy s.user.passwordHash).any (env.compare password) then
    (.error .invalidCredentials, s)
  else if s.user.status ≠ .active then (.error .deactivated, s)
  else
    let opened := s.issue env rememberMe
    (opened.1,
      { opened.2 with user := { opened.2.user with lastLoginAt := some s.clock } })

/-- `verifyOtp`: whoever confirms a phone number is signed in to its account, which is created if
there is none. -/
def verifyOtp (phone : String) (valid allowed : Bool) : Except AuthError StaffAnswer × StaffDb :=
  if !allowed then
    (.error (.other "Too many OTP verification attempts. Please request a new OTP later."), s)
  else if !valid then (.error .invalidOtp, s)
  else if phone = s.user.phone then s.issue env false
  else (.ok .otherAccount, { s with others := s.others.insert phone })

/-- `refreshTokens`: the token whose hash is stored is exchanged for the next pair. -/
def refreshTokens : Jwt → Except AuthError StaffAnswer × StaffDb
  | .refresh token =>
    if token ∈ s.issued ∧ s.clock < token.exp then
      if s.user.hashedRefreshToken = some (env.hashRefreshToken token) then
        s.issue env token.rememberMe
      else (.error .accessDenied, s)
    else (.error .accessDenied, s)
  | _ => (.error .accessDenied, s)

/-- `verifyPasswordReset`: a token to reset the password with is signed. -/
def verifyPasswordReset (phone : String) (valid allowed : Bool) :
    Except AuthError StaffAnswer × StaffDb :=
  if !allowed then
    (.error (.other "Too many OTP verification attempts. Please request a new OTP later."), s)
  else if phone ≠ s.user.phone then (.ok .otherAccount, s)
  else if !valid then (.error .invalidOtp, s)
  else
    let token : ResetToken :=
      ⟨env.passwordFingerprint s.user.passwordHash, s.clock, s.clock + passwordResetTtlSeconds⟩
    (.ok (.resetToken token), { s with resetTokens := token :: s.resetTokens })

/-- `resetPassword`: the password is changed, and the refresh token stops working. -/
def resetPassword (jwt : Jwt) (newPassword : String) : Except AuthError StaffAnswer × StaffDb :=
  match jwt with
  | .passwordReset token =>
    if token ∈ s.resetTokens ∧ s.clock < token.exp ∧ token.pwv ≠ "" ∧
        env.passwordFingerprint s.user.passwordHash = token.pwv then
      let hashed := s.storePassword env newPassword
      (.ok .done,
        { hashed with
          user := { hashed.user with hashedRefreshToken := none, isPhoneVerified := true } })
    else (.error .resetInvalid, s)
  | _ => (.error .resetInvalid, s)

/-- `confirmPhoneChange`: the account gets a new phone number, and new tokens that carry it. -/
def confirmPhoneChange (phone : String) (valid allowed : Bool) :
    Except AuthError StaffAnswer × StaffDb :=
  if !allowed then
    (.error (.other
      "Too many phone number change attempts. Please request a new OTP later."), s)
  else if !valid then (.error .invalidOtp, s)
  else if phone ≠ s.user.phone ∧ phone ∈ s.others then
    (.error (.other "Phone number already in use"), s)
  else { s with user := { s.user with phone, isPhoneVerified := true } }.issue env false

def handle : StaffCall → Except AuthError StaffAnswer × StaffDb
  | .tick elapsed => (.ok .done, { s with clock := s.clock + elapsed })
  | .setStatus status => s.setStatus status
  | .update status phone password => s.update env status phone password
  | .login phone password rememberMe allowed => s.login env phone password rememberMe allowed
  | .verifyOtp phone valid allowed => s.verifyOtp env phone valid allowed
  | .refreshTokens jwt => s.refreshTokens env jwt
  | .verifyPasswordReset phone valid allowed => s.verifyPasswordReset env phone valid allowed
  | .resetPassword jwt newPassword => s.resetPassword env jwt newPassword
  | .confirmPhoneChange phone valid allowed => s.confirmPhoneChange env phone valid allowed

variable (call : StaffCall)

def step : StaffDb := (s.handle env call).2

/-! ### What is promised -/

def Issues : Prop :=
  (∃ phone refresh, (s.handle env call).1 = .ok (.tokens phone refresh)) ∨
    (s.step env call).issued ≠ s.issued

/-- **A call that starts while the membership is inactive issues no token.** -/
def NoSession : Prop := s.user.status ≠ .active → ¬s.Issues env call

/-- What a call presents opens a session without a look at the membership: a one-time password for
the account's number or a free new one, or the stored refresh token. -/
def Presents : StaffCall → Prop
  | .verifyOtp phone valid allowed =>
    allowed = true ∧ valid = true ∧ phone = s.user.phone
  | .refreshTokens jwt =>
    ∃ token, jwt = .refresh token ∧ token ∈ s.issued ∧ s.clock < token.exp ∧
      s.user.hashedRefreshToken = some (env.hashRefreshToken token)
  | .confirmPhoneChange phone valid allowed =>
    allowed = true ∧ valid = true ∧ (phone = s.user.phone ∨ phone ∉ s.others)
  | _ => False

/-- **While the membership is inactive, nothing that is presented is accepted.** -/
def Barred : Prop := s.user.status ≠ .active → ¬s.Presents env call

end Calls

/-! ### Which calls issue tokens -/

section Issuing

variable {env : AuthEnv} {s : StaffDb}

variable {call : StaffCall}

theorem issue_issues (rememberMe : Bool) {t : StaffDb}
    (h : s.handle env call = t.issue env rememberMe) : s.Issues env call := by
  refine Or.inl ⟨t.user.phone, t.nextToken rememberMe, ?_⟩
  rw [h]
  rfl

theorem not_issues {answer : Except AuthError StaffAnswer} {t : StaffDb}
    (h : s.handle env call = (answer, t))
    (hanswer : ∀ phone refresh, answer ≠ .ok (.tokens phone refresh))
    (hissued : t.issued = s.issued) : ¬s.Issues env call := by
  rintro (⟨phone, refresh, htokens⟩ | hsigned)
  · rw [h] at htokens
    exact hanswer phone refresh htokens
  · rw [step, h] at hsigned
    exact hsigned hissued

theorem not_issues_error {error : AuthError} (h : s.handle env call = (.error error, s)) :
    ¬s.Issues env call :=
  not_issues h (fun _ _ htokens => by cases htokens) rfl

theorem login_inactive (hinactive : s.user.status ≠ .active) (phone password : String)
    (rememberMe allowed : Bool) : ¬s.Issues env (.login phone password rememberMe allowed) := by
  have hlogin : s.handle env (.login phone password rememberMe allowed) =
      s.login env phone password rememberMe allowed := rfl
  rw [login, if_pos hinactive] at hlogin
  split at hlogin
  · exact not_issues_error hlogin
  · split at hlogin
    · exact not_issues hlogin (fun _ _ htokens => by cases htokens) rfl
    · split at hlogin
      · exact not_issues_error hlogin
      · exact not_issues_error hlogin

theorem resetPassword_inactive (jwt : Jwt) (newPassword : String) :
    ¬s.Issues env (.resetPassword jwt newPassword) := by
  have hreset : s.handle env (.resetPassword jwt newPassword) =
      s.resetPassword env jwt newPassword := rfl
  cases jwt with
  | access => exact not_issues_error hreset
  | refresh token => exact not_issues_error hreset
  | passwordReset token =>
    rw [resetPassword] at hreset
    split at hreset
    · exact not_issues hreset (fun _ _ htokens => by cases htokens) rfl
    · exact not_issues_error hreset

theorem setStatus_issues (status : StaffStatus) : ¬s.Issues env (.setStatus status) :=
  not_issues rfl (fun _ _ htokens => by cases htokens) rfl

theorem update_issues (status : Option StaffStatus) (phone password : Option String) :
    ¬s.Issues env (.update status phone password) := by
  have hupdate : s.handle env (.update status phone password) =
      s.update env status phone password := rfl
  rw [update] at hupdate
  split at hupdate
  · exact not_issues_error hupdate
  · refine not_issues hupdate (fun _ _ htokens => by cases htokens) ?_
    cases JsText.truthy password <;> rfl

theorem verifyPasswordReset_issues (phone : String) (valid allowed : Bool) :
    ¬s.Issues env (.verifyPasswordReset phone valid allowed) := by
  have hverify : s.handle env (.verifyPasswordReset phone valid allowed) =
      s.verifyPasswordReset env phone valid allowed := rfl
  rw [verifyPasswordReset] at hverify
  split at hverify
  · exact not_issues_error hverify
  · split at hverify
    · exact not_issues hverify (fun _ _ htokens => by cases htokens) rfl
    · split at hverify
      · exact not_issues_error hverify
      · exact not_issues hverify (fun _ _ htokens => by cases htokens) rfl

theorem verifyOtp_issues_iff (phone : String) (valid allowed : Bool) :
    s.Issues env (.verifyOtp phone valid allowed) ↔
      allowed = true ∧ valid = true ∧ phone = s.user.phone := by
  have hverify : s.handle env (.verifyOtp phone valid allowed) =
      s.verifyOtp env phone valid allowed := rfl
  rw [verifyOtp] at hverify
  cases allowed with
  | false =>
    rw [Bool.not_false, if_pos rfl] at hverify
    exact iff_of_false (not_issues_error hverify) fun h => Bool.false_ne_true h.1
  | true =>
    rw [if_neg (by decide)] at hverify
    cases valid with
    | false =>
      rw [Bool.not_false, if_pos rfl] at hverify
      exact iff_of_false (not_issues_error hverify) fun h => Bool.false_ne_true h.2.1
    | true =>
      rw [if_neg (by decide)] at hverify
      by_cases hphone : phone = s.user.phone
      · rw [if_pos hphone] at hverify
        exact iff_of_true (issue_issues false hverify) ⟨rfl, rfl, hphone⟩
      · rw [if_neg hphone] at hverify
        exact iff_of_false (not_issues hverify (fun _ _ htokens => by cases htokens) rfl)
          fun h => hphone h.2.2

theorem refreshTokens_issues_iff (jwt : Jwt) :
    s.Issues env (.refreshTokens jwt) ↔
      ∃ token, jwt = .refresh token ∧ token ∈ s.issued ∧ s.clock < token.exp ∧
        s.user.hashedRefreshToken = some (env.hashRefreshToken token) := by
  have hrefresh : s.handle env (.refreshTokens jwt) = s.refreshTokens env jwt := rfl
  cases jwt with
  | access =>
    exact iff_of_false (not_issues_error hrefresh) fun ⟨_, h, _⟩ => by cases h
  | passwordReset token =>
    exact iff_of_false (not_issues_error hrefresh) fun ⟨_, h, _⟩ => by cases h
  | refresh token =>
    rw [refreshTokens] at hrefresh
    by_cases hsigned : token ∈ s.issued ∧ s.clock < token.exp
    · rw [if_pos hsigned] at hrefresh
      by_cases hhash : s.user.hashedRefreshToken = some (env.hashRefreshToken token)
      · rw [if_pos hhash] at hrefresh
        exact iff_of_true (issue_issues _ hrefresh)
          ⟨token, rfl, hsigned.1, hsigned.2, hhash⟩
      · rw [if_neg hhash] at hrefresh
        refine iff_of_false (not_issues_error hrefresh) ?_
        rintro ⟨other, hsame, -, -, hother⟩
        cases hsame
        exact hhash hother
    · rw [if_neg hsigned] at hrefresh
      refine iff_of_false (not_issues_error hrefresh) ?_
      rintro ⟨other, hsame, hin, hexp, -⟩
      cases hsame
      exact hsigned ⟨hin, hexp⟩

/-- **A one-time password for a phone number that no other account has opens a session.** -/
theorem confirmPhoneChange_issues_iff (phone : String) (valid allowed : Bool) :
    s.Issues env (.confirmPhoneChange phone valid allowed) ↔
      allowed = true ∧ valid = true ∧ (phone = s.user.phone ∨ phone ∉ s.others) := by
  have hconfirm : s.handle env (.confirmPhoneChange phone valid allowed) =
      s.confirmPhoneChange env phone valid allowed := rfl
  rw [confirmPhoneChange] at hconfirm
  cases allowed with
  | false =>
    rw [Bool.not_false, if_pos rfl] at hconfirm
    exact iff_of_false (not_issues_error hconfirm) fun h => Bool.false_ne_true h.1
  | true =>
    rw [if_neg (by decide)] at hconfirm
    cases valid with
    | false =>
      rw [Bool.not_false, if_pos rfl] at hconfirm
      exact iff_of_false (not_issues_error hconfirm) fun h => Bool.false_ne_true h.2.1
    | true =>
      rw [if_neg (by decide)] at hconfirm
      by_cases htaken : phone ≠ s.user.phone ∧ phone ∈ s.others
      · rw [if_pos htaken] at hconfirm
        refine iff_of_false (not_issues_error hconfirm) fun h => ?_
        rcases h.2.2 with hmine | hfree
        · exact htaken.1 hmine
        · exact hfree htaken.2
      · rw [if_neg htaken] at hconfirm
        refine iff_of_true (issue_issues false hconfirm) ⟨rfl, rfl, ?_⟩
        by_cases hmine : phone = s.user.phone
        · exact Or.inl hmine
        · exact Or.inr fun hin => htaken ⟨hmine, hin⟩

/-- **While the membership is inactive, a call issues tokens exactly when what it presents is
accepted.** -/
theorem issues_iff_presents (hinactive : s.user.status ≠ .active) (call : StaffCall) :
    s.Issues env call ↔ s.Presents env call := by
  cases call with
  | tick elapsed =>
    exact iff_of_false (not_issues rfl (fun _ _ htokens => by cases htokens) rfl) id
  | setStatus status => exact iff_of_false (setStatus_issues status) id
  | update status phone password => exact iff_of_false (update_issues status phone password) id
  | login phone password rememberMe allowed =>
    exact iff_of_false (login_inactive hinactive phone password rememberMe allowed) id
  | verifyOtp phone valid allowed => exact verifyOtp_issues_iff phone valid allowed
  | refreshTokens jwt => exact refreshTokens_issues_iff jwt
  | verifyPasswordReset phone valid allowed =>
    exact iff_of_false (verifyPasswordReset_issues phone valid allowed) id
  | resetPassword jwt newPassword =>
    exact iff_of_false (resetPassword_inactive jwt newPassword) id
  | confirmPhoneChange phone valid allowed =>
    exact confirmPhoneChange_issues_iff phone valid allowed

end Issuing

end StaffDb

/-! ### Runs -/

/-- **A deactivated staff member gets no session exactly when nothing that is presented meanwhile is
accepted**: in every run of calls, no call that starts while the membership is inactive issues a
token if and only if none of them presents a one-time password for the phone number of the account,
the refresh token whose hash is stored, or a one-time password for a free phone number. -/
theorem staffSessions (env : AuthEnv) (s : StaffDb) (calls : List StaffCall) :
    Machine.Along (StaffDb.step env) (StaffDb.NoSession env) s calls ↔
      Machine.Along (StaffDb.step env) (StaffDb.Barred env) s calls := by
  refine Machine.Along.iff_of_keeps (I := fun _ => True) (fun _ _ _ _ => trivial)
    (fun t call _ => ?_) trivial
  constructor
  · intro h hinactive hpresents
    exact h hinactive ((StaffDb.issues_iff_presents hinactive call).2 hpresents)
  · intro h hinactive hissues
    exact h hinactive ((StaffDb.issues_iff_presents hinactive call).1 hissues)

def hiredStaff : StaffDb where
  user := { phone := "+212600000000", passwordHash := some "s$secret" }
  nextSalt := 1

def deactivatedStaff : List StaffCall :=
  [.login "+212600000000" "secret" false true, .setStatus .inactive]

/-- **A one-time password signs them in again**; so would the refresh token of the session. -/
theorem staffSessions_signed_in :
    ¬∀ (env : AuthEnv) (s : StaffDb) (calls : List StaffCall),
      Machine.Along (StaffDb.step env) (StaffDb.NoSession env) s calls := by
  intro h
  have hverified := (Machine.Along.append.1 (h plainHashes hiredStaff
    (deactivatedStaff ++ [.verifyOtp "+212600000000" true true]))).2.1
  refine hverified (by decide +kernel) (Or.inl ⟨"+212600000000", ⟨1, false, 604800⟩, ?_⟩)
  decide +kernel

/-- What the deactivated staff member holds keeps the session going. -/
example : ¬Machine.Along (StaffDb.step plainHashes) (StaffDb.Barred plainHashes) hiredStaff
    (deactivatedStaff ++ [.refreshTokens (.refresh ⟨0, false, 604800⟩)]) := by
  intro h
  refine (Machine.Along.append.1 h).2.1 (by decide +kernel) ⟨_, rfl, ?_⟩
  decide +kernel

end Zomaal
