import JobScheduler.Api.Auth
import JobScheduler.Dashboard.Payloads

/-!
# Login at the dashboard

The router answers `auth/login` on its own. With real authentication it looks the user up by
email and signs a token for him; unlike `AuthHandler.Login` it never reads the hash of his
password. So it authenticates exactly where it lets nobody in, and it tells two passwords apart
exactly where none of them would verify (`dashboard_login_iff`).
-/

set_option autoImplicit false

namespace JobScheduler

namespace Dashboard

section

variable (bcrypt : Bcrypt) (env : Env) (site : Site)

/-- The login with these members of the body issues a token for the user. -/
def Issues (fields : Fields) (user : User) : Prop :=
  ∃ token, (login env site (.ok (some fields))).1 = ⟨200, .session token user⟩

/-- Whoever is given a token for this email has sent the password of the user it is for. -/
def Authenticates (email : String) : Prop :=
  ∀ fields user, fields.email = email → Issues env site fields user →
    bcrypt.checkPassword user.passwordHash fields.password = true

/-- Of two logins with this email that are both given a token, not only one has sent a password
that verifies. -/
def TellsPasswordsApart (email : String) : Prop :=
  ∀ first second user user', first.email = email → second.email = email →
    Issues env site first user → Issues env site second user' →
      (bcrypt.checkPassword user.passwordHash first.password = true ↔
        bcrypt.checkPassword user'.passwordHash second.password = true)

variable {env site} {fields : Fields}

/-- With real authentication a token needs a row with the email and any password. -/
theorem issues_iff (real : env.demoAuth = false) {user : User} :
    Issues env site fields user ↔
      fields.email ≠ "" ∧ fields.password ≠ "" ∧
        site.users.find? (·.email = fields.email) = some user := by
  unfold Issues login
  simp only [attempt, members, real, Bool.false_eq_true, if_false]
  by_cases given : fields.email = "" ∨ fields.password = ""
  · rw [if_pos given]
    constructor
    · rintro ⟨token, ⟨⟩⟩
    · rintro ⟨email, password, _⟩
      exact absurd given (by simp [email, password])
  · rw [if_neg given]
    rw [not_or] at given
    cases found : site.users.find? (·.email = fields.email) with
    | none =>
        constructor
        · rintro ⟨token, ⟨⟩⟩
        · rintro ⟨_, _, ⟨⟩⟩
    | some row =>
        constructor
        · rintro ⟨token, ⟨⟩⟩
          exact ⟨given.1, given.2, rfl⟩
        · rintro ⟨_, _, ⟨⟩⟩
          exact ⟨_, rfl⟩

/-- A `POST` of an email and a password. -/
def credentials (email password : String) : Fields :=
  { payloadOnly .null with email := email, password := password }

theorem issues_credentials (real : env.demoAuth = false) {email : String} (given : email ≠ "")
    {user : User} (found : site.users.find? (·.email = email) = some user) {password : String}
    (typed : password ≠ "") : Issues env site (credentials email password) user :=
  (issues_iff real).mpr ⟨given, typed, found⟩

theorem authenticates_iff (real : env.demoAuth = false) (email : String) :
    Authenticates bcrypt env site email ↔ email = "" ∨ ∀ u ∈ site.users, u.email ≠ email := by
  constructor
  · intro authenticates
    by_contra neither
    rw [not_or] at neither
    obtain ⟨given, some'⟩ := neither
    cases found : site.users.find? (·.email = email) with
    | none =>
        refine some' fun u member same => ?_
        have missing := List.find?_eq_none.mp found u member
        exact missing (decide_eq_true same)
    | some user =>
        -- every password is let in, and one does not verify
        obtain ⟨password, typed, wrong⟩ := bcrypt.rejects user.passwordHash
        have verifies : bcrypt.checkPassword user.passwordHash password = true :=
          authenticates (credentials email password) user rfl
            (issues_credentials real given found typed)
        rw [wrong] at verifies
        cases verifies
  · rintro nobody fields user rfl issued
    obtain ⟨given, _, found⟩ := (issues_iff real).mp issued
    rcases nobody with empty | unknown
    · exact absurd empty given
    · have carries : user.email = fields.email := by simpa using List.find?_some found
      exact absurd carries (unknown user (List.mem_of_find?_eq_some found))

theorem tellsPasswordsApart_iff (real : env.demoAuth = false) (email : String) :
    TellsPasswordsApart bcrypt env site email ↔
      email = "" ∨ ∀ user, site.users.find? (·.email = email) = some user →
        ∀ password, password ≠ "" → bcrypt.checkPassword user.passwordHash password = false := by
  constructor
  · intro apart
    by_cases given : email = ""
    · exact .inl given
    · right
      intro user found password typed
      by_contra verifies
      rw [Bool.not_eq_false] at verifies
      obtain ⟨other, typed', wrong⟩ := bcrypt.rejects user.passwordHash
      have both := apart _ _ user user rfl rfl (issues_credentials real given found typed)
        (issues_credentials real given found typed')
      have other_verifies : bcrypt.checkPassword user.passwordHash other = true := both.mp verifies
      rw [wrong] at other_verifies
      cases other_verifies
  · rintro nobody first second user user' rfl same issued issued'
    obtain ⟨given, typed, found⟩ := (issues_iff real).mp issued
    obtain ⟨_, typed', found'⟩ := (issues_iff real).mp issued'
    rcases nobody with empty | unverified
    · exact absurd empty given
    · rw [same] at found'
      simp [unverified user found _ typed, unverified user' found' _ typed']

end

/-- **Where the login of the dashboard authenticates.** With `DEMO_AUTH = 'false'`, for every table
and email, tokens go only to those who send the password of the user exactly when no token is
issued at all: the email is empty or no row has it. Two passwords are told apart exactly when,
beyond that, no password verifies against the hash of the row that is found. -/
theorem dashboard_login_iff (bcrypt : Bcrypt) {env : Env} (real : env.demoAuth = false)
    (site : Site) (email : String) :
    (Authenticates bcrypt env site email ↔
      email = "" ∨ ∀ u ∈ site.users, u.email ≠ email) ∧
    (TellsPasswordsApart bcrypt env site email ↔
      email = "" ∨ ∀ user, site.users.find? (·.email = email) = some user →
        ∀ password, password ≠ "" → bcrypt.checkPassword user.passwordHash password = false) :=
  ⟨authenticates_iff bcrypt real email, tellsPasswordsApart_iff bcrypt real email⟩

theorem dashboard_login_unknown :
    Authenticates plainBcrypt parsingEnv oneFounder.site "eve@example.com" ∧
      TellsPasswordsApart plainBcrypt parsingEnv oneFounder.site "eve@example.com" := by
  obtain ⟨authenticates, apart⟩ :=
    dashboard_login_iff plainBcrypt (show parsingEnv.demoAuth = false from rfl) oneFounder.site
      "eve@example.com"
  refine ⟨authenticates.mpr (.inr (by decide)), apart.mpr (.inr ?_)⟩
  rintro user ⟨⟩

/-- Ada's account opens with any password. -/
theorem wrong_password_admitted :
    ¬ ∀ (bcrypt : Bcrypt) (env : Env), env.demoAuth = false → ∀ (site : Site) (fields : Fields)
      (user : User), Issues env site fields user →
        bcrypt.checkPassword user.passwordHash fields.password = true := by
  intro always
  have issued : Issues parsingEnv oneFounder.site (credentials "ada@example.com" "wrong")
      (AuthHandler.newUser ⟨0, 1, 1, 0⟩ (founder 1 "acme" "password-1").1 "$2a$10$password-1") :=
    ⟨_, rfl⟩
  have verifies := always plainBcrypt parsingEnv rfl _ _ _ issued
  exact absurd verifies (by decide)

end Dashboard

end JobScheduler
