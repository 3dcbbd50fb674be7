import Ticketing.Accounts.Models
import Ticketing.Catalog.Views
import Ticketing.Catalog.Public

/-!
# The API of the accounts

`accounts/serializers.py` and `accounts/views.py`, and the API as a whole: every
request comes with a token or without one, and the user it stands for is looked
up in the accounts.

## Main Definitions

* `RegistrationColumns`, `ProfileColumns` — the writable fields of the serializers
* `register`, `updateProfile` — `RegisterView` and `ProfileView`
* `Token`, `authenticate` — the claims of a token, and the account they name
* `Site`, `ApiRequest`, `Site.serve` — the whole API over all tables

## Design Notes

As in the viewsets of the catalog, what a field reads has been stripped and
parsed already.  Signing and checking tokens is the framework's; a request comes
with the claims of a token whose signature is good, whatever these claims are.
-/

namespace Ticketing.Accounts

open Transactional Rest Catalog

/-! ## Registration -/

/-- The fields of `UserRegistrationSerializer`. -/
structure RegistrationColumns (F : Type → Type) where
  email : F String
  firstName : F String
  lastName : F String
  password : F String
  passwordConfirm : F String

/-- What a registration is answered with: the passwords are write-only. -/
structure RegistrationData where
  email : String
  firstName : String
  lastName : String
  deriving DecidableEq

/-- A refusal of an account endpoint, or an exception under it. -/
inductive AccountRefusal
  /-- 401. -/
  | notAuthenticated
  /-- 400: the request data do not validate. -/
  | invalid
  /-- 500. -/
  | server (error : AccountError)
  deriving DecidableEq

variable (platform : Platform)

/-- Some account has the e-mail exactly as it is spelled: the query of `UniqueValidator`. -/
def AccountTable.hasEmail (table : AccountTable) (email : String) : Bool :=
  table.rows.any (·.email = email)

/-- `is_valid` of `UserRegistrationSerializer`. -/
def RegistrationColumns.validate (table : AccountTable) (data : RegistrationColumns Entry) :
    Option (RegistrationColumns Option) := do
  let fields : RegistrationColumns Option := {
    email := ← data.email.validate true fun email =>
      text 254 email && platform.isEmail email && !table.hasEmail email
    firstName := ← data.firstName.validate false (blankText 150)
    lastName := ← data.lastName.validate false (blankText 150)
    password := ← data.password.validate true fun password =>
      password ≠ "" && platform.isStrong password
    passwordConfirm := ← data.passwordConfirm.validate true (· ≠ "") }
  -- `validate` of the serializer
  if fields.password ≠ fields.passwordConfirm then none else some fields

/-- `RegisterView`. -/
def register (input : Input) (data : RegistrationColumns Entry) (table : AccountTable) :
    Except AccountRefusal (RegistrationData × AccountTable) :=
  match data.validate platform table with
  | none => .error .invalid
  | some fields =>
      let extra : ExtraFields := { firstName := fields.firstName, lastName := fields.lastName }
      match createUser platform input (fields.email.getD "") fields.password extra table with
      | .error error => .error (.server error)
      | .ok after =>
          let account :=
            newAccount platform input (fields.email.getD "") fields.password extra
          .ok (⟨account.email, account.firstName, account.lastName⟩, after)

/-! ## Profiles -/

/-- The writable fields of `UserProfileSerializer`. -/
structure ProfileColumns (F : Type → Type) where
  firstName : F String
  lastName : F String

/-- What a profile is answered with. -/
structure ProfileData where
  id : Uuid
  email : String
  firstName : String
  lastName : String
  role : UserRole
  emailVerified : Bool
  createdAt : Time
  deriving DecidableEq

/-- `UserProfileSerializer(account).data`. -/
def profileData (id : Uuid) (account : Account) : ProfileData where
  id
  email := account.email
  firstName := account.firstName
  lastName := account.lastName
  role := account.role
  emailVerified := account.emailVerified
  createdAt := account.createdAt

/-- `is_valid` of `UserProfileSerializer`. -/
def ProfileColumns.validate (data : ProfileColumns Entry) : Option (ProfileColumns Option) := do
  return {
    firstName := ← data.firstName.validate false (blankText 150)
    lastName := ← data.lastName.validate false (blankText 150) }

/-- The account with the validated values, saved at `now`. -/
def ProfileColumns.write (fields : ProfileColumns Option) (now : Time) (account : Account) :
    Account :=
  { account with
    firstName := fields.firstName.getD account.firstName
    lastName := fields.lastName.getD account.lastName
    updatedAt := now }

/-- `ProfileView`, a `PUT` or a `PATCH` by the account `id`. -/
def updateProfile (now : Time) (id : Uuid) (account : Account) (data : ProfileColumns Entry)
    (table : AccountTable) : Except AccountRefusal (ProfileData × AccountTable) :=
  match data.validate with
  | none => .error .invalid
  | some fields =>
      let changed := fields.write now account
      -- `instance.save()` writes every column
      match table.write id changed with
      | .error error => .error (.server error)
      | .ok after => .ok (profileData id changed, after)

/-! ## Authentication -/

/-- The claims of a token: `CustomTokenObtainPairSerializer` adds e-mail and role. -/
structure Token where
  userId : Uuid
  email : String
  role : UserRole

/-- `get_token`, for the account `id`. -/
def getToken (id : Uuid) (account : Account) : Token := ⟨id, account.email, account.role⟩

/-- The active account that a token names; the claims added to it are not read. -/
def authenticate (table : AccountTable) (token : Token) : Option (Uuid × Account) :=
  ((table.rows.get token.userId).filter (·.isActive)).map fun account => (token.userId, account)

/-! ## The API -/

/-- All tables. -/
structure Site where
  accounts : AccountTable
  catalog : Catalog.Database

/-- What a request asks for. -/
inductive Endpoint
  | register (data : RegistrationColumns Entry)
  | profile
  | updateProfile (data : ProfileColumns Entry)
  | catalog (request : Catalog.Request)

/-- A request, with the claims of its token if it has one. -/
structure ApiRequest where
  token : Option Token
  endpoint : Endpoint
  input : Input

/-- What a request is answered with. -/
inductive Answer
  | created (data : RegistrationData)
  | profile (data : ProfileData)
  | refused (refusal : AccountRefusal)
  /-- An endpoint of the catalog, with the reason where it has refused. -/
  | catalog (refusal : Option (Refusal DatabaseError))

variable (slugify : String → String)

/-- The tables after a request to the catalog, or the reason of the refusal. -/
def dispatchCatalog (user : User) (input : Catalog.Input) (db : Catalog.Database) :
    Catalog.Request → Except (Refusal DatabaseError) Catalog.Database
  | .company call => (companyViewSet slugify).dispatch user input db call
  | .event call => organizerEventViewSet.dispatch user input db call
  | .tier eventId call => (ticketTierViewSet eventId).dispatch user input db call

theorem serve_eq_dispatchCatalog (user : User) (input : Catalog.Input) (db : Catalog.Database)
    (request : Catalog.Request) :
    Request.serve slugify user db (request, input)
      = (dispatchCatalog slugify user input db request).toOption.getD db := by
  cases request with
  | company call => rfl
  | event call => rfl
  | tier eventId call => rfl

namespace Site

/-- A request by `caller`, where a token names one. -/
def handle (caller : Option (Uuid × Account)) (endpoint : Endpoint) (input : Input) (site : Site) :
    Answer × Site :=
  match endpoint with
  | .register data =>
      match register platform input data site.accounts with
      | .ok (data, accounts) => (.created data, { site with accounts })
      | .error refusal => (.refused refusal, site)
  | .profile =>
      match caller with
      | some (id, account) => (.profile (profileData id account), site)
      | none => (.refused .notAuthenticated, site)
  | .updateProfile data =>
      match caller with
      | some (id, account) =>
          match updateProfile input.now id account data site.accounts with
          | .ok (data, accounts) => (.profile data, { site with accounts })
          | .error refusal => (.refused refusal, site)
      | none => (.refused .notAuthenticated, site)
  | .catalog request =>
      let user := caller.elim anonymous fun found => found.2.user found.1
      match dispatchCatalog slugify user ⟨input.now, input.uuid⟩ site.catalog request with
      | .ok catalog => (.catalog none, { site with catalog })
      | .error refusal => (.catalog (some refusal), site)

/-- A request; a token that names no active account is refused by every view. -/
def serve (site : Site) (request : ApiRequest) : Answer × Site :=
  match request.token with
  | none => handle platform slugify none request.endpoint request.input site
  | some token =>
      match authenticate site.accounts token with
      | none => (.refused .notAuthenticated, site)
      | some found => handle platform slugify (some found) request.endpoint request.input site

/-- The answers to a run of requests. -/
def answers (site : Site) : List ApiRequest → List Answer
  | [] => []
  | request :: rest =>
      let (answer, after) := serve platform slugify site request
      answer :: answers after rest

/-- The tables after a run of requests. -/
def run (site : Site) (requests : List ApiRequest) : Site :=
  requests.foldl (fun site request => (serve platform slugify site request).2) site

end Site

end Ticketing.Accounts
