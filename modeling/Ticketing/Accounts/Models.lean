import Ticketing.Catalog.Models
import Ticketing.Python

/-!
# Accounts

The user model of `accounts/models.py` with its manager, and the two role
permissions of `core/permissions.py` as they read it.

## Main Definitions

* `Account`, `AccountTable` — the rows, and the table with its unique columns
* `normalizeEmail` — `BaseUserManager.normalize_email`
* `createUser`, `createSuperuser` — the methods of `UserManager`
* `Account.user` — what the permissions see of `request.user`

## Design Notes

What Django contributes (the password hasher, its validators) is a parameter.  The groups
and permissions of `PermissionsMixin` and `last_login` are left out: no code of the API reads
them.
-/

namespace Ticketing.Accounts

open Transactional Catalog

/-- What the code takes from Django. -/
structure Platform extends PythonText where
  /-- `make_password`, for a salt. -/
  makePassword : String → Option String → String
  /-- `EmailValidator`. -/
  isEmail : String → Bool
  /-- `validate_password`. -/
  isStrong : String → Bool

/-- What a request takes from its surroundings. -/
structure Input where
  now : Time
  uuid : Uuid
  salt : String

/-- A row of `accounts_user`, keyed by its id. -/
structure Account where
  email : String
  password : String
  firstName : String := ""
  lastName : String := ""
  role : UserRole := .attendee
  isActive : Bool := true
  isStaff : Bool := false
  isSuperuser : Bool := false
  emailVerified : Bool := false
  createdAt : Time
  updatedAt : Time
  deriving DecidableEq

namespace Account

/-- `request.user`, as the permissions see it. -/
def user (id : Uuid) (account : Account) : User := { id, role := account.role }

end Account

/-- What creating an account can raise. -/
inductive AccountError
  /-- `ValueError('Email is required')`. -/
  | emailRequired
  /-- `IntegrityError`: a second row under an id or an e-mail. -/
  | integrity
  /-- `DataError`: a text too long for its column. -/
  | tooLong
  deriving DecidableEq

/-- The table of accounts: an e-mail belongs to one account. -/
structure AccountTable where
  rows : Table Uuid Account
  emails_distinct : ∀ {id id' : Uuid} {account account' : Account}, rows.get id = some account →
    rows.get id' = some account' → account.email = account'.email → id = id'

namespace AccountTable

/-- Another row than that of `id` has the e-mail. -/
def emailTaken (table : AccountTable) (id : Uuid) (email : String) : Prop :=
  ∃ other ∈ table.rows.keys, other ≠ id ∧ (table.rows.get other).any (·.email = email)

instance (table : AccountTable) (id : Uuid) (email : String) :
    Decidable (table.emailTaken id email) :=
  inferInstanceAs (Decidable (∃ other ∈ table.rows.keys, _))

theorem eq_of_not_taken {table : AccountTable} {id other : Uuid} {email : String}
    {account : Account} (free : ¬ table.emailTaken id email)
    (stored : table.rows.get other = some account) (same : account.email = email) :
    other = id := by
  by_contra different
  refine free ⟨other, Table.mem_keys_of_get stored, different, ?_⟩
  simp [stored, same]

/-- Write one row; the database checks the length and the unique column. -/
def write (table : AccountTable) (id : Uuid) (account : Account) :
    Except AccountError AccountTable :=
  if 254 < account.email.length then .error .tooLong
  else if free : table.emailTaken id account.email then .error .integrity
  else .ok {
    rows := table.rows.set id account
    emails_distinct := by
      intro first second row row' stored stored' same
      rw [Table.get_set] at stored stored'
      split_ifs at stored stored' with isFirst isSecond isSecond
      · rw [isFirst, isSecond]
      · obtain rfl := Option.some.inj stored
        rw [isFirst, eq_of_not_taken free stored' same.symm]
      · obtain rfl := Option.some.inj stored'
        rw [isSecond, eq_of_not_taken free stored same]
      · exact table.emails_distinct stored stored' same }

/-- INSERT. -/
def insert (table : AccountTable) (id : Uuid) (account : Account) :
    Except AccountError AccountTable :=
  if (table.rows.get id).isSome then .error .integrity else table.write id account

theorem rows_of_write {table after : AccountTable} {id : Uuid} {account : Account}
    (written : table.write id account = .ok after) :
    after.rows = table.rows.set id account := by
  unfold write at written
  split_ifs at written
  cases written
  rfl

theorem rows_of_insert {table after : AccountTable} {id : Uuid} {account : Account}
    (inserted : table.insert id account = .ok after) :
    table.rows.get id = none ∧ after.rows = table.rows.set id account := by
  unfold insert at inserted
  split_ifs at inserted with present
  exact ⟨Option.not_isSome_iff_eq_none.mp present, rows_of_write inserted⟩

/-- An insert under a new id succeeds unless the e-mail is too long or taken. -/
theorem insert_eq_error {table : AccountTable} {id : Uuid} {account : Account}
    (new : table.rows.get id = none) (short : account.email.length ≤ 254) :
    table.insert id account = .error .integrity ↔
      ∃ other row, table.rows.get other = some row ∧ row.email = account.email := by
  have taken : table.emailTaken id account.email ↔
      ∃ other row, table.rows.get other = some row ∧ row.email = account.email := by
    constructor
    · rintro ⟨other, -, -, has⟩
      obtain ⟨row, stored, same⟩ := (Option.any_eq_true ..).mp has
      exact ⟨other, row, stored, of_decide_eq_true same⟩
    · rintro ⟨other, row, stored, same⟩
      refine ⟨other, Table.mem_keys_of_get stored, ?_, ?_⟩
      · rintro rfl
        rw [new] at stored
        cases stored
      · simp [stored, same]
  unfold insert write
  rw [new, if_neg (by simp), if_neg (not_lt.mpr short), ← taken]
  by_cases full : table.emailTaken id account.email
  · simp [full]
  · simp [full]

end AccountTable

/-! ## The manager -/

/-- `text.rsplit('@', 1)`, where the text has the character. -/
def rsplit (mark : Char) (text : List Char) : List Char × List Char :=
  let domain := (text.reverse.takeWhile (· ≠ mark)).reverse
  (text.take (text.length - domain.length - 1), domain)

/-- `normalize_email`: only the domain is put in lower case. -/
@[irreducible] def normalizeEmail (platform : Platform) (email : String) : String :=
  let stripped := (strip email).toList
  if '@' ∈ stripped then
    let (name, domain) := rsplit '@' stripped
    String.ofList name ++ "@" ++ platform.lower (String.ofList domain)
  else email

/-- The keyword arguments of `create_user` that its callers pass. -/
structure ExtraFields where
  firstName : Option String := none
  lastName : Option String := none
  role : Option UserRole := none
  isStaff : Option Bool := none
  isSuperuser : Option Bool := none

/-- The account that `create_user` saves. -/
def newAccount (platform : Platform) (input : Input) (email : String) (password : Option String)
    (extra : ExtraFields) : Account where
  email := normalizeEmail platform email
  password := platform.makePassword input.salt password
  firstName := extra.firstName.getD ""
  lastName := extra.lastName.getD ""
  role := extra.role.getD .attendee
  isStaff := extra.isStaff.getD false
  isSuperuser := extra.isSuperuser.getD false
  createdAt := input.now
  updatedAt := input.now

theorem email_newAccount (platform : Platform) (input : Input) (email : String)
    (password : Option String) (extra : ExtraFields) :
    (newAccount platform input email password extra).email = normalizeEmail platform email := rfl

/-- `create_user`. -/
def createUser (platform : Platform) (input : Input) (email : String) (password : Option String)
    (extra : ExtraFields) (table : AccountTable) : Except AccountError AccountTable :=
  if email = "" then .error .emailRequired
  else table.insert input.uuid (newAccount platform input email password extra)

theorem createUser_eq_ok {platform : Platform} {input : Input} {email : String}
    {password : Option String} {extra : ExtraFields} {table after : AccountTable}
    (created : createUser platform input email password extra table = .ok after) :
    table.rows.get input.uuid = none ∧
      after.rows = table.rows.set input.uuid (newAccount platform input email password extra) := by
  unfold createUser at created
  split_ifs at created
  exact AccountTable.rows_of_insert created

/-- `create_superuser`: what the caller passes goes first. -/
def createSuperuser (platform : Platform) (input : Input) (email : String)
    (password : Option String) (extra : ExtraFields) (table : AccountTable) :
    Except AccountError AccountTable :=
  createUser platform input email password
    { extra with
      isStaff := extra.isStaff.or (some true)
      isSuperuser := extra.isSuperuser.or (some true)
      role := extra.role.or (some .organizer) } table

/-- A superuser is an organizer with both flags, unless the caller says otherwise. -/
theorem createSuperuser_eq_ok {platform : Platform} {input : Input} {email : String}
    {password : Option String} {extra : ExtraFields} {table after : AccountTable}
    (created : createSuperuser platform input email password extra table = .ok after) :
    ∃ account, after.rows = table.rows.set input.uuid account ∧
      account.role = extra.role.getD .organizer ∧
      account.isStaff = extra.isStaff.getD true ∧
      account.isSuperuser = extra.isSuperuser.getD true := by
  obtain ⟨-, rows⟩ := createUser_eq_ok created
  refine ⟨_, rows, ?_, ?_, ?_⟩
  · cases extra.role <;> simp [newAccount]
  · cases extra.isStaff <;> simp [newAccount]
  · cases extra.isSuperuser <;> simp [newAccount]

end Ticketing.Accounts
