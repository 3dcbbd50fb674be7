import Ticketing.Accounts.Views
import Ticketing.Catalog.Isolation
import Ticketing.Rest.Purge

/-!
# No privileges from the API

Roles and staff flags are written when an account is created, and the API creates
attendees.  Whatever requests arrive, nobody gets a privilege they did not have,
and the catalog is the work of those who were organizers at the start.

## Main Definitions

* `Unprivileged` — an attendee without flags
* `Account.SameButNames` — nothing but the names of an account has changed
* `holder` — the user of a token, where their role is one of some
* `permits` — what the API lets a request do to the catalog

## Main Results

* `serve_of_not_organizer` — only organizers change the catalog
* `no_privilege_escalation` — roles, flags and the catalog after any run of requests
* `register_integrity_iff` — when a registration that validates fails in the database
-/

namespace Ticketing.Accounts

open Transactional Rest Catalog

/-- What the API makes of an account it creates. -/
structure Unprivileged (account : Account) : Prop where
  role : account.role = .attendee
  isStaff : account.isStaff = false
  isSuperuser : account.isSuperuser = false
  emailVerified : account.emailVerified = false

/-- Only the names differ, and the time of the last change. -/
def Account.SameButNames (before after : Account) : Prop :=
  after = { before with
    firstName := after.firstName, lastName := after.lastName, updatedAt := after.updatedAt }

theorem Account.SameButNames.refl (account : Account) : account.SameButNames account := rfl

theorem Account.SameButNames.trans {first second third : Account}
    (before : first.SameButNames second) (after : second.SameButNames third) :
    first.SameButNames third := by
  unfold Account.SameButNames at *
  rw [after, before]

/-! ## Accounts -/

section Accounts

variable {platform : Platform} {table after : AccountTable}

/-- What a registration does to the table. -/
theorem register_eq_ok {input : Input} {data : RegistrationColumns Entry}
    {answer : RegistrationData}
    (registered : register platform input data table = .ok (answer, after)) :
    ∃ account, Unprivileged account ∧ account.isActive = true ∧
      table.rows.get input.uuid = none ∧ after.rows = table.rows.set input.uuid account := by
  unfold register at registered
  split at registered
  · cases registered
  · rename_i fields validated
    dsimp only at registered
    split at registered
    · cases registered
    · rename_i created made
      obtain ⟨-, rfl⟩ := Prod.mk.inj (Except.ok.inj registered)
      obtain ⟨new, rows⟩ := createUser_eq_ok made
      exact ⟨_, ⟨rfl, rfl, rfl, rfl⟩, rfl, new, rows⟩

/-- A registration that validates fails in the database when another spelling of its e-mail,
with the domain in lower case, is taken: the validator compares the text as it was sent. -/
theorem register_integrity_iff {input : Input} {data : RegistrationColumns Entry}
    {fields : RegistrationColumns Option} {email : String}
    (validated : data.validate platform table = some fields) (sent : fields.email = some email)
    (nonempty : email ≠ "") (new : table.rows.get input.uuid = none)
    (short : (normalizeEmail platform email).length ≤ 254) :
    register platform input data table = .error (.server .integrity) ↔
      ∃ other row, table.rows.get other = some row ∧
        row.email = normalizeEmail platform email := by
  have created := @AccountTable.insert_eq_error table input.uuid (newAccount platform input email
    fields.password { firstName := fields.firstName, lastName := fields.lastName }) new
  rw [email_newAccount] at created
  refine Iff.trans ?_ (created short)
  unfold register createUser
  rw [validated]
  simp only [sent, Option.getD_some, if_neg nonempty]
  split
  · rename_i error made
    simp [made]
  · rename_i made
    simp [made]

/-- What a change of a profile does to the table. -/
theorem updateProfile_eq_ok {now : Time} {id : Uuid} {account : Account}
    {data : ProfileColumns Entry} {answer : ProfileData}
    (changed : updateProfile now id account data table = .ok (answer, after)) :
    ∃ later, account.SameButNames later ∧ after.rows = table.rows.set id later := by
  unfold updateProfile at changed
  split at changed
  · cases changed
  · rename_i fields validated
    dsimp only at changed
    split at changed
    · cases changed
    · rename_i written made
      cases changed
      exact ⟨fields.write now account, rfl, AccountTable.rows_of_write made⟩

end Accounts

/-- How the API lets the accounts develop. -/
structure Evolves (before after : AccountTable) : Prop where
  kept : ∀ id account, before.rows.get id = some account →
    ∃ later, after.rows.get id = some later ∧ account.SameButNames later
  new : ∀ id account, before.rows.get id = none → after.rows.get id = some account →
    Unprivileged account

namespace Evolves

theorem refl (table : AccountTable) : Evolves table table where
  kept _ account stored := ⟨account, stored, .refl account⟩
  new _ _ absent stored := by
    rw [absent] at stored
    cases stored

theorem trans {first second third : AccountTable} (before : Evolves first second)
    (after : Evolves second third) : Evolves first third where
  kept id account stored := by
    obtain ⟨later, stored', same⟩ := before.kept id account stored
    obtain ⟨last, stored'', same'⟩ := after.kept id later stored'
    exact ⟨last, stored'', same.trans same'⟩
  new id account absent stored := by
    cases middle : second.rows.get id with
    | none => exact after.new id account middle stored
    | some early =>
        obtain ⟨last, stored', same⟩ := after.kept id early middle
        rw [stored] at stored'
        obtain rfl := Option.some.inj stored'
        have unprivileged := before.new id early absent middle
        rw [same]
        exact ⟨unprivileged.role, unprivileged.isStaff, unprivileged.isSuperuser,
          unprivileged.emailVerified⟩

/-- A new row, of somebody without privileges. -/
theorem of_new {table after : AccountTable} {id : Uuid} {account : Account}
    (unprivileged : Unprivileged account) (absent : table.rows.get id = none)
    (rows : after.rows = table.rows.set id account) : Evolves table after where
  kept other row stored := by
    have different : other ≠ id := by
      rintro rfl
      rw [absent] at stored
      cases stored
    exact ⟨row, by rw [rows, Table.get_set_of_ne _ _ different, stored], .refl row⟩
  new other row absent' stored := by
    rw [rows, Table.get_set] at stored
    split_ifs at stored with same
    · exact Option.some.inj stored ▸ unprivileged
    · rw [absent'] at stored
      cases stored

/-- Another name for a row. -/
theorem of_renamed {table after : AccountTable} {id : Uuid} {account later : Account}
    (present : table.rows.get id = some account) (same : account.SameButNames later)
    (rows : after.rows = table.rows.set id later) : Evolves table after where
  kept other row stored := by
    rw [rows, Table.get_set]
    split_ifs with isIt
    · subst isIt
      rw [present] at stored
      obtain rfl := Option.some.inj stored
      exact ⟨later, rfl, same⟩
    · exact ⟨row, stored, .refl row⟩
  new other row absent stored := by
    rw [rows, Table.get_set] at stored
    split_ifs at stored with isIt
    · rw [isIt, present] at absent
      cases absent
    · rw [absent] at stored
      cases stored

end Evolves

/-! ## The catalog -/

/-- The user is authenticated as an organizer. -/
def Organizes (user : User) : Prop := user.isAuthenticated = true ∧ user.role = .organizer

/-- `IsOrganizer` lets organizers pass and nobody else. -/
theorem isOrganizer_iff {Row : Type} {user : User} :
    (isOrganizer : Permission User Catalog.Database Row).hasPermission user = true ↔
      Organizes user := by
  have value : user.role.value = "organizer" ↔ user.role = .organizer := by
    cases user.role <;> decide
  simp only [isOrganizer, Bool.and_eq_true, beq_iff_eq, value]
  rfl

section Refused

variable {slugify : String → String} {user : User} {db : Catalog.Database}
  {input : Catalog.Input}

/-- An action for organizers refuses everybody else. -/
theorem not_allows {Row Data Fields : Type}
    {view : ViewSet User Catalog.Input Catalog.Database Uuid Row Data Fields DatabaseError}
    {action : Action} (other : ¬ Organizes user)
    (asked : (isOrganizer : Permission User Catalog.Database Row) ∈ view.getPermissions action) :
    ¬ view.Allows user action :=
  fun allows => other (isOrganizer_iff.mp (allows.1 _ asked))

/-- A viewset whose writing actions are for organizers does nothing for others. -/
theorem serve_of_organizers_only {Row Data Fields : Type}
    {view : ViewSet User Catalog.Input Catalog.Database Uuid Row Data Fields DatabaseError}
    (other : ¬ Organizes user)
    (asked : ∀ action ∈ [Action.create, .update, .partialUpdate, .destroy],
      (isOrganizer : Permission User Catalog.Database Row) ∈ view.getPermissions action)
    (call : Call Data) : view.serve user input db call = db := by
  refine (ViewSet.serve_iff (fun after => after = db) rfl).mpr fun after served => ?_
  cases call with
  | create data =>
      exact absurd (ViewSet.dispatch_create.mp served).1 (not_allows other (asked _ (by simp)))
  | update pk data =>
      exact absurd (ViewSet.change_eq_ok.mp served).1 (not_allows other (asked _ (by simp)))
  | partialUpdate pk data =>
      exact absurd (ViewSet.change_eq_ok.mp served).1 (not_allows other (asked _ (by simp)))
  | destroy pk =>
      exact absurd (ViewSet.dispatch_destroy.mp served).1 (not_allows other (asked _ (by simp)))

/-- Companies are created by organizers, and never change. -/
theorem company_serve_of_not_organizer (other : ¬ Organizes user)
    (call : Call (CompanyColumns Entry)) :
    (companyViewSet slugify).serve user input db call = db := by
  refine (ViewSet.serve_iff (fun after => after = db) rfl).mpr fun after served => ?_
  cases call with
  | create data =>
      refine absurd (ViewSet.dispatch_create.mp served).1 (not_allows other ?_)
      simp [companyViewSet]
  | update pk data =>
      obtain ⟨⟨-, refused⟩, -⟩ := ViewSet.change_eq_ok.mp served
      exact absurd refused (by simp [companyViewSet, method])
  | partialUpdate pk data =>
      obtain ⟨-, id, company, found, -⟩ := ViewSet.change_eq_ok.mp served
      exact absurd found not_finds_company
  | destroy pk =>
      obtain ⟨⟨-, refused⟩, -⟩ := ViewSet.dispatch_destroy.mp served
      exact absurd refused (by simp [companyViewSet, method])

/-- **Only organizers change the catalog.** -/
theorem serve_of_not_organizer (other : ¬ Organizes user)
    (request : Catalog.Request × Catalog.Input) : Request.serve slugify user db request = db := by
  obtain ⟨request, input⟩ := request
  cases request with
  | company call => exact company_serve_of_not_organizer other call
  | event call =>
      exact serve_of_organizers_only other (by simp [organizerEventViewSet]) call
  | tier eventId call =>
      exact serve_of_organizers_only other (by simp [ticketTierViewSet]) call

end Refused

/-! ## Runs of the API -/

/-- The user of a token, where their role is one of `roles`. -/
def holder (roles : UserRole → Bool) (table : AccountTable) (token : Option Token) : Option User :=
  ((token.bind (authenticate table)).filter fun found => roles found.2.role).map fun found =>
    found.2.user found.1

/-- What the API lets a request do to the catalog. -/
def permits (slugify : String → String) : Permits Site ApiRequest Catalog.Database :=
  fun site request =>
    match request.endpoint with
    | .catalog call =>
        (holder (· = .organizer) site.accounts request.token).map fun user db =>
          Request.serve slugify user db (call, ⟨request.input.now, request.input.uuid⟩)
    | _ => none

/-- The holders of the roles above attendee stay who they are. -/
theorem Evolves.holder_eq {before after : AccountTable} (evolves : Evolves before after)
    {roles : UserRole → Bool} (above : roles .attendee = false) (token : Option Token) :
    holder roles after token = holder roles before token := by
  cases token with
  | none => rfl
  | some token =>
      unfold holder authenticate
      simp only [Option.bind_some]
      cases stored : before.rows.get token.userId with
      | some account =>
          obtain ⟨later, stored', same⟩ := evolves.kept _ account stored
          have active : later.isActive = account.isActive := by rw [same]
          have role : later.role = account.role := by rw [same]
          rw [stored', Option.filter_some, Option.filter_some, active]
          cases account.isActive with
          | false => rfl
          | true =>
              cases passes : roles account.role with
              | false => simp [Option.filter, role, passes]
              | true => simp [Option.filter, role, passes, Account.user]
      | none =>
          cases stored' : after.rows.get token.userId with
          | none => rfl
          | some account =>
              have role := (evolves.new _ account stored stored').role
              cases active : account.isActive with
              | false => simp [active]
              | true => simp [active, Option.filter, role, above]

section Serve

variable (platform : Platform) (slugify : String → String)

/-- A request by a caller who is in the table. -/
theorem handle_evolves {caller : Option (Uuid × Account)} (site : Site)
    (present : ∀ id account, caller = some (id, account) →
      site.accounts.rows.get id = some account) (endpoint : Endpoint) (input : Input) :
    Evolves site.accounts (Site.handle platform slugify caller endpoint input site).2.accounts := by
  cases endpoint with
  | register data =>
      simp only [Site.handle]
      cases registered : register platform input data site.accounts with
      | error refusal => exact .refl _
      | ok result =>
          obtain ⟨account, unprivileged, -, absent, rows⟩ := register_eq_ok registered
          exact .of_new unprivileged absent rows
  | profile =>
      cases caller with
      | none => exact .refl _
      | some found => exact .refl _
  | updateProfile data =>
      cases caller with
      | none => exact .refl _
      | some found =>
          obtain ⟨id, account⟩ := found
          simp only [Site.handle]
          cases changed : updateProfile input.now id account data site.accounts with
          | error refusal => exact .refl _
          | ok result =>
              obtain ⟨later, same, rows⟩ := updateProfile_eq_ok changed
              exact .of_renamed (present id account rfl) same rows
  | catalog request =>
      simp only [Site.handle]
      split
      · exact .refl _
      · exact .refl _

/-- What a request by a caller does to the catalog. -/
theorem handle_catalog (caller : Option (Uuid × Account)) (endpoint : Endpoint) (input : Input)
    (site : Site) :
    (Site.handle platform slugify caller endpoint input site).2.catalog
      = match endpoint with
        | .catalog request =>
            Request.serve slugify (caller.elim anonymous fun found => found.2.user found.1)
              site.catalog (request, ⟨input.now, input.uuid⟩)
        | _ => site.catalog := by
  cases endpoint with
  | register data =>
      simp only [Site.handle]
      cases register platform input data site.accounts <;> rfl
  | profile => cases caller <;> rfl
  | updateProfile data =>
      cases caller with
      | none => rfl
      | some found =>
          simp only [Site.handle]
          cases updateProfile input.now found.1 found.2 data site.accounts <;> rfl
  | catalog request =>
      simp only [Site.handle, serve_eq_dispatchCatalog]
      cases dispatchCatalog slugify _ ⟨input.now, input.uuid⟩ site.catalog request <;> rfl

/-- The account of a token is in the table. -/
theorem present_of_authenticate {table : AccountTable} {token : Token} {id : Uuid}
    {account : Account} (known : authenticate table token = some (id, account)) :
    table.rows.get id = some account := by
  obtain ⟨found, kept, same⟩ := Option.map_eq_some_iff.mp known
  cases same
  exact (Option.filter_eq_some_iff.mp kept).1

/-- **Step lemma.**  A request lets the accounts evolve. -/
theorem serve_evolves (site : Site) (request : ApiRequest) :
    Evolves site.accounts (Site.serve platform slugify site request).2.accounts := by
  unfold Site.serve
  cases request.token with
  | none => exact handle_evolves platform slugify site (by simp) _ _
  | some token =>
      simp only
      cases known : authenticate site.accounts token with
      | none => exact .refl _
      | some found =>
          refine handle_evolves platform slugify site (fun id account same => ?_) _ _
          cases same
          exact present_of_authenticate known

/-- A request changes the catalog as the permissions say. -/
theorem serve_catalog (site : Site) (request : ApiRequest) :
    (Site.serve platform slugify site request).2.catalog
      = ((permits slugify site request).getD id) site.catalog := by
  unfold Site.serve permits
  cases request.token with
  | none =>
      simp only [handle_catalog]
      cases request.endpoint with
      | catalog call => exact serve_of_not_organizer (by simp [Organizes, anonymous]) _
      | _ => rfl
  | some token =>
      simp only
      cases known : authenticate site.accounts token with
      | none =>
          cases request.endpoint with
          | catalog call => simp [holder, known]
          | _ => rfl
      | some found =>
          simp only [handle_catalog, Option.elim_some]
          cases request.endpoint with
          | catalog call =>
              by_cases organizer : found.2.role = .organizer
              · simp [holder, known, Option.filter, organizer]
              · simp only [holder, Option.bind_some, known, Option.filter_some, organizer]
                exact serve_of_not_organizer (fun organizes => organizer organizes.2) _
          | _ => rfl

theorem run_evolves (site : Site) (requests : List ApiRequest) :
    Evolves site.accounts (Site.run platform slugify site requests).accounts := by
  unfold Site.run
  induction requests generalizing site with
  | nil => exact .refl _
  | cons request rest ih => exact (serve_evolves platform slugify site request).trans (ih _)

/-- A token goes on to stand for the account that it was issued to. -/
theorem authenticate_getToken (site : Site) (requests : List ApiRequest) {id : Uuid}
    {account : Account} (stored : site.accounts.rows.get id = some account)
    (active : account.isActive = true) :
    ∃ later, account.SameButNames later ∧
      authenticate (Site.run platform slugify site requests).accounts (getToken id account)
        = some (id, later) := by
  obtain ⟨later, stored', same⟩ := (run_evolves platform slugify site requests).kept _ _ stored
  have active' : later.isActive = true := by rw [same, active]
  exact ⟨later, same, by simp [authenticate, getToken, stored', Option.filter, active']⟩

theorem guards : Guards (fun site request => (Site.serve platform slugify site request).2)
    Site.catalog (permits slugify) where
  constant site request := by
    funext other
    unfold permits
    rw [(serve_evolves platform slugify site request).holder_eq rfl]
  acts := serve_catalog platform slugify

end Serve

end Ticketing.Accounts
