import Ticketing.Transactional.Program

/-!
# Viewsets

A resource served over REST: which objects a user may look up, which permissions
an action asks for, which fields of a request are written.

## Main Definitions

* `Permission`, `ViewSet` — what an application declares
* `Entry` — what a serializer field makes of one field of the request data
* `Call` — a request that writes
* `ViewSet.dispatch` — the framework's way from a request to the changed store
* `ViewSet.serve` — the store after a request
* `ViewSet.listed`, `ViewSet.object` — the objects of a list, and the object of a detail action

## Main Results

* `dispatch_create`, `change_eq_ok`, `dispatch_destroy` — when a request changes the store,
  and how
* `serve_iff` — a request keeps what serving it keeps

## Design Notes

The framework contributes the order of the checks: permissions of the view, the
method, the lookup in the queryset with the permissions of the object, the
validation, and the write.  A request that fails anywhere changes nothing.
-/

namespace Rest

open Transactional

/-- The actions of a model viewset. -/
inductive Action
  | list
  | retrieve
  | create
  | update
  | partialUpdate
  | destroy
  deriving DecidableEq

/-- A permission class; a method that is not overridden lets everybody pass. -/
structure Permission (User Store Row : Type) where
  message : Option String := none
  hasPermission : User → Bool := fun _ => true
  hasObjectPermission : Store → User → Row → Bool := fun _ _ _ => true

/-- What the framework answers instead of serving a request. -/
inductive Refusal (Error : Type)
  /-- 401. -/
  | notAuthenticated
  /-- 403, with the message of the permission. -/
  | permissionDenied (message : Option String)
  /-- 405. -/
  | methodNotAllowed
  /-- 404. -/
  | notFound
  /-- 400: the request data do not validate. -/
  | invalid
  /-- 500: an exception of the application or of its store. -/
  | server (error : Error)

/-! ## Serializer fields -/

/-- What a serializer field finds in the request data. -/
inductive Entry (α : Type)
  /-- The data have no such field. -/
  | missing
  /-- The field cannot read what it finds: the wrong type, a text that is no date. -/
  | unreadable
  /-- The value it reads. -/
  | given (value : α)

/-- The validated value of a field; a field that is not required may be missing. -/
def Entry.validate {α : Type} (required : Bool) (valid : α → Bool) : Entry α → Option (Option α)
  | .missing => if required then none else some none
  | .unreadable => none
  | .given value => if valid value then some (some value) else none

/-- A required field has a value once the data have been validated. -/
theorem Entry.validate_required {α : Type} {valid : α → Bool} {entry : Entry α} {value : Option α}
    (validated : entry.validate true valid = some value) :
    ∃ found, value = some found ∧ valid found = true := by
  cases entry with
  | missing => cases validated
  | unreadable => cases validated
  | given found =>
      simp only [validate] at validated
      split at validated
      · rename_i passes
        cases validated
        exact ⟨found, rfl, passes⟩
      · cases validated

/-! ## Requests -/

/-- A request that writes; `pk` is the text that names the object in the path. -/
inductive Call (Data : Type)
  | create (data : Data)
  | update (pk : String) (data : Data)
  | partialUpdate (pk : String) (data : Data)
  | destroy (pk : String)

/-- A viewset: what it overrides, and what its serializers and its model do. -/
structure ViewSet (User Input Store Key Row Data Fields Error : Type) where
  /-- What the primary key's field reads in a text. -/
  parseKey : String → Option Key
  isAuthenticated : User → Bool
  /-- The method of the action is one of `http_method_names`. -/
  methods : Action → Bool := fun _ => true
  getPermissions : Action → List (Permission User Store Row)
  /-- The objects that the user may look up. -/
  getQueryset : Store → User → Except Error (Key → Option Row)
  /-- `serializer.is_valid`, with the validated data. -/
  validate : Action → Store → Data → Option Fields
  performCreate : User → Input → Fields → Store → Except Error Store
  performUpdate : Key → Row → Fields → Store → Except Error Store
  performDestroy : Key → Store → Except Error Store

namespace ViewSet

variable {User Input Store Key Row Data Fields Error : Type}
  (view : ViewSet User Input Store Key Row Data Fields Error)

/-- `permission_denied`. -/
def denied (user : User) (permission : Permission User Store Row) : Refusal Error :=
  if view.isAuthenticated user then .permissionDenied permission.message else .notAuthenticated

/-- The checks in front of every handler: `check_permissions`, then the method. -/
def initial (user : User) (action : Action) : Except (Refusal Error) Unit :=
  match (view.getPermissions action).find? fun permission => !permission.hasPermission user with
  | some permission => .error (view.denied user permission)
  | none => if view.methods action then .ok () else .error .methodNotAllowed

/-- `get_object`: the lookup in the queryset, then `check_object_permissions`. -/
def getObject (user : User) (action : Action) (pk : String) (store : Store) :
    Except (Refusal Error) (Key × Row) := do
  let rows ← (view.getQueryset store user).mapError .server
  match (view.parseKey pk).bind fun key => (rows key).map (key, ·) with
  | none => .error .notFound
  | some (key, row) =>
      match (view.getPermissions action).find? fun permission =>
          !permission.hasObjectPermission store user row with
      | some permission => .error (view.denied user permission)
      | none => .ok (key, row)

/-- `serializer.is_valid(raise_exception=True)`. -/
def validated (action : Action) (store : Store) (data : Data) : Except (Refusal Error) Fields :=
  (view.validate action store data).elim (.error .invalid) .ok

/-- `update` and `partial_update`. -/
def change (action : Action) (user : User) (pk : String) (data : Data) (store : Store) :
    Except (Refusal Error) Store := do
  view.initial user action
  let (key, row) ← view.getObject user action pk store
  let fields ← view.validated action store data
  (view.performUpdate key row fields store).mapError .server

/-- A request, from its arrival to the changed store. -/
def dispatch (user : User) (input : Input) (store : Store) :
    Call Data → Except (Refusal Error) Store
  | .create data => do
      view.initial user .create
      let fields ← view.validated .create store data
      (view.performCreate user input fields store).mapError .server
  | .update pk data => view.change .update user pk data store
  | .partialUpdate pk data => view.change .partialUpdate user pk data store
  | .destroy pk => do
      view.initial user .destroy
      let (key, _) ← view.getObject user .destroy pk store
      (view.performDestroy key store).mapError .server

/-- The objects of a `list`. -/
def listed (user : User) (store : Store) : Except (Refusal Error) (Key → Option Row) := do
  view.initial user .list
  (view.getQueryset store user).mapError .server

/-- An action on one object, as far as the object. -/
def object (action : Action) (user : User) (pk : String) (store : Store) :
    Except (Refusal Error) (Key × Row) := do
  view.initial user action
  view.getObject user action pk store

/-- The store after a request; one that is refused changes nothing. -/
def serve (user : User) (input : Input) (store : Store) (call : Call Data) : Store :=
  (view.dispatch user input store call).toOption.getD store

/-! ## What a request does -/

/-- The permissions of the view and the method let an action pass. -/
def Allows (user : User) (action : Action) : Prop :=
  (∀ permission ∈ view.getPermissions action, permission.hasPermission user = true) ∧
    view.methods action = true

/-- `get_object` finds the object `key`. -/
structure Finds (user : User) (action : Action) (pk : String) (store : Store) (key : Key)
    (row : Row) : Prop where
  parsed : view.parseKey pk = some key
  visible : ∃ rows, view.getQueryset store user = .ok rows ∧ rows key = some row
  permitted : ∀ permission ∈ view.getPermissions action,
    permission.hasObjectPermission store user row = true

variable {view} {user : User} {input : Input} {action : Action} {pk : String} {data : Data}
  {store after : Store} {key : Key} {row : Row} {fields : Fields}

theorem initial_eq_ok {done : Unit} :
    view.initial user action = .ok done ↔ view.Allows user action := by
  unfold initial Allows
  cases search : (view.getPermissions action).find? fun permission =>
      !permission.hasPermission user with
  | some permission =>
      constructor
      · exact nofun
      · rintro ⟨all, -⟩
        have fails := List.find?_some search
        rw [all permission (List.mem_of_find?_eq_some search)] at fails
        cases fails
  | none =>
      have all : ∀ permission ∈ view.getPermissions action,
          permission.hasPermission user = true := by
        simpa using List.find?_eq_none.mp search
      cases view.methods action with
      | false => simp
      | true => simpa using all

theorem getObject_eq_ok :
    view.getObject user action pk store = .ok (key, row) ↔
      view.Finds user action pk store key row := by
  unfold getObject
  simp only [bind_eq_ok, mapError_eq_ok]
  constructor
  · rintro ⟨rows, queried, found⟩
    split at found
    · cases found
    · rename_i key' row' named
      obtain ⟨key'', parsed, named⟩ := Option.bind_eq_some_iff.mp named
      obtain ⟨row'', stored, same⟩ := Option.map_eq_some_iff.mp named
      split at found
      · cases found
      · rename_i permitted
        cases same
        cases found
        refine ⟨parsed, ⟨rows, queried, stored⟩, ?_⟩
        simpa using List.find?_eq_none.mp permitted
  · rintro ⟨parsed, ⟨rows, queried, stored⟩, permitted⟩
    refine ⟨rows, queried, ?_⟩
    have none : (view.getPermissions action).find? (fun permission =>
        !permission.hasObjectPermission store user row) = none := by
      rw [List.find?_eq_none]
      simpa using permitted
    simp [parsed, stored, none]

theorem listed_eq_ok {rows : Key → Option Row} :
    view.listed user store = .ok rows ↔
      view.Allows user .list ∧ view.getQueryset store user = .ok rows := by
  simp only [listed, bind_eq_ok, mapError_eq_ok, initial_eq_ok, exists_const]

theorem object_eq_ok :
    view.object action user pk store = .ok (key, row) ↔
      view.Allows user action ∧ view.Finds user action pk store key row := by
  simp only [object, bind_eq_ok, initial_eq_ok, getObject_eq_ok, exists_const]

/-- Where the permissions let everybody pass, an object is what the queryset has. -/
theorem object_of_allows (allows : view.Allows user action)
    (everybody : ∀ permission ∈ view.getPermissions action, ∀ row,
      permission.hasObjectPermission store user row = true) :
    view.object action user pk store
      = ((view.getQueryset store user).mapError .server).bind fun rows =>
          ((view.parseKey pk).bind fun key => (rows key).map (key, ·)).elim
            (.error .notFound) .ok := by
  have passed : view.initial user action = .ok () := initial_eq_ok.mpr allows
  unfold object getObject
  rw [passed]
  show Except.bind ((view.getQueryset store user).mapError Refusal.server) _ = _
  refine congrArg (Except.bind _) (funext fun rows => ?_)
  cases (view.parseKey pk).bind fun key => (rows key).map (key, ·) with
  | none => rfl
  | some found =>
      obtain ⟨key, row⟩ := found
      have none : (view.getPermissions action).find? (fun permission =>
          !permission.hasObjectPermission store user row) = none := by
        rw [List.find?_eq_none]
        intro permission asked
        simp [everybody permission asked row]
      simp [none]

theorem validated_eq_ok :
    view.validated action store data = .ok fields ↔
      view.validate action store data = some fields := by
  unfold validated
  cases view.validate action store data <;> simp

/-- A `create` writes what the validated data say. -/
theorem dispatch_create :
    view.dispatch user input store (.create data) = .ok after ↔
      view.Allows user .create ∧ ∃ fields, view.validate .create store data = some fields ∧
        view.performCreate user input fields store = .ok after := by
  simp only [dispatch, bind_eq_ok, mapError_eq_ok, initial_eq_ok, validated_eq_ok, exists_const]

theorem change_eq_ok :
    view.change action user pk data store = .ok after ↔
      view.Allows user action ∧ ∃ key row, view.Finds user action pk store key row ∧
        ∃ fields, view.validate action store data = some fields ∧
          view.performUpdate key row fields store = .ok after := by
  simp only [change, bind_eq_ok, mapError_eq_ok, initial_eq_ok, validated_eq_ok, Prod.exists,
    getObject_eq_ok, exists_const]

/-- A `destroy` deletes an object that the user can look up. -/
theorem dispatch_destroy :
    view.dispatch user input store (.destroy pk) = .ok after ↔
      view.Allows user .destroy ∧ ∃ key row, view.Finds user .destroy pk store key row ∧
        view.performDestroy key store = .ok after := by
  simp only [dispatch, bind_eq_ok, mapError_eq_ok, initial_eq_ok, Prod.exists,
    getObject_eq_ok, exists_const]

/-- What holds of the store is kept by a request when it is kept by serving it. -/
theorem serve_iff (keeps : Store → Prop) (start : keeps store) {call : Call Data} :
    keeps (view.serve user input store call) ↔
      ∀ after, view.dispatch user input store call = .ok after → keeps after := by
  unfold serve
  cases view.dispatch user input store call with
  | error refusal =>
      constructor
      · exact nofun
      · intro _
        exact start
  | ok after =>
      constructor
      · rintro kept _ ⟨⟩
        exact kept
      · intro served
        exact served after rfl

end ViewSet

end Rest
