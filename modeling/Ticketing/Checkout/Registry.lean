import Ticketing.Checkout.Runs
import Ticketing.Transactional.Cache

/-!
# The hold registry

The registry is a read cache of the hold table: `get_hold` answers from Redis
what the row of the hold says.  Entries go in three places of the code, or when
their TTL runs out.

## Main Definitions

* `HoldEntry.toDict`, `HoldEntry.fromDict` — the encoding of an entry
* `getHold` — `get_hold`
* `Registered` — the registry holds one agreeing entry for each ACTIVE hold

## Main Results

* `serialJobs_registered` — the invariant holds after any sequence of calls
* `registry_agrees` — `get_hold` never contradicts the hold table

## Design Notes

`json.dumps` and `json.loads` are inverse to each other, and so are `isoformat`
and `fromisoformat`: a decoded object is a list of named values, and the text of
an instant is the instant.
-/

namespace Ticketing

open Transactional Program

/-! ## Entries -/

/-- A value of a decoded JSON object. -/
inductive JsonValue
  | string (text : String)
  | number (value : ℤ)
  /-- The text `isoformat` makes of an instant. -/
  | isoformat (instant : Time)
  deriving DecidableEq

/-- A decoded JSON object: its keys with their values. -/
abbrev JsonObject := List (String × JsonValue)

namespace HoldEntry

/-- `HoldEntry.to_dict`. -/
def toDict (entry : HoldEntry) : JsonObject :=
  [("tier_id", .string entry.tierId), ("quantity", .number entry.quantity),
    ("expires_at", .isoformat entry.expiresAt), ("user_id", .string entry.userId)]

/-- `HoldEntry.from_dict`; `none` where a key is missing or its value has another type. -/
def fromDict (data : JsonObject) : Option HoldEntry :=
  match data.lookup "tier_id", data.lookup "quantity", data.lookup "expires_at",
      data.lookup "user_id" with
  | some (.string tierId), some (.number quantity), some (.isoformat expiresAt),
      some (.string userId) => some { tierId, quantity, expiresAt, userId }
  | _, _, _, _ => none

/-- **Decoding inverts encoding**, field by field. -/
@[simp] theorem fromDict_toDict (entry : HoldEntry) : fromDict entry.toDict = some entry := rfl

end HoldEntry

/-- `get_hold`, called at `now`. -/
def getHold (redis : Redis) (now : Time) (holdToken : String) : Option HoldEntry :=
  (Cache.live redis.registry now holdToken).bind fun entry => HoldEntry.fromDict entry.toDict

theorem getHold_eq_some {redis : Redis} {now : Time} {holdToken : String} {entry : HoldEntry} :
    getHold redis now holdToken = some entry ↔
      ∃ dies, redis.registry holdToken = some (entry, dies) ∧ now < dies := by
  have decoded : getHold redis now holdToken = Cache.live redis.registry now holdToken := by
    simp only [getHold, HoldEntry.fromDict_toDict]
    exact Option.bind_fun_some _
  rw [decoded, Cache.live_eq_some]

/-- The entry that agrees with a row. -/
def CheckoutHold.entry (hold : CheckoutHold) : HoldEntry where
  tierId := hold.tierId.str
  quantity := hold.quantity
  expiresAt := hold.expiresAt
  userId := hold.user.str

/-! ## The invariant -/

/-- Every entry agrees with an ACTIVE hold, and every ACTIVE hold has an entry
that outlives it. -/
structure Registered (world : World) : Prop where
  agrees : ∀ token entry dies, world.redis.registry token.str = some (entry, dies) →
    ∃ hold, world.db.holds.get token = some hold ∧ hold.status = .active ∧ entry = hold.entry
  present : ∀ token hold, world.db.holds.get token = some hold → hold.status = .active →
    ∃ dies, world.redis.registry token.str = some (hold.entry, dies) ∧ hold.expiresAt < dies

namespace Registered

/-- No entries, and no holds. -/
theorem start {world : World} (noHolds : world.db.holds = .empty)
    (noEntries : ∀ text, world.redis.registry text = none) : Registered world where
  agrees token entry dies found := by
    rw [noEntries] at found
    cases found
  present token hold stored := by
    rw [noHolds] at stored
    cases stored

/-- A new hold comes with its entry. -/
theorem place {world after : World} {token : Uuid} {hold : CheckoutHold}
    (registered : Registered world) (active : hold.status = .active) (dies : Time)
    (outlives : hold.expiresAt < dies) (holds : after.db.holds = world.db.holds.set token hold)
    (registry : after.redis.registry
      = Function.update world.redis.registry token.str (some (hold.entry, dies))) :
    Registered after where
  agrees other entry dies' found := by
    rw [registry] at found
    rw [holds, Table.get_set]
    by_cases same : other = token
    · subst same
      rw [Function.update_self] at found
      have same := congrArg Prod.fst (Option.some.inj found)
      exact ⟨hold, if_pos rfl, active, same.symm⟩
    · have different : other.str ≠ token.str := fun text => same (Uuid.str_injective text)
      rw [Function.update_of_ne different] at found
      rw [if_neg same]
      exact registered.agrees other entry dies' found
  present other row stored live := by
    rw [holds, Table.get_set] at stored
    rw [registry]
    by_cases same : other = token
    · subst same
      rw [if_pos rfl] at stored
      obtain rfl := Option.some.inj stored
      refine ⟨dies, ?_, outlives⟩
      rw [Function.update_self]
    · have different : other.str ≠ token.str := fun text => same (Uuid.str_injective text)
      rw [if_neg same] at stored
      rw [Function.update_of_ne different]
      exact registered.present other row stored live

/-- Holds that end lose their entries, and the others keep theirs. -/
theorem drop {world after : World} (registered : Registered world) (ended : Uuid → Prop)
    [DecidablePred ended]
    (registry : ∀ token, after.redis.registry token.str
      = if ended token then none else world.redis.registry token.str)
    (kept : ∀ token, ¬ ended token → after.db.holds.get token = world.db.holds.get token)
    (inactive : ∀ token hold, ended token → after.db.holds.get token = some hold →
      hold.status ≠ .active) : Registered after where
  agrees token entry dies found := by
    rw [registry] at found
    split at found
    · cases found
    · rename_i remains
      rw [kept token remains]
      exact registered.agrees token entry dies found
  present token hold stored live := by
    by_cases ends : ended token
    · exact absurd live (inactive token hold ends stored)
    · rw [kept token ends] at stored
      rw [registry, if_neg ends]
      exact registered.present token hold stored live

end Registered

/-! ## Canonical spelling -/

/-- The text is spelled as `str(uuid)` spells the identifier it names. -/
def Canonical (text : String) : Prop := ∀ id, Uuid.parse text = some id → text = id.str

/-- The identifiers of a request are in canonical spelling. -/
def Request.IsCanonical : Request → Prop
  | .createHold _ tierId _ => Canonical tierId
  | .releaseHoldByToken holdToken => Canonical holdToken
  | .releaseHoldOnPaymentTimeout holdToken => Canonical holdToken

/-- The identifiers of a job are in canonical spelling. -/
def Job.IsCanonical : Job → Prop
  | .request issued => issued.IsCanonical
  | .sweepExpiredHolds => True

/-! ## Sequences of calls -/

/-- A release takes the entry of the hold it ends. -/
theorem Registered.release {due : CheckoutHold → Prop} {holdToken : String} {world : World}
    {result : Outcome CheckoutError Unit × World} {written : List ℤ} (registered : Registered world)
    (spec : ReleaseResult due holdToken world result written) (canonical : Canonical holdToken) :
    Registered result.2 := by
  cases spec with
  | raised error => exact registered
  | ignored => exact registered
  | overdrawn => exact registered
  | @released token hold tier held parsed stored active present current =>
      obtain rfl := canonical token parsed
      refine registered.drop (fun other => other = token) ?_ ?_ ?_
      · intro other
        simp only [Redis.dropped, Function.update_apply, Uuid.str_injective.eq_iff]
      · intro other different
        exact Table.get_set_of_ne _ _ different
      · rintro other hold' rfl ends isActive
        cases (Table.get_set_self ..).symm.trans ends
        cases isActive

/-- The sweep takes the entries of the holds it expires. -/
theorem Registered.sweep {inputs : ℕ → Input} {world : World} {tokens : List Uuid} {redis : Redis}
    (registered : Registered world) (queued : Queued world)
    (same : redis.registry = world.redis.registry) :
    let rows := batch inputs world tokens
    Registered ⟨⟨restore rows world.db.tiers, expire rows world.db.holds⟩, redis.swept rows⟩ := by
  intro rows
  have ready : Ready rows world.db := queued.ready_batch
  obtain ⟨inside, outside⟩ := get_expire rows world.db.holds ready.nodup
  refine registered.drop (fun token => token ∈ rows.map SweepRow.token) ?_ outside ?_
  · intro token
    have texts : token.str ∈ rows.map (·.token.str) ↔ token ∈ rows.map SweepRow.token := by
      rw [← List.mem_map_of_injective Uuid.str_injective, List.map_map]
      rfl
    rw [Redis.swept_registry, same]
    simp only [texts]
  · intro token hold listed stored
    obtain ⟨row, found, rfl⟩ := List.mem_map.mp listed
    obtain rfl := Option.some.inj ((inside row found).symm.trans stored)
    nofun

/-- A complete call keeps the invariant. -/
theorem Registered.job {world : World} (registered : Registered world) (queued : Queued world)
    (job : Job) (inputs : ℕ → Input) (clock : Monotone fun n => (inputs n).now)
    (canonical : job.IsCanonical) :
    Registered (job.program.run store none inputs none world).2 := by
  match job with
  | .request (.createHold user tierId quantity) =>
      have spec := createHold_run user tierId quantity inputs world
      simp only [Runs] at spec
      rw [Job.program, Request.program, run_discard]
      generalize ran : (createHold user tierId quantity).run store none inputs none world = result
        at spec ⊢
      generalize heldUpdates (createHold user tierId quantity) inputs world = written at spec
      cases spec with
      | raised error => exact registered
      | @placed id token tier hold dies parsed present belowCap fits quantityEq userEq tierEq active
          absent =>
          obtain ⟨-, -, entry, placed⟩ := createHold_times ran
          simp only [Redis.placed, Function.update_self, Option.some.injEq, Prod.mk.injEq] at placed
          have agrees : HoldEntry.mk tierId quantity hold.expiresAt user.str = hold.entry := by
            rw [CheckoutHold.entry, canonical id parsed, tierEq, userEq, quantityEq]
          refine registered.place active dies ?_ rfl ?_
          · rw [placed.2]
            exact lt_entryDies (clock (by decide))
          · simp only [Redis.placed, agrees]
  | .request (.releaseHoldByToken holdToken) =>
      exact registered.release (@releaseHoldByToken_run (fun _ => True) holdToken inputs world)
        canonical
  | .request (.releaseHoldOnPaymentTimeout holdToken) =>
      exact registered.release (releaseHoldOnPaymentTimeout_run holdToken inputs world) canonical
  | .sweepExpiredHolds =>
      obtain ⟨tokens, due⟩ := queued.exists_tokens (inputs 0).now
      rw [Job.program, run_discard,
        sweepExpiredHolds_complete inputs world tokens due queued.ready_batch]
      exact registered.sweep queued rfl

/-- **After any sequence of calls the registry agrees with the hold table.** -/
theorem serialJobs_registered (jobs : List (Job × (ℕ → Input))) {world : World}
    (registered : Registered world) (queued : Queued world)
    (epoch : ∀ job ∈ jobs, ∀ n, 0 ≤ (job.2 n).now)
    (clock : ∀ job ∈ jobs, Monotone fun n => (job.2 n).now)
    (canonical : ∀ job ∈ jobs, job.1.IsCanonical) : Registered (serialJobs jobs world) := by
  induction jobs generalizing world with
  | nil => exact registered
  | cons head rest ih =>
      have first : head ∈ head :: rest := List.mem_cons_self
      have later {job : Job × (ℕ → Input)} (found : job ∈ rest) : job ∈ head :: rest :=
        List.mem_cons_of_mem head found
      exact ih (registered.job queued head.1 head.2 (clock head first) (canonical head first))
        (queued.job head.1 head.2 (epoch head first)) (fun job found => epoch job (later found))
        (fun job found => clock job (later found)) fun job found => canonical job (later found)

/-- **The registry never contradicts the database.**  After any sequence of
complete calls that starts with empty stores, whatever `get_hold` returns for a
hold is its row, and the hold is ACTIVE; for an ACTIVE hold it returns an entry
at least until the hold expires.  `epoch` says that the clock reads times at or after
1970, as a sweep asks Redis for the scores from 0 on. -/
theorem registry_agrees (jobs : List (Job × (ℕ → Input))) (start : World)
    (noHolds : start.db.holds = .empty) (noMembers : start.redis.expiryZset = .empty)
    (noEntries : ∀ text, start.redis.registry text = none)
    (epoch : ∀ job ∈ jobs, ∀ n, 0 ≤ (job.2 n).now)
    (clock : ∀ job ∈ jobs, Monotone fun n => (job.2 n).now)
    (canonical : ∀ job ∈ jobs, job.1.IsCanonical) (now : Time) (token : Uuid) (hold : CheckoutHold)
    (stored : (serialJobs jobs start).db.holds.get token = some hold) :
    (∀ entry, getHold (serialJobs jobs start).redis now token.str = some entry →
      hold.status = .active ∧ entry.tierId = hold.tierId.str ∧ entry.quantity = hold.quantity ∧
        entry.expiresAt = hold.expiresAt ∧ entry.userId = hold.user.str) ∧
    (hold.status = .active → now ≤ hold.expiresAt →
      (getHold (serialJobs jobs start).redis now token.str).isSome) := by
  have registered : Registered (serialJobs jobs start) :=
    serialJobs_registered jobs (.start noHolds noEntries) (.start noHolds noMembers) epoch clock
      canonical
  constructor
  · intro entry found
    obtain ⟨dies, kept, -⟩ := getHold_eq_some.mp found
    obtain ⟨row, there, active, same⟩ := registered.agrees token entry dies kept
    obtain rfl := Option.some.inj (stored.symm.trans there)
    rw [same]
    exact ⟨active, rfl, rfl, rfl, rfl⟩
  · intro active early
    obtain ⟨dies, kept, outlives⟩ := registered.present token hold stored active
    have found := getHold_eq_some.mpr ⟨dies, kept, lt_of_le_of_lt early outlives⟩
    rw [found, Option.isSome_some]

theorem registry_agrees_sample :
    (getHold (serialJobs Sample.jobs Sample.opening).redis holdDuration
      (Sample.id 8).str).isSome := by
  have stored : (serialJobs Sample.jobs Sample.opening).db.holds.get (Sample.id 8)
      = some ⟨Sample.id 5, Sample.id 1, 3, .active, holdDuration + 2⟩ := by
    decide +kernel
  refine (registry_agrees Sample.jobs Sample.opening rfl rfl (fun _ => rfl) ?_ ?_ ?_ holdDuration
    (Sample.id 8) _ stored).2 rfl (by decide)
  all_goals
    intro job found
    simp only [Sample.jobs, List.mem_cons, List.not_mem_nil, or_false] at found
  · rcases found with rfl | rfl | rfl <;> exact fun n => Int.natCast_nonneg n
  · rcases found with rfl | rfl | rfl <;> exact fun m n order => Int.ofNat_le.mpr order
  · rcases found with rfl | rfl | rfl
    all_goals
      intro id parsed
      rw [Uuid.parse_str] at parsed
      rw [Option.some.inj parsed]

end Ticketing
