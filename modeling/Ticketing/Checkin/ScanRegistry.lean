import Ticketing.Checkout.Store
import Ticketing.Transactional.Hash

/-!
# The scan registry

`checkin/scan_registry.py`, over the Redis hash `checkin_registry`.

## Main Definitions

* `ScanRegistry` — the hash
* `isAlreadyCheckedIn`, `registerCheckin`, `getTicketIdForQr` — the functions of the module
* `Registration`, `registerAll` — a sequence of check-ins, each at an instant
* `Remembers` — the registry keeps every registration for its retention time

## Main Results

* `isAlreadyCheckedIn_registerCheckin` — what a check-in leaves to be found
* `remembers_registerAll` — any sequence of check-ins is remembered
* `scans_remembered` — the lookups, told from the sequence

## Design Notes

`register_checkin` is two commands, each with a clock reading of its own: the hash may
expire between them, and `alive_registerCheckin` says what is then left.  A `Registration`
happens at one instant, at which both commands read the clock.
-/

namespace Ticketing.Checkin

open Transactional

/-- The hash under `REGISTRY_KEY`: a ticket id for each fingerprint. -/
abbrev ScanRegistry := HashKey String String Time

/-- `REGISTRY_TTL`, in seconds. -/
def registryTtl : ℤ := 86400

/-- The clock readings of a check-in. -/
structure CheckinClock where
  /-- At `hset`. -/
  hset : Time
  /-- At `expire`. -/
  expire : Time

/-- `is_already_checked_in`. -/
def isAlreadyCheckedIn (registry : ScanRegistry) (now : Time) (qrFingerprint : String) : Bool :=
  registry.hexists now qrFingerprint

/-- `register_checkin`. -/
def registerCheckin (registry : ScanRegistry) (clock : CheckinClock)
    (qrFingerprint ticketId : String) : ScanRegistry :=
  registry.record clock.hset clock.expire (clock.expire + registryTtl * second) qrFingerprint
    ticketId

/-- `get_ticket_id_for_qr`. -/
def getTicketIdForQr (registry : ScanRegistry) (now : Time) (qrFingerprint : String) :
    Option String :=
  registry.hget now qrFingerprint

variable {registry : ScanRegistry} {clock : CheckinClock} {fingerprint ticketId : String}
  {now : Time}

/-- The registry after a check-in lasts for the retention time, unless the hash that the
field was written into expired before it was prolonged. -/
theorem alive_registerCheckin :
    (registerCheckin registry clock fingerprint ticketId).alive now = true ↔
      (registry.alive clock.hset = true → registry.alive clock.expire = true) ∧
        now < clock.expire + registryTtl * second :=
  HashKey.alive_record

/-- **What a check-in leaves.**  A fingerprint is found in the registry that lasts when it
is the one just registered or was there before. -/
theorem isAlreadyCheckedIn_registerCheckin (other : String) :
    isAlreadyCheckedIn (registerCheckin registry clock fingerprint ticketId) now other = true ↔
      (registerCheckin registry clock fingerprint ticketId).alive now = true ∧
        (other = fingerprint ∨ isAlreadyCheckedIn registry clock.hset other = true) := by
  constructor
  · intro found
    obtain ⟨ticket, present⟩ := Option.isSome_iff_exists.mp found
    have there := HashKey.alive_of_hget present
    refine ⟨there, ?_⟩
    rw [registerCheckin, HashKey.hget_record there] at present
    by_cases same : other = fingerprint
    · exact Or.inl same
    · rw [if_neg same] at present
      exact Or.inr (Option.isSome_iff_exists.mpr ⟨ticket, present⟩)
  · rintro ⟨there, kept⟩
    rw [isAlreadyCheckedIn, HashKey.hexists, registerCheckin, HashKey.hget_record there]
    by_cases same : other = fingerprint
    · rw [if_pos same]
      rfl
    · rw [if_neg same]
      exact kept.resolve_left same

/-! ## Sequences of check-ins -/

/-- A call of `register_checkin` at an instant. -/
structure Registration where
  qrFingerprint : String
  ticketId : String
  time : Time

/-- The registry after one more registration. -/
def Registration.enter (registry : ScanRegistry) (registration : Registration) : ScanRegistry :=
  registerCheckin registry ⟨registration.time, registration.time⟩ registration.qrFingerprint
    registration.ticketId

/-- The registry after a sequence of registrations. -/
def registerAll (registrations : List Registration) : ScanRegistry :=
  registrations.foldl Registration.enter none

/-- The ticket id of the latest registration of a fingerprint. -/
def latestTicketId (registrations : List Registration) (qrFingerprint : String) :
    Option String :=
  (registrations.filter (·.qrFingerprint = qrFingerprint)).getLast?.map Registration.ticketId

theorem latestTicketId_concat (registrations : List Registration) (last : Registration)
    (qrFingerprint : String) :
    latestTicketId (registrations ++ [last]) qrFingerprint
      = if qrFingerprint = last.qrFingerprint then some last.ticketId
        else latestTicketId registrations qrFingerprint := by
  unfold latestTicketId
  rw [List.filter_append]
  by_cases same : qrFingerprint = last.qrFingerprint
  · simp [same]
  · simp [same, Ne.symm same]

theorem isSome_latestTicketId {registrations : List Registration} {registration : Registration}
    (inside : registration ∈ registrations) :
    (latestTicketId registrations registration.qrFingerprint).isSome := by
  have kept : registration ∈ registrations.filter
      (·.qrFingerprint = registration.qrFingerprint) := by
    simpa using inside
  rw [latestTicketId, Option.isSome_map, List.getLast?_isSome]
  exact List.ne_nil_of_mem kept

/-- From its last registration on, the registry has every fingerprint that was registered
less than the retention time ago, with the ticket id of its latest registration, and no
fingerprint that was not registered. -/
structure Remembers (registry : ScanRegistry) (registrations : List Registration) : Prop where
  kept : ∀ registration ∈ registrations, ∀ now, (∀ other ∈ registrations, other.time ≤ now) →
    now < registration.time + registryTtl * second →
    getTicketIdForQr registry now registration.qrFingerprint
      = latestTicketId registrations registration.qrFingerprint
  unknown : ∀ qrFingerprint,
    (∀ registration ∈ registrations, registration.qrFingerprint ≠ qrFingerprint) →
    ∀ now, getTicketIdForQr registry now qrFingerprint = none

namespace Remembers

theorem start : Remembers none [] where
  kept := nofun
  unknown _ _ _ := rfl

variable {registrations : List Registration} {last : Registration}

/-- The fields of the registry while the last registration lasts. -/
theorem getTicketIdForQr_enter (lasts : now < last.time + registryTtl * second)
    (qrFingerprint : String) :
    getTicketIdForQr (last.enter registry) now qrFingerprint
      = if qrFingerprint = last.qrFingerprint then some last.ticketId
        else getTicketIdForQr registry last.time qrFingerprint :=
  HashKey.hget_record (alive_registerCheckin.mpr ⟨id, lasts⟩) qrFingerprint

/-- **One more registration is remembered with the others**: it prolongs the hash that has
them, and where the hash has gone so has their retention time. -/
theorem enter (remembers : Remembers registry registrations)
    (latest : ∀ registration ∈ registrations, registration.time ≤ last.time) :
    Remembers (last.enter registry) (registrations ++ [last]) where
  kept registration inside now past recent := by
    have pastLast : last.time ≤ now :=
      past last (List.mem_append_right _ (List.mem_singleton_self last))
    have order : registration.time ≤ last.time := by
      rcases List.mem_append.mp inside with before | isLast
      · exact latest registration before
      · exact (List.mem_singleton.mp isLast ▸ le_rfl)
    have lasts : now < last.time + registryTtl * second :=
      recent.trans_le (add_le_add_left order _)
    rw [getTicketIdForQr_enter lasts, latestTicketId_concat]
    by_cases same : registration.qrFingerprint = last.qrFingerprint
    · rw [if_pos same, if_pos same]
    · rw [if_neg same, if_neg same]
      rcases List.mem_append.mp inside with before | isLast
      · exact remembers.kept registration before last.time latest (pastLast.trans_lt recent)
      · exact absurd (congrArg _ (List.mem_singleton.mp isLast)) same
  unknown qrFingerprint absent now := by
    have notLast : qrFingerprint ≠ last.qrFingerprint :=
      (absent last (List.mem_append_right _ (List.mem_singleton_self last))).symm
    have before := remembers.unknown qrFingerprint fun registration inside =>
      absent registration (List.mem_append_left _ inside)
    rw [Option.eq_none_iff_forall_ne_some]
    intro ticketId found
    have lasts := (alive_registerCheckin.mp (HashKey.alive_of_hget found)).2
    rw [getTicketIdForQr_enter lasts, if_neg notLast, before] at found
    cases found

end Remembers

/-- **After any sequence of registrations** at non-decreasing times they are remembered. -/
theorem remembers_registerAll {registrations : List Registration}
    (sorted : registrations.Pairwise fun first second => first.time ≤ second.time) :
    Remembers (registerAll registrations) registrations := by
  induction registrations using List.reverseRecOn with
  | nil => exact Remembers.start
  | append_singleton registrations last ih =>
      obtain ⟨sortedBefore, -, latest⟩ := List.pairwise_append.mp sorted
      rw [registerAll, List.foldl_concat]
      exact (ih sortedBefore).enter fun registration inside =>
        latest registration inside last (List.mem_singleton_self last)

/-- **A scan is remembered for the retention time.**  After any registrations at
non-decreasing times, and at any later instant, a fingerprint registered less than
`REGISTRY_TTL` ago is reported as checked in, and resolves to the ticket id of its latest
registration; a fingerprint that was never registered is not reported. -/
theorem scans_remembered (registrations : List Registration)
    (sorted : registrations.Pairwise fun first second => first.time ≤ second.time) (now : Time)
    (past : ∀ registration ∈ registrations, registration.time ≤ now) :
    (∀ registration ∈ registrations, now < registration.time + registryTtl * second →
      isAlreadyCheckedIn (registerAll registrations) now registration.qrFingerprint = true ∧
        getTicketIdForQr (registerAll registrations) now registration.qrFingerprint
          = latestTicketId registrations registration.qrFingerprint) ∧
    ∀ qrFingerprint,
      (∀ registration ∈ registrations, registration.qrFingerprint ≠ qrFingerprint) →
        isAlreadyCheckedIn (registerAll registrations) now qrFingerprint = false := by
  have remembers := remembers_registerAll sorted
  constructor
  · intro registration inside recent
    have found := remembers.kept registration inside now past recent
    refine ⟨?_, found⟩
    show (getTicketIdForQr _ now _).isSome = true
    rw [found]
    exact isSome_latestTicketId inside
  · intro qrFingerprint absent
    show (getTicketIdForQr _ now _).isSome = false
    rw [remembers.unknown qrFingerprint absent]
    rfl

namespace Sample

/-- One ticket is scanned, another one twelve hours later. -/
def registrations : List Registration :=
  [⟨"QR-1", "ticket-1", 0⟩, ⟨"QR-2", "ticket-2", 43200 * second⟩]

end Sample

theorem scans_remembered_sample :
    isAlreadyCheckedIn (registerAll Sample.registrations) (86399 * second) "QR-1" = true :=
  ((scans_remembered Sample.registrations (by decide) (86399 * second) (by decide)).1
    ⟨"QR-1", "ticket-1", 0⟩ List.mem_cons_self (by decide)).1

end Ticketing.Checkin
