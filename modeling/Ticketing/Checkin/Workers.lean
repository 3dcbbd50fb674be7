import Ticketing.Checkin.BloomGuard
import Ticketing.Checkin.ScanRegistry

/-!
# Check-in workers

The worker processes of the check-in service: each has the filter `_scan_bloom` of its
own, and all share the scan registry.

## Main Definitions

* `Event` — a process starts, or a process serves a confirmed check-in
* `CheckinService` — the filters of the processes, and the registry
* `CheckinService.after` — the service after a history of events
* `InRegistry`, `markedSince` — what a history leaves in the registry, and in a filter

## Main Results

* `isAlreadyCheckedIn_iff`, `mightBeScanned_iff` — the two lookups, told from the history
* `negative_definite_iff` — when a negative answer of a filter is definite
* `negative_definite_of_one` — it is where one process serves everything

## Design Notes

A history has its latest event first.  A check-in is `register_checkin` and then
`mark_scanned`, in the process that served the scan.  A process that starts makes a new
filter; nothing in the code fills it from the registry.
-/

namespace Ticketing.Checkin

open Transactional

variable {ι : Type} [DecidableEq ι]

/-- An event of the service. -/
inductive Event (ι : Type)
  /-- A process starts. -/
  | start (process : ι)
  /-- A process serves a confirmed check-in. -/
  | checkIn (process : ι) (qrFingerprint ticketId : String) (clock : CheckinClock)

/-- `_scan_bloom`, as a process makes it. -/
def scanBloom : BloomFilter := BloomFilter.new 200000 5

/-- The filters of the processes, and the registry they share. -/
structure CheckinService (ι : Type) where
  filters : ι → BloomFilter
  registry : ScanRegistry

namespace CheckinService

/-- New filters and no registry. -/
def initial : CheckinService ι where
  filters := fun _ => scanBloom
  registry := none

section Digest

variable (digest : String → ℕ)

/-- `might_be_scanned`, in a process. -/
def mightBeScanned (service : CheckinService ι) (process : ι) (qrFingerprint : String) : Bool :=
  (service.filters process).contains digest qrFingerprint

/-- `mark_scanned`, in a process. -/
def markScanned (service : CheckinService ι) (process : ι) (qrFingerprint : String) :
    CheckinService ι :=
  { service with
    filters := Function.update service.filters process
      ((service.filters process).add digest qrFingerprint) }

/-- The service after one more event. -/
def handle (service : CheckinService ι) : Event ι → CheckinService ι
  | .start process =>
      { service with filters := Function.update service.filters process scanBloom }
  | .checkIn process qrFingerprint ticketId clock =>
      markScanned digest
        { service with registry := registerCheckin service.registry clock qrFingerprint ticketId }
        process qrFingerprint

/-- The service after a history, the latest event first. -/
def after : List (Event ι) → CheckinService ι
  | [] => initial
  | event :: earlier => (after earlier).handle digest event

end Digest

end CheckinService

open CheckinService

/-- Every event is a check-in that `process` serves. -/
def ServedBy (process : ι) (history : List (Event ι)) : Prop :=
  ∀ event ∈ history, ∃ fingerprint ticketId clock,
    event = .checkIn process fingerprint ticketId clock

/-! ## What a history leaves -/

/-- The registry of a history has not expired. -/
def RegistryLasts : List (Event ι) → Time → Prop
  | [], _ => False
  | .start _ :: earlier, now => RegistryLasts earlier now
  | .checkIn _ _ _ clock :: earlier, now =>
      (RegistryLasts earlier clock.hset → RegistryLasts earlier clock.expire) ∧
        now < clock.expire + registryTtl * second

/-- The registry of a history has a fingerprint: it was checked in, and the registry has
not expired since. -/
def InRegistry (fingerprint : String) : List (Event ι) → Time → Prop
  | [], _ => False
  | .start _ :: earlier, now => InRegistry fingerprint earlier now
  | event@(.checkIn _ registered _ clock) :: earlier, now =>
      RegistryLasts (event :: earlier) now ∧
        (fingerprint = registered ∨ InRegistry fingerprint earlier clock.hset)

/-- The fingerprints that a process has marked since it last started. -/
def markedSince (process : ι) : List (Event ι) → List String
  | [] => []
  | .start started :: earlier => if started = process then [] else markedSince process earlier
  | .checkIn server fingerprint _ _ :: earlier =>
      if server = process then markedSince process earlier ++ [fingerprint]
      else markedSince process earlier

variable (digest : String → ℕ)

theorem alive_after (history : List (Event ι)) (now : Time) :
    (after digest history).registry.alive now = true ↔ RegistryLasts history now := by
  induction history generalizing now with
  | nil => exact iff_of_false Bool.false_ne_true id
  | cons event earlier ih =>
      cases event with
      | start process => exact ih now
      | checkIn process fingerprint ticketId clock =>
          -- what the HSET finds alive may end before the EXPIRE, which sets the end anew
          show (registerCheckin _ _ _ _).alive now = true ↔ _
          rw [alive_registerCheckin, ih, ih]
          rfl

/-- The registry holds the fingerprints that the history says. -/
theorem isAlreadyCheckedIn_iff (history : List (Event ι)) (now : Time) (fingerprint : String) :
    isAlreadyCheckedIn (after digest history).registry now fingerprint = true ↔
      InRegistry fingerprint history now := by
  induction history generalizing now with
  | nil => exact iff_of_false Bool.false_ne_true id
  | cons event earlier ih =>
      cases event with
      | start process => exact ih now
      | checkIn process registered ticketId clock =>
          have lasts := alive_after digest (.checkIn process registered ticketId clock :: earlier)
            now
          show isAlreadyCheckedIn (registerCheckin _ _ _ _) now fingerprint = true ↔ _
          rw [isAlreadyCheckedIn_registerCheckin, ih]
          exact and_congr_left' lasts

/-- The filter of a process holds what the process has marked since it last started. -/
theorem filters_after (history : List (Event ι)) (process : ι) :
    (after digest history).filters process
      = scanBloom.addAll digest (markedSince process history) := by
  induction history with
  | nil => rfl
  | cons event earlier ih =>
      cases event with
      | start started =>
          show Function.update (after digest earlier).filters started scanBloom process = _
          by_cases same : started = process
          · subst same
            rw [Function.update_self, markedSince, if_pos rfl]
            rfl
          · rw [Function.update_of_ne (Ne.symm same), ih, markedSince, if_neg same]
      | checkIn server fingerprint ticketId clock =>
          show Function.update (after digest earlier).filters server _ process = _
          by_cases same : server = process
          · subst same
            rw [Function.update_self, markedSince, if_pos rfl, BloomFilter.addAll_append, ← ih]
          · rw [Function.update_of_ne (Ne.symm same), ih, markedSince, if_neg same]

/-- A filter answers positively when each position is one of a fingerprint marked since
the process last started. -/
theorem mightBeScanned_iff (history : List (Event ι)) (process : ι) (fingerprint : String) :
    (after digest history).mightBeScanned digest process fingerprint = true ↔
      scanBloom.Covers digest (markedSince process history) fingerprint := by
  rw [mightBeScanned, filters_after]
  exact BloomFilter.contains_addAll (by decide) _ _

/-- **Negative answers.**  After a history, the negative answers of all filters are
definite exactly when each process has marked, since it last started, fingerprints that
cover the positions of every fingerprint in the registry. -/
theorem negative_definite_iff (history : List (Event ι)) (now : Time) :
    (∀ process fingerprint,
      (after digest history).mightBeScanned digest process fingerprint = false →
        isAlreadyCheckedIn (after digest history).registry now fingerprint = false) ↔
      ∀ process fingerprint, InRegistry fingerprint history now →
        scanBloom.Covers digest (markedSince process history) fingerprint := by
  refine forall₂_congr fun process fingerprint => ?_
  rw [← mightBeScanned_iff, ← isAlreadyCheckedIn_iff digest]
  cases (after digest history).mightBeScanned digest process fingerprint with
  | true => exact iff_of_true nofun fun _ => rfl
  | false => simp

/-- A process that serves everything has marked what is in the registry. -/
theorem mem_markedSince_of_inRegistry {process : ι} {history : List (Event ι)}
    (served : ServedBy process history) {fingerprint : String} {now : Time}
    (registered : InRegistry fingerprint history now) :
    fingerprint ∈ markedSince process history := by
  induction history generalizing now with
  | nil => exact registered.elim
  | cons event earlier ih =>
      obtain ⟨⟨latest, ticketId, clock, rfl⟩, servedEarlier⟩ := List.forall_mem_cons.mp served
      rw [markedSince, if_pos rfl]
      rcases registered.2 with rfl | before
      · exact List.mem_concat_self
      · exact List.mem_append_left _ (ih servedEarlier before)

/-- **One process.**  Where one process serves every check-in and is never started again,
its negative answers are definite. -/
theorem negative_definite_of_one {process : ι} {history : List (Event ι)}
    (served : ServedBy process history) (now : Time) (fingerprint : String)
    (negative : (after digest history).mightBeScanned digest process fingerprint = false) :
    isAlreadyCheckedIn (after digest history).registry now fingerprint = false := by
  by_contra found
  rw [Bool.not_eq_false, isAlreadyCheckedIn_iff] at found
  have covered : scanBloom.Covers digest (markedSince process history) fingerprint :=
    BloomFilter.covers_of_mem (mem_markedSince_of_inRegistry served found)
  rw [← mightBeScanned_iff, negative] at covered
  exact Bool.false_ne_true covered

namespace Sample

/-- The first eight digits of the SHA-256 of the texts that `_hashes` makes of `QR-1`. -/
def sha256 (text : String) : ℕ :=
  match text with
  | "0:QR-1" => 3943952585
  | "1:QR-1" => 2815243555
  | "2:QR-1" => 3332259817
  | "3:QR-1" => 1340242681
  | "4:QR-1" => 769781506
  | _ => 0

/-- The first of two processes checks `QR-1` in. -/
def history : List (Event Bool) := [.checkIn false "QR-1" "ticket-1" ⟨0, 0⟩]

end Sample

/-- The second process answers that `QR-1` is not scanned, and it is checked in. -/
theorem negative_not_definite :
    (after Sample.sha256 Sample.history).mightBeScanned Sample.sha256 true "QR-1" = false ∧
      isAlreadyCheckedIn (after Sample.sha256 Sample.history).registry second "QR-1" = true := by
  constructor
  · rw [← Bool.not_eq_true, mightBeScanned_iff]
    intro covered
    obtain ⟨marked, inside, -⟩ := covered _ List.mem_cons_self
    exact List.not_mem_nil inside
  · rw [isAlreadyCheckedIn_iff]
    exact ⟨⟨False.elim, by decide⟩, Or.inl rfl⟩

end Ticketing.Checkin
