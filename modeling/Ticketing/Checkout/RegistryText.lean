import Ticketing.Checkout.Registry
import Ticketing.Python.Json
import Ticketing.Python.Datetime

/-!
# The texts of the hold registry

The text that `register_hold` of `checkout/hold_registry.py` writes for an entry,
and the entry that `get_hold` reads from it.

## Main Definitions

* `HoldEntry.json`, `HoldEntry.ofJson` — `to_dict` and `from_dict` over JSON values
* `HoldEntry.text`, `HoldEntry.ofText` — an entry as the text in Redis, and back
* `HoldEntry.Storable` — the entries Python can hold and print

## Main Results

* `stored_hold_read_back` — an entry that has been written is read back

## Design Notes

`from_dict` does not look at the types of the fields; a dict whose fields have
other types than `to_dict` gives them has no entry here.
-/

namespace Ticketing

/-- A value of `to_dict`, as JSON. -/
def JsonValue.json : JsonValue → Value
  | .string text => .str text
  | .number value => .int value
  | .isoformat instant => .str (Datetime.isoformat instant)

namespace HoldEntry

/-- The dict of `to_dict`. -/
def json (entry : HoldEntry) : Value :=
  .dict (entry.toDict.map fun field => (field.1, field.2.json))

/-- `data[key]`; a missing key raises `KeyError`. -/
def field (data : Value) (key : String) : Option Value :=
  match data with
  | .dict entries => entries.lookup key
  | _ => none

/-- A field that holds a string. -/
def textField (data : Value) (key : String) : Option String :=
  match field data key with
  | some (.str text) => some text
  | _ => none

/-- A field that holds an int. -/
def intField (data : Value) (key : String) : Option ℤ :=
  match field data key with
  | some (.int value) => some value
  | _ => none

/-- `from_dict` on what `json.loads` returns; `none` where it raises. -/
def ofJson (data : Value) : Option HoldEntry := do
  let tierId ← textField data "tier_id"
  let quantity ← intField data "quantity"
  let expiresAt ← (textField data "expires_at").bind Datetime.fromisoformat
  let userId ← textField data "user_id"
  return { tierId, quantity, expiresAt, userId }

/-- The text of an entry in Redis: `json.dumps(entry.to_dict())`. -/
def text (entry : HoldEntry) : String := String.ofList (Json.dumps entry.json)

/-- The entry of a text: `HoldEntry.from_dict(json.loads(data))`. -/
def ofText (repr : String → String) (text : String) : Option HoldEntry :=
  (Json.loads repr text).bind ofJson

/-- The expiry is a datetime, and the quantity is not too long for `str`. -/
structure Storable (entry : HoldEntry) : Prop where
  expiresAt : Datetime.InRange entry.expiresAt
  quantity : (Nat.toDigits 10 entry.quantity.natAbs).length ≤ Json.maxDigits

theorem printable_json (repr : String → String) {entry : HoldEntry}
    (storable : entry.Storable) : Json.Printable repr entry.json := by
  refine .dict _ ?_ ?_
  · simp [toDict]
  · simp only [toDict, List.map_cons, List.map_nil, List.forall_mem_cons]
    exact ⟨.str _, .int _ storable.quantity, .str _, .str _, by simp⟩

theorem ofJson_json {entry : HoldEntry} (storable : entry.Storable) :
    ofJson entry.json = some entry := by
  have readBack := Datetime.fromisoformat_isoformat storable.expiresAt
  simp [ofJson, json, toDict, JsonValue.json, textField, intField, field, List.lookup, readBack]

theorem ofText_text (repr : String → String) {entry : HoldEntry} (storable : entry.Storable) :
    ofText repr entry.text = some entry := by
  unfold ofText text
  rw [Json.loads_dumps (printable_json repr storable), Option.bind_some, ofJson_json storable]

end HoldEntry

/-- **An entry that has been written is read back.**  The text `register_hold` writes for an
entry is read as that entry, whatever its ids are made of, and no other entry has that text. -/
theorem stored_hold_read_back (repr : String → String) {entry : HoldEntry}
    (storable : entry.Storable) :
    HoldEntry.ofText repr entry.text = some entry ∧
      ∀ other : HoldEntry, other.Storable → other.text = entry.text → other = entry := by
  have readBack := HoldEntry.ofText_text repr storable
  refine ⟨readBack, fun other otherStorable same => ?_⟩
  have readOther := HoldEntry.ofText_text repr otherStorable
  rw [same, readBack] at readOther
  exact (Option.some.inj readOther).symm

/-- An entry of 2026, for a tier whose id is no UUID. -/
theorem stored_hold_read_back_sample :
    HoldEntry.ofText id
        (HoldEntry.text ⟨"tier \"7\"\n", 2, 1790000000123456, "usér"⟩)
      = some ⟨"tier \"7\"\n", 2, 1790000000123456, "usér"⟩ ∧
      ∀ other : HoldEntry, other.Storable →
        other.text = HoldEntry.text ⟨"tier \"7\"\n", 2, 1790000000123456, "usér"⟩ →
        other = ⟨"tier \"7\"\n", 2, 1790000000123456, "usér"⟩ :=
  stored_hold_read_back id
    { expiresAt := by decide
      quantity := by decide }

end Ticketing
