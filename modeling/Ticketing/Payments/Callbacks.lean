import Ticketing.Payments.Mpesa
import Ticketing.Collections.OrderedDict

/-!
# STK callbacks of any shape

A callback arrives from outside and may be any JSON object.  This module reads off the object
what `parse_stk_callback` should say of it, and compares.

## Main Definitions

* `member`, `callbackObject` — walking down an object; a missing part counts as an empty one
* `ReportsZero` — the result code is the number 0
* `lastValue` — the value of the last item with a name
* `SoundOn` — the parser returns, and what it returns is right
* `Readable`, `Regular` — the shapes it can cope with

## Main Results

* `metadataItems_eq` — the dict comprehension, item by item
* `sound_iff` — the parser is sound on exactly the regular callbacks

## Design Notes

`0`, `0.0` and `-0.0` are spellings of one JSON number.  Items with equal names are read in
the order of the list; names that are not texts name nothing the parser asks for.
-/

namespace Ticketing

namespace Value

/-- The value is the number 0, in one of its spellings. -/
def isNumberZero : Value → Bool
  | int value => value = 0
  | float text => text = "0.0" || text = "-0.0"
  | _ => false

end Value

namespace Payments

open Transactional Collections

/-- A decoded JSON object. -/
abbrev Object := List (String × Value)

/-! ## Reading the object -/

/-- The object under `key`, empty where there is none; `none` where something else is there. -/
def member (object : Object) (key : String) : Option Object :=
  match object.lookup key with
  | none => some []
  | some (.dict inner) => some inner
  | some _ => none

/-- `Body.stkCallback`. -/
def callbackObject (callbackData : Object) : Option Object :=
  (member callbackData "Body").bind (member · "stkCallback")

/-- `Body.stkCallback.ResultCode` is the number 0. -/
def ReportsZero (callbackData : Object) : Prop :=
  ∃ callback code, callbackObject callbackData = some callback ∧
    callback.lookup "ResultCode" = some code ∧ code.isNumberZero = true

/-- The name of an item. -/
def itemName : Value → Value
  | .dict entries => (entries.lookup "Name").getD .none
  | _ => .none

/-- The value of an item, null where it has none. -/
def itemValue : Value → Value
  | .dict entries => (entries.lookup "Value").getD .none
  | _ => .none

/-- The value of the last item with a name, null where there is no such item. -/
def lastValue (items : List Value) (name : String) : Value :=
  ((items.reverse.find? fun item => named name (itemName item)).map itemValue).getD .none

/-- The items of a list; anything else has none. -/
def listed : Option Value → List Value
  | some (.list items) => items
  | _ => []

/-- `CallbackMetadata.Item`. -/
def callbackItems (callback : Object) : List Value :=
  listed ((member callback "CallbackMetadata").bind fun metadata => metadata.lookup "Item")

/-- The parser reports success. -/
def StkCallback.isSuccess : StkCallback → Bool
  | failure .. => false
  | success .. => true

/-- Success carries the values of the last items with their names. -/
def Carries (items : List Value) : StkCallback → Prop
  | .failure .. => True
  | .success _ amount receiptNumber phone transactionDate =>
      amount = lastValue items "Amount" ∧
        receiptNumber = lastValue items "MpesaReceiptNumber" ∧
        phone = lastValue items "PhoneNumber" ∧
        transactionDate = lastValue items "TransactionDate"

/-- Two callbacks that differ in the order of their items at most, whose names differ. -/
inductive Reordered (callbackData callbackData' : Object) : Prop
  | intro {callback callback' metadata metadata' : Object} {items items' : List Value}
      (body : callbackObject callbackData = some callback)
      (body' : callbackObject callbackData' = some callback')
      (others : ∀ key, key ≠ "CallbackMetadata" → callback'.lookup key = callback.lookup key)
      (found : callback.lookup "CallbackMetadata" = some (.dict metadata))
      (found' : callback'.lookup "CallbackMetadata" = some (.dict metadata'))
      (listed : metadata.lookup "Item" = some (.list items))
      (listed' : metadata'.lookup "Item" = some (.list items'))
      (perm : items.Perm items')
      (distinct : items.Pairwise fun first second => ∀ name,
        ¬ (named name (itemName first) = true ∧ named name (itemName second) = true))

/-- The parser returns; it reports success where the result code is the number 0 and nowhere
else; success carries the values of the last items, and their order makes no difference. -/
def SoundOn (callbackData : Object) : Prop :=
  ∃ result, parseStkCallback (.dict callbackData) = .ok result ∧
    (result.isSuccess = true ↔ ReportsZero callbackData) ∧
    (∀ callback, callbackObject callbackData = some callback →
      Carries (callbackItems callback) result) ∧
    ∀ callbackData', Reordered callbackData callbackData' →
      parseStkCallback (.dict callbackData') = .ok result

/-! ## The shapes the parser can cope with -/

/-- An object with a name that can be a key of a dict. -/
def Named (item : Value) : Prop :=
  ∃ entries name, item = .dict entries ∧ entries.lookup "Name" = some name ∧ name.hashable = true

/-- Nothing, a list of named objects, or an empty text or object. -/
def Readable : Option Value → Prop
  | none => True
  | some (.list items) => ∀ item ∈ items, Named item
  | some (.str text) => text = ""
  | some (.dict entries) => entries = []
  | some _ => False

/-- A callback whose parts are objects or missing, whose result code is not `false`, and whose
items can be read where the result code is 0. -/
def Regular (callbackData : Object) : Prop :=
  ∃ callback, callbackObject callbackData = some callback ∧
    callback.lookup "ResultCode" ≠ some (.bool false) ∧
    (ReportsZero callbackData →
      ∃ metadata, member callback "CallbackMetadata" = some metadata ∧
        Readable (metadata.lookup "Item"))

/-! ## The steps of the parser -/

theorem get_eq_member {object : Object} {key : String} {inner : Object} :
    (Value.dict object).get key (.dict []) = .ok (.dict inner) ↔
      member object key = some inner := by
  simp only [Value.get, member]
  cases object.lookup key with
  | none => simp
  | some found => cases found <;> simp

/-- The parser finds its body where the object has one. -/
theorem stkBody_eq {callbackData callback : Object} :
    stkBody (.dict callbackData) = .ok (.dict callback) ↔
      callbackObject callbackData = some callback := by
  unfold stkBody callbackObject
  rw [bind_eq_ok, Option.bind_eq_some_iff]
  constructor
  · rintro ⟨body, first, second⟩
    cases body with
    | dict inner => exact ⟨inner, get_eq_member.mp first, get_eq_member.mp second⟩
    | _ => cases second
  · rintro ⟨inner, first, second⟩
    exact ⟨.dict inner, get_eq_member.mpr first, get_eq_member.mpr second⟩

/-- A zero among Python's values is the number or `False`. -/
theorem isZero_iff (code : Value) :
    code.isZero = true ↔ code.isNumberZero = true ∨ code = .bool false := by
  cases code with
  | bool value => cases value <;> simp [Value.isZero, Value.isNumberZero]
  | _ => simp [Value.isZero, Value.isNumberZero]

/-- The entry of a named item. -/
theorem metadataEntry_ok {item : Value} {entry : Value × Value} :
    metadataEntry item = .ok entry ↔ Named item ∧ entry = (itemName item, itemValue item) := by
  unfold metadataEntry Named
  constructor
  · intro read
    obtain ⟨name, first, read⟩ := bind_eq_ok.mp read
    cases item with
    | dict entries =>
        cases present : entries.lookup "Name" with
        | none => simp [Value.item, present] at first
        | some found =>
            simp only [Value.item, present, Except.ok.injEq] at first
            subst first
            obtain ⟨value, second, read⟩ := bind_eq_ok.mp read
            rw [mapError_eq_ok] at second
            simp only [Value.get, Except.ok.injEq] at second
            subst second
            split at read
            · rename_i hashable
              cases read
              refine ⟨⟨entries, found, rfl, present, hashable⟩, ?_⟩
              simp [itemName, itemValue, present]
            · cases read
    | _ => cases first
  · rintro ⟨⟨entries, name, rfl, present, hashable⟩, rfl⟩
    simp only [Value.item, present, itemName, itemValue, Option.getD_some]
    show (if name.hashable = true then _ else _) = _
    rw [if_pos hashable]
    rfl

/-- The dict comprehension reads named items, one after the other. -/
theorem mapM_metadataEntry {items : List Value} {read : List (Value × Value)} :
    items.mapM metadataEntry = .ok read ↔
      (∀ item ∈ items, Named item) ∧
        read = items.map fun item => (itemName item, itemValue item) := by
  induction items generalizing read with
  | nil =>
      rw [List.mapM_nil]
      constructor
      · rintro ⟨⟩
        exact ⟨nofun, rfl⟩
      · rintro ⟨-, rfl⟩
        rfl
  | cons item rest ih =>
      rw [List.mapM_cons, bind_eq_ok]
      constructor
      · rintro ⟨entry, first, second⟩
        obtain ⟨entries, later, ⟨⟩⟩ := bind_eq_ok.mp second
        obtain ⟨isNamed, rfl⟩ := metadataEntry_ok.mp first
        obtain ⟨areNamed, rfl⟩ := ih.mp later
        exact ⟨List.forall_mem_cons.mpr ⟨isNamed, areNamed⟩, rfl⟩
      · rintro ⟨areNamed, rfl⟩
        obtain ⟨isNamed, areNamed⟩ := List.forall_mem_cons.mp areNamed
        exact ⟨_, metadataEntry_ok.mpr ⟨isNamed, rfl⟩,
          bind_eq_ok.mpr ⟨_, ih.mpr ⟨areNamed, rfl⟩, rfl⟩⟩

/-- The last entry under a name comes from the last item with it. -/
theorem metadataValue_map (items : List Value) (name : String) :
    metadataValue (items.map fun item => (itemName item, itemValue item)) name
      = lastValue items name := by
  rw [metadataValue, lastValue, ← List.map_reverse, List.find?_map, Option.map_map]
  rfl

/-- What can be iterated over, as far as its items are named. -/
theorem readable_iff {found : Option Value} {items : List Value} :
    ((found.getD (.list [])).iterate = .ok items ∧ ∀ item ∈ items, Named item) ↔
      Readable found ∧ items = listed found := by
  have text_not_named {text : String} : ¬ Named (.str text) := by
    rintro ⟨entries, name, ⟨⟩, -⟩
  cases found with
  | none =>
      constructor
      · rintro ⟨⟨⟩, -⟩
        exact ⟨trivial, rfl⟩
      · rintro ⟨-, rfl⟩
        exact ⟨rfl, nofun⟩
  | some value =>
      rw [Option.getD_some]
      cases value with
      | list items =>
          constructor
          · rintro ⟨⟨⟩, named⟩
            exact ⟨named, rfl⟩
          · rintro ⟨named, rfl⟩
            exact ⟨rfl, named⟩
      | str text =>
          constructor
          · rintro ⟨⟨⟩, named⟩
            -- each letter of the text would have to be a named item
            have empty : text.toList = [] := List.eq_nil_iff_forall_not_mem.mpr
              fun letter inside => text_not_named (named _ (List.mem_map_of_mem inside))
            exact ⟨String.toList_injective empty, by rw [empty]; rfl⟩
          · rintro ⟨rfl, rfl⟩
            exact ⟨rfl, nofun⟩
      | dict entries =>
          constructor
          · rintro ⟨⟨⟩, named⟩
            have empty : entries = [] := List.eq_nil_iff_forall_not_mem.mpr
              fun entry inside => text_not_named (named _ (List.mem_map_of_mem inside))
            exact ⟨empty, by rw [empty]; rfl⟩
          · rintro ⟨rfl, rfl⟩
            exact ⟨rfl, nofun⟩
      | _ => exact iff_of_false (fun both => nomatch both.1) (fun both => both.1)

/-- **The dict comprehension** reads the items of readable metadata, and no others. -/
theorem metadataItems_eq {callback : Object} {read : List (Value × Value)} :
    metadataItems (.dict callback) = .ok read ↔
      ∃ metadata, member callback "CallbackMetadata" = some metadata ∧
        Readable (metadata.lookup "Item") ∧
        read = (callbackItems callback).map fun item => (itemName item, itemValue item) := by
  have listing {metadata : Object} (found : member callback "CallbackMetadata" = some metadata) :
      callbackItems callback = listed (metadata.lookup "Item") := by
    rw [callbackItems, found, Option.bind_some]
  unfold metadataItems
  rw [bind_eq_ok]
  constructor
  · rintro ⟨metadata, first, rest⟩
    obtain ⟨item, second, rest⟩ := bind_eq_ok.mp rest
    obtain ⟨items, third, last⟩ := bind_eq_ok.mp rest
    rw [mapError_eq_ok] at first second third
    cases metadata with
    | dict inner =>
        cases second
        obtain ⟨named, rfl⟩ := mapM_metadataEntry.mp last
        obtain ⟨readable, rfl⟩ := readable_iff.mp ⟨third, named⟩
        have found := get_eq_member.mp first
        exact ⟨inner, found, readable, by rw [listing found]⟩
    | _ => cases second
  · rintro ⟨metadata, found, readable, rfl⟩
    rw [listing found]
    obtain ⟨iterated, named⟩ := readable_iff.mpr ⟨readable, rfl⟩
    refine ⟨.dict metadata, mapError_eq_ok.mpr (get_eq_member.mpr found), bind_eq_ok.mpr
      ⟨_, mapError_eq_ok.mpr rfl, bind_eq_ok.mpr ⟨_, mapError_eq_ok.mpr iterated, ?_⟩⟩⟩
    exact mapM_metadataEntry.mpr ⟨named, rfl⟩

/-! ## What it returns -/

/-- The result of a callback that reports a payment. -/
def successOf (callback : Object) : StkCallback :=
  .success ((callback.lookup "CheckoutRequestID").getD (.str ""))
    (lastValue (callbackItems callback) "Amount")
    (lastValue (callbackItems callback) "MpesaReceiptNumber")
    (lastValue (callbackItems callback) "PhoneNumber")
    (lastValue (callbackItems callback) "TransactionDate")

/-- The result of any other callback. -/
def failureOf (callback : Object) : StkCallback :=
  .failure ((callback.lookup "CheckoutRequestID").getD (.str ""))
    ((callback.lookup "ResultCode").getD .none) ((callback.lookup "ResultDesc").getD (.str ""))

/-- **What the parser returns**, where it returns. -/
theorem parseStkCallback_ok {callbackData : Object} {result : StkCallback} :
    parseStkCallback (.dict callbackData) = .ok result ↔
      ∃ callback, callbackObject callbackData = some callback ∧
        if ((callback.lookup "ResultCode").getD .none).isZero = true then
          (∃ metadata, member callback "CallbackMetadata" = some metadata ∧
            Readable (metadata.lookup "Item")) ∧ result = successOf callback
        else result = failureOf callback := by
  by_cases shape : ∃ callback, stkBody (.dict callbackData) = .ok (.dict callback)
  · obtain ⟨callback, body⟩ := shape
    have found := stkBody_eq.mp body
    rw [parseStkCallback_of_body body]
    simp only [found, Option.some.injEq, exists_eq_left']
    split
    · rw [map_eq_ok]
      constructor
      · rintro ⟨read, isRead, rfl⟩
        obtain ⟨metadata, there, readable, rfl⟩ := metadataItems_eq.mp isRead
        exact ⟨⟨metadata, there, readable⟩, by simp only [metadataValue_map, successOf]⟩
      · rintro ⟨⟨metadata, there, readable⟩, rfl⟩
        refine ⟨_, metadataItems_eq.mpr ⟨metadata, there, readable, rfl⟩, ?_⟩
        simp only [metadataValue_map, successOf]
    · rw [Except.ok.injEq, eq_comm]
      rfl
  · obtain ⟨error, raised⟩ := parseStkCallback_of_no_body (not_exists.mp shape)
    rw [raised]
    refine iff_of_false nofun ?_
    rintro ⟨callback, found, -⟩
    exact shape ⟨callback, stkBody_eq.mpr found⟩

/-- Of items with distinct names the last one under a name is the only one. -/
theorem lastValue_perm {items items' : List Value} (perm : items.Perm items')
    (distinct : items.Pairwise fun first second => ∀ name,
      ¬ (named name (itemName first) = true ∧ named name (itemName second) = true))
    (name : String) : lastValue items' name = lastValue items name := by
  have unique : ∀ first ∈ items, ∀ second ∈ items, named name (itemName first) = true →
      named name (itemName second) = true → first = second := by
    intro first inside second inside' isFirst isSecond
    by_contra different
    have : Std.Symm fun first second : Value => ∀ name,
        ¬ (named name (itemName first) = true ∧ named name (itemName second) = true) :=
      ⟨fun _ _ apart name both => apart name both.symm⟩
    exact distinct.forall inside inside' different name ⟨isFirst, isSecond⟩
  have same : (items'.reverse.find? fun item => named name (itemName item))
      = items.reverse.find? fun item => named name (itemName item) := by
    refine Option.ext fun found => ?_
    rw [find?_eq_some_iff_of_unique (by simpa [perm.mem_iff] using unique),
      find?_eq_some_iff_of_unique (by simpa using unique), List.mem_reverse, List.mem_reverse,
      perm.mem_iff]
  rw [lastValue, lastValue, same]

/-- **The order of the items makes no difference** to what the parser returns. -/
theorem parseStkCallback_reordered {callbackData callbackData' : Object} {result : StkCallback}
    (reordered : Reordered callbackData callbackData')
    (parsed : parseStkCallback (.dict callbackData) = .ok result) :
    parseStkCallback (.dict callbackData') = .ok result := by
  rcases reordered with @⟨callback, callback', metadata, metadata', items, items', body, body',
    others, found, found', isList, isList', perm, distinct⟩
  obtain ⟨_, there, parsed⟩ := parseStkCallback_ok.mp parsed
  obtain rfl := Option.some.inj (body.symm.trans there)
  rw [parseStkCallback_ok]
  refine ⟨callback', body', ?_⟩
  rw [others "ResultCode" (by decide)]
  split
  · rename_i zero
    rw [if_pos zero] at parsed
    obtain ⟨⟨metadata, isMetadata, readable⟩, rfl⟩ := parsed
    simp only [member, found, Option.some.injEq] at isMetadata
    subst isMetadata
    rw [isList] at readable
    refine ⟨⟨metadata', by simp only [member, found'], ?_⟩, ?_⟩
    · rw [isList']
      exact fun item inside => readable item (perm.mem_iff.mpr inside)
    · have items {callback metadata : Object} {items : List Value}
          (found : callback.lookup "CallbackMetadata" = some (.dict metadata))
          (isList : metadata.lookup "Item" = some (.list items)) :
          callbackItems callback = items := by
        simp only [callbackItems, member, found, Option.bind_some, isList, listed]
      simp only [successOf, items found isList, items found' isList',
        lastValue_perm perm distinct, others "CheckoutRequestID" (by decide)]
  · rename_i notZero
    rw [if_neg notZero] at parsed
    rw [parsed, failureOf, failureOf, others "CheckoutRequestID" (by decide),
      others "ResultCode" (by decide), others "ResultDesc" (by decide)]

/-- **Soundness of the parser.**  For every callback, the parser returns, reports success where
the result code is the number 0 and nowhere else, and passes on the values of the last items in
whatever order, if and only if the callback is regular. -/
theorem sound_iff (callbackData : Object) : SoundOn callbackData ↔ Regular callbackData := by
  constructor
  · rintro ⟨result, parsed, success, -, -⟩
    obtain ⟨callback, body, parsed⟩ := parseStkCallback_ok.mp parsed
    have zero {code : Value} (isCode : callback.lookup "ResultCode" = some code)
        (isZero : code.isZero = true) : (∃ metadata, member callback "CallbackMetadata"
          = some metadata ∧ Readable (metadata.lookup "Item")) ∧ result = successOf callback := by
      rwa [isCode, Option.getD_some, if_pos isZero] at parsed
    refine ⟨callback, body, fun isFalse => ?_, ?_⟩
    · -- `False == 0`: success is reported
      obtain ⟨-, rfl⟩ := zero isFalse rfl
      obtain ⟨callback', code, body', isCode, isNumber⟩ := success.mp rfl
      obtain rfl := Option.some.inj (body.symm.trans body')
      obtain rfl := Option.some.inj (isFalse.symm.trans isCode)
      cases isNumber
    · rintro ⟨callback', code, body', isCode, isNumber⟩
      obtain rfl := Option.some.inj (body.symm.trans body')
      exact (zero isCode ((isZero_iff code).mpr (.inl isNumber))).1
  · rintro ⟨callback, body, notFalse, readable⟩
    have reports : ((callback.lookup "ResultCode").getD .none).isZero = true ↔
        ReportsZero callbackData := by
      constructor
      · intro zero
        cases isCode : callback.lookup "ResultCode" with
        | none => simp [isCode, Value.isZero] at zero
        | some code =>
            rw [isCode, Option.getD_some, isZero_iff] at zero
            rw [isCode] at notFalse
            exact ⟨callback, code, body, isCode,
              zero.resolve_right fun isFalse => notFalse (congrArg some isFalse)⟩
      · rintro ⟨callback', code, body', isCode, isNumber⟩
        obtain rfl := Option.some.inj (body.symm.trans body')
        rw [isCode, Option.getD_some, isZero_iff]
        exact .inl isNumber
    by_cases zero : ((callback.lookup "ResultCode").getD .none).isZero = true
    · have parsed : parseStkCallback (.dict callbackData) = .ok (successOf callback) :=
        parseStkCallback_ok.mpr ⟨callback, body, by
          rw [if_pos zero]
          exact ⟨readable (reports.mp zero), rfl⟩⟩
      refine ⟨_, parsed, iff_of_true rfl (reports.mp zero), fun callback' body' => ?_,
        fun _ reordered => parseStkCallback_reordered reordered parsed⟩
      obtain rfl := Option.some.inj (body.symm.trans body')
      exact ⟨rfl, rfl, rfl, rfl⟩
    · have parsed : parseStkCallback (.dict callbackData) = .ok (failureOf callback) :=
        parseStkCallback_ok.mpr ⟨callback, body, by rw [if_neg zero]⟩
      exact ⟨_, parsed, iff_of_false Bool.false_ne_true fun isZero => zero (reports.mpr isZero),
        fun _ _ => trivial, fun _ reordered => parseStkCallback_reordered reordered parsed⟩

namespace Sample

/-- A callback whose result code is `false`. -/
def falseCode : Object :=
  [("Body", .dict [("stkCallback", .dict [("ResultCode", .bool false)])])]

/-- A callback without a body. -/
def nullBody : Object := [("Body", .none)]

end Sample

/-- **Not sound.**  A result code of `false` is reported as success, and a null body makes the
parser raise. -/
theorem parser_unsound :
    parseStkCallback (.dict Sample.falseCode)
        = .ok (.success (.str "") .none .none .none .none) ∧
      ¬ ReportsZero Sample.falseCode ∧
      parseStkCallback (.dict Sample.nullBody) = .error (.operation .attribute) ∧
      ¬ SoundOn Sample.falseCode ∧ ¬ SoundOn Sample.nullBody := by
  have notNumber : ¬ ReportsZero Sample.falseCode := by
    rintro ⟨callback, code, body, isCode, isNumber⟩
    cases body
    cases isCode
    cases isNumber
  refine ⟨rfl, notNumber, rfl, ?_, ?_⟩
  · rintro ⟨result, ⟨⟩, success, -⟩
    exact notNumber (success.mp rfl)
  · rintro ⟨result, parsed, -⟩
    cases parsed

end Payments

end Ticketing
