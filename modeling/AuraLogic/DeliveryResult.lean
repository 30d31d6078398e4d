import AuraLogic.Models

/-! `parseDeliveryResult`: how the service reads what `onDeliver` returns, given by its goja
export. `Accepted` and `deliveredItems` say in the spec's words which values are accepted and
what comes out. -/

namespace AuraLogic.ScriptDelivery

structure ScriptDeliveryItem where
  content : String
  remark : String
  deriving DecidableEq, Repr

structure ScriptDeliveryResult where
  success : Bool
  items : List ScriptDeliveryItem
  message : String
  deriving DecidableEq, Repr

/-- `obj[key].(string)`, or `""` when the field is missing or not a string. -/
def stringField (obj : List (String × GoValue)) (key : String) : String :=
  match obj.lookup key with
  | some (.string s) => s
  | _ => ""

/-- One pass of the loop over `items`: an object with a non-empty `content` is appended. -/
def appendItem (acc : List ScriptDeliveryItem) : GoValue → List ScriptDeliveryItem
  | .map itemMap =>
    let di : ScriptDeliveryItem := ⟨stringField itemMap "content", stringField itemMap "remark"⟩
    if di.content ≠ "" then acc ++ [di] else acc
  | _ => acc

def successField (obj : List (String × GoValue)) : Bool :=
  match obj.lookup "success" with
  | some (.bool b) => b
  | _ => false

/-- The loop over an `items` array, or no items when the field is not an array. -/
def itemsField (obj : List (String × GoValue)) : List ScriptDeliveryItem :=
  match obj.lookup "items" with
  | some (.slice arr) => arr.foldl appendItem []
  | _ => []

/-- `parseDeliveryResult`: the result, the error text, and the warning it logs. -/
def parseDeliveryResult (result : GoValue) (expectedQty : Int) :
    (Option ScriptDeliveryResult × Option String) × List String :=
  match result with
  | .nil => ((none, some "script returned empty result"), [])
  | .map obj =>
    let message := stringField obj "message"
    if !successField obj then
      let msg := if message = "" then "script delivery failed" else message
      ((some ⟨false, [], message⟩, some ("script delivery failed: " ++ msg)), [])
    else
      let items := itemsField obj
      let result : ScriptDeliveryResult := ⟨true, items, message⟩
      if items.length = 0 then ((some result, some "script returned no delivery items"), [])
      else if (items.length : Int) ≠ expectedQty then
        let got := items.length
        ((some result, none),
          [s!"[ScriptDelivery] Warning: expected {expectedQty} items, got {got}"])
      else ((some result, none), [])
  | _ => ((none, some "script must return an object with \x7bsuccess, items\x7d"), [])

def deliveredItem : GoValue → Option ScriptDeliveryItem
  | .map fields =>
    match fields.lookup "content" with
    | some (.string c) => if c = "" then none else some ⟨c, stringField fields "remark"⟩
    | _ => none
  | _ => none

/-- The items the spec says a delivery returns: the array's objects with a non-empty string
`content`, in their order, as (content, remark when it is a string, else ""). -/
def deliveredItems (arr : List GoValue) : List ScriptDeliveryItem := arr.filterMap deliveredItem

/-- The return values the spec accepts: an object whose `success` is the boolean `true` and
whose `items` is an array with at least one object with a non-empty string `content`. -/
def Accepted (v : GoValue) : Prop :=
  ∃ obj arr, v = .map obj ∧ obj.lookup "success" = some (.bool true) ∧
    obj.lookup "items" = some (.slice arr) ∧
    ∃ item ∈ arr, ∃ fields c, item = .map fields ∧ fields.lookup "content" = some (.string c) ∧
      c ≠ ""

theorem appendItem_eq (acc : List ScriptDeliveryItem) (item : GoValue) :
    appendItem acc item = acc ++ (deliveredItem item).toList := by
  cases item with
  | map fields =>
    simp only [appendItem, deliveredItem, stringField]
    rcases fields.lookup "content" with _ | _ | _ | _ | _ | c | _ | _ | _ <;> simp
    split_ifs <;> simp_all
  | _ => simp [appendItem, deliveredItem]

/-- The loop of `parseDeliveryResult` keeps exactly the spec's items, in order. -/
theorem foldl_appendItem (acc : List ScriptDeliveryItem) (arr : List GoValue) :
    arr.foldl appendItem acc = acc ++ deliveredItems arr := by
  induction arr generalizing acc with
  | nil => simp [deliveredItems]
  | cons item arr ih =>
    rw [List.foldl_cons, ih, appendItem_eq]
    cases h : deliveredItem item <;> simp [deliveredItems, List.filterMap_cons, h]

theorem deliveredItems_ne_nil_iff (arr : List GoValue) :
    deliveredItems arr ≠ [] ↔
      ∃ item ∈ arr, ∃ fields c, item = .map fields ∧ fields.lookup "content" = some (.string c) ∧
        c ≠ "" := by
  simp only [deliveredItems, ne_eq, List.filterMap_eq_nil_iff, not_forall, exists_prop]
  refine exists_congr fun item => and_congr_right fun _ => ?_
  cases item with
  | map fields =>
    simp only [deliveredItem]
    split <;> simp_all
  | _ => simp [deliveredItem]

theorem itemsField_ne_nil_iff (obj : List (String × GoValue)) :
    itemsField obj ≠ [] ↔ ∃ arr, obj.lookup "items" = some (.slice arr) ∧ deliveredItems arr ≠ [] := by
  unfold itemsField
  rcases obj.lookup "items" with _ | _ | _ | _ | _ | _ | arr | _ | _ <;> simp [foldl_appendItem]

theorem successField_eq_true {obj : List (String × GoValue)} :
    successField obj = true ↔ obj.lookup "success" = some (.bool true) := by
  unfold successField
  rcases obj.lookup "success" with _ | _ | b | _ <;> simp

/-- What `parseDeliveryResult` makes of an object; the expected count only picks the log
line. -/
theorem parseDeliveryResult_map (obj : List (String × GoValue)) (expectedQty : Int) :
    (parseDeliveryResult (.map obj) expectedQty).1 =
      if successField obj then
        (some ⟨true, itemsField obj, stringField obj "message"⟩,
          if itemsField obj = [] then some "script returned no delivery items" else none)
      else
        (some ⟨false, [], stringField obj "message"⟩,
          some ("script delivery failed: " ++
            if stringField obj "message" = "" then "script delivery failed"
            else stringField obj "message")) := by
  unfold parseDeliveryResult
  cases success : successField obj
  · simp [success]
  · simp only [success, Bool.not_true, ite_true, ite_false, List.length_eq_zero]
    split_ifs <;> simp_all

/-- The error of `parseDeliveryResult` is nil exactly for the values the spec accepts. -/
theorem parseDeliveryResult_accepts (v : GoValue) (expectedQty : Int) :
    (parseDeliveryResult v expectedQty).1.2 = none ↔ Accepted v := by
  cases v with
  | map obj =>
    rw [parseDeliveryResult_map]
    have items := itemsField_ne_nil_iff obj
    simp only [deliveredItems_ne_nil_iff] at items
    cases success : successField obj <;> simp_all [Accepted, ← successField_eq_true]
  | _ => simp [parseDeliveryResult, Accepted]

theorem itemsField_of_lookup {obj : List (String × GoValue)} {arr : List GoValue}
    (items : obj.lookup "items" = some (.slice arr)) : itemsField obj = deliveredItems arr := by
  simp [itemsField, items, foldl_appendItem]

/-- An accepted value yields exactly the spec's items, with the script's message. -/
theorem parseDeliveryResult_items {v : GoValue} {expectedQty : Int}
    (accepted : (parseDeliveryResult v expectedQty).1.2 = none) :
    ∃ obj arr, v = .map obj ∧ obj.lookup "items" = some (.slice arr) ∧
      (parseDeliveryResult v expectedQty).1.1 =
        some ⟨true, deliveredItems arr, stringField obj "message"⟩ := by
  obtain ⟨obj, arr, rfl, success, items, -⟩ := (parseDeliveryResult_accepts v expectedQty).1 accepted
  refine ⟨obj, arr, rfl, items, ?_⟩
  rw [parseDeliveryResult_map, if_pos (successField_eq_true.2 success), itemsField_of_lookup items]

theorem parseDeliveryResult_failed {obj : List (String × GoValue)} (expectedQty : Int)
    (failed : obj.lookup "success" ≠ some (.bool true)) :
    (parseDeliveryResult (.map obj) expectedQty).1.2 =
      some ("script delivery failed: " ++
        if stringField obj "message" = "" then "script delivery failed"
        else stringField obj "message") := by
  rw [parseDeliveryResult_map, if_neg (mt successField_eq_true.1 failed)]

/-- The expected count never changes what `parseDeliveryResult` returns. -/
theorem parseDeliveryResult_expectedQty (v : GoValue) (q q' : Int) :
    (parseDeliveryResult v q).1 = (parseDeliveryResult v q').1 := by
  cases v <;> first | rfl | rw [parseDeliveryResult_map, parseDeliveryResult_map]

theorem stringField_of_lookup {obj : List (String × GoValue)} {key m : String}
    (found : obj.lookup key = some (.string m)) : stringField obj key = m := by
  simp [stringField, found]

end AuraLogic.ScriptDelivery
