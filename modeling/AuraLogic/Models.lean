import AuraLogic.JsNumber

/-! Records of the `models` package that several services read. Their Go declarations are
not in the source; the fields below are those the modelled code reads or writes, with the
types its uses show. Stored times are Unix seconds; a clock read (`time.Now()`) is in
nanoseconds. -/

namespace AuraLogic

/-- Go's `int64` arithmetic: the value congruent to `x` modulo `2 ^ 64` in `[-2 ^ 63, 2 ^ 63)`. -/
def toInt64 (x : Int) : Int := (x + 2 ^ 63) % 2 ^ 64 - 2 ^ 63

theorem toInt64_of_bounds {x : Int} (lo : -2 ^ 63 ≤ x) (hi : x < 2 ^ 63) : toInt64 x = x := by
  unfold toInt64
  rw [Int.emod_eq_of_lt (by omega) (by omega)]
  omega

/-- `-time.Duration(hours) * time.Hour` does not wrap below 2562048 hours. -/
theorem toInt64_hours {hours : Int} (nonneg : 0 ≤ hours) (small : hours < 2562048) :
    toInt64 (-hours * 3600000000000) = -hours * 3600000000000 :=
  toInt64_of_bounds (by omega) (by omega)

/-- A Go `interface{}` value as `encoding/json` decodes it or goja's `Export` returns it.
`int` is a Go integer (`int`, `int64`, `uint`), `number` a `float64`; `other` stands for any
other dynamic type (a function, a `time.Time`, a typed slice). -/
inductive GoValue where
  | nil
  | bool (b : Bool)
  | int (n : Int)
  | number (x : JsNumber)
  | string (s : String)
  | slice (xs : List GoValue)
  | map (entries : List (String × GoValue))
  | other (kind : String)
  deriving Repr

structure OrderStatus where
  val : String
  deriving DecidableEq, Repr

namespace OrderStatus

/-- Modelled from the spec: the status constants are declared in a file that is not in the
source, so their values are the spec's status names. -/
def pendingPayment : OrderStatus := ⟨"pending_payment"⟩
def draft : OrderStatus := ⟨"draft"⟩
def needResubmit : OrderStatus := ⟨"need_resubmit"⟩
def cancelled : OrderStatus := ⟨"cancelled"⟩
def completed : OrderStatus := ⟨"completed"⟩

@[simp] theorem cancelled_ne_pendingPayment : cancelled ≠ pendingPayment := by decide

end OrderStatus

/-- `models.OrderItem`. `attributes` is `none` for a nil map. -/
structure OrderItem where
  sku : String
  name : String
  quantity : Int
  productType : String
  attributes : Option (List (String × GoValue))
  deriving Repr

/-- The receiver, shipping and amount fields of `models.Order` that `GetOrder` copies into
its response unchanged. -/
structure OrderDetails where
  receiverName : String
  phoneCode : String
  receiverPhone : String
  receiverEmail : String
  receiverCountry : String
  receiverProvince : String
  receiverCity : String
  receiverDistrict : String
  receiverAddress : String
  receiverPostcode : String
  privacyProtected : Bool
  trackingNo : String
  shippedAt : Option Int
  completedAt : Option Int
  formSubmittedAt : Option Int
  userEmail : String
  emailNotificationsEnabled : Bool
  totalAmount : JsNumber
  currency : String
  remark : String
  deriving Repr

/-- `models.Order`. `inventoryBindings` is the `map[int]uint` from item index to the
inventory reserved for that item. -/
structure Order where
  id : Nat
  orderNo : String
  userID : Option Nat
  status : OrderStatus
  items : List OrderItem
  inventoryBindings : List (Nat × Nat)
  promoCodeID : Option Nat
  actualAttributes : String
  adminRemark : String
  details : OrderDetails
  createdAt : Int
  updatedAt : Int
  deriving Repr

/-- `models.MaskContent`: the text with every rune but the first two and the last replaced by
`*`, or `***` when it has at most three runes. `make` and `copy` give a copy of the runes, so
the loop starts from them; it runs `i` from 2 while `i < n - 1`. -/
def maskContent (s : String) : String :=
  let runes := s.toList
  let n := runes.length
  if n ≤ 3 then "***"
  else String.mk ((List.range' 2 (n - 1 - 2)).foldl (fun masked i => masked.set i '*') runes)

theorem length_foldl_set {α : Type} (c : α) (a k : Nat) (l : List α) :
    ((List.range' a k).foldl (fun m j => m.set j c) l).length = l.length := by
  induction k generalizing a l with
  | zero => rfl
  | succ k ih => rw [List.range'_succ, List.foldl_cons, ih, List.length_set]

theorem getElem?_foldl_set {α : Type} (c : α) (a k : Nat) (l : List α) (i : Nat) :
    ((List.range' a k).foldl (fun m j => m.set j c) l)[i]? =
      if a ≤ i ∧ i < a + k then l[i]?.map fun _ => c else l[i]? := by
  induction k generalizing a l with
  | zero => exact (if_neg (by omega)).symm
  | succ k ih =>
    rw [List.range'_succ, List.foldl_cons, ih, List.getElem?_set]
    by_cases here : a = i
    · subst here
      by_cases inside : a < l.length
      · simp [inside, List.getElem?_eq_getElem inside]
      · simp [inside, List.getElem?_eq_none (Nat.le_of_not_lt inside)]
    · simp only [if_neg here]
      split_ifs <;> first | rfl | omega

/-- A masked text of more than three runes, rune by rune: positions 0, 1 and `n - 1` are
the text's own, every other position of the text is `*`. -/
theorem maskContent_getElem? {s : String} (long : 3 < s.length) (i : Nat) :
    (maskContent s).toList[i]? =
      if i = 0 ∨ i = 1 ∨ i = s.length - 1 then s.toList[i]? else s.toList[i]?.map fun _ => '*' := by
  have size : s.toList.length = s.length := rfl
  simp only [maskContent, if_neg (Nat.not_le_of_lt long : ¬ s.toList.length ≤ 3)]
  rw [String.toList, getElem?_foldl_set]
  by_cases inside : i < s.length
  · split_ifs <;> first | rfl | omega
  · have none : s.data[i]? = none := List.getElem?_eq_none (Nat.le_of_not_lt inside)
    simp [none]

theorem maskContent_length {s : String} (long : 3 < s.length) :
    (maskContent s).length = s.length := by
  simp only [maskContent, if_neg (Nat.not_le_of_lt long : ¬ s.toList.length ≤ 3),
    String.length_mk, length_foldl_set]
  rfl

/-- What the mask shows of a text: its length and its runes at positions 0, 1 and `n - 1`. -/
theorem maskContent_eq_of_agree {s t : String} (same : t.length = s.length)
    (agree : ∀ i, (i = 0 ∨ i = 1 ∨ i = s.length - 1) → s.toList[i]? = t.toList[i]?) :
    maskContent s = maskContent t := by
  by_cases long : 3 < s.length
  · refine String.ext (List.ext_getElem? fun i => ?_)
    show (maskContent s).toList[i]? = (maskContent t).toList[i]?
    rw [maskContent_getElem? long, maskContent_getElem? (same ▸ long), same]
    split_ifs with kept
    · exact agree i kept
    · have sizes : s.toList.length = t.toList.length := same.symm
      by_cases inside : i < s.toList.length
      · rw [List.getElem?_eq_getElem inside, List.getElem?_eq_getElem (sizes ▸ inside)]; rfl
      · rw [List.getElem?_eq_none (Nat.le_of_not_lt inside),
          List.getElem?_eq_none (sizes ▸ Nat.le_of_not_lt inside)]
  · have short : s.toList.length ≤ 3 := Nat.le_of_not_lt long
    have short' : t.toList.length ≤ 3 := same.trans_le short
    simp only [maskContent, if_pos short, if_pos short']

theorem maskContent_reveals_ends (s : String) :
    (s.length ≤ 3 → maskContent s = "***") ∧
    (3 < s.length → (maskContent s).length = s.length ∧
      ∀ i < s.length, (maskContent s).toList[i]? =
        if i = 0 ∨ i = 1 ∨ i = s.length - 1 then s.toList[i]? else some '*') ∧
    ∀ t : String, t.length = s.length →
      (∀ i, (i = 0 ∨ i = 1 ∨ i = s.length - 1) → s.toList[i]? = t.toList[i]?) →
      maskContent s = maskContent t := by
  refine ⟨fun short => if_pos short, fun long => ⟨maskContent_length long, fun i inside => ?_⟩,
    fun _ => maskContent_eq_of_agree⟩
  rw [maskContent_getElem? long, List.getElem?_eq_getElem (l := s.toList) inside]
  split_ifs <;> rfl

example : maskContent "您的验证码" = "您的**码" := by decide

end AuraLogic
