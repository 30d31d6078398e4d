import Mathlib.Data.List.Forall2
import AuraLogic.Models
import AuraLogic.Response

/-! `ListOrders` and `GetOrder`: what a user sees of their orders. Each hides the blind-box
assignment of an unpaid order with its own status test; the order service and the JSON
decoding of the assignment are parameters. -/

namespace AuraLogic.OrderView

open Response

/-- The order service calls and library functions the two handlers use. -/
structure OrderService where
  listUserOrders : Nat → Int → Int → String → Except String (List Order × Int)
  /-- `GetSharedOrderIDs`, its error dropped: whether an order is shared to support. -/
  getSharedOrderIDs : List Nat → Nat → Bool
  getOrderByNo : String → Except String Order
  isOrderSharedToSupport : Nat → Bool
  /-- `json.Unmarshal` into `map[string]map[string]interface{}`; `none` on an error. -/
  unmarshalActual : String → Option (List (String × List (String × GoValue)))
  scanInt : String → Option Int

/-! ### `ListOrders` -/

def hidesAssignment (status : OrderStatus) : Bool :=
  status = .pendingPayment || status = .draft || status = .needResubmit || status = .cancelled

/-- An entry of the list: the order, its assignment blanked when unpaid, and whether it is
shared to support. -/
structure OrderWithShared where
  order : Order
  sharedToSupport : Bool

inductive ListOrdersResponse where
  | internalError (message : String)
  | paginated (items : List OrderWithShared) (pagination : Pagination)
  | panicked

/-- The page and limit `ListOrders` reads: the page is raised to 1, the limit only lowered to
100. -/
def listOrdersPaging (pageQuery limitQuery : Option String) : Int × Int :=
  let page := atoi (defaultQuery pageQuery "1")
  let limit := atoi (defaultQuery limitQuery "10")
  (if page < 1 then 1 else page, if limit > 100 then 100 else limit)

def listEntry (shared : Nat → Bool) (order : Order) : OrderWithShared :=
  ⟨if hidesAssignment order.status then { order with actualAttributes := "" } else order,
    shared order.id⟩

def listOrders (svc : OrderService) (userID : Nat) (pageQuery limitQuery : Option String)
    (status : String) : ListOrdersResponse :=
  let (page, limit) := listOrdersPaging pageQuery limitQuery
  match svc.listUserOrders userID page limit status with
  | .error _ => .internalError "Query failed"
  | .ok (orders, total) =>
    let shared := svc.getSharedOrderIDs (orders.map (·.id))
    match paginated page limit total with
    | none => .panicked
    | some p => .paginated (orders.map (listEntry shared)) p

/-- A limit of 0 in the query, or a non-numeric one, reaches `Paginated` unchanged and makes
its division panic, whatever the order service returns. -/
theorem listOrders_zero_limit_panics (svc : OrderService) (userID : Nat) (status : String)
    (orders : List Order) (total : Int)
    (listed : svc.listUserOrders userID 1 0 status = .ok (orders, total)) :
    listOrdersPaging none (some "0") = (1, 0) ∧
      listOrders svc userID none (some "0") status = .panicked := by
  have paging : listOrdersPaging none (some "0") = (1, 0) := by decide
  refine ⟨paging, ?_⟩
  simp [listOrders, paging, listed, paginated]

/-- With a limit of at least 1 the response lists every order the service returned, in order:
the same order but for an unpaid one's blanked assignment, with whether it is shared to
support; and a pagination that echoes the paging and covers the total. -/
theorem listOrders_pagination {svc : OrderService} {userID : Nat}
    {pageQuery limitQuery : Option String} {status : String} {page limit : Int}
    {orders : List Order} {total : Int}
    (paging : listOrdersPaging pageQuery limitQuery = (page, limit)) (positive : 1 ≤ limit)
    (counted : 0 ≤ total)
    (listed : svc.listUserOrders userID page limit status = .ok (orders, total)) :
    ∃ items p, listOrders svc userID pageQuery limitQuery status = .paginated items p ∧
      List.Forall₂ (fun item order =>
          { item.order with actualAttributes := order.actualAttributes } = order ∧
          item.order.actualAttributes =
            (if hidesAssignment order.status then "" else order.actualAttributes) ∧
          item.sharedToSupport = svc.getSharedOrderIDs (orders.map (·.id)) order.id)
        items orders ∧
      p.page = page ∧ p.limit = limit ∧ p.total = total ∧
      (0 < total → (p.totalPages - 1) * limit < total ∧ total ≤ p.totalPages * limit) ∧
      (total = 0 → p.totalPages = 0) ∧ (p.hasNext ↔ page < p.totalPages) ∧
      (p.hasPrev ↔ 1 < page) := by
  obtain ⟨p, found, bounds⟩ := paginated_bounds page positive counted
  refine ⟨_, p, by simp only [listOrders, paging, listed, found]; rfl, ?_, bounds⟩
  refine List.forall₂_map_left_iff.2 (List.forall₂_same.2 fun o _ => ?_)
  by_cases hidden : hidesAssignment o.status <;> simp [listEntry, hidden]

def blankDetails : OrderDetails :=
  ⟨"", "", "", "", "", "", "", "", "", "", false, "", none, none, none, "", false, .zero false, "CNY",
    ""⟩

def boxOrder (actual : String) : Order :=
  ⟨1, "O1", some 7, .pendingPayment, [], [], none, actual, "", blankDetails, 0, 0⟩

/-- The third page of 25 orders, of which the service returns an unpaid one with an assignment
and a completed one shared to support. -/
def pageOrders : List Order :=
  [boxOrder "\x7b\"0\":\x7b\"color\":\"red\"\x7d\x7d",
    { boxOrder "\x7b\"0\":\x7b\"color\":\"blue\"\x7d\x7d" with id := 2, orderNo := "O2", status := .completed }]

def pageService : OrderService :=
  ⟨fun _ _ _ _ => .ok (pageOrders, 25), fun _ id => id = 2, fun _ => .error "record not found",
    fun _ => false, fun _ => none, fun _ => none⟩

theorem pagination_third_page :
    listOrdersPaging (some "3") (some "10") = (3, 10) ∧ (1 : Int) ≤ 10 ∧ (0 : Int) ≤ 25 ∧
      pageService.listUserOrders 7 3 10 "" = .ok (pageOrders, 25) ∧
      ∃ items p, listOrders pageService 7 (some "3") (some "10") "" = .paginated items p ∧
        List.Forall₂ (fun item order =>
            { item.order with actualAttributes := order.actualAttributes } = order ∧
            item.order.actualAttributes =
              (if hidesAssignment order.status then "" else order.actualAttributes) ∧
            item.sharedToSupport = pageService.getSharedOrderIDs (pageOrders.map (·.id)) order.id)
          items pageOrders ∧
        p.page = 3 ∧ p.limit = 10 ∧ p.total = 25 ∧
        (0 < (25 : Int) → (p.totalPages - 1) * 10 < 25 ∧ 25 ≤ p.totalPages * 10) ∧
        ((25 : Int) = 0 → p.totalPages = 0) ∧ (p.hasNext ↔ 3 < p.totalPages) ∧
        (p.hasPrev ↔ 1 < (3 : Int)) :=
  ⟨by decide, by decide, by decide, rfl, listOrders_pagination (by decide) (by decide) (by decide) rfl⟩

def emptyService : OrderService :=
  ⟨fun _ _ _ _ => .ok ([], 0), fun _ _ => false, fun _ => .error "record not found", fun _ => false,
    fun _ => none, fun _ => none⟩

theorem zero_limit_panics_on_empty_list :
    emptyService.listUserOrders 7 1 0 "" = .ok ([], 0) ∧
      listOrdersPaging none (some "0") = (1, 0) ∧ listOrders emptyService 7 none (some "0") "" = .panicked :=
  ⟨rfl, listOrders_zero_limit_panics emptyService 7 "" [] 0 rfl⟩

/-! ### `GetOrder` -/

/-- The test `GetOrder` uses for a paid order. -/
def isPaid (status : OrderStatus) : Bool :=
  status ≠ .pendingPayment && status ≠ .draft && status ≠ .needResubmit && status ≠ .cancelled

theorem isPaid_eq_not_hidesAssignment (status : OrderStatus) :
    isPaid status = !hidesAssignment status := by
  simp [isPaid, hidesAssignment]

def setAttribute (attrs : List (String × GoValue)) (k : String) (v : GoValue) :
    List (String × GoValue) :=
  if attrs.any (·.1 = k) then attrs.map fun p => if p.1 = k then (k, v) else p
  else attrs ++ [(k, v)]

def assignAttributes (vals : List (String × GoValue)) (item : OrderItem) : OrderItem :=
  let attrs := vals.foldl (fun attrs kv => setAttribute attrs kv.1 kv.2) (item.attributes.getD [])
  { item with attributes := some attrs }

/-- The merge of a paid order's assignment into its items: for each index the JSON names,
the item's attributes get the assigned values. The lists are in Go's map iteration order. -/
def mergeAssignment (svc : OrderService) (items : List OrderItem) (actual : String) :
    List OrderItem :=
  match svc.unmarshalActual actual with
  | none => items
  | some actualMap =>
    actualMap.foldl (fun items entry =>
      match svc.scanInt entry.1 with
      | some idx =>
        if 0 ≤ idx ∧ idx < items.length then items.modify (assignAttributes entry.2) idx.toNat
        else items
      | none => items) items

def responseItems (svc : OrderService) (order : Order) : List OrderItem :=
  if isPaid order.status ∧ order.actualAttributes ≠ "" then
    mergeAssignment svc order.items order.actualAttributes
  else order.items

structure OrderDetailView where
  id : Nat
  orderNo : String
  userID : Option Nat
  items : List OrderItem
  status : OrderStatus
  details : OrderDetails
  createdAt : Int
  updatedAt : Int
  sharedToSupport : Bool

inductive GetOrderResponse where
  | badRequest (message : String)
  | notFound (message : String)
  | forbidden (message : String)
  | success (view : OrderDetailView)

/-- What `GetOrder` answers once it has found the order. -/
def showOrder (svc : OrderService) (userID : Nat) (order : Order) : GetOrderResponse :=
  if order.userID ≠ some userID then .forbidden "No permission to access this order"
  else
    .success ⟨order.id, order.orderNo, order.userID, responseItems svc order, order.status,
      order.details, order.createdAt, order.updatedAt, svc.isOrderSharedToSupport order.id⟩

def getOrder (svc : OrderService) (userID : Nat) (orderNo : String) : GetOrderResponse :=
  if orderNo = "" then .badRequest "Order number cannot be empty"
  else
    match svc.getOrderByNo orderNo with
    | .error _ => .notFound "Order not found"
    | .ok order => showOrder svc userID order

/-! ### The assignment of an unpaid order is not observable -/

def unpaidStatuses : List OrderStatus := [.pendingPayment, .draft, .needResubmit, .cancelled]

/-- Two orders alike but for the blind-box assignment, in a status the spec calls unpaid. -/
def UnpaidTwins (a b : Order) : Prop :=
  a.status ∈ unpaidStatuses ∧ { a with actualAttributes := "" } = { b with actualAttributes := "" }

def Twins (a b : Order) : Prop := a = b ∨ UnpaidTwins a b

def ExceptRel {α β : Type} (r : α → β → Prop) : Except String α → Except String β → Prop
  | .error e, .error e' => e = e'
  | .ok a, .ok b => r a b
  | _, _ => False

theorem hidesAssignment_of_mem {status : OrderStatus} (unpaid : status ∈ unpaidStatuses) :
    hidesAssignment status = true := by
  simp only [unpaidStatuses, List.mem_cons, List.mem_singleton, List.not_mem_nil, or_false]
    at unpaid
  rcases unpaid with rfl | rfl | rfl | rfl <;> decide

theorem Twins.same {a b : Order} (twins : Twins a b) {β : Type} (f : Order → β)
    (blind : ∀ o, hidesAssignment o.status → f { o with actualAttributes := "" } = f o) :
    f a = f b := by
  rcases twins with rfl | ⟨unpaid, alike⟩
  · rfl
  have status : b.status = a.status := (congrArg Order.status alike).symm
  have hidden := hidesAssignment_of_mem unpaid
  rw [← blind a hidden, ← blind b (status ▸ hidden), alike]

theorem listEntry_blind (shared : Nat → Bool) (o : Order) (hidden : hidesAssignment o.status) :
    listEntry shared { o with actualAttributes := "" } = listEntry shared o := by
  simp [listEntry, hidden]

theorem showOrder_blind (svc : OrderService) (userID : Nat) (o : Order)
    (hidden : hidesAssignment o.status) :
    showOrder svc userID { o with actualAttributes := "" } = showOrder svc userID o := by
  have unpaid : isPaid o.status = false := by simp [isPaid_eq_not_hidesAssignment, hidden]
  simp [showOrder, responseItems, unpaid]

theorem map_listEntry_of_forall₂ {xs ys : List Order} (twins : List.Forall₂ Twins xs ys)
    (shared : Nat → Bool) :
    xs.map (·.id) = ys.map (·.id) ∧ xs.map (listEntry shared) = ys.map (listEntry shared) := by
  induction twins with
  | nil => exact ⟨rfl, rfl⟩
  | cons head _ ih =>
    simp only [List.map_cons, ih.1, ih.2, head.same Order.id (fun _ _ => rfl),
      head.same (listEntry shared) (listEntry_blind shared), and_self]

/-- Before payment the blind-box assignment is not observable: two services that answer alike
but for the assignments of orders the spec calls unpaid give the same `ListOrders` and
`GetOrder` responses. -/
theorem unpaid_assignment_unobservable {svc₁ svc₂ : OrderService}
    (lists : ∀ userID page limit status,
      ExceptRel (fun r₁ r₂ => List.Forall₂ Twins r₁.1 r₂.1 ∧ r₁.2 = r₂.2)
        (svc₁.listUserOrders userID page limit status) (svc₂.listUserOrders userID page limit status))
    (byNo : ∀ orderNo, ExceptRel Twins (svc₁.getOrderByNo orderNo) (svc₂.getOrderByNo orderNo))
    (shared : svc₁.getSharedOrderIDs = svc₂.getSharedOrderIDs)
    (support : svc₁.isOrderSharedToSupport = svc₂.isOrderSharedToSupport)
    (decoding : svc₁.unmarshalActual = svc₂.unmarshalActual)
    (scanning : svc₁.scanInt = svc₂.scanInt) :
    (∀ userID pageQuery limitQuery status, listOrders svc₁ userID pageQuery limitQuery status =
      listOrders svc₂ userID pageQuery limitQuery status) ∧
    ∀ userID orderNo, getOrder svc₁ userID orderNo = getOrder svc₂ userID orderNo := by
  have show_same : showOrder svc₁ = showOrder svc₂ := by
    funext userID order
    simp only [showOrder, responseItems, mergeAssignment, support, decoding, scanning]
  refine ⟨fun userID pageQuery limitQuery status => ?_, fun userID orderNo => ?_⟩
  · have related := lists userID (listOrdersPaging pageQuery limitQuery).1
      (listOrdersPaging pageQuery limitQuery).2 status
    simp only [listOrders]
    revert related
    cases svc₁.listUserOrders userID _ _ status <;> cases svc₂.listUserOrders userID _ _ status <;>
      simp only [ExceptRel, false_implies, implies_true]
    rintro ⟨twins, total⟩
    obtain ⟨ids, entries⟩ := map_listEntry_of_forall₂ twins (svc₁.getSharedOrderIDs _)
    rw [total, ids, ← shared, entries]
  · have related := byNo orderNo
    simp only [getOrder]
    revert related
    cases svc₁.getOrderByNo orderNo <;> cases svc₂.getOrderByNo orderNo <;>
      simp only [ExceptRel, false_implies, implies_true]
    intro twins
    rw [twins.same (showOrder svc₁ userID) (showOrder_blind svc₁ userID), show_same]

def boxService (actual : String) : OrderService :=
  ⟨fun _ _ _ _ => .ok ([boxOrder actual], 1), fun _ _ => false, fun _ => .ok (boxOrder actual),
    fun _ => false, fun _ => none, fun _ => none⟩

theorem box_assignment_unobservable :
    (∀ userID pageQuery limitQuery status,
      listOrders (boxService "\x7b\"0\":\x7b\"color\":\"red\"\x7d\x7d") userID pageQuery limitQuery status =
        listOrders (boxService "") userID pageQuery limitQuery status) ∧
    ∀ userID orderNo, getOrder (boxService "\x7b\"0\":\x7b\"color\":\"red\"\x7d\x7d") userID orderNo =
      getOrder (boxService "") userID orderNo :=
  unpaid_assignment_unobservable (fun _ _ _ _ => ⟨.cons (.inr ⟨by decide, rfl⟩) .nil, rfl⟩)
    (fun _ => .inr ⟨by decide, rfl⟩) rfl rfl rfl rfl

end AuraLogic.OrderView
