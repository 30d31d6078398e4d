import AuraLogic.OrderView
import AuraLogic.InvoiceToken

/-! The order handlers that act on one order of the caller, with `CreateOrder`. The first four
make the same checks in the same order, each with its own messages and status test:
`checkOrder` is that sequence once, and `GetInvoiceToken` makes it too. -/

namespace AuraLogic.OrderHandlers

open Response

inductive RenderStep where
  | parse
  | execute

/-- The services and library functions the handlers call. -/
structure OrderEnv where
  getOrderByNo : String → Except String Order
  getOrderByID : Nat → Except String Order
  completeOrder : Nat → Nat → String → Except ServiceError Unit
  /-- `orderService.GetOrRefreshFormToken(order)`: the token and its expiry. -/
  getOrRefreshFormToken : Order → Except String (String × Int)
  hasVirtualInventory : Bool
  getStockByOrderNo : String → Except String (List GoValue)
  createUserOrder : Nat → List OrderItem → String → String → Except ServiceError Order
  sanitizeText : String → String
  sanitizeInput : String → String
  validateLength : String → Nat → Nat → Bool
  invoiceEnabled : Bool
  /-- `buildInvoiceData`, then the template parsed and executed: the page, or the step that
  failed. -/
  renderInvoice : Order → Except RenderStep String

/-- What a handler writes: a JSON reply (`gin.H` data), an HTML page, or a Go runtime panic,
answered with status 500 by gin's recovery. -/
inductive Answer where
  | json (reply : Reply (List (String × GoValue)))
  | html (page : String)
  | panicked

def Answer.status : Answer → Nat
  | .json reply => reply.httpCode
  | .html _ => 200
  | .panicked => 500

inductive Call where
  | completeOrder (orderID userID : Nat) (feedback : String)
  | getOrRefreshFormToken (orderID : Nat)
  | createUserOrder (userID : Nat) (items : List OrderItem) (remark promoCode : String)

/-- A time field as JSON: times are Unix seconds in this model, a nil pointer is null. -/
def timeValue : Option Int → GoValue
  | some t => .int t
  | none => .nil

/-! ### The checks -/

/-- The checks of an order handler, in the source's order: the order number, the handler's
own precondition (its refusal, if any), the lookup, the ownership (refused with
`forbiddenMsg`), and the status (`statusCheck` gives the refusal's message). -/
def checkOrder (getOrderByNo : String → Except String Order) (userID : Nat) (orderNo : String)
    (precondition : Option (Reply (List (String × GoValue)))) (forbiddenMsg : String)
    (statusCheck : OrderStatus → Option String) :
    Except (Reply (List (String × GoValue))) Order :=
  if orderNo = "" then .error (badRequest "Order number cannot be empty")
  else
    match precondition with
    | some refusal => .error refusal
    | none =>
      match getOrderByNo orderNo with
      | .error _ => .error (notFound "Order not found")
      | .ok order =>
        if order.userID ≠ some userID then .error (forbidden forbiddenMsg)
        else
          match statusCheck order.status with
          | some message => .error (badRequest message)
          | none => .ok order

section Checks

variable {getOrderByNo : String → Except String Order} {userID : Nat} {orderNo : String}
  {precondition : Option (Reply (List (String × GoValue)))} {forbiddenMsg : String}
  {statusCheck : OrderStatus → Option String}

theorem checkOrder_ok {order : Order} :
    checkOrder getOrderByNo userID orderNo precondition forbiddenMsg statusCheck = .ok order ↔
      orderNo ≠ "" ∧ precondition = none ∧ getOrderByNo orderNo = .ok order ∧
        order.userID = some userID ∧ statusCheck order.status = none := by
  constructor
  · intro passed
    unfold checkOrder at passed
    split_ifs at passed with empty
    split at passed
    · cases passed
    split at passed
    · cases passed
    rename_i found looked
    split_ifs at passed with owner
    split at passed
    · cases passed
    · rename_i admitted
      cases passed
      exact ⟨empty, rfl, looked, not_not.1 owner, admitted⟩
  · rintro ⟨empty, rfl, looked, owner, admitted⟩
    simp [checkOrder, empty, looked, owner, admitted]

/-- A refusal of the checks is one of the replies they name; none has status 200 when the
precondition's refusal has none. -/
theorem checkOrder_refusal_httpCode {refusal : Reply (List (String × GoValue))}
    (refusing : ∀ r, precondition = some r → r.httpCode ≠ 200)
    (refused : checkOrder getOrderByNo userID orderNo precondition forbiddenMsg statusCheck =
      .error refusal) :
    refusal.httpCode ≠ 200 := by
  unfold checkOrder at refused
  split_ifs at refused
  · cases refused; simp [badRequest]
  split at refused
  · cases refused; exact refusing _ rfl
  split at refused
  · cases refused; simp [notFound]
  split_ifs at refused
  · cases refused; simp [forbidden]
  split at refused
  · cases refused; simp [badRequest]
  · cases refused

end Checks

/-! ### The handlers -/

def completeOrderBody (body : Option String) : Option (Reply (List (String × GoValue))) :=
  if body.isSome then none else some (badRequest "Invalid request parameters")

/-- `CompleteOrder`: no status check of its own; the service decides. -/
def completeOrder (env : OrderEnv) (userID : Nat) (orderNo : String) (body : Option String) :
    Answer × Option Call :=
  match checkOrder env.getOrderByNo userID orderNo (completeOrderBody body)
      "No permission to operate this order" (fun _ => none) with
  | .error refusal => (.json refusal, none)
  | .ok order =>
    let feedback := body.getD ""
    let call := some (Call.completeOrder order.id userID feedback)
    match env.completeOrder order.id userID feedback with
    | .error e => (.json (handleError "Failed to complete order" e), call)
    | .ok () =>
      -- the re-query's error is dropped: a nil order is dereferenced
      match env.getOrderByID order.id with
      | .error _ => (.panicked, call)
      | .ok order =>
        (.json (success [("order_no", .string order.orderNo), ("status", .string order.status.val),
          ("completed_at", timeValue order.details.completedAt)]), call)

/-- The statuses that need the shipping form. -/
def formTokenStatus (status : OrderStatus) : Option String :=
  if status ≠ .draft ∧ status ≠ .needResubmit then some "Order status does not require form submission"
  else none

def getOrRefreshFormToken (env : OrderEnv) (userID : Nat) (orderNo : String) :
    Answer × Option Call :=
  match checkOrder env.getOrderByNo userID orderNo none "No permission to access this order"
      formTokenStatus with
  | .error refusal => (.json refusal, none)
  | .ok order =>
    let answer : Answer :=
      match env.getOrRefreshFormToken order with
      | .error _ => .json (internalError "Failed to get form token")
      | .ok (formToken, expiresAt) =>
        .json (success [("form_token", .string formToken), ("expires_at", .int expiresAt),
          ("order_no", .string order.orderNo), ("order_id", .int order.id)])
    (answer, some (.getOrRefreshFormToken order.id))

/-- The statuses before payment, for which no virtual product is shown. -/
def virtualProductsStatus (status : OrderStatus) : Option String :=
  if status = .pendingPayment ∨ status = .draft ∨ status = .needResubmit then
    some "Virtual products are not available yet"
  else none

def getVirtualProducts (env : OrderEnv) (userID : Nat) (orderNo : String) : Answer × Option Call :=
  match checkOrder env.getOrderByNo userID orderNo none "No permission to access this order"
      virtualProductsStatus with
  | .error refusal => (.json refusal, none)
  | .ok _ =>
    if !env.hasVirtualInventory then (.json (success [("stocks", .slice [])]), none)
    else
      match env.getStockByOrderNo orderNo with
      | .error _ => (.json (internalError "Failed to get virtual products"), none)
      | .ok stocks => (.json (success [("stocks", .slice stocks)]), none)

def invoicePrecondition (enabled : Bool) : Option (Reply (List (String × GoValue))) :=
  if enabled then none else some (badRequest "Invoice generation is not enabled")

def invoiceStatus (status : OrderStatus) : Option String :=
  if status ≠ .completed then some "Invoice is only available for completed orders" else none

def downloadInvoice (env : OrderEnv) (userID : Nat) (orderNo : String) : Answer × Option Call :=
  match checkOrder env.getOrderByNo userID orderNo (invoicePrecondition env.invoiceEnabled)
      "No permission to access this order" invoiceStatus with
  | .error refusal => (.json refusal, none)
  | .ok order =>
    match env.renderInvoice order with
    | .error .parse => (.json (internalError "Failed to parse invoice template"), none)
    | .error .execute => (.json (internalError "Failed to render invoice"), none)
    | .ok page => (.html page, none)

structure CreateOrderRequest where
  items : List OrderItem
  remark : String
  promoCode : String

def createOrder (env : OrderEnv) (userID : Nat) (body : Option CreateOrderRequest) :
    Answer × Option Call :=
  match body with
  | none => (.json (badRequest "Invalid request parameters"), none)
  | some req =>
    if req.items.length = 0 then (.json (badRequest "Order items cannot be empty"), none)
    else
      let remark := env.sanitizeText req.remark
      if !env.validateLength remark 0 500 then
        (.json (badRequest "Order remark length cannot exceed 500 characters"), none)
      else
        let promoCode := env.sanitizeInput req.promoCode
        if !env.validateLength promoCode 0 50 then
          (.json (badRequest "Promo code length cannot exceed 50 characters"), none)
        else
          let answer : Answer :=
            match env.createUserOrder userID req.items remark promoCode with
            | .error (.biz e) => .json (bizError e)
            | .error (.other _) => .json (internalError "Failed to create order")
            | .ok order =>
              .json (success [("order_id", .int order.id), ("order_no", .string order.orderNo),
                ("status", .string order.status.val), ("created_at", .int order.createdAt)])
          (answer, some (.createUserOrder userID req.items remark promoCode))

/-! ### Only the owner is served -/

/-- The handlers that act on one order of the caller; `completeOrder` carries its body. -/
inductive Endpoint where
  | completeOrder (body : Option String)
  | getOrRefreshFormToken
  | getVirtualProducts
  | downloadInvoice

namespace Endpoint

def serve (env : OrderEnv) (userID : Nat) (orderNo : String) : Endpoint → Answer × Option Call
  | .completeOrder body => OrderHandlers.completeOrder env userID orderNo body
  | .getOrRefreshFormToken => OrderHandlers.getOrRefreshFormToken env userID orderNo
  | .getVirtualProducts => OrderHandlers.getVirtualProducts env userID orderNo
  | .downloadInvoice => OrderHandlers.downloadInvoice env userID orderNo

/-- Each handler's own precondition, ownership message and status test. -/
def precondition (env : OrderEnv) : Endpoint → Option (Reply (List (String × GoValue)))
  | .completeOrder body => completeOrderBody body
  | .downloadInvoice => invoicePrecondition env.invoiceEnabled
  | _ => none

def forbiddenMsg : Endpoint → String
  | .completeOrder _ => "No permission to operate this order"
  | _ => "No permission to access this order"

def statusCheck : Endpoint → OrderStatus → Option String
  | .completeOrder _ => fun _ => none
  | .getOrRefreshFormToken => formTokenStatus
  | .getVirtualProducts => virtualProductsStatus
  | .downloadInvoice => invoiceStatus

def check (env : OrderEnv) (userID : Nat) (orderNo : String) (e : Endpoint) :
    Except (Reply (List (String × GoValue))) Order :=
  checkOrder env.getOrderByNo userID orderNo (e.precondition env) e.forbiddenMsg e.statusCheck

theorem precondition_httpCode (env : OrderEnv) (e : Endpoint) :
    ∀ r, e.precondition env = some r → r.httpCode ≠ 200 := by
  intro r given
  cases e with
  | completeOrder body =>
    simp only [precondition, completeOrderBody] at given
    split_ifs at given
    cases given
    simp [badRequest]
  | downloadInvoice =>
    simp only [precondition, invoicePrecondition] at given
    split_ifs at given
    cases given
    simp [badRequest]
  | getOrRefreshFormToken => cases given
  | getVirtualProducts => cases given

theorem serve_of_refused {env : OrderEnv} {userID : Nat} {orderNo : String} {e : Endpoint}
    {refusal : Reply (List (String × GoValue))} (refused : e.check env userID orderNo = .error refusal) :
    e.serve env userID orderNo = (.json refusal, none) := by
  cases e <;> simp only [check, precondition, forbiddenMsg, statusCheck] at refused <;>
    simp only [serve, OrderHandlers.completeOrder, OrderHandlers.getOrRefreshFormToken,
      OrderHandlers.getVirtualProducts, OrderHandlers.downloadInvoice, refused]

end Endpoint

/-- Whatever the services answer, a handler of the family answers with status 200, or calls
a service that changes the store, only for an order of the caller in a status it admits. -/
theorem serve_owned (env : OrderEnv) (userID : Nat) (orderNo : String) (e : Endpoint)
    (acted : (e.serve env userID orderNo).1.status = 200 ∨ (e.serve env userID orderNo).2.isSome) :
    ∃ order, env.getOrderByNo orderNo = .ok order ∧ order.userID = some userID ∧
      e.statusCheck order.status = none := by
  cases checked : e.check env userID orderNo with
  | error refusal =>
    have refusing := checkOrder_refusal_httpCode (e.precondition_httpCode env) checked
    rw [Endpoint.serve_of_refused checked] at acted
    simp only [Answer.status, Option.isSome_none, Bool.false_eq_true, or_false] at acted
    exact absurd acted refusing
  | ok order =>
    obtain ⟨-, -, looked, owner, admitted⟩ := checkOrder_ok.1 checked
    exact ⟨order, looked, owner, admitted⟩

def shopOrders : OrderEnv where
  getOrderByNo no := if no = "O1" then .ok InvoiceToken.completedOrder else .error "record not found"
  getOrderByID _ := .ok InvoiceToken.completedOrder
  completeOrder _ _ _ := .ok ()
  getOrRefreshFormToken _ := .ok ("form", 0)
  hasVirtualInventory := false
  getStockByOrderNo _ := .ok []
  createUserOrder _ _ _ _ := .ok InvoiceToken.completedOrder
  sanitizeText s := s
  sanitizeInput s := s
  validateLength s _ max := s.length ≤ max
  invoiceEnabled := true
  renderInvoice _ := .ok "invoice"

theorem serve_owned_invoice :
    ((Endpoint.downloadInvoice.serve shopOrders 7 "O1").1.status = 200 ∨
        (Endpoint.downloadInvoice.serve shopOrders 7 "O1").2.isSome) ∧
      ∃ order, shopOrders.getOrderByNo "O1" = .ok order ∧ order.userID = some 7 ∧
        Endpoint.downloadInvoice.statusCheck order.status = none :=
  ⟨.inl (by decide), serve_owned shopOrders 7 "O1" .downloadInvoice (.inl (by decide))⟩

/-! ### `GetInvoiceToken` makes the same checks -/

/-- `GetInvoiceToken` refuses exactly what `DownloadInvoice` refuses, with the same status and
message. -/
theorem tokenChecks_eq (env : InvoiceToken.InvoiceEnv) (userID : Nat) (orderNo : String) :
    InvoiceToken.tokenChecks env userID orderNo =
      match checkOrder (fun no => (env.orders no).elim (.error "record not found") .ok) userID
          orderNo (invoicePrecondition env.enabled) "No permission to access this order"
          invoiceStatus with
      | .error refusal => .done refusal.httpCode refusal.message
      | .ok _ => .tokenPending userID orderNo := by
  unfold InvoiceToken.tokenChecks checkOrder invoicePrecondition invoiceStatus
  by_cases empty : orderNo = ""
  · simp [empty, badRequest, errorOr, error]
  by_cases enabled : env.enabled = true
  · cases looked : env.orders orderNo with
    | none => simp [empty, enabled, looked, notFound, errorOr, error]
    | some order =>
      by_cases owner : order.userID = some userID
      · by_cases done : order.status = .completed
        · simp [empty, enabled, looked, owner, done]
        · simp [empty, enabled, looked, owner, done, badRequest, errorOr, error]
      · simp [empty, enabled, looked, owner, forbidden, errorOr, error]
  · simp [empty, enabled, badRequest, errorOr, error]

end AuraLogic.OrderHandlers
