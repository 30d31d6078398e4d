import AuraLogic.DeliveryResult
import AuraLogic.ScriptHttp

/-! `ExecuteDeliveryScript` and the host functions `registerAPIs` installs. An operator's script
is arbitrary: goja's reading of it is a parameter giving a `Program`, a tree of effects on Go
state whose branches continue with the value the host returns. The outside world `σ` (HTTP
endpoints, the clock, Go's map order) is threaded through the run. -/

namespace AuraLogic.ScriptDelivery

open ScriptHttp

structure VirtualInventory where
  id : Nat
  script : String
  scriptConfig : String
  deriving DecidableEq, Repr

structure User where
  id : Nat
  name : String
  email : String
  deriving DecidableEq, Repr

/-- The tables the host functions read: the `order_items` rows of an order (none when the
query fails), and users by id. -/
structure Db where
  orderItems : Nat → List OrderItem
  users : Nat → Option User

structure ScriptDeliveryContext where
  virtualInventoryID : Nat
  orderID : Nat
  orderNo : String
  quantity : Int
  deriving DecidableEq, Repr

inductive HostFunction where
  | orderGet | orderGetItems | orderGetUser
  | generateId | jsonEncode | jsonDecode | formatDate
  | httpGet | httpPost | httpRequest
  | configGet
  | getTimestamp | log
  deriving DecidableEq, Repr

/-- What a script does that reaches Go state. -/
inductive Effect where
  | call (fn : HostFunction) (args : List Arg)
  | writeConfig (update : List (String × GoValue) → List (String × GoValue))

/-- A script's behaviour: effects, each continued with the value Go returns, ending in a
result. -/
inductive Program (α : Type) where
  | pure (a : α)
  | effect (e : Effect) (k : GoValue → Program α)

/-- `onDeliver(order, config)`: a throw or interrupt, or the export of what it returns. -/
abbrev OnDeliver := GoValue → GoValue → Program (Except String GoValue)

/-- `vm.RunString(script)` then `AssertFunction(vm.Get("onDeliver"))`: an error, or
`onDeliver` when it is a function. -/
abbrev Script := Program (Except String (Option OnDeliver))

/-- The deployment: libraries, goja, and the outside world `σ`. -/
structure Env (σ : Type) where
  http : HttpEnv
  fold : Char → Char → Bool
  eval : String → Script
  unmarshalObject : String → Except String (List (String × GoValue))
  unmarshalValue : String → Option GoValue
  formatRFC3339 : Int → String
  /-- `time.Now()` in Unix nanoseconds. -/
  clock : σ → Int × σ
  send : σ → Request → Except String Response × σ
  /-- The order in which Go's `range` visits a map. -/
  iterate : σ → List (String × String) → List (String × String)
  iterate_perm : ∀ o headers, (iterate o headers).Perm headers

variable {σ : Type}

structure Sandbox (σ : Type) where
  db : Db
  ctx : ScriptDeliveryContext
  inventory : VirtualInventory
  order : Order
  config : List (String × GoValue)
  outside : σ

structure Reply (σ : Type) where
  value : GoValue
  sandbox : Sandbox σ
  logged : List String

/-! ### The host functions -/

def orderToJS (env : Env σ) (order : Order) (quantity : Int) : GoValue :=
  .map [("id", .int order.id), ("order_no", .string order.orderNo),
    ("status", .string order.status.val), ("total_amount", .number order.details.totalAmount),
    ("currency", .string order.details.currency), ("quantity", .int quantity),
    ("created_at", .string (env.formatRFC3339 order.createdAt))]

def itemToJS (item : OrderItem) : GoValue :=
  .map [("sku", .string item.sku), ("name", .string item.name), ("quantity", .int item.quantity),
    ("product_type", .string item.productType)]

def parseScriptConfig (env : Env σ) (configJSON : String) :
    List (String × GoValue) × List String :=
  if configJSON = "" then ([], [])
  else
    match env.unmarshalObject configJSON with
    | .ok config => (config, [])
    | .error e => ([], ["[ScriptDelivery] Warning: failed to parse script_config JSON: " ++ e])

/-- `config.get(key, default)` over the live map; `config.get()` hands over the map itself. -/
def configGet (config : List (String × GoValue)) : List Arg → GoValue
  | [] => .map config
  | key :: rest =>
    match config.lookup key.str with
    | some v => v
    | none =>
      match rest with
      | d :: _ => d.val
      | [] => .nil

def logLine (ctx : ScriptDeliveryContext) (msg : String) : String :=
  let inventoryID := ctx.virtualInventoryID
  let orderNo := ctx.orderNo
  s!"[ScriptDelivery] inventory={inventoryID} order={orderNo}: {msg}"

/-- `http.get`, `http.post` and `http.request` once their arguments are read: the headers
are visited in the world's iteration order, and `client.Do` moves the world. -/
def httpCall (env : Env σ) (call : Except GoValue (String × String × GoValue × Nat))
    (args : List Arg) (s : Sandbox σ) : Reply σ :=
  match call with
  | .error v => ⟨v, s, []⟩
  | .ok (method, url, body, idx) =>
    let headers := env.iterate s.outside (extractHeaders (args.map (·.val)) idx)
    let (v, o) := doHTTPRequest env.http env.fold env.send method url body headers s.outside
    ⟨v, { s with outside := o }, []⟩

def readClock (env : Env σ) (s : Sandbox σ) (value : Int → GoValue) : Reply σ :=
  let (t, o) := env.clock s.outside
  ⟨value t, { s with outside := o }, []⟩

def perform (env : Env σ) : Effect → Sandbox σ → Reply σ
  | .writeConfig update, s => ⟨.nil, { s with config := update s.config }, []⟩
  | .call fn args, s =>
    match fn with
    | .orderGet => ⟨orderToJS env s.order s.ctx.quantity, s, []⟩
    | .orderGetItems =>
      let rows := s.db.orderItems s.order.id
      let items := if rows.isEmpty then s.order.items else rows
      ⟨.slice (items.map itemToJS), s, []⟩
    | .orderGetUser =>
      match s.order.userID.bind s.db.users with
      | none => ⟨.nil, s, []⟩
      | some u => ⟨.map [("id", .int u.id), ("name", .string u.name), ("email", .string u.email)],
          s, []⟩
    | .generateId => readClock env s fun t => .string (toString t)
    | .jsonEncode =>
      match args with
      | [] => ⟨.string "", s, []⟩
      | a :: _ =>
        match env.http.marshal a.val with
        | .ok json => ⟨.string json, s, []⟩
        | .error _ => ⟨.string "", s, []⟩
    | .jsonDecode =>
      match args with
      | [] => ⟨.nil, s, []⟩
      | a :: _ => ⟨(env.unmarshalValue a.str).getD .nil, s, []⟩
    | .formatDate => readClock env s fun t => .string (env.formatRFC3339 (t / 1000000000))
    | .httpGet => httpCall env (ScriptHttp.httpGet args) args s
    | .httpPost => httpCall env (ScriptHttp.httpPost args) args s
    | .httpRequest => httpCall env (ScriptHttp.httpRequest args) args s
    | .configGet => ⟨configGet s.config args, s, []⟩
    | .getTimestamp => readClock env s fun t => .int (t / 1000000000)
    | .log =>
      match args with
      | [] => ⟨.nil, s, []⟩
      | a :: _ => ⟨.nil, s, [logLine s.ctx a.str]⟩

/-- Runs a script's program against the host: its result, the final state, the log. -/
def runProgram {α : Type} (env : Env σ) : Program α → Sandbox σ → α × Sandbox σ × List String
  | .pure a, s => (a, s, [])
  | .effect e k, s =>
    let r := perform env e s
    let (a, s', lines) := runProgram env (k r.value) r.sandbox
    (a, s', r.logged ++ lines)

/-! ### `ExecuteDeliveryScript` -/

def initialSandbox (env : Env σ) (db : Db) (inventory : VirtualInventory) (order : Order)
    (quantity : Int) (outside : σ) : Sandbox σ :=
  ⟨db, ⟨inventory.id, order.id, order.orderNo, quantity⟩, inventory, order,
    (parseScriptConfig env inventory.scriptConfig).1, outside⟩

/-- The end of `ExecuteDeliveryScript`: call `onDeliver` with the order data and a fresh
parse of the configuration, both read through the `order` and `inventory` pointers, and
parse what it returns. -/
def deliver (env : Env σ) (quantity : Int) (onDeliver : OnDeliver) (s : Sandbox σ) :
    (Option ScriptDeliveryResult × Option String) × Sandbox σ × List String :=
  let config := parseScriptConfig env s.inventory.scriptConfig
  let call := runProgram env (onDeliver (orderToJS env s.order quantity) (.map config.1)) s
  match call.1 with
  | .error e => ((none, some ("onDeliver execution error: " ++ e)), call.2.1, config.2 ++ call.2.2)
  | .ok v =>
    ((parseDeliveryResult v quantity).1, call.2.1,
      config.2 ++ call.2.2 ++ (parseDeliveryResult v quantity).2)

/-- `ExecuteDeliveryScript`: the result and error it returns, the state it leaves, and what
it logs. -/
def executeDeliveryScript (env : Env σ) (db : Db) (inventory : VirtualInventory) (order : Order)
    (quantity : Int) (outside : σ) :
    (Option ScriptDeliveryResult × Option String) × Sandbox σ × List String :=
  let s := initialSandbox env db inventory order quantity outside
  if inventory.script = "" then
    let id := inventory.id
    ((none, some s!"inventory {id} has no script"), s, [])
  else
    let registered := (parseScriptConfig env inventory.scriptConfig).2
    let load := runProgram env (env.eval inventory.script) s
    match load.1 with
    | .error e => ((none, some ("script execution error: " ++ e)), load.2.1, registered ++ load.2.2)
    | .ok none =>
      ((none, some "onDeliver function not found in script"), load.2.1, registered ++ load.2.2)
    | .ok (some onDeliver) =>
      let r := deliver env quantity onDeliver load.2.1
      (r.1, r.2.1, registered ++ load.2.2 ++ r.2.2)

/-! ### Nothing a script does reaches the tables, the inventory or the order -/

structure Frame (s t : Sandbox σ) : Prop where
  db : t.db = s.db
  ctx : t.ctx = s.ctx
  inventory : t.inventory = s.inventory
  order : t.order = s.order

theorem Frame.refl (s : Sandbox σ) : Frame s s := ⟨rfl, rfl, rfl, rfl⟩

theorem Frame.trans {s t u : Sandbox σ} (first : Frame s t) (second : Frame t u) : Frame s u :=
  ⟨second.db.trans first.db, second.ctx.trans first.ctx, second.inventory.trans first.inventory,
    second.order.trans first.order⟩

theorem Frame.of_outside (s : Sandbox σ) (o : σ) : Frame s { s with outside := o } :=
  ⟨rfl, rfl, rfl, rfl⟩

theorem httpCall_frame (env : Env σ) (call : Except GoValue (String × String × GoValue × Nat))
    (args : List Arg) (s : Sandbox σ) : Frame s (httpCall env call args s).sandbox := by
  unfold httpCall
  split
  · exact Frame.refl s
  · exact Frame.of_outside s _

theorem perform_frame (env : Env σ) (e : Effect) (s : Sandbox σ) :
    Frame s (perform env e s).sandbox := by
  cases e with
  | writeConfig update => exact ⟨rfl, rfl, rfl, rfl⟩
  | call fn args =>
    cases fn with
    | httpGet | httpPost | httpRequest => exact httpCall_frame env _ args s
    | generateId | formatDate | getTimestamp => exact Frame.of_outside s _
    | orderGetUser => simp only [perform]; split <;> exact Frame.refl s
    | jsonEncode =>
      simp only [perform]; split
      · exact Frame.refl s
      · split <;> exact Frame.refl s
    | jsonDecode | log => simp only [perform]; split <;> exact Frame.refl s
    | orderGet | orderGetItems | configGet => exact Frame.refl s

theorem runProgram_frame {α : Type} (env : Env σ) (p : Program α) (s : Sandbox σ) :
    Frame s (runProgram env p s).2.1 := by
  induction p generalizing s with
  | pure a => exact Frame.refl s
  | effect e k ih => exact (perform_frame env e s).trans (ih _ _)

theorem deliver_frame (env : Env σ) (quantity : Int) (onDeliver : OnDeliver) (s : Sandbox σ) :
    Frame s (deliver env quantity onDeliver s).2.1 := by
  unfold deliver
  dsimp only
  split <;> exact runProgram_frame env _ s

theorem executeDeliveryScript_frame (env : Env σ) (db : Db) (inventory : VirtualInventory)
    (order : Order) (quantity : Int) (outside : σ) :
    Frame (initialSandbox env db inventory order quantity outside)
      (executeDeliveryScript env db inventory order quantity outside).2.1 := by
  unfold executeDeliveryScript
  dsimp only
  split
  · exact Frame.refl _
  have load := runProgram_frame env (env.eval inventory.script)
    (initialSandbox env db inventory order quantity outside)
  split
  · exact load
  · exact load
  · exact load.trans (deliver_frame env quantity _ _)

/-- Whatever the script does, an invocation leaves the tables, the inventory (its
`ScriptConfig` included) and the order as it found them. A later invocation therefore sees
the same tables, and runs as it would have without the earlier one, given the state of the
outside world (HTTP endpoints and the clock) the earlier one left. -/
theorem executeDeliveryScript_isolated (env : Env σ) (db : Db) (inventory : VirtualInventory)
    (order : Order) (quantity : Int) (outside : σ) :
    let after := (executeDeliveryScript env db inventory order quantity outside).2.1
    after.db = db ∧ after.inventory = inventory ∧ after.order = order ∧
    ∀ inventory' order' quantity',
      executeDeliveryScript env after.db inventory' order' quantity' after.outside =
        executeDeliveryScript env db inventory' order' quantity' after.outside := by
  have frame := executeDeliveryScript_frame env db inventory order quantity outside
  exact ⟨frame.db, frame.inventory, frame.order, fun _ _ _ => by rw [frame.db]; rfl⟩

/-! ### What an invocation returns -/

/-- `onDeliver` returns `v` in an invocation: the script is non-empty, its top level runs
without error or interrupt and defines `onDeliver` as a function, and the call, given the
order data and the parsed configuration, returns `v` without throwing. -/
def OnDeliverReturns (env : Env σ) (db : Db) (inventory : VirtualInventory) (order : Order)
    (quantity : Int) (outside : σ) (v : GoValue) : Prop :=
  let load := runProgram env (env.eval inventory.script)
    (initialSandbox env db inventory order quantity outside)
  inventory.script ≠ "" ∧ ∃ onDeliver, load.1 = .ok (some onDeliver) ∧
    (runProgram env (onDeliver (orderToJS env order quantity)
      (.map (parseScriptConfig env inventory.scriptConfig).1)) load.2.1).1 = .ok v

section Outcome

variable (env : Env σ) (db : Db) (inventory : VirtualInventory) (order : Order) (quantity : Int)
  (outside : σ)

theorem executeDeliveryScript_of_returns {v : GoValue}
    (returns : OnDeliverReturns env db inventory order quantity outside v) :
    (executeDeliveryScript env db inventory order quantity outside).1 =
      (parseDeliveryResult v quantity).1 := by
  obtain ⟨script, onDeliver, loaded, called⟩ := returns
  have frame := runProgram_frame env (env.eval inventory.script)
    (initialSandbox env db inventory order quantity outside)
  have same_order : _ = order := frame.order
  have same_inventory : _ = inventory := frame.inventory
  unfold executeDeliveryScript deliver
  simp only [if_neg script, loaded, same_order, same_inventory, called]

theorem returns_of_executeDeliveryScript
    (delivered : (executeDeliveryScript env db inventory order quantity outside).1.2 = none) :
    ∃ v, OnDeliverReturns env db inventory order quantity outside v ∧
      (executeDeliveryScript env db inventory order quantity outside).1 =
        (parseDeliveryResult v quantity).1 := by
  have frame := runProgram_frame env (env.eval inventory.script)
    (initialSandbox env db inventory order quantity outside)
  unfold executeDeliveryScript deliver at delivered
  dsimp only at delivered
  split at delivered
  · simp at delivered
  next script =>
  split at delivered
  · simp at delivered
  · simp at delivered
  next onDeliver loaded =>
  split at delivered
  · simp at delivered
  next v called =>
  have same_order : _ = order := frame.order
  have same_inventory : _ = inventory := frame.inventory
  rw [same_order, same_inventory] at called
  have returns : OnDeliverReturns env db inventory order quantity outside v :=
    ⟨script, onDeliver, loaded, called⟩
  exact ⟨v, returns, executeDeliveryScript_of_returns env db inventory order quantity outside returns⟩

theorem stringField_eq_empty {obj : List (String × GoValue)} {key : String}
    (none_set : ∀ m, obj.lookup key = some (.string m) → m = "") : stringField obj key = "" := by
  unfold stringField
  split
  · next m found => exact none_set m found
  · rfl

end Outcome

/-- An invocation succeeds exactly when `onDeliver` returns a value the spec accepts; it then
returns the spec's items in their order, and otherwise explains a failed delivery with the
script's message. The expected quantity only chooses a log line. -/
theorem executeDeliveryScript_delivers (env : Env σ) (db : Db) (inventory : VirtualInventory)
    (order : Order) (quantity : Int) (outside : σ) :
    let out := (executeDeliveryScript env db inventory order quantity outside).1
    (out.2 = none ↔ ∃ v, OnDeliverReturns env db inventory order quantity outside v ∧ Accepted v) ∧
    (out.2 = none → ∃ v obj arr, OnDeliverReturns env db inventory order quantity outside v ∧
      v = .map obj ∧ obj.lookup "items" = some (.slice arr) ∧
      out.1 = some ⟨true, deliveredItems arr, stringField obj "message"⟩) ∧
    (∀ obj, OnDeliverReturns env db inventory order quantity outside (.map obj) →
      obj.lookup "success" ≠ some (.bool true) →
      (∀ m, obj.lookup "message" = some (.string m) → m ≠ "" →
        out.2 = some ("script delivery failed: " ++ m)) ∧
      ((∀ m, obj.lookup "message" = some (.string m) → m = "") →
        out.2 = some "script delivery failed: script delivery failed")) ∧
    ∀ v q, (parseDeliveryResult v quantity).1 = (parseDeliveryResult v q).1 := by
  dsimp only
  refine ⟨⟨fun delivered => ?_, fun ⟨v, returns, accepted⟩ => ?_⟩, fun delivered => ?_,
    fun obj returns failed => ⟨fun m found nonempty => ?_, fun none_set => ?_⟩,
    fun v q => parseDeliveryResult_expectedQty v quantity q⟩
  · obtain ⟨v, returns, outcome⟩ := returns_of_executeDeliveryScript env db inventory order
      quantity outside delivered
    rw [outcome, parseDeliveryResult_accepts] at delivered
    exact ⟨v, returns, delivered⟩
  · rw [executeDeliveryScript_of_returns env db inventory order quantity outside returns]
    exact (parseDeliveryResult_accepts v quantity).2 accepted
  · obtain ⟨v, returns, outcome⟩ := returns_of_executeDeliveryScript env db inventory order
      quantity outside delivered
    rw [outcome] at delivered ⊢
    obtain ⟨obj, arr, rfl, items, result⟩ := parseDeliveryResult_items delivered
    exact ⟨_, obj, arr, returns, rfl, items, result⟩
  · rw [executeDeliveryScript_of_returns env db inventory order quantity outside returns,
      parseDeliveryResult_failed quantity failed, stringField_of_lookup found, if_neg nonempty]
  · rw [executeDeliveryScript_of_returns env db inventory order quantity outside returns,
      parseDeliveryResult_failed quantity failed, stringField_eq_empty none_set, if_pos rfl]
    rfl

end AuraLogic.ScriptDelivery
