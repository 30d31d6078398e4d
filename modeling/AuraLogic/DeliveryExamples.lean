import AuraLogic.ScriptDelivery
import AuraLogic.NumberLiteral

/-! The three example delivery scripts of the virtual inventory page (page.tsx) as goja runs
them under `ExecuteDeliveryScript`'s ten-second timer. What a script takes from goja rather
than from the host (`Math.random()`, a `TypeError`'s text) is a parameter. -/

namespace AuraLogic.ScriptDelivery

open ScriptHttp

variable {σ : Type}

/-! ### What the scripts read -/

/-- `v.key` for a value handed to a script, `none` for `undefined`: a map's entry, and
nothing on a value of any other Go type. -/
def property (v : GoValue) (key : String) : Option GoValue :=
  match v with
  | .map entries => entries.lookup key
  | _ => none

@[simp] theorem property_map (entries : List (String × GoValue)) (key : String) :
    property (.map entries) key = entries.lookup key := rfl

def member (v : GoValue) (key : String) : GoValue := (property v key).getD .nil

/-- The passes of `for (var i = 0; i < order.quantity; i++)`: `orderToJS` puts an integer in
`quantity`. -/
def passes : GoValue → Nat
  | .int q => q.toNat
  | _ => 0

/-- JavaScript's truthiness of a value Go hands over. -/
def truthy : GoValue → Bool
  | .nil => false
  | .bool b => b
  | .int n => n ≠ 0
  | .number x => x ≠ .nan ∧ ∀ negative, x ≠ .zero negative
  | .string s => s ≠ ""
  | _ => true

mutual
/-- `String(v)` for a value Go hands over: `nil` is `null`, an integer is below `2^53` as
every id and count is, and any other Go type goja wraps as an object. -/
def jsText : GoValue → String
  | .nil => "null"
  | .bool b => if b then "true" else "false"
  | .int n => toString n
  | .number x => x.toString
  | .string s => s
  | .slice xs => joinText xs
  | .map _ => "[object Object]"
  | .other _ => "[object Object]"

def joinText : List GoValue → String
  | [] => ""
  | [v] => elementText v
  | v :: vs => elementText v ++ "," ++ joinText vs

def elementText : GoValue → String
  | .nil => ""
  | v => jsText v
end

def propertyText : Option GoValue → String
  | none => "undefined"
  | some v => jsText v

def jsOr (a : Option GoValue) (b : GoValue) : GoValue :=
  match a with
  | some v => if truthy v then v else b
  | none => b

@[simp] theorem member_orderNo (env : Env σ) (order : Order) (quantity : Int) :
    member (orderToJS env order quantity) "order_no" = .string order.orderNo := rfl

@[simp] theorem member_quantity (env : Env σ) (order : Order) (quantity : Int) :
    member (orderToJS env order quantity) "quantity" = .int quantity := rfl

def itemValue (content remark : String) : GoValue :=
  .map [("content", .string content), ("remark", .string remark)]

def successValue (items : List GoValue) : GoValue :=
  .map [("success", .bool true), ("items", .slice items)]

theorem deliveredItem_itemValue {content : String} (remark : String) (filled : content ≠ "") :
    deliveredItem (itemValue content remark) = some ⟨content, remark⟩ :=
  show (if content = "" then none else some (⟨content, remark⟩ : ScriptDeliveryItem)) = _ from
    if_neg filled

theorem deliveredItems_itemValue {l : List (String × String)} (filled : ∀ p ∈ l, p.1 ≠ "") :
    deliveredItems (l.map fun p => itemValue p.1 p.2) = l.map fun p => ⟨p.1, p.2⟩ := by
  induction l with
  | nil => rfl
  | cons p l ih =>
    rw [List.forall_mem_cons] at filled
    rw [List.map_cons, deliveredItems, List.filterMap_cons, deliveredItem_itemValue _ filled.1]
    exact congrArg _ (ih filled.2)

/-- What `ExecuteDeliveryScript` makes of a call of `onDeliver` that throws or returns. -/
def callOutcome (quantity : Int) :
    Except String GoValue → Option ScriptDeliveryResult × Option String
  | .error e => (none, some ("onDeliver execution error: " ++ e))
  | .ok v => (parseDeliveryResult v quantity).1

theorem callOutcome_successValue (quantity : Int) (items : List GoValue) :
    callOutcome quantity (.ok (successValue items)) =
      (some ⟨true, deliveredItems items, ""⟩,
        if deliveredItems items = [] then some "script returned no delivery items" else none) := by
  show (parseDeliveryResult (.map _) quantity).1 = _
  rw [parseDeliveryResult_map,
    @itemsField_of_lookup [("success", .bool true), ("items", .slice items)] items rfl]
  rfl

/-- What `ExecuteDeliveryScript` returns for a script whose top level only defines
`onDeliver`: the outcome of one call of it from the state `registerAPIs` sets up. -/
theorem executeDeliveryScript_of_pure (env : Env σ) (db : Db) (inventory : VirtualInventory)
    (order : Order) (quantity : Int) (outside : σ) (script : inventory.script ≠ "")
    {onDeliver : OnDeliver} (reads : env.eval inventory.script = .pure (.ok (some onDeliver))) :
    (executeDeliveryScript env db inventory order quantity outside).1 =
      callOutcome quantity (runProgram env (onDeliver (orderToJS env order quantity)
        (.map (parseScriptConfig env inventory.scriptConfig).1))
          (initialSandbox env db inventory order quantity outside)).1 := by
  have same_order : (initialSandbox env db inventory order quantity outside).order = order := rfl
  have same_inventory :
      (initialSandbox env db inventory order quantity outside).inventory = inventory := rfl
  simp only [executeDeliveryScript, if_neg script, reads, runProgram, deliver, same_order,
    same_inventory]
  cases (runProgram env (onDeliver (orderToJS env order quantity)
    (.map (parseScriptConfig env inventory.scriptConfig).1))
      (initialSandbox env db inventory order quantity outside)).1 <;> rfl

theorem callOutcome_itemValues (quantity : Int) {l : List (String × String)}
    (filled : ∀ p ∈ l, p.1 ≠ "") :
    callOutcome quantity (.ok (successValue (l.map fun p => itemValue p.1 p.2))) =
      (some ⟨true, l.map fun p => ⟨p.1, p.2⟩, ""⟩,
        if l = [] then some "script returned no delivery items" else none) := by
  rw [callOutcome_successValue, deliveredItems_itemValue filled]
  simp

/-! ### The ten-second timer -/

/-- A call of `onDeliver` under the timer of `ExecuteDeliveryScript`: with `some n`,
`vm.Interrupt("execution timeout")` takes effect at the script's first step after its `n`-th
host call has returned, and the call throws goja's `InterruptedError`, whose text is the
interrupt's value and a short stack `stack`; with `none`, or once the call has returned, the
timer changes nothing. -/
def timed {α : Type} (stack : String) :
    Option Nat → Program (Except String α) → Program (Except String α)
  | none, p => p
  | some 0, _ => .pure (.error ("execution timeout" ++ stack))
  | some (_ + 1), .pure a => .pure a
  | some (n + 1), .effect e k => .effect e fun v => timed stack (some n) (k v)

/-- Every run of a program makes exactly `d` host calls. -/
inductive Calls {α : Type} : Nat → Program α → Prop where
  | pure (a : α) : Calls 0 (.pure a)
  | effect {d : Nat} (e : Effect) {k : GoValue → Program α} :
    (∀ v, Calls d (k v)) → Calls (d + 1) (.effect e k)

def Interrupts (timer : Option Nat) (d : Nat) : Prop := timer.any (· ≤ d)

instance (timer : Option Nat) (d : Nat) : Decidable (Interrupts timer d) :=
  inferInstanceAs (Decidable (_ = true))

theorem runProgram_timed {α : Type} (env : Env σ) (stack : String) {d : Nat}
    {p : Program (Except String α)} (calls : Calls d p) (timer : Option Nat) (s : Sandbox σ) :
    (runProgram env (timed stack timer p) s).1 =
      if Interrupts timer d then .error ("execution timeout" ++ stack) else (runProgram env p s).1 := by
  induction calls generalizing timer s with
  | pure a =>
    match timer with
    | none => simp [timed, Interrupts]
    | some 0 => simp [timed, Interrupts, runProgram]
    | some (n + 1) => simp [timed, Interrupts]
  | @effect d e k calls ih =>
    match timer with
    | none => simp [timed, Interrupts]
    | some 0 => simp [timed, Interrupts, runProgram]
    | some (n + 1) =>
      have shift : Interrupts (some (n + 1)) (d + 1) ↔ Interrupts (some n) d := by
        simp [Interrupts]
      simp only [timed, runProgram, ih, shift]

/-- What `ExecuteDeliveryScript` returns for a script whose top level only defines `onDeliver`,
a body making `d` host calls under the timer: the timeout when the timer fires first, and the
outcome of the body otherwise. -/
theorem executeDeliveryScript_timed (env : Env σ) (db : Db) (inventory : VirtualInventory)
    (order : Order) (quantity : Int) (outside : σ) (script : inventory.script ≠ "")
    (body : OnDeliver) (timer : Option Nat) (stack : String)
    (reads : env.eval inventory.script =
      .pure (.ok (some fun order config => timed stack timer (body order config))))
    {d : Nat} (calls : Calls d (body (orderToJS env order quantity)
      (.map (parseScriptConfig env inventory.scriptConfig).1))) :
    (executeDeliveryScript env db inventory order quantity outside).1 =
      if Interrupts timer d then (none, some ("onDeliver execution error: execution timeout" ++ stack))
      else callOutcome quantity (runProgram env (body (orderToJS env order quantity)
        (.map (parseScriptConfig env inventory.scriptConfig).1))
          (initialSandbox env db inventory order quantity outside)).1 := by
  rw [executeDeliveryScript_of_pure env db inventory order quantity outside script reads,
    runProgram_timed env stack calls]
  split <;> rfl

/-! ### A sample deployment -/

def sampleEnv (script : Script) : Env Int where
  http := ⟨.ok, fun _ => true, fun _ => .ok "", fun _ _ => none, fun _ => none, fun _ => ""⟩
  fold := fun a b => a == b
  eval := fun _ => script
  unmarshalObject := fun _ => .ok []
  unmarshalValue := fun _ => none
  formatRFC3339 := fun _ => ""
  clock := fun t => (t, t + 1)
  send := fun t _ => (.error "offline", t)
  iterate := fun _ headers => headers
  iterate_perm := fun _ _ => List.Perm.refl _

def sampleDb : Db := ⟨fun _ => [], fun id => some ⟨id, "buyer", "buyer@shop"⟩⟩

def sampleInventory : VirtualInventory := ⟨1, "onDeliver", ""⟩

def sampleOrder : Order where
  id := 1
  orderNo := "O1"
  userID := some 1
  status := ⟨"paid"⟩
  items := []
  inventoryBindings := []
  promoCodeID := none
  actualAttributes := ""
  adminRemark := ""
  details := ⟨"", "", "", "", "", "", "", "", "", "", false, "", none, none, none, "", false,
    .zero false, "CNY", ""⟩
  createdAt := 0
  updatedAt := 0

/-! ### `SCRIPT_EXAMPLE_BASIC` -/

def exampleChars : List Char := "ABCDEFGHJKLMNPQRSTUVWXYZ23456789".toList

theorem exampleChars_length : exampleChars.length = 32 := rfl

def charAt (k : Fin 32) : Char := exampleChars.get (k.cast exampleChars_length.symm)

/-- The code of one item: for `s` from 0 to 3, a `-` unless `s` is 0, then four characters,
the `j`-th from the draw `start + 4 * s + j`. -/
def basicCode (random : Nat → Fin 32) (start : Nat) : String :=
  (List.range 4).foldl (fun code s =>
    (List.range 4).foldl (fun code j => code.push (charAt (random (start + 4 * s + j))))
      (if s > 0 then code ++ "-" else code)) ""

def basicItems (random : Nat → Fin 32) (order : GoValue) : List GoValue :=
  (List.range (passes (member order "quantity"))).map fun i =>
    itemValue (basicCode random (16 * i))
      ("Order " ++ jsText (member order "order_no") ++ " #" ++ toString (i + 1))

/-- `SCRIPT_EXAMPLE_BASIC` as goja runs it, for the draws `random` and the timer. -/
def basicExample (random : Nat → Fin 32) (timer : Option Nat) (stack : String) : Script :=
  .pure (.ok (some fun order _ =>
    timed stack timer (.pure (.ok (successValue (basicItems random order))))))

/-- A code of the basic example: four groups of four characters of its alphabet, joined by
`-`. -/
def IsActivationCode (code : String) : Prop :=
  ∃ groups : List (List Char), groups.length = 4 ∧
    (∀ g ∈ groups, g.length = 4 ∧ ∀ c ∈ g, c ∈ exampleChars) ∧
    code.toList = ['-'].intercalate groups

theorem foldl_push (f : Nat → Char) (l : List Nat) (init : String) :
    l.foldl (fun code j => code.push (f j)) init = init ++ String.mk (l.map f) := by
  induction l generalizing init with
  | nil => exact String.ext (by simp)
  | cons j l ih =>
    rw [List.foldl_cons, ih]
    exact String.ext (by simp [String.push])

theorem basicCode_toList (random : Nat → Fin 32) (start : Nat) :
    (basicCode random start).toList = ['-'].intercalate ((List.range 4).map fun s =>
      (List.range 4).map fun j => charAt (random (start + 4 * s + j))) := by
  have range : List.range 4 = [0, 1, 2, 3] := rfl
  simp only [basicCode, range, List.foldl_cons, List.foldl_nil, foldl_push]
  simp [List.intercalate]

theorem basicCode_isActivationCode (random : Nat → Fin 32) (start : Nat) :
    IsActivationCode (basicCode random start) :=
  ⟨_, by simp, by simp [charAt, List.get_mem], basicCode_toList random start⟩

theorem basicCode_ne_empty (random : Nat → Fin 32) (start : Nat) :
    basicCode random start ≠ "" := by
  intro empty
  have whole := basicCode_toList random start
  rw [empty, show List.range 4 = [0, 1, 2, 3] from rfl] at whole
  simp [List.intercalate] at whole

/-- For every sequence of draws: unless the timer fires first, a positive quantity gets
exactly that many items, the `i`-th an activation code with the remark
`Order <order_no> #<i + 1>`, and a quantity of zero or less gets none, and the delivery fails;
a timer firing before the loop ends fails the delivery with the timeout. -/
theorem basicExample_delivers (env : Env σ) (db : Db) (inventory : VirtualInventory)
    (order : Order) (quantity : Int) (outside : σ) (random : Nat → Fin 32) (timer : Option Nat)
    (stack : String) (script : inventory.script ≠ "")
    (reads : env.eval inventory.script = basicExample random timer stack) :
    let out := (executeDeliveryScript env db inventory order quantity outside).1
    (Interrupts timer 0 →
      out = (none, some ("onDeliver execution error: execution timeout" ++ stack))) ∧
    (¬ Interrupts timer 0 →
      (0 < quantity → ∃ items, out = (some ⟨true, items, ""⟩, none) ∧
        items.length = quantity.toNat ∧ ∀ i (h : i < items.length),
          IsActivationCode items[i].content ∧
          items[i].remark = "Order " ++ order.orderNo ++ " #" ++ toString (i + 1)) ∧
      (quantity ≤ 0 →
        out = (some ⟨true, [], ""⟩, some "script returned no delivery items"))) := by
  let l := (List.range quantity.toNat).map fun i =>
    (basicCode random (16 * i), "Order " ++ order.orderNo ++ " #" ++ toString (i + 1))
  have filled : ∀ p ∈ l, p.1 ≠ "" := by
    simp only [l, List.mem_map]
    rintro _ ⟨i, -, rfl⟩
    exact basicCode_ne_empty random (16 * i)
  have out := executeDeliveryScript_timed env db inventory order quantity outside script
    (fun order _ => .pure (.ok (successValue (basicItems random order)))) timer stack reads
    (.pure _)
  have body : basicItems random (orderToJS env order quantity) =
      l.map fun p => itemValue p.1 p.2 := by
    simp [basicItems, l, passes, jsText, Function.comp_def]
  dsimp only
  refine ⟨fun fired => by rw [out, if_pos fired], fun finished => ?_⟩
  rw [out, if_neg finished]
  simp only [runProgram, body, callOutcome_itemValues quantity filled]
  refine ⟨fun positive => ⟨l.map fun p => ⟨p.1, p.2⟩, ?_, by simp [l], fun i h => ?_⟩,
    fun none => ?_⟩
  · rw [if_neg (by simp [l]; omega)]
  · simp only [l, List.getElem_map, List.getElem_range]
    exact ⟨basicCode_isActivationCode random (16 * i), trivial⟩
  · simp [l, Int.toNat_eq_zero.2 none]

theorem basicExample_delivers_twice :
    let out := (executeDeliveryScript (sampleEnv (basicExample (fun _ => 0) none "")) sampleDb
      sampleInventory sampleOrder 2 0).1
    (Interrupts none 0 →
      out = (none, some ("onDeliver execution error: execution timeout" ++ ""))) ∧
    (¬ Interrupts none 0 →
      (0 < (2 : Int) → ∃ items, out = (some ⟨true, items, ""⟩, none) ∧
        items.length = (2 : Int).toNat ∧ ∀ i (h : i < items.length),
          IsActivationCode items[i].content ∧
          items[i].remark = "Order " ++ sampleOrder.orderNo ++ " #" ++ toString (i + 1)) ∧
      ((2 : Int) ≤ 0 →
        out = (some ⟨true, [], ""⟩, some "script returned no delivery items"))) :=
  basicExample_delivers (sampleEnv (basicExample (fun _ => 0) none "")) sampleDb sampleInventory
    sampleOrder 2 0 (fun _ => 0) none "" (by decide) rfl

/-! ### `SCRIPT_EXAMPLE_ORDER` -/

def orderPrefix (config : GoValue) : GoValue := jsOr (property config "prefix") (.string "VIP")

/-- The remark of each item: `user.name + " (" + user.email + ")"` when `order.getUser()`
found the buyer, empty when it found none (`if (user)` on `undefined`). -/
def orderRemark (user : GoValue) : String :=
  if truthy user then jsText (member user "name") ++ " (" ++ jsText (member user "email") ++ ")"
  else ""

/-- The passes of the loop still to run, with the items pushed so far: each pass calls
`generateId` and pushes `prefix + "-" + id`. -/
def orderLoop (pfx : String) (user : GoValue) :
    Nat → List GoValue → Program (Except String GoValue)
  | 0, items => .pure (.ok (successValue items))
  | n + 1, items => .effect (.call .generateId []) fun id =>
    orderLoop pfx user n (items ++ [itemValue (pfx ++ "-" ++ jsText id) (orderRemark user)])

/-- `onDeliver` of `SCRIPT_EXAMPLE_ORDER`: `getUser`, then `getTimestamp`, whose reading the
script never uses, then the loop. -/
def orderDeliver : OnDeliver := fun order config =>
  .effect (.call .orderGetUser []) fun user =>
    .effect (.call .getTimestamp []) fun _ =>
      orderLoop (jsText (orderPrefix config)) user (passes (member order "quantity")) []

def orderExample (timer : Option Nat) (stack : String) : Script :=
  .pure (.ok (some fun order config => timed stack timer (orderDeliver order config)))

theorem calls_orderLoop (pfx : String) (user : GoValue) (n : Nat) (items : List GoValue) :
    Calls n (orderLoop pfx user n items) := by
  induction n generalizing items with
  | zero => exact .pure _
  | succ n ih => exact .effect _ fun _ => ih _

theorem calls_orderDeliver (order config : GoValue) :
    Calls (passes (member order "quantity") + 2) (orderDeliver order config) :=
  .effect _ fun _ => .effect _ fun _ => calls_orderLoop _ _ _ _

def clockReadings (env : Env σ) : Nat → σ → List Int
  | 0, _ => []
  | n + 1, o => (env.clock o).1 :: clockReadings env n (env.clock o).2

theorem clockReadings_length (env : Env σ) (n : Nat) (o : σ) :
    (clockReadings env n o).length = n := by
  induction n generalizing o with
  | zero => rfl
  | succ n ih => simp [clockReadings, ih]

theorem runProgram_orderLoop (env : Env σ) (pfx : String) (user : GoValue) (n : Nat)
    (items : List GoValue) (s : Sandbox σ) :
    (runProgram env (orderLoop pfx user n items) s).1 = .ok (successValue (items ++
      (clockReadings env n s.outside).map fun t => itemValue (pfx ++ "-" ++ toString t)
        (orderRemark user))) := by
  induction n generalizing items s with
  | zero => simp [orderLoop, runProgram, clockReadings]
  | succ n ih =>
    simp only [orderLoop, runProgram, perform, readClock, ih, clockReadings, List.map_cons]
    simp [jsText]

theorem toDigits_ne_minus (m : Nat) (rest : List Char) : Nat.toDigits 10 m ≠ '-' :: rest :=
  fun same => absurd ((ConfigEditor.toDigits_spec m).2.1 '-' (same ▸ List.mem_cons_self _ _))
    (by decide)

theorem toDigits_inj {a b : Nat} (same : Nat.toDigits 10 a = Nat.toDigits 10 b) : a = b := by
  rw [← (ConfigEditor.toDigits_spec a).1, same, (ConfigEditor.toDigits_spec b).1]

theorem toString_int_injective : Function.Injective (toString : Int → String) := by
  intro a b same
  replace same := congrArg String.toList same
  cases a <;> cases b
  case ofNat.ofNat a b => exact congrArg _ (toDigits_inj same)
  case ofNat.negSucc a b => exact absurd same (toDigits_ne_minus _ _)
  case negSucc.ofNat a b => exact absurd same.symm (toDigits_ne_minus _ _)
  case negSucc.negSucc a b =>
    exact congrArg _ (Nat.succ.inj (toDigits_inj (List.cons_injective same)))

theorem dashed_injective (pfx : String) :
    Function.Injective fun t : Int => pfx ++ "-" ++ toString t :=
  fun _ _ same =>
    toString_int_injective (String.ext (List.append_cancel_left (congrArg String.toList same)))

def buyerRemark : Option User → String
  | none => ""
  | some u => u.name ++ " (" ++ u.email ++ ")"

theorem perform_orderGetUser (env : Env σ) (args : List Arg) (s : Sandbox σ) :
    orderRemark (perform env (.call .orderGetUser args) s).value =
      buyerRemark (s.order.userID.bind s.db.users) ∧
    (perform env (.call .orderGetUser args) s).sandbox = s := by
  simp only [perform]
  split
  next found => simp [found, orderRemark, buyerRemark, truthy]
  next u found => simp [found, orderRemark, buyerRemark, truthy, member, jsText, List.lookup_cons]

theorem dashed_ne_empty (pfx : String) (t : Int) : pfx ++ "-" ++ toString t ≠ "" :=
  fun empty => by simpa [show "-".length = 1 from rfl] using congrArg String.length empty

/-- For every clock and every quantity: unless the timer fires first, the order example
delivers one item per unit, the `i`-th `prefix-t` for the clock's `i`-th reading `t` after the
one `getTimestamp` takes, with the prefix from the script configuration (`VIP` by default) and
the buyer's name and email as remark, and a quantity of zero or less fails the delivery; a
timer firing before the call's last host call has returned fails it with the timeout. Its codes
are distinct exactly when those readings are. -/
theorem orderExample_delivers (env : Env σ) (db : Db) (inventory : VirtualInventory)
    (order : Order) (quantity : Int) (outside : σ) (timer : Option Nat) (stack : String)
    (script : inventory.script ≠ "") (reads : env.eval inventory.script = orderExample timer stack) :
    let pfx := jsText (orderPrefix (.map (parseScriptConfig env inventory.scriptConfig).1))
    let readings := clockReadings env quantity.toNat (env.clock outside).2
    let items := readings.map fun t =>
      (⟨pfx ++ "-" ++ toString t, buyerRemark (order.userID.bind db.users)⟩ :
        ScriptDeliveryItem)
    let out := (executeDeliveryScript env db inventory order quantity outside).1
    (Interrupts timer (quantity.toNat + 2) →
      out = (none, some ("onDeliver execution error: execution timeout" ++ stack))) ∧
    (¬ Interrupts timer (quantity.toNat + 2) →
      out = (some ⟨true, items, ""⟩,
        if quantity ≤ 0 then some "script returned no delivery items" else none)) ∧
    ((items.map ScriptDeliveryItem.content).Nodup ↔ readings.Nodup) := by
  intro pfx readings items
  dsimp only
  obtain ⟨remark, same⟩ := perform_orderGetUser env []
    (initialSandbox env db inventory order quantity outside)
  have timedOut := executeDeliveryScript_timed env db inventory order quantity outside script
    orderDeliver timer stack reads (calls_orderDeliver _ _)
  simp only [member_quantity, passes] at timedOut
  have body : (runProgram env (orderDeliver (orderToJS env order quantity)
      (.map (parseScriptConfig env inventory.scriptConfig).1))
        (initialSandbox env db inventory order quantity outside)).1 =
      .ok (successValue ((readings.map fun t => (pfx ++ "-" ++ toString t,
        buyerRemark (order.userID.bind db.users))).map fun p => itemValue p.1 p.2)) := by
    simp only [orderDeliver, runProgram, same, remark, readClock, runProgram_orderLoop]
    simp [passes, perform, readClock, initialSandbox, Function.comp_def, pfx, readings]
  refine ⟨fun fired => by rw [timedOut, if_pos fired], fun finished => ?_, ?_⟩
  · rw [timedOut, if_neg finished, body, callOutcome_itemValues quantity (by simp [dashed_ne_empty])]
    simp [items, readings, List.map_eq_nil_iff, ← List.length_eq_zero, clockReadings_length]
  · rw [List.map_map]
    exact List.nodup_map_iff (dashed_injective pfx)

theorem orderExample_delivers_twice :
    let env := sampleEnv (orderExample none "")
    let pfx := jsText (orderPrefix (.map (parseScriptConfig env sampleInventory.scriptConfig).1))
    let readings := clockReadings env (2 : Int).toNat (env.clock 0).2
    let items := readings.map fun t => (⟨pfx ++ "-" ++ toString t,
      buyerRemark (sampleOrder.userID.bind sampleDb.users)⟩ : ScriptDeliveryItem)
    let out := (executeDeliveryScript env sampleDb sampleInventory sampleOrder 2 0).1
    (Interrupts none ((2 : Int).toNat + 2) →
      out = (none, some ("onDeliver execution error: execution timeout" ++ ""))) ∧
    (¬ Interrupts none ((2 : Int).toNat + 2) →
      out = (some ⟨true, items, ""⟩,
        if (2 : Int) ≤ 0 then some "script returned no delivery items" else none)) ∧
    ((items.map ScriptDeliveryItem.content).Nodup ↔ readings.Nodup) :=
  orderExample_delivers (sampleEnv (orderExample none "")) sampleDb sampleInventory sampleOrder 2 0
    none "" (by decide) rfl

/-! ### `SCRIPT_EXAMPLE_HTTP` -/

/-- The arguments of `http.post(config.api_url, { order_no, quantity },
{ Authorization: "Bearer " + config.api_key })`: what `String()` and `Export()` give for
each. -/
def apiArgs (order config : GoValue) : List Arg :=
  [⟨propertyText (property config "api_url"), (property config "api_url").getD .nil⟩,
    ⟨"[object Object]",
      .map [("order_no", member order "order_no"), ("quantity", member order "quantity")]⟩,
    ⟨"[object Object]",
      .map [("Authorization", .string ("Bearer " ++ propertyText (property config "api_key")))]⟩]

def statusIs200 : Option GoValue → Bool
  | some (.int n) => n = 200
  | _ => false

/-- The elements `codes.length` and `codes[i]` reach: an array's own, and for any other
value what goja reads from it, `elements`. -/
def codeElements (elements : GoValue → List GoValue) : GoValue → List GoValue
  | .slice xs => xs
  | v => elements v

/-- What `onDeliver` returns for the value `http.post` hands back. `typeError` is goja's
error for reading `codes` of the value printed as its argument. Each item's `content` is
`codes[i]` exported back: a string when the element is one, which is all
`parseDeliveryResult` reads of it. -/
def apiReply (typeError : String → String) (elements : GoValue → List GoValue)
    (resp : GoValue) :
    Except String GoValue :=
  if truthy (member resp "error") || !statusIs200 (property resp "status") then
    .ok (.map [("success", .bool false), ("message", jsOr (property resp "error")
      (.string ("API error: " ++ propertyText (property resp "status"))))])
  else
    match property resp "data" with
    | none => .error (typeError "undefined")
    | some .nil => .error (typeError "null")
    | some data =>
      .ok (successValue ((codeElements elements (jsOr (property data "codes") (.slice []))).map
        fun code => .map [("content", code), ("remark", .string "")]))

def apiDeliver (typeError : String → String) (elements : GoValue → List GoValue) : OnDeliver :=
  fun order config => .effect (.call .httpPost (apiArgs order config)) fun resp =>
    .pure (apiReply typeError elements resp)

def httpExample (typeError : String → String) (elements : GoValue → List GoValue)
    (timer : Option Nat) (stack : String) : Script :=
  .pure (.ok (some fun order config => timed stack timer (apiDeliver typeError elements order config)))

def apiBody (order : Order) (quantity : Int) : GoValue :=
  .map [("order_no", .string order.orderNo), ("quantity", .int quantity)]

/-- With `api_url` and `api_key` set to strings, `onDeliver` posts the order to that URL
with the key as bearer token, and replies to what `doHTTPRequest` returns. -/
theorem runProgram_apiDeliver (typeError : String → String) (elements : GoValue → List GoValue)
    (env : Env σ) (order : Order) (quantity : Int) {config : List (String × GoValue)}
    {url key : String} (urlSet : config.lookup "api_url" = some (.string url))
    (keySet : config.lookup "api_key" = some (.string key)) (s : Sandbox σ) :
    (runProgram env (apiDeliver typeError elements (orderToJS env order quantity) (.map config))
      s).1 = apiReply typeError elements (doHTTPRequest env.http env.fold env.send "POST" url
        (apiBody order quantity) [("Authorization", "Bearer " ++ key)] s.outside).1 := by
  have single := List.perm_singleton.1
    (env.iterate_perm s.outside [("Authorization", "Bearer " ++ key)])
  simp [runProgram, apiDeliver, perform, httpCall, ScriptHttp.httpPost, apiArgs, urlSet, keySet,
    propertyText, jsText, extractHeaders, stringProperty, single, apiBody]

@[simp] theorem initialSandbox_outside (env : Env σ) (db : Db) (inventory : VirtualInventory)
    (order : Order) (quantity : Int) (outside : σ) :
    (initialSandbox env db inventory order quantity outside).outside = outside := rfl

def codeItem : GoValue → Option ScriptDeliveryItem
  | .string c => if c = "" then none else some ⟨c, ""⟩
  | _ => none

theorem deliveredItems_codes (codes : List GoValue) :
    deliveredItems (codes.map fun code => .map [("content", code), ("remark", .string "")]) =
      codes.filterMap codeItem := by
  rw [deliveredItems, List.filterMap_map]
  congr 1
  funext code
  cases code <;> rfl

def failedDelivery (m : String) : Option ScriptDeliveryResult × Option String :=
  (some ⟨false, [], m⟩, some ("script delivery failed: " ++ m))

theorem append_ne_empty {p : String} (x : String) (ne : p ≠ "") : p ++ x ≠ "" :=
  fun same => ne (String.ext (List.append_eq_nil.1 (congrArg String.data same)).1)

theorem prepareBody_error_ne_empty {env : HttpEnv} {body : GoValue} {e : String}
    (failed : prepareBody env body = .error e) : e ≠ "" := by
  cases body <;> simp only [prepareBody] at failed <;> try (split at failed <;> cases failed)
  all_goals first | cases failed | exact append_ne_empty _ (by decide)

theorem buildRequest_error_ne_empty {env : HttpEnv} {fold : Char → Char → Bool}
    {method urlStr : String} {body : GoValue} {headers : List (String × String)} {e : String}
    (failed : buildRequest env fold method urlStr body headers = .error e) : e ≠ "" := by
  unfold buildRequest at failed
  cases parsed : env.parseURL urlStr <;> simp only [parsed] at failed
  · cases failed; exact append_ne_empty _ (by decide)
  simp only [pure_bind] at failed
  split at failed
  · cases failed; decide
  cases prepared : prepareBody env body <;> simp only [prepared, pure_bind] at failed
  · cases failed; exact prepareBody_error_ne_empty prepared
  split at failed <;> cases failed
  exact append_ne_empty _ (by decide)

theorem parseDeliveryResult_failure {m : String} (ne : m ≠ "") (quantity : Int) :
    (parseDeliveryResult (.map [("success", .bool false), ("message", .string m)]) quantity).1 =
      failedDelivery m := by
  simp [parseDeliveryResult, successField, stringField, ne, failedDelivery, List.lookup_cons]

theorem apiReply_errorValue (typeError : String → String) (elements : GoValue → List GoValue)
    {m : String} (ne : m ≠ "") (status : Int) :
    apiReply typeError elements (errorValue m status) =
      .ok (.map [("success", .bool false), ("message", .string m)]) := by
  simp [apiReply, errorValue, member, truthy, ne, jsOr, List.lookup_cons]

section Answer

variable (typeError : String → String) (elements : GoValue → List GoValue) (env : HttpEnv)
  {resp : Response} (read : resp.readError = none)
include read

theorem apiReply_status (other : resp.statusCode ≠ 200) :
    apiReply typeError elements (responseValue env (.ok resp)) =
      .ok (.map [("success", .bool false),
        ("message", .string ("API error: " ++ toString resp.statusCode))]) := by
  simp only [responseValue, read]
  split <;> simp [apiReply, other, statusIs200, member, jsOr, propertyText, jsText, truthy,
    List.lookup_cons]

theorem apiReply_codes (ok : resp.statusCode = 200)
    (json : contains ((resp.header.get "Content-Type").getD "") "application/json")
    {fields : List (String × GoValue)}
    (parsed : env.unmarshal (resp.body.take responseLimit) = some (.map fields))
    {codes : List GoValue} (listed : fields.lookup "codes" = some (.slice codes)) :
    apiReply typeError elements (responseValue env (.ok resp)) =
      .ok (successValue
        (codes.map fun code => .map [("content", code), ("remark", .string "")])) := by
  simp [responseValue, read, json, parsed, apiReply, ok, statusIs200, member, truthy, listed, jsOr,
    codeElements, List.lookup_cons]

theorem apiReply_not_json (ok : resp.statusCode = 200)
    (plain : contains ((resp.header.get "Content-Type").getD "") "application/json" = false) :
    apiReply typeError elements (responseValue env (.ok resp)) =
      .error (typeError "undefined") := by
  simp [responseValue, read, plain, apiReply, ok, statusIs200, member, truthy, List.lookup_cons]

end Answer

/-- What the HTTP example does with the order, whatever the API answers, once `api_url` and
`api_key` are configured as strings: the script posts `{ order_no, quantity }` to that URL
with the key as bearer token. A timer firing before the answer is back fails the delivery
with the timeout. Otherwise a request that cannot be built or sent, a response whose body
cannot be read, and any status but 200 fail the delivery with the reason; a 200 response with
a JSON object whose `codes` is an array delivers that array's non-empty strings, in order, and
nothing else; a 200 response that is not declared JSON makes the script throw. -/
theorem httpExample_forwards (env : Env σ) (db : Db) (inventory : VirtualInventory)
    (order : Order) (quantity : Int) (outside : σ) (typeError : String → String)
    (elements : GoValue → List GoValue) (timer : Option Nat) (stack : String)
    (script : inventory.script ≠ "")
    (reads : env.eval inventory.script = httpExample typeError elements timer stack)
    {url key : String}
    (urlSet :
      (parseScriptConfig env inventory.scriptConfig).1.lookup "api_url" = some (.string url))
    (keySet :
      (parseScriptConfig env inventory.scriptConfig).1.lookup "api_key" = some (.string key)) :
    let out := (executeDeliveryScript env db inventory order quantity outside).1
    let built := buildRequest env.http env.fold "POST" url (apiBody order quantity)
      [("Authorization", "Bearer " ++ key)]
    (Interrupts timer 1 →
      out = (none, some ("onDeliver execution error: execution timeout" ++ stack))) ∧
    (¬ Interrupts timer 1 →
      (∀ e, built = .error e → out = failedDelivery e) ∧
      ∀ req, built = .ok req →
        (∀ e, (env.send outside req).1 = .error e →
          out = failedDelivery ("Request failed: " ++ e)) ∧
        ∀ resp, (env.send outside req).1 = .ok resp →
          (∀ e, resp.readError = some e →
            out = failedDelivery ("Failed to read response: " ++ e)) ∧
          (resp.readError = none → resp.statusCode ≠ 200 →
            out = failedDelivery ("API error: " ++ toString resp.statusCode)) ∧
          (resp.readError = none → resp.statusCode = 200 →
            (∀ fields codes,
              contains ((resp.header.get "Content-Type").getD "") "application/json" →
              env.http.unmarshal (resp.body.take responseLimit) = some (.map fields) →
              fields.lookup "codes" = some (.slice codes) →
              out = (some ⟨true, codes.filterMap codeItem, ""⟩, if codes.filterMap codeItem = []
                then some "script returned no delivery items" else none)) ∧
            (contains ((resp.header.get "Content-Type").getD "") "application/json" = false →
              out = (none, some ("onDeliver execution error: " ++ typeError "undefined"))))) := by
  dsimp only
  have timedOut := executeDeliveryScript_timed env db inventory order quantity outside script
    (apiDeliver typeError elements) timer stack reads (.effect _ fun _ => .pure _)
  refine ⟨fun fired => by rw [timedOut, if_pos fired], fun finished => ?_⟩
  have failed : ∀ {m : String} status, m ≠ "" →
      callOutcome quantity (apiReply typeError elements (errorValue m status)) = failedDelivery m :=
    fun status ne => by
      rw [apiReply_errorValue typeError elements ne]
      exact parseDeliveryResult_failure ne quantity
  rw [timedOut, if_neg finished,
    runProgram_apiDeliver typeError elements env order quantity urlSet keySet,
    initialSandbox_outside]
  refine ⟨fun e refused => ?_, fun req ok => ⟨fun e down => ?_, fun resp answered =>
    ⟨fun e unread => ?_, fun read other => ?_, fun read ok200 =>
      ⟨fun fields codes json parsed listed => ?_, fun plain => ?_⟩⟩⟩⟩
  · simp only [doHTTPRequest, refused]
    exact failed 0 (buildRequest_error_ne_empty refused)
  · simp only [doHTTPRequest, ok, down, responseValue]
    exact failed 0 (append_ne_empty _ (by decide))
  all_goals simp only [doHTTPRequest, ok, answered]
  · simp only [responseValue, unread]
    exact failed _ (append_ne_empty _ (by decide))
  · rw [apiReply_status typeError elements env.http read other]
    exact parseDeliveryResult_failure (append_ne_empty _ (by decide)) quantity
  · rw [apiReply_codes typeError elements env.http read ok200 json parsed listed,
      callOutcome_successValue, deliveredItems_codes]
  · rw [apiReply_not_json typeError elements env.http read ok200 plain]
    rfl

def apiEnv : Env Int :=
  { sampleEnv (httpExample (fun _ => "TypeError") (fun _ => []) none "") with
    unmarshalObject := fun _ => .ok [("api_url", .string "/codes"), ("api_key", .string "k")] }

def apiInventory : VirtualInventory := ⟨2, "onDeliver", "api"⟩

theorem httpExample_forwards_sample :
    let out := (executeDeliveryScript apiEnv sampleDb apiInventory sampleOrder 2 0).1
    let built := buildRequest apiEnv.http apiEnv.fold "POST" "/codes" (apiBody sampleOrder 2)
      [("Authorization", "Bearer " ++ "k")]
    (Interrupts none 1 →
      out = (none, some ("onDeliver execution error: execution timeout" ++ ""))) ∧
    (¬ Interrupts none 1 →
      (∀ e, built = .error e → out = failedDelivery e) ∧
      ∀ req, built = .ok req →
        (∀ e, (apiEnv.send 0 req).1 = .error e →
          out = failedDelivery ("Request failed: " ++ e)) ∧
        ∀ resp, (apiEnv.send 0 req).1 = .ok resp →
          (∀ e, resp.readError = some e →
            out = failedDelivery ("Failed to read response: " ++ e)) ∧
          (resp.readError = none → resp.statusCode ≠ 200 →
            out = failedDelivery ("API error: " ++ toString resp.statusCode)) ∧
          (resp.readError = none → resp.statusCode = 200 →
            (∀ fields codes,
              contains ((resp.header.get "Content-Type").getD "") "application/json" →
              apiEnv.http.unmarshal (resp.body.take responseLimit) = some (.map fields) →
              fields.lookup "codes" = some (.slice codes) →
              out = (some ⟨true, codes.filterMap codeItem, ""⟩, if codes.filterMap codeItem = []
                then some "script returned no delivery items" else none)) ∧
            (contains ((resp.header.get "Content-Type").getD "") "application/json" = false →
              out = (none, some ("onDeliver execution error: " ++ "TypeError"))))) :=
  httpExample_forwards apiEnv sampleDb apiInventory sampleOrder 2 0 (fun _ => "TypeError")
    (fun _ => []) none "" (by decide) rfl rfl rfl

end AuraLogic.ScriptDelivery
