import AuraLogic.Models
import AuraLogic.TransitionSystem
import AuraLogic.NumberLiteral
import Mathlib.Logic.Function.Basic
import Mathlib.Data.List.Basic

/-! One-time invoice download tokens: `GetInvoiceToken` and `ViewInvoiceByToken` as concurrent
requests over a cache with atomic `Get`, `Set` and `Del`, keys expiring at any moment. The
world's `log` records the reads, deletions and 200 answers the properties speak about. -/

namespace AuraLogic.InvoiceToken

/-- The configuration, the orders table, and the rendering of an invoice page. -/
structure InvoiceEnv where
  enabled : Bool
  orders : String → Option Order
  /-- `buildInvoiceData`, then the template's parse and execution: the page, or the text of
  the 500 answer. -/
  render : Order → Except String String

def dlKey (token : String) : String := "invoice_dl:" ++ token

def pendingKey (userID : Nat) (orderNo : String) : String :=
  "invoice_pending:" ++ toString userID ++ ":" ++ orderNo

/-- The value stored under a download key, `userID:orderNo`. -/
def tokenValue (userID : Nat) (orderNo : String) : String := toString userID ++ ":" ++ orderNo

/-- `fmt.Sprintf("%x", b)`: two hex digits per byte. -/
def hexString (b : List UInt8) : String :=
  String.mk (b.flatMap fun x => [hexDigit (x.toNat / 16), hexDigit (x.toNat % 16)])

theorem dlKey_inj {token token' : String} : dlKey token = dlKey token' ↔ token = token' :=
  ⟨fun same => String.ext (List.append_cancel_left (congrArg String.data same)), congrArg dlKey⟩

theorem dlKey_ne_pending (token rest : String) : dlKey token ≠ "invoice_pending:" ++ rest := by
  intro same
  have := congrArg (fun s : String => s.data.take 9) same
  simp [dlKey] at this

theorem dlKey_ne_pendingKey (token : String) (userID : Nat) (orderNo : String) :
    dlKey token ≠ pendingKey userID orderNo := by
  rw [pendingKey, String.append_assoc, String.append_assoc]
  exact dlKey_ne_pending _ _

/-- `strings.SplitN(value, ":", 2)` when it gives two parts. -/
def splitAtColon (value : String) : Option (String × String) :=
  let before := value.toList.takeWhile (· ≠ ':')
  match value.toList.dropWhile (· ≠ ':') with
  | ':' :: after => some (String.mk before, String.mk after)
  | _ => none

/-- `strconv.ParseUint(s, 10, 32)`. -/
def parseUint32 (s : String) : Option Nat :=
  if s.toList ≠ [] ∧ s.toList.all Char.isDigit then
    let n := s.toList.foldl (fun n c => 10 * n + (c.toNat - '0'.toNat)) 0
    if n < 2 ^ 32 then some n else none
  else none

/-- Where a request stands: the next cache operation it makes, or its answer. -/
inductive Phase where
  | tokenPending (userID : Nat) (orderNo : String)
  | tokenRecheck (userID : Nat) (orderNo : String) (existing : String)
  | tokenGenerate (userID : Nat) (orderNo : String)
  | tokenRemember (userID : Nat) (orderNo : String) (token : String)
  | viewFetch (token : String)
  | viewConsume (token value : String)
  | viewRender (token value : String)
  | done (status : Nat) (body : String)
  deriving DecidableEq, Repr

inductive Event where
  | fetched (request : Nat) (token : String)
  | consumed (request : Nat) (token : String)
  | honoured (request : Nat) (token : String)
  deriving DecidableEq, Repr

structure World where
  cache : String → Option String
  requests : Nat → Option Phase
  issued : List String
  log : List Event

inductive Action where
  | requestToken (request : Nat) (userID : Nat) (orderNo : String)
  | requestView (request : Nat) (token : String)
  /-- The next operation of a request; `random` is what `crand.Read` fills a generation's
  buffer with, and `setOk` whether the cache accepts a `Set`. -/
  | step (request : Nat) (random : List UInt8) (setOk : Bool)
  | expire (key : String)

@[simps]
def World.setRequest (w : World) (request : Nat) (phase : Phase) : World :=
  { w with requests := Function.update w.requests request (some phase) }

@[simps]
def World.setCache (w : World) (key : String) (value : Option String) : World :=
  { w with cache := Function.update w.cache key value }

@[simps]
def World.issue (w : World) (token : String) : World := { w with issued := w.issued ++ [token] }

@[simps]
def World.record (w : World) (e : Event) : World := { w with log := w.log ++ [e] }

/-- The checks `GetInvoiceToken` makes before touching the cache. -/
def tokenChecks (env : InvoiceEnv) (userID : Nat) (orderNo : String) : Phase :=
  if orderNo = "" then .done 400 "Order number cannot be empty"
  else if !env.enabled then .done 400 "Invoice generation is not enabled"
  else
    match env.orders orderNo with
    | none => .done 404 "Order not found"
    | some order =>
      if order.userID ≠ some userID then .done 403 "No permission to access this order"
      else if order.status ≠ .completed then
        .done 400 "Invoice is only available for completed orders"
      else .tokenPending userID orderNo

/-- What `ViewInvoiceByToken` does once the token is deleted: the key of the pending token it
deletes, and its answer. -/
def viewAnswer (env : InvoiceEnv) (value : String) : Option String × Nat × String :=
  match splitAtColon value with
  | none => (none, 500, "Invalid token data")
  | some (user, orderNo) =>
    match parseUint32 user with
    | none => (none, 500, "Invalid token data")
    | some userID =>
      let pending := some ("invoice_pending:" ++ user ++ ":" ++ orderNo)
      if !env.enabled then (pending, 400, "Invoice generation is not enabled")
      else
        match env.orders orderNo with
        | none => (pending, 404, "Order not found")
        | some order =>
          if order.userID ≠ some userID then (pending, 403, "No permission")
          else if order.status ≠ .completed then
            (pending, 400, "Invoice is only available for completed orders")
          else
            match env.render order with
            | .error message => (pending, 500, message)
            | .ok page => (pending, 200, page)

theorem toList_tokenValue (userID : Nat) (orderNo : String) :
    (tokenValue userID orderNo).toList = Nat.toDigits 10 userID ++ ':' :: orderNo.toList := by
  simp only [tokenValue, String.toList, String.data_append, List.append_assoc,
    List.singleton_append]
  rfl

theorem splitAtColon_tokenValue (userID : Nat) (orderNo : String) :
    splitAtColon (tokenValue userID orderNo) = some (toString userID, orderNo) := by
  have noColon : ∀ c ∈ Nat.toDigits 10 userID, decide (c ≠ ':') = true := fun c mem =>
    decide_eq_true fun same => by
      have digit := (ConfigEditor.toDigits_spec userID).2.1 c mem
      subst same
      exact absurd digit (by decide)
  rw [splitAtColon, toList_tokenValue, List.takeWhile_append_of_pos noColon,
    List.dropWhile_append_of_pos noColon]
  simp
  rfl

theorem parseUint32_toString (userID : Nat) :
    parseUint32 (toString userID) = if userID < 2 ^ 32 then some userID else none := by
  obtain ⟨value, digits, -⟩ := ConfigEditor.toDigits_spec userID
  have nonempty : Nat.toDigits 10 userID ≠ [] := by
    rw [ConfigEditor.toDigits_eq]; split_ifs <;> simp
  have valid : (toString userID).toList ≠ [] ∧ (toString userID).toList.all Char.isDigit :=
    ⟨nonempty, List.all_eq_true.2 digits⟩
  rw [parseUint32, if_pos valid]
  show (if ConfigEditor.digitValue (Nat.toDigits 10 userID) < 2 ^ 32 then
    some (ConfigEditor.digitValue (Nat.toDigits 10 userID)) else none) = _
  rw [value]

theorem viewAnswer_pending (env : InvoiceEnv) (value : String) :
    (viewAnswer env value).1 = (splitAtColon value).bind fun (user, orderNo) =>
      (parseUint32 user).map fun _ => "invoice_pending:" ++ user ++ ":" ++ orderNo := by
  unfold viewAnswer
  split
  · next split => simp [split]
  · next user orderNo split =>
    split
    · next parsed => simp [split, parsed]
    · next userID parsed =>
      simp only [split, parsed, Option.some_bind, Option.map_some']
      repeat' split
      all_goals rfl

def advance (env : InvoiceEnv) (w : World) (r : Nat) (random : List UInt8) (setOk : Bool) :
    Phase → Option World
  | .tokenPending userID orderNo =>
    match w.cache (pendingKey userID orderNo) with
    | some existing =>
      if existing ≠ "" then some (w.setRequest r (.tokenRecheck userID orderNo existing))
      else some (w.setRequest r (.tokenGenerate userID orderNo))
    | none => some (w.setRequest r (.tokenGenerate userID orderNo))
  | .tokenRecheck userID orderNo existing =>
    match w.cache (dlKey existing) with
    | some _ => some (w.setRequest r (.done 200 existing))
    | none => some (w.setRequest r (.tokenGenerate userID orderNo))
  | .tokenGenerate userID orderNo =>
    let token := hexString random
    if random.length ≠ 32 ∨ token ∈ w.issued then none
    else if setOk then
      some (((w.setCache (dlKey token) (some (tokenValue userID orderNo))).issue token).setRequest
        r (.tokenRemember userID orderNo token))
    else some (w.setRequest r (.done 500 "Failed to generate download token"))
  | .tokenRemember userID orderNo token =>
    let w := if setOk then w.setCache (pendingKey userID orderNo) (some token) else w
    some (w.setRequest r (.done 200 token))
  | .viewFetch token =>
    match w.cache (dlKey token) with
    | none => some (w.setRequest r (.done 401 "Invalid or expired download token"))
    | some value => some ((w.record (.fetched r token)).setRequest r (.viewConsume token value))
  | .viewConsume token value =>
    some (((w.setCache (dlKey token) none).record (.consumed r token)).setRequest r
      (.viewRender token value))
  | .viewRender token value =>
    let (pending, status, body) := viewAnswer env value
    let w := match pending with
      | some key => w.setCache key none
      | none => w
    let w := if status = 200 then w.record (.honoured r token) else w
    some (w.setRequest r (.done status body))
  | .done _ _ => none

def transition (env : InvoiceEnv) (w : World) : Action → Option World
  | .requestToken r userID orderNo =>
    if (w.requests r).isSome then none else some (w.setRequest r (tokenChecks env userID orderNo))
  | .requestView r token =>
    if (w.requests r).isSome then none
    else if token = "" then some (w.setRequest r (.done 401 "Missing download token"))
    else some (w.setRequest r (.viewFetch token))
  | .step r random setOk =>
    match w.requests r with
    | some phase => advance env w r random setOk phase
    | none => none
  | .expire key => some (w.setCache key none)

def initial : World := ⟨fun _ => none, fun _ => none, [], []⟩

abbrev Reachable (env : InvoiceEnv) : World → Prop := Reach (· = initial) (transition env)

abbrev run (env : InvoiceEnv) : World → List Action → Option World := runSteps (transition env)

theorem reachable_initial (env : InvoiceEnv) : Reachable env initial := Reach.init rfl

/-! ### Reads come before deletions -/

/-- What a view in the middle of its run has done: read the key before deleting it, and
deleted it before rendering. -/
def PhaseOk (issued : List String) (log : List Event) (r : Nat) : Phase → Prop
  | .viewConsume token _ => token ∈ issued ∧ .fetched r token ∈ log
  | .viewRender token _ => .fetched r token ∈ log ∧ .consumed r token ∈ log
  | _ => True

theorem PhaseOk.mono {issued issued' : List String} {log log' : List Event} {r : Nat}
    {p : Phase} (more_issued : issued ⊆ issued') (more_log : log ⊆ log')
    (ok : PhaseOk issued log r p) : PhaseOk issued' log' r p := by
  cases p with
  | viewConsume token _ => exact ⟨more_issued ok.1, more_log ok.2⟩
  | viewRender token _ => exact ⟨more_log ok.1, more_log ok.2⟩
  | _ => trivial

theorem phaseOk_tokenChecks (issued : List String) (log : List Event) (r : Nat)
    (env : InvoiceEnv) (userID : Nat) (orderNo : String) :
    PhaseOk issued log r (tokenChecks env userID orderNo) := by
  unfold tokenChecks
  split_ifs
  · trivial
  · trivial
  · split
    · trivial
    · split_ifs <;> trivial

/-- Every read of a token's download key comes before every deletion of it. -/
def FetchFirst (log : List Event) : Prop :=
  ∀ (r r' : Nat) (token : String) (i j : Nat), log[i]? = some (.consumed r token) →
    log[j]? = some (.fetched r' token) → j < i

theorem getElem?_concat_eq_some {α : Type} {l : List α} {e x : α} {i : Nat}
    (found : (l ++ [e])[i]? = some x) : l[i]? = some x ∨ (i = l.length ∧ x = e) := by
  rcases Nat.lt_or_ge i l.length with lt | ge
  · left; rwa [List.getElem?_append_left lt] at found
  · obtain ⟨k, rfl⟩ := Nat.exists_eq_add_of_le ge
    rw [List.getElem?_append_right ge, Nat.add_sub_cancel_left] at found
    cases k with
    | zero => simp at found; exact .inr ⟨rfl, found.symm⟩
    | succ k => simp at found

theorem FetchFirst.record {log : List Event} {e : Event} (first : FetchFirst log)
    (fresh : ∀ r token, e = .fetched r token → ∀ r', .consumed r' token ∉ log) :
    FetchFirst (log ++ [e]) := by
  intro r r' token i j consumed fetched
  rcases getElem?_concat_eq_some consumed with consumed | ⟨rfl, rfl⟩ <;>
    rcases getElem?_concat_eq_some fetched with fetched | ⟨rfl, same⟩
  · exact first r r' token i j consumed fetched
  · exact absurd (List.mem_iff_getElem?.2 ⟨i, consumed⟩) (fresh r' token same.symm r)
  · exact (List.getElem?_eq_some_iff.1 fetched).1
  · cases same

/-- The invariant of every reachable world. A download key is filled only for a token just
issued, and a deleted one is never filled again, so no read of it follows its deletion. -/
structure Invariant (w : World) : Prop where
  issued_of_cached : ∀ token, w.cache (dlKey token) ≠ none → token ∈ w.issued
  gone_after_consume : ∀ r token, .consumed r token ∈ w.log →
    w.cache (dlKey token) = none ∧ token ∈ w.issued
  phases : ∀ r p, w.requests r = some p → PhaseOk w.issued w.log r p
  honoured_read : ∀ r token, .honoured r token ∈ w.log →
    .fetched r token ∈ w.log ∧ .consumed r token ∈ w.log
  fetch_first : FetchFirst w.log

theorem initial_invariant : Invariant initial where
  issued_of_cached _ cached := absurd rfl cached
  gone_after_consume _ _ := nofun
  phases _ _ := nofun
  honoured_read _ _ := nofun
  fetch_first _ _ _ _ _ consumed := by simp [initial] at consumed

section Preservation

variable {w : World} {r : Nat} {token value : String}

theorem Invariant.setRequest {p : Phase} (inv : Invariant w) (ok : PhaseOk w.issued w.log r p) :
    Invariant (w.setRequest r p) where
  __ := inv
  phases r' p' found := by
    rw [World.setRequest_requests, Function.update_apply] at found
    split_ifs at found with same
    · cases found; exact same ▸ ok
    · exact inv.phases r' p' found

theorem setCache_dlKey {key : String} {v : Option String}
    (keeps : ∀ token, key = dlKey token → v = none) (token : String) :
    (w.setCache key v).cache (dlKey token) = none ∨
      (w.setCache key v).cache (dlKey token) = w.cache (dlKey token) := by
  by_cases same : dlKey token = key
  · left; rw [World.setCache_cache, same, Function.update_same]; exact keeps token same.symm
  · exact .inr (Function.update_noteq same _ _)

theorem Invariant.setCache {key : String} {v : Option String} (inv : Invariant w)
    (keeps : ∀ token, key = dlKey token → v = none) : Invariant (w.setCache key v) where
  __ := inv
  issued_of_cached token cached := by
    rcases setCache_dlKey keeps token with gone | same
    · exact absurd gone cached
    · exact inv.issued_of_cached token (same ▸ cached)
  gone_after_consume r token consumed := by
    obtain ⟨gone, issued⟩ := inv.gone_after_consume r token consumed
    rcases setCache_dlKey keeps token with gone' | same
    · exact ⟨gone', issued⟩
    · exact ⟨same.trans gone, issued⟩

theorem Invariant.issue {fresh : String} (inv : Invariant w) (fresh_new : fresh ∉ w.issued)
    (v : String) : Invariant ((w.setCache (dlKey fresh) (some v)).issue fresh) where
  issued_of_cached token cached := by
    by_cases same : token = fresh
    · simp [same]
    · have old : w.cache (dlKey token) ≠ none := by
        simpa [Function.update_noteq (mt dlKey_inj.1 same)] using cached
      exact List.mem_append_left _ (inv.issued_of_cached token old)
  gone_after_consume r token consumed := by
    obtain ⟨gone, issued⟩ := inv.gone_after_consume r token consumed
    have other : dlKey token ≠ dlKey fresh := mt dlKey_inj.1 fun same => fresh_new (same ▸ issued)
    simpa [Function.update_noteq other, gone] using .inl issued
  phases r p found :=
    (inv.phases r p found).mono (List.subset_append_left _ _) (List.Subset.refl _)
  honoured_read := inv.honoured_read
  fetch_first := inv.fetch_first

/-- Logging an event, given what it needs: a deletion leaves the key empty, a 200 answer
follows the request's read and deletion, and a read finds no deletion before it. -/
theorem Invariant.record {e : Event} (inv : Invariant w)
    (consumed_gone : ∀ r token, e = .consumed r token →
      w.cache (dlKey token) = none ∧ token ∈ w.issued)
    (honoured_read : ∀ r token, e = .honoured r token →
      .fetched r token ∈ w.log ∧ .consumed r token ∈ w.log)
    (fetch_fresh : ∀ r token, e = .fetched r token → ∀ r', .consumed r' token ∉ w.log) :
    Invariant (w.record e) where
  issued_of_cached := inv.issued_of_cached
  gone_after_consume r token consumed := by
    rcases List.mem_append.1 consumed with old | new
    · exact inv.gone_after_consume r token old
    · exact consumed_gone r token (List.mem_singleton.1 new).symm
  phases r p found :=
    (inv.phases r p found).mono (List.Subset.refl _) (List.subset_append_left _ _)
  honoured_read r token honoured := by
    have earlier : .fetched r token ∈ w.log ∧ .consumed r token ∈ w.log := by
      rcases List.mem_append.1 honoured with old | new
      · exact inv.honoured_read r token old
      · exact honoured_read r token (List.mem_singleton.1 new).symm
    exact earlier.imp (List.mem_append_left _) (List.mem_append_left _)
  fetch_first := inv.fetch_first.record fetch_fresh

theorem Invariant.fetch (inv : Invariant w) (cached : w.cache (dlKey token) = some value) :
    Invariant ((w.record (.fetched r token)).setRequest r (.viewConsume token value)) := by
  have issued := inv.issued_of_cached token (by simp [cached])
  refine .setRequest (inv.record (fun _ _ => nofun) (fun _ _ => nofun) ?_) ⟨issued, by simp⟩
  rintro _ _ ⟨⟩ r' consumed
  simp [(inv.gone_after_consume r' token consumed).1] at cached

theorem Invariant.consume (inv : Invariant w)
    (phase : w.requests r = some (.viewConsume token value)) :
    Invariant (((w.setCache (dlKey token) none).record (.consumed r token)).setRequest r
      (.viewRender token value)) := by
  obtain ⟨issued, fetched⟩ := inv.phases r _ phase
  refine .setRequest ((inv.setCache fun _ _ => rfl).record ?_ (fun _ _ => nofun) fun _ _ => nofun)
    ⟨by simp [fetched], by simp⟩
  rintro _ _ ⟨⟩
  exact ⟨by simp, issued⟩

theorem Invariant.render (env : InvoiceEnv) (random : List UInt8) (setOk : Bool) {w' : World}
    (inv : Invariant w) (phase : w.requests r = some (.viewRender token value))
    (stepped : advance env w r random setOk (.viewRender token value) = some w') :
    Invariant w' := by
  obtain ⟨fetched, consumed⟩ := inv.phases r _ phase
  have honour {x : World} (inv' : Invariant x) (same : x.log = w.log) :
      Invariant (x.record (.honoured r token)) :=
    inv'.record (fun _ _ => nofun) (by rintro _ _ ⟨⟩; exact same ▸ ⟨fetched, consumed⟩)
      fun _ _ => nofun
  rcases answer : viewAnswer env value with ⟨pending, status, body⟩
  simp only [advance, answer, Option.some.injEq] at stepped
  subst stepped
  cases pending <;> refine Invariant.setRequest ?_ trivial <;> split_ifs
  · exact honour inv rfl
  · exact inv
  · exact honour (inv.setCache fun _ _ => rfl) rfl
  · exact inv.setCache fun _ _ => rfl

theorem Invariant.of_advance (env : InvoiceEnv) (random : List UInt8) (setOk : Bool)
    {p : Phase} {w' : World} (inv : Invariant w) (phase : w.requests r = some p)
    (stepped : advance env w r random setOk p = some w') : Invariant w' := by
  cases p with
  | tokenPending userID orderNo =>
    simp only [advance] at stepped
    split at stepped
    · split_ifs at stepped <;> cases stepped <;> exact inv.setRequest trivial
    · cases stepped; exact inv.setRequest trivial
  | tokenRecheck userID orderNo existing =>
    simp only [advance] at stepped
    split at stepped <;> cases stepped <;> exact inv.setRequest trivial
  | tokenGenerate userID orderNo =>
    simp only [advance] at stepped
    split_ifs at stepped with bad
    · cases stepped; exact .setRequest (inv.issue (fun mem => bad (.inr mem)) _) trivial
    · cases stepped; exact inv.setRequest trivial
  | tokenRemember userID orderNo token =>
    simp only [advance, Option.some.injEq] at stepped
    subst stepped
    refine Invariant.setRequest ?_ trivial
    split_ifs
    · exact inv.setCache fun token same => absurd same.symm (dlKey_ne_pendingKey _ _ _)
    · exact inv
  | viewFetch token =>
    cases cached : w.cache (dlKey token) with
    | none =>
      simp only [advance, cached, Option.some.injEq] at stepped
      subst stepped; exact inv.setRequest trivial
    | some value =>
      simp only [advance, cached, Option.some.injEq] at stepped
      subst stepped; exact inv.fetch cached
  | viewConsume token value => cases stepped; exact inv.consume phase
  | viewRender token value => exact inv.render env random setOk phase stepped
  | done status body => cases stepped

theorem Invariant.of_transition {env : InvoiceEnv} {a : Action} {w' : World} (inv : Invariant w)
    (stepped : transition env w a = some w') : Invariant w' := by
  cases a with
  | requestToken r userID orderNo =>
    simp only [transition] at stepped
    split_ifs at stepped
    cases stepped
    exact inv.setRequest (phaseOk_tokenChecks ..)
  | requestView r token =>
    simp only [transition] at stepped
    split_ifs at stepped <;> cases stepped <;> exact inv.setRequest trivial
  | step r random setOk =>
    simp only [transition] at stepped
    split at stepped
    · exact inv.of_advance env random setOk ‹_› stepped
    · cases stepped
  | expire key => cases stepped; exact inv.setCache fun _ _ => rfl

end Preservation

theorem Reachable.invariant {env : InvoiceEnv} {w : World} (reach : Reachable env w) :
    Invariant w :=
  Reach.invariant (fun _ start => start ▸ initial_invariant)
    (fun _ _ _ inv stepped => inv.of_transition stepped) reach

/-- A token honoured by two views was read by both before either deleted it. -/
theorem honoured_twice_only_if_read_together {env : InvoiceEnv} {w : World} {r₁ r₂ : Nat}
    {token : String} (reach : Reachable env w) (honoured₁ : .honoured r₁ token ∈ w.log)
    (honoured₂ : .honoured r₂ token ∈ w.log) :
    ∃ f₁ f₂ c₁ c₂ : Nat, w.log[f₁]? = some (.fetched r₁ token) ∧ w.log[f₂]? = some (.fetched r₂ token) ∧
      w.log[c₁]? = some (.consumed r₁ token) ∧ w.log[c₂]? = some (.consumed r₂ token) ∧
      max f₁ f₂ < min c₁ c₂ := by
  have inv := reach.invariant
  obtain ⟨⟨f₁, fetched₁⟩, ⟨c₁, consumed₁⟩⟩ :=
    (inv.honoured_read r₁ token honoured₁).imp List.mem_iff_getElem?.1 List.mem_iff_getElem?.1
  obtain ⟨⟨f₂, fetched₂⟩, ⟨c₂, consumed₂⟩⟩ :=
    (inv.honoured_read r₂ token honoured₂).imp List.mem_iff_getElem?.1 List.mem_iff_getElem?.1
  have := inv.fetch_first _ _ _ _ _ consumed₁ fetched₁
  have := inv.fetch_first _ _ _ _ _ consumed₁ fetched₂
  have := inv.fetch_first _ _ _ _ _ consumed₂ fetched₁
  have := inv.fetch_first _ _ _ _ _ consumed₂ fetched₂
  exact ⟨f₁, f₂, c₁, c₂, fetched₁, fetched₂, consumed₁, consumed₂, by omega⟩

/-! ### A token honoured twice -/

def completedOrder : Order :=
  ⟨1, "O1", some 7, .completed, [], [], none, "", "",
    ⟨"", "", "", "", "", "", "", "", "", "", false, "", none, none, none, "", false, .zero false,
      "CNY", ""⟩, 0, 0⟩

def shopEnv : InvoiceEnv := ⟨true, fun no => if no = "O1" then some completedOrder else none,
  fun _ => .ok "invoice"⟩

def abToken : String := hexString (List.replicate 32 0xab)

/-- User 7 gets a token, then two views of it both read the key before either deletes it. -/
def doubleView : List Action :=
  [.requestToken 0 7 "O1", .step 0 [] true, .step 0 (List.replicate 32 0xab) true,
    .step 0 [] true, .requestView 1 abToken, .requestView 2 abToken, .step 1 [] true,
    .step 2 [] true, .step 1 [] true, .step 2 [] true, .step 1 [] true, .step 2 [] true]

def doubleViewWorld : World := (run shopEnv initial doubleView).getD initial

theorem doubleView_ran : run shopEnv initial doubleView = some doubleViewWorld :=
  runSteps_getD (by decide)

theorem doubleViewWorld_outcome :
    doubleViewWorld.requests 1 = some (.done 200 "invoice") ∧
      doubleViewWorld.requests 2 = some (.done 200 "invoice") ∧
      doubleViewWorld.log = [.fetched 1 abToken, .fetched 2 abToken, .consumed 1 abToken,
        .consumed 2 abToken, .honoured 1 abToken, .honoured 2 abToken] := by
  decide

theorem invoice_token_honoured_twice :
    ∃ w, Reachable shopEnv w ∧ w.requests 1 = some (.done 200 "invoice") ∧
      w.requests 2 = some (.done 200 "invoice") ∧
      Event.honoured 1 abToken ∈ w.log ∧ Event.honoured 2 abToken ∈ w.log := by
  obtain ⟨answered₁, answered₂, log⟩ := doubleViewWorld_outcome
  exact ⟨doubleViewWorld, (reachable_initial shopEnv).runSteps doubleView_ran, answered₁, answered₂,
    by simp [log], by simp [log]⟩

theorem doubleView_read_together :
    Reachable shopEnv doubleViewWorld ∧ Event.honoured 1 abToken ∈ doubleViewWorld.log ∧
      Event.honoured 2 abToken ∈ doubleViewWorld.log ∧
      ∃ f₁ f₂ c₁ c₂ : Nat, doubleViewWorld.log[f₁]? = some (.fetched 1 abToken) ∧
        doubleViewWorld.log[f₂]? = some (.fetched 2 abToken) ∧
        doubleViewWorld.log[c₁]? = some (.consumed 1 abToken) ∧
        doubleViewWorld.log[c₂]? = some (.consumed 2 abToken) ∧ max f₁ f₂ < min c₁ c₂ := by
  have reach := (reachable_initial shopEnv).runSteps doubleView_ran
  have honoured₁ : Event.honoured 1 abToken ∈ doubleViewWorld.log := by
    simp [doubleViewWorld_outcome.2.2]
  have honoured₂ : Event.honoured 2 abToken ∈ doubleViewWorld.log := by
    simp [doubleViewWorld_outcome.2.2]
  exact ⟨reach, honoured₁, honoured₂,
    honoured_twice_only_if_read_together reach honoured₁ honoured₂⟩

/-! ### The token value read back -/

theorem tokenValue_round_trip_below_2_32 (env : InvoiceEnv) (userID : Nat) (orderNo : String) :
    splitAtColon (tokenValue userID orderNo) = some (toString userID, orderNo) ∧
    parseUint32 (toString userID) = (if userID < 2 ^ 32 then some userID else none) ∧
    (viewAnswer env (tokenValue userID orderNo)).1 =
      (if userID < 2 ^ 32 then some (pendingKey userID orderNo) else none) ∧
    (2 ^ 32 ≤ userID →
      viewAnswer env (tokenValue userID orderNo) = (none, 500, "Invalid token data")) := by
  refine ⟨splitAtColon_tokenValue userID orderNo, parseUint32_toString userID, ?_, fun big => ?_⟩
  · simp only [viewAnswer_pending, splitAtColon_tokenValue, Option.some_bind,
      parseUint32_toString]
    split_ifs <;> rfl
  · simp only [viewAnswer, splitAtColon_tokenValue, parseUint32_toString,
      if_neg (Nat.not_lt.2 big)]

theorem tokenValue_of_user_2_32_rejected :
    viewAnswer shopEnv (tokenValue (2 ^ 32) "O1") = (none, 500, "Invalid token data") :=
  (tokenValue_round_trip_below_2_32 shopEnv (2 ^ 32) "O1").2.2.2 le_rfl

theorem tokenChecks_passed {env : InvoiceEnv} {userID : Nat} {orderNo : String} {order : Order}
    (found : env.orders orderNo = some order)
    (issued : tokenChecks env userID orderNo = .tokenPending userID orderNo) :
    env.enabled = true ∧ order.userID = some userID ∧ order.status = .completed := by
  simp only [tokenChecks, found] at issued
  split_ifs at issued with empty disabled owner status
  simp_all

/-- A view of a token `GetInvoiceToken` issued, with the configuration and the order as they
were: below `2 ^ 32` it passes every check, answers with the rendered invoice and deletes the
pending key `GetInvoiceToken` set; from `2 ^ 32` on it answers 500. -/
theorem view_of_issued_token (env : InvoiceEnv) (userID : Nat) (orderNo : String) (order : Order)
    (found : env.orders orderNo = some order)
    (issued : tokenChecks env userID orderNo = .tokenPending userID orderNo) :
    viewAnswer env (tokenValue userID orderNo) =
      if userID < 2 ^ 32 then
        (some (pendingKey userID orderNo), match env.render order with
          | .error message => (500, message)
          | .ok page => (200, page))
      else (none, 500, "Invalid token data") := by
  obtain ⟨enabled, owner, status⟩ := tokenChecks_passed found issued
  by_cases small : userID < 2 ^ 32
  · simp only [viewAnswer, splitAtColon_tokenValue, parseUint32_toString, if_pos small, enabled,
      found, owner, status]
    cases env.render order <;> simp [pendingKey]
  · simp only [viewAnswer, splitAtColon_tokenValue, parseUint32_toString, if_neg small]

theorem owner_views_issued_token :
    shopEnv.orders "O1" = some completedOrder ∧ tokenChecks shopEnv 7 "O1" = .tokenPending 7 "O1" ∧
      viewAnswer shopEnv (tokenValue 7 "O1") = (some (pendingKey 7 "O1"), 200, "invoice") :=
  ⟨rfl, by decide, view_of_issued_token shopEnv 7 "O1" completedOrder rfl (by decide)⟩

end AuraLogic.InvoiceToken
