import AuraLogic.Models
import AuraLogic.TransitionSystem
import Mathlib.Logic.Function.Basic

/-! The order auto-cancel sweep (`OrderCancelService`) interleaved with other writers of an
order's status. The conditional `UPDATE ... WHERE status = ?` is one atomic step, and each
release call of the cancel cascade is a step of its own. -/

namespace AuraLogic.OrderCancel

def defaultAutoCancelHours : Int := 72

def getAutoCancelHours (configured : Int) : Int :=
  if 0 < configured then configured else defaultAutoCancelHours

/-- `time.Now().Add(-time.Duration(autoCancelHours) * time.Hour)` in nanoseconds; the
`Duration` product is an `int64` and wraps. -/
def cutoffTime (now hours : Int) : Int := now + toInt64 (-hours * 3600000000000)

def adminRemark (hours : Int) : String :=
  s!"System auto-cancelled: order unpaid after {hours} hours"

inductive Release where
  | inventory (inventoryID : Nat) (quantity : Int)
  | virtualStock
  | promoCode (promoCodeID : Nat)
  | serials
  deriving DecidableEq, Repr

structure Services where
  virtualInventory : Bool
  promoCodes : Bool
  serials : Bool

/-- The `ReleaseReserve` calls of the loop over `order.Items`, from item index `i` on. -/
def inventoryReleases (bindings : List (Nat × Nat)) : Nat → List OrderItem → List Release
  | _, [] => []
  | i, item :: rest =>
    match bindings.lookup i with
    | some inventoryID =>
      if 0 < inventoryID then .inventory inventoryID item.quantity :: inventoryReleases bindings (i + 1) rest
      else inventoryReleases bindings (i + 1) rest
    | none => inventoryReleases bindings (i + 1) rest

def releasePlan (svc : Services) (o : Order) : List Release :=
  inventoryReleases o.inventoryBindings 0 o.items ++
    (if svc.virtualInventory then [.virtualStock] else []) ++
    (match o.promoCodeID with
      | some promoCodeID => if svc.promoCodes then [.promoCode promoCodeID] else []
      | none => []) ++
    (if svc.serials then [.serials] else [])

/-- The loop over the items calls `ReleaseReserve` for each item, in order, whose binding is a
positive inventory id, with that item's quantity. -/
theorem inventoryReleases_eq (bindings : List (Nat × Nat)) :
    ∀ (i : Nat) (items : List OrderItem), inventoryReleases bindings i items =
      (items.enumFrom i).filterMap fun (k, item) => (bindings.lookup k).bind fun id =>
        if 0 < id then some (.inventory id item.quantity) else none
  | _, [] => rfl
  | i, item :: rest => by
    rw [inventoryReleases, List.enumFrom_cons, List.filterMap_cons, inventoryReleases_eq bindings]
    cases h : bindings.lookup i with
    | none => simp [h]
    | some id => by_cases pos : 0 < id <;> simp [h, pos]

theorem releasePlan_eq (svc : Services) (o : Order) : releasePlan svc o =
    (o.items.enum.filterMap fun (k, item) => (o.inventoryBindings.lookup k).bind fun id =>
      if 0 < id then some (.inventory id item.quantity) else none) ++
    (if svc.virtualInventory then [.virtualStock] else []) ++
    (if svc.promoCodes then o.promoCodeID.toList.map .promoCode else []) ++
    (if svc.serials then [.serials] else []) := by
  rw [releasePlan, inventoryReleases_eq, List.enum]
  cases o.promoCodeID <;> by_cases promo : svc.promoCodes <;> simp [promo]

/-- Where one sweep (`cancelExpiredOrders`) is: idle, cancelling its batch, or in the release
cascade of `order` with `pending` calls still to make. -/
inductive Phase where
  | idle
  | cancelling (hours cutoff : Int) (batch : List Order)
  | releasing (hours cutoff : Int) (order : Order) (pending : List Release) (rest : List Order)

namespace Phase

def batch : Phase → List Order
  | .idle => []
  | .cancelling _ _ batch => batch
  | .releasing _ _ _ _ rest => rest

def cutoff : Phase → Int
  | .idle => 0
  | .cancelling _ cutoff _ => cutoff
  | .releasing _ cutoff _ _ _ => cutoff

def pendingOf (i : Nat) : Phase → List Release
  | .releasing _ _ o pending _ => if o.id = i then pending else []
  | _ => []

end Phase

/-- A sweep's update affected the row of `order` (`before` as it stood then); a release call
of a cascade, whatever it returned; another writer moved an order out of `pending_payment`. -/
inductive Event where
  | autoCancelled (sweep : Nat) (order before : Order) (cutoff : Int)
  | released (sweep : Nat) (orderID : Nat) (call : Release) (ok : Bool)
  | movedOut (orderID : Nat) (status : OrderStatus)

namespace Event

def leaves : Event → Option Nat
  | .autoCancelled _ o _ _ => some o.id
  | .movedOut i _ => some i
  | .released .. => none

def cancels : Event → Option Nat
  | .autoCancelled _ o _ _ => some o.id
  | _ => none

def releaseOf (i : Nat) : Event → Option (Nat × Release)
  | .released p j r _ => if j = i then some (p, r) else none
  | _ => none

end Event

def leaveCount (log : List Event) (i : Nat) : Nat := log.countP (·.leaves = some i)

def cancelCount (log : List Event) (i : Nat) : Nat := log.countP (·.cancels = some i)

def releasesOf (log : List Event) (i : Nat) : List (Nat × Release) := log.filterMap (·.releaseOf i)

structure World where
  orders : Nat → Option Order
  configuredHours : Int
  sweeps : Nat → Phase
  log : List Event

/-- A sweep starts at `now` (nanoseconds) and its query returns `ids`; a sweep's next update
or the end of its batch; its next release call or the end of its cascade; the other writers. -/
inductive Action where
  | select (sweep : Nat) (now : Int) (ids : List Nat)
  | update (sweep : Nat) (dbError : Bool)
  | release (sweep : Nat) (ok : Bool)
  | moveOut (orderID : Nat) (status : OrderStatus)
  | create (order : Order)
  | configure (hours : Int)

def World.setSweep (w : World) (p : Nat) (phase : Phase) : World :=
  { w with sweeps := Function.update w.sweeps p phase }

/-- A row the query of `cancelExpiredOrders` matches. -/
def matchesQuery (cutoff : Int) : Option Order → Bool
  | some o => o.status = .pendingPayment ∧ o.createdAt * 1000000000 < cutoff
  | none => false

/-- What the query may return: at most 100 distinct matching rows. -/
def Selectable (orders : Nat → Option Order) (cutoff : Int) (ids : List Nat) : Prop :=
  ids.length ≤ 100 ∧ ids.Nodup ∧ ∀ i ∈ ids, matchesQuery cutoff (orders i)

instance (orders : Nat → Option Order) (cutoff : Int) (ids : List Nat) :
    Decidable (Selectable orders cutoff ids) :=
  inferInstanceAs (Decidable (_ ∧ _ ∧ _))

def cancelHead (svc : Services) (w : World) (p : Nat) (hours cutoff : Int) (o : Order)
    (rest : List Order) : World :=
  match w.orders o.id with
  | some cur =>
    if cur.status = .pendingPayment then
      { w with
        orders := Function.update w.orders o.id
          (some { cur with status := .cancelled, adminRemark := adminRemark hours })
        sweeps := Function.update w.sweeps p (.releasing hours cutoff o (releasePlan svc o) rest)
        log := w.log ++ [.autoCancelled p o cur cutoff] }
    else w.setSweep p (.cancelling hours cutoff rest)
  | none => w.setSweep p (.cancelling hours cutoff rest)

def transition (svc : Services) (w : World) : Action → Option World
  | .select p now ids =>
    match w.sweeps p with
    | .idle =>
      let hours := getAutoCancelHours w.configuredHours
      let cutoff := cutoffTime now hours
      if Selectable w.orders cutoff ids then
        some (w.setSweep p (.cancelling hours cutoff (ids.filterMap w.orders)))
      else none
    | _ => none
  | .update p dbError =>
    match w.sweeps p with
    | .cancelling _ _ [] => some (w.setSweep p .idle)
    | .cancelling hours cutoff (o :: rest) =>
      if dbError then some (w.setSweep p (.cancelling hours cutoff rest))
      else some (cancelHead svc w p hours cutoff o rest)
    | _ => none
  | .release p ok =>
    match w.sweeps p with
    | .releasing hours cutoff _ [] rest =>
      some (w.setSweep p (.cancelling hours cutoff rest))
    | .releasing hours cutoff o (r :: pending) rest =>
      some { w with
        sweeps := Function.update w.sweeps p (.releasing hours cutoff o pending rest)
        log := w.log ++ [.released p o.id r ok] }
    | _ => none
  | .moveOut i status =>
    match w.orders i with
    | some cur =>
      if cur.status = .pendingPayment ∧ status ≠ .pendingPayment then
        some { w with
          orders := Function.update w.orders i (some { cur with status := status })
          log := w.log ++ [.movedOut i status] }
      else none
    | none => none
  | .create o =>
    if (w.orders o.id).isNone then some { w with orders := Function.update w.orders o.id (some o) }
    else none
  | .configure hours => some { w with configuredHours := hours }

def Keyed (orders : Nat → Option Order) : Prop := ∀ i o, orders i = some o → o.id = i

/-- The worlds the sweeps and the other writers reach from any keyed orders table. -/
abbrev Reachable (svc : Services) : World → Prop :=
  Reach (fun w => Keyed w.orders ∧ w.sweeps = (fun _ => .idle) ∧ w.log = []) (transition svc)

abbrev run (svc : Services) : World → List Action → Option World := runSteps (transition svc)

section Lemmas

@[simp] theorem setSweep_orders (w : World) (p : Nat) (ph : Phase) :
    (w.setSweep p ph).orders = w.orders := rfl

@[simp] theorem setSweep_log (w : World) (p : Nat) (ph : Phase) : (w.setSweep p ph).log = w.log := rfl

@[simp] theorem setSweep_sweeps (w : World) (p : Nat) (ph : Phase) :
    (w.setSweep p ph).sweeps = Function.update w.sweeps p ph := rfl

@[simp] theorem leaveCount_append (log : List Event) (e : Event) (i : Nat) :
    leaveCount (log ++ [e]) i = leaveCount log i + if e.leaves = some i then 1 else 0 := by
  simp [leaveCount, List.countP_append, List.countP_cons]

@[simp] theorem cancelCount_append (log : List Event) (e : Event) (i : Nat) :
    cancelCount (log ++ [e]) i = cancelCount log i + if e.cancels = some i then 1 else 0 := by
  simp [cancelCount, List.countP_append, List.countP_cons]

@[simp] theorem releasesOf_append (log : List Event) (e : Event) (i : Nat) :
    releasesOf (log ++ [e]) i = releasesOf log i ++ (e.releaseOf i).toList := by
  cases h : e.releaseOf i <;> simp [releasesOf, List.filterMap_append, h]

theorem cancelCount_le_leaveCount (log : List Event) (i : Nat) :
    cancelCount log i ≤ leaveCount log i :=
  List.countP_mono_left fun e _ => by cases e <;> simp [Event.cancels, Event.leaves]

theorem leaveCount_pos {log : List Event} {e : Event} {i : Nat} (mem : e ∈ log)
    (leaves : e.leaves = some i) : 0 < leaveCount log i :=
  List.countP_pos_iff.mpr ⟨e, mem, by simpa using leaves⟩

theorem cancelCount_pos {log : List Event} {p : Nat} {o before : Order} {c : Int}
    (mem : .autoCancelled p o before c ∈ log) : 0 < cancelCount log o.id :=
  List.countP_pos_iff.mpr ⟨_, mem, by simp [Event.cancels]⟩

theorem eq_of_countP_le_one {α : Type} {P : α → Bool} {l : List α} {a b : α}
    (once : l.countP P ≤ 1) (ha : a ∈ l) (hb : b ∈ l) (pa : P a) (pb : P b) : a = b := by
  induction l with
  | nil => simp at ha
  | cons x xs ih =>
    have rest : ∀ y ∈ xs, P y → P x → False := fun y hy py px => by
      have pos := List.countP_pos_iff.mpr ⟨y, hy, py⟩
      rw [List.countP_cons_of_pos _ _ px] at once
      omega
    by_cases px : P x
    · have ax : a = x := (List.mem_cons.mp ha).resolve_right fun h => rest a h pa px
      have bx : b = x := (List.mem_cons.mp hb).resolve_right fun h => rest b h pb px
      rw [ax, bx]
    · have ha : a ∈ xs := (List.mem_cons.mp ha).resolve_left fun h => px (h ▸ pa)
      have hb : b ∈ xs := (List.mem_cons.mp hb).resolve_left fun h => px (h ▸ pb)
      exact ih (by rwa [List.countP_cons_of_neg _ _ px] at once) ha hb

end Lemmas

section Invariant

variable {svc : Services} {w : World}

/-- The rows a sweep's batch holds are still in the store with their creation time, and
were created before the sweep's cutoff. -/
def BatchFresh (orders : Nat → Option Order) (ph : Phase) : Prop :=
  ∀ b ∈ ph.batch, b.createdAt * 1000000000 < ph.cutoff ∧ ∃ cur, orders b.id = some cur ∧ cur.createdAt = b.createdAt

/-- Each order leaves `pending_payment` at most once and never returns; a sweep's cancel
events record a pending row created before its cutoff; and the release calls made for a
cancelled order, followed by those its sweep still has to make, are its release plan. -/
structure Inv (svc : Services) (w : World) : Prop where
  keyed : Keyed w.orders
  leave_le : ∀ i, leaveCount w.log i ≤ 1
  leave_pending : ∀ i, (∀ o, w.orders i = some o → o.status = .pendingPayment) →
    leaveCount w.log i = 0
  cancelled : ∀ p o before c, .autoCancelled p o before c ∈ w.log →
    before.status = .pendingPayment ∧ before.createdAt * 1000000000 < c ∧
      (w.orders o.id).map (·.status) = some .cancelled
  batch_fresh : ∀ p, BatchFresh w.orders (w.sweeps p)
  releasing_cancelled : ∀ p h c o pending rest, w.sweeps p = .releasing h c o pending rest →
    ∃ before, .autoCancelled p o before c ∈ w.log
  releases_plan : ∀ p o before c, .autoCancelled p o before c ∈ w.log →
    releasesOf w.log o.id ++ ((w.sweeps p).pendingOf o.id).map (p, ·) =
      (releasePlan svc o).map (p, ·)
  releases_none : ∀ i, cancelCount w.log i = 0 → releasesOf w.log i = []

theorem inv_init (keyed : Keyed w.orders) (idle : w.sweeps = fun _ => .idle) (empty : w.log = []) :
    Inv svc w where
  keyed := keyed
  leave_le _ := by simp [leaveCount, empty]
  leave_pending _ _ := by simp [leaveCount, empty]
  cancelled := by simp [empty]
  batch_fresh _ := by simp [BatchFresh, Phase.batch, idle]
  releasing_cancelled := by simp [idle]
  releases_plan := by simp [empty]
  releases_none _ _ := by simp [releasesOf, empty]

theorem Inv.cancel_unique (inv : Inv svc w) {p q : Nat} {o o' before before' : Order} {c c' : Int}
    (mem : .autoCancelled p o before c ∈ w.log) (mem' : .autoCancelled q o' before' c' ∈ w.log)
    (same : o'.id = o.id) : p = q ∧ o = o' := by
  have eq := eq_of_countP_le_one (inv.leave_le o.id) mem mem'
    (by simp [Event.leaves]) (by simp [Event.leaves, same])
  cases eq
  exact ⟨rfl, rfl⟩

theorem Inv.setSweep (inv : Inv svc w) {p : Nat} {ph : Phase}
    (old : ∀ i, (w.sweeps p).pendingOf i = []) (settled : ∀ i, ph.pendingOf i = [])
    (notReleasing : ∀ h c o pending rest, ph ≠ .releasing h c o pending rest)
    (fresh : BatchFresh w.orders ph) : Inv svc (w.setSweep p ph) where
  keyed := inv.keyed
  leave_le := inv.leave_le
  leave_pending := inv.leave_pending
  cancelled := inv.cancelled
  batch_fresh q := by
    by_cases hq : q = p
    · subst hq; simpa using fresh
    · simpa [hq] using inv.batch_fresh q
  releasing_cancelled q h c o pending rest hph := by
    by_cases hq : q = p
    · subst hq; exact absurd (by simpa using hph) (notReleasing h c o pending rest)
    · exact inv.releasing_cancelled q h c o pending rest (by simpa [hq] using hph)
  releases_plan q o before c mem := by
    by_cases hq : q = p
    · subst hq; simpa [settled, old] using inv.releases_plan q o before c mem
    · simpa [hq] using inv.releases_plan q o before c mem
  releases_none := inv.releases_none

theorem BatchFresh.mono {orders orders' : Nat → Option Order} {ph : Phase}
    (fresh : BatchFresh orders ph)
    (keeps : ∀ i r, orders i = some r → ∃ r', orders' i = some r' ∧ r'.createdAt = r.createdAt) :
    BatchFresh orders' ph := fun b mem => by
  obtain ⟨before, cur, row, created⟩ := fresh b mem
  obtain ⟨cur', row', created'⟩ := keeps _ cur row
  exact ⟨before, cur', row', created'.trans created⟩

theorem BatchFresh.tail {orders : Nat → Option Order} {h c : Int} {o : Order} {rest : List Order}
    (fresh : BatchFresh orders (.cancelling h c (o :: rest))) :
    BatchFresh orders (.cancelling h c rest) :=
  fun b mem => fresh b (List.mem_cons_of_mem o mem)

theorem Inv.select (inv : Inv svc w) {p : Nat} {hours cutoff : Int} {ids : List Nat}
    (idle : w.sweeps p = .idle) (sel : Selectable w.orders cutoff ids) :
    Inv svc (w.setSweep p (.cancelling hours cutoff (ids.filterMap w.orders))) := by
  refine inv.setSweep (by simp [idle, Phase.pendingOf]) (by simp [Phase.pendingOf]) (by simp) ?_
  intro b mem
  obtain ⟨i, hi, row⟩ := List.mem_filterMap.mp mem
  have matched := sel.2.2 i hi
  rw [row] at matched
  simp only [matchesQuery, decide_eq_true_eq] at matched
  have key := inv.keyed i b row
  subst key
  exact ⟨matched.2, b, row, rfl⟩

theorem Inv.endBatch (inv : Inv svc w) {p : Nat} {h c : Int}
    (cur : w.sweeps p = .cancelling h c []) : Inv svc (w.setSweep p .idle) :=
  inv.setSweep (by simp [cur, Phase.pendingOf]) (by simp [Phase.pendingOf]) (by simp)
    (by simp [BatchFresh, Phase.batch])

theorem Inv.skip (inv : Inv svc w) {p : Nat} {h c : Int} {o : Order} {rest : List Order}
    (cur : w.sweeps p = .cancelling h c (o :: rest)) :
    Inv svc (w.setSweep p (.cancelling h c rest)) :=
  inv.setSweep (by simp [cur, Phase.pendingOf]) (by simp [Phase.pendingOf]) (by simp)
    (BatchFresh.tail (cur ▸ inv.batch_fresh p))

theorem Inv.endCascade (inv : Inv svc w) {p : Nat} {h c : Int} {o : Order} {rest : List Order}
    (cur : w.sweeps p = .releasing h c o [] rest) :
    Inv svc (w.setSweep p (.cancelling h c rest)) :=
  inv.setSweep (by simp [cur, Phase.pendingOf]) (by simp [Phase.pendingOf]) (by simp)
    (fun b mem => by simpa [cur, Phase.batch, Phase.cutoff] using inv.batch_fresh p b (by simpa [cur, Phase.batch] using mem))

theorem Inv.not_left (inv : Inv svc w) {i : Nat} {cur : Order} (row : w.orders i = some cur)
    (pending : cur.status = .pendingPayment) {e : Event} (mem : e ∈ w.log) : e.leaves ≠ some i := by
  intro leaves
  have zero := inv.leave_pending i fun r hr => by rw [row] at hr; cases hr; exact pending
  have pos := leaveCount_pos mem leaves
  omega

theorem Inv.cancel (inv : Inv svc w) {p : Nat} {h c : Int} {o : Order} {rest : List Order}
    {cur : Order} (sweep : w.sweeps p = .cancelling h c (o :: rest)) (row : w.orders o.id = some cur)
    (pending : cur.status = .pendingPayment) :
    Inv svc { w with
      orders := Function.update w.orders o.id
        (some { cur with status := .cancelled, adminRemark := adminRemark h })
      sweeps := Function.update w.sweeps p (.releasing h c o (releasePlan svc o) rest)
      log := w.log ++ [.autoCancelled p o cur c] } := by
  have untouched := fun {e} (mem : e ∈ w.log) => inv.not_left row pending mem
  have zero : cancelCount w.log o.id = 0 := by
    have := cancelCount_le_leaveCount w.log o.id
    have := inv.leave_pending o.id fun r hr => by rw [row] at hr; cases hr; exact pending
    omega
  obtain ⟨early, cur', row', created⟩ := (sweep ▸ inv.batch_fresh p) o (List.mem_cons_self o rest)
  rw [row] at row'
  cases row'
  simp only [Phase.cutoff] at early
  have keeps : ∀ i r, w.orders i = some r → ∃ r', Function.update w.orders o.id
      (some { cur with status := .cancelled, adminRemark := adminRemark h }) i = some r' ∧
      r'.createdAt = r.createdAt := fun i r hr => by
    by_cases hi : i = o.id
    · subst hi; rw [row] at hr; cases hr; simp
    · simp [hi, hr]
  have other : ∀ q o' b c', .autoCancelled q o' b c' ∈ w.log → o'.id ≠ o.id := fun _ _ _ _ mem same =>
    untouched mem (by simp [Event.leaves, same])
  constructor
  · intro i r hr
    by_cases hi : i = o.id
    · subst hi; simp at hr; subst hr; exact (inv.keyed o.id cur row :)
    · simp [hi] at hr; exact inv.keyed i r hr
  · intro i
    by_cases hi : i = o.id
    · subst hi; simp [Event.leaves, inv.leave_pending o.id fun r hr => by rw [row] at hr; cases hr; exact pending]
    · simpa [Event.leaves, Ne.symm hi] using inv.leave_le i
  · intro i hyp
    by_cases hi : i = o.id
    · subst hi; exact absurd (hyp _ (Function.update_same _ _ _)) OrderStatus.cancelled_ne_pendingPayment
    · simpa [Event.leaves, Ne.symm hi] using inv.leave_pending i fun r hr => hyp r (by simpa [hi] using hr)
  · intro q o' b c' mem
    rcases List.mem_append.mp mem with mem | mem
    · obtain ⟨was, made, status⟩ := inv.cancelled q o' b c' mem
      exact ⟨was, made, by simpa [other q o' b c' mem] using status⟩
    · simp only [List.mem_singleton, Event.autoCancelled.injEq] at mem
      obtain ⟨rfl, rfl, rfl, rfl⟩ := mem
      exact ⟨pending, by omega, by simp⟩
  · intro q
    by_cases hq : q = p
    · subst hq
      simpa [BatchFresh, Phase.batch, Phase.cutoff, sweep] using
        (BatchFresh.tail (sweep ▸ inv.batch_fresh q)).mono keeps
    · simpa [hq] using (inv.batch_fresh q).mono keeps
  · intro q h' c' o' pending' rest' hph
    by_cases hq : q = p
    · subst hq
      simp only [Function.update_same, Phase.releasing.injEq] at hph
      obtain ⟨rfl, rfl, rfl, -, rfl⟩ := hph
      exact ⟨cur, by simp⟩
    · obtain ⟨b, mem⟩ := inv.releasing_cancelled q h' c' o' pending' rest' (by simpa [hq] using hph)
      exact ⟨b, List.mem_append_left _ mem⟩
  · intro q o' b c' mem
    rcases List.mem_append.mp mem with mem | mem
    · have plan := inv.releases_plan q o' b c' mem
      have ne := other q o' b c' mem
      by_cases hq : q = p
      · subst hq; simpa [Event.releaseOf, sweep, Phase.pendingOf, Ne.symm ne] using plan
      · simpa [Event.releaseOf, hq] using plan
    · simp only [List.mem_singleton, Event.autoCancelled.injEq] at mem
      obtain ⟨rfl, rfl, rfl, rfl⟩ := mem
      simp [Event.releaseOf, Phase.pendingOf, inv.releases_none _ zero]
  · intro i none
    by_cases hi : i = o.id
    · subst hi; simp [Event.cancels] at none
    · simpa [Event.releaseOf] using inv.releases_none i (by simpa [Event.cancels, Ne.symm hi] using none)

theorem Inv.release (inv : Inv svc w) {p : Nat} {h c : Int} {o : Order} {r : Release}
    {pending : List Release} {rest : List Order} (ok : Bool)
    (sweep : w.sweeps p = .releasing h c o (r :: pending) rest) :
    Inv svc { w with
      sweeps := Function.update w.sweeps p (.releasing h c o pending rest)
      log := w.log ++ [.released p o.id r ok] } := by
  obtain ⟨before, cancel⟩ := inv.releasing_cancelled p h c o (r :: pending) rest sweep
  constructor
  · exact inv.keyed
  · simpa [Event.leaves] using inv.leave_le
  · simpa [Event.leaves] using inv.leave_pending
  · simpa using inv.cancelled
  · intro q
    by_cases hq : q = p
    · subst hq; simpa [BatchFresh, Phase.batch, Phase.cutoff, sweep] using inv.batch_fresh q
    · simpa [hq] using inv.batch_fresh q
  · intro q h' c' o' pending' rest' hph
    by_cases hq : q = p
    · subst hq
      simp only [Function.update_same, Phase.releasing.injEq] at hph
      obtain ⟨rfl, rfl, rfl, -, rfl⟩ := hph
      exact ⟨before, List.mem_append_left _ cancel⟩
    · obtain ⟨b, mem⟩ := inv.releasing_cancelled q h' c' o' pending' rest' (by simpa [hq] using hph)
      exact ⟨b, List.mem_append_left _ mem⟩
  · intro q o' b c' mem
    simp only [List.mem_append, List.mem_singleton, reduceCtorEq, or_false] at mem
    have plan := inv.releases_plan q o' b c' mem
    by_cases same : o'.id = o.id
    · obtain ⟨rfl, rfl⟩ := inv.cancel_unique cancel mem same
      simpa [Event.releaseOf, sweep, Phase.pendingOf] using plan
    · by_cases hq : q = p
      · subst hq
        simpa [Event.releaseOf, sweep, Phase.pendingOf, Ne.symm same] using plan
      · simpa [Event.releaseOf, hq, Ne.symm same] using plan
  · intro i none
    have ne : o.id ≠ i := fun same => by
      have := cancelCount_pos cancel
      simp [Event.cancels, ← same] at none
      omega
    simpa [Event.releaseOf, ne] using inv.releases_none i (by simpa [Event.cancels] using none)

theorem Inv.moveOut (inv : Inv svc w) {i : Nat} {cur : Order} {status : OrderStatus}
    (row : w.orders i = some cur) (pending : cur.status = .pendingPayment)
    (leaving : status ≠ .pendingPayment) :
    Inv svc { w with
      orders := Function.update w.orders i (some { cur with status := status })
      log := w.log ++ [.movedOut i status] } := by
  have untouched := fun {e} (mem : e ∈ w.log) => inv.not_left row pending mem
  have keeps : ∀ j r, w.orders j = some r → ∃ r', Function.update w.orders i
      (some { cur with status := status }) j = some r' ∧ r'.createdAt = r.createdAt :=
    fun j r hr => by
      by_cases hj : j = i
      · subst hj; rw [row] at hr; cases hr; simp
      · simp [hj, hr]
  have other : ∀ q o' b c', .autoCancelled q o' b c' ∈ w.log → o'.id ≠ i :=
    fun _ _ _ _ mem same => untouched mem (by simp [Event.leaves, same])
  constructor
  · intro j r hr
    by_cases hj : j = i
    · subst hj; simp at hr; subst hr; exact (inv.keyed j cur row :)
    · simp [hj] at hr; exact inv.keyed j r hr
  · intro j
    by_cases hj : j = i
    · subst hj; simp [Event.leaves, inv.leave_pending j fun r hr => by rw [row] at hr; cases hr; exact pending]
    · simpa [Event.leaves, Ne.symm hj] using inv.leave_le j
  · intro j hyp
    by_cases hj : j = i
    · subst hj; exact absurd (hyp _ (Function.update_same _ _ _)) leaving
    · simpa [Event.leaves, Ne.symm hj] using inv.leave_pending j fun r hr => hyp r (by simpa [hj] using hr)
  · intro q o' b c' mem
    simp only [List.mem_append, List.mem_singleton, reduceCtorEq, or_false] at mem
    obtain ⟨was, made, st⟩ := inv.cancelled q o' b c' mem
    exact ⟨was, made, by simpa [other q o' b c' mem] using st⟩
  · exact fun q => (inv.batch_fresh q).mono keeps
  · intro q h c o pending rest hph
    obtain ⟨b, mem⟩ := inv.releasing_cancelled q h c o pending rest hph
    exact ⟨b, List.mem_append_left _ mem⟩
  · intro q o' b c' mem
    simp only [List.mem_append, List.mem_singleton, reduceCtorEq, or_false] at mem
    simpa [Event.releaseOf] using inv.releases_plan q o' b c' mem
  · intro j none
    simpa [Event.releaseOf] using inv.releases_none j (by simpa [Event.cancels] using none)

theorem Inv.create (inv : Inv svc w) {o : Order} (fresh : w.orders o.id = none) :
    Inv svc { w with orders := Function.update w.orders o.id (some o) } := by
  have absent : ∀ {i r}, w.orders i = some r → i ≠ o.id := fun hr same => by
    rw [same, fresh] at hr; cases hr
  constructor
  · intro i r hr
    by_cases hi : i = o.id
    · subst hi; simp at hr; exact hr ▸ rfl
    · simp [hi] at hr; exact inv.keyed i r hr
  · exact inv.leave_le
  · intro i hyp
    by_cases hi : i = o.id
    · subst hi; exact inv.leave_pending _ fun r hr => by rw [fresh] at hr; cases hr
    · exact inv.leave_pending i fun r hr => hyp r (by simpa [hi] using hr)
  · intro q o' b c' mem
    obtain ⟨was, made, st⟩ := inv.cancelled q o' b c' mem
    have present : ∃ r, w.orders o'.id = some r := by
      cases hr : w.orders o'.id with
      | none => simp [hr] at st
      | some r => exact ⟨r, rfl⟩
    obtain ⟨r, hr⟩ := present
    exact ⟨was, made, by simpa [absent hr] using st⟩
  · exact fun q => (inv.batch_fresh q).mono fun i r hr => ⟨r, by simp [absent hr, hr], rfl⟩
  · exact inv.releasing_cancelled
  · exact inv.releases_plan
  · exact inv.releases_none

theorem Inv.of_transition (inv : Inv svc w) {a : Action} {w' : World}
    (step : transition svc w a = some w') :
    Inv svc w' := by
  cases a with
  | select p now ids =>
    simp only [transition] at step
    split at step
    · split at step
      · cases step; exact inv.select ‹_› ‹_›
      · cases step
    · cases step
  | update p dbError =>
    simp only [transition] at step
    split at step
    · cases step; exact inv.endBatch ‹_›
    · rename_i sweep
      split at step <;> cases step
      · exact inv.skip sweep
      · unfold cancelHead
        split
        · split
          · exact inv.cancel sweep ‹_› ‹_›
          · exact inv.skip sweep
        · exact inv.skip sweep
    · cases step
  | release p ok =>
    simp only [transition] at step
    split at step <;> cases step
    · exact inv.endCascade ‹_›
    · exact inv.release ok ‹_›
  | moveOut i status =>
    simp only [transition] at step
    split at step
    · rename_i row
      split at step
      · rename_i guard
        cases step; exact inv.moveOut row guard.1 guard.2
      · cases step
    · cases step
  | create o =>
    simp only [transition] at step
    split at step
    · cases step; exact inv.create (Option.isNone_iff_eq_none.mp ‹_›)
    · cases step
  | configure hours => cases step; exact { inv with }

theorem Reachable.inv (reach : Reachable svc w) : Inv svc w :=
  Reach.invariant (fun _ ⟨keyed, idle, empty⟩ => inv_init keyed idle empty)
    (fun _ _ _ inv step => inv.of_transition step) reach

end Invariant

/-- Under any interleaving of sweeps with the other writers, a sweep cancels each order at
most once, only a row still pending at its update and created before its cutoff, and the
order stays cancelled. The release calls made for it are that sweep's, whatever each returned:
`ReleaseReserve` for every item bound to a positive inventory id with the item's quantity, the
virtual stock, the promo code and the serials where their services are set, a prefix of these
while the cascade runs and all of them once the sweep has moved on. An order no sweep
cancelled, such as one another writer moved out of `pending_payment` first, has none. -/
theorem sweeps_cancel_once_and_release_plan {svc : Services} {w : World}
    (reach : Reachable svc w) :
    (∀ i, cancelCount w.log i ≤ 1) ∧
    (∀ p o before cutoff, .autoCancelled p o before cutoff ∈ w.log →
      let calls := (o.items.enum.filterMap fun (k, item) =>
          (o.inventoryBindings.lookup k).bind fun id =>
            if 0 < id then some (Release.inventory id item.quantity) else none) ++
        (if svc.virtualInventory then [.virtualStock] else []) ++
        (if svc.promoCodes then o.promoCodeID.toList.map .promoCode else []) ++
        (if svc.serials then [.serials] else [])
      before.status = .pendingPayment ∧ before.createdAt * 1000000000 < cutoff ∧
      (w.orders o.id).map (·.status) = some .cancelled ∧
      releasesOf w.log o.id <+: calls.map (p, ·) ∧
      ((w.sweeps p).pendingOf o.id = [] → releasesOf w.log o.id = calls.map (p, ·))) ∧
    (∀ i, cancelCount w.log i = 0 → releasesOf w.log i = []) ∧
    (∀ i status, .movedOut i status ∈ w.log → cancelCount w.log i = 0) := by
  have inv := reach.inv
  refine ⟨fun i => (cancelCount_le_leaveCount _ i).trans (inv.leave_le i), ?_, inv.releases_none, ?_⟩
  · intro p o before cutoff mem
    have plan := inv.releases_plan p o before cutoff mem
    rw [releasePlan_eq] at plan
    obtain ⟨pending, created, cancelled⟩ := inv.cancelled p o before cutoff mem
    exact ⟨pending, created, cancelled, plan ▸ List.prefix_append _ _,
      fun done => by simpa [done] using plan⟩
  · intro i status moved
    by_contra ne
    obtain ⟨e, mem, cancels⟩ := List.countP_pos_iff.mp (Nat.pos_of_ne_zero ne)
    have same := eq_of_countP_le_one (inv.leave_le i) mem moved
      (by cases e <;> simp_all [Event.cancels, Event.leaves]) (by simp [Event.leaves])
    subst same
    simp [Event.cancels] at cancels

def demoDetails : OrderDetails where
  receiverName := ""
  phoneCode := ""
  receiverPhone := ""
  receiverEmail := ""
  receiverCountry := ""
  receiverProvince := ""
  receiverCity := ""
  receiverDistrict := ""
  receiverAddress := ""
  receiverPostcode := ""
  privacyProtected := false
  trackingNo := ""
  shippedAt := none
  completedAt := none
  formSubmittedAt := none
  userEmail := ""
  emailNotificationsEnabled := false
  totalAmount := .zero false
  currency := "CNY"
  remark := ""

/-- An unpaid order created at time 0, whose one item holds 2 units of inventory 5, with
promo code 7. -/
def unpaidOrder : Order where
  id := 1
  orderNo := "O1"
  userID := some 1
  status := .pendingPayment
  items := [⟨"SKU", "Item", 2, "physical", none⟩]
  inventoryBindings := [(0, 5)]
  promoCodeID := some 7
  actualAttributes := ""
  adminRemark := ""
  details := demoDetails
  createdAt := 0
  updatedAt := 0

def allServices : Services := ⟨true, true, true⟩

def unpaidStart : World := ⟨fun i => if i = 1 then some unpaidOrder else none, 0, fun _ => .idle, []⟩

theorem unpaidStart_reachable : Reachable allServices unpaidStart :=
  Reach.init ⟨fun i o row => by
    by_cases hi : i = 1
    · subst hi; cases row; rfl
    · simp [unpaidStart, hi] at row, rfl, rfl⟩

/-- Three days and a second after the order, a sweep cancels it and makes its four release
calls, the second of which fails. -/
def cancelWorld : World :=
  (run allServices unpaidStart
    [.select 0 259201000000000 [1], .update 0 false, .release 0 true, .release 0 false,
     .release 0 true, .release 0 true, .release 0 true, .update 0 false]).getD unpaidStart

theorem sweeps_cancel_once_on_unpaid_order :
    (∀ i, cancelCount cancelWorld.log i ≤ 1) ∧
    (∀ p o before cutoff, .autoCancelled p o before cutoff ∈ cancelWorld.log →
      let calls := (o.items.enum.filterMap fun (k, item) =>
          (o.inventoryBindings.lookup k).bind fun id =>
            if 0 < id then some (Release.inventory id item.quantity) else none) ++
        (if allServices.virtualInventory then [.virtualStock] else []) ++
        (if allServices.promoCodes then o.promoCodeID.toList.map .promoCode else []) ++
        (if allServices.serials then [.serials] else [])
      before.status = .pendingPayment ∧ before.createdAt * 1000000000 < cutoff ∧
      (cancelWorld.orders o.id).map (·.status) = some .cancelled ∧
      releasesOf cancelWorld.log o.id <+: calls.map (p, ·) ∧
      ((cancelWorld.sweeps p).pendingOf o.id = [] →
        releasesOf cancelWorld.log o.id = calls.map (p, ·))) ∧
    (∀ i, cancelCount cancelWorld.log i = 0 → releasesOf cancelWorld.log i = []) ∧
    (∀ i status, .movedOut i status ∈ cancelWorld.log → cancelCount cancelWorld.log i = 0) :=
  sweeps_cancel_once_and_release_plan (unpaidStart_reachable.runSteps (runSteps_getD (by decide)))

example : releasesOf cancelWorld.log 1 =
    [(0, .inventory 5 2), (0, .virtualStock), (0, .promoCode 7), (0, .serials)] := by
  decide

/-! ### The payment countdown of the order page -/

structure Remaining where
  hours : Int
  minutes : Int
  expired : Bool
  deriving DecidableEq, Repr

/-- `usePaymentCountdown(createdAt, autoCancelHours)` at `now`, times in milliseconds: what its
`calc` sets, or `none` where the hook sets no countdown. A `createdAt` that `new Date` cannot
read is outside the model. -/
def paymentCountdown (createdAt : Option Int) (autoCancelHours now : Int) : Option Remaining :=
  match createdAt with
  | none => none
  | some created =>
    if autoCancelHours = 0 ∨ autoCancelHours ≤ 0 then none
    else
      let deadline := created + autoCancelHours * 60 * 60 * 1000
      let diff := deadline - now
      if diff ≤ 0 then some ⟨0, 0, true⟩
      else some ⟨diff / (1000 * 60 * 60), diff % (1000 * 60 * 60) / (1000 * 60), false⟩

theorem paymentCountdown_expired {created hours now : Int} (positive : 0 < hours)
    (due : created + hours * 3600000 ≤ now) :
    paymentCountdown (some created) hours now = some ⟨0, 0, true⟩ := by
  simp only [paymentCountdown]
  rw [if_neg (by omega), if_pos (by omega)]

theorem paymentCountdown_running {created hours now H M : Int} (positive : 0 < hours)
    (shown : paymentCountdown (some created) hours now = some ⟨H, M, false⟩) :
    M < 60 ∧ now + (H * 60 + M) * 60000 ≤ created + hours * 3600000 ∧
      created + hours * 3600000 < now + (H * 60 + M + 1) * 60000 := by
  simp only [paymentCountdown] at shown
  rw [if_neg (by omega)] at shown
  split_ifs at shown
  · simp at shown
  · cases shown
    omega

theorem selectable_of_select {svc : Services} {w w' : World} {p : Nat} {now : Int}
    {ids : List Nat} (stepped : transition svc w (.select p now ids) = some w') :
    Selectable w.orders (cutoffTime now (getAutoCancelHours w.configuredHours)) ids := by
  simp only [transition] at stepped
  split at stepped
  · split_ifs at stepped with selectable
    exact selectable
  · cases stepped

/-- An idle sweep's query may return a pending order exactly when the order is older than the
cutoff. -/
theorem select_one_isSome {svc : Services} {w : World} {p i : Nat} {o : Order} {t : Int}
    (row : w.orders i = some o) (pending : o.status = .pendingPayment) (idle : w.sweeps p = .idle)
    (older : o.createdAt * 1000000000 < cutoffTime t (getAutoCancelHours w.configuredHours)) :
    (transition svc w (.select p t [i])).isSome := by
  have query : Selectable w.orders (cutoffTime t (getAutoCancelHours w.configuredHours)) [i] :=
    ⟨by simp, List.nodup_singleton i, by
      simpa only [List.mem_singleton, forall_eq, row, matchesQuery, pending, true_and,
        decide_eq_true_eq] using older⟩
  simp only [transition, idle, if_pos query, Option.isSome_some]

/-- With fewer than 2562048 hours configured, the order page's countdown agrees with the
sweep: a sweep started at a time whose query returns the order finds the countdown expired; a
running countdown keeps every sweep from the order for the whole time it shows, and from one
minute after that time on a sweep's query may return the order while it is unpaid. A sweep's
clock is in nanoseconds, the page's in milliseconds. -/
theorem countdown_matches_sweep (svc : Services) (w : World) (i : Nat) (o : Order)
    (row : w.orders i = some o) (configured : 0 < w.configuredHours)
    (noWrap : w.configuredHours < 2562048) :
    (∀ p t ids w', transition svc w (.select p t ids) = some w' → i ∈ ids →
      paymentCountdown (some (o.createdAt * 1000)) w.configuredHours (t / 1000000) =
        some ⟨0, 0, true⟩) ∧
    ∀ now H M, paymentCountdown (some (o.createdAt * 1000)) w.configuredHours now =
        some ⟨H, M, false⟩ →
      M < 60 ∧
      (∀ p t ids w', t ≤ (now + (H * 60 + M) * 60000) * 1000000 →
        transition svc w (.select p t ids) = some w' → i ∉ ids) ∧
      (∀ p t, (now + (H * 60 + M + 1) * 60000) * 1000000 < t → o.status = .pendingPayment →
        w.sweeps p = .idle → (transition svc w (.select p t [i])).isSome) := by
  have hours : getAutoCancelHours w.configuredHours = w.configuredHours := if_pos configured
  have cutoff : ∀ t, cutoffTime t (getAutoCancelHours w.configuredHours) =
      t - w.configuredHours * 3600000000000 := fun t => by
    rw [hours, cutoffTime, toInt64_hours configured.le noWrap]; ring
  have selected : ∀ p t ids w', transition svc w (.select p t ids) = some w' → i ∈ ids →
      o.createdAt * 1000000000 < t - w.configuredHours * 3600000000000 := by
    intro p t ids w' stepped mem
    have query := (selectable_of_select stepped).2.2 i mem
    rw [row, cutoff] at query
    simp only [matchesQuery, decide_eq_true_eq] at query
    exact query.2
  refine ⟨fun p t ids w' stepped mem => paymentCountdown_expired configured
    (by have := selected p t ids w' stepped mem; omega), fun now H M shown => ?_⟩
  obtain ⟨minutes, safe, due⟩ := paymentCountdown_running configured shown
  refine ⟨minutes, fun p t ids w' early stepped mem => ?_, fun p t late pending idle => ?_⟩
  · have := selected p t ids w' stepped mem
    omega
  · exact select_one_isSome row pending idle (by rw [cutoff]; omega)

def unpaidWorld : World :=
  ⟨fun i => if i = 1 then some unpaidOrder else none, 72, fun _ => .idle, []⟩

theorem countdown_matches_sweep_unpaidOrder :
    0 < unpaidWorld.configuredHours ∧ unpaidWorld.configuredHours < 2562048 ∧
    (∀ p t ids w', transition allServices unpaidWorld (.select p t ids) = some w' →
      1 ∈ ids → paymentCountdown (some (unpaidOrder.createdAt * 1000)) unpaidWorld.configuredHours
        (t / 1000000) = some ⟨0, 0, true⟩) ∧
    ∀ now H M, paymentCountdown (some (unpaidOrder.createdAt * 1000))
        unpaidWorld.configuredHours now = some ⟨H, M, false⟩ →
      M < 60 ∧
      (∀ p t ids w', t ≤ (now + (H * 60 + M) * 60000) * 1000000 →
        transition allServices unpaidWorld (.select p t ids) = some w' → 1 ∉ ids) ∧
      (∀ p t, (now + (H * 60 + M + 1) * 60000) * 1000000 < t →
        unpaidOrder.status = .pendingPayment →
        unpaidWorld.sweeps p = .idle →
        (transition allServices unpaidWorld (.select p t [1])).isSome) :=
  ⟨by decide, by decide,
    countdown_matches_sweep allServices unpaidWorld 1 unpaidOrder rfl (by decide) (by decide)⟩

def hugeHoursWorld : World :=
  ⟨fun i => if i = 1 then some unpaidOrder else none, 2562048, fun _ => .idle, []⟩

end AuraLogic.OrderCancel
