import AuraLogic.Models
import AuraLogic.TransitionSystem
import Mathlib.Logic.Function.Basic
import Mathlib.Data.List.Basic
import Mathlib.Data.String.Basic

/-! The ticket auto-close sweep (`TicketAutoCloseService`) interleaved with replies. A sweep's
batch query and each `closeTicket` transaction are atomic steps; a failed transaction is rolled
back. Times here are nanoseconds, as `time.Now()` gives them. -/

namespace AuraLogic.TicketAutoClose

structure TicketStatus where
  val : String
  deriving DecidableEq, Repr

/-- Modelled from the spec: the status constants are declared in a file that is not in the
source, so their values are the spec's status names. -/
def ticketStatusOpen : TicketStatus := ⟨"open"⟩
def ticketStatusProcessing : TicketStatus := ⟨"processing"⟩
def ticketStatusResolved : TicketStatus := ⟨"resolved"⟩
def ticketStatusClosed : TicketStatus := ⟨"closed"⟩

def activeStatuses : List TicketStatus :=
  [ticketStatusOpen, ticketStatusProcessing, ticketStatusResolved]

@[simp] theorem closed_not_active : ticketStatusClosed ∉ activeStatuses := by decide

structure User where
  locale : String
  deriving DecidableEq, Repr

/-- `models.Ticket`; `user` is the preloaded `User`, `none` for a nil pointer, and the
preview is a Go string, a sequence of bytes. -/
structure Ticket where
  id : Nat
  ticketNo : String
  user : Option User
  status : TicketStatus
  closedAt : Option Int
  unreadCountUser : Nat
  lastMessageAt : Option Int
  lastMessagePreview : List UInt8
  lastMessageBy : String
  deriving DecidableEq, Repr

structure TicketMessage where
  ticketID : Nat
  senderType : String
  senderID : Nat
  senderName : String
  content : String
  contentType : String
  isReadByUser : Bool
  isReadByAdmin : Bool
  deriving DecidableEq, Repr

def ticketAutoCloseMessage (user : Option User) (hours : Int) : String :=
  let locale := match user with
    | some u => u.locale
    | none => ""
  if locale = "zh" then s!"工单已超过 {hours} 小时无回复，系统自动关闭。"
  else s!"Ticket automatically closed after {hours} hours with no reply."

/-- The preview `closeTicket` stores: the message cut to its first 200 bytes. -/
def previewOf (msg : String) : List UInt8 :=
  let preview := msg.toUTF8.data.toList
  if preview.length > 200 then preview.take 200 else preview

def systemMessage (t : Ticket) (msg : String) : TicketMessage where
  ticketID := t.id
  senderType := "admin"
  senderID := 0
  senderName := "System"
  content := msg
  contentType := "text"
  isReadByUser := false
  isReadByAdmin := true

structure Store where
  tickets : Nat → Option Ticket
  messages : List TicketMessage

def Store.setTicket (db : Store) (i : Nat) (t : Ticket) : Store :=
  { db with tickets := Function.update db.tickets i (some t) }

/-- The statements of the `closeTicket` transaction, one of which may fail. -/
inductive Statement where
  | updateStatus
  | createMessage
  | updateCounters
  deriving DecidableEq, Repr

def closedRow (cur : Ticket) (msg : String) (now : Int) : Ticket :=
  { cur with
    status := ticketStatusClosed
    closedAt := some now
    unreadCountUser := cur.unreadCountUser + 1
    lastMessageAt := some now
    lastMessagePreview := previewOf msg
    lastMessageBy := "admin" }

/-- `closeTicket`: the conditional update, the system message and the counters, committed
together; `fail` names the statement that returns an error, after which the transaction is
rolled back. The second component is the row the update matched, if it committed. -/
def closeTicket (db : Store) (ticket : Ticket) (hours now : Int) (fail : Option Statement) :
    Store × Option Ticket :=
  match db.tickets ticket.id with
  | none => (db, none)
  | some cur =>
    if fail = some .updateStatus then (db, none)
    else if cur.status ∉ activeStatuses then (db, none)
    else if fail.isSome then (db, none)
    else
      let msg := ticketAutoCloseMessage ticket.user hours
      ({ db.setTicket ticket.id (closedRow cur msg now) with
         messages := db.messages ++ [systemMessage ticket msg] }, some cur)

/-- Where one sweep (`closeInactiveTickets`) is. While closing it holds the hours, the
`now` and the cutoff it read, its batch, and, as ghost state, the length of the log when its
query ran. -/
inductive Phase where
  | idle
  | closing (hours now cutoff : Int) (since : Nat) (batch : List Ticket)

namespace Phase

def batch : Phase → List Ticket
  | .idle => []
  | .closing _ _ _ _ batch => batch

end Phase

inductive Event where
  /-- A sweep's `closeTicket` committed: `ticket` is its batch copy, `before` the row at the
  update, `since` the log length at the sweep's query. -/
  | closed (sweep : Nat) (ticket before : Ticket) (cutoff : Int) (since : Nat)
  | posted (ticketID : Nat) (at_ : Int)
  deriving DecidableEq

structure World where
  db : Store
  autoCloseHours : Int
  clock : Int
  sweeps : Nat → Phase
  log : List Event

inductive Action where
  | select (sweep : Nat) (ids : List Nat)
  | close (sweep : Nat) (fail : Option Statement)
  | post (ticketID : Nat) (status : TicketStatus)
  | tick (nanoseconds : Nat)
  | configure (hours : Int)

/-- A row the batch query matches: an active status and a last message before the cutoff. -/
def matchesQuery (cutoff : Int) : Option Ticket → Bool
  | some t => t.status ∈ activeStatuses ∧ ∃ at_ ∈ t.lastMessageAt, at_ < cutoff
  | none => false

/-- What the query may return: at most 100 distinct matching rows. -/
def Selectable (tickets : Nat → Option Ticket) (cutoff : Int) (ids : List Nat) : Prop :=
  ids.length ≤ 100 ∧ ids.Nodup ∧ ∀ i ∈ ids, matchesQuery cutoff (tickets i)

instance (tickets : Nat → Option Ticket) (cutoff : Int) (ids : List Nat) :
    Decidable (Selectable tickets cutoff ids) :=
  inferInstanceAs (Decidable (_ ∧ _ ∧ _))

def World.setSweep (w : World) (p : Nat) (phase : Phase) : World :=
  { w with sweeps := Function.update w.sweeps p phase }

def closeHead (w : World) (p : Nat) (hours now cutoff : Int) (since : Nat) (t : Ticket)
    (rest : List Ticket) (fail : Option Statement) : World :=
  let (db, closed) := closeTicket w.db t hours now fail
  { w with
    db := db
    sweeps := Function.update w.sweeps p (.closing hours now cutoff since rest)
    log := match closed with
      | some before => w.log ++ [.closed p t before cutoff since]
      | none => w.log }

def transition (w : World) : Action → Option World
  | .select p ids =>
    match w.sweeps p with
    | .idle =>
      let hours := w.autoCloseHours
      let cutoff := w.clock + toInt64 (-hours * 3600000000000)
      if hours ≤ 0 then some w
      else if Selectable w.db.tickets cutoff ids then
        some (w.setSweep p (.closing hours w.clock cutoff w.log.length (ids.filterMap w.db.tickets)))
      else none
    | _ => none
  | .close p fail =>
    match w.sweeps p with
    | .closing _ _ _ _ [] => some (w.setSweep p .idle)
    | .closing hours now cutoff since (t :: rest) => some (closeHead w p hours now cutoff since t rest fail)
    | _ => none
  | .post i status =>
    match w.db.tickets i with
    | some cur =>
      if status ∈ activeStatuses then
        some { w with
          db := w.db.setTicket i { cur with status := status, lastMessageAt := some w.clock }
          log := w.log ++ [.posted i w.clock] }
      else none
    | none => none
  | .tick nanoseconds => some { w with clock := w.clock + nanoseconds }
  | .configure hours => some { w with autoCloseHours := hours }

def Keyed (tickets : Nat → Option Ticket) : Prop := ∀ i t, tickets i = some t → t.id = i

def initial (db : Store) (hours clock : Int) : World := ⟨db, hours, clock, fun _ => .idle, []⟩

/-- The worlds sweeps and replies reach, in any interleaving, from any keyed tickets table. -/
abbrev Reachable : World → Prop :=
  Reach (fun w => Keyed w.db.tickets ∧ w.sweeps = (fun _ => .idle) ∧ w.log = []) transition

abbrev run : World → List Action → Option World := runSteps transition

section Lemmas

@[simp] theorem setSweep_db (w : World) (p : Nat) (ph : Phase) : (w.setSweep p ph).db = w.db := rfl

@[simp] theorem setSweep_log (w : World) (p : Nat) (ph : Phase) : (w.setSweep p ph).log = w.log := rfl

@[simp] theorem setSweep_sweeps (w : World) (p : Nat) (ph : Phase) :
    (w.setSweep p ph).sweeps = Function.update w.sweeps p ph := rfl

@[simp] theorem setTicket_tickets (db : Store) (i : Nat) (t : Ticket) :
    (db.setTicket i t).tickets = Function.update db.tickets i (some t) := rfl

@[simp] theorem setTicket_messages (db : Store) (i : Nat) (t : Ticket) :
    (db.setTicket i t).messages = db.messages := rfl

/-- `closeTicket` either changes nothing or commits all three statements together. -/
theorem closeTicket_spec (db : Store) (t : Ticket) (hours now : Int) (fail : Option Statement) :
    closeTicket db t hours now fail = (db, none) ∨
      ∃ cur, db.tickets t.id = some cur ∧ cur.status ∈ activeStatuses ∧ fail = none ∧
        closeTicket db t hours now fail =
          ({ db.setTicket t.id (closedRow cur (ticketAutoCloseMessage t.user hours) now) with
             messages := db.messages ++ [systemMessage t (ticketAutoCloseMessage t.user hours)] },
           some cur) := by
  unfold closeTicket
  split
  · exact .inl rfl
  · rename_i cur row
    split
    · exact .inl rfl
    · split
      · exact .inl rfl
      · split
        · exact .inl rfl
        · rename_i active failed
          exact .inr ⟨cur, row, not_not.mp active, Option.not_isSome_iff_eq_none.mp failed, rfl⟩

end Lemmas

/-- A message was posted on ticket `i` at a log position from `a` to before `b`. -/
def PostedBetween (log : List Event) (i a b : Nat) : Prop :=
  ∃ at_, .posted i at_ ∈ (log.take b).drop a

theorem PostedBetween.append {log : List Event} {e : Event} {i a b : Nat} (hb : b ≤ log.length) :
    PostedBetween (log ++ [e]) i a b ↔ PostedBetween log i a b := by
  simp [PostedBetween, List.take_append_of_le_length hb]

theorem postedBetween_append_length {log : List Event} {e : Event} {i a : Nat} :
    PostedBetween (log ++ [e]) i a (log.length + 1) ↔
      PostedBetween log i a log.length ∨ (a ≤ log.length ∧ ∃ at_, e = .posted i at_) := by
  rw [PostedBetween, PostedBetween, List.take_of_length_le (by simp),
    List.take_of_length_le (le_refl _), List.drop_append_eq_append_drop]
  by_cases ha : a ≤ log.length
  · simp [Nat.sub_eq_zero_of_le ha, ha, exists_or, eq_comm]
  · have gone : List.drop (a - log.length) [e] = [] := List.drop_eq_nil_of_le (by simp; omega)
    simp [gone, ha]

section Invariant

variable {w : World}

/-- A sweep's batch rows matched its query, and each is still as the query read it unless
a message was posted on it since or it was closed. Every committed close found an active
row whose batch copy matched the query, and whose last message is before the cutoff unless
a message was posted between the query and the close. -/
structure Inv (w : World) : Prop where
  keyed : Keyed w.db.tickets
  since_le : ∀ p h now c since batch, w.sweeps p = .closing h now c since batch →
    since ≤ w.log.length
  queried : ∀ p h now c since batch, w.sweeps p = .closing h now c since batch →
    ∀ b ∈ batch, ∃ at_ ∈ b.lastMessageAt, at_ < c
  current : ∀ p h now c since batch, w.sweeps p = .closing h now c since batch →
    ∀ b ∈ batch, ¬ PostedBetween w.log b.id since w.log.length →
      ∃ cur, w.db.tickets b.id = some cur ∧
        (cur.lastMessageAt = b.lastMessageAt ∨ cur.status = ticketStatusClosed)
  closed : ∀ k p t before c since, w.log[k]? = some (.closed p t before c since) →
    before.status ∈ activeStatuses ∧ (∃ at_ ∈ t.lastMessageAt, at_ < c) ∧
      ((∃ at_ ∈ before.lastMessageAt, at_ < c) ∨ PostedBetween w.log t.id since k)

def PhaseOk (w : World) (ph : Phase) : Prop :=
  ∀ h now c since batch, ph = .closing h now c since batch →
    since ≤ w.log.length ∧ (∀ b ∈ batch, ∃ at_ ∈ b.lastMessageAt, at_ < c) ∧
      ∀ b ∈ batch, ¬ PostedBetween w.log b.id since w.log.length →
        ∃ cur, w.db.tickets b.id = some cur ∧
          (cur.lastMessageAt = b.lastMessageAt ∨ cur.status = ticketStatusClosed)

theorem Inv.phaseOk (inv : Inv w) (p : Nat) : PhaseOk w (w.sweeps p) :=
  fun h now c since batch ph => ⟨inv.since_le p h now c since batch ph,
    inv.queried p h now c since batch ph, inv.current p h now c since batch ph⟩

theorem PhaseOk.tail {h now c : Int} {since : Nat} {t : Ticket} {rest : List Ticket}
    (ok : PhaseOk w (.closing h now c since (t :: rest))) : PhaseOk w (.closing h now c since rest) := by
  rintro h now c since batch ⟨⟩
  obtain ⟨le, queried, current⟩ := ok h now c since (t :: rest) rfl
  exact ⟨le, fun b mem => queried b (List.mem_cons_of_mem t mem),
    fun b mem => current b (List.mem_cons_of_mem t mem)⟩

theorem inv_initial (keyed : Keyed w.db.tickets) (idle : w.sweeps = fun _ => .idle)
    (empty : w.log = []) : Inv w where
  keyed := keyed
  since_le := by simp [idle]
  queried := by simp [idle]
  current := by simp [idle]
  closed := by simp [empty]

theorem Inv.setSweep (inv : Inv w) {p : Nat} {ph : Phase} (ok : PhaseOk w ph) :
    Inv (w.setSweep p ph) := by
  have phase : ∀ q, PhaseOk w (Function.update w.sweeps p ph q) := fun q => by
    by_cases hq : q = p
    · subst hq; simpa using ok
    · simpa [hq] using inv.phaseOk q
  exact ⟨inv.keyed, fun q h now c since batch eq => (phase q h now c since batch eq).1,
    fun q h now c since batch eq => (phase q h now c since batch eq).2.1,
    fun q h now c since batch eq => (phase q h now c since batch eq).2.2, inv.closed⟩

theorem Inv.select (inv : Inv w) {p : Nat} {h c : Int} {ids : List Nat}
    (sel : Selectable w.db.tickets c ids) :
    Inv (w.setSweep p (.closing h w.clock c w.log.length (ids.filterMap w.db.tickets))) := by
  refine inv.setSweep ?_
  rintro h now c since batch ⟨⟩
  have row : ∀ b ∈ ids.filterMap w.db.tickets, w.db.tickets b.id = some b ∧ matchesQuery c (some b) :=
    fun b mem => by
      obtain ⟨i, hi, row⟩ := List.mem_filterMap.mp mem
      have key := inv.keyed i b row
      subst key
      exact ⟨row, row ▸ sel.2.2 _ hi⟩
  refine ⟨le_refl _, fun b mem => ?_, fun b mem _ => ⟨b, (row b mem).1, .inl rfl⟩⟩
  have matched := (row b mem).2
  simp only [matchesQuery, decide_eq_true_eq] at matched
  exact matched.2

theorem Inv.commit (inv : Inv w) {p : Nat} {h now c : Int} {since : Nat} {t : Ticket}
    {rest : List Ticket} {cur : Ticket} (sweep : w.sweeps p = .closing h now c since (t :: rest))
    (row : w.db.tickets t.id = some cur) (active : cur.status ∈ activeStatuses) :
    Inv { w with
      db := { w.db.setTicket t.id (closedRow cur (ticketAutoCloseMessage t.user h) now) with
        messages := w.db.messages ++ [systemMessage t (ticketAutoCloseMessage t.user h)] }
      sweeps := Function.update w.sweeps p (.closing h now c since rest)
      log := w.log ++ [.closed p t cur c since] } := by
  obtain ⟨le, queried, current⟩ := inv.phaseOk p h now c since (t :: rest) sweep
  have posted : ∀ i a, PostedBetween (w.log ++ [.closed p t cur c since]) i a (w.log.length + 1) ↔
      PostedBetween w.log i a w.log.length := fun i a => by
    simp [postedBetween_append_length]
  have phase : ∀ q, PhaseOk w (Function.update w.sweeps p (.closing h now c since rest) q) := fun q => by
    by_cases hq : q = p
    · subst hq; simpa using (sweep ▸ inv.phaseOk q).tail
    · simpa [hq] using inv.phaseOk q
  constructor
  · intro i r hr
    by_cases hi : i = t.id
    · subst hi; simp at hr; subst hr; exact (inv.keyed _ cur row :)
    · simp [hi] at hr; exact inv.keyed i r hr
  · intro q h' now' c' since' batch eq
    have := (phase q h' now' c' since' batch eq).1
    simp only [List.length_append, List.length_singleton]; omega
  · exact fun q h' now' c' since' batch eq => (phase q h' now' c' since' batch eq).2.1
  · intro q h' now' c' since' batch eq b mem none
    obtain ⟨-, -, current'⟩ := phase q h' now' c' since' batch eq
    by_cases same : b.id = t.id
    · exact ⟨closedRow cur (ticketAutoCloseMessage t.user h) now, by simp [same], .inr rfl⟩
    · simpa [same] using current' b mem (by simpa [posted] using none)
  · intro k q t' before c' since' entry
    rcases Nat.lt_or_ge k w.log.length with lt | ge
    · rw [List.getElem?_append_left lt] at entry
      simpa [PostedBetween.append lt.le] using inv.closed k q t' before c' since' entry
    · have hk : k = w.log.length := by
        have := (List.getElem?_eq_some_iff.mp entry).1
        simp at this; omega
      subst hk
      simp only [List.getElem?_concat_length, Option.some.injEq, Event.closed.injEq] at entry
      obtain ⟨rfl, rfl, rfl, rfl, rfl⟩ := entry
      refine ⟨active, queried t (List.mem_cons_self t rest), ?_⟩
      by_cases replied : PostedBetween w.log t.id since w.log.length
      · exact .inr ((PostedBetween.append (le_refl _)).mpr replied)
      · obtain ⟨cur', row', same | shut⟩ := current t (List.mem_cons_self t rest) replied
        · rw [row] at row'; cases row'
          exact .inl (same ▸ queried t (List.mem_cons_self t rest))
        · rw [row] at row'; cases row'
          exact absurd (shut ▸ active) closed_not_active

theorem Inv.post (inv : Inv w) {i : Nat} {cur : Ticket} {status : TicketStatus}
    (row : w.db.tickets i = some cur) :
    Inv { w with
      db := w.db.setTicket i { cur with status := status, lastMessageAt := some w.clock }
      log := w.log ++ [.posted i w.clock] } := by
  constructor
  · intro j r hr
    by_cases hj : j = i
    · subst hj; simp at hr; subst hr; exact (inv.keyed j cur row :)
    · simp [hj] at hr; exact inv.keyed j r hr
  · intro q h now c since batch eq
    have := inv.since_le q h now c since batch eq
    simp only [List.length_append, List.length_singleton]; omega
  · exact inv.queried
  · intro q h now c since batch eq b mem none
    simp only [List.length_append, List.length_singleton, postedBetween_append_length,
      not_or, Event.posted.injEq] at none
    by_cases same : b.id = i
    · exact absurd ⟨inv.since_le q h now c since batch eq, w.clock, same.symm, rfl⟩ none.2
    · simpa [same] using inv.current q h now c since batch eq b mem none.1
  · intro k q t before c since entry
    rcases Nat.lt_or_ge k w.log.length with lt | ge
    · rw [List.getElem?_append_left lt] at entry
      simpa [PostedBetween.append lt.le] using inv.closed k q t before c since entry
    · have hk : k = w.log.length := by
        have := (List.getElem?_eq_some_iff.mp entry).1
        simp at this; omega
      subst hk
      simp at entry

theorem Inv.of_transition (inv : Inv w) {a : Action} {w' : World} (step : transition w a = some w') :
    Inv w' := by
  cases a with
  | select p ids =>
    simp only [transition] at step
    split at step
    · split at step
      · cases step; exact inv
      · split at step
        · cases step; exact inv.select ‹_›
        · cases step
    · cases step
  | close p fail =>
    simp only [transition] at step
    split at step
    · cases step
      exact inv.setSweep fun h now c since batch eq => by cases eq
    · rename_i hours now cutoff since t rest sweep
      cases step
      unfold closeHead
      rcases closeTicket_spec w.db t hours now fail with same | ⟨cur, row, active, -, commit⟩
      · simp only [same]
        exact inv.setSweep (sweep ▸ inv.phaseOk _).tail
      · simp only [commit]
        exact inv.commit sweep row active
    · cases step
  | post i status =>
    simp only [transition] at step
    split at step
    · split at step
      · cases step; exact inv.post ‹_›
      · cases step
    · cases step
  | tick _ => cases step; exact { inv with }
  | configure hours => cases step; exact { inv with }

theorem Reachable.inv (reach : Reachable w) : Inv w :=
  Reach.invariant (fun _ ⟨keyed, idle, empty⟩ => inv_initial keyed idle empty)
    (fun _ _ _ inv step => inv.of_transition step) reach

end Invariant

/-- Whenever a sweep closes a ticket, the row is active at the update and its batch copy
matched the query; its last message is still before the cutoff unless a message was posted
on the ticket between the sweep's query and the close, since the update re-checks only the
status. -/
theorem close_rechecks_only_status {w : World} (reach : Reachable w) {k p : Nat}
    {t before : Ticket} {cutoff : Int} {since : Nat}
    (entry : w.log[k]? = some (.closed p t before cutoff since)) :
    before.status ∈ activeStatuses ∧ (∃ at_ ∈ t.lastMessageAt, at_ < cutoff) ∧
      ((∃ at_ ∈ before.lastMessageAt, at_ < cutoff) ∨ PostedBetween w.log t.id since k) :=
  reach.inv.closed k p t before cutoff since entry

def Action.isSweep : Action → Bool
  | .post .. => false
  | _ => true

def sweepStep (w : World) (a : Action) : Option World := if a.isSweep then transition w a else none

def systemMessageCount (messages : List TicketMessage) (i : Nat) : Nat :=
  messages.countP fun m => m.ticketID = i ∧ m.senderName = "System"

def closeCount (log : List Event) (i : Nat) : Nat :=
  log.countP fun e => match e with
    | .closed _ t _ _ _ => t.id = i
    | .posted .. => false

/-- Every closed ticket has had one system message and one unread count per close. -/
def Counted (db : Store) (w : World) : Prop :=
  ∀ i, systemMessageCount w.db.messages i = systemMessageCount db.messages i + closeCount w.log i ∧
    (w.db.tickets i).map (·.unreadCountUser) = (db.tickets i).map (·.unreadCountUser + closeCount w.log i)

theorem Counted.of_transition {db : Store} {w w' : World} {a : Action} (counted : Counted db w)
    (sweep : a.isSweep) (step : transition w a = some w') : Counted db w' := by
  cases a with
  | select p ids =>
    simp only [transition] at step
    split at step
    · split at step
      · cases step; exact counted
      · split at step <;> cases step; exact counted
    · cases step
  | close p fail =>
    simp only [transition] at step
    split at step
    · cases step; exact counted
    · rename_i hours now cutoff since t rest sweep
      cases step
      unfold closeHead
      rcases closeTicket_spec w.db t hours now fail with same | ⟨cur, row, -, -, commit⟩
      · simp only [same]; exact counted
      · simp only [commit]
        intro i
        obtain ⟨messages, unread⟩ := counted i
        by_cases hi : t.id = i
        · subst hi
          rw [row] at unread
          obtain ⟨r, old, sum⟩ := Option.map_eq_some'.mp unread.symm
          have appended : systemMessageCount (w.db.messages ++
              [systemMessage t (ticketAutoCloseMessage t.user hours)]) t.id =
              systemMessageCount w.db.messages t.id + 1 := by
            simp [systemMessageCount, List.countP_append, systemMessage]
          refine ⟨by simp [appended, messages, closeCount, List.countP_append]; omega, ?_⟩
          simp [closeCount, List.countP_append, old, closedRow, ← sum]
          omega
        · exact ⟨by simpa [systemMessageCount, closeCount, List.countP_append, systemMessage, hi]
              using messages, by simpa [closeCount, List.countP_append, hi, Ne.symm hi] using unread⟩
    · cases step
  | post i status => simp [Action.isSweep] at sweep
  | tick _ => cases step; exact counted
  | configure hours => cases step; exact counted

theorem closeTicket_commits (db : Store) (t : Ticket) (hours now : Int) {cur : Ticket}
    (row : db.tickets t.id = some cur) (active : cur.status ∈ activeStatuses) :
    closeTicket db t hours now none =
      ({ db.setTicket t.id (closedRow cur (ticketAutoCloseMessage t.user hours) now) with
         messages := db.messages ++ [systemMessage t (ticketAutoCloseMessage t.user hours)] },
       some cur) := by
  simp [closeTicket, row, active]

def quietTicket : Ticket where
  id := 1
  ticketNo := "T1"
  user := none
  status := ticketStatusOpen
  closedAt := none
  unreadCountUser := 0
  lastMessageAt := some 0
  lastMessagePreview := []
  lastMessageBy := "user"

def quietStore : Store := ⟨fun i => if i = 1 then some quietTicket else none, []⟩

def hour100 : Int := 360000000000000

theorem quietStart_reachable : Reachable (initial quietStore 72 hour100) :=
  Reach.init ⟨fun i t row => by
    by_cases hi : i = 1
    · subst hi; cases row; rfl
    · simp [initial, quietStore, hi] at row, rfl, rfl⟩

/-- At hour 100 a sweep with the default 72 hours queries ticket 1; a reply lands on it, and
the sweep then closes it. -/
def replyTrace : List Action := [.select 0 [1], .post 1 ticketStatusOpen, .close 0 none]

def replyWorld : World :=
  (run (initial quietStore 72 hour100) replyTrace).getD (initial quietStore 72 hour100)

theorem replyWorld_reachable : Reachable replyWorld :=
  quietStart_reachable.runSteps (runSteps_getD (by decide))

theorem replyWorld_log : replyWorld.log =
    [.posted 1 hour100,
     .closed 0 quietTicket { quietTicket with lastMessageAt := some hour100 } 100800000000000 0] := by
  decide

theorem close_after_reply :
    ∃ w, Reachable w ∧ ∃ p t before cutoff since, .closed p t before cutoff since ∈ w.log ∧
      ∀ at_ ∈ before.lastMessageAt, cutoff ≤ at_ :=
  ⟨replyWorld, replyWorld_reachable, 0, quietTicket, { quietTicket with lastMessageAt := some hour100 },
    100800000000000, 0, by rw [replyWorld_log]; simp, by simp [hour100]⟩

theorem close_after_reply_posted_between :
    ticketStatusOpen ∈ activeStatuses ∧ (∃ at_ ∈ quietTicket.lastMessageAt, at_ < 100800000000000) ∧
      ((∃ at_ ∈ ({ quietTicket with lastMessageAt := some hour100 } : Ticket).lastMessageAt,
          at_ < 100800000000000) ∨
        PostedBetween replyWorld.log quietTicket.id 0 1) :=
  close_rechecks_only_status replyWorld_reachable (k := 1) (p := 0) (by rw [replyWorld_log]; rfl)

def closeTrace : List Action := [.select 0 [1], .close 0 none]

def closeWorld : World :=
  (runSteps sweepStep (initial quietStore 72 hour100) closeTrace).getD (initial quietStore 72 hour100)

example : systemMessageCount closeWorld.db.messages 1 = 1 ∧
    (closeWorld.db.tickets 1).map (·.unreadCountUser) = some 1 := by
  decide

/-! ### The preview of the system message -/

theorem utf8ByteSize_le_length (s : String) : s.utf8ByteSize ≤ 4 * s.length := by
  obtain ⟨cs⟩ := s
  simp only [String.utf8ByteSize_mk, String.length]
  induction cs with
  | nil => simp
  | cons c cs ih =>
    simp only [String.utf8Len_cons, List.length_cons]
    have := c.utf8Size_le_four
    omega

theorem utf8ByteSize_append (a b : String) :
    (a ++ b).utf8ByteSize = a.utf8ByteSize + b.utf8ByteSize :=
  String.utf8Len_append a.data b.data

theorem toString_int_length {hours : Int} (goInt : -2 ^ 63 ≤ hours ∧ hours < 2 ^ 63) :
    (toString hours).length ≤ 20 := by
  cases hours with
  | ofNat m =>
    rw [Int.ofNat_eq_coe] at goInt
    exact (Nat.repr_length m 19 (by decide) (by omega)).trans (by decide)
  | negSucc m =>
    rw [Int.negSucc_eq] at goInt
    have digits := Nat.repr_length (m + 1) 19 (by decide) (by omega)
    show ("-" ++ Nat.repr (m + 1)).length ≤ 20
    rw [String.length_append, show "-".length = 1 from rfl]
    omega

theorem autoCloseMessage_size (user : Option User) {hours : Int}
    (goInt : -2 ^ 63 ≤ hours ∧ hours < 2 ^ 63) :
    (ticketAutoCloseMessage user hours).utf8ByteSize ≤ 200 := by
  have digits := utf8ByteSize_le_length (toString hours)
  have short := toString_int_length goInt
  have zh : (toString "工单已超过 ").utf8ByteSize +
      (toString " 小时无回复，系统自动关闭。").utf8ByteSize = 56 := by decide
  have en : (toString "Ticket automatically closed after ").utf8ByteSize +
      (toString " hours with no reply.").utf8ByteSize = 55 := by decide
  simp only [ticketAutoCloseMessage]
  split_ifs <;> simp only [utf8ByteSize_append] <;> omega

/-- For every user and every Go `int` of hours, the preview `closeTicket` stores is the whole
system message: its 200-byte cut, which could split a character of the Chinese text, never
applies. -/
theorem preview_whole_message (user : Option User) {hours : Int}
    (goInt : -2 ^ 63 ≤ hours ∧ hours < 2 ^ 63) :
    previewOf (ticketAutoCloseMessage user hours) =
      (ticketAutoCloseMessage user hours).toUTF8.data.toList := by
  have size := autoCloseMessage_size user goInt
  have bytes : (ticketAutoCloseMessage user hours).toUTF8.data.toList.length =
      (ticketAutoCloseMessage user hours).utf8ByteSize := by
    rw [Array.length_toList, ← String.size_toUTF8]; rfl
  exact if_neg (by omega)

theorem preview_whole_message_zh :
    (-2 ^ 63 ≤ (72 : Int) ∧ (72 : Int) < 2 ^ 63) ∧
      previewOf (ticketAutoCloseMessage (some ⟨"zh"⟩) 72) =
        (ticketAutoCloseMessage (some ⟨"zh"⟩) 72).toUTF8.data.toList :=
  ⟨⟨by decide, by decide⟩,
    preview_whole_message (some ⟨"zh"⟩) ⟨by decide, by decide⟩⟩

end AuraLogic.TicketAutoClose
