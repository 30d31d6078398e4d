import AuraLogic.TransitionSystem
import Mathlib.Data.List.Sort
import Mathlib.Logic.Function.Basic

/-! `SMSService.SendVerificationCode` and `ProcessDelayedSMS` as concurrent steps: a request's
limit check and its send are two steps, and a rate-limited SMS goes to the delayed set
`sms:delayed`, which a pass every 30 seconds reads and sends from. A clock read (`time.Now()`)
is in nanoseconds; a score is its `Unix()`, in seconds. -/

namespace AuraLogic.SmsService

/-- A verification SMS: the arguments of `SendVerificationCode`. -/
structure Sms where
  phone : String
  phoneCode : String
  code : String
  eventType : String
  deriving DecidableEq, Repr

def Sms.recipient (m : Sms) : String := m.phoneCode ++ m.phone

/-- `checkMessageRateLimit("sms", recipient, rl)`, `incrMessageRateCounters("sms", recipient)`
over the limiter's counters, and `rl.ExceedAction`. -/
structure RateLimit (Counters : Type) where
  limited : Counters → String → Bool
  incr : Counters → String → Counters
  exceedAction : String

structure SmsEnv (Counters : Type) where
  enabled : Bool
  provider : String
  rateLimit : RateLimit Counters
  /-- A provider's send (`sendAliyun`, `sendAliyunDYPNS`, `sendTwilio`, `sendCustomHTTP`):
  `none` on success, else the error's text. -/
  deliver : String → Sms → Option String

variable {C : Type}

/-- `sendDirect`: the provider's error, if any. Its `logSms` record is the `sent` event. -/
def sendDirect (env : SmsEnv C) (m : Sms) : Option String :=
  if env.provider ∈ ["aliyun", "aliyun_dypns", "twilio", "custom"] then env.deliver env.provider m
  else some ("unknown SMS provider: " ++ env.provider)

/-! ### The world -/

/-- Where a `SendVerificationCode` call is: before its checks, between the limit check and the
send, or returned with its error (`none` for nil). -/
inductive Phase where
  | checking
  | sending
  | done (result : Option String)

structure Request where
  sms : Sms
  phase : Phase

/-- The processor: waiting, or going through the members one pass read, tagged with the
pass's number and time. -/
inductive Processor where
  | idle
  | batch (tick : Nat) (now : Int) (items : List (Int × Sms))

def Processor.items : Processor → List (Int × Sms)
  | .idle => []
  | .batch _ _ items => items

def Processor.load (k : Nat) : Processor → Nat
  | .idle => 0
  | .batch tick _ items => if tick = k then items.length else 0

/-- An SMS queued with a score; pass `tick` reading the due members at `now`; an SMS sent,
directly at the request's `time` (`none`) or by pass `tick` read at `time`, with the
provider's error. A pass's sends follow its read one after another, each when the last
returned, so `time` is when the pass read the clock, not when the provider was called. -/
inductive Event where
  | queued (m : Sms) (score : Int)
  | read (tick : Nat) (now : Int)
  | sent (m : Sms) (time : Int) (tick : Option Nat) (result : Option String)
  deriving DecidableEq

def Event.queuedOf (m : Sms) : Event → Bool
  | .queued m' _ => m' = m
  | _ => false

def Event.sentByProcessor (m : Sms) : Event → Bool
  | .sent m' _ (some _) _ => m' = m
  | _ => false

def Event.sentInTick (k : Nat) : Event → Bool
  | .sent _ _ (some k') _ => k' = k
  | _ => false

structure World (C : Type) where
  counters : C
  delayed : List (Int × Sms)
  requests : Nat → Option Request
  processor : Processor
  ticks : Nat
  log : List Event

def zadd (delayed : List (Int × Sms)) (score : Int) (m : Sms) : List (Int × Sms) :=
  (score, m) :: delayed.filter (·.2 ≠ m)

def zrem (delayed : List (Int × Sms)) (m : Sms) : List (Int × Sms) :=
  delayed.filter (·.2 ≠ m)

def unix (t : Int) : Int := t / 1000000000

theorem le_unix_iff {s t : Int} : s ≤ unix t ↔ s * 1000000000 ≤ t := by
  unfold unix; omega

/-- `ZRangeByScoreWithScores` from `-inf` to `now` with count 50: the due members by score.
Redis orders equal scores by member; that order is not modelled. -/
def dueBatch (delayed : List (Int × Sms)) (now : Int) : List (Int × Sms) :=
  ((delayed.filter (·.1 ≤ now)).insertionSort (fun a b => a.1 ≤ b.1)).take 50

inductive Action where
  | request (id : Nat) (m : Sms)
  | check (id : Nat) (now : Int)
  | send (id : Nat) (now : Int)
  | tickStart (now : Int)
  | tickItem

def World.setRequest (w : World C) (id : Nat) (r : Request) : World C :=
  { w with requests := Function.update w.requests id (some r) }

def transition (env : SmsEnv C) (w : World C) : Action → Option (World C)
  | .request id m => if (w.requests id).isNone then some (w.setRequest id ⟨m, .checking⟩) else none
  | .check id now =>
    match w.requests id with
    | some ⟨m, .checking⟩ =>
      if !env.enabled then some (w.setRequest id ⟨m, .done (some "SMS service is not enabled")⟩)
      else if env.rateLimit.limited w.counters m.recipient then
        if env.rateLimit.exceedAction = "delay" then
          some { w.setRequest id ⟨m, .done none⟩ with
                 delayed := zadd w.delayed (unix now) m, log := w.log ++ [.queued m (unix now)] }
        else some (w.setRequest id ⟨m, .done (some "SMS rate limit exceeded")⟩)
      else some (w.setRequest id ⟨m, .sending⟩)
    | _ => none
  | .send id now =>
    match w.requests id with
    | some ⟨m, .sending⟩ =>
      some { w.setRequest id ⟨m, .done (sendDirect env m)⟩ with
             counters := env.rateLimit.incr w.counters m.recipient,
             log := w.log ++ [.sent m now none (sendDirect env m)] }
    | _ => none
  | .tickStart now =>
    match w.processor with
    | .idle =>
      some { w with
             ticks := w.ticks + 1,
             processor := if dueBatch w.delayed (unix now) = [] then .idle
               else .batch w.ticks now (dueBatch w.delayed (unix now)),
             log := w.log ++ [.read w.ticks now] }
    | .batch .. => none
  | .tickItem =>
    match w.processor with
    | .batch k now ((score, m) :: rest) =>
      let next := { w with
                    delayed := zrem w.delayed m,
                    processor := if rest = [] then .idle else .batch k now rest }
      -- older than 10 minutes: the code has expired, the member is dropped
      if now - score * 1000000000 > 600000000000 then some next
      else some { next with log := w.log ++ [.sent m now (some k) (sendDirect env m)] }
    | _ => none

def initial (counters : C) : World C := ⟨counters, [], fun _ => none, .idle, 0, []⟩

abbrev Reachable (env : SmsEnv C) : World C → Prop :=
  Reach (fun w => ∃ counters, w = initial counters) (transition env)

abbrev run (env : SmsEnv C) : World C → List Action → Option (World C) := runSteps (transition env)

/-! ### The delayed set -/

theorem mem_zadd {d : List (Int × Sms)} {score : Int} {m : Sms} {e : Int × Sms} :
    e ∈ zadd d score m ↔ e = (score, m) ∨ (e ∈ d ∧ e.2 ≠ m) := by
  simp [zadd]

theorem mem_zrem {d : List (Int × Sms)} {m : Sms} {e : Int × Sms} :
    e ∈ zrem d m ↔ e ∈ d ∧ e.2 ≠ m := by
  simp [zrem]

theorem member_zadd {d : List (Int × Sms)} {score : Int} {m x : Sms} :
    x ∈ (zadd d score m).map Prod.snd ↔ x = m ∨ x ∈ d.map Prod.snd := by
  simp only [List.mem_map, mem_zadd]
  constructor
  · rintro ⟨e, rfl | ⟨mem, -⟩, rfl⟩
    · exact .inl rfl
    · exact .inr ⟨e, mem, rfl⟩
  · rintro (rfl | ⟨e, mem, rfl⟩)
    · exact ⟨(score, x), .inl rfl, rfl⟩
    · by_cases same : e.2 = m
      · exact ⟨(score, m), .inl rfl, same.symm⟩
      · exact ⟨e, .inr ⟨mem, same⟩, rfl⟩

theorem member_zrem {d : List (Int × Sms)} {m x : Sms} :
    x ∈ (zrem d m).map Prod.snd ↔ x ≠ m ∧ x ∈ d.map Prod.snd := by
  simp only [List.mem_map, mem_zrem]
  constructor
  · rintro ⟨e, ⟨mem, other⟩, rfl⟩
    exact ⟨other, e, mem, rfl⟩
  · rintro ⟨other, e, mem, rfl⟩
    exact ⟨e, ⟨mem, other⟩, rfl⟩

theorem nodup_zrem {d : List (Int × Sms)} (m : Sms) (distinct : (d.map Prod.snd).Nodup) :
    ((zrem d m).map Prod.snd).Nodup :=
  distinct.sublist ((List.filter_sublist d).map Prod.snd)

theorem nodup_zadd {d : List (Int × Sms)} (score : Int) (m : Sms)
    (distinct : (d.map Prod.snd).Nodup) : ((zadd d score m).map Prod.snd).Nodup := by
  rw [zadd, List.map_cons, List.nodup_cons]
  exact ⟨fun mem => (member_zrem.1 mem).1 rfl, nodup_zrem m distinct⟩

theorem mem_dueBatch {d : List (Int × Sms)} {now : Int} {e : Int × Sms} (mem : e ∈ dueBatch d now) :
    e ∈ d ∧ e.1 ≤ now := by
  have sorted := List.mem_of_mem_take mem
  rw [(List.perm_insertionSort _ _).mem_iff, List.mem_filter] at sorted
  exact ⟨sorted.1, by simpa using sorted.2⟩

theorem nodup_dueBatch {d : List (Int × Sms)} (now : Int) (distinct : (d.map Prod.snd).Nodup) :
    ((dueBatch d now).map Prod.snd).Nodup := by
  have due : ((d.filter (·.1 ≤ now)).map Prod.snd).Nodup :=
    distinct.sublist ((List.filter_sublist d).map Prod.snd)
  have sorted := ((List.perm_insertionSort (fun a b : Int × Sms => a.1 ≤ b.1) _).map
    Prod.snd).nodup_iff.2 due
  rw [dueBatch, List.map_take]
  exact sorted.sublist (List.take_sublist _ _)

theorem length_dueBatch_le (d : List (Int × Sms)) (now : Int) : (dueBatch d now).length ≤ 50 := by
  simp [dueBatch]

/-! ### What one step does -/

/-- The four kinds of step, by what they do to the delayed set, the processor and the log:
a request step changes none of them but may queue its SMS or log a direct send; a pass starts;
a pass handles a member. -/
theorem transition_cases {env : SmsEnv C} {w w' : World C} {a : Action}
    (stepped : transition env w a = some w') :
    (w'.processor = w.processor ∧ w'.ticks = w.ticks ∧
      ((w'.delayed = w.delayed ∧ w'.log = w.log) ∨
        (∃ m now, w'.delayed = zadd w.delayed now m ∧ w'.log = w.log ++ [.queued m now]) ∨
        (∃ m now r, w'.delayed = w.delayed ∧ w'.log = w.log ++ [.sent m now none r]))) ∨
    (∃ now, w.processor = .idle ∧ w'.delayed = w.delayed ∧ w'.log = w.log ++ [.read w.ticks now] ∧
      w'.ticks = w.ticks + 1 ∧
      w'.processor = if dueBatch w.delayed (unix now) = [] then .idle
        else .batch w.ticks now (dueBatch w.delayed (unix now))) ∨
    (∃ k now score m rest, w.processor = .batch k now ((score, m) :: rest) ∧
      w'.delayed = zrem w.delayed m ∧ w'.ticks = w.ticks ∧
      w'.processor = (if rest = [] then .idle else .batch k now rest) ∧
      ((now - score * 1000000000 > 600000000000 ∧ w'.log = w.log) ∨
        (¬ now - score * 1000000000 > 600000000000 ∧
          ∃ r, w'.log = w.log ++ [.sent m now (some k) r]))) := by
  cases a with
  | request id m =>
    simp only [transition] at stepped
    split_ifs at stepped
    cases stepped
    exact .inl ⟨rfl, rfl, .inl ⟨rfl, rfl⟩⟩
  | check id now =>
    simp only [transition] at stepped
    split at stepped
    · rename_i m _
      split_ifs at stepped <;> cases stepped
      · exact .inl ⟨rfl, rfl, .inl ⟨rfl, rfl⟩⟩
      · exact .inl ⟨rfl, rfl, .inr (.inl ⟨m, unix now, rfl, rfl⟩)⟩
      · exact .inl ⟨rfl, rfl, .inl ⟨rfl, rfl⟩⟩
      · exact .inl ⟨rfl, rfl, .inl ⟨rfl, rfl⟩⟩
    · cases stepped
  | send id now =>
    simp only [transition] at stepped
    split at stepped
    · rename_i m _
      cases stepped
      exact .inl ⟨rfl, rfl, .inr (.inr ⟨m, now, _, rfl, rfl⟩)⟩
    · cases stepped
  | tickStart now =>
    simp only [transition] at stepped
    split at stepped
    · rename_i idle
      cases stepped
      exact .inr (.inl ⟨now, idle, rfl, rfl, rfl, rfl⟩)
    · cases stepped
  | tickItem =>
    simp only [transition] at stepped
    split at stepped
    · rename_i k now score m rest batch
      by_cases old : now - score * 1000000000 > 600000000000
      · rw [if_pos old] at stepped
        cases stepped
        exact .inr (.inr ⟨k, now, score, m, rest, batch, rfl, rfl, rfl, .inl ⟨old, rfl⟩⟩)
      · rw [if_neg old] at stepped
        cases stepped
        exact .inr (.inr ⟨k, now, score, m, rest, batch, rfl, rfl, rfl, .inr ⟨old, _, rfl⟩⟩)
    · cases stepped

/-! ### What every reachable world satisfies -/

def Processor.Ok (ticks : Nat) : Processor → Prop
  | .idle => True
  | .batch k now items => k < ticks ∧ items ≠ [] ∧ items.length ≤ 50 ∧
      (items.map Prod.snd).Nodup ∧ ∀ e ∈ items, e.1 ≤ unix now

def World.pending (w : World C) : List (Int × Sms) := w.delayed ++ w.processor.items

theorem member_pending {w : World C} {x : Sms} :
    x ∈ w.pending.map Prod.snd ↔ x ∈ w.delayed.map Prod.snd ∨ x ∈ w.processor.items.map Prod.snd := by
  rw [World.pending, List.map_append, List.mem_append]

/-- Each send of a pass was made by a pass that read the clock at `time`, at most 10 minutes
after a queuing of that SMS. -/
def Fresh (log : List Event) : Prop :=
  ∀ m t k r, Event.sent m t (some k) r ∈ log →
    Event.read k t ∈ log ∧ ∃ s, Event.queued m s ∈ log ∧ s * 1000000000 ≤ t ∧
      t - s * 1000000000 ≤ 600000000000

theorem Fresh.append {log : List Event} (fresh : Fresh log) {es : List Event}
    (noSend : ∀ m t k r, Event.sent m t (some k) r ∉ es) : Fresh (log ++ es) := by
  intro m t k r sent
  rcases List.mem_append.1 sent with sent | sent
  · obtain ⟨read, s, queued, before, recent⟩ := fresh m t k r sent
    exact ⟨List.mem_append_left _ read, s, List.mem_append_left _ queued, before, recent⟩
  · exact absurd sent (noSend m t k r)

theorem read_mem_append {log es : List Event} (noRead : ∀ k t, Event.read k t ∉ es) {k : Nat}
    {t : Int} : Event.read k t ∈ log ++ es ↔ Event.read k t ∈ log := by
  rw [List.mem_append, or_iff_left (noRead k t)]

structure Invariant (w : World C) : Prop where
  delayed_nodup : (w.delayed.map Prod.snd).Nodup
  processor_ok : w.processor.Ok w.ticks
  pending_queued : ∀ e ∈ w.pending, Event.queued e.2 e.1 ∈ w.log
  sent_once : ∀ m, w.log.countP (Event.sentByProcessor m) +
    (if m ∈ w.pending.map Prod.snd then 1 else 0) ≤ w.log.countP (Event.queuedOf m)
  tick_bound : ∀ k, w.log.countP (Event.sentInTick k) + w.processor.load k ≤ 50
  later_ticks : ∀ k, w.ticks ≤ k → w.log.countP (Event.sentInTick k) = 0
  batch_read : ∀ k now items, w.processor = .batch k now items → Event.read k now ∈ w.log
  reads_started : ∀ k t, Event.read k t ∈ w.log → k < w.ticks
  read_once : ∀ k t t', Event.read k t ∈ w.log → Event.read k t' ∈ w.log → t = t'
  fresh : Fresh w.log

theorem initial_invariant (counters : C) : Invariant (initial counters) where
  delayed_nodup := List.nodup_nil
  processor_ok := trivial
  pending_queued _ := nofun
  sent_once _ := by simp [initial, World.pending, Processor.items]
  tick_bound _ := by simp [initial, Processor.load]
  later_ticks _ _ := rfl
  batch_read _ _ _ := nofun
  reads_started _ _ := nofun
  read_once _ _ _ := nofun
  fresh _ _ _ _ := nofun

section Preservation

variable {w w' : World C}

theorem Invariant.frame (inv : Invariant w) (delayed : w'.delayed = w.delayed)
    (processor : w'.processor = w.processor) (ticks : w'.ticks = w.ticks) (log : w'.log = w.log) :
    Invariant w' := by
  have pending : w'.pending = w.pending := by rw [World.pending, World.pending, delayed, processor]
  exact ⟨delayed ▸ inv.delayed_nodup, processor ▸ ticks ▸ inv.processor_ok,
    pending ▸ log ▸ inv.pending_queued, pending ▸ log ▸ inv.sent_once,
    processor ▸ log ▸ inv.tick_bound, ticks ▸ log ▸ inv.later_ticks,
    processor ▸ log ▸ inv.batch_read, ticks ▸ log ▸ inv.reads_started, log ▸ inv.read_once,
    log ▸ inv.fresh⟩

theorem Invariant.queue (inv : Invariant w) {m : Sms} {now : Int}
    (delayed : w'.delayed = zadd w.delayed now m) (processor : w'.processor = w.processor)
    (ticks : w'.ticks = w.ticks) (log : w'.log = w.log ++ [.queued m now]) : Invariant w' := by
  have logged : ∀ {e}, e ∈ w.log → e ∈ w'.log := fun mem => log ▸ List.mem_append_left _ mem
  have member : ∀ x, x ∈ w'.pending.map Prod.snd ↔ x = m ∨ x ∈ w.pending.map Prod.snd := by
    intro x
    rw [member_pending, member_pending, delayed, processor, member_zadd, or_assoc]
  refine ⟨delayed ▸ nodup_zadd now m inv.delayed_nodup, processor ▸ ticks ▸ inv.processor_ok,
    ?_, ?_, ?_, ?_, fun k now items b => logged (inv.batch_read k now items (processor ▸ b)),
    fun k t mem => by rw [log, read_mem_append (by simp)] at mem; exact ticks ▸ inv.reads_started k t mem,
    fun k t t' a b => by rw [log, read_mem_append (by simp)] at a b; exact inv.read_once k t t' a b,
    log ▸ inv.fresh.append (by simp)⟩
  · intro e mem
    rw [World.pending, delayed, processor, List.mem_append, mem_zadd] at mem
    rcases mem with (rfl | ⟨mem, -⟩) | mem
    · exact log ▸ List.mem_append_right _ (List.mem_singleton_self _)
    · exact logged (inv.pending_queued e (List.mem_append_left _ mem))
    · exact logged (inv.pending_queued e (List.mem_append_right _ mem))
  · intro x
    have old := inv.sent_once x
    rw [log, List.countP_append, List.countP_append, List.countP_singleton,
      List.countP_singleton]
    simp only [Event.sentByProcessor, Event.queuedOf, member x, Bool.false_eq_true, if_false,
      decide_eq_true_eq, Nat.add_zero]
    by_cases same : m = x
    · subst same
      rw [if_pos (.inl rfl), if_pos rfl]
      split_ifs at old <;> omega
    · rw [if_neg same]
      simp only [Ne.symm same, false_or]
      omega
  · intro k
    rw [log, processor, List.countP_append, List.countP_singleton]
    simpa [Event.sentInTick] using inv.tick_bound k
  · intro k later
    rw [log, List.countP_append, List.countP_singleton]
    simpa [Event.sentInTick] using inv.later_ticks k (ticks ▸ later)

theorem Invariant.sendDirect (inv : Invariant w) {m : Sms} {now : Int} {r : Option String}
    (delayed : w'.delayed = w.delayed) (processor : w'.processor = w.processor)
    (ticks : w'.ticks = w.ticks) (log : w'.log = w.log ++ [.sent m now none r]) :
    Invariant w' := by
  have logged : ∀ {e}, e ∈ w.log → e ∈ w'.log := fun mem => log ▸ List.mem_append_left _ mem
  have pending : w'.pending = w.pending := by rw [World.pending, World.pending, delayed, processor]
  refine ⟨delayed ▸ inv.delayed_nodup, processor ▸ ticks ▸ inv.processor_ok,
    fun e mem => logged (inv.pending_queued e (pending ▸ mem)), ?_, ?_, ?_,
    fun k now items b => logged (inv.batch_read k now items (processor ▸ b)),
    fun k t mem => by rw [log, read_mem_append (by simp)] at mem; exact ticks ▸ inv.reads_started k t mem,
    fun k t t' a b => by rw [log, read_mem_append (by simp)] at a b; exact inv.read_once k t t' a b,
    log ▸ inv.fresh.append (by simp)⟩
  · intro x
    rw [log, pending, List.countP_append, List.countP_append, List.countP_singleton,
      List.countP_singleton]
    simpa [Event.sentByProcessor, Event.queuedOf] using inv.sent_once x
  · intro k
    rw [log, processor, List.countP_append, List.countP_singleton]
    simpa [Event.sentInTick] using inv.tick_bound k
  · intro k later
    rw [log, List.countP_append, List.countP_singleton]
    simpa [Event.sentInTick] using inv.later_ticks k (ticks ▸ later)

theorem Invariant.tickStart (inv : Invariant w) {now : Int} (idle : w.processor = .idle)
    (delayed : w'.delayed = w.delayed) (ticks : w'.ticks = w.ticks + 1)
    (log : w'.log = w.log ++ [.read w.ticks now])
    (processor : w'.processor = if dueBatch w.delayed (unix now) = [] then .idle
      else .batch w.ticks now (dueBatch w.delayed (unix now))) : Invariant w' := by
  have items : ∀ e ∈ w'.processor.items, e ∈ w.delayed := by
    intro e mem
    rw [processor] at mem
    split_ifs at mem
    · exact absurd mem (List.not_mem_nil _)
    · exact (mem_dueBatch mem).1
  have member : ∀ x, x ∈ w'.pending.map Prod.snd ↔ x ∈ w.pending.map Prod.snd := by
    intro x
    rw [member_pending, member_pending, delayed, idle]
    constructor
    · rintro (mem | mem)
      · exact .inl mem
      · obtain ⟨e, read, rfl⟩ := List.mem_map.1 mem
        exact .inl (List.mem_map.2 ⟨e, items e read, rfl⟩)
    · rintro (mem | mem)
      · exact .inl mem
      · exact absurd mem (List.not_mem_nil _)
  have load : ∀ k, w'.processor.load k =
      if w.ticks = k then (dueBatch w.delayed (unix now)).length else 0 := by
    intro k
    rw [processor]
    by_cases none : dueBatch w.delayed (unix now) = []
    · rw [if_pos none, none]; simp [Processor.load]
    · rw [if_neg none]; rfl
  have logged : ∀ {e}, e ∈ w.log → e ∈ w'.log := fun mem => log ▸ List.mem_append_left _ mem
  have reads : ∀ k t, Event.read k t ∈ w'.log ↔ Event.read k t ∈ w.log ∨ (k = w.ticks ∧ t = now) := by
    intro k t; rw [log, List.mem_append, List.mem_singleton, Event.read.injEq]
  refine ⟨delayed ▸ inv.delayed_nodup, ?_, ?_, ?_, ?_, ?_, ?_, ?_, ?_, log ▸ inv.fresh.append (by simp)⟩
  · rw [processor, ticks]
    split_ifs with none
    · trivial
    · exact ⟨Nat.lt_succ_self _, none, length_dueBatch_le _ _, nodup_dueBatch (unix now) inv.delayed_nodup,
        fun e mem => (mem_dueBatch mem).2⟩
  · intro e mem
    rw [World.pending, List.mem_append, delayed] at mem
    exact logged (mem.elim (fun mem => inv.pending_queued e (List.mem_append_left _ mem))
      fun mem => inv.pending_queued e (List.mem_append_left _ (items e mem)))
  · intro x
    simpa only [log, member x, List.countP_append, List.countP_singleton, Event.sentByProcessor,
      Event.queuedOf, Bool.false_eq_true, if_false, Nat.add_zero] using inv.sent_once x
  · intro k
    have old := inv.tick_bound k
    rw [idle, Processor.load] at old
    rw [log, load, List.countP_append, List.countP_singleton]
    simp only [Event.sentInTick, Bool.false_eq_true, if_false, Nat.add_zero]
    split_ifs with same
    · rw [inv.later_ticks k (same ▸ le_rfl)]
      exact (Nat.zero_add _).trans_le (length_dueBatch_le _ _)
    · exact old
  · intro k later
    rw [log, List.countP_append, List.countP_singleton]
    simpa [Event.sentInTick] using inv.later_ticks k (by omega)
  · intro k now' items b
    rw [processor] at b
    split_ifs at b
    cases b
    exact log ▸ List.mem_append_right _ (List.mem_singleton_self _)
  · intro k t mem
    rcases (reads k t).1 mem with old | ⟨rfl, -⟩
    · exact ticks ▸ Nat.lt_succ_of_lt (inv.reads_started k t old)
    · exact ticks ▸ Nat.lt_succ_self _
  · intro k t t' a b
    rcases (reads k t).1 a with a | ⟨hk, ht⟩ <;> rcases (reads k t').1 b with b | ⟨hk', ht'⟩
    · exact inv.read_once k t t' a b
    · exact absurd (inv.reads_started k t a) (by omega)
    · exact absurd (inv.reads_started k t' b) (by omega)
    · rw [ht, ht']

theorem Invariant.tickItem (inv : Invariant w) {k : Nat} {now score : Int} {m : Sms}
    {rest : List (Int × Sms)} {r : Option String}
    (batch : w.processor = .batch k now ((score, m) :: rest))
    (delayed : w'.delayed = zrem w.delayed m) (ticks : w'.ticks = w.ticks)
    (processor : w'.processor = if rest = [] then .idle else .batch k now rest)
    (log : w'.log = w.log ++ if now - score * 1000000000 > 600000000000 then [] else [.sent m now (some k) r]) :
    Invariant w' := by
  have ok := inv.processor_ok
  rw [batch] at ok
  obtain ⟨started, -, size, distinct, due⟩ := ok
  rw [List.map_cons, List.nodup_cons] at distinct
  have items : w'.processor.items = rest := by
    rw [processor]; split_ifs with empty
    · exact empty.symm
    · rfl
  have load : ∀ k', w'.processor.load k' = if k = k' then rest.length else 0 := by
    intro k'
    rw [processor]; split_ifs with empty same <;> simp [Processor.load, empty, *]
  have member : ∀ x, x ∈ w'.pending.map Prod.snd ↔
      (x ≠ m ∧ x ∈ w.delayed.map Prod.snd) ∨ x ∈ rest.map Prod.snd := by
    intro x
    rw [member_pending, delayed, items, member_zrem]
  have wasPending : ∀ x, x ∈ w.pending.map Prod.snd ↔
      x ∈ w.delayed.map Prod.snd ∨ x = m ∨ x ∈ rest.map Prod.snd := by
    intro x
    rw [member_pending, batch, Processor.items, List.map_cons, List.mem_cons, eq_comm]
  have logged : ∀ {e}, e ∈ w.log → e ∈ w'.log := fun mem => log ▸ List.mem_append_left _ mem
  -- what the member's send, if any, adds to the counts
  have queuedExtra : ∀ x, (if now - score * 1000000000 > 600000000000 then [] else [Event.sent m now (some k) r]).countP
      (Event.queuedOf x) = 0 := by
    intro x; split_ifs <;> rfl
  have sentExtra : ∀ x, (if now - score * 1000000000 > 600000000000 then [] else [Event.sent m now (some k) r]).countP
      (Event.sentByProcessor x) ≤ if x = m then 1 else 0 := by
    intro x
    by_cases same : x = m
    · rw [if_pos same]; split_ifs <;> simp [Event.sentByProcessor, same]
    · rw [if_neg same]; split_ifs <;> simp [Event.sentByProcessor, Ne.symm same]
  have tickExtra : ∀ k', (if now - score * 1000000000 > 600000000000 then [] else [Event.sent m now (some k) r]).countP
      (Event.sentInTick k') ≤ if k = k' then 1 else 0 := by
    intro k'; split_ifs <;> simp [Event.sentInTick, *]
  have reads : ∀ k t, Event.read k t ∈ w'.log ↔ Event.read k t ∈ w.log := fun k t => by
    rw [log, read_mem_append (by split_ifs <;> simp)]
  refine ⟨delayed ▸ nodup_zrem m inv.delayed_nodup, ?_, ?_, ?_, ?_, ?_, ?_,
    fun k t mem => ticks ▸ inv.reads_started k t ((reads k t).1 mem),
    fun k t t' a b => inv.read_once k t t' ((reads k t).1 a) ((reads k t').1 b), ?_⟩
  · rw [processor, ticks]
    split_ifs with empty
    · trivial
    · exact ⟨started, empty, by simp only [List.length_cons] at size; omega, distinct.2,
        fun e mem => due e (List.mem_cons_of_mem _ mem)⟩
  · intro e mem
    rw [World.pending, List.mem_append, delayed, items, mem_zrem] at mem
    apply logged
    rcases mem with ⟨mem, -⟩ | mem
    · exact inv.pending_queued e (List.mem_append_left _ mem)
    · exact inv.pending_queued e (List.mem_append_right _ (by rw [batch]; exact .tail _ mem))
  · intro x
    have old := inv.sent_once x
    have extra := sentExtra x
    rw [log, List.countP_append, List.countP_append, queuedExtra, Nat.add_zero]
    by_cases same : x = m
    · subst same
      have gone : x ∉ w'.pending.map Prod.snd := by
        rw [member]; exact fun mem => mem.elim (fun ⟨ne, _⟩ => ne rfl) distinct.1
      rw [if_pos ((wasPending x).2 (.inr (.inl rfl)))] at old
      rw [if_neg gone]
      rw [if_pos rfl] at extra
      omega
    · have kept : (x ∈ w'.pending.map Prod.snd) ↔ x ∈ w.pending.map Prod.snd := by
        rw [member, wasPending]; simp [same]
      rw [if_neg same] at extra
      simp only [kept]
      omega
  · intro k'
    have old := inv.tick_bound k'
    have extra := tickExtra k'
    rw [batch, Processor.load, List.length_cons] at old
    rw [log, List.countP_append, load]
    split_ifs at old extra ⊢ <;> omega
  · intro k' later
    have other : k ≠ k' := by omega
    have extra := tickExtra k'
    rw [if_neg other] at extra
    rw [log, List.countP_append, inv.later_ticks k' (ticks ▸ later)]
    omega
  · intro k' now' items' b
    rw [processor] at b
    split_ifs at b
    cases b
    exact logged (inv.batch_read k now _ batch)
  · intro m' t k' r' sent
    rw [log, List.mem_append] at sent
    rcases sent with sent | sent
    · obtain ⟨read, s, queued, before, recent⟩ := inv.fresh m' t k' r' sent
      exact ⟨logged read, s, logged queued, before, recent⟩
    · split_ifs at sent with old
      · exact absurd sent (List.not_mem_nil _)
      · rw [List.mem_singleton] at sent
        cases sent
        refine ⟨logged (inv.batch_read k now _ batch), score,
          logged (inv.pending_queued (score, m) ?_), le_unix_iff.1 (due _ (.head _)), by omega⟩
        rw [World.pending, batch]
        exact List.mem_append_right _ (.head _)

theorem Invariant.of_transition {env : SmsEnv C} {a : Action} (inv : Invariant w)
    (stepped : transition env w a = some w') : Invariant w' := by
  rcases transition_cases stepped with
    ⟨processor, ticks, ⟨delayed, log⟩ | ⟨m, now, delayed, log⟩ | ⟨m, now, r, delayed, log⟩⟩ |
    ⟨now, idle, delayed, log, ticks, processor⟩ |
    ⟨k, now, score, m, rest, batch, delayed, ticks, processor, ⟨old, log⟩ | ⟨recent, r, log⟩⟩
  · exact inv.frame delayed processor ticks log
  · exact inv.queue delayed processor ticks log
  · exact inv.sendDirect delayed processor ticks log
  · exact inv.tickStart idle delayed ticks log processor
  · exact inv.tickItem (r := none) batch delayed ticks processor
      (by rw [log, if_pos old, List.append_nil])
  · exact inv.tickItem batch delayed ticks processor (by rw [log, if_neg recent])

end Preservation

theorem Reachable.invariant {env : SmsEnv C} {w : World C} (reach : Reachable env w) :
    Invariant w :=
  Reach.invariant (fun _ ⟨counters, start⟩ => start ▸ initial_invariant counters)
    (fun _ _ _ inv stepped => inv.of_transition stepped) reach

/-! ### The delayed sends -/

/-- Over every interleaving of requests and passes: the processor sends an SMS at most as often
as it was queued, and a pass at most 50; each pass reads the clock once, and each of its sends
is of an SMS queued at most 10 minutes before that read. The send itself has no such bound:
the pass calls the provider for one member after another. -/
theorem delayed_sends_bounded {env : SmsEnv C} {w : World C} (reach : Reachable env w) :
    (∀ m, w.log.countP (Event.sentByProcessor m) ≤ w.log.countP (Event.queuedOf m)) ∧
    (∀ k, w.log.countP (Event.sentInTick k) ≤ 50) ∧
    (∀ k t t', Event.read k t ∈ w.log → Event.read k t' ∈ w.log → t = t') ∧
    ∀ m t k r, Event.sent m t (some k) r ∈ w.log →
      Event.read k t ∈ w.log ∧ ∃ s, Event.queued m s ∈ w.log ∧ s * 1000000000 ≤ t ∧
        t - s * 1000000000 ≤ 600000000000 := by
  have inv := reach.invariant
  exact ⟨fun m => (Nat.le_add_right _ _).trans (inv.sent_once m),
    fun k => (Nat.le_add_right _ _).trans (inv.tick_bound k), inv.read_once, inv.fresh⟩

theorem dueBatch_of_due {d : List (Int × Sms)} {now : Int} (due : ∀ e ∈ d, e.1 ≤ now)
    (few : d.length ≤ 50) : dueBatch d now = d.insertionSort (fun a b => a.1 ≤ b.1) := by
  rw [dueBatch, List.filter_eq_self.2 (by simpa using due),
    List.take_of_length_le (by rw [List.length_insertionSort]; exact few)]

theorem run_tickItems (env : SmsEnv C) (k : Nat) (now : Int) :
    ∀ (items : List (Int × Sms)) (w : World C), items ≠ [] →
    w.processor = .batch k now items → (∀ e ∈ items, ¬ now - e.1 * 1000000000 > 600000000000) →
    ∃ w', run env w (List.replicate items.length .tickItem) = some w' ∧
      w'.delayed = w.delayed.filter (fun e => e.2 ∉ items.map Prod.snd) ∧
      w'.processor = .idle ∧
      w'.log = w.log ++ items.map fun e => .sent e.2 now (some k) (sendDirect env e.2)
  | [], _, nonempty, _, _ => absurd rfl nonempty
  | (score, m) :: rest, w, _, batch, recent => by
    let next : World C := { w with
      delayed := zrem w.delayed m,
      processor := if rest = [] then .idle else .batch k now rest,
      log := w.log ++ [.sent m now (some k) (sendDirect env m)] }
    have step : transition env w .tickItem = some next := by
      simp only [transition, batch, if_neg (recent (score, m) (.head _))]
    by_cases last : rest = []
    · subst last
      refine ⟨_, by simp only [List.length_singleton, List.replicate, run, runSteps_cons, runSteps_nil, step]; rfl, ?_, rfl, rfl⟩
      simp [zrem]
    · obtain ⟨w', ran, delayed, idle, log⟩ := run_tickItems env k now rest next last
        (if_neg last) fun e mem => recent e (.tail _ mem)
      refine ⟨w', by rw [List.length_cons, List.replicate_succ, run, runSteps_cons, step]; exact ran, ?_, idle, ?_⟩
      · rw [delayed]
        simp only [zrem, List.filter_filter, List.map_cons, List.mem_cons, not_or]
        congr 1
        funext e
        rw [Bool.decide_and, Bool.and_comm]
      · rw [log, List.map_cons, List.append_assoc, List.singleton_append]

/-- The limit only delays: a pass at a time when at most 50 SMS are queued, all due and queued
less than 10 minutes before, sends every one of them and empties the delayed set. -/
theorem tick_sends_due {env : SmsEnv C} {w : World C} (idle : w.processor = .idle) (now : Int)
    (recent : ∀ e ∈ w.delayed, e.1 * 1000000000 ≤ now ∧ now - e.1 * 1000000000 ≤ 600000000000)
    (few : w.delayed.length ≤ 50) :
    ∃ w', run env w (.tickStart now :: List.replicate w.delayed.length .tickItem) = some w' ∧
      w'.delayed = [] ∧ w'.processor = .idle ∧
      ∀ e ∈ w.delayed, Event.sent e.2 now (some w.ticks) (sendDirect env e.2) ∈ w'.log := by
  have batch := dueBatch_of_due (fun e mem => le_unix_iff.2 (recent e mem).1) few
  have perm := List.perm_insertionSort (fun a b : Int × Sms => a.1 ≤ b.1) w.delayed
  by_cases empty : w.delayed = []
  · refine ⟨{ w with ticks := w.ticks + 1, log := w.log ++ [.read w.ticks now] }, ?_, empty, idle,
      fun e mem => absurd (empty ▸ mem) (List.not_mem_nil e)⟩
    simp only [empty, List.length_nil, List.replicate, run, runSteps_cons, runSteps_nil, transition, idle]
    rw [← empty, batch, empty]
    rfl
  · generalize w.delayed.insertionSort (fun a b : Int × Sms => a.1 ≤ b.1) = items at batch perm
    have nonempty : items ≠ [] := fun none => empty (by rw [none] at perm; exact perm.symm.eq_nil)
    obtain ⟨w', ran, delayed, done, log⟩ := run_tickItems env w.ticks now items
      { w with ticks := w.ticks + 1, processor := .batch w.ticks now items,
               log := w.log ++ [.read w.ticks now] } nonempty rfl
      fun e mem => by have := (recent e (perm.subset mem)).2; omega
    refine ⟨w', ?_, ?_, done, fun e mem => ?_⟩
    · rw [← perm.length_eq, run, runSteps_cons, transition, idle]
      simp only [batch, if_neg nonempty, Option.some_bind]
      exact ran
    · rw [delayed, List.filter_eq_nil_iff]
      intro e mem
      rw [decide_eq_true_eq, not_not]
      exact List.mem_map_of_mem Prod.snd (perm.symm.subset mem)
    · rw [log]
      exact List.mem_append_right _ (List.mem_map_of_mem _ (perm.symm.subset mem))

/-! ### The limit check and the send are two steps -/

section Race

variable {m : Sms}

@[simp] theorem setRequest_requests (w : World C) (id : Nat) (r : Request) :
    (w.setRequest id r).requests = Function.update w.requests id (some r) := rfl

@[simp] theorem setRequest_counters (w : World C) (id : Nat) (r : Request) :
    (w.setRequest id r).counters = w.counters := rfl

@[simp] theorem setRequest_log (w : World C) (id : Nat) (r : Request) :
    (w.setRequest id r).log = w.log := rfl

theorem requests_update_of_mem {w : World C} {k i : Nat} {ids : List Nat} (mem : k ∈ ids)
    (fresh : i ∉ ids) (r : Request) :
    Function.update w.requests i (some r) k = w.requests k :=
  Function.update_noteq (ne_of_mem_of_not_mem mem fresh) _ _

/-- Steps that each move one request of the list to `r`, from `ready`, whatever the log:
run for distinct ids, they move them all and leave the counters and the log alone. -/
theorem run_setRequests (env : SmsEnv C) (act : Nat → Action) (ready : Option Request) (r : Request)
    (counters : C) (stepped : ∀ (w : World C) k, w.counters = counters → w.requests k = ready →
      transition env w (act k) = some (w.setRequest k r)) :
    ∀ (ids : List Nat) (w : World C), w.counters = counters → ids.Nodup →
      (∀ k ∈ ids, w.requests k = ready) →
      ∃ w', run env w (ids.map act) = some w' ∧ w'.counters = w.counters ∧ w'.log = w.log ∧
        (∀ k ∈ ids, w'.requests k = some r) ∧ ∀ k ∉ ids, w'.requests k = w.requests k
  | [], w, _, _, _ => ⟨w, rfl, rfl, rfl, nofun, fun _ _ => rfl⟩
  | i :: ids, w, same, distinct, ready_all => by
    rw [List.nodup_cons] at distinct
    obtain ⟨w', ran, kept, logged, moved, other⟩ := run_setRequests env act ready r counters stepped ids
      (w.setRequest i r) same distinct.2 fun k mem => by
        rw [setRequest_requests, requests_update_of_mem mem distinct.1]
        exact ready_all k (.tail _ mem)
    refine ⟨w', ?_, kept, logged, fun k mem => ?_, fun k out => ?_⟩
    · rw [List.map_cons, run, runSteps_cons, stepped w i same (ready_all i (.head _))]
      exact ran
    · rcases List.mem_cons.1 mem with rfl | mem
      · rw [other k distinct.1, setRequest_requests, Function.update_same]
      · exact moved k mem
    · rw [other k (List.not_mem_of_not_mem_cons out), setRequest_requests,
        Function.update_noteq (List.ne_of_not_mem_cons out)]

theorem run_sends (env : SmsEnv C) (now : Int) : ∀ (ids : List Nat) (w : World C), ids.Nodup →
    (∀ k ∈ ids, w.requests k = some ⟨m, .sending⟩) →
    ∃ w', run env w (ids.map (.send · now)) = some w' ∧
      w'.log = w.log ++ ids.map (fun _ => .sent m now none (sendDirect env m)) ∧
      w'.counters = ids.foldl (fun c _ => env.rateLimit.incr c m.recipient) w.counters
  | [], w, _, _ => ⟨w, rfl, by simp, rfl⟩
  | i :: ids, w, distinct, sending => by
    rw [List.nodup_cons] at distinct
    let next : World C := { w.setRequest i ⟨m, .done (sendDirect env m)⟩ with
      counters := env.rateLimit.incr w.counters m.recipient,
      log := w.log ++ [.sent m now none (sendDirect env m)] }
    obtain ⟨w', ran, logged, counted⟩ := run_sends env now ids next distinct.2 fun k mem => by
      simp only [next, setRequest_requests, requests_update_of_mem mem distinct.1]
      exact sending k (.tail _ mem)
    refine ⟨w', ?_, by rw [logged]; simp [next], counted⟩
    rw [List.map_cons, run, runSteps_cons]
    simp only [transition, sending i (.head _), Option.some_bind]
    exact ran

theorem run_refused {env : SmsEnv C} (now : Int) (enabled : env.enabled = true) : ∀ (ids : List Nat) (w : World C), ids.Nodup →
    (∀ k ∈ ids, w.requests k = none) → env.rateLimit.limited w.counters m.recipient = true →
    ∃ w', run env w (ids.flatMap fun k => [.request k m, .check k now]) = some w' ∧
      w'.counters = w.counters ∧
      w'.log = w.log ++ (if env.rateLimit.exceedAction = "delay" then
        ids.map fun _ => .queued m (unix now) else []) ∧
      (∀ k ∈ ids, (w'.requests k).map Request.phase = some (.done
        (if env.rateLimit.exceedAction = "delay" then none else some "SMS rate limit exceeded"))) ∧
      ∀ k ∉ ids, w'.requests k = w.requests k
  | [], w, _, _, _ => ⟨w, rfl, rfl, by split_ifs <;> simp, nofun, fun _ _ => rfl⟩
  | i :: ids, w, distinct, free, over => by
    rw [List.nodup_cons] at distinct
    have first : ∃ w₁, run env w [.request i m, .check i now] = some w₁ ∧ w₁.counters = w.counters ∧
        w₁.log = w.log ++ (if env.rateLimit.exceedAction = "delay" then [.queued m (unix now)] else []) ∧
        w₁.requests = Function.update w.requests i (some ⟨m, .done
          (if env.rateLimit.exceedAction = "delay" then none else some "SMS rate limit exceeded")⟩) := by
      by_cases delay : env.rateLimit.exceedAction = "delay" <;>
        simp [transition, World.setRequest, free i (.head _), enabled, over, delay]
    obtain ⟨w₁, ran₁, counters₁, log₁, requests₁⟩ := first
    obtain ⟨w', ran, counters, logged, refused, other⟩ := run_refused now enabled ids w₁ distinct.2
      (fun k mem => by rw [requests₁, requests_update_of_mem mem distinct.1]; exact free k (.tail _ mem))
      (counters₁ ▸ over)
    refine ⟨w', ?_, counters.trans counters₁, ?_, fun k mem => ?_, fun k out => ?_⟩
    · rw [List.flatMap_cons, run, runSteps_append, ← run, ran₁, Option.some_bind]
      exact ran
    · rw [logged, log₁]
      split_ifs <;> simp
    · rcases List.mem_cons.1 mem with rfl | mem
      · rw [other k distinct.1, requests₁, Function.update_same]; rfl
      · exact refused k mem
    · rw [other k (List.not_mem_of_not_mem_cons out), requests₁,
        Function.update_noteq (List.ne_of_not_mem_cons out)]

end Race

/-- From any world whose limiter allows one more send to a recipient and refuses the next:
requests for it made one after another send once, every later one being queued or refused;
but requests that all check before any sends are all sent directly, however many there are,
and each counts a send. -/
theorem checks_race (env : SmsEnv C) (w : World C) (m : Sms) (i : Nat) (ids : List Nat)
    (now : Int) (distinct : (i :: ids).Nodup) (free : ∀ k ∈ i :: ids, w.requests k = none)
    (enabled : env.enabled = true) (under : env.rateLimit.limited w.counters m.recipient = false)
    (full : env.rateLimit.limited (env.rateLimit.incr w.counters m.recipient) m.recipient = true) :
    (∃ w', run env w ([.request i m, .check i now, .send i now] ++
        ids.flatMap fun k => [.request k m, .check k now]) = some w' ∧
      w'.counters = env.rateLimit.incr w.counters m.recipient ∧
      w'.log = w.log ++ .sent m now none (sendDirect env m) ::
        (if env.rateLimit.exceedAction = "delay" then ids.map fun _ => .queued m (unix now)
          else []) ∧
      ∀ k ∈ ids, (w'.requests k).map Request.phase = some (.done
        (if env.rateLimit.exceedAction = "delay" then none else some "SMS rate limit exceeded"))) ∧
    ∃ w', run env w ((i :: ids).map (.request · m) ++ (i :: ids).map (.check · now) ++
        (i :: ids).map (.send · now)) = some w' ∧
      w'.log = w.log ++ (i :: ids).map (fun _ => .sent m now none (sendDirect env m)) ∧
      w'.counters = (i :: ids).foldl (fun c _ => env.rateLimit.incr c m.recipient) w.counters := by
  constructor
  · -- the first request sends, then the counters refuse every later one
    let sent : World C := { w.setRequest i ⟨m, .done (sendDirect env m)⟩ with
      counters := env.rateLimit.incr w.counters m.recipient,
      log := w.log ++ [.sent m now none (sendDirect env m)] }
    have first : run env w [.request i m, .check i now, .send i now] = some sent := by
      simp [transition, World.setRequest, free i (.head _), enabled, under, sent]
    rw [List.nodup_cons] at distinct
    obtain ⟨w', ran, counters, logged, refused, -⟩ := run_refused now enabled ids sent
      distinct.2 (fun k mem => by
        simp only [sent, setRequest_requests, requests_update_of_mem mem distinct.1]
        exact free k (.tail _ mem)) full
    refine ⟨w', ?_, counters, ?_, refused⟩
    · rw [run, runSteps_append, ← run, first, Option.some_bind]
      exact ran
    · rw [logged]
      simp [sent]
  · -- every request checks against the counters before any of them is counted
    obtain ⟨w₁, ran₁, counters₁, log₁, checking, -⟩ := run_setRequests env
      (.request · m) none ⟨m, .checking⟩ w.counters
      (fun w k _ free => by simp [transition, free]) (i :: ids) w rfl distinct free
    obtain ⟨w₂, ran₂, counters₂, log₂, sending, -⟩ := run_setRequests env
      (.check · now) (some ⟨m, .checking⟩) ⟨m, .sending⟩ w.counters
      (fun w k same checking => by simp [transition, checking, enabled, same, under])
      (i :: ids) w₁ counters₁ distinct checking
    obtain ⟨w', ran, logged, counted⟩ := run_sends env now (i :: ids) w₂ distinct sending
    refine ⟨w', ?_, by rw [logged, log₂, log₁], by rw [counted, counters₂, counters₁]⟩
    rw [run, runSteps_append, runSteps_append, ← run, ran₁, Option.some_bind, ran₂, Option.some_bind]
    exact ran

def oneSend : RateLimit (String → Nat) where
  limited counters recipient := 1 ≤ counters recipient
  incr counters recipient := Function.update counters recipient (counters recipient + 1)
  exceedAction := "delay"

def twilioEnv : SmsEnv (String → Nat) := ⟨true, "twilio", oneSend, fun _ _ => none⟩

def loginSms : Sms := ⟨"13800000000", "+86", "123456", "login"⟩

theorem checks_race_oneSend :
    ((0 :: [1, 2]).Nodup ∧ (∀ k ∈ 0 :: [1, 2], (initial (C := String → Nat) fun _ => 0).requests k = none) ∧
      twilioEnv.enabled = true ∧ twilioEnv.rateLimit.limited (fun _ => 0) loginSms.recipient = false ∧
      twilioEnv.rateLimit.limited (twilioEnv.rateLimit.incr (fun _ => 0) loginSms.recipient)
        loginSms.recipient = true) ∧
    (∃ w', run twilioEnv (initial fun _ => 0) ([.request 0 loginSms, .check 0 30, .send 0 30] ++
        [1, 2].flatMap fun k => [.request k loginSms, .check k 30]) = some w' ∧
      w'.counters = twilioEnv.rateLimit.incr (fun _ => 0) loginSms.recipient ∧
      w'.log = (initial (C := String → Nat) fun _ => 0).log ++
        .sent loginSms 30 none (sendDirect twilioEnv loginSms) ::
          (if twilioEnv.rateLimit.exceedAction = "delay" then [1, 2].map fun _ => .queued loginSms (unix 30)
            else []) ∧
      ∀ k ∈ [1, 2], (w'.requests k).map Request.phase = some (.done
        (if twilioEnv.rateLimit.exceedAction = "delay" then none
          else some "SMS rate limit exceeded"))) ∧
    ∃ w', run twilioEnv (initial fun _ => 0) ((0 :: [1, 2]).map (.request · loginSms) ++
        (0 :: [1, 2]).map (.check · 30) ++ (0 :: [1, 2]).map (.send · 30)) = some w' ∧
      w'.log = (initial (C := String → Nat) fun _ => 0).log ++
        (0 :: [1, 2]).map (fun _ => .sent loginSms 30 none (sendDirect twilioEnv loginSms)) ∧
      w'.counters = (0 :: [1, 2]).foldl (fun c _ => twilioEnv.rateLimit.incr c loginSms.recipient)
        (fun _ => 0) :=
  ⟨⟨by decide, fun _ _ => rfl, rfl, rfl, by decide⟩,
    checks_race twilioEnv (initial fun _ => 0) loginSms 0 [1, 2] 30 (by decide) (fun _ _ => rfl) rfl
      rfl (by decide)⟩

def queuedWorld : World (String → Nat) :=
  (run twilioEnv (initial fun _ => 1) [.request 0 loginSms, .check 0 0]).getD (initial fun _ => 1)

theorem queuedWorld_reachable : Reachable twilioEnv queuedWorld :=
  (Reach.init ⟨_, rfl⟩).runSteps
    (rfl : run twilioEnv (initial fun _ => 1) [.request 0 loginSms, .check 0 0] = some queuedWorld)

def sentWorld : World (String → Nat) :=
  (run twilioEnv queuedWorld [.tickStart 30000000000, .tickItem]).getD queuedWorld

theorem sentWorld_reachable : Reachable twilioEnv sentWorld :=
  queuedWorld_reachable.runSteps
    (rfl : run twilioEnv queuedWorld [.tickStart 30000000000, .tickItem] = some sentWorld)

theorem delayed_sends_bounded_sentWorld :
    (∀ m, sentWorld.log.countP (Event.sentByProcessor m) ≤
      sentWorld.log.countP (Event.queuedOf m)) ∧
    (∀ k, sentWorld.log.countP (Event.sentInTick k) ≤ 50) ∧
    (∀ k t t', Event.read k t ∈ sentWorld.log → Event.read k t' ∈ sentWorld.log → t = t') ∧
    ∀ m t k r, Event.sent m t (some k) r ∈ sentWorld.log →
      Event.read k t ∈ sentWorld.log ∧
        ∃ s, Event.queued m s ∈ sentWorld.log ∧ s * 1000000000 ≤ t ∧
          t - s * 1000000000 ≤ 600000000000 :=
  delayed_sends_bounded sentWorld_reachable

theorem tick_sends_queuedWorld :
    ∃ w', run twilioEnv queuedWorld (.tickStart 30000000000 ::
        List.replicate queuedWorld.delayed.length .tickItem) = some w' ∧
      w'.delayed = [] ∧ w'.processor = .idle ∧
      ∀ e ∈ queuedWorld.delayed,
        Event.sent e.2 30000000000 (some queuedWorld.ticks) (sendDirect twilioEnv e.2) ∈ w'.log :=
  tick_sends_due rfl 30000000000 (by decide) (by decide)

end AuraLogic.SmsService
