import AuraLogic.ConfigEditor
import AuraLogic.TransitionSystem
import Mathlib.Data.List.Basic

/-! `ConfigEditor` beside its parent (config-editor.tsx): the fields' debounced `sync`, React's
effect on `value`, the raw editor, and the parent's own changes of `value`, interleaved freely.
`Object.entries(JSON.parse(text))` is a parameter. -/

namespace AuraLogic.ConfigEditorSession

open AuraLogic.ConfigEditor

/-- The calls the parent sees (a sync scheduled, a JSON handed to `onChange`, raw typing, the
switch back to the fields) and its own changes of `value`. -/
inductive Event where
  | synced (json : String)
  | emitted (json : String)
  | rawTyped (text : String)
  | switched (text : String)
  | external (text : String)
  deriving DecidableEq, Repr

structure World where
  value : String
  /-- The `value` the effect last ran on. -/
  seen : Option String
  entries : List ConfigEntry
  rawMode : Bool
  rawValue : String
  skipSync : Bool
  pending : Option String
  /-- The JSON of the timer `debounceRef` holds, while it is set. -/
  timer : Option String
  log : List Event

structure Env where
  js : Js
  /-- `Object.entries(JSON.parse(text))` as entries; `none` where it throws. -/
  load : String → Option (List ConfigEntry)

/-- The component as it mounts with the parent's `value`. -/
def initial (value : String) : World :=
  ⟨value, none, [], false, value, false, none, none, []⟩

inductive Action where
  | edit (e : Edit)
  | fire
  | flush
  | effect
  | toRaw
  | typeRaw (text : String)
  | toVisual
  | external (text : String)

def orEmptyObject (text : String) : String := if text = "" then "\x7b\x7d" else text

/-- `sync(next)`: the entries, the flag, and the JSON scheduled in place of the last. -/
def World.sync (s : World) (next : List ConfigEntry) : World :=
  let json := ConfigEditor.sync next
  { s with entries := next, skipSync := true, rawValue := json, pending := some json,
           timer := some json, log := s.log ++ [.synced json] }

/-- `onChange(json)` from the timer or the flush; the parent stores the JSON. -/
def World.emit (s : World) (json : String) : World :=
  { s with value := json, pending := none, timer := none, log := s.log ++ [.emitted json] }

def transition (env : Env) (s : World) : Action → Option World
  | .edit e => if s.rawMode then none else (edit env.js s.entries e).map s.sync
  | .fire => s.timer.map s.emit
  | .flush => some (match s.pending with
    | some json => s.emit json
    | none => { s with timer := none })
  | .effect =>
    if s.seen = some s.value then none
    else if s.skipSync then some { s with seen := some s.value, skipSync := false }
    else some (match env.load (orEmptyObject s.value) with
      | some entries => { s with seen := some s.value, entries := entries, rawValue := s.value }
      | none => { s with seen := some s.value, rawMode := true, rawValue := s.value })
  | .toRaw => if s.rawMode then none else some { s with rawMode := true }
  | .typeRaw text =>
    if s.rawMode then
      some { s with rawValue := text, value := text, log := s.log ++ [.rawTyped text] }
    else none
  | .toVisual =>
    if s.rawMode then some (match env.load (orEmptyObject s.rawValue) with
      | some entries =>
        { s with entries := entries, skipSync := true, value := s.rawValue, rawMode := false,
                 log := s.log ++ [.switched s.rawValue] }
      | none => s)
    else none
  | .external text => some { s with value := text, log := s.log ++ [.external text] }

/-- The states the editor and its parent reach from a mount on any `value`. -/
abbrev Reachable (env : Env) : World → Prop :=
  Reach (fun s => ∃ value, s = initial value) (transition env)

abbrev run (env : Env) : World → List Action → Option World := runSteps (transition env)

/-! ### The debounce -/

def afterEvent (pending : Option String) : Event → Option String
  | .synced json => some json
  | .emitted _ => none
  | _ => pending

/-- The JSON of the latest sync not yet handed over, read off the calls. -/
def latestSync (log : List Event) : Option String := log.foldl afterEvent none

@[simp] theorem latestSync_snoc (log : List Event) (e : Event) :
    latestSync (log ++ [e]) = afterEvent (latestSync log) e := by
  simp [latestSync]

/-- Every JSON handed over from the debounce is that of the latest sync before it. -/
def HandsLatest (log : List Event) : Prop :=
  ∀ pre json post, log = pre ++ .emitted json :: post → latestSync pre = some json

theorem HandsLatest.snoc {log : List Event} {e : Event} (old : HandsLatest log)
    (new : ∀ json, e = .emitted json → latestSync log = some json) :
    HandsLatest (log ++ [e]) := by
  intro pre json post split
  rcases List.eq_nil_or_concat post with rfl | ⟨post, last, rfl⟩
  · obtain ⟨rfl, last⟩ := List.append_inj' split rfl
    exact new json (List.singleton_inj.1 last)
  · rw [List.concat_eq_append, ← List.cons_append, ← List.append_assoc] at split
    exact old pre json post (List.append_inj' split rfl).1

structure Invariant (s : World) : Prop where
  timer_eq : s.timer = s.pending
  pending_eq : s.pending = latestSync s.log
  hands : HandsLatest s.log

theorem initial_invariant (value : String) : Invariant (initial value) :=
  ⟨rfl, rfl, fun pre _ _ split => by simp [initial] at split⟩

section Invariant

variable {s : World} (inv : Invariant s)
include inv

theorem Invariant.sync (next : List ConfigEntry) : Invariant (s.sync next) :=
  ⟨rfl, by simp [World.sync, afterEvent], inv.hands.snoc fun _ emitted => nomatch emitted⟩

theorem Invariant.emit {json : String} (pending : s.pending = some json) :
    Invariant (s.emit json) :=
  ⟨rfl, by simp [World.emit, afterEvent],
    inv.hands.snoc fun _ emitted => by cases emitted; rw [← inv.pending_eq, pending]⟩

theorem Invariant.frame {s' : World} (timer : s'.timer = s.timer) (pending : s'.pending = s.pending)
    (log : s'.log = s.log ∨ ∃ e, (∀ p, afterEvent p e = p) ∧ s'.log = s.log ++ [e]) :
    Invariant s' := by
  rcases log with same | ⟨e, keeps, added⟩
  · exact ⟨by rw [timer, pending, inv.timer_eq], by rw [pending, same, inv.pending_eq],
      same ▸ inv.hands⟩
  · refine ⟨by rw [timer, pending, inv.timer_eq], by rw [pending, added, latestSync_snoc, keeps,
      inv.pending_eq], added ▸ inv.hands.snoc fun json emitted => ?_⟩
    have := keeps (some "")
    rw [emitted] at this
    cases this

end Invariant

theorem Invariant.of_transition {env : Env} {s s' : World} {a : Action} (inv : Invariant s)
    (stepped : transition env s a = some s') : Invariant s' := by
  cases a with
  | edit e =>
    simp only [transition] at stepped
    split_ifs at stepped
    obtain ⟨next, -, rfl⟩ := Option.map_eq_some'.1 stepped
    exact inv.sync next
  | fire =>
    obtain ⟨json, timer, rfl⟩ := Option.map_eq_some'.1 stepped
    exact inv.emit (inv.timer_eq ▸ timer)
  | flush =>
    cases stepped
    cases pending : s.pending with
    | some json => exact inv.emit pending
    | none => exact inv.frame (inv.timer_eq.trans pending).symm pending.symm (.inl rfl)
  | effect =>
    simp only [transition] at stepped
    split_ifs at stepped
    · cases stepped; exact inv.frame rfl rfl (.inl rfl)
    · split at stepped <;> cases stepped <;> exact inv.frame rfl rfl (.inl rfl)
  | toRaw =>
    simp only [transition] at stepped
    split_ifs at stepped
    cases stepped; exact inv.frame rfl rfl (.inl rfl)
  | typeRaw text =>
    simp only [transition] at stepped
    split_ifs at stepped
    cases stepped; exact inv.frame rfl rfl (.inr ⟨.rawTyped text, fun _ => rfl, rfl⟩)
  | toVisual =>
    simp only [transition] at stepped
    split_ifs at stepped
    split at stepped <;> cases stepped
    · exact inv.frame rfl rfl (.inr ⟨.switched s.rawValue, fun _ => rfl, rfl⟩)
    · exact inv
  | external text =>
    cases stepped; exact inv.frame rfl rfl (.inr ⟨.external text, fun _ => rfl, rfl⟩)

theorem Reachable.invariant {env : Env} {s : World} (reach : Reachable env s) : Invariant s :=
  Reach.invariant (fun _ ⟨value, start⟩ => start ▸ initial_invariant value)
    (fun _ _ _ inv stepped => inv.of_transition stepped) reach

/-- Over every run, the timer and `pendingJsonRef` hold the JSON of the latest sync not yet
handed over; the flush hands exactly that JSON to the parent; and every JSON the timer or the
flush has handed over was that of the latest sync before it, so none is handed over twice and
none after a later sync. -/
theorem debounce_hands_latest_sync {env : Env} {s : World} (reach : Reachable env s) :
    s.timer = s.pending ∧ s.pending = latestSync s.log ∧
      (transition env s .flush).map World.value = some ((latestSync s.log).getD s.value) ∧
      ∀ pre json post, s.log = pre ++ .emitted json :: post → latestSync pre = some json := by
  have inv := reach.invariant
  refine ⟨inv.timer_eq, inv.pending_eq, ?_, inv.hands⟩
  rw [← inv.pending_eq]
  cases pending : s.pending <;> simp [transition, pending, World.emit]

/-! ### Two ways the parent loses a change -/

theorem effect_frame {env : Env} {s s' : World} (stepped : transition env s .effect = some s') :
    s'.value = s.value ∧ s'.timer = s.timer ∧ s'.log = s.log := by
  simp only [transition] at stepped
  split_ifs at stepped
  · cases stepped; exact ⟨rfl, rfl, rfl⟩
  · split at stepped <;> cases stepped <;> exact ⟨rfl, rfl, rfl⟩

theorem effect_isSome (env : Env) {s : World} (changed : s.seen ≠ some s.value) :
    (transition env s .effect).isSome := by
  simp only [transition, if_neg changed]
  split_ifs <;> rfl

/-- Text typed in the raw editor while the timer of an edit is set reaches the parent, and
the timer then hands the parent the edit's older JSON in its place. -/
theorem raw_edit_overwritten (env : Env) (s : World) (json : String) (visual : s.rawMode = false)
    (edited : s.timer = some json) (settled : s.seen = some s.value) (text : String)
    (typed : text ≠ s.value) :
    ∃ s', run env s [.toRaw, .typeRaw text, .effect, .fire] = some s' ∧
      s'.value = json ∧ s'.log = s.log ++ [.rawTyped text, .emitted json] := by
  let typedIn : World :=
    { s with rawMode := true, rawValue := text, value := text, log := s.log ++ [.rawTyped text] }
  have changed : typedIn.seen ≠ some typedIn.value := by
    simp only [typedIn, settled, ne_eq, Option.some.injEq]; exact typed.symm
  obtain ⟨loaded, stepped⟩ := Option.isSome_iff_exists.1 (effect_isSome env changed)
  obtain ⟨-, timer, log⟩ := effect_frame stepped
  have toRaw : transition env s .toRaw = some { s with rawMode := true } := by
    simp [transition, visual]
  have fire : transition env loaded .fire = some (loaded.emit json) := by
    simp only [transition, timer, typedIn, edited, Option.map_some']
  refine ⟨loaded.emit json, ?_, rfl, by simp [World.emit, log, typedIn]⟩
  have typeRaw : transition env { s with rawMode := true } (.typeRaw text) = some typedIn := rfl
  simp only [run, runSteps_cons, runSteps_nil, toRaw, typeRaw, stepped, fire, Option.some_bind]

theorem sync_append_unnamed (entries : List ConfigEntry) :
    sync (entries ++ [⟨"", .str ""⟩]) = sync entries := by
  simp [sync]

/-- Adding a field leaves the JSON as it was, so its timer hands the parent the same text and
React runs no effect to clear `skipSync`; the next change of `value` by the parent is then
skipped, and the fields stay as they were. -/
theorem outside_change_ignored_after_add (env : Env) (s : World) (visual : s.rawMode = false)
    (settled : s.seen = some s.value) (delivered : s.value = sync s.entries) (text : String)
    (other : text ≠ s.value) :
    ∃ s₁, run env s [.edit .add, .fire] = some s₁ ∧ s₁.value = s.value ∧
      s₁.skipSync = true ∧ transition env s₁ .effect = none ∧
      ∃ s₂, run env s₁ [.external text, .effect] = some s₂ ∧ s₂.value = text ∧
        s₂.entries = s.entries ++ [⟨"", .str ""⟩] ∧ s₂.skipSync = false := by
  let added := s.sync (s.entries ++ [⟨"", .str ""⟩])
  let s₁ := added.emit s.value
  have editAdd : transition env s (.edit .add) = some added := by
    simp [transition, visual, edit, added]
  have fire : transition env added .fire = some s₁ := by
    simp [transition, added, World.sync, sync_append_unnamed, delivered, s₁]
  have quiet : transition env s₁ .effect = none := by
    simp [transition, s₁, World.emit, added, World.sync, settled]
  let s₂ : World := { s₁ with value := text, log := s₁.log ++ [.external text] }
  have skipped :
      transition env s₂ .effect = some { s₂ with seen := some text, skipSync := false } := by
    simp [transition, s₂, s₁, World.emit, added, World.sync, settled, other.symm]
  have changed : transition env s₁ (.external text) = some s₂ := rfl
  refine ⟨s₁, by simp only [run, runSteps_cons, runSteps_nil, editAdd, fire, Option.some_bind], rfl, rfl, quiet,
    { s₂ with seen := some text, skipSync := false }, ?_, rfl, rfl, rfl⟩
  simp only [run, runSteps_cons, runSteps_nil, changed, skipped, Option.some_bind]

/-! ### A run -/

def blankEnv : Env := ⟨⟨fun _ => .nan⟩, fun _ => some []⟩

def keyJson : String := sync [⟨"a", .str ""⟩]

/-- The editor mounted on `{}` after a field is added and named `a`, its timer still set. -/
def keyEdited : World :=
  (run blankEnv (initial "\x7b\x7d") [.effect, .edit .add, .edit (.rename 0 "a")]).getD
    (initial "")

def keyDelivered : World :=
  (run blankEnv keyEdited [.fire, .effect]).getD (initial "")

theorem keyEdited_reachable : Reachable blankEnv keyEdited :=
  (Reach.init ⟨_, rfl⟩).runSteps (rfl : run blankEnv (initial "\x7b\x7d")
    [.effect, .edit .add, .edit (.rename 0 "a")] = some keyEdited)

theorem debounce_keyEdited :
    keyEdited.timer = keyEdited.pending ∧ keyEdited.pending = latestSync keyEdited.log ∧
      (transition blankEnv keyEdited .flush).map World.value =
        some ((latestSync keyEdited.log).getD keyEdited.value) ∧
      ∀ pre json post, keyEdited.log = pre ++ .emitted json :: post →
        latestSync pre = some json :=
  debounce_hands_latest_sync keyEdited_reachable

theorem raw_edit_overwritten_keyEdited :
    ∃ s', run blankEnv keyEdited [.toRaw, .typeRaw "[]", .effect, .fire] = some s' ∧
      s'.value = keyJson ∧ s'.log = keyEdited.log ++ [.rawTyped "[]", .emitted keyJson] :=
  raw_edit_overwritten blankEnv keyEdited keyJson rfl rfl rfl "[]" (by decide)

theorem outside_change_ignored_keyDelivered :
    ∃ s₁, run blankEnv keyDelivered [.edit .add, .fire] = some s₁ ∧
      s₁.value = keyDelivered.value ∧ s₁.skipSync = true ∧
      transition blankEnv s₁ .effect = none ∧
      ∃ s₂, run blankEnv s₁ [.external "\x7b\x7d", .effect] = some s₂ ∧
        s₂.value = "\x7b\x7d" ∧
        s₂.entries = keyDelivered.entries ++ [⟨"", .str ""⟩] ∧ s₂.skipSync = false :=
  outside_change_ignored_after_add blankEnv keyDelivered rfl rfl rfl "\x7b\x7d" (by decide)

end AuraLogic.ConfigEditorSession
