import AuraLogic.NumberLiteral

/-! The text `sync` writes, read back by `JSON.parse`: `JSON.stringify` of a value with finite
numbers and plain keys parses to a value that denotes it, and so does the whole text. -/

namespace AuraLogic.ConfigEditor

theorem hexValue_hexDigit : ∀ n, n < 16 → hexValue (hexDigit n) = some n := by decide

theorem parseStringBody_plain {c : Char} (r : List Char) (quote : c ≠ '"') (backslash : c ≠ '\\')
    (visible : ¬ c.toNat < 0x20) :
    parseStringBody (c :: r) = (parseStringBody r).map fun (s, r) => (c :: s, r) :=
  (parseStringBody.eq_12 c r quote (fun _ _ _ _ _ same _ => backslash same)
    (fun _ _ same _ => backslash same)).trans (if_neg visible)

theorem hex4_control {c : Char} (control : c.toNat < 0x20) :
    hex4 '0' '0' (hexDigit (c.toNat / 16)) (hexDigit (c.toNat % 16)) = some c.toNat := by
  have high := hexValue_hexDigit (c.toNat / 16) (by omega)
  have low := hexValue_hexDigit (c.toNat % 16) (by omega)
  simp only [hex4, high, low, show hexValue '0' = some 0 from rfl]
  simp only [Option.pure_def, Option.bind_eq_bind, Option.some_bind, Option.some.injEq]
  omega

theorem parseStringBody_escapeChar (c : Char) (r : List Char) :
    parseStringBody (escapeChar c ++ r) = (parseStringBody r).map fun (s, r) => (c :: s, r) := by
  by_cases quote : c = '"'
  · subst quote; rfl
  by_cases backslash : c = '\\'
  · subst backslash; rfl
  by_cases b : c = '\x08'
  · subst b; rfl
  by_cases f : c = '\x0c'
  · subst f; rfl
  by_cases n : c = '\n'
  · subst n; rfl
  by_cases cr : c = '\r'
  · subst cr; rfl
  by_cases t : c = '\t'
  · subst t; rfl
  rw [escapeChar, if_neg quote, if_neg backslash, if_neg b, if_neg f, if_neg n, if_neg cr, if_neg t]
  by_cases control : c.toNat < 0x20
  · simp only [if_pos control, List.cons_append, List.nil_append]
    rw [parseStringBody.eq_2, hex4_control control]
    dsimp only
    rw [if_neg (by omega), if_neg (by omega), Char.ofNat_toNat]
  · rw [if_neg control]
    exact parseStringBody_plain r quote backslash control

theorem parseStringBody_escaped (s r : List Char) :
    parseStringBody (s.flatMap escapeChar ++ '"' :: r) = some (s, r) := by
  induction s with
  | nil => rfl
  | cons c s ih => rw [List.flatMap_cons, List.append_assoc, parseStringBody_escapeChar, ih]; rfl

theorem quote_append (s : String) (r : List Char) :
    quote s ++ r = '"' :: (s.toList.flatMap escapeChar ++ '"' :: r) := by
  simp [quote]

theorem skipWs_cons {c : Char} (cs : List Char) (visible : c ≠ ' ' ∧ c ≠ '\t' ∧ c ≠ '\n' ∧ c ≠ '\r') :
    skipWs (c :: cs) = c :: cs := by
  simp [skipWs, visible.1, visible.2.1, visible.2.2.1, visible.2.2.2]

theorem parseValue_number {fuel : Nat} {c : Char} {cs : List Char} (start : c = '-' ∨ c.isDigit = true) :
    parseValue (fuel + 1) (c :: cs) = (parseNumber (c :: cs)).map fun (n, r) => (.number n, r) := by
  have visible : c ≠ ' ' ∧ c ≠ '\t' ∧ c ≠ '\n' ∧ c ≠ '\r' := by
    rcases start with rfl | digit
    · decide
    · refine ⟨?_, ?_, ?_, ?_⟩ <;> rintro rfl <;> exact absurd digit (by decide)
  have other : c ≠ 'n' ∧ c ≠ 't' ∧ c ≠ 'f' ∧ c ≠ '"' ∧ c ≠ '[' ∧ c ≠ '\x7b' := by
    rcases start with rfl | digit
    · decide
    · refine ⟨?_, ?_, ?_, ?_, ?_, ?_⟩ <;> rintro rfl <;> exact absurd digit (by decide)
  rw [parseValue, skipWs_cons cs visible]
  -- the first character matches none of the literal patterns
  unfold parseValue.match_6
  simp only [dif_neg other.1, dif_neg other.2.1, dif_neg other.2.2.1, dif_neg other.2.2.2.1,
    dif_neg other.2.2.2.2.1, dif_neg other.2.2.2.2.2]

theorem exact_of_finite {x : JsNumber} (finite : (ConfigValue.num x).finite = true) :
    ∃ m, exactValue x = some m := by
  cases x with
  | nan => simp [ConfigValue.finite] at finite
  | infinity negative => simp [ConfigValue.finite] at finite
  | zero => exact ⟨_, rfl⟩
  | finite => exact ⟨_, rfl⟩

theorem stringify_num {x : JsNumber} {m : JsonNumber} (exact : exactValue x = some m) :
    stringify (.num x) = x.toString.toList := by
  cases x with
  | nan => cases exact
  | infinity => cases exact
  | zero => rfl
  | finite => rfl

/-- A character a value's text may start with: no whitespace and no closing bracket. -/
def Opens (c : Char) : Prop := c ≠ ' ' ∧ c ≠ '\t' ∧ c ≠ '\n' ∧ c ≠ '\r' ∧ c ≠ ']' ∧ c ≠ '\x7d'

instance (c : Char) : Decidable (Opens c) :=
  inferInstanceAs (Decidable (c ≠ ' ' ∧ c ≠ '\t' ∧ c ≠ '\n' ∧ c ≠ '\r' ∧ c ≠ ']' ∧ c ≠ '\x7d'))

theorem stringify_head (v : ConfigValue) : ∃ c cs, stringify v = c :: cs ∧ Opens c := by
  cases v with
  | null => exact ⟨_, _, rfl, by decide⟩
  | bool b => cases b <;> exact ⟨_, _, rfl, by decide⟩
  | num x =>
    cases x with
    | nan => exact ⟨_, _, rfl, by decide⟩
    | infinity => exact ⟨_, _, rfl, by decide⟩
    | zero => exact ⟨_, _, rfl, by decide⟩
    | finite negative d =>
      obtain ⟨c, cs, text, start⟩ := toString_head (x := .finite negative d) rfl
      refine ⟨c, cs, text, ?_⟩
      rcases start with rfl | digit
      · decide
      · refine ⟨?_, ?_, ?_, ?_, ?_, ?_⟩ <;> rintro rfl <;> exact absurd digit (by decide)
  | str s => exact ⟨_, _, rfl, by decide⟩
  | array => exact ⟨_, _, rfl, by decide⟩
  | object => exact ⟨_, _, rfl, by decide⟩

theorem parseValue_array {fuel : Nat} {c : Char} {cs : List Char} (opens : Opens c) :
    parseValue (fuel + 1) ('[' :: c :: cs) =
      (parseItems fuel (c :: cs)).map fun (vs, r) => (.array vs, r) := by
  have bracket : parseValue (fuel + 1) ('[' :: c :: cs) = match skipWs (c :: cs) with
      | ']' :: r => some (.array [], r)
      | _ => (parseItems fuel (c :: cs)).map fun (vs, r) => (.array vs, r) := rfl
  rw [bracket, skipWs_cons cs ⟨opens.1, opens.2.1, opens.2.2.1, opens.2.2.2.1⟩]
  split <;> rename_i same
  · exact absurd (List.cons.inj same).1 opens.2.2.2.2.1
  · rfl

mutual
/-- The fuel `parseValue` needs for a value: one unit per value and per element. -/
def size : ConfigValue → Nat
  | .array items => 1 + sizeItems items
  | .object members => 1 + sizeMembers members
  | _ => 1

def sizeItems : List ConfigValue → Nat
  | [] => 0
  | v :: vs => 1 + size v + sizeItems vs

def sizeMembers : List (String × ConfigValue) → Nat
  | [] => 0
  | (_, v) :: ms => 1 + size v + sizeMembers ms
end

theorem one_le_size (v : ConfigValue) : 1 ≤ size v := by
  cases v <;> simp [size]

theorem delimited_cons {c : Char} {r : List Char} (stops : c.isDigit = false ∧ c ≠ '.' ∧ c ≠ 'e' ∧ c ≠ 'E') :
    Delimited (c :: r) :=
  fun _ _ same => by cases same; exact stops

theorem stringifyItems_cons (v : ConfigValue) (vs : List ConfigValue) :
    ∃ t, stringifyItems (v :: vs) = stringify v ++ t := by
  cases vs with
  | nil => exact ⟨[], by simp [stringifyItems]⟩
  | cons w ws => exact ⟨_, rfl⟩

theorem stringifyMembers_cons (k : String) (v : ConfigValue) (ms : List (String × ConfigValue)) :
    ∃ t, stringifyMembers ((k, v) :: ms) = '"' :: t := by
  cases ms with
  | nil => exact ⟨_, rfl⟩
  | cons m ms => exact ⟨_, rfl⟩

theorem skipWs_quote (cs : List Char) : skipWs ('"' :: cs) = '"' :: cs := rfl

theorem skipWs_colon (cs : List Char) : skipWs (':' :: cs) = ':' :: cs := rfl

theorem skipWs_comma (cs : List Char) : skipWs (',' :: cs) = ',' :: cs := rfl

theorem skipWs_close (cs : List Char) : skipWs ('\x7d' :: cs) = '\x7d' :: cs := rfl

theorem denotes_num {x : JsNumber} {m n : JsonNumber} (exact : exactValue x = some m) :
    denotes (.num x) (.number n) = m.sameValue n := by
  cases x <;> cases exact <;> rfl

theorem denotesItems_cons (x : ConfigValue) (xs : List ConfigValue) (y : JsonValue) (ys : List JsonValue) :
    denotesItems (x :: xs) (y :: ys) = (denotes x y && denotesItems xs ys) :=
  rfl

theorem denotesMembers_cons (k k' : String) (x : ConfigValue) (y : JsonValue)
    (ms : List (String × ConfigValue)) (ns : List (String × JsonValue)) :
    denotesMembers ((k, x) :: ms) ((k', y) :: ns) = (k == k' && denotes x y && denotesMembers ms ns) :=
  rfl

theorem parseValue_string (fuel : Nat) (cs : List Char) :
    parseValue (fuel + 1) ('"' :: cs) = (parseStringBody cs).map fun (s, r) => (.string (String.mk s), r) :=
  rfl

theorem parseValue_object (fuel : Nat) (cs : List Char) :
    parseValue (fuel + 1) ('\x7b' :: '"' :: cs) =
      (parseMembers fuel ('"' :: cs)).map fun (ms, r) => (.object (objectOf ms), r) :=
  rfl

theorem foldl_setProperty_fresh {α : Type} :
    ∀ (ms props : List (String × α)), ((props ++ ms).map (·.1)).Nodup →
      ms.foldl (fun props m => setProperty props m.1 m.2) props = props ++ ms
  | [], props, _ => by simp
  | m :: ms, props, distinct => by
    have fresh : ¬ (props.any fun p => p.1 = m.1) = true := by
      simp only [List.any_eq_true, decide_eq_true_eq, not_exists, not_and]
      intro p mem same
      simp only [List.map_append, List.map_cons, List.nodup_append, List.nodup_cons] at distinct
      exact distinct.2.2 (List.mem_map_of_mem _ mem) (same ▸ List.mem_cons_self _ _)
    rw [List.foldl_cons, setProperty, if_neg fresh,
      foldl_setProperty_fresh ms _ (by simpa using distinct)]
    simp

/-- Members with distinct keys, none an array index, make an object that lists them as given. -/
theorem objectOf_plain {α : Type} {ms : List (String × α)} (distinct : (ms.map (·.1)).Nodup)
    (plain : ∀ m ∈ ms, arrayIndex m.1 = none) : objectOf ms = ms := by
  simp only [objectOf, foldl_setProperty_fresh ms [] (by simpa using distinct), List.nil_append]
  rw [List.filter_eq_nil_iff.2 fun p mem => by simp [plain p mem],
    List.filter_eq_self.2 fun p mem => by simp [plain p mem]]
  rfl

theorem keys_of_denotesMembers :
    ∀ {ms : List (String × ConfigValue)} {js : List (String × JsonValue)},
      denotesMembers ms js = true → js.map (·.1) = ms.map (·.1)
  | [], [], _ => rfl
  | (k, x) :: ms, (k', y) :: js, same => by
    rw [denotesMembers_cons, Bool.and_eq_true, Bool.and_eq_true, beq_iff_eq] at same
    rw [List.map_cons, List.map_cons, keys_of_denotesMembers same.2, same.1.1]
  | [], _ :: _, same => by simp [denotesMembers] at same
  | _ :: _, [], same => by simp [denotesMembers] at same

mutual
/-- Every object inside the value has distinct keys, none an array index: the objects whose
members `JSON.parse` lists as `JSON.stringify` writes them. -/
def ConfigValue.plainKeys : ConfigValue → Bool
  | .array items => plainKeysItems items
  | .object members => decide (members.map (·.1)).Nodup &&
      members.all (fun m => (arrayIndex m.1).isNone) && plainKeysMembers members
  | _ => true

def plainKeysItems : List ConfigValue → Bool
  | [] => true
  | v :: vs => v.plainKeys && plainKeysItems vs

def plainKeysMembers : List (String × ConfigValue) → Bool
  | [] => true
  | (_, v) :: ms => v.plainKeys && plainKeysMembers ms
end

/-- The members parsed from an object with plain keys make an object that lists them. -/
theorem objectOf_parsed {ms : List (String × ConfigValue)} {js : List (String × JsonValue)}
    (same : denotesMembers ms js = true) (plain : (ConfigValue.object ms).plainKeys = true) :
    objectOf js = js := by
  simp only [ConfigValue.plainKeys, Bool.and_eq_true, decide_eq_true_eq, List.all_eq_true,
    Option.isNone_iff_eq_none] at plain
  have keys := keys_of_denotesMembers same
  refine objectOf_plain (keys ▸ plain.1.1) fun m mem => ?_
  obtain ⟨n, named, same⟩ := List.mem_map.1 (keys ▸ List.mem_map_of_mem Prod.fst mem)
  exact same ▸ plain.1.2 n named

mutual
/-- `JSON.parse` reads back what `JSON.stringify` writes for a value with finite numbers and
plain keys. -/
theorem parseValue_stringify : ∀ (v : ConfigValue) (fuel : Nat) (rest : List Char),
    size v ≤ fuel → v.finite = true → v.plainKeys = true → Delimited rest →
    ∃ j, parseValue fuel (stringify v ++ rest) = some (j, rest) ∧ denotes v j = true
  | v, 0, _, enough, _, _, _ => absurd enough (by have := one_le_size v; omega)
  | .null, fuel + 1, rest, _, _, _, _ => ⟨.null, rfl, rfl⟩
  | .bool b, fuel + 1, rest, _, _, _, _ => ⟨.bool b, by cases b <;> rfl, by cases b <;> rfl⟩
  | .num x, fuel + 1, rest, _, finite, _, delimited => by
    obtain ⟨m, exact⟩ := exact_of_finite finite
    obtain ⟨n, parsed, same⟩ := parseNumber_toString exact delimited
    obtain ⟨c, cs, text, start⟩ := toString_head exact
    refine ⟨.number n, ?_, (denotes_num exact).trans same⟩
    rw [stringify_num exact, text, List.cons_append, parseValue_number start, ← List.cons_append,
      ← text, parsed]
    rfl
  | .str s, fuel + 1, rest, _, _, _, _ => by
    refine ⟨.string s, ?_, beq_self_eq_true s⟩
    rw [stringify, quote_append, parseValue_string, parseStringBody_escaped]
    rfl
  | .array [], fuel + 1, rest, _, _, _, _ => ⟨.array [], rfl, rfl⟩
  | .array (v :: vs), fuel + 1, rest, enough, finite, plain, _ => by
    obtain ⟨js, parsed, same⟩ := parseItems_stringify (v :: vs) fuel rest (List.cons_ne_nil _ _)
      (by simp only [size] at enough; omega) finite plain
    obtain ⟨c, cs, text, opens⟩ := stringify_head v
    obtain ⟨t, start⟩ := stringifyItems_cons v vs
    refine ⟨.array js, ?_, same⟩
    have input : stringify (.array (v :: vs)) ++ rest = '[' :: c :: (cs ++ t ++ ']' :: rest) := by
      simp [stringify, start, text]
    have back : c :: (cs ++ t ++ ']' :: rest) = stringifyItems (v :: vs) ++ ']' :: rest := by
      simp [start, text]
    rw [input, parseValue_array opens, back, parsed]
    rfl
  | .object [], fuel + 1, rest, _, _, _, _ => ⟨.object [], rfl, rfl⟩
  | .object ((k, v) :: ms), fuel + 1, rest, enough, finite, plain, _ => by
    obtain ⟨js, parsed, same⟩ := parseMembers_stringify ((k, v) :: ms) fuel rest
      (List.cons_ne_nil _ _) (by simp only [size] at enough; omega) finite
      (by simp only [ConfigValue.plainKeys, Bool.and_eq_true] at plain; exact plain.2)
    obtain ⟨t, start⟩ := stringifyMembers_cons k v ms
    refine ⟨.object js, ?_, same⟩
    have input : stringify (.object ((k, v) :: ms)) ++ rest = '\x7b' :: '"' :: (t ++ '\x7d' :: rest) := by
      simp [stringify, start]
    have back : '"' :: (t ++ '\x7d' :: rest) = stringifyMembers ((k, v) :: ms) ++ '\x7d' :: rest := by
      simp [start]
    rw [input, parseValue_object, back, parsed]
    show some (JsonValue.object (objectOf js), rest) = _
    rw [objectOf_parsed same plain]

theorem parseItems_stringify : ∀ (items : List ConfigValue) (fuel : Nat) (rest : List Char),
    items ≠ [] → sizeItems items ≤ fuel → finiteItems items = true →
    plainKeysItems items = true →
    ∃ js, parseItems fuel (stringifyItems items ++ ']' :: rest) = some (js, rest) ∧
      denotesItems items js = true
  | [], _, _, nonempty, _, _, _ => absurd rfl nonempty
  | _ :: _, 0, _, _, enough, _, _ => absurd enough (by simp [sizeItems])
  | [v], fuel + 1, rest, _, enough, finite, plain => by
    obtain ⟨j, parsed, same⟩ := parseValue_stringify v fuel (']' :: rest)
      (by simp only [sizeItems] at enough; omega) (by simpa [finiteItems] using finite)
      (by simpa [plainKeysItems] using plain) (delimited_cons (by decide))
    refine ⟨[j], ?_, by rw [denotesItems_cons, same]; rfl⟩
    rw [parseItems]
    simp only [stringifyItems, parsed]
    rfl
  | v :: w :: ws, fuel + 1, rest, _, enough, finite, plain => by
    rw [finiteItems, Bool.and_eq_true] at finite
    rw [plainKeysItems, Bool.and_eq_true] at plain
    rw [sizeItems] at enough
    obtain ⟨j, parsed, same⟩ := parseValue_stringify v fuel (',' :: (stringifyItems (w :: ws) ++ ']' :: rest))
      (by omega) finite.1 plain.1 (delimited_cons (by decide))
    obtain ⟨js, parsedRest, sameRest⟩ := parseItems_stringify (w :: ws) fuel rest (List.cons_ne_nil _ _)
      (by omega) finite.2 plain.2
    refine ⟨j :: js, ?_, by rw [denotesItems_cons, same, sameRest]; rfl⟩
    rw [parseItems]
    simp only [stringifyItems, List.append_assoc, List.cons_append, parsed]
    change Option.map _ (parseItems fuel (stringifyItems (w :: ws) ++ ']' :: rest)) = _
    rw [parsedRest]
    rfl

theorem parseMembers_stringify : ∀ (members : List (String × ConfigValue)) (fuel : Nat)
    (rest : List Char), members ≠ [] → sizeMembers members ≤ fuel → finiteMembers members = true →
    plainKeysMembers members = true →
    ∃ js, parseMembers fuel (stringifyMembers members ++ '\x7d' :: rest) = some (js, rest) ∧
      denotesMembers members js = true
  | [], _, _, nonempty, _, _, _ => absurd rfl nonempty
  | _ :: _, 0, _, _, enough, _, _ => absurd enough (by simp [sizeMembers])
  | [(k, v)], fuel + 1, rest, _, enough, finite, plain => by
    obtain ⟨j, parsed, same⟩ := parseValue_stringify v fuel ('\x7d' :: rest)
      (by simp only [sizeMembers] at enough; omega) (by simpa [finiteMembers] using finite)
      (by simpa [plainKeysMembers] using plain) (delimited_cons (by decide))
    refine ⟨[(k, j)], ?_, by rw [denotesMembers_cons, beq_self_eq_true, same]; rfl⟩
    rw [stringifyMembers, List.append_assoc, quote_append]
    simp only [parseMembers, List.cons_append, skipWs_quote, parseStringBody_escaped, skipWs_colon,
      parsed, skipWs_close]
    rfl
  | (k, v) :: m :: ms, fuel + 1, rest, _, enough, finite, plain => by
    rw [finiteMembers, Bool.and_eq_true] at finite
    rw [plainKeysMembers, Bool.and_eq_true] at plain
    rw [sizeMembers] at enough
    obtain ⟨j, parsed, same⟩ := parseValue_stringify v fuel
      (',' :: (stringifyMembers (m :: ms) ++ '\x7d' :: rest)) (by omega) finite.1 plain.1
      (delimited_cons (by decide))
    obtain ⟨js, parsedRest, sameRest⟩ := parseMembers_stringify (m :: ms) fuel rest
      (List.cons_ne_nil _ _) (by omega) finite.2 plain.2
    refine ⟨(k, j) :: js, ?_, by rw [denotesMembers_cons, beq_self_eq_true, same, sameRest]; rfl⟩
    simp only [stringifyMembers, List.append_assoc, quote_append, parseMembers, List.cons_append,
      skipWs_quote, parseStringBody_escaped, skipWs_colon, parsed, skipWs_comma, parsedRest]
    rfl
end

theorem quote_length (s : String) : 2 ≤ (quote s).length := by
  simp [quote]

mutual
theorem size_le_length : ∀ v : ConfigValue, size v ≤ (stringify v).length
  | .null => by simp [size, stringify]
  | .bool b => by cases b <;> simp [size, stringify]
  | .num x => by
    cases x with
    | nan => simp [size, stringify]
    | infinity => simp [size, stringify]
    | zero => simp [size, stringify, JsNumber.toString]
    | finite negative d =>
      obtain ⟨c, cs, text, -⟩ := toString_head (x := .finite negative d) rfl
      simp only [size, stringify_num (x := .finite negative d) rfl, text]
      simp
  | .str s => by have := quote_length s; simp only [size, stringify]; omega
  | .array items => by
    have := sizeItems_le_length items
    simp only [size, stringify, List.length_cons, List.length_append, List.length_singleton]
    omega
  | .object members => by
    have := sizeMembers_le_length members
    simp only [size, stringify, List.length_cons, List.length_append, List.length_singleton]
    omega

theorem sizeItems_le_length : ∀ items : List ConfigValue,
    sizeItems items ≤ (stringifyItems items).length + 1
  | [] => by simp [sizeItems]
  | [v] => by have := size_le_length v; simp only [sizeItems, stringifyItems]; omega
  | v :: w :: ws => by
    have := size_le_length v
    have := sizeItems_le_length (w :: ws)
    simp only [sizeItems, stringifyItems, List.length_append, List.length_cons] at *
    omega

theorem sizeMembers_le_length : ∀ members : List (String × ConfigValue),
    sizeMembers members ≤ (stringifyMembers members).length + 1
  | [] => by simp [sizeMembers]
  | [(k, v)] => by
    have := size_le_length v
    have := quote_length k
    simp only [sizeMembers, stringifyMembers, List.length_append, List.length_cons]
    omega
  | (k, v) :: m :: ms => by
    have := size_le_length v
    have := quote_length k
    have := sizeMembers_le_length (m :: ms)
    simp only [sizeMembers, stringifyMembers, List.length_append, List.length_cons] at *
    omega
end

/-- The line `sync` writes for a member whose value is written as `JSON.stringify` writes it. -/
def memberLine (member : String × ConfigValue) : List Char :=
  ' ' :: ' ' :: quote member.1 ++ ':' :: ' ' :: stringify member.2

theorem intercalate_singleton {α : Type} (sep l : List α) : sep.intercalate [l] = l := by
  simp [List.intercalate]

theorem intercalate_cons {α : Type} (sep l : List α) {ls : List (List α)} (nonempty : ls ≠ []) :
    sep.intercalate (l :: ls) = l ++ sep ++ sep.intercalate ls := by
  cases ls with
  | nil => contradiction
  | cons l' ls => simp [List.intercalate, List.intersperse_cons₂]

theorem skipWs_space (cs : List Char) : skipWs (' ' :: cs) = skipWs cs := rfl

theorem skipWs_newline (cs : List Char) : skipWs ('\n' :: cs) = skipWs cs := rfl

theorem parseValue_space (fuel : Nat) (cs : List Char) :
    parseValue fuel (' ' :: cs) = parseValue fuel cs := by
  cases fuel <;> rfl

/-- The members of the text `sync` writes, one a line, read back up to the closing brace. -/
theorem parseMembers_lines : ∀ (members : List (String × ConfigValue)) (fuel : Nat),
    members ≠ [] → sizeMembers members ≤ fuel → finiteMembers members = true →
    plainKeysMembers members = true →
    ∃ js, parseMembers fuel ('\n' :: ([',', '\n'].intercalate (members.map memberLine) ++ ['\n', '\x7d'])) =
        some (js, []) ∧ denotesMembers members js = true
  | [], _, nonempty, _, _, _ => absurd rfl nonempty
  | _ :: _, 0, _, enough, _, _ => absurd enough (by simp [sizeMembers])
  | [(k, v)], fuel + 1, _, enough, finite, plain => by
    obtain ⟨j, parsed, same⟩ := parseValue_stringify v fuel ['\n', '\x7d']
      (by simp only [sizeMembers] at enough; omega) (by simpa [finiteMembers] using finite)
      (by simpa [plainKeysMembers] using plain) (delimited_cons (by decide))
    refine ⟨[(k, j)], ?_, by rw [denotesMembers_cons, beq_self_eq_true, same]; rfl⟩
    simp only [List.map, intercalate_singleton, memberLine, List.cons_append, List.append_assoc,
      quote_append, parseMembers, skipWs_newline, skipWs_space, skipWs_quote, parseStringBody_escaped,
      skipWs_colon, parseValue_space, parsed, skipWs_close]
    rfl
  | (k, v) :: m :: ms, fuel + 1, _, enough, finite, plain => by
    rw [finiteMembers, Bool.and_eq_true] at finite
    rw [plainKeysMembers, Bool.and_eq_true] at plain
    rw [sizeMembers] at enough
    obtain ⟨j, parsed, same⟩ := parseValue_stringify v fuel
      (',' :: '\n' :: ([',', '\n'].intercalate ((m :: ms).map memberLine) ++ ['\n', '\x7d']))
      (by omega) finite.1 plain.1 (delimited_cons (by decide))
    obtain ⟨js, parsedRest, sameRest⟩ := parseMembers_lines (m :: ms) fuel (List.cons_ne_nil _ _)
      (by omega) finite.2 plain.2
    refine ⟨(k, j) :: js, ?_, by rw [denotesMembers_cons, beq_self_eq_true, same, sameRest]; rfl⟩
    rw [List.map_cons, intercalate_cons _ _ (by simp)]
    simp only [memberLine, List.cons_append, List.append_assoc, List.nil_append, quote_append,
      parseMembers, skipWs_newline, skipWs_space, skipWs_quote, parseStringBody_escaped,
      skipWs_colon, parseValue_space, parsed, skipWs_comma, parsedRest]
    rfl

theorem sizeMembers_le_lines : ∀ members : List (String × ConfigValue),
    sizeMembers members ≤ ([',', '\n'].intercalate (members.map memberLine)).length
  | [] => by simp [sizeMembers]
  | [(k, v)] => by
    have := size_le_length v
    simp only [sizeMembers, List.map, intercalate_singleton, memberLine, List.length_cons,
      List.length_append]
    omega
  | (k, v) :: m :: ms => by
    have := size_le_length v
    have := sizeMembers_le_lines (m :: ms)
    rw [List.map_cons, intercalate_cons _ _ (by simp), sizeMembers]
    simp only [memberLine, List.length_cons, List.length_append] at *
    omega

theorem lines_head (m : String × ConfigValue) (ms : List (String × ConfigValue)) :
    ∃ t, [',', '\n'].intercalate ((m :: ms).map memberLine) = ' ' :: ' ' :: '"' :: t := by
  cases ms with
  | nil => exact ⟨_, by rw [List.map_cons, List.map_nil, intercalate_singleton]; rfl⟩
  | cons m' ms => exact ⟨_, by rw [List.map_cons, intercalate_cons _ _ (by simp)]; rfl⟩

theorem parseValue_lines {fuel : Nat} {cs t : List Char} (start : cs = ' ' :: ' ' :: '"' :: t) :
    parseValue (fuel + 1) ('\x7b' :: '\n' :: cs) =
      (parseMembers fuel ('\n' :: cs)).map fun (ms, r) => (.object (objectOf ms), r) := by
  subst start
  rfl

theorem finiteMembers_iff (members : List (String × ConfigValue)) :
    finiteMembers members = true ↔ ∀ m ∈ members, m.2.finite = true := by
  induction members with
  | nil => simp [finiteMembers]
  | cons m ms ih => obtain ⟨k, v⟩ := m; simp [finiteMembers, ih]

theorem plainKeysMembers_iff (members : List (String × ConfigValue)) :
    plainKeysMembers members = true ↔ ∀ m ∈ members, m.2.plainKeys = true := by
  induction members with
  | nil => simp [plainKeysMembers]
  | cons m ms ih => obtain ⟨k, v⟩ := m; simp [plainKeysMembers, ih]

theorem parse_of_parseValue {cs : List Char} {v : JsonValue}
    (parsed : parseValue (cs.length + 1) cs = some (v, [])) : parse (String.mk cs) = some v := by
  simp only [parse, String.length_mk, String.toList, parsed]
  rfl

/-- A top-level number that `Number::toString` writes without an exponent. -/
def printsPlain : ConfigValue → Bool
  | .num (.finite _ d) => -6 < d.point ∧ d.point ≤ 21
  | _ => true

theorem entryLine_eq {e : ConfigEntry} (finite : e.value.finite = true)
    (plain : printsPlain e.value = true) : entryLine e = memberLine (e.key, e.value) := by
  obtain ⟨k, v⟩ := e
  cases v with
  | num x =>
    cases x with
    | nan => simp [ConfigValue.finite] at finite
    | infinity negative => simp [ConfigValue.finite] at finite
    | zero negative => cases negative <;> rfl
    | finite negative d =>
      simp only [printsPlain, decide_eq_true_eq] at plain
      simp only [entryLine, memberLine, numToPlain_plain negative plain.1 plain.2]
      rfl
  | _ => rfl

/-- Where the entries with a key have distinct keys, none an array index, plain keys inside, and
numbers `Number::toString` writes without an exponent, the text `sync` writes is JSON that
`JSON.parse` reads back as an object with those entries, in order, each with the value it had. -/
theorem parse_sync (entries : List ConfigEntry)
    (kept : ∀ e ∈ entries, e.key ≠ "" → e.value.finite = true ∧ printsPlain e.value = true ∧
      e.value.plainKeys = true ∧ arrayIndex e.key = none)
    (distinct : ((entries.filter (·.key ≠ "")).map (·.key)).Nodup) :
    ∃ members, parse (sync entries) = some (.object members) ∧
      denotesMembers ((entries.filter (·.key ≠ "")).map fun e => (e.key, e.value)) members = true := by
  have keyed : ∀ e ∈ entries.filter (·.key ≠ ""), e.value.finite = true ∧
      printsPlain e.value = true ∧ e.value.plainKeys = true ∧ arrayIndex e.key = none :=
    fun e mem => by
      obtain ⟨mem, key⟩ := List.mem_filter.1 mem
      exact kept e mem (by simpa using key)
  have lines : (entries.filter (·.key ≠ "")).map entryLine =
      ((entries.filter (·.key ≠ "")).map fun e => (e.key, e.value)).map memberLine := by
    rw [List.map_map]
    exact List.map_congr_left fun e mem => entryLine_eq (keyed e mem).1 (keyed e mem).2.1
  have finite : finiteMembers ((entries.filter (·.key ≠ "")).map fun e => (e.key, e.value)) = true :=
    (finiteMembers_iff _).2 fun m mem => by
      obtain ⟨e, filtered, rfl⟩ := List.mem_map.1 mem
      exact (keyed e filtered).1
  have plain : (ConfigValue.object
      ((entries.filter (·.key ≠ "")).map fun e => (e.key, e.value))).plainKeys = true := by
    simp only [ConfigValue.plainKeys, Bool.and_eq_true, decide_eq_true_eq, List.all_eq_true,
      Option.isNone_iff_eq_none, plainKeysMembers_iff, List.map_map, List.forall_mem_map]
    exact ⟨⟨distinct, fun e mem => (keyed e mem).2.2.2⟩, fun e mem => (keyed e mem).2.2.1⟩
  rw [sync]
  simp only [lines]
  generalize (entries.filter (·.key ≠ "")).map (fun e => (e.key, e.value)) = members at finite plain ⊢
  cases members with
  | nil => exact ⟨[], rfl, rfl⟩
  | cons m ms =>
    obtain ⟨t, start⟩ := lines_head m ms
    have enough := sizeMembers_le_lines (m :: ms)
    obtain ⟨js, parsed, same⟩ := parseMembers_lines (m :: ms)
      ('\x7b' :: '\n' :: [',', '\n'].intercalate ((m :: ms).map memberLine) ++ ['\n', '\x7d']).length
      (List.cons_ne_nil _ _) (by simp only [List.length_cons, List.length_append]; omega) finite
      (by simp only [ConfigValue.plainKeys, Bool.and_eq_true] at plain; exact plain.2)
    have first : [',', '\n'].intercalate ((m :: ms).map memberLine) ++ ['\n', '\x7d'] =
        ' ' :: ' ' :: '"' :: (t ++ ['\n', '\x7d']) := by
      rw [start]; rfl
    refine ⟨js, ?_, same⟩
    rw [if_pos (by simp)]
    refine parse_of_parseValue ?_
    simp only [List.cons_append] at parsed ⊢
    rw [parseValue_lines first, parsed]
    show some (JsonValue.object (objectOf js), []) = _
    rw [objectOf_parsed same plain]

/-- A configuration with a port and a name, and a field just added. -/
def portEntries : List ConfigEntry :=
  [⟨"port", .num (.finite false ⟨8443, 4, by decide⟩)⟩, ⟨"name", .str "shop"⟩, ⟨"", .str ""⟩]

theorem parse_sync_portEntries :
    ((∀ e ∈ portEntries, e.key ≠ "" → e.value.finite = true ∧ printsPlain e.value = true ∧
        e.value.plainKeys = true ∧ arrayIndex e.key = none) ∧
      ((portEntries.filter (·.key ≠ "")).map (·.key)).Nodup) ∧
      ∃ members, parse (sync portEntries) = some (.object members) ∧
        denotesMembers ((portEntries.filter (·.key ≠ "")).map fun e => (e.key, e.value)) members =
          true :=
  ⟨⟨by decide, by decide⟩, parse_sync portEntries (by decide) (by decide)⟩

end AuraLogic.ConfigEditor
