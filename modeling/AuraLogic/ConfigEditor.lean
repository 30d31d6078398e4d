import AuraLogic.JsNumber
import AuraLogic.TransitionSystem

/-! The admin console's `ConfigEditor` (config-editor.tsx), which writes its entries back as JSON
text through `sync`, and the JavaScript built-ins it relies on: `JSON.stringify`, `String`,
`Number` (a string's reading is a parameter) and `JSON.parse`, which keeps each number's exact
literal value. -/

namespace AuraLogic.ConfigEditor

/-! ### Values and their JavaScript conversions -/

/-- A value an entry holds: what `JSON.parse` gives, or what an input of the editor writes. -/
inductive ConfigValue where
  | null
  | bool (b : Bool)
  | num (x : JsNumber)
  | str (s : String)
  | array (items : List ConfigValue)
  | object (members : List (String × ConfigValue))
  deriving Repr

structure ConfigEntry where
  key : String
  value : ConfigValue
  deriving Repr

mutual
/-- `String(v)`; an array joins its elements with commas, writing `null` as nothing. -/
def jsString : ConfigValue → String
  | .null => "null"
  | .bool b => if b then "true" else "false"
  | .num x => x.toString
  | .str s => s
  | .array items => joinItems items
  | .object _ => "[object Object]"

def joinItems : List ConfigValue → String
  | [] => ""
  | [v] => itemString v
  | v :: vs => itemString v ++ "," ++ joinItems vs

def itemString : ConfigValue → String
  | .null => ""
  | v => jsString v
end

/-- The reading of a string as a number (StringToNumber), which the model does not fix. -/
structure Js where
  stringToNumber : String → JsNumber

/-- `Number(v)`: an array or object is read through its string. -/
def toNumber (js : Js) : ConfigValue → JsNumber
  | .null => .zero false
  | .bool b => if b then JsNumber.one else .zero false
  | .num x => x
  | .str s => js.stringToNumber s
  | v => js.stringToNumber (jsString v)

def orZero : JsNumber → JsNumber
  | .nan => .zero false
  | .zero _ => .zero false
  | x => x

def detectType : ConfigValue → String
  | .bool _ => "boolean"
  | .num _ => "number"
  | _ => "string"

/-! ### JSON.stringify and sync -/

def escapeChar (c : Char) : List Char :=
  if c = '"' then ['\\', '"']
  else if c = '\\' then ['\\', '\\']
  else if c = '\x08' then ['\\', 'b']
  else if c = '\x0c' then ['\\', 'f']
  else if c = '\n' then ['\\', 'n']
  else if c = '\r' then ['\\', 'r']
  else if c = '\t' then ['\\', 't']
  else if c.toNat < 0x20 then
    ['\\', 'u', '0', '0', hexDigit (c.toNat / 16), hexDigit (c.toNat % 16)]
  else [c]

def quote (s : String) : List Char := '"' :: s.toList.flatMap escapeChar ++ ['"']

mutual
/-- `JSON.stringify(v)`: a number that is not finite is written `null`. -/
def stringify : ConfigValue → List Char
  | .null => "null".toList
  | .bool b => (if b then "true" else "false").toList
  | .num x =>
    match x with
    | .nan | .infinity _ => "null".toList
    | x => x.toString.toList
  | .str s => quote s
  | .array items => '[' :: stringifyItems items ++ [']']
  | .object members => '\x7b' :: stringifyMembers members ++ ['\x7d']

def stringifyItems : List ConfigValue → List Char
  | [] => []
  | [v] => stringify v
  | v :: vs => stringify v ++ ',' :: stringifyItems vs

def stringifyMembers : List (String × ConfigValue) → List Char
  | [] => []
  | [(k, v)] => quote k ++ ':' :: stringify v
  | (k, v) :: ms => quote k ++ ':' :: stringify v ++ ',' :: stringifyMembers ms
end

/-- `s.replace(/\.?0+$/, '')`: the trailing zeros, and a point just before them. -/
def stripZeros (s : List Char) : List Char :=
  match s.reverse with
  | '0' :: _ =>
    match s.reverse.dropWhile (· = '0') with
    | '.' :: rest => rest.reverse
    | rest => rest.reverse
  | _ => s

def numToPlain (n : JsNumber) : String :=
  let s := n.toString
  if 'e' ∉ s.toList ∧ 'E' ∉ s.toList then s
  else String.mk (stripZeros (n.toFixed 20).toList)

/-- Below `1e-21`, `toFixed(20)` rounds to zero, so `numToPlain` writes `0`. -/
theorem numToPlain_tiny (negative : Bool) {d : Decimal} (tiny : d.point ≤ -21) :
    numToPlain (.finite negative d) = if negative then "-0" else "0" := by
  have e := Decimal.e_mem_print (d := d) (.inl (by omega))
  have zero := Decimal.scaled_eq_zero (d := d) (f := 20) (by omega) (by norm_num)
  rw [numToPlain, if_neg (by cases negative <;> simp [JsNumber.toString, e])]
  cases negative <;> simp only [JsNumber.toFixed, zero, if_neg (show ¬ 22 ≤ d.point by omega)] <;> rfl

theorem numToPlain_ten_pow_minus_22 :
    (-21 : Int) ≤ -21 ∧ numToPlain (.finite false ⟨1, -21, by decide⟩) = "0" :=
  ⟨le_rfl, numToPlain_tiny false (d := ⟨1, -21, by decide⟩) le_rfl⟩

/-- One line of the text: a number through `numToPlain`, any other value through
`JSON.stringify`. -/
def entryLine (e : ConfigEntry) : List Char :=
  let v := match e.value with
    | .num x => (numToPlain x).toList
    | v => stringify v
  ' ' :: ' ' :: quote e.key ++ ':' :: ' ' :: v

/-- The text `sync` writes for the entries: one line per entry with a non-empty key. -/
def sync (next : List ConfigEntry) : String :=
  let lines := (next.filter (·.key ≠ "")).map entryLine
  if lines.length ≠ 0 then String.mk ('\x7b' :: '\n' :: [',', '\n'].intercalate lines ++ ['\n', '\x7d'])
  else "\x7b\x7d"

/-! ### Edits -/

inductive Edit where
  | rename (i : Nat) (key : String)
  | toggle (i : Nat) (b : Bool)
  | typeText (i : Nat) (s : String)
  | typeNumber (i : Nat) (raw : String)
  | changeType (i : Nat) (type : String)
  | remove (i : Nat)
  | add

def numberPattern (raw : List Char) : Bool :=
  let r := match raw with
    | '-' :: r => r
    | r => r
  let r := r.dropWhile Char.isDigit
  let r := match r with
    | '.' :: r => r
    | r => r
  (r.dropWhile Char.isDigit).isEmpty

/-- `changeType`: the value an entry gets when its type is switched. -/
def changeTypeValue (js : Js) (type : String) (cur : ConfigValue) : ConfigValue :=
  if type = "boolean" then
    .bool (match cur with
      | .str s => s = "true"
      | .bool b => b
      | _ => false)
  else if type = "number" then .num (orZero (toNumber js cur))
  else .str (jsString cur)

def updateEntry (entries : List ConfigEntry) (i : Nat) (f : ConfigEntry → ConfigEntry) :
    Option (List ConfigEntry) :=
  if i < entries.length then some (entries.modify f i) else none

/-- The list an edit hands to `sync`, or `none` when the edit changes no entry. -/
def edit (js : Js) (entries : List ConfigEntry) : Edit → Option (List ConfigEntry)
  | .rename i key => updateEntry entries i fun e => { e with key }
  | .toggle i b =>
    match entries[i]? with
    | some e =>
      if detectType e.value = "boolean" then updateEntry entries i fun e => { e with value := .bool b }
      else none
    | none => none
  | .typeText i s =>
    match entries[i]? with
    | some e =>
      if detectType e.value = "string" then updateEntry entries i fun e => { e with value := .str s }
      else none
    | none => none
  | .typeNumber i raw =>
    match entries[i]? with
    | some e =>
      let n := js.stringToNumber raw
      if detectType e.value = "number" ∧ raw ≠ "" ∧ numberPattern raw.toList ∧ n ≠ .nan then
        updateEntry entries i fun e => { e with value := .num n }
      else none
    | none => none
  | .changeType i type => updateEntry entries i fun e => { e with value := changeTypeValue js type e.value }
  | .remove i => if i < entries.length then some (entries.eraseIdx i) else none
  | .add => some (entries ++ [⟨"", .str ""⟩])

mutual
/-- A value `JSON.parse` can give: its numbers are finite. -/
def ConfigValue.finite : ConfigValue → Bool
  | .num x => x ≠ .nan ∧ ∀ negative, x ≠ .infinity negative
  | .array items => finiteItems items
  | .object members => finiteMembers members
  | _ => true

def finiteItems : List ConfigValue → Bool
  | [] => true
  | v :: vs => v.finite && finiteItems vs

def finiteMembers : List (String × ConfigValue) → Bool
  | [] => true
  | (_, v) :: ms => v.finite && finiteMembers ms
end

/-- The entry lists the editor holds: `Object.entries` of a parsed JSON value, then edits. -/
abbrev Reachable (js : Js) : List ConfigEntry → Prop :=
  Reach (fun entries => (entries.map (·.key)).Nodup ∧ entries.all (·.value.finite)) (edit js)

/-! ### JSON.parse -/

structure JsonNumber where
  mantissa : Int
  exponent : Int
  deriving DecidableEq, Repr

def JsonNumber.sameValue (a b : JsonNumber) : Bool :=
  if a.exponent ≤ b.exponent then a.mantissa = b.mantissa * 10 ^ (b.exponent - a.exponent).toNat
  else a.mantissa * 10 ^ (a.exponent - b.exponent).toNat = b.mantissa

inductive JsonValue where
  | null
  | bool (b : Bool)
  | number (n : JsonNumber)
  | string (s : String)
  | array (items : List JsonValue)
  | object (members : List (String × JsonValue))
  deriving Repr

def skipWs : List Char → List Char
  | c :: cs => if c = ' ' ∨ c = '\t' ∨ c = '\n' ∨ c = '\r' then skipWs cs else c :: cs
  | [] => []

def digitValue (ds : List Char) : Nat := ds.foldl (fun n c => 10 * n + (c.toNat - 48)) 0

def parseFraction : List Char → Option (List Char × List Char)
  | '.' :: rest =>
    let (ds, rest) := rest.span Char.isDigit
    if ds = [] then none else some (ds, rest)
  | cs => some ([], cs)

def parseExponent : List Char → Option (Int × List Char)
  | c :: rest =>
    if c = 'e' ∨ c = 'E' then
      let (negative, rest) := match rest with
        | '-' :: r => (true, r)
        | '+' :: r => (false, r)
        | r => (false, r)
      let (ds, rest) := rest.span Char.isDigit
      if ds = [] then none
      else some (if negative then -(digitValue ds : Int) else digitValue ds, rest)
    else some (0, c :: rest)
  | [] => some (0, [])

def parseSign : List Char → Bool × List Char
  | '-' :: rest => (true, rest)
  | cs => (false, cs)

/-- A number literal: `-? (0 | [1-9][0-9]*)`, then its fraction and exponent. -/
def parseNumber (cs : List Char) : Option (JsonNumber × List Char) :=
  let (negative, cs) := parseSign cs
  let (whole, cs) := cs.span Char.isDigit
  if whole = [] ∨ (whole.head? = some '0' ∧ whole.length ≠ 1) then none
  else
    match parseFraction cs with
    | none => none
    | some (fraction, cs) =>
      match parseExponent cs with
      | none => none
      | some (exponent, cs) =>
        let m : Int := digitValue (whole ++ fraction)
        some (⟨if negative then -m else m, exponent - fraction.length⟩, cs)

def hexValue (c : Char) : Option Nat :=
  if c.isDigit then some (c.toNat - 48)
  else if 'a' ≤ c ∧ c ≤ 'f' then some (c.toNat - 87)
  else if 'A' ≤ c ∧ c ≤ 'F' then some (c.toNat - 55)
  else none

def hex4 (a b c d : Char) : Option Nat := do
  pure ((((← hexValue a) * 16 + (← hexValue b)) * 16 + (← hexValue c)) * 16 + (← hexValue d))

def parseStringBody : List Char → Option (List Char × List Char)
  | '"' :: rest => some ([], rest)
  | '\\' :: 'u' :: a :: b :: c :: d :: rest =>
    match hex4 a b c d with
    | none => none
    | some u =>
      if 0xD800 ≤ u ∧ u < 0xDC00 then
        match rest with
        | '\\' :: 'u' :: e :: f :: g :: h :: rest' =>
          match hex4 e f g h with
          | some l =>
            if 0xDC00 ≤ l ∧ l < 0xE000 then
              (parseStringBody rest').map fun (s, r) =>
                (Char.ofNat (0x10000 + (u - 0xD800) * 0x400 + (l - 0xDC00)) :: s, r)
            else none
          | none => none
        | _ => none
      else if 0xDC00 ≤ u ∧ u < 0xE000 then none
      else (parseStringBody rest).map fun (s, r) => (Char.ofNat u :: s, r)
  | '\\' :: c :: rest =>
    let unescaped := match c with
      | '"' => some '"'
      | '\\' => some '\\'
      | '/' => some '/'
      | 'b' => some '\x08'
      | 'f' => some '\x0c'
      | 'n' => some '\n'
      | 'r' => some '\r'
      | 't' => some '\t'
      | _ => none
    match unescaped with
    | some c => (parseStringBody rest).map fun (s, r) => (c :: s, r)
    | none => none
  | c :: rest =>
    if c.toNat < 0x20 then none else (parseStringBody rest).map fun (s, r) => (c :: s, r)
  | [] => none

/-- An array index, which an object lists before its other keys: the canonical decimal text of
a number below `2 ^ 32 - 1`. -/
def arrayIndex (k : String) : Option Nat :=
  let ds := k.toList
  if ds ≠ [] ∧ ds.all Char.isDigit ∧ (ds.head? = some '0' → ds = ['0']) ∧
      digitValue ds < 2 ^ 32 - 1 then some (digitValue ds)
  else none

def setProperty {α : Type} (props : List (String × α)) (k : String) (v : α) :
    List (String × α) :=
  if props.any (·.1 = k) then props.map fun p => if p.1 = k then (k, v) else p
  else props ++ [(k, v)]

/-- The object `JSON.parse` builds from members in text order, with its keys in the order an
object lists them: the array indices in increasing order, then the other keys as created. -/
def objectOf {α : Type} (members : List (String × α)) : List (String × α) :=
  let props := members.foldl (fun props m => setProperty props m.1 m.2) []
  (props.filter fun p => (arrayIndex p.1).isSome).insertionSort
      (fun a b => (arrayIndex a.1).getD 0 ≤ (arrayIndex b.1).getD 0) ++
    props.filter fun p => (arrayIndex p.1).isNone

mutual
def parseValue : Nat → List Char → Option (JsonValue × List Char)
  | 0, _ => none
  | fuel + 1, cs =>
    match skipWs cs with
    | 'n' :: 'u' :: 'l' :: 'l' :: rest => some (.null, rest)
    | 't' :: 'r' :: 'u' :: 'e' :: rest => some (.bool true, rest)
    | 'f' :: 'a' :: 'l' :: 's' :: 'e' :: rest => some (.bool false, rest)
    | '"' :: rest => (parseStringBody rest).map fun (s, r) => (.string (String.mk s), r)
    | '[' :: rest =>
      match skipWs rest with
      | ']' :: r => some (.array [], r)
      | _ => (parseItems fuel rest).map fun (vs, r) => (.array vs, r)
    | '\x7b' :: rest =>
      match skipWs rest with
      | '\x7d' :: r => some (.object [], r)
      | _ => (parseMembers fuel rest).map fun (ms, r) => (.object (objectOf ms), r)
    | cs => (parseNumber cs).map fun (n, r) => (.number n, r)

def parseItems : Nat → List Char → Option (List JsonValue × List Char)
  | 0, _ => none
  | fuel + 1, cs =>
    match parseValue fuel cs with
    | none => none
    | some (v, r) =>
      match skipWs r with
      | ',' :: r => (parseItems fuel r).map fun (vs, r) => (v :: vs, r)
      | ']' :: r => some ([v], r)
      | _ => none

def parseMembers : Nat → List Char → Option (List (String × JsonValue) × List Char)
  | 0, _ => none
  | fuel + 1, cs =>
    match skipWs cs with
    | '"' :: rest =>
      match parseStringBody rest with
      | none => none
      | some (k, r) =>
        match skipWs r with
        | ':' :: r =>
          match parseValue fuel r with
          | none => none
          | some (v, r) =>
            match skipWs r with
            | ',' :: r => (parseMembers fuel r).map fun (ms, r) => ((String.mk k, v) :: ms, r)
            | '\x7d' :: r => some ([(String.mk k, v)], r)
            | _ => none
        | _ => none
    | _ => none
end

/-- `JSON.parse(text)`, or `none` where it throws. Every call consumes a character, so the
text's length is fuel enough. -/
def parse (text : String) : Option JsonValue :=
  match parseValue (text.length + 1) text.toList with
  | some (v, rest) => if skipWs rest = [] then some v else none
  | none => none

/-! ### Values against parsed values -/

def exactValue : JsNumber → Option JsonNumber
  | .zero _ => some ⟨0, 0⟩
  | .finite negative d =>
    some ⟨if negative then -(d.digits : Int) else d.digits, d.point - d.width⟩
  | _ => none

mutual
/-- A parsed value equal to an entry's value, numbers compared by their value. -/
def denotes : ConfigValue → JsonValue → Bool
  | .null, .null => true
  | .bool a, .bool b => a == b
  | .num x, .number n =>
    match exactValue x with
    | some m => m.sameValue n
    | none => false
  | .str s, .string t => s == t
  | .array xs, .array ys => denotesItems xs ys
  | .object ms, .object ns => denotesMembers ms ns
  | _, _ => false

def denotesItems : List ConfigValue → List JsonValue → Bool
  | [], [] => true
  | x :: xs, y :: ys => denotes x y && denotesItems xs ys
  | _, _ => false

def denotesMembers : List (String × ConfigValue) → List (String × JsonValue) → Bool
  | [], [] => true
  | (k, x) :: ms, (k', y) :: ns => k == k' && denotes x y && denotesMembers ms ns
  | _, _ => false
end

/-! ### A number sync rewrites -/

def e30 : JsNumber := .finite false ⟨1, 31, by decide⟩

def bigEntries : List ConfigEntry := [⟨"a", .num e30⟩, ⟨"", .str ""⟩]

theorem bigEntries_reachable (js : Js) : Reachable js bigEntries :=
  have loaded : Reachable js [⟨"a", .num e30⟩] := Reach.init ⟨by decide, by decide⟩
  loaded.step .add rfl

theorem sync_bigEntries : sync bigEntries = "\x7b\n  \"a\": 1e+3\n\x7d" := by decide

theorem sync_rewrites_large_number (js : Js) :
    Reachable js bigEntries ∧ (bigEntries.map (·.key)).Nodup ∧
      parse (sync bigEntries) = some (.object [("a", .number ⟨1, 3⟩)]) ∧
      denotes (.num e30) (.number ⟨1, 3⟩) = false :=
  ⟨bigEntries_reachable js, by decide, by rw [sync_bigEntries]; rfl, by decide⟩

end AuraLogic.ConfigEditor
