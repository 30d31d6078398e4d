import AuraLogic.Models
import Mathlib.Data.List.Infix
import Mathlib.Logic.Function.Basic

/-! The HTTP host functions of the delivery-script sandbox: `extractHeaders`, the request
`doHTTPRequest` builds, and the value it hands back. Go's header canonicalization and
`strings.EqualFold` are written out over code points; `net/url`, the SSRF check, `encoding/json`
and the network are given by `HttpEnv`. -/

namespace AuraLogic.ScriptHttp

/-! ### Header keys -/

def isSpace (c : Char) : Bool :=
  let r := c.toNat
  if r ≤ 0xFF then
    r = 0x09 || r = 0x0A || r = 0x0B || r = 0x0C || r = 0x0D || r = 0x20 || r = 0x85 || r = 0xA0
  else
    r = 0x1680 || (0x2000 ≤ r && r ≤ 0x200A) || r = 0x2028 || r = 0x2029 || r = 0x202F ||
      r = 0x205F || r = 0x3000

def trimSpace (s : String) : String :=
  String.mk ((s.toList.dropWhile isSpace).reverse.dropWhile isSpace).reverse

def hasPrefix (s pre : String) : Bool := pre.toList.isPrefixOf s.toList

/-- The punctuation of an RFC 7230 token, the apostrophe and the backtick included. -/
def tokenPunctuation : List Char := "!#$%&*+-.^_|~".toList ++ [Char.ofNat 39, Char.ofNat 96]

/-- `validHeaderFieldByte`: an ASCII letter or digit, or token punctuation. -/
def validHeaderFieldByte (c : Char) : Bool :=
  ('0'.toNat ≤ c.toNat && c.toNat ≤ '9'.toNat) || ('a'.toNat ≤ c.toNat && c.toNat ≤ 'z'.toNat) ||
    ('A'.toNat ≤ c.toNat && c.toNat ≤ 'Z'.toNat) || c ∈ tokenPunctuation

def canonChar (upper : Bool) (c : Char) : Char :=
  if upper && 'a'.toNat ≤ c.toNat && c.toNat ≤ 'z'.toNat then Char.ofNat (c.toNat - 32)
  else if !upper && 'A'.toNat ≤ c.toNat && c.toNat ≤ 'Z'.toNat then Char.ofNat (c.toNat + 32)
  else c

def canonicalize (upper : Bool) : List Char → List Char
  | [] => []
  | c :: cs => canonChar upper c :: canonicalize (canonChar upper c = '-') cs

/-- `textproto.CanonicalMIMEHeaderKey`: a key with a byte outside the token set, a space
or any non-ASCII byte, is returned unchanged. -/
def canonicalMIMEHeaderKey (s : String) : String :=
  if s.toList.all validHeaderFieldByte then String.mk (canonicalize true s.toList) else s

theorem toNat_ofNat_of_lt {n : Nat} (small : n < 0xD800) : (Char.ofNat n).toNat = n := by
  simp only [Char.ofNat, Nat.isValidChar, show n < 0xd800 from small, true_or, dite_true]; rfl

theorem eq_of_toNat_eq {c d : Char} (same : c.toNat = d.toNat) : c = d :=
  Char.ext (UInt32.eq_of_toBitVec_eq (BitVec.eq_of_toNat_eq same))

theorem validHeaderFieldByte_iff (c : Char) :
    validHeaderFieldByte c ↔ (48 ≤ c.toNat ∧ c.toNat ≤ 57) ∨ (97 ≤ c.toNat ∧ c.toNat ≤ 122) ∨
      (65 ≤ c.toNat ∧ c.toNat ≤ 90) ∨ c ∈ tokenPunctuation := by
  simp only [validHeaderFieldByte, Bool.or_eq_true, Bool.and_eq_true, decide_eq_true_eq,
    Char.reduceToNat, or_assoc]

theorem validHeaderFieldByte_ascii {c : Char} (valid : validHeaderFieldByte c) :
    c.toNat < 0x80 := by
  have punct : ∀ p ∈ tokenPunctuation, p.toNat < 0x80 := by decide
  rcases (validHeaderFieldByte_iff c).1 valid with _ | _ | _ | mem
  any_goals omega
  exact punct c mem

theorem toNat_canonChar (upper : Bool) (c : Char) :
    (canonChar upper c).toNat =
      if upper ∧ 97 ≤ c.toNat ∧ c.toNat ≤ 122 then c.toNat - 32
      else if !upper ∧ 65 ≤ c.toNat ∧ c.toNat ≤ 90 then c.toNat + 32 else c.toNat := by
  unfold canonChar
  split_ifs <;> simp_all <;> rw [toNat_ofNat_of_lt (by omega)]

theorem canonChar_valid (upper : Bool) {c : Char} (valid : validHeaderFieldByte c) :
    validHeaderFieldByte (canonChar upper c) := by
  have code := toNat_canonChar upper c
  split_ifs at code
  · rw [validHeaderFieldByte_iff]; omega
  · rw [validHeaderFieldByte_iff]; omega
  · rwa [eq_of_toNat_eq code]

theorem canonicalize_valid (upper : Bool) {s : List Char} (valid : s.all validHeaderFieldByte) :
    (canonicalize upper s).all validHeaderFieldByte := by
  induction s generalizing upper with
  | nil => rfl
  | cons c s ih =>
    simp only [List.all_cons, Bool.and_eq_true] at valid
    simp only [canonicalize, List.all_cons, Bool.and_eq_true]
    exact ⟨canonChar_valid upper valid.1, ih _ valid.2⟩

@[simp] theorem canonical_userAgent : canonicalMIMEHeaderKey "User-Agent" = "User-Agent" := by
  decide

@[simp] theorem canonical_contentType :
    canonicalMIMEHeaderKey "Content-Type" = "Content-Type" := by decide

@[simp] theorem canonical_host : canonicalMIMEHeaderKey "Host" = "Host" := by decide

@[simp] theorem canonical_proxyAuthorization :
    canonicalMIMEHeaderKey "Proxy-Authorization" = "Proxy-Authorization" := by decide

/-! ### `strings.EqualFold` -/

section Fold

/- `fold r t` holds when the `unicode.SimpleFold` orbit of `r` reaches `t` before passing
it. -/
variable (fold : Char → Char → Bool)

/-- One rune pair of `strings.EqualFold`: equal, an ASCII case pair, or, past ASCII, in one
`SimpleFold` orbit. -/
def runeEqualFold (sr tr : Char) : Bool :=
  if tr = sr then true
  else
    let (sr, tr) := if tr.toNat < sr.toNat then (tr, sr) else (sr, tr)
    if tr.toNat < 0x80 then
      'A'.toNat ≤ sr.toNat && sr.toNat ≤ 'Z'.toNat && tr.toNat = sr.toNat + ('a'.toNat - 'A'.toNat)
    else fold sr tr

def equalFoldRunes : List Char → List Char → Bool
  | [], [] => true
  | sr :: s, tr :: t => runeEqualFold fold sr tr && equalFoldRunes s t
  | _, _ => false

def equalFold (s t : String) : Bool := equalFoldRunes fold s.toList t.toList

/-- The script headers `doHTTPRequest` skips. -/
def ignoredHeader (k : String) : Bool :=
  equalFold fold k "Host" || equalFold fold k "Proxy-Authorization"

theorem runeEqualFold_of_canonChar {upper : Bool} {c d : Char}
    (vc : validHeaderFieldByte c) (vd : validHeaderFieldByte d)
    (same : canonChar upper c = canonChar upper d) : runeEqualFold fold c d := by
  have ac := validHeaderFieldByte_ascii vc
  have ad := validHeaderFieldByte_ascii vd
  have codes := congrArg Char.toNat same
  rw [toNat_canonChar, toNat_canonChar] at codes
  by_cases eq : d = c
  · simp [runeEqualFold, eq]
  have ne : d.toNat ≠ c.toNat := fun h => eq (eq_of_toNat_eq h)
  -- two different ASCII bytes with one canonical form are a letter in its two cases
  have letters : (65 ≤ c.toNat ∧ c.toNat ≤ 90 ∧ d.toNat = c.toNat + 32) ∨
      (65 ≤ d.toNat ∧ d.toNat ≤ 90 ∧ c.toNat = d.toNat + 32) := by
    cases upper <;> simp only [Bool.false_eq_true, Bool.true_eq_false, false_and, true_and,
      Bool.not_false, Bool.not_true, if_false] at codes <;> split_ifs at codes <;> omega
  simp only [runeEqualFold, eq, if_false, Char.reduceToNat]
  rcases letters with ⟨lo, hi, rel⟩ | ⟨lo, hi, rel⟩
  · simp [show ¬ d.toNat < c.toNat by omega, show c.toNat + 32 < 128 by omega, lo, hi, rel]
  · simp [show d.toNat < c.toNat by omega, show d.toNat + 32 < 128 by omega, lo, hi, rel]

theorem equalFoldRunes_refl (s : List Char) : equalFoldRunes fold s s := by
  induction s with
  | nil => rfl
  | cons c s ih => simp [equalFoldRunes, runeEqualFold, ih]

theorem equalFoldRunes_of_canonicalize {upper : Bool} {s t : List Char}
    (vs : s.all validHeaderFieldByte) (vt : t.all validHeaderFieldByte)
    (same : canonicalize upper s = canonicalize upper t) : equalFoldRunes fold s t := by
  induction s generalizing upper t with
  | nil => cases t with
    | nil => rfl
    | cons => simp [canonicalize] at same
  | cons c s ih => cases t with
    | nil => simp [canonicalize] at same
    | cons d t =>
      simp only [canonicalize, List.cons.injEq] at same
      simp only [List.all_cons, Bool.and_eq_true] at vs vt
      obtain ⟨head, tail⟩ := same
      rw [head] at tail
      simp only [equalFoldRunes, Bool.and_eq_true]
      exact ⟨runeEqualFold_of_canonChar fold vs.1 vt.1 head, ih vs.2 vt.2 tail⟩

/-- Two keys `Header.Set` files under one canonical key are equal under `strings.EqualFold`:
canonicalization only changes the case of ASCII letters. -/
theorem equalFold_of_canonical_eq {s t : String}
    (same : canonicalMIMEHeaderKey s = canonicalMIMEHeaderKey t) : equalFold fold s t := by
  unfold canonicalMIMEHeaderKey at same
  unfold equalFold
  split_ifs at same with vs vt vt
  · exact equalFoldRunes_of_canonicalize fold vs vt (congrArg String.data same)
  · subst same; exact absurd (canonicalize_valid true vs) vt
  · subst same; exact absurd (canonicalize_valid true vt) vs
  · subst same; exact equalFoldRunes_refl fold _

theorem kept_not_hop {k : String} (kept : ignoredHeader fold k = false) :
    ¬(canonicalMIMEHeaderKey k = "Host" ∨ canonicalMIMEHeaderKey k = "Proxy-Authorization") := by
  rintro (same | same)
  · have := equalFold_of_canonical_eq fold (same.trans canonical_host.symm)
    simp [ignoredHeader, this] at kept
  · have := equalFold_of_canonical_eq fold (same.trans canonical_proxyAuthorization.symm)
    simp [ignoredHeader, this] at kept

end Fold

/-! ### Headers, requests and the script's arguments -/

abbrev Header := String → Option String

def Header.set (h : Header) (k v : String) : Header :=
  Function.update h (canonicalMIMEHeaderKey k) (some v)

def Header.get (h : Header) (k : String) : Option String := h (canonicalMIMEHeaderKey k)

theorem Header.set_apply (h : Header) (k v key : String) :
    h.set k v key = if key = canonicalMIMEHeaderKey k then some v else h key := by
  simp [Header.set, Function.update_apply]

structure Request where
  method : String
  url : String
  body : Option String
  header : Header

structure Response where
  statusCode : Int
  header : Header
  body : List UInt8
  readError : Option String

/-- The library functions `doHTTPRequest` calls, as the deployment provides them. -/
structure HttpEnv where
  parseURL : String → Except String String
  /-- `validateExternalURL`, declared outside the source: whether the URL may be fetched. -/
  urlAllowed : String → Bool
  marshal : GoValue → Except String String
  newRequestError : String → String → Option String
  unmarshal : List UInt8 → Option GoValue
  decode : List UInt8 → String

/-- A call argument: what `Value.String()` and `Value.Export()` give for it. -/
structure Arg where
  str : String
  val : GoValue

def stringProperty : String × GoValue → Option (String × String)
  | (k, .string v) => some (k, v)
  | _ => none

/-- `extractHeaders`: the string-valued properties of the argument at `idx`, when it exports
to a map. -/
def extractHeaders (args : List GoValue) (idx : Nat) : List (String × String) :=
  match args[idx]? with
  | some (.map entries) => entries.filterMap stringProperty
  | _ => []

theorem mem_stringProperty {p : String × GoValue} {q : String × String}
    (mem : q ∈ stringProperty p) : p = (q.1, .string q.2) := by
  obtain ⟨k, v⟩ := p
  cases v <;> simp [stringProperty] at mem
  subst mem; rfl

section Extract

variable {args : List GoValue} {idx : Nat} {entries : List (String × GoValue)}

theorem mem_extractHeaders (object : args[idx]? = some (.map entries)) {k v : String} :
    (k, v) ∈ extractHeaders args idx ↔ (k, .string v) ∈ entries := by
  simp only [extractHeaders, object, List.mem_filterMap]
  constructor
  · rintro ⟨p, mem, found⟩
    obtain rfl := mem_stringProperty found
    exact mem
  · exact fun mem => ⟨_, mem, rfl⟩

theorem extractHeaders_keys (fold : Char → Char → Bool)
    (object : args[idx]? = some (.map entries))
    (distinct : entries.Pairwise fun a b => equalFold fold a.1 b.1 = false) :
    (extractHeaders args idx).Pairwise
      fun a b => canonicalMIMEHeaderKey a.1 ≠ canonicalMIMEHeaderKey b.1 := by
  simp only [extractHeaders, object]
  refine distinct.filterMap _ fun p p' apart q found q' found' same => ?_
  rw [mem_stringProperty found, mem_stringProperty found'] at apart
  simp [equalFold_of_canonical_eq fold same] at apart

end Extract

/-! ### The body and the default headers -/

def userAgent : String := "AuraLogic-ScriptDelivery/1.0"

def stringBodyContentType (v : String) : String :=
  if hasPrefix (trimSpace v) "\x7b" || hasPrefix (trimSpace v) "[" then "application/json"
  else "text/plain"

/-- The `Content-Type` the spec gives a body: none without one, JSON for a non-string value
or a string starting with a brace or bracket once trimmed, plain text for other strings. -/
def inferredContentType : GoValue → Option String
  | .nil => none
  | .string v => some (stringBodyContentType v)
  | _ => some "application/json"

def prepareBody (env : HttpEnv) : GoValue → Except String (Option (String × String))
  | .nil => .ok none
  | .string v => .ok (some (v, stringBodyContentType v))
  | v => match env.marshal v with
    | .ok json => .ok (some (json, "application/json"))
    | .error e => .error ("Failed to encode body: " ++ e)

theorem contentType_of_prepareBody {env : HttpEnv} {body : GoValue}
    {prepared : Option (String × String)} (ok : prepareBody env body = .ok prepared) :
    prepared.map (·.2) = inferredContentType body := by
  cases body <;> simp only [prepareBody] at ok <;> try (split at ok <;> cases ok)
  all_goals first | (cases ok; rfl) | rfl

theorem inferredContentType_ne_empty (body : GoValue) : inferredContentType body ≠ some "" := by
  cases body <;> simp only [inferredContentType, stringBodyContentType] <;> try split
  all_goals decide

/-- The headers `doHTTPRequest` sets before the script's: `User-Agent`, and the inferred
`Content-Type` unless the script's map has a non-empty entry under exactly that key. -/
def defaultHeader (contentType : String) (headers : List (String × String)) : Header :=
  let h := Header.set (fun _ => none) "User-Agent" userAgent
  if contentType ≠ "" ∧ (headers.lookup "Content-Type").getD "" = "" then
    h.set "Content-Type" contentType else h

theorem defaultHeader_cases {contentType key v : String} {headers : List (String × String)}
    (found : defaultHeader contentType headers key = some v) :
    (key = "User-Agent" ∧ v = userAgent) ∨
      (key = "Content-Type" ∧ v = contentType ∧ contentType ≠ "") := by
  unfold defaultHeader at found
  split_ifs at found <;> simp only [Header.set_apply, canonical_userAgent, canonical_contentType] at found <;>
    split_ifs at found <;> simp_all

theorem defaultHeader_userAgent (contentType : String) (headers : List (String × String)) :
    defaultHeader contentType headers "User-Agent" = some userAgent := by
  unfold defaultHeader
  split_ifs <;> simp [Header.set_apply]

theorem defaultHeader_contentType {contentType : Option String} {headers : List (String × String)}
    (nonempty : contentType ≠ some "") (absent : headers.lookup "Content-Type" = none) :
    defaultHeader (contentType.getD "") headers "Content-Type" = contentType := by
  unfold defaultHeader
  rw [absent]
  cases contentType <;> simp_all [Header.set_apply]

theorem lookup_eq_none {l : List (String × String)} {key : String}
    (absent : ∀ p ∈ l, p.1 ≠ key) : l.lookup key = none := by
  induction l with
  | nil => rfl
  | cons p l ih =>
    obtain ⟨k, v⟩ := p
    have ne : (key == k) = false := by simpa using (absent (k, v) (.head _)).symm
    simp only [List.lookup_cons, ne, ih fun q mem => absent q (.tail _ mem)]

/-! ### The header loop -/

/-- The loop of `doHTTPRequest` that copies the script's headers, in map iteration order. -/
def applyHeaders (fold : Char → Char → Bool) (h : Header) : List (String × String) → Header
  | [] => h
  | (k, v) :: rest => applyHeaders fold (if ignoredHeader fold k then h else h.set k v) rest

section Apply

variable (fold : Char → Char → Bool)

theorem applyHeaders_of_forall_ne {h : Header} {key : String} {l : List (String × String)}
    (none_set : ∀ p ∈ l, ignoredHeader fold p.1 = false → canonicalMIMEHeaderKey p.1 ≠ key) :
    applyHeaders fold h l key = h key := by
  induction l generalizing h with
  | nil => rfl
  | cons p l ih =>
    obtain ⟨k, v⟩ := p
    rw [applyHeaders, ih fun q mem => none_set q (.tail _ mem)]
    split_ifs with ignored
    · rfl
    · have ne := none_set _ (.head _) (by simpa using ignored)
      simp only [Header.set_apply, if_neg (Ne.symm ne)]

theorem applyHeaders_of_mem {h : Header} {l : List (String × String)} {k v : String}
    (keys : l.Pairwise fun a b => canonicalMIMEHeaderKey a.1 ≠ canonicalMIMEHeaderKey b.1)
    (mem : (k, v) ∈ l) (kept : ignoredHeader fold k = false) :
    applyHeaders fold h l (canonicalMIMEHeaderKey k) = some v := by
  induction l generalizing h with
  | nil => cases mem
  | cons p l ih =>
    obtain ⟨k', v'⟩ := p
    rw [List.pairwise_cons] at keys
    rw [applyHeaders]
    rcases List.mem_cons.1 mem with same | mem
    · obtain ⟨rfl, rfl⟩ := Prod.mk.inj same
      rw [applyHeaders_of_forall_ne fold fun q mem _ => (keys.1 q mem).symm]
      simp [kept, Header.set_apply]
    · exact ih keys.2 mem

theorem applyHeaders_cases {h : Header} {l : List (String × String)} {key v : String}
    (found : applyHeaders fold h l key = some v) :
    (∃ k, (k, v) ∈ l ∧ ignoredHeader fold k = false ∧ canonicalMIMEHeaderKey k = key) ∨
      h key = some v := by
  induction l generalizing h with
  | nil => exact .inr found
  | cons p l ih =>
    obtain ⟨k', v'⟩ := p
    rcases ih found with ⟨k, mem, kept, canon⟩ | earlier
    · exact .inl ⟨k, .tail _ mem, kept, canon⟩
    split_ifs at earlier with ignored
    · exact .inr earlier
    rw [Header.set_apply] at earlier
    split_ifs at earlier with at_key
    · simp only [Option.some.injEq] at earlier
      exact .inl ⟨k', by simp [earlier], by simpa using ignored, at_key.symm⟩
    · exact .inr earlier

end Apply

/-! ### The request -/

/-- The request `doHTTPRequest` builds before `client.Do`, or the error text it returns.
`headers` is the map `extractHeaders` returns, listed in the order the loop visits it. -/
def buildRequest (env : HttpEnv) (fold : Char → Char → Bool) (method urlStr : String)
    (body : GoValue) (headers : List (String × String)) : Except String Request := do
  let url ← match env.parseURL urlStr with
    | .ok url => pure url
    | .error e => throw ("Invalid URL: " ++ e)
  if !env.urlAllowed url then throw "URL is not allowed"
  let prepared ← prepareBody env body
  if let some e := env.newRequestError method url then throw ("Failed to create request: " ++ e)
  let contentType := (prepared.map (·.2)).getD ""
  pure ⟨method, url, prepared.map (·.1), applyHeaders fold (defaultHeader contentType headers) headers⟩

theorem buildRequest_header {env : HttpEnv} {fold : Char → Char → Bool} {method urlStr : String}
    {body : GoValue} {headers : List (String × String)} {req : Request}
    (built : buildRequest env fold method urlStr body headers = .ok req) :
    ∃ prepared, prepareBody env body = .ok prepared ∧
      req.header = applyHeaders fold (defaultHeader ((prepared.map (·.2)).getD "") headers) headers := by
  unfold buildRequest at built
  cases parsed : env.parseURL urlStr <;> simp only [parsed] at built
  · cases built
  simp only [pure_bind] at built
  split at built
  · cases built
  cases prepared : prepareBody env body <;> simp only [prepared, pure_bind] at built
  · cases built
  split at built <;> cases built
  exact ⟨_, rfl, rfl⟩

/-- The headers of the request `doHTTPRequest` builds, whatever order the loop visits the
script's headers object in, when its property names are pairwise distinct under
`strings.EqualFold`. -/
theorem buildRequest_carries_script_headers {env : HttpEnv} {fold : Char → Char → Bool}
    {method urlStr : String} {body : GoValue} {args : List GoValue} {idx : Nat}
    {entries : List (String × GoValue)} {headers : List (String × String)} {req : Request}
    (object : args[idx]? = some (.map entries))
    (distinct : entries.Pairwise fun a b => equalFold fold a.1 b.1 = false)
    (iteration : headers.Perm (extractHeaders args idx))
    (built : buildRequest env fold method urlStr body headers = .ok req) :
    (∀ k v, (k, .string v) ∈ entries → ignoredHeader fold k = false →
      req.header.get k = some v) ∧
    (∀ key v, req.header key = some v →
      (∃ k, (k, .string v) ∈ entries ∧ ignoredHeader fold k = false ∧
        canonicalMIMEHeaderKey k = key) ∨
      (key = "User-Agent" ∧ v = userAgent) ∨
      (key = "Content-Type" ∧ inferredContentType body = some v)) ∧
    req.header "Host" = none ∧ req.header "Proxy-Authorization" = none ∧
    ((∀ k v, (k, .string v) ∈ entries → canonicalMIMEHeaderKey k ≠ "User-Agent") →
      req.header "User-Agent" = some userAgent) ∧
    ((∀ k v, (k, .string v) ∈ entries → canonicalMIMEHeaderKey k ≠ "Content-Type") →
      req.header "Content-Type" = inferredContentType body) := by
  obtain ⟨prepared, prepared_ok, header⟩ := buildRequest_header built
  rw [contentType_of_prepareBody prepared_ok] at header
  have mem : ∀ {k v}, (k, v) ∈ headers ↔ (k, GoValue.string v) ∈ entries :=
    iteration.mem_iff.trans (mem_extractHeaders object)
  have keys := (iteration.pairwise_iff Ne.symm).2 (extractHeaders_keys fold object distinct)
  have attributed : ∀ key v, req.header key = some v →
      (∃ k, (k, .string v) ∈ entries ∧ ignoredHeader fold k = false ∧
        canonicalMIMEHeaderKey k = key) ∨
      (key = "User-Agent" ∧ v = userAgent) ∨
      (key = "Content-Type" ∧ inferredContentType body = some v) := by
    intro key v found
    rw [header] at found
    rcases applyHeaders_cases fold found with ⟨k, kmem, kept, canon⟩ | default
    · exact .inl ⟨k, mem.1 kmem, kept, canon⟩
    rcases defaultHeader_cases default with ⟨rfl, rfl⟩ | ⟨rfl, rfl, given⟩
    · exact .inr (.inl ⟨rfl, rfl⟩)
    · exact .inr (.inr ⟨rfl, by revert given; cases inferredContentType body <;> simp⟩)
  have hop_free : ∀ key, key = "Host" ∨ key = "Proxy-Authorization" → req.header key = none := by
    intro key hop
    cases found : req.header key with
    | none => rfl
    | some v =>
      rcases attributed key v found with ⟨k, -, kept, rfl⟩ | ⟨rfl, -⟩ | ⟨rfl, -⟩
      · exact absurd hop (kept_not_hop fold kept)
      all_goals simp at hop
  have untouched : ∀ key, (∀ k v, (k, .string v) ∈ entries → canonicalMIMEHeaderKey k ≠ key) →
      req.header key = defaultHeader ((inferredContentType body).getD "") headers key := by
    intro key none_set
    rw [header, applyHeaders_of_forall_ne fold fun p pmem _ => none_set p.1 p.2 (mem.1 pmem)]
  refine ⟨fun k v kmem kept => ?_, attributed, hop_free _ (.inl rfl), hop_free _ (.inr rfl),
    fun none_set => ?_, fun none_set => ?_⟩
  · rw [Header.get, header]
    exact applyHeaders_of_mem fold keys (mem.2 kmem) kept
  · rw [untouched _ none_set, defaultHeader_userAgent]
  · rw [untouched _ none_set]
    refine defaultHeader_contentType (inferredContentType_ne_empty body) (lookup_eq_none ?_)
    intro p pmem same
    exact none_set p.1 p.2 (mem.1 pmem) (by rw [same, canonical_contentType])

def openEnv : HttpEnv := ⟨.ok, fun _ => true, fun _ => .ok "null", fun _ _ => none, fun _ => none,
  fun _ => ""⟩

def asciiFold : Char → Char → Bool := fun _ _ => false

def postHeaders : List (String × GoValue) :=
  [("x-api-key", .string "k1"), ("HOST", .string "internal"), ("Retry", .int 3)]

def postArgs : List GoValue := [.string "/hook", .string "[1]", .map postHeaders]

def postRequest : Request :=
  match buildRequest openEnv asciiFold "POST" "/hook" (.string "[1]") (extractHeaders postArgs 2) with
  | .ok req => req
  | .error _ => ⟨"", "", none, fun _ => none⟩

theorem post_request_carries_script_headers :
    (∀ k v, (k, .string v) ∈ postHeaders → ignoredHeader asciiFold k = false →
      postRequest.header.get k = some v) ∧
    (∀ key v, postRequest.header key = some v →
      (∃ k, (k, .string v) ∈ postHeaders ∧ ignoredHeader asciiFold k = false ∧
        canonicalMIMEHeaderKey k = key) ∨
      (key = "User-Agent" ∧ v = userAgent) ∨
      (key = "Content-Type" ∧ inferredContentType (.string "[1]") = some v)) ∧
    postRequest.header "Host" = none ∧ postRequest.header "Proxy-Authorization" = none ∧
    ((∀ k v, (k, .string v) ∈ postHeaders → canonicalMIMEHeaderKey k ≠ "User-Agent") →
      postRequest.header "User-Agent" = some userAgent) ∧
    ((∀ k v, (k, .string v) ∈ postHeaders → canonicalMIMEHeaderKey k ≠ "Content-Type") →
      postRequest.header "Content-Type" = inferredContentType (.string "[1]")) :=
  @buildRequest_carries_script_headers openEnv asciiFold "POST" "/hook" (.string "[1]") postArgs 2
    postHeaders _ postRequest rfl (by decide) (List.Perm.refl _) rfl

/-! ### The value handed back to the script -/

def errorValue (msg : String) (status : Int) : GoValue :=
  .map [("error", .string msg), ("status", .int status)]

def responseLimit : Nat := 10 * 1024 * 1024

def contains (s sub : String) : Bool := decide (sub.toList <:+: s.toList)

/-- What `doHTTPRequest` returns once `client.Do` has answered. -/
def responseValue (env : HttpEnv) : Except String Response → GoValue
  | .error e => errorValue ("Request failed: " ++ e) 0
  | .ok resp =>
    match resp.readError with
    | some e => errorValue ("Failed to read response: " ++ e) resp.statusCode
    | none =>
      let bytes := resp.body.take responseLimit
      let data := if contains ((resp.header.get "Content-Type").getD "") "application/json"
        then env.unmarshal bytes else none
      .map ([("status", .int resp.statusCode), ("body", .string (env.decode bytes))] ++
        match data with
        | none | some .nil => []
        | some v => [("data", v)])

/-- `doHTTPRequest`. `send` is `client.Do` against the outside world `o`, which it may
change; nothing is sent when the request cannot be built. -/
def doHTTPRequest {σ : Type} (env : HttpEnv) (fold : Char → Char → Bool)
    (send : σ → Request → Except String Response × σ) (method urlStr : String) (body : GoValue)
    (headers : List (String × String)) (o : σ) : GoValue × σ :=
  match buildRequest env fold method urlStr body headers with
  | .error e => (errorValue e 0, o)
  | .ok req => ((responseValue env (send o req).1), (send o req).2)

/-- The `doHTTPRequest` call of `http.get(url, headers)`: method, URL, body and headers
argument index, or the error value for a missing URL. -/
def httpGet (args : List Arg) : Except GoValue (String × String × GoValue × Nat) :=
  match args with
  | [] => .error (errorValue "URL is required" 0)
  | url :: _ => .ok ("GET", url.str, .nil, 1)

def httpPost (args : List Arg) : Except GoValue (String × String × GoValue × Nat) :=
  match args with
  | [] => .error (errorValue "URL is required" 0)
  | url :: rest => .ok ("POST", url.str, (rest.head?.map (·.val)).getD .nil, 2)

def httpRequest (args : List Arg) : Except GoValue (String × String × GoValue × Nat) :=
  match args with
  | method :: url :: rest => .ok (method.str, url.str, (rest.head?.map (·.val)).getD .nil, 3)
  | _ => .error (errorValue "method and URL are required" 0)

end AuraLogic.ScriptHttp
