import Mathlib.Tactic.Linarith
import AuraLogic.Models

/-! Paging of list responses: Go's `strconv.Atoi` with its error dropped, `GetPagination` and
`Paginated` with Go's truncating division, whose division by zero panics (`none`); then the
replies the helpers write. -/

namespace AuraLogic.Response

def maxInt : Int := 2 ^ 63 - 1

def minInt : Int := -2 ^ 63

def maxUint64 : Nat := 2 ^ 64 - 1

/-- The value of a string of decimal digits. -/
def digitsValue (ds : List Char) : Nat :=
  ds.foldl (fun n c => 10 * n + (c.toNat - '0'.toNat)) 0

/-- The digit loop of `strconv.ParseUint(s, 10, 64)`: `none` is its syntax error; where the
next digit would overflow it stops with `maxUint64`, the value it returns with its range error. -/
def parseUintDigits : Nat → List Char → Option Nat
  | n, [] => some n
  | n, c :: cs =>
    if !c.isDigit then none
    else if maxUint64 / 10 + 1 ≤ n then some maxUint64
    else if maxUint64 < n * 10 + (c.toNat - '0'.toNat) then some maxUint64
    else parseUintDigits (n * 10 + (c.toNat - '0'.toNat)) cs

def parseUint (ds : List Char) : Option Nat :=
  if ds = [] then none else parseUintDigits 0 ds

/-- `strconv.ParseInt(s, 10, 0)` with a 64-bit `int`, its error dropped: 0 on a syntax error, the
nearest bound of `int64` on a range error. -/
def parseInt (cs : List Char) : Int :=
  let (negative, ds) := match cs with
    | '+' :: ds => (false, ds)
    | '-' :: ds => (true, ds)
    | ds => (false, ds)
  match parseUint ds with
  | none => 0
  | some un =>
    if !negative ∧ 2 ^ 63 ≤ un then maxInt
    else if negative ∧ 2 ^ 63 < un then minInt
    else if negative then -(un : Int) else un

/-- `strconv.Atoi` with its error dropped: strings of 1 to 18 bytes take the fast path, which
cannot overflow; the others go through `ParseInt`. -/
def atoi (s : String) : Int :=
  if 0 < s.utf8ByteSize ∧ s.utf8ByteSize < 19 then
    let (negative, ds) := match s.toList with
      | '-' :: ds => (true, ds)
      | '+' :: ds => (false, ds)
      | ds => (false, ds)
    if ds = [] ∨ !ds.all Char.isDigit then 0
    else if negative then -(digitsValue ds : Int) else digitsValue ds
  else parseInt s.toList

example : atoi "42" = 42 := by decide
example : atoi "abc" = 0 := by decide
example : atoi "-7" = -7 := by decide
example : atoi "99999999999999999999" = maxInt := by decide
example : atoi "-9223372036854775809" = minInt := by decide
example : atoi "" = 0 := by decide

/-- `c.DefaultQuery(key, default)`: the value when the key is present, even if empty. -/
def defaultQuery (query : Option String) (default : String) : String := query.getD default

/-- `response.GetPagination`: page at least 1; a limit below 1 becomes 20, one above 100
becomes 100. -/
def getPagination (pageQuery limitQuery : Option String) : Int × Int :=
  let page := atoi (defaultQuery pageQuery "1")
  let limit := atoi (defaultQuery limitQuery "20")
  (if page < 1 then 1 else page, if limit < 1 then 20 else if limit > 100 then 100 else limit)

structure Pagination where
  page : Int
  limit : Int
  total : Int
  totalPages : Int
  hasNext : Bool
  hasPrev : Bool
  deriving DecidableEq, Repr

/-- `response.Paginated` for a page, a limit and a total count; `none` is the runtime panic
of `int(total) / limit` when the limit is 0. -/
def paginated (page limit total : Int) : Option Pagination :=
  if limit = 0 then none
  else
    let totalPages := total.tdiv limit + if total.tmod limit > 0 then 1 else 0
    some ⟨page, limit, total, totalPages, page < totalPages, page > 1⟩

/-- For a limit of at least 1, `Paginated` echoes the page, limit and total, counts just enough
pages for the total, and has a next page exactly when the current one is not the last. -/
theorem paginated_bounds (page : Int) {limit total : Int} (positive : 1 ≤ limit)
    (counted : 0 ≤ total) :
    ∃ p, paginated page limit total = some p ∧ p.page = page ∧ p.limit = limit ∧ p.total = total ∧
      (0 < total → (p.totalPages - 1) * limit < total ∧ total ≤ p.totalPages * limit) ∧
      (total = 0 → p.totalPages = 0) ∧ (p.hasNext ↔ page < p.totalPages) ∧
      (p.hasPrev ↔ 1 < page) := by
  have split := Int.ediv_add_emod' total limit
  have low := Int.emod_nonneg total (show limit ≠ 0 by omega)
  have high := Int.emod_lt_of_pos total (show 0 < limit by omega)
  have quotient := Int.ediv_nonneg counted (show 0 ≤ limit by omega)
  refine ⟨_, if_neg (by omega), rfl, rfl, rfl, fun pos => ?_, fun zero => ?_, by simp, by simp⟩
  · have nonneg : 0 ≤ limit := by omega
    simp only [Int.tdiv_eq_ediv counted nonneg, Int.tmod_eq_emod counted nonneg]
    split_ifs with rest
    · constructor <;> nlinarith
    · constructor <;> nlinarith
  · subst zero
    simp

example : paginated 3 10 25 = some ⟨3, 10, 25, 3, false, true⟩ := by decide

/-! ### Replies -/

def codeSuccess : Nat := 0
def codeParamError : Nat := 10001
def codeUnauthorized : Nat := 20001
def codeForbidden : Nat := 30001
def codeNotFound : Nat := 40001
def codeConflict : Nat := 40901
def codeBusinessError : Nat := 40010
def codeInternalError : Nat := 50001

/-- A business error (`bizerr.Error`): an i18n key, an English message and its parameters. -/
structure BizErr where
  key : String
  message : String
  params : List (String × GoValue)

/-- The `Data` of a reply: a handler's payload, or the key and parameters of a business error. -/
inductive ReplyData (α : Type) where
  | payload (data : α)
  | bizError (key : String) (params : List (String × GoValue))

/-- A JSON reply, `Response{Code, Message, Data}`, and its HTTP status. -/
structure Reply (α : Type) where
  httpCode : Nat
  code : Nat
  message : String
  data : Option (ReplyData α)

variable {α : Type}

def success (data : α) : Reply α := ⟨200, codeSuccess, "success", some (.payload data)⟩

def error (httpCode code : Nat) (message : String) : Reply α := ⟨httpCode, code, message, none⟩

/-- The body of `Unauthorized`, `Forbidden`, `NotFound`, `InternalError`, `BadRequest` and
`Conflict`: an empty message becomes the helper's own default. -/
def errorOr (httpCode code : Nat) (fallback message : String) : Reply α :=
  error httpCode code (if message = "" then fallback else message)

def unauthorized (message : String) : Reply α :=
  errorOr 401 codeUnauthorized "Unauthorized" message

def forbidden (message : String) : Reply α :=
  errorOr 403 codeForbidden "No permission to access" message

def notFound (message : String) : Reply α :=
  errorOr 404 codeNotFound "Resource not found" message

def internalError (message : String) : Reply α :=
  errorOr 500 codeInternalError "Internal server error" message

def badRequest (message : String) : Reply α :=
  errorOr 400 codeParamError "Invalid request parameters" message

def conflict (message : String) : Reply α :=
  errorOr 409 codeConflict "Resource already exists" message

def internalServerError (userMessage : String) : Reply α :=
  errorOr 500 codeInternalError "Internal server error" userMessage

def bizError (e : BizErr) : Reply α :=
  ⟨400, codeBusinessError, e.message, some (.bizError e.key e.params)⟩

inductive ServiceError where
  | biz (e : BizErr)
  | other (description : String)

/-- `HandleError`: a business error is answered as one, any other with the fallback message. -/
def handleError (fallbackMsg : String) : ServiceError → Reply α
  | .biz e => bizError e
  | .other _ => internalServerError fallbackMsg

/-- Every error helper answers with its own status and code, no data, and the message it was
given, or its default when that is empty; so with a default, the message is never empty. -/
theorem errorOr_spec (httpCode code : Nat) {fallback : String} (named : fallback ≠ "")
    (message : String) :
    (errorOr httpCode code fallback message : Reply α).httpCode = httpCode ∧
      (errorOr httpCode code fallback message : Reply α).code = code ∧
      (errorOr httpCode code fallback message : Reply α).data = none ∧
      (errorOr httpCode code fallback message : Reply α).message ≠ "" ∧
      (message ≠ "" → (errorOr httpCode code fallback message : Reply α).message = message) := by
  refine ⟨rfl, rfl, rfl, ?_, fun given => if_neg given⟩
  show (if message = "" then fallback else message) ≠ ""
  split_ifs with empty
  · exact named
  · exact empty

@[simp] theorem errorOr_httpCode (httpCode code : Nat) (fallback message : String) :
    (errorOr httpCode code fallback message : Reply α).httpCode = httpCode :=
  rfl

@[simp] theorem success_httpCode (data : α) : (success data).httpCode = 200 :=
  rfl

/-- `HandleError` never answers with status 200. -/
theorem handleError_httpCode (fallbackMsg : String) (e : ServiceError) :
    (handleError fallbackMsg e : Reply α).httpCode ≠ 200 := by
  cases e <;> simp [handleError, bizError, internalServerError, errorOr, error]

end AuraLogic.Response
