import AuraLogic.ConfigEditor

/-! What `JSON.parse` reads from the text `Number::toString` prints. Every finite number's
text, followed by anything that cannot continue a number, is one literal whose exact value is
the number's (`parseNumber_toString`); and between `1e-7` and `1e21` that text has no exponent,
so `numToPlain` leaves it as it is (`numToPlain_plain`). -/

namespace AuraLogic.ConfigEditor

theorem digitChar_facts : ∀ d, d < 10 →
    (Nat.digitChar d).isDigit = true ∧ (Nat.digitChar d).toNat - 48 = d ∧ (Nat.digitChar d = '0' → d = 0) := by
  decide

theorem toDigitsCore_append (fuel n : Nat) (acc : List Char) :
    Nat.toDigitsCore 10 fuel n acc = Nat.toDigitsCore 10 fuel n [] ++ acc := by
  induction fuel generalizing n acc with
  | zero => rfl
  | succ fuel ih =>
    simp only [Nat.toDigitsCore]
    split_ifs
    · rfl
    · rw [ih, ih _ [_], List.append_assoc, List.singleton_append]

theorem toDigitsCore_fuel {f₁ f₂ n : Nat} (enough₁ : n < f₁) (enough₂ : n < f₂) :
    Nat.toDigitsCore 10 f₁ n [] = Nat.toDigitsCore 10 f₂ n [] := by
  induction f₁ generalizing f₂ n with
  | zero => omega
  | succ f₁ ih =>
    cases f₂ with
    | zero => omega
    | succ f₂ =>
      simp only [Nat.toDigitsCore]
      split_ifs with last
      · rfl
      · rw [toDigitsCore_append, toDigitsCore_append f₂, @ih f₂ (n / 10) (by omega) (by omega)]

/-- The digits of `n`: those of `n / 10`, then the last. -/
theorem toDigits_eq (n : Nat) : Nat.toDigits 10 n =
    if n < 10 then [Nat.digitChar n] else Nat.toDigits 10 (n / 10) ++ [Nat.digitChar (n % 10)] := by
  rw [Nat.toDigits, Nat.toDigitsCore]
  split_ifs with last small small
  · rw [Nat.mod_eq_of_lt small]
  · omega
  · omega
  · rw [toDigitsCore_append, Nat.toDigits, @toDigitsCore_fuel n (n / 10 + 1) _ (by omega) (by omega)]

theorem digitValue_append (l l' : List Char) :
    digitValue (l ++ l') = digitValue l * 10 ^ l'.length + digitValue l' := by
  have shift : ∀ (a : Nat) (l' : List Char), l'.foldl (fun n c => 10 * n + (c.toNat - 48)) a =
      a * 10 ^ l'.length + l'.foldl (fun n c => 10 * n + (c.toNat - 48)) 0 := by
    intro a l'
    induction l' generalizing a with
    | nil => simp
    | cons c l' ih =>
      simp only [List.foldl_cons, List.length_cons, ih (10 * a + _), ih (10 * 0 + _), pow_succ]
      ring
  rw [digitValue, List.foldl_append, shift]; rfl

theorem toDigits_spec (n : Nat) :
    digitValue (Nat.toDigits 10 n) = n ∧ (∀ c ∈ Nat.toDigits 10 n, c.isDigit = true) ∧
      (0 < n → (Nat.toDigits 10 n).head? ≠ some '0') := by
  induction n using Nat.strong_induction_on with
  | _ n ih =>
    rw [toDigits_eq]
    split_ifs with small
    · obtain ⟨digit, value, zero⟩ := digitChar_facts n small
      refine ⟨by simp [digitValue, value], by simp [digit], fun pos => ?_⟩
      simp only [List.head?_cons, ne_eq, Option.some.injEq]
      exact fun same => absurd (zero same) (by omega)
    · obtain ⟨value, digits, lead⟩ := ih (n / 10) (by omega)
      obtain ⟨digit, last, -⟩ := digitChar_facts (n % 10) (by omega)
      refine ⟨?_, ?_, fun _ => ?_⟩
      · rw [digitValue_append, value]; simp [digitValue, last]; omega
      · intro c mem
        rcases List.mem_append.1 mem with mem | mem
        · exact digits c mem
        · simp only [List.mem_singleton] at mem; exact mem ▸ digit
      · have ne : Nat.toDigits 10 (n / 10) ≠ [] := by
          rw [toDigits_eq]; split_ifs <;> simp
        rw [List.head?_append_of_ne_nil _ ne]
        exact lead (by omega)


/-- No digit comes next. -/
def NoDigit (r : List Char) : Prop := ∀ c rest, r = c :: rest → c.isDigit = false

theorem span_digits {l r : List Char} (digits : ∀ c ∈ l, c.isDigit = true) (stop : NoDigit r) :
    (l ++ r).span Char.isDigit = (l, r) := by
  rw [List.span_eq_take_drop, List.takeWhile_append_of_pos digits, List.dropWhile_append_of_pos digits]
  cases r with
  | nil => simp
  | cons c rest => simp [stop c rest rfl]

theorem parseFraction_dot {fraction r : List Char} (ne : fraction ≠ [])
    (digits : ∀ c ∈ fraction, c.isDigit = true) (stop : NoDigit r) :
    parseFraction ('.' :: (fraction ++ r)) = some (fraction, r) := by
  simp only [parseFraction, span_digits digits stop]
  rw [if_neg ne]

theorem parseFraction_other {r : List Char} (noDot : ∀ rest, r ≠ '.' :: rest) :
    parseFraction r = some ([], r) := by
  unfold parseFraction
  split
  · exact absurd rfl (noDot _)
  · rfl

theorem parseExponent_other {r : List Char} (noE : ∀ c rest, r = c :: rest → c ≠ 'e' ∧ c ≠ 'E') :
    parseExponent r = some (0, r) := by
  cases r with
  | nil => rfl
  | cons c rest =>
    obtain ⟨ne, nE⟩ := noE c rest rfl
    simp [parseExponent, ne, nE]

theorem parseNumber_literal (negative : Bool) {whole tail tail' fraction rest : List Char} {e : Int}
    (digits : ∀ c ∈ whole, c.isDigit = true) (nonempty : whole ≠ [])
    (lead : whole.head? = some '0' → whole.length = 1) (stop : NoDigit tail)
    (fraction_ok : parseFraction tail = some (fraction, tail'))
    (exponent_ok : parseExponent tail' = some (e, rest)) :
    parseNumber ((if negative then ['-'] else []) ++ (whole ++ tail)) =
      some (⟨if negative then -(digitValue (whole ++ fraction) : Int)
        else digitValue (whole ++ fraction), e - fraction.length⟩, rest) := by
  obtain ⟨c, w, rfl⟩ := List.exists_cons_of_ne_nil nonempty
  have digit : c.isDigit = true := digits c (List.mem_cons_self _ _)
  have notMinus : c ≠ '-' := by rintro rfl; exact absurd digit (by decide)
  have check : ¬ ((c :: w) = [] ∨ ((c :: w).head? = some '0' ∧ (c :: w).length ≠ 1)) := by
    rintro (h | ⟨h, len⟩)
    · cases h
    · exact len (lead h)
  have sign : parseSign ((if negative then ['-'] else []) ++ (c :: w ++ tail)) =
      (negative, c :: w ++ tail) := by
    cases negative
    · simp only [Bool.false_eq_true, ite_false, List.nil_append, List.cons_append, parseSign]
      split
      · rename_i same; cases same; exact absurd rfl notMinus
      · rfl
    · rfl
  simp only [parseNumber, sign, span_digits digits stop, if_neg check, fraction_ok, exponent_ok]

theorem toDigits_ne_nil (n : Nat) : Nat.toDigits 10 n ≠ [] := by
  rw [toDigits_eq]; split_ifs <;> simp

theorem parseExponent_print (e : Int) {rest : List Char} (stop : NoDigit rest) :
    parseExponent ('e' :: (if 0 ≤ e then '+' else '-') :: (Nat.toDigits 10 e.natAbs ++ rest)) =
      some (e, rest) := by
  obtain ⟨value, digits, -⟩ := toDigits_spec e.natAbs
  split_ifs with sign
  · simp only [parseExponent, span_digits digits stop, value, if_neg (toDigits_ne_nil _)]
    simp [Int.natAbs_of_nonneg sign]
  · simp only [parseExponent, span_digits digits stop, value, if_neg (toDigits_ne_nil _)]
    simp [Int.ofNat_natAbs_of_nonpos (by omega : e ≤ 0)]

theorem digitValue_zeros (z : Nat) : digitValue (List.replicate z '0') = 0 := by
  induction z with
  | zero => rfl
  | succ z ih => rw [List.replicate_succ', digitValue_append, ih]; rfl

theorem zeros_digits (z : Nat) : ∀ c ∈ List.replicate z '0', c.isDigit = true :=
  fun c mem => by rw [List.eq_of_mem_replicate mem]; rfl

theorem noDigit_cons {c : Char} {r : List Char} (other : c.isDigit = false) : NoDigit (c :: r) :=
  fun _ _ same => by cases same; exact other

/-- What may follow a number: nothing, or a character that cannot continue it. -/
def Delimited (r : List Char) : Prop :=
  ∀ c rest, r = c :: rest → c.isDigit = false ∧ c ≠ '.' ∧ c ≠ 'e' ∧ c ≠ 'E'

theorem Delimited.noDigit {r : List Char} (delimited : Delimited r) : NoDigit r :=
  fun c rest same => (delimited c rest same).1

theorem Delimited.noDot {r : List Char} (delimited : Delimited r) : ∀ rest, r ≠ '.' :: rest :=
  fun rest same => (delimited '.' rest same).2.1 rfl

theorem Delimited.parseExponent {r : List Char} (delimited : Delimited r) :
    parseExponent r = some (0, r) :=
  parseExponent_other fun c rest same => (delimited c rest same).2.2

theorem sameValue_self (a : JsonNumber) : a.sameValue a = true := by
  simp [JsonNumber.sameValue]

theorem sameValue_of_eq {a b : JsonNumber} (same : a = b) : a.sameValue b = true :=
  same ▸ sameValue_self a

theorem sameValue_scaled (m : Int) (z : Nat) : JsonNumber.sameValue ⟨m, z⟩ ⟨m * 10 ^ z, 0⟩ = true := by
  unfold JsonNumber.sameValue
  dsimp only
  split_ifs with le
  · have : z = 0 := by omega
    subst this; simp
  · simp

/-- The four forms `Number::toString` prints a positive number in. -/
theorem print_cases (d : Decimal) :
    (↑(Nat.toDigits 10 d.digits).length ≤ d.point ∧
        d.print = Nat.toDigits 10 d.digits ++
          List.replicate (d.point - (Nat.toDigits 10 d.digits).length).toNat '0') ∨
      (0 < d.point ∧ d.point < (Nat.toDigits 10 d.digits).length ∧
        d.print = (Nat.toDigits 10 d.digits).take d.point.toNat ++
          '.' :: (Nat.toDigits 10 d.digits).drop d.point.toNat) ∨
      (-6 < d.point ∧ d.point ≤ 0 ∧
        d.print = '0' :: '.' :: (List.replicate (-d.point).toNat '0' ++ Nat.toDigits 10 d.digits)) ∨
      ((Nat.toDigits 10 d.digits).length = 1 ∧
        d.print = Nat.toDigits 10 d.digits ++
          'e' :: (if 0 ≤ d.point - 1 then '+' else '-') :: Nat.toDigits 10 (d.point - 1).natAbs) ∨
      ((Nat.toDigits 10 d.digits).length ≠ 1 ∧
        d.print = (Nat.toDigits 10 d.digits).take 1 ++ '.' :: ((Nat.toDigits 10 d.digits).drop 1 ++
          'e' :: (if 0 ≤ d.point - 1 then '+' else '-') :: Nat.toDigits 10 (d.point - 1).natAbs)) := by
  unfold Decimal.print
  dsimp only
  by_cases plain : ↑(Nat.toDigits 10 d.digits).length ≤ d.point ∧ d.point ≤ 21
  · exact .inl ⟨plain.1, if_pos plain⟩
  rw [if_neg plain]
  by_cases fixed : 0 < d.point ∧ d.point ≤ 21
  · exact .inr (.inl ⟨fixed.1, by omega, if_pos fixed⟩)
  rw [if_neg fixed]
  by_cases small : -6 < d.point ∧ d.point ≤ 0
  · exact .inr (.inr (.inl ⟨small.1, small.2, if_pos small⟩))
  rw [if_neg small]
  by_cases single : (Nat.toDigits 10 d.digits).length = 1
  · exact .inr (.inr (.inr (.inl ⟨single, if_pos single⟩)))
  · exact .inr (.inr (.inr (.inr ⟨single, by rw [if_neg single]; simp⟩)))

/-- `Number::toString` of a finite number is a literal `JSON.parse` reads back exactly. -/
theorem parseNumber_print (negative : Bool) (d : Decimal) {rest : List Char}
    (delimited : Delimited rest) :
    ∃ n, parseNumber ((JsNumber.finite negative d).toString.toList ++ rest) = some (n, rest) ∧
      JsonNumber.sameValue ⟨if negative then -(d.digits : Int) else d.digits, d.point - d.width⟩ n := by
  obtain ⟨value, digits, lead⟩ := toDigits_spec d.digits
  have pos : 0 < d.digits := Nat.pos_of_ne_zero fun zero => d.digits_mod (by simp [zero])
  have text : (JsNumber.finite negative d).toString.toList = (if negative then ['-'] else []) ++ d.print := by
    cases negative <;> rfl
  rw [text, List.append_assoc]
  have nonempty := toDigits_ne_nil d.digits
  have head : (Nat.toDigits 10 d.digits).head? ≠ some '0' := lead pos
  rcases print_cases d with ⟨plain, print⟩ | ⟨low, high, print⟩ | ⟨low, high, print⟩ |
    ⟨single, print⟩ | ⟨several, print⟩ <;> rw [print]
  · -- an integer, padded with zeros
    have zeros := zeros_digits (d.point - (Nat.toDigits 10 d.digits).length).toNat
    refine ⟨_, parseNumber_literal negative (List.forall_mem_append.2 ⟨digits, zeros⟩)
      (by simp [nonempty]) (fun first => absurd (by rwa [List.head?_append_of_ne_nil _ nonempty] at first) head)
      delimited.noDigit (parseFraction_other delimited.noDot) delimited.parseExponent, ?_⟩
    rw [List.append_nil, digitValue_append, value, digitValue_zeros, List.length_nil]
    have shift : d.point - d.width = ((d.point - d.width).toNat : Int) := by
      rw [Int.toNat_of_nonneg (by simp only [Decimal.width]; omega)]
    rw [shift]
    cases negative
    · simpa [Decimal.width] using sameValue_scaled (d.digits : Int) (d.point - d.width).toNat
    · simpa [Decimal.width] using sameValue_scaled (-(d.digits : Int)) (d.point - d.width).toNat
  · -- a point inside the digits
    have taken : (Nat.toDigits 10 d.digits).take d.point.toNat ≠ [] := by simp [nonempty]; omega
    have dropped : (Nat.toDigits 10 d.digits).drop d.point.toNat ≠ [] := by simp; omega
    rw [List.append_assoc, List.cons_append]
    refine ⟨_, parseNumber_literal negative (fun c mem => digits c (List.mem_of_mem_take mem)) taken
      (fun first => absurd (by rwa [List.head?_take, if_neg (by omega)] at first) head)
      (noDigit_cons rfl)
      (parseFraction_dot dropped (fun c mem => digits c (List.mem_of_mem_drop mem)) delimited.noDigit)
      delimited.parseExponent, sameValue_of_eq ?_⟩
    rw [List.take_append_drop, value, List.length_drop]
    congr 1
    simp only [Decimal.width]
    omega
  · -- a point, then zeros before the digits
    have fraction := List.forall_mem_append.2 ⟨zeros_digits (-d.point).toNat, digits⟩
    rw [List.cons_append, List.cons_append, ← List.singleton_append]
    refine ⟨_, @parseNumber_literal negative ['0'] _ _ _ _ _ (by decide) (by simp) (fun _ => rfl)
      (noDigit_cons rfl)
      (parseFraction_dot (by simp [nonempty]) fraction delimited.noDigit)
      delimited.parseExponent, sameValue_of_eq ?_⟩
    rw [digitValue_append, digitValue_append, value, digitValue_zeros,
      show digitValue ['0'] = 0 from rfl]
    simp only [Nat.zero_mul, Nat.zero_add, List.length_append, List.length_replicate]
    congr 1
    simp only [Decimal.width]
    omega
  · -- one digit and an exponent
    rw [List.append_assoc, List.cons_append, List.cons_append]
    refine ⟨_, parseNumber_literal negative digits nonempty
      (fun first => absurd first head) (noDigit_cons rfl)
      (parseFraction_other (by simp)) (parseExponent_print _ delimited.noDigit), sameValue_of_eq ?_⟩
    rw [List.append_nil, value]
    cases negative <;> simp [Decimal.width, single]
  · -- a point after the first digit, and an exponent
    have taken : (Nat.toDigits 10 d.digits).take 1 ≠ [] := by simp [nonempty]
    have dropped : (Nat.toDigits 10 d.digits).drop 1 ≠ [] := by
      simp only [ne_eq, List.drop_eq_nil_iff]
      have := List.length_pos.2 nonempty
      omega
    rw [List.append_assoc, List.cons_append, List.append_assoc, List.cons_append, List.cons_append]
    refine ⟨_, parseNumber_literal negative (fun c mem => digits c (List.mem_of_mem_take mem)) taken
      (fun first => absurd (by rwa [List.head?_take, if_neg (by omega)] at first) head)
      (noDigit_cons rfl)
      (parseFraction_dot dropped (fun c mem => digits c (List.mem_of_mem_drop mem)) (noDigit_cons rfl))
      (parseExponent_print _ delimited.noDigit), sameValue_of_eq ?_⟩
    rw [List.take_append_drop, value, List.length_drop]
    have := List.length_pos.2 nonempty
    congr 1
    simp only [Decimal.width]
    omega


/-- `JSON.stringify` of a finite number is a literal that `JSON.parse` reads back exactly. -/
theorem parseNumber_toString {x : JsNumber} {m : JsonNumber} (exact : exactValue x = some m)
    {rest : List Char} (delimited : Delimited rest) :
    ∃ n, parseNumber (x.toString.toList ++ rest) = some (n, rest) ∧ m.sameValue n = true := by
  cases x with
  | nan => cases exact
  | infinity => cases exact
  | zero =>
    cases exact
    exact ⟨_, @parseNumber_literal false ['0'] _ _ _ _ _ (by decide) (by simp) (fun _ => rfl)
      delimited.noDigit (parseFraction_other delimited.noDot) delimited.parseExponent,
      sameValue_of_eq rfl⟩
  | finite negative d =>
    cases exact
    exact parseNumber_print negative d delimited

theorem print_head (d : Decimal) : ∃ c cs, d.print = c :: cs ∧ c.isDigit = true := by
  obtain ⟨-, digits, -⟩ := toDigits_spec d.digits
  obtain ⟨c, s, split⟩ := List.exists_cons_of_ne_nil (toDigits_ne_nil d.digits)
  have digit : c.isDigit = true := digits c (split ▸ List.mem_cons_self _ _)
  rcases print_cases d with ⟨-, print⟩ | ⟨low, -, print⟩ | ⟨-, -, print⟩ | ⟨-, print⟩ | ⟨-, print⟩ <;>
    rw [print, split]
  · exact ⟨c, _, rfl, digit⟩
  · obtain ⟨q, first⟩ : ∃ q, d.point.toNat = q + 1 := ⟨d.point.toNat - 1, by omega⟩
    rw [first, List.take_succ_cons]
    exact ⟨c, _, rfl, digit⟩
  · exact ⟨'0', _, rfl, rfl⟩
  · exact ⟨c, _, rfl, digit⟩
  · exact ⟨c, _, rfl, digit⟩

/-- A finite number's text starts with a sign or a digit. -/
theorem toString_head {x : JsNumber} {m : JsonNumber} (exact : exactValue x = some m) :
    ∃ c cs, x.toString.toList = c :: cs ∧ (c = '-' ∨ c.isDigit = true) := by
  cases x with
  | nan => cases exact
  | infinity => cases exact
  | zero => exact ⟨'0', [], rfl, .inr rfl⟩
  | finite negative d =>
    cases negative
    · obtain ⟨c, cs, print, digit⟩ := print_head d
      exact ⟨c, cs, print, .inr digit⟩
    · exact ⟨'-', d.print, rfl, .inl rfl⟩

/-- Outside the exponent forms, `Number::toString` prints only digits and a point. -/
theorem print_plain {d : Decimal} (low : -6 < d.point) (high : d.point ≤ 21) :
    ∀ c ∈ d.print, c.isDigit = true ∨ c = '.' := by
  have digits := (toDigits_spec d.digits).2.1
  unfold Decimal.print
  dsimp only
  split_ifs with plain fixed small
  · intro c mem
    rcases List.mem_append.1 mem with mem | mem
    · exact .inl (digits c mem)
    · exact .inl (List.eq_of_mem_replicate mem ▸ rfl)
  · intro c mem
    simp only [List.mem_append, List.mem_cons] at mem
    rcases mem with mem | rfl | mem
    · exact .inl (digits c (List.mem_of_mem_take mem))
    · exact .inr rfl
    · exact .inl (digits c (List.mem_of_mem_drop mem))
  · intro c mem
    simp only [List.mem_cons, List.mem_append, or_assoc] at mem
    rcases mem with rfl | rfl | mem | mem
    · exact .inl rfl
    · exact .inr rfl
    · exact .inl (List.eq_of_mem_replicate mem ▸ rfl)
    · exact .inl (digits c mem)
  all_goals omega

theorem numToPlain_plain (negative : Bool) {d : Decimal} (low : -6 < d.point) (high : d.point ≤ 21) :
    numToPlain (.finite negative d) = (JsNumber.finite negative d).toString := by
  have e : 'e' ∉ d.print := fun mem => absurd (print_plain low high 'e' mem) (by decide)
  have E : 'E' ∉ d.print := fun mem => absurd (print_plain low high 'E' mem) (by decide)
  rw [numToPlain, if_pos (by cases negative <;> simp [JsNumber.toString, e, E])]

end AuraLogic.ConfigEditor
