import PgDog.Net.Wire

/-!
# Decimal integers

`DataRow::get_int` reads a text column with `str::parse::<i64>`, `ToDataRowColumn` writes an
integer with `to_string`, and `Value::from` parses a string constant as an `i64`. Neither is under
src/. `I64.fromStr` follows core's `from_str_radix` at radix 10: a lone sign is an error, and each
digit is a checked `result * 10` and a checked `+ digit`, or `- digit` after a minus sign.
`I64.toString` is `Display`: a minus sign, then the digits of the magnitude.

`I64.fromStr_eq_spec` shows the loop reads the digits and checks the range once, and
`I64.fromStr_toString` that it reads back every `i64` that `to_string` writes.
-/

namespace PgDog.Net

def minI64 : Int := -9223372036854775808

def maxI64 : Int := 9223372036854775807

def FitsI64 (v : Int) : Prop := minI64 ≤ v ∧ v ≤ maxI64

instance (v : Int) : Decidable (FitsI64 v) := inferInstanceAs (Decidable (_ ∧ _))

/-- A checked `i64` operation on its exact result: `None` on overflow. -/
def checkedI64 (v : Int) : Option Int := if FitsI64 v then some v else none

def toDigit (c : UInt8) : Option Nat :=
  if 48 ≤ c.toNat ∧ c.toNat ≤ 57 then some (c.toNat - 48) else none

def digitByte (d : Nat) : UInt8 := UInt8.ofNat (48 + d)

/-- `Display` for an unsigned integer: its digits, most significant first, and `0` for zero. -/
def decimal (n : Nat) : Bytes := if n = 0 then [48] else (Nat.digits 10 n).reverse.map digitByte

namespace I64

/-- The digit loop of `from_str_radix`: `checked_mul(10)`, then `checked_add` or `checked_sub`. -/
def accumulate (positive : Bool) (result : Int) : Bytes → Option Int
  | [] => some result
  | c :: digits => do
    let mul := checkedI64 (result * 10)
    let x ← toDigit c
    let result ← mul
    let result ← checkedI64 (if positive then result + x else result - x)
    accumulate positive result digits

/-- `i64::from_str`: empty input and a lone sign are errors; a leading `+` or `-` is read off. -/
def fromStr (src : Bytes) : Option Int :=
  match src with
  | [] => none
  | c :: rest =>
    if (c = 43 ∨ c = 45) ∧ rest = [] then none
    else if c = 43 then accumulate true 0 rest
    else if c = 45 then accumulate false 0 rest
    else accumulate true 0 src

def toString (v : Int) : Bytes := (if v < 0 then [45] else []) ++ decimal v.natAbs

example : fromStr (ascii "-0042") = some (-42) := by decide

end I64

/-! ### The same loop without bounds -/

def digitsValue (acc : Nat) : Bytes → Option Nat
  | [] => some acc
  | c :: rest => (toDigit c).bind fun d => digitsValue (acc * 10 + d) rest

def signed (positive : Bool) (v : Nat) : Int := if positive then v else -v

namespace I64

/-- What `from_str` accepts: an optional sign, then digits whose signed value is an `i64`. -/
def fromStrSpec (src : Bytes) : Option Int :=
  match src with
  | [] => none
  | c :: rest =>
    let (positive, digits) :=
      if c = 43 then (true, rest) else if c = 45 then (false, rest) else (true, c :: rest)
    if digits = [] then none
    else (digitsValue 0 digits).bind fun v => checkedI64 (signed positive v)

end I64

theorem checkedI64_of_fits {v : Int} (fits : FitsI64 v) : checkedI64 v = some v := if_pos fits

theorem checkedI64_of_not_fits {v : Int} (over : ¬ FitsI64 v) : checkedI64 v = none := if_neg over

theorem checkedI64_eq_some {v w : Int} (h : checkedI64 v = some w) : v = w := by
  simp only [checkedI64] at h; split_ifs at h; exact Option.some.inj h

theorem toNat_digitByte {d : Nat} (digit : d < 10) : (digitByte d).toNat = 48 + d := by
  simp only [digitByte, uint8_toNat_ofNat]; omega

theorem toDigit_digitByte {d : Nat} (digit : d < 10) : toDigit (digitByte d) = some d := by
  rw [toDigit, toNat_digitByte digit, if_pos (by omega), Nat.add_sub_cancel_left]

theorem toDigit_eq_some {c : UInt8} {d : Nat} (h : toDigit c = some d) : d < 10 ∧ c = digitByte d := by
  simp only [toDigit] at h
  split_ifs at h with range
  cases h
  refine ⟨by omega, UInt8.eq_of_val_eq (Fin.ext ?_)⟩
  show c.toNat = (digitByte _).toNat
  simp only [digitByte, uint8_toNat_ofNat]; omega

theorem digitByte_ne_sign {d : Nat} (digit : d < 10) : digitByte d ≠ 43 ∧ digitByte d ≠ 45 := by
  have byte := toNat_digitByte digit
  exact ⟨fun eq => absurd (byte.symm.trans (congrArg UInt8.toNat eq) : 48 + d = 43) (by omega),
    fun eq => absurd (byte.symm.trans (congrArg UInt8.toNat eq) : 48 + d = 45) (by omega)⟩

theorem digitsValue_eq_some {acc v : Nat} {bytes : Bytes} :
    digitsValue acc bytes = some v ↔ ∃ ds : List Nat, bytes = ds.map digitByte ∧ (∀ d ∈ ds, d < 10) ∧
      v = ds.foldl (fun a d => a * 10 + d) acc := by
  induction bytes generalizing acc with
  | nil => simp [digitsValue, eq_comm]
  | cons c rest ih =>
    simp only [digitsValue, Option.bind_eq_some, ih]
    constructor
    · rintro ⟨d, hd, ds, rfl, digits, rfl⟩
      obtain ⟨digit, rfl⟩ := toDigit_eq_some hd
      exact ⟨d :: ds, rfl, List.forall_mem_cons.2 ⟨digit, digits⟩, rfl⟩
    · rintro ⟨_ | ⟨d, ds⟩, eq, digits, rfl⟩
      · cases eq
      · obtain ⟨rfl, rfl⟩ := List.cons.inj eq
        obtain ⟨digit, digits⟩ := List.forall_mem_cons.1 digits
        exact ⟨d, toDigit_digitByte digit, ds, rfl, digits, rfl⟩

theorem le_of_digitsValue {acc v : Nat} {bytes : Bytes} (h : digitsValue acc bytes = some v) :
    acc ≤ v := by
  obtain ⟨ds, -, -, rfl⟩ := digitsValue_eq_some.1 h
  clear h
  induction ds generalizing acc with
  | nil => exact le_rfl
  | cons d ds ih => exact (show acc ≤ acc * 10 + d by omega).trans ih

theorem foldl_reverse_eq_ofDigits (L : List Nat) :
    L.reverse.foldl (fun a d => a * 10 + d) 0 = Nat.ofDigits 10 L := by
  induction L with
  | nil => rfl
  | cons d L ih => simp only [List.reverse_cons, List.foldl_append, ih, List.foldl, Nat.ofDigits_cons]; omega

theorem fits_of_le {positive : Bool} {a v : Nat} (fits : FitsI64 (signed positive v)) (le : a ≤ v) :
    FitsI64 (signed positive a) := by
  cases positive <;> simp only [signed, FitsI64, minI64, maxI64, Bool.false_eq_true, ↓reduceIte] at fits ⊢ <;> omega

theorem signed_step (positive : Bool) (acc x : Nat) :
    (if positive then signed positive acc * 10 + x else signed positive acc * 10 - x) =
      signed positive (acc * 10 + x) := by
  cases positive <;> simp only [signed, if_true, if_false, Bool.false_eq_true] <;> push_cast <;> ring

theorem accumulate_eq (positive : Bool) {acc : Nat} (fits : FitsI64 (signed positive acc))
    (digits : Bytes) :
    I64.accumulate positive (signed positive acc) digits =
      (digitsValue acc digits).bind fun v => checkedI64 (signed positive v) := by
  induction digits generalizing acc with
  | nil => simp [I64.accumulate, digitsValue, checkedI64_of_fits fits]
  | cons c rest ih =>
    cases hd : toDigit c with
    | none => simp [I64.accumulate, digitsValue, hd]
    | some x =>
      simp only [I64.accumulate, digitsValue, hd, Option.bind_eq_bind, Option.some_bind]
      have mul' : signed positive acc * 10 = signed positive (acc * 10) := by
        cases positive <;> simp [signed]
      by_cases next : FitsI64 (signed positive (acc * 10 + x))
      · have mul : FitsI64 (signed positive (acc * 10)) := fits_of_le next (Nat.le_add_right _ _)
        rw [mul', checkedI64_of_fits mul, Option.some_bind, ← mul', signed_step,
          checkedI64_of_fits next, Option.some_bind, ih next]
      · have over : ∀ v, digitsValue (acc * 10 + x) rest = some v → ¬ FitsI64 (signed positive v) :=
          fun v h fits => next (fits_of_le fits (le_of_digitsValue h))
        have rhs : ((digitsValue (acc * 10 + x) rest).bind fun v => checkedI64 (signed positive v)) =
            none := by
          cases hv : digitsValue (acc * 10 + x) rest with
          | none => rfl
          | some v => exact checkedI64_of_not_fits (over v hv)
        rw [rhs]
        cases hm : checkedI64 (signed positive acc * 10) with
        | none => rfl
        | some r =>
          rw [Option.some_bind, ← checkedI64_eq_some hm, signed_step, checkedI64_of_not_fits next]
          rfl

theorem accumulate_zero (positive : Bool) (digits : Bytes) :
    I64.accumulate positive 0 digits =
      (digitsValue 0 digits).bind fun v => checkedI64 (signed positive v) := by
  cases positive <;> exact @accumulate_eq _ 0 (by decide) digits

theorem foldl_eq_ofDigits (ds : List Nat) :
    ds.foldl (fun a d => a * 10 + d) 0 = Nat.ofDigits 10 ds.reverse := by
  rw [← foldl_reverse_eq_ofDigits, List.reverse_reverse]

theorem digitsValue_digits {ds : List Nat} (digits : ∀ d ∈ ds, d < 10) :
    digitsValue 0 (ds.map digitByte) = some (Nat.ofDigits 10 ds.reverse) :=
  digitsValue_eq_some.2 ⟨ds, rfl, digits, (foldl_eq_ofDigits ds).symm⟩

theorem checkedI64_eq_some_iff {v w : Int} : checkedI64 v = some w ↔ v = w ∧ FitsI64 v := by
  unfold checkedI64; split_ifs with fits <;> simp [fits]

theorem checked_digits_eq_some {bytes : Bytes} {positive : Bool} {v : Int} :
    ((digitsValue 0 bytes).bind fun w => checkedI64 (signed positive w)) = some v ↔
      ∃ ds : List Nat, bytes = ds.map digitByte ∧ (∀ d ∈ ds, d < 10) ∧
        v = signed positive (Nat.ofDigits 10 ds.reverse) ∧ FitsI64 v := by
  simp only [Option.bind_eq_some, digitsValue_eq_some, checkedI64_eq_some_iff, foldl_eq_ofDigits]
  constructor
  · rintro ⟨_, ⟨ds, rfl, digits, rfl⟩, rfl, fits⟩
    exact ⟨ds, rfl, digits, rfl, fits⟩
  · rintro ⟨ds, rfl, digits, rfl, fits⟩
    exact ⟨_, ⟨ds, rfl, digits, rfl⟩, rfl, fits⟩

theorem decimal_digits (n : Nat) : ∃ ds, decimal n = ds.map digitByte ∧ ds ≠ [] ∧
    (∀ d ∈ ds, d < 10) ∧ Nat.ofDigits 10 ds.reverse = n := by
  by_cases zero : n = 0
  · exact ⟨[0], by simp [decimal, zero]; rfl, by simp, by simp, by simp [zero]⟩
  · refine ⟨(Nat.digits 10 n).reverse, by simp [decimal, zero], by simpa [Nat.digits_eq_nil_iff_eq_zero] using zero,
      fun d mem => Nat.digits_lt_base (by norm_num) (List.mem_reverse.1 mem), ?_⟩
    rw [List.reverse_reverse, Nat.ofDigits_digits]

namespace I64

/-- `from_str`'s loop, with its check at every digit, accepts what `fromStrSpec` does. -/
theorem fromStr_eq_spec (src : Bytes) : fromStr src = fromStrSpec src := by
  cases src with
  | nil => rfl
  | cons c rest =>
    simp only [fromStr, fromStrSpec]
    by_cases plus : c = 43
    · subst plus; cases rest <;> simp [accumulate_zero]
    by_cases minus : c = 45
    · subst minus; cases rest <;> simp [accumulate_zero]
    · simp [plus, minus, accumulate_zero]

/-- `from_str` accepts an optional sign and decimal digits whose value is an `i64`. -/
theorem fromStr_eq_some {src : Bytes} {v : Int} :
    fromStr src = some v ↔ ∃ sign ds, src = sign ++ ds.map digitByte ∧
      (sign = [] ∨ sign = [43] ∨ sign = [45]) ∧ ds ≠ [] ∧ (∀ d ∈ ds, d < 10) ∧
      v = signed (sign != [45]) (Nat.ofDigits 10 ds.reverse) ∧ FitsI64 v := by
  rw [fromStr_eq_spec]
  constructor
  · intro h
    cases src with
    | nil => cases h
    | cons c rest =>
      simp only [fromStrSpec] at h
      by_cases plus : c = 43
      · subst plus
        simp only [if_true] at h
        split_ifs at h with empty
        obtain ⟨ds, rfl, digits, rfl, fits⟩ := checked_digits_eq_some.1 h
        exact ⟨[43], ds, rfl, .inr (.inl rfl), fun nil => empty (by rw [nil]; rfl), digits, rfl, fits⟩
      by_cases minus : c = 45
      · subst minus
        simp only [show (45 : UInt8) ≠ 43 by decide, if_false, if_true] at h
        split_ifs at h with empty
        obtain ⟨ds, rfl, digits, rfl, fits⟩ := checked_digits_eq_some.1 h
        exact ⟨[45], ds, rfl, .inr (.inr rfl), fun nil => empty (by rw [nil]; rfl), digits, rfl, fits⟩
      · simp only [plus, minus, if_false, List.cons_ne_nil] at h
        obtain ⟨ds, eq, digits, rfl, fits⟩ := checked_digits_eq_some.1 h
        exact ⟨[], ds, eq, .inl rfl, fun nil => by simp [nil] at eq, digits, rfl, fits⟩
  · rintro ⟨sign, ds, rfl, sign_ok, ne, digits, rfl, fits⟩
    obtain ⟨d, ds', rfl⟩ := List.exists_cons_of_ne_nil ne
    obtain ⟨plus, minus⟩ := digitByte_ne_sign (digits d (List.mem_cons_self _ _))
    rcases sign_ok with rfl | rfl | rfl <;>
      simp only [List.nil_append, List.singleton_append, List.map_cons, fromStrSpec, plus, minus,
        if_true, if_false, List.cons_ne_nil, show (45 : UInt8) ≠ 43 by decide] <;>
      rw [← List.map_cons, checked_digits_eq_some] <;>
      exact ⟨_, rfl, digits, rfl, fits⟩

/-- `from_str` reads back what `to_string` writes, when it is an `i64`. -/
theorem fromStr_toString (v : Int) : fromStr (toString v) = checkedI64 v := by
  obtain ⟨ds, eq, ne, digits, value⟩ := decimal_digits v.natAbs
  obtain ⟨d, ds, rfl⟩ := List.exists_cons_of_ne_nil ne
  obtain ⟨plus, minus⟩ := digitByte_ne_sign (digits d (List.mem_cons_self _ _))
  rw [fromStr_eq_spec, toString, eq]
  by_cases neg : v < 0
  · simp only [neg, if_true, List.singleton_append, List.map_cons, fromStrSpec,
      show (45 : UInt8) ≠ 43 by decide, if_false, List.cons_ne_nil]
    rw [← List.map_cons, digitsValue_digits digits, value, Option.some_bind]
    simp [signed, abs_of_neg neg]
  · simp only [neg, if_false, List.nil_append, List.map_cons, fromStrSpec, plus, minus,
      List.cons_ne_nil]
    rw [← List.map_cons, digitsValue_digits digits, value, Option.some_bind]
    simp [signed, abs_of_nonneg (not_lt.1 neg)]

end I64

end PgDog.Net
