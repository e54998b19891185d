import Mathlib

/-!
# Wire primitives

The `bytes::Buf` reads that the message decoders make and the `Payload` writer that the
encoders use. A `Buf` read past the end of the buffer panics; a decoder's result keeps that
apart from the `Err` it returns.
-/

namespace PgDog.Net

/-- A byte buffer (`bytes::Bytes`). A Rust string is kept as its bytes. -/
abbrev Bytes := List UInt8

def ascii (s : String) : Bytes := s.toList.map fun c => UInt8.ofNat c.toNat

/-- `crate::net::Error`, the variant the message decoders return. -/
inductive Error where
  | unexpectedMessage (expected got : Char)
  deriving DecidableEq, Repr

/-- How a decoder stops short of a value: the `Err` it returns, a `Buf` read past the end, or the
"capacity overflow" of a `Vec` sized past `isize::MAX` bytes. -/
inductive Fault where
  | error (e : Error)
  | overrun
  | capacityOverflow
  deriving DecidableEq, Repr

instance decidableEqExcept {ε α : Type} [DecidableEq ε] [DecidableEq α] : DecidableEq (Except ε α)
  | .ok a, .ok b => decidable_of_iff (a = b) (by simp)
  | .error a, .error b => decidable_of_iff (a = b) (by simp)
  | .ok _, .error _ => isFalse Except.noConfusion
  | .error _, .ok _ => isFalse Except.noConfusion

abbrev Reader (α : Type) := StateT Bytes (Except Fault) α

def getU8 : Reader UInt8 := fun
  | b :: rest => .ok (b, rest)
  | [] => .error .overrun

def getI16 : Reader (BitVec 16) := do
  let b₁ ← getU8
  let b₀ ← getU8
  pure (BitVec.ofNat 16 (b₁.toNat * 2 ^ 8 + b₀.toNat))

def getI32 : Reader (BitVec 32) := do
  let b₃ ← getU8
  let b₂ ← getU8
  let b₁ ← getU8
  let b₀ ← getU8
  pure (BitVec.ofNat 32 (b₃.toNat * 2 ^ 24 + b₂.toNat * 2 ^ 16 + b₁.toNat * 2 ^ 8 + b₀.toNat))

def hasRemaining : Reader Bool := fun bytes => .ok (!bytes.isEmpty, bytes)

/-- Modelled from the spec: `c_string_buf` (net/mod.rs): the bytes before the first NUL, which
it consumes, or the rest when there is none. -/
def cStringBuf : Reader Bytes := fun bytes =>
  .ok (bytes.takeWhile (· != 0), (bytes.dropWhile (· != 0)).drop 1)

/-- `read` run `n` times: a `for` loop, or `(0..n).map(|_| read).collect()` over an `i16` range. -/
def times {α : Type} (read : Reader α) : Nat → Reader (List α)
  | 0 => pure []
  | n + 1 => do
    let a ← read
    let rest ← times read n
    pure (a :: rest)

/-- `(0..n).map(|_| read).collect::<Vec<_>>()` over a `usize` range of `size`-byte elements: `Vec`
allocates the range's length before the first `read`. -/
def collect {α : Type} (size : Nat) (read : Reader α) (n : Nat) : Reader (List α) :=
  if 2 ^ 63 - 1 < n * size then throw .capacityOverflow else times read n

/-- The `code!` macro: read the tag and return `UnexpectedMessage` unless it is `expected`. -/
def code (expected : Char) : Reader Unit := do
  let got := Char.ofNat (← getU8).toNat
  if got ≠ expected then throw (.error (.unexpectedMessage expected got))

/-- `x as usize` for a signed `x`, on a 64-bit target. -/
def asUsize {w : Nat} (x : BitVec w) : Nat := (x.toInt % 2 ^ 64).toNat

/-- `n as i16` and `n as i32` for a `usize` `n`: wrap to the width. -/
def asSigned (w n : Nat) : BitVec w := BitVec.ofNat w n

def putI16 (v : BitVec 16) : Bytes :=
  [UInt8.ofNat (v.toNat / 2 ^ 8), UInt8.ofNat v.toNat]

def putI32 (v : BitVec 32) : Bytes :=
  [UInt8.ofNat (v.toNat / 2 ^ 24), UInt8.ofNat (v.toNat / 2 ^ 16),
    UInt8.ofNat (v.toNat / 2 ^ 8), UInt8.ofNat v.toNat]

/-- Modelled from the spec: `Payload` (messages/payload.rs): a tag, the bytes after the length. -/
structure Payload where
  name : Char
  bytes : Bytes

namespace Payload

def named (name : Char) : Payload := ⟨name, []⟩

def putI16 (p : Payload) (v : BitVec 16) : Payload := { p with bytes := p.bytes ++ Net.putI16 v }

def putI32 (p : Payload) (v : BitVec 32) : Payload := { p with bytes := p.bytes ++ Net.putI32 v }

def putString (p : Payload) (s : Bytes) : Payload := { p with bytes := p.bytes ++ s ++ [0] }

def put (p : Payload) (s : Bytes) : Payload := { p with bytes := p.bytes ++ s }

/-- `Payload::freeze`: `[tag][length, an i32 that counts itself][payload]`. -/
def freeze (p : Payload) : Bytes :=
  UInt8.ofNat p.name.toNat :: (Net.putI32 (asSigned 32 (p.bytes.length + 4)) ++ p.bytes)

end Payload

/-! ### Reading back what was written -/

/-- `read` consumes exactly `encoded` and returns `value`, whatever follows. -/
def Reads {α : Type} (read : Reader α) (value : α) (encoded : Bytes) : Prop :=
  ∀ rest, read (encoded ++ rest) = .ok (value, rest)

theorem bind_ok {α β : Type} {read : Reader α} {next : α → Reader β} {bytes rest : Bytes} {a : α}
    (h : read bytes = .ok (a, rest)) : (read >>= next) bytes = next a rest := by
  show (read bytes >>= fun p => next p.1 p.2) = _
  rw [h]
  rfl

theorem bind_error {α β : Type} {read : Reader α} {next : α → Reader β} {bytes : Bytes} {e : Fault}
    (h : read bytes = .error e) : (read >>= next) bytes = .error e := by
  show (read bytes >>= fun p => next p.1 p.2) = _
  rw [h]
  rfl

theorem Reads.pure {α : Type} (value : α) : Reads (Pure.pure value) value [] := fun _ => rfl

theorem Reads.bind {α β : Type} {read : Reader α} {next : α → Reader β} {a : α} {b : β}
    {ea eb : Bytes} (first : Reads read a ea) (second : Reads (next a) b eb) :
    Reads (read >>= next) b (ea ++ eb) := by
  intro rest
  rw [List.append_assoc, bind_ok (first _)]
  exact second rest

theorem Reads.map {α β : Type} {read : Reader α} {f : α → β} {a : α} {encoded : Bytes}
    (reads : Reads read a encoded) : Reads (read >>= fun x => Pure.pure (f x)) (f a) encoded := by
  intro rest
  rw [bind_ok (reads rest)]
  rfl

theorem uint8_toNat_ofNat (n : Nat) : (UInt8.ofNat n).toNat = n % 2 ^ 8 := by
  simp [UInt8.toNat, UInt8.ofNat]

theorem getI16_cons (b₁ b₀ : UInt8) (rest : Bytes) :
    getI16 (b₁ :: b₀ :: rest) = .ok (BitVec.ofNat 16 (b₁.toNat * 2 ^ 8 + b₀.toNat), rest) := rfl

theorem getI32_cons (b₃ b₂ b₁ b₀ : UInt8) (rest : Bytes) :
    getI32 (b₃ :: b₂ :: b₁ :: b₀ :: rest) = .ok (BitVec.ofNat 32
      (b₃.toNat * 2 ^ 24 + b₂.toNat * 2 ^ 16 + b₁.toNat * 2 ^ 8 + b₀.toNat), rest) := rfl

theorem reads_getI16 (v : BitVec 16) : Reads getI16 v (putI16 v) := by
  intro rest
  have small := v.isLt
  rw [putI16, List.cons_append, List.cons_append, List.nil_append, getI16_cons]
  congr
  apply BitVec.eq_of_toNat_eq
  simp only [uint8_toNat_ofNat, BitVec.toNat_ofNat]
  omega

theorem reads_getI32 (v : BitVec 32) : Reads getI32 v (putI32 v) := by
  intro rest
  have small := v.isLt
  simp only [putI32, List.cons_append, List.nil_append, getI32_cons]
  congr
  apply BitVec.eq_of_toNat_eq
  simp only [uint8_toNat_ofNat, BitVec.toNat_ofNat]
  omega

theorem reads_cStringBuf {s : Bytes} (noNul : 0 ∉ s) : Reads cStringBuf s (s ++ [0]) := by
  intro rest
  induction s with
  | nil => rfl
  | cons b s ih =>
    have nonzero : b ≠ 0 := fun same => noNul (same ▸ List.mem_cons_self _ _)
    have tail := ih (fun mem => noNul (List.mem_cons_of_mem _ mem))
    simp only [cStringBuf, Except.ok.injEq, Prod.mk.injEq, List.append_assoc, List.singleton_append,
      List.drop_one] at tail
    simp [cStringBuf, List.takeWhile_cons, List.dropWhile_cons, nonzero, tail]

theorem reads_times {α : Type} {read : Reader α} {encode : α → Bytes} {values : List α}
    (each : ∀ v ∈ values, Reads read v (encode v)) :
    Reads (times read values.length) values (values.map encode).flatten := by
  induction values with
  | nil => exact Reads.pure _
  | cons v values ih =>
    exact (each v (List.mem_cons_self _ _)).bind (ih fun w mem => each w (List.mem_cons_of_mem _ mem)).map

theorem collect_of_le {α : Type} {size n : Nat} (read : Reader α) (small : n * size ≤ 2 ^ 63 - 1) :
    collect size read n = times read n := if_neg (Nat.not_lt.2 small)

theorem collect_overflow {α : Type} {size n : Nat} (read : Reader α) (large : 2 ^ 63 - 1 < n * size)
    (bytes : Bytes) : collect size read n bytes = .error .capacityOverflow := by
  rw [collect, if_pos large]
  rfl

theorem reads_code {c : Char} (ascii : c.toNat < 2 ^ 8) : Reads (code c) () [UInt8.ofNat c.toNat] := by
  intro rest
  have same : Char.ofNat (UInt8.ofNat c.toNat).toNat = c := by
    rw [uint8_toNat_ofNat, Nat.mod_eq_of_lt ascii, Char.ofNat_toNat]
  rw [code, bind_ok rfl, if_neg (not_not.mpr same)]
  rfl

theorem code_other {c : Char} {t : UInt8} {rest : Bytes} (other : Char.ofNat t.toNat ≠ c) :
    code c (t :: rest) = .error (.error (.unexpectedMessage c (Char.ofNat t.toNat))) := by
  rw [code, bind_ok rfl, if_pos other]
  rfl

end PgDog.Net
