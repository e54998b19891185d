import PgDog.Net.RoundTrip

/-!
# Panics on a frame

No decoder checks a count or a length against the bytes it has: it reads the number, casts it,
and takes that many values with `Buf` reads, which panic past the end of the buffer. `Parse`
also sizes a `Vec` by its count cast to `usize`, which panics with capacity overflow first when
the count is negative. This file says exactly when each decoder panics, and how.
-/

namespace PgDog.Net

/-- `read` reads past the end of `bytes`. -/
def Overruns {α : Type} (read : Reader α) (bytes : Bytes) : Prop := read bytes = .error .overrun

/-- `read` takes exactly `k` bytes when there are that many, and reads past the end otherwise. -/
def Fixed {α : Type} (read : Reader α) (k : Nat) : Prop :=
  ∀ bytes, (k ≤ bytes.length → ∃ a, read bytes = .ok (a, bytes.drop k)) ∧
    (bytes.length < k → Overruns read bytes)

def afterCString (bytes : Bytes) : Bytes := (bytes.dropWhile (· != 0)).drop 1

theorem cStringBuf_eq (bytes : Bytes) :
    cStringBuf bytes = .ok (bytes.takeWhile (· != 0), afterCString bytes) := rfl

theorem overruns_bind_ok {α β : Type} {read : Reader α} {next : α → Reader β} {bytes rest : Bytes}
    {a : α} (h : read bytes = .ok (a, rest)) : Overruns (read >>= next) bytes ↔ Overruns (next a) rest := by
  rw [Overruns, Overruns, bind_ok h]

theorem overruns_bind_of {α β : Type} {read : Reader α} {next : α → Reader β} {bytes : Bytes}
    (h : Overruns read bytes) : Overruns (read >>= next) bytes := bind_error h

theorem bind_pure_error {α β : Type} {read : Reader α} {f : α → β} {bytes : Bytes} {e : Fault} :
    (read >>= fun x => Pure.pure (f x)) bytes = .error e ↔ read bytes = .error e := by
  cases h : read bytes with
  | error e => rw [bind_error h]; simp only [Except.error.injEq]
  | ok p => rw [bind_ok h]; exact ⟨Except.noConfusion, Except.noConfusion⟩

theorem overruns_map {α β : Type} {read : Reader α} {f : α → β} {bytes : Bytes} :
    Overruns (read >>= fun x => Pure.pure (f x)) bytes ↔ Overruns read bytes := bind_pure_error

theorem not_overruns_pure {α : Type} (a : α) (bytes : Bytes) : ¬ Overruns (Pure.pure a) bytes :=
  Except.noConfusion

theorem not_overruns_cStringBuf (bytes : Bytes) : ¬ Overruns cStringBuf bytes := Except.noConfusion

/-! ### Fixed-width reads -/

theorem fixed_pure {α : Type} (a : α) : Fixed (Pure.pure a) 0 :=
  fun _ => ⟨fun _ => ⟨a, rfl⟩, fun short => absurd short (Nat.not_lt_zero _)⟩

theorem fixed_getU8 : Fixed getU8 1
  | [] => ⟨fun short => absurd short (by decide), fun _ => rfl⟩
  | b :: _ => ⟨fun _ => ⟨b, rfl⟩, fun short => absurd short (by simp)⟩

theorem Fixed.bind {α β : Type} {read : Reader α} {next : α → Reader β} {k j : Nat}
    (first : Fixed read k) (second : ∀ a, Fixed (next a) j) : Fixed (read >>= next) (k + j) := by
  intro bytes
  constructor
  · intro enough
    obtain ⟨a, ha⟩ := (first bytes).1 (by omega)
    obtain ⟨b, hb⟩ := (second a (bytes.drop k)).1 (by simp only [List.length_drop]; omega)
    exact ⟨b, by rw [bind_ok ha, hb, List.drop_drop, Nat.add_comm]⟩
  · intro short
    by_cases early : bytes.length < k
    · exact bind_error ((first bytes).2 early)
    · obtain ⟨a, ha⟩ := (first bytes).1 (by omega)
      rw [Overruns, bind_ok ha]
      exact (second a _).2 (by simp only [List.length_drop]; omega)

theorem Fixed.congr {α : Type} {read : Reader α} {k k' : Nat} (fixed : Fixed read k) (same : k = k') :
    Fixed read k' := same ▸ fixed

theorem fixed_getI16 : Fixed getI16 2 := fixed_getU8.bind fun _ => fixed_getU8.bind fun _ => fixed_pure _

theorem fixed_getI32 : Fixed getI32 4 :=
  fixed_getU8.bind fun _ => fixed_getU8.bind fun _ => fixed_getU8.bind fun _ =>
    fixed_getU8.bind fun _ => fixed_pure _

theorem fixed_times {α : Type} {read : Reader α} {k : Nat} (fixed : Fixed read k) :
    ∀ n, Fixed (times read n) (n * k)
  | 0 => (fixed_pure _).congr (Nat.zero_mul k).symm
  | n + 1 => (fixed.bind fun _ => (fixed_times fixed n).bind fun _ => fixed_pure _).congr
      (by rw [Nat.succ_mul]; omega)

theorem Fixed.overruns_iff {α : Type} {read : Reader α} {k : Nat} (fixed : Fixed read k)
    (bytes : Bytes) : Overruns read bytes ↔ bytes.length < k := by
  refine ⟨fun over => Nat.lt_of_not_le fun enough => ?_, (fixed bytes).2⟩
  obtain ⟨a, ha⟩ := (fixed bytes).1 enough
  exact Except.noConfusion (ha.symm.trans over)

theorem Fixed.error_overrun {α : Type} {read : Reader α} {k : Nat} (fixed : Fixed read k)
    {bytes : Bytes} {e : Fault} (h : read bytes = .error e) : e = .overrun := by
  by_cases short : bytes.length < k
  · exact Except.error.inj (h.symm.trans ((fixed bytes).2 short))
  · obtain ⟨a, ha⟩ := (fixed bytes).1 (by omega)
    exact Except.noConfusion (ha.symm.trans h)

/-! ### Capacity overflow -/

def NoOverflow {α : Type} (read : Reader α) : Prop := ∀ bytes, read bytes ≠ .error .capacityOverflow

theorem Fixed.noOverflow {α : Type} {read : Reader α} {k : Nat} (fixed : Fixed read k) :
    NoOverflow read := fun _ h => Fault.noConfusion (fixed.error_overrun h)

theorem NoOverflow.bind {α β : Type} {read : Reader α} {next : α → Reader β}
    (first : NoOverflow read) (second : ∀ a, NoOverflow (next a)) : NoOverflow (read >>= next) := by
  intro bytes
  cases h : read bytes with
  | error e => rw [bind_error h]; rintro ⟨⟩; exact first bytes h
  | ok p => rw [bind_ok h]; exact second _ _

theorem NoOverflow.ite {α : Type} {c : Prop} [Decidable c] {a b : Reader α} (yes : NoOverflow a)
    (no : NoOverflow b) : NoOverflow (if c then a else b) := by
  split <;> assumption

theorem noOverflow_pure {α : Type} (a : α) : NoOverflow (Pure.pure a) := fun _ => Except.noConfusion

theorem noOverflow_cStringBuf : NoOverflow cStringBuf := fun _ => Except.noConfusion

theorem noOverflow_hasRemaining : NoOverflow hasRemaining := fun _ => Except.noConfusion

theorem noOverflow_times {α : Type} {read : Reader α} (each : NoOverflow read) :
    ∀ n, NoOverflow (times read n)
  | 0 => noOverflow_pure _
  | n + 1 => each.bind fun _ => (noOverflow_times each n).bind fun _ => noOverflow_pure _

/-! ### The frame around a body -/

/-- A frame read by `code c`, `get_i32` and `body` panics with `f` exactly when its tag is `c` and
`body` panics with `f` on the rest. -/
theorem run'_frame_panic {α : Type} {body : Reader α} {f : Fault} (panic : ∀ e, f ≠ .error e)
    (c : Char) (t : UInt8) (len : BitVec 32) (rest : Bytes) :
    (code c >>= fun _ => getI32 >>= fun _ => body).run' (t :: (putI32 len ++ rest)) = .error f ↔
      Char.ofNat t.toNat = c ∧ body rest = .error f := by
  have tag : code c (t :: (putI32 len ++ rest)) =
      if Char.ofNat t.toNat ≠ c then .error (.error (.unexpectedMessage c (Char.ofNat t.toNat)))
      else .ok ((), putI32 len ++ rest) := by
    rw [code, bind_ok rfl]
    split <;> rfl
  by_cases same : Char.ofNat t.toNat = c
  · rw [if_neg (not_not.mpr same)] at tag
    rw [Reader.run', bind_ok tag, bind_ok (reads_getI32 len rest)]
    cases body rest <;> simp [same]
  · rw [if_pos same] at tag
    simp [Reader.run', bind_error tag, same, fun e => (panic e).symm]

theorem run'_frame_overrun {α : Type} {body : Reader α} (c : Char) (t : UInt8) (len : BitVec 32)
    (rest : Bytes) :
    (code c >>= fun _ => getI32 >>= fun _ => body).run' (t :: (putI32 len ++ rest)) = .error .overrun ↔
      Char.ofNat t.toNat = c ∧ Overruns body rest := run'_frame_panic (fun _ => Fault.noConfusion) c t len rest

theorem run'_frame_noOverflow {α : Type} {body : Reader α} (safe : NoOverflow body) (c : Char)
    (t : UInt8) (len : BitVec 32) (rest : Bytes) :
    (code c >>= fun _ => getI32 >>= fun _ => body).run' (t :: (putI32 len ++ rest)) ≠
      .error .capacityOverflow :=
  fun h => safe rest ((run'_frame_panic (fun _ => Fault.noConfusion) c t len rest).1 h).2

/-- How `decode` panics on `b`: it reads past the end exactly when `overrun` holds and hits
capacity overflow exactly when `overflow` holds; otherwise it returns `Ok` or `Err`. -/
def PanicsWhen {α : Type} (decode : Bytes → Except Fault α) (b : Bytes) (overrun overflow : Prop) :
    Prop :=
  (decode b = .error .overrun ↔ overrun) ∧ (decode b = .error .capacityOverflow ↔ overflow)

/-! ### Each decoder's body -/

namespace DataRow

/-- Each `i32` column length, cast to `usize`, is at most the number of bytes after it. -/
def columnsFit : Nat → Bytes → Bool
  | 0, _ => true
  | n + 1, bytes =>
    match getI32 bytes with
    | .ok (len, rest) => decide (asUsize len ≤ rest.length) && columnsFit n (rest.drop (asUsize len))
    | .error _ => false

/-- The bytes after the tag and the length fit the body `from_bytes` reads. -/
def bodyFits (rest : Bytes) : Bool :=
  match getI16 rest with
  | .ok (count, columns) => columnsFit count.toInt.toNat columns
  | .error _ => false

theorem overruns_columns : ∀ (n : Nat) (bytes : Bytes),
    Overruns (times readColumn n) bytes ↔ columnsFit n bytes = false
  | 0, _ => by simp [times, columnsFit, not_overruns_pure]
  | n + 1, bytes => by
    rw [columnsFit]
    cases h : getI32 bytes with
    | error e =>
      rw [fixed_getI32.error_overrun h] at h
      exact iff_of_true (overruns_bind_of (overruns_bind_of h)) rfl
    | ok p =>
      obtain ⟨len, rest⟩ := p
      have column := fixed_times fixed_getU8 (asUsize len) rest
      rw [Nat.mul_one] at column
      have read : readColumn bytes = times getU8 (asUsize len) rest := bind_ok h
      by_cases fits : asUsize len ≤ rest.length
      · obtain ⟨column, hc⟩ := column.1 fits
        rw [times, overruns_bind_ok (read.trans hc), overruns_map, overruns_columns n]
        simp [fits]
      · exact iff_of_true (overruns_bind_of (read.trans (column.2 (by omega)))) (by simp [fits])

theorem overruns_body (rest : Bytes) :
    Overruns (getI16 >>= fun count => times readColumn count.toInt.toNat >>= fun columns =>
      Pure.pure (DataRow.mk columns)) rest ↔ bodyFits rest = false := by
  rw [bodyFits]
  cases h : getI16 rest with
  | error e =>
    rw [fixed_getI16.error_overrun h] at h
    exact iff_of_true (overruns_bind_of h) rfl
  | ok p => rw [overruns_bind_ok h, overruns_map, overruns_columns]

theorem fromBytes_overrun (t : UInt8) (len : BitVec 32) (rest : Bytes) :
    fromBytes (t :: (putI32 len ++ rest)) = .error .overrun ↔
      Char.ofNat t.toNat = 'D' ∧ bodyFits rest = false :=
  (run'_frame_overrun 'D' t len rest).trans (and_congr_right' (overruns_body rest))

theorem fromBytes_panics (t : UInt8) (len : BitVec 32) (rest : Bytes) :
    PanicsWhen fromBytes (t :: (putI32 len ++ rest)) (Char.ofNat t.toNat = 'D' ∧ bodyFits rest = false)
      False := by
  refine ⟨fromBytes_overrun t len rest, iff_of_false (run'_frame_noOverflow ?_ 'D' t len rest) id⟩
  exact fixed_getI16.noOverflow.bind fun _ => (noOverflow_times (fixed_getI32.noOverflow.bind fun _ =>
    noOverflow_times fixed_getU8.noOverflow _) _).bind fun _ => noOverflow_pure _

end DataRow

namespace RowDescription

def fieldsFit : Nat → Bytes → Bool
  | 0, _ => true
  | n + 1, bytes =>
    decide (18 ≤ (afterCString bytes).length) && fieldsFit n ((afterCString bytes).drop 18)

def bodyFits (rest : Bytes) : Bool :=
  match getI16 rest with
  | .ok (count, fields) => fieldsFit count.toInt.toNat fields
  | .error _ => false

theorem fixed_members (name : Bytes) : Fixed (readMembers name) 18 :=
  fixed_getI32.bind fun _ => fixed_getI16.bind fun _ => fixed_getI32.bind fun _ =>
    fixed_getI16.bind fun _ => fixed_getI32.bind fun _ => fixed_getI16.bind fun _ => fixed_pure _

theorem overruns_fields : ∀ (n : Nat) (bytes : Bytes),
    Overruns (times readField n) bytes ↔ fieldsFit n bytes = false
  | 0, _ => by simp [times, fieldsFit, not_overruns_pure]
  | n + 1, bytes => by
    have read : readField bytes = readMembers _ (afterCString bytes) := bind_ok (cStringBuf_eq bytes)
    rw [fieldsFit]
    by_cases fits : 18 ≤ (afterCString bytes).length
    · obtain ⟨f, hf⟩ := (fixed_members _ _).1 fits
      rw [times, overruns_bind_ok (read.trans hf), overruns_map, overruns_fields n]
      simp [fits]
    · exact iff_of_true (overruns_bind_of (read.trans ((fixed_members _ _).2 (by omega))))
        (by simp [fits])

theorem overruns_body (rest : Bytes) :
    Overruns (getI16 >>= fun count => times readField count.toInt.toNat >>= fun fields =>
      Pure.pure (RowDescription.mk fields)) rest ↔ bodyFits rest = false := by
  rw [bodyFits]
  cases h : getI16 rest with
  | error e =>
    rw [fixed_getI16.error_overrun h] at h
    exact iff_of_true (overruns_bind_of h) rfl
  | ok p => rw [overruns_bind_ok h, overruns_map, overruns_fields]

theorem fromBytes_overrun (t : UInt8) (len : BitVec 32) (rest : Bytes) :
    fromBytes (t :: (putI32 len ++ rest)) = .error .overrun ↔
      Char.ofNat t.toNat = 'T' ∧ bodyFits rest = false :=
  (run'_frame_overrun 'T' t len rest).trans (and_congr_right' (overruns_body rest))

theorem fromBytes_panics (t : UInt8) (len : BitVec 32) (rest : Bytes) :
    PanicsWhen fromBytes (t :: (putI32 len ++ rest)) (Char.ofNat t.toNat = 'T' ∧ bodyFits rest = false)
      False := by
  refine ⟨fromBytes_overrun t len rest, iff_of_false (run'_frame_noOverflow ?_ 'T' t len rest) id⟩
  exact fixed_getI16.noOverflow.bind fun _ => (noOverflow_times (noOverflow_cStringBuf.bind fun _ =>
    (fixed_members _).noOverflow) _).bind fun _ => noOverflow_pure _

end RowDescription

namespace Parse

/-- After the two strings, the `i16` count is negative. -/
def countOverflows (rest : Bytes) : Bool :=
  match getI16 (afterCString (afterCString rest)) with
  | .ok (count, _) => decide (count.toInt < 0)
  | .error _ => false

/-- After the two strings come an `i16` count and, unless it is negative, the `i32`s it asks for. -/
def bodyFits (rest : Bytes) : Bool :=
  match getI16 (afterCString (afterCString rest)) with
  | .ok (count, types) => decide (count.toInt < 0 ∨ asUsize count * 4 ≤ types.length)
  | .error _ => false

theorem capacity_lt_iff (count : BitVec 16) : 2 ^ 63 - 1 < asUsize count * 4 ↔ count.toInt < 0 := by
  have small := count.isLt
  rw [asUsize, BitVec.toInt_eq_toNat_cond]
  split <;> omega

theorem collect_nonneg {count : BitVec 16} (nonneg : ¬ count.toInt < 0) :
    collect 4 getI32 (asUsize count) = times getI32 (asUsize count) :=
  collect_of_le _ (Nat.le_of_not_lt (mt (capacity_lt_iff count).1 nonneg))

theorem overruns_body (rest : Bytes) :
    Overruns (cStringBuf >>= fun name => cStringBuf >>= fun query => getI16 >>= fun count =>
      collect 4 getI32 (asUsize count) >>= fun dataTypes => Pure.pure (Parse.mk name query dataTypes))
      rest ↔ bodyFits rest = false := by
  rw [overruns_bind_ok (cStringBuf_eq rest), overruns_bind_ok (cStringBuf_eq _), bodyFits]
  cases h : getI16 (afterCString (afterCString rest)) with
  | error e =>
    rw [fixed_getI16.error_overrun h] at h
    exact iff_of_true (overruns_bind_of h) rfl
  | ok p =>
    obtain ⟨count, types⟩ := p
    rw [overruns_bind_ok h, overruns_map]
    by_cases neg : count.toInt < 0
    · rw [Overruns, collect_overflow _ ((capacity_lt_iff count).2 neg)]
      simp [neg]
    · rw [collect_nonneg neg, (fixed_times fixed_getI32 _).overruns_iff]
      simp [neg]

theorem overflows_body (rest : Bytes) :
    (cStringBuf >>= fun name => cStringBuf >>= fun query => getI16 >>= fun count =>
      collect 4 getI32 (asUsize count) >>= fun dataTypes => Pure.pure (Parse.mk name query dataTypes))
      rest = .error .capacityOverflow ↔ countOverflows rest = true := by
  rw [bind_ok (cStringBuf_eq rest), bind_ok (cStringBuf_eq _), countOverflows]
  cases h : getI16 (afterCString (afterCString rest)) with
  | error e =>
    rw [bind_error h, fixed_getI16.error_overrun h]
    simp
  | ok p =>
    obtain ⟨count, types⟩ := p
    rw [bind_ok h, bind_pure_error]
    by_cases neg : count.toInt < 0
    · rw [collect_overflow _ ((capacity_lt_iff count).2 neg)]
      simp [neg]
    · rw [collect_nonneg neg]
      exact iff_of_false (noOverflow_times fixed_getI32.noOverflow _ _) (by simp [neg])

theorem fromBytes_panics (t : UInt8) (len : BitVec 32) (rest : Bytes) :
    PanicsWhen fromBytes (t :: (putI32 len ++ rest)) (Char.ofNat t.toNat = 'P' ∧ bodyFits rest = false)
      (Char.ofNat t.toNat = 'P' ∧ countOverflows rest = true) :=
  ⟨(run'_frame_overrun 'P' t len rest).trans (and_congr_right' (overruns_body rest)),
    (run'_frame_panic (fun _ => Fault.noConfusion) 'P' t len rest).trans
      (and_congr_right' (overflows_body rest))⟩

end Parse

namespace ParameterStatus

theorem fromBytes_no_overrun (t : UInt8) (len : BitVec 32) (rest : Bytes) :
    fromBytes (t :: (putI32 len ++ rest)) ≠ .error .overrun := fun over => by
  have body := ((run'_frame_overrun 'S' t len rest).1 over).2
  rw [overruns_bind_ok (cStringBuf_eq rest), overruns_bind_ok (cStringBuf_eq _)] at body
  exact not_overruns_pure _ _ body

theorem fromBytes_panics (t : UInt8) (len : BitVec 32) (rest : Bytes) :
    PanicsWhen fromBytes (t :: (putI32 len ++ rest)) False False :=
  ⟨iff_of_false (fromBytes_no_overrun t len rest) id, iff_of_false (run'_frame_noOverflow
    (noOverflow_cStringBuf.bind fun _ => noOverflow_cStringBuf.bind fun _ => noOverflow_pure _)
    'S' t len rest) id⟩

end ParameterStatus

namespace Password

/-- After the first string, either nothing is left or an `i32` length is there. -/
def bodyFits (rest : Bytes) : Bool :=
  (afterCString rest).isEmpty || decide (4 ≤ (afterCString rest).length)

theorem fromBytes_overrun (t : UInt8) (len : BitVec 32) (rest : Bytes) :
    fromBytes (t :: (putI32 len ++ rest)) = .error .overrun ↔
      Char.ofNat t.toNat = 'p' ∧ bodyFits rest = false := by
  refine (run'_frame_overrun 'p' t len rest).trans (and_congr_right' ?_)
  rw [overruns_bind_ok (cStringBuf_eq rest), overruns_bind_ok rfl, bodyFits]
  cases after : afterCString rest with
  | nil => exact iff_of_false (not_overruns_pure _ _) (by simp)
  | cons b more =>
    rw [if_pos (show (!(b :: more).isEmpty) = true from rfl)]
    by_cases enough : 4 ≤ (b :: more).length
    · obtain ⟨n, hn⟩ := (fixed_getI32 _).1 enough
      rw [overruns_bind_ok hn]
      refine iff_of_false ?_ (by simpa using enough)
      split <;> intro over <;> dsimp only at over
      · rw [overruns_bind_ok (cStringBuf_eq _)] at over
        exact not_overruns_pure _ _ over
      · rw [overruns_bind_ok rfl] at over
        exact not_overruns_pure _ _ over
    · exact iff_of_true (overruns_bind_of ((fixed_getI32 _).2 (by omega))) (by simpa using enough)

theorem fromBytes_panics (t : UInt8) (len : BitVec 32) (rest : Bytes) :
    PanicsWhen fromBytes (t :: (putI32 len ++ rest)) (Char.ofNat t.toNat = 'p' ∧ bodyFits rest = false)
      False := by
  refine ⟨fromBytes_overrun t len rest, iff_of_false (run'_frame_noOverflow ?_ 'p' t len rest) id⟩
  exact noOverflow_cStringBuf.bind fun _ => noOverflow_hasRemaining.bind
    fun _ => .ite (fixed_getI32.noOverflow.bind fun _ =>
      .ite (noOverflow_cStringBuf.bind fun _ => noOverflow_pure _)
        ((noOverflow_pure _).bind fun _ => noOverflow_pure _)) (noOverflow_pure _)

end Password

/-! ### Every frame -/

/-- A frame as `Stream::read` delivers it: a tag, then an `i32` length of the bytes after it. -/
def Framed (b : Bytes) : Prop := ∃ t rest, b = t :: (putI32 (asSigned 32 (rest.length + 4)) ++ rest)

/-- On every frame `ParameterStatus::from_bytes` never panics; each other decoder reads past the
end exactly when a count or length, cast as it casts it, asks for more bytes than follow, except
that `Parse` panics with capacity overflow first when its count is negative. -/
theorem from_bytes_panics (t : UInt8) (len : BitVec 32) (rest : Bytes) :
    PanicsWhen ParameterStatus.fromBytes (t :: (putI32 len ++ rest)) False False ∧
    PanicsWhen DataRow.fromBytes (t :: (putI32 len ++ rest))
      (Char.ofNat t.toNat = 'D' ∧ DataRow.bodyFits rest = false) False ∧
    PanicsWhen RowDescription.fromBytes (t :: (putI32 len ++ rest))
      (Char.ofNat t.toNat = 'T' ∧ RowDescription.bodyFits rest = false) False ∧
    PanicsWhen Parse.fromBytes (t :: (putI32 len ++ rest))
      (Char.ofNat t.toNat = 'P' ∧ Parse.bodyFits rest = false)
      (Char.ofNat t.toNat = 'P' ∧ Parse.countOverflows rest = true) ∧
    PanicsWhen Password.fromBytes (t :: (putI32 len ++ rest))
      (Char.ofNat t.toNat = 'p' ∧ Password.bodyFits rest = false) False :=
  ⟨ParameterStatus.fromBytes_panics t len rest, DataRow.fromBytes_panics t len rest,
    RowDescription.fromBytes_panics t len rest, Parse.fromBytes_panics t len rest,
    Password.fromBytes_panics t len rest⟩

example : Parse.fromBytes (80 :: (putI32 (asSigned 32 8) ++ [0, 0, 128, 0])) =
    .error .capacityOverflow := by decide

/-- A `DataRow` with a NULL column, as PostgreSQL sends it, is read past its end. -/
theorem from_bytes_null_column :
    ¬ ∀ b, Framed b → DataRow.fromBytes b ≠ .error .overrun ∧
      RowDescription.fromBytes b ≠ .error .overrun ∧ Parse.fromBytes b ≠ .error .overrun ∧
      ParameterStatus.fromBytes b ≠ .error .overrun ∧ Password.fromBytes b ≠ .error .overrun :=
  fun claim => (claim (68 :: (putI32 (asSigned 32 10) ++ [0, 1, 255, 255, 255, 255]))
    ⟨68, [0, 1, 255, 255, 255, 255], rfl⟩).1
      ((DataRow.fromBytes_overrun _ _ _).2 ⟨by decide, by decide⟩)

end PgDog.Net
