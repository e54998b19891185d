import PgDog.Net.Messages

/-!
# Codec round trips

`from_bytes (to_bytes m) = Ok m` for `DataRow`, `RowDescription`, `Parse`, `ParameterStatus`
and `Password`, for every value whose strings hold no NUL and whose lists and columns fit the
wire's `i16` counts and `i32` lengths.
-/

namespace PgDog.Net

/-! ### Casts -/

theorem toInt_asSigned {w n : Nat} (small : 2 * n < 2 ^ w) : (asSigned w n).toInt = n := by
  have below : n < 2 ^ w := by omega
  rw [BitVec.toInt_eq_toNat_cond, asSigned, BitVec.toNat_ofNat, Nat.mod_eq_of_lt below, if_pos small]

theorem asUsize_asSigned {w n : Nat} (small : 2 * n < 2 ^ w) (narrow : w ≤ 64) :
    asUsize (asSigned w n) = n := by
  have below : n < 2 ^ 64 := by
    have := Nat.pow_le_pow_right (show 0 < 2 by decide) narrow
    omega
  rw [asUsize, toInt_asSigned small]
  omega

/-! ### What the encoders write -/

@[simp] theorem Payload.putI16_bytes (p : Payload) (v : BitVec 16) :
    (p.putI16 v).bytes = p.bytes ++ Net.putI16 v := rfl

@[simp] theorem Payload.putI32_bytes (p : Payload) (v : BitVec 32) :
    (p.putI32 v).bytes = p.bytes ++ Net.putI32 v := rfl

@[simp] theorem Payload.putString_bytes (p : Payload) (s : Bytes) :
    (p.putString s).bytes = p.bytes ++ (s ++ [0]) := by simp [Payload.putString]

@[simp] theorem Payload.put_bytes (p : Payload) (s : Bytes) : (p.put s).bytes = p.bytes ++ s := rfl

@[simp] theorem Payload.named_bytes (c : Char) : (Payload.named c).bytes = [] := rfl

@[simp] theorem Payload.named_name (c : Char) : (Payload.named c).name = c := rfl

@[simp] theorem Payload.putI32_name (p : Payload) (v : BitVec 32) : (p.putI32 v).name = p.name := rfl

@[simp] theorem Payload.putString_name (p : Payload) (s : Bytes) : (p.putString s).name = p.name := rfl

@[simp] theorem Payload.put_name (p : Payload) (s : Bytes) : (p.put s).name = p.name := rfl

theorem Payload.freeze_eq (p : Payload) :
    p.freeze = [UInt8.ofNat p.name.toNat] ++ (Net.putI32 (asSigned 32 (p.bytes.length + 4)) ++ p.bytes) :=
  rfl

theorem Payload.foldl_bytes {α : Type} (f : Payload → α → Payload) (encode : α → Bytes)
    (step : ∀ p x, f p x = ⟨p.name, p.bytes ++ encode x⟩) (xs : List α) (init : Payload) :
    xs.foldl f init = ⟨init.name, init.bytes ++ (xs.map encode).flatten⟩ := by
  induction xs generalizing init with
  | nil => simp
  | cons x xs ih => simp [ih, step, List.append_assoc]

/-! ### Reading back the frames -/

theorem Reads.of_eq {α : Type} {read : Reader α} {a : α} {ea eb : Bytes} (reads : Reads read a ea)
    (same : ea = eb) : Reads read a eb := same ▸ reads

theorem Reads.run' {α : Type} {read : Reader α} {a : α} {encoded : Bytes}
    (reads : Reads read a encoded) : read.run' encoded = .ok a := by
  have whole := reads []
  rw [List.append_nil] at whole
  rw [Reader.run', whole]
  rfl

theorem reads_freeze {α : Type} {c : Char} {body : Reader α} {b : α} {p : Payload}
    (named : p.name = c) (ascii : c.toNat < 2 ^ 8) (reads : Reads body b p.bytes) :
    Reads (code c >>= fun _ => getI32 >>= fun _ => body) b p.freeze := by
  rw [Payload.freeze_eq, named]
  exact (reads_code ascii).bind ((reads_getI32 _).bind reads)

theorem run_freeze {α : Type} (c : Char) {body : Reader α} {b : α} {p : Payload}
    (named : p.name = c) (ascii : c.toNat < 2 ^ 8) (reads : body p.bytes = .ok (b, [])) :
    (code c >>= fun _ => getI32 >>= fun _ => body).run' p.freeze = .ok b := by
  rw [Payload.freeze_eq, named, Reader.run', bind_ok (reads_code ascii _), bind_ok (reads_getI32 _ _),
    reads]
  rfl

theorem cStringBuf_of_noNul {s : Bytes} (noNul : 0 ∉ s) : cStringBuf s = .ok (s, []) := by
  induction s with
  | nil => rfl
  | cons b s ih =>
    have nonzero : b ≠ 0 := fun same => noNul (same ▸ List.mem_cons_self _ _)
    have tail := ih (fun mem => noNul (List.mem_cons_of_mem _ mem))
    simp only [cStringBuf, Except.ok.injEq, Prod.mk.injEq] at tail
    simp [cStringBuf, List.takeWhile_cons, List.dropWhile_cons, nonzero, tail]

theorem reads_counted {α β : Type} {read : Reader α} {encode : α → Bytes} (f : List α → β)
    (take : BitVec 16 → Reader (List α)) {xs : List α} (each : ∀ x ∈ xs, Reads read x (encode x))
    (count : take (asSigned 16 xs.length) = times read xs.length) :
    Reads (getI16 >>= fun c => take c >>= fun ys => Pure.pure (f ys)) (f xs)
      (putI16 (asSigned 16 xs.length) ++ (xs.map encode).flatten) := by
  refine (reads_getI16 _).bind ?_
  simp only [count]
  exact (reads_times each).map

theorem toInt_toNat_asSigned {n : Nat} (short : 2 * n < 2 ^ 16) : (asSigned 16 n).toInt.toNat = n := by
  rw [toInt_asSigned short, Int.toNat_ofNat]

namespace DataRow

/-- Every column shorter than `2 ^ 31` bytes, at most `32767` columns. -/
def Fits (dr : DataRow) : Prop :=
  2 * dr.columns.length < 2 ^ 16 ∧ ∀ column ∈ dr.columns, 2 * column.length < 2 ^ 32

instance (dr : DataRow) : Decidable dr.Fits := inferInstanceAs (Decidable (_ ∧ _))

def encodeColumn (column : Bytes) : Bytes := putI32 (asSigned 32 column.length) ++ column

theorem reads_column {column : Bytes} (short : 2 * column.length < 2 ^ 32) :
    Reads readColumn column (encodeColumn column) := by
  refine (reads_getI32 _).bind ?_
  rw [asUsize_asSigned short (by decide)]
  have bytes := @reads_times _ getU8 (fun b => [b]) column fun _ _ _ => rfl
  rwa [← List.flatMap_def, List.flatMap_singleton'] at bytes

theorem reads_toBytes {dr : DataRow} (fits : dr.Fits) : Reads read dr dr.toBytes := by
  rw [toBytes, Payload.foldl_bytes _ encodeColumn fun _ _ => by
    simp [encodeColumn, Payload.put, Payload.putI32]]
  refine reads_freeze rfl (by decide) ?_
  simpa using reads_counted DataRow.mk (fun c => times readColumn c.toInt.toNat) (fun c mem => reads_column (fits.2 c mem))
    (congrArg _ (toInt_toNat_asSigned fits.1))

theorem fromBytes_toBytes {dr : DataRow} (fits : dr.Fits) : fromBytes dr.toBytes = .ok dr :=
  (reads_toBytes fits).run'

end DataRow

namespace RowDescription

def Fits (rd : RowDescription) : Prop :=
  2 * rd.fields.length < 2 ^ 16 ∧ ∀ f ∈ rd.fields, 0 ∉ f.name

instance (rd : RowDescription) : Decidable rd.Fits := inferInstanceAs (Decidable (_ ∧ _))

def encodeMembers (f : Field) : Bytes :=
  putI32 f.tableOid ++ (putI16 f.column ++ (putI32 f.typeOid ++ (putI16 f.typeSize ++
    (putI32 f.typeModifier ++ putI16 f.format))))

def encodeField (f : Field) : Bytes := f.name ++ [0] ++ encodeMembers f

theorem reads_members (f : Field) : Reads (readMembers f.name) f (encodeMembers f) :=
  (reads_getI32 _).bind ((reads_getI16 _).bind ((reads_getI32 _).bind ((reads_getI16 _).bind
    ((reads_getI32 _).bind (reads_getI16 _).map))))

theorem reads_field {f : Field} (noNul : 0 ∉ f.name) : Reads readField f (encodeField f) :=
  (reads_cStringBuf noNul).bind (reads_members f)

theorem reads_toBytes {rd : RowDescription} (fits : rd.Fits) : Reads read rd rd.toBytes := by
  rw [toBytes, Payload.foldl_bytes _ encodeField fun _ _ => by
    simp [putField, encodeField, encodeMembers, Payload.putString, Payload.putI16, Payload.putI32]]
  refine reads_freeze rfl (by decide) ?_
  simpa using reads_counted RowDescription.mk (fun c => times readField c.toInt.toNat) (fun f mem => reads_field (fits.2 f mem))
    (congrArg _ (toInt_toNat_asSigned fits.1))

theorem fromBytes_toBytes {rd : RowDescription} (fits : rd.Fits) : fromBytes rd.toBytes = .ok rd :=
  (reads_toBytes fits).run'

end RowDescription

namespace Parse

def Fits (p : Parse) : Prop := 0 ∉ p.name ∧ 0 ∉ p.query ∧ 2 * p.dataTypes.length < 2 ^ 16

instance (p : Parse) : Decidable p.Fits := inferInstanceAs (Decidable (_ ∧ _ ∧ _))

theorem reads_toBytes {p : Parse} (fits : p.Fits) : Reads read p p.toBytes := by
  rw [toBytes, Payload.foldl_bytes Payload.putI32 Net.putI32 fun _ _ => rfl]
  exact reads_freeze rfl (by decide) (Reads.of_eq ((reads_cStringBuf fits.1).bind
    ((reads_cStringBuf fits.2.1).bind (reads_counted (Parse.mk p.name p.query)
      (fun c => collect 4 getI32 (asUsize c)) (fun v _ => reads_getI32 v)
      (by beta_reduce; rw [asUsize_asSigned fits.2.2 (by decide), collect_of_le _ (by have := fits.2.2; omega)]))))
      (by simp))

theorem fromBytes_toBytes {p : Parse} (fits : p.Fits) : fromBytes p.toBytes = .ok p :=
  (reads_toBytes fits).run'

end Parse

namespace ParameterStatus

def Fits (ps : ParameterStatus) : Prop := 0 ∉ ps.name ∧ 0 ∉ ps.value

instance (ps : ParameterStatus) : Decidable ps.Fits := inferInstanceAs (Decidable (_ ∧ _))

theorem reads_toBytes {ps : ParameterStatus} (fits : ps.Fits) : Reads read ps ps.toBytes := by
  rw [toBytes]
  exact reads_freeze rfl (by decide) (Reads.of_eq ((reads_cStringBuf fits.1).bind
    (reads_cStringBuf fits.2).map) (by simp))

theorem fromBytes_toBytes {ps : ParameterStatus} (fits : ps.Fits) : fromBytes ps.toBytes = .ok ps :=
  (reads_toBytes fits).run'

end ParameterStatus

namespace Password

/-- No NUL in the strings; a SASL initial response shorter than `2 ^ 31` bytes. -/
def Fits : Password → Prop
  | .saslInitialResponse name response => 0 ∉ name ∧ 0 ∉ response ∧ 2 * response.length < 2 ^ 32
  | .saslResponse response => 0 ∉ response

instance : DecidablePred Fits
  | .saslInitialResponse .. => inferInstanceAs (Decidable (_ ∧ _ ∧ _))
  | .saslResponse _ => inferInstanceAs (Decidable (_ ∉ _))

theorem fromBytes_toBytes : ∀ {pw : Password}, pw.Fits → fromBytes pw.toBytes = .ok pw
  | .saslInitialResponse name response, ⟨noNulName, noNulResponse, short⟩ => by
    rw [fromBytes, toBytes]
    refine run_freeze 'p' rfl (by decide) ?_
    have bytes : ((((Payload.named 'p').putString name).putI32 (asSigned 32 response.length)).put
        response).bytes = name ++ [0] ++ (putI32 (asSigned 32 response.length) ++ response) := by
      simp
    have nonneg : 0 ≤ (asSigned 32 response.length).toInt := by
      rw [toInt_asSigned short]
      exact Int.ofNat_nonneg _
    have remaining : (!(putI32 (asSigned 32 response.length) ++ response).isEmpty) = true := rfl
    rw [bytes, bind_ok (reads_cStringBuf noNulName _), bind_ok rfl, if_pos remaining,
      bind_ok (reads_getI32 _ _), if_pos nonneg, bind_ok (cStringBuf_of_noNul noNulResponse)]
    rfl
  | .saslResponse response, noNul => by
    rw [fromBytes, toBytes]
    refine run_freeze 'p' rfl (by decide) ?_
    rw [Payload.put_bytes, Payload.named_bytes, List.nil_append, bind_ok (cStringBuf_of_noNul noNul),
      bind_ok rfl, if_neg (by decide)]
    rfl

end Password

/-- Every message of the five kinds that fits the wire decodes back to itself. -/
theorem from_bytes_to_bytes :
    (∀ dr : DataRow, dr.Fits → DataRow.fromBytes dr.toBytes = .ok dr) ∧
    (∀ rd : RowDescription, rd.Fits → RowDescription.fromBytes rd.toBytes = .ok rd) ∧
    (∀ p : Parse, p.Fits → Parse.fromBytes p.toBytes = .ok p) ∧
    (∀ ps : ParameterStatus, ps.Fits → ParameterStatus.fromBytes ps.toBytes = .ok ps) ∧
    (∀ pw : Password, pw.Fits → Password.fromBytes pw.toBytes = .ok pw) :=
  ⟨fun _ => DataRow.fromBytes_toBytes, fun _ => RowDescription.fromBytes_toBytes,
    fun _ => Parse.fromBytes_toBytes, fun _ => ParameterStatus.fromBytes_toBytes,
    fun _ => Password.fromBytes_toBytes⟩

/-- `SELECT 1`: its `Parse`, the description and row of its result; the parameters a client is
told on connecting; a SASL initial response. -/
theorem from_bytes_to_bytes_select_one :
    Parse.fromBytes (Parse.newAnonymous (ascii "SELECT 1")).toBytes =
      .ok (Parse.newAnonymous (ascii "SELECT 1")) ∧
    RowDescription.fromBytes (RowDescription.new [⟨ascii "?column?", 0, 0, 23, 4, -1, 0⟩]).toBytes =
      .ok (RowDescription.new [⟨ascii "?column?", 0, 0, 23, 4, -1, 0⟩]) ∧
    DataRow.fromBytes (DataRow.toBytes ⟨[ascii "1"]⟩) = .ok ⟨[ascii "1"]⟩ ∧
    (∀ ps ∈ ParameterStatus.fake, ParameterStatus.fromBytes ps.toBytes = .ok ps) ∧
    Password.fromBytes (Password.saslInitial (ascii "n,,n=,r=abc")).toBytes =
      .ok (Password.saslInitial (ascii "n,,n=,r=abc")) :=
  ⟨from_bytes_to_bytes.2.2.1 _ (by decide), from_bytes_to_bytes.2.1 _ (by decide),
    from_bytes_to_bytes.1 _ (by decide),
    fun ps mem => from_bytes_to_bytes.2.2.2.1 ps ((by decide : ∀ ps ∈ ParameterStatus.fake, ps.Fits) ps mem),
    from_bytes_to_bytes.2.2.2.2 _ (by decide)⟩

end PgDog.Net
