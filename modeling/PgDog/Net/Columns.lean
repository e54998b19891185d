import PgDog.Net.Decimal
import PgDog.Net.RoundTrip

/-!
# Typed columns of a row

`ToDataRowColumn` writes a value as the text of a `DataRow` column, `DataRow::from_columns` builds
a row of them, and `DataRow::get_int` reads a column back as an integer, from its text or from
its binary form (net/messages/data_row.rs). `getInt_sent_fromColumns` says what `get_int` returns
on every row `from_columns` builds, once it has crossed the wire, and `getInt_text_eq_some` which
text columns it reads. `Field::data_type` and its predicates classify a column by type OID
(net/messages/row_description.rs).
-/

namespace PgDog.Net

/-- The values `ToDataRowColumn` is implemented for; `f64`, written with `{:.5}`, is left out. -/
inductive ColumnValue where
  /-- `String` and `&str`. -/
  | string (s : Bytes)
  | i64 (v : BitVec 64)
  | usize (n : BitVec 64)
  | bool (b : Bool)
  deriving DecidableEq, Repr

def ColumnValue.toDataRowColumn : ColumnValue → Bytes
  | .string s => s
  | .i64 v => I64.toString v.toInt
  | .usize n => decimal n.toNat
  | .bool b => if b then ascii "t" else ascii "f"

def getI64 : Reader (BitVec 64) := do
  let b₇ ← getU8
  let b₆ ← getU8
  let b₅ ← getU8
  let b₄ ← getU8
  let b₃ ← getU8
  let b₂ ← getU8
  let b₁ ← getU8
  let b₀ ← getU8
  pure (BitVec.ofNat 64 (b₇.toNat * 2 ^ 56 + b₆.toNat * 2 ^ 48 + b₅.toNat * 2 ^ 40 +
    b₄.toNat * 2 ^ 32 + b₃.toNat * 2 ^ 24 + b₂.toNat * 2 ^ 16 + b₁.toNat * 2 ^ 8 + b₀.toNat))

namespace DataRow

def new : DataRow := ⟨[]⟩

def add (dr : DataRow) (value : ColumnValue) : DataRow := ⟨dr.columns ++ [value.toDataRowColumn]⟩

def fromColumns (columns : List ColumnValue) : DataRow := columns.foldl add new

/-- `DataRow::get_int`: text through `parse::<i64>`, or a big-endian binary integer of 2, 4 or
8 bytes, sign-extended. -/
def getInt (dr : DataRow) (index : Nat) (text : Bool) : Option Int :=
  (dr.column index).bind fun column =>
    if text then I64.fromStr column
    else
      match column.length with
      | 2 => (getI16.run' column).toOption.map BitVec.toInt
      | 4 => (getI32.run' column).toOption.map BitVec.toInt
      | 8 => (getI64.run' column).toOption.map BitVec.toInt
      | _ => none

end DataRow

theorem fitsI64_toInt (v : BitVec 64) : FitsI64 v.toInt := by
  have := v.isLt
  rw [BitVec.toInt_eq_toNat_cond]
  split <;> simp only [FitsI64, minI64, maxI64] <;> omega

theorem fromColumns_columns (values : List ColumnValue) :
    (DataRow.fromColumns values).columns = values.map ColumnValue.toDataRowColumn := by
  suffices ∀ dr : DataRow, (values.foldl DataRow.add dr).columns =
      dr.columns ++ values.map ColumnValue.toDataRowColumn from this _
  induction values with
  | nil => simp
  | cons value values ih => intro dr; simp [ih, DataRow.add]

theorem getInt_fromColumns (values : List ColumnValue) (index : Nat) :
    (DataRow.fromColumns values).getInt index true = (values[index]?).bind fun
      | .string s => I64.fromStr s
      | .i64 v => some v.toInt
      | .usize n => checkedI64 n.toNat
      | .bool _ => none := by
  simp only [DataRow.getInt, DataRow.column, fromColumns_columns, List.getElem?_map, if_true,
    Option.bind_map]
  congr 1
  funext value
  cases value with
  | string s => rfl
  | i64 v =>
    simp only [Function.comp, ColumnValue.toDataRowColumn, I64.fromStr_toString,
      checkedI64_of_fits (fitsI64_toInt v)]
  | usize n =>
    have decimal_eq : decimal n.toNat = I64.toString n.toNat := by simp [I64.toString]
    simp only [Function.comp, ColumnValue.toDataRowColumn, decimal_eq, I64.fromStr_toString]
  | bool b => cases b <;> decide

/-- A row written with `from_columns`, sent and decoded, gives by `get_int` what
`getInt_fromColumns` says, whenever its columns fit a frame. -/
theorem getInt_sent_fromColumns (values : List ColumnValue) (index : Nat)
    (fits : (DataRow.fromColumns values).Fits) :
    ((DataRow.fromColumns values).toBytes |> DataRow.fromBytes |>.toOption).bind (·.getInt index true) =
      (values[index]?).bind fun
        | .string s => I64.fromStr s
        | .i64 v => some v.toInt
        | .usize n => checkedI64 n.toNat
        | .bool _ => none := by
  rw [DataRow.fromBytes_toBytes fits]
  exact getInt_fromColumns values index

theorem getInt_sent_fromColumns_text :
    (DataRow.fromColumns [.string (ascii "-42"), .bool true]).Fits ∧
    ((DataRow.fromColumns [.string (ascii "-42"), .bool true]).toBytes |> DataRow.fromBytes
        |>.toOption).bind (·.getInt 0 true) =
      ([ColumnValue.string (ascii "-42"), .bool true][0]?).bind fun
        | .string s => I64.fromStr s
        | .i64 v => some v.toInt
        | .usize n => checkedI64 n.toNat
        | .bool _ => none :=
  ⟨by decide, getInt_sent_fromColumns _ 0 (by decide)⟩

/-- `get_int` reads a text column exactly when it is a sign and ASCII digits with an `i64` value. -/
theorem getInt_text_eq_some (dr : DataRow) (index : Nat) (v : Int) :
    dr.getInt index true = some v ↔ ∃ sign ds, dr.column index = some (sign ++ ds.map digitByte) ∧
      (sign = [] ∨ sign = [43] ∨ sign = [45]) ∧ ds ≠ [] ∧ (∀ d ∈ ds, d < 10) ∧
      v = signed (sign != [45]) (Nat.ofDigits 10 ds.reverse) ∧ FitsI64 v := by
  simp only [DataRow.getInt, if_true, Option.bind_eq_some, I64.fromStr_eq_some]
  constructor
  · rintro ⟨_, column, sign, ds, rfl, rest⟩
    exact ⟨sign, ds, column, rest⟩
  · rintro ⟨sign, ds, column, rest⟩
    exact ⟨_, column, sign, ds, rfl, rest⟩

theorem getInt_binary (dr : DataRow) (index : Nat) :
    (∀ v : BitVec 16, dr.column index = some (putI16 v) → dr.getInt index false = some v.toInt) ∧
    (∀ v : BitVec 32, dr.column index = some (putI32 v) → dr.getInt index false = some v.toInt) := by
  constructor <;> intro v column
  · simp only [DataRow.getInt, column, Option.some_bind, Bool.false_eq_true, if_false]
    rw [show (putI16 v).length = 2 from rfl]
    simp [(reads_getI16 v).run', Except.toOption]
  · simp only [DataRow.getInt, column, Option.some_bind, Bool.false_eq_true, if_false]
    rw [show (putI32 v).length = 4 from rfl]
    simp [(reads_getI32 v).run', Except.toOption]
/-! ### Column types -/

inductive DataType where
  | bigint
  | integer
  | text
  | interval
  | timestamp
  | timestampTz
  | real
  | doublePrecision
  | bool
  | smallInt
  | tinyInt
  | other (oid : BitVec 32)
  deriving DecidableEq, Repr

namespace Field

/-- What `Field::numeric`, `Field::text` and `Field::bool` share. -/
def described (name : Bytes) (typeOid : BitVec 32) (typeSize : BitVec 16) : Field :=
  ⟨name, 0, 0, typeOid, typeSize, -1, 0⟩

def numeric (name : Bytes) : Field := described name 1700 (-1)

def text (name : Bytes) : Field := described name 25 (-1)

def bool (name : Bytes) : Field := described name 16 1

def isTextEncoding (f : Field) : Bool := f.format == 0

def isBinaryEncoding (f : Field) : Bool := !f.isTextEncoding

/-- `Field::data_type`, on the `i32` type OID. -/
def dataType (f : Field) : DataType :=
  match f.typeOid.toInt with
  | 16 => .bool
  | 20 => .bigint
  | 23 => .integer
  | 21 => .smallInt
  | 25 => .text
  | 700 => .real
  | 701 => .doublePrecision
  | 1043 => .text
  | 1114 => .timestamp
  | 1184 => .timestampTz
  | 1186 => .interval
  | _ => .other f.typeOid

def isInt (f : Field) : Bool :=
  match f.dataType with
  | .bigint | .integer | .smallInt => true
  | _ => false

def isFloat (f : Field) : Bool :=
  match f.dataType with
  | .real | .doublePrecision => true
  | _ => false

def isVarchar (f : Field) : Bool := f.dataType == .text

end Field

end PgDog.Net
