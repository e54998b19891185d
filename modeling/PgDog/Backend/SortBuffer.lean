import PgDog.Net.Bounds
import PgDog.Frontend.Router.QueryParser

/-!
# Sort buffer

`SortBuffer` (backend/pool/connection/sort_buffer.rs) collects the rows of a query sent to every
shard, sorts them by the route's `ORDER BY` keys and hands them back one at a time. Each row is
decoded by `DataRow::from_bytes` on the way in and encoded by `to_bytes` on the way out.

`DataRow::get_column` and the comparison of the `Datum`s it returns are not under src/: `sort`
takes them as parameters.
-/

namespace PgDog.Backend

open Net Frontend.Router.Parser
open Batteries (TransCmp)
open scoped List

structure SortBuffer where
  buffer : List DataRow
  isFull : Bool
  deriving DecidableEq, Repr

namespace SortBuffer

def default : SortBuffer := ⟨[], false⟩

def add (sb : SortBuffer) (message : Message) : Except Fault Unit × SortBuffer :=
  match DataRow.fromBytes message.payload with
  | .ok dr => (.ok (), { sb with buffer := sb.buffer ++ [dr] })
  | .error e => (.error e, sb)

def addAll (sb : SortBuffer) : List Message → Except Fault SortBuffer
  | [] => .ok sb
  | m :: ms =>
    match sb.add m with
    | (.ok (), sb) => sb.addAll ms
    | (.error e, _) => .error e

def full (sb : SortBuffer) : SortBuffer := { sb with isFull := true }

def take (sb : SortBuffer) : Option Message × SortBuffer :=
  if sb.isFull then
    match sb.buffer with
    | [] => (none, sb)
    | dr :: rest => (some dr.message, { sb with buffer := rest })
  else (none, sb)

def takes (sb : SortBuffer) : Nat → List (Option Message)
  | 0 => []
  | n + 1 => sb.take.1 :: sb.take.2.takes n

/-! ### Sorting -/

/-- The field and direction `sort` resolves for one key, if it resolves. -/
def resolve (rd : RowDescription) (column : OrderBy) : Option (Nat × Bool) :=
  match column.index with
  | some index => some (index, column.asc)
  | none =>
    match column.name with
    | some name => (rd.fieldIndex name).map (·, column.asc)
    | none => none

def columns (rd : RowDescription) (cols : List OrderBy) : List (Option (Nat × Bool)) :=
  cols.map (resolve rd)

/-- `cmp` is a total order on `rows`, as `sort_by` requires of its comparison: swapping two rows
reverses it, and not-`Greater` is transitive. -/
def TotalOn {α : Type} (cmp : α → α → Ordering) (rows : List α) : Prop :=
  ∀ a ∈ rows, ∀ b ∈ rows, cmp b a = (cmp a b).swap ∧
    ∀ c ∈ rows, cmp a b ≠ .gt → cmp b c ≠ .gt → cmp a c ≠ .gt

instance {α : Type} (cmp : α → α → Ordering) (rows : List α) : Decidable (TotalOn cmp rows) :=
  inferInstanceAs (Decidable (∀ a ∈ rows, ∀ b ∈ rows, cmp b a = (cmp a b).swap ∧
    ∀ c ∈ rows, cmp a b ≠ .gt → cmp b c ≠ .gt → cmp a c ≠ .gt))

section

variable {Datum : Type} (getColumn : DataRow → Nat → RowDescription → Except Net.Error (Option Datum))
  (partialCmp : Datum → Datum → Option Ordering)

/-- One key's ordering: `partial_cmp`, reversed when descending, `Equal` without two values. -/
def keyOrdering (rd : RowDescription) (a b : DataRow) (index : Nat) (asc : Bool) : Option Ordering :=
  match getColumn a index rd, getColumn b index rd with
  | .ok (some left), .ok (some right) => if asc then partialCmp left right else partialCmp right left
  | _, _ => some .eq

/-- The closure `order_by` of `SortBuffer::sort`: the first key on which the rows differ decides,
and an incomparable pair is `Equal` at once. -/
def orderBy (rd : RowDescription) (a b : DataRow) : List (Option (Nat × Bool)) → Ordering
  | [] => .eq
  | none :: cols => orderBy rd a b cols
  | some (index, asc) :: cols =>
    let ordering := keyOrdering getColumn partialCmp rd a b index asc
    if ordering ≠ some .eq then ordering.getD .eq else orderBy rd a b cols

/-- `SortBuffer::sort`: `sort_by` by `order_by`. `sort_by` is the stable sort when the comparison is
a total order on the rows; otherwise it may panic or leave any order, and the result is `none`. -/
def sort (sb : SortBuffer) (cols : List OrderBy) (rd : RowDescription) : Option SortBuffer :=
  let cmp := fun a b => orderBy getColumn partialCmp rd a b (columns rd cols)
  if TotalOn cmp sb.buffer then some { sb with buffer := sb.buffer.mergeSort fun a b => cmp a b != .gt }
  else none

theorem sort_total {sb : SortBuffer} {cols : List OrderBy} {rd : RowDescription}
    (total : TotalOn (fun a b => orderBy getColumn partialCmp rd a b (columns rd cols)) sb.buffer) :
    sb.sort getColumn partialCmp cols rd = some { sb with
      buffer := sb.buffer.mergeSort fun a b =>
        orderBy getColumn partialCmp rd a b (columns rd cols) != .gt } :=
  if_pos total

end

/-! ### Rows in, rows out -/

theorem add_row (sb : SortBuffer) {dr : DataRow} (fits : dr.Fits) :
    sb.add dr.message = (.ok (), { sb with buffer := sb.buffer ++ [dr] }) := by
  unfold add
  rw [DataRow.message, Message.new_payload, DataRow.fromBytes_toBytes fits]

theorem addAll_rows (sb : SortBuffer) {drs : List DataRow} (fits : ∀ dr ∈ drs, dr.Fits) :
    sb.addAll (drs.map DataRow.message) = .ok { sb with buffer := sb.buffer ++ drs } := by
  induction drs generalizing sb with
  | nil => simp [addAll]
  | cons dr drs ih =>
    rw [List.map_cons, addAll, add_row sb (fits dr (List.mem_cons_self _ _))]
    simp only [ih _ fun d mem => fits d (List.mem_cons_of_mem _ mem), List.append_assoc,
      List.singleton_append]

theorem add_not_row (sb : SortBuffer) {m : Message} (other : m.code ≠ 'D') :
    sb.add m = (.error (.error (.unexpectedMessage 'D' m.code)), sb) := by
  unfold add
  simp only [DataRow.fromBytes, Reader.run', DataRow.read, Message.payload]
  rw [bind_error (code_other other)]
  rfl

theorem take_not_full {sb : SortBuffer} (notFull : sb.isFull = false) : sb.take = (none, sb) := by
  simp [take, notFull]

theorem takes_full (rows : List DataRow) :
    (⟨rows, true⟩ : SortBuffer).takes (rows.length + 1) = rows.map (some ∘ DataRow.message) ++ [none] := by
  induction rows with
  | nil => rfl
  | cons dr rows ih => simp [takes, take, ← ih]

/-! ### The comparison -/

section

variable {Datum : Type} (getColumn : DataRow → Nat → RowDescription → Except Net.Error (Option Datum))

variable (cmp : Datum → Datum → Ordering)

/-- Every key of `cols` that resolved has a value in the row. -/
def Complete (rd : RowDescription) (cols : List (Option (Nat × Bool))) (r : DataRow) : Prop :=
  ∀ index asc, some (index, asc) ∈ cols → ∃ v, getColumn r index rd = .ok (some v)

theorem Complete.tail {rd : RowDescription} {key : Option (Nat × Bool)}
    {cols : List (Option (Nat × Bool))} {r : DataRow} (complete : Complete getColumn rd (key :: cols) r) :
    Complete getColumn rd cols r :=
  fun index asc mem => complete index asc (List.mem_cons_of_mem _ mem)

end

/-! ### What the buffer promises -/

/-- Rows added as their own frames come back from `take` after `full`, byte for byte and then
`None`: in the order added, or after a `sort` whose comparison is a total order on them, in the
order it chose. Before `full`, `take` returns `None`; a message not a `DataRow` is refused. -/
theorem take_returns_rows {Datum : Type}
    (getColumn : DataRow → Nat → RowDescription → Except Net.Error (Option Datum))
    (partialCmp : Datum → Datum → Option Ordering) (cols : List OrderBy) (rd : RowDescription)
    (drs : List DataRow) (fits : ∀ dr ∈ drs, dr.Fits) :
    default.addAll (drs.map DataRow.message) = .ok ⟨drs, false⟩ ∧
    (⟨drs, false⟩ : SortBuffer).take = (none, ⟨drs, false⟩) ∧
    (⟨drs, false⟩ : SortBuffer).full.takes (drs.length + 1) =
      drs.map (some ∘ DataRow.message) ++ [none] ∧
    (TotalOn (fun a b => orderBy getColumn partialCmp rd a b (columns rd cols)) drs →
      ∃ sb, (⟨drs, false⟩ : SortBuffer).sort getColumn partialCmp cols rd = some sb ∧
        ∃ sorted : List Message, sorted.Perm (drs.map DataRow.message) ∧
          sb.full.takes (drs.length + 1) = sorted.map some ++ [none]) ∧
    ∀ (sb : SortBuffer) (m : Message), m.code ≠ 'D' → ∃ e, sb.add m = (.error e, sb) := by
  let le (a b : DataRow) : Bool := orderBy getColumn partialCmp rd a b (columns rd cols) != .gt
  have sorted := takes_full (drs.mergeSort le)
  rw [List.length_mergeSort] at sorted
  exact ⟨by simpa [default] using addAll_rows default fits, take_not_full rfl, takes_full drs,
    fun total => ⟨_, sort_total getColumn partialCmp total, _,
      (List.mergeSort_perm drs le).map DataRow.message, by simpa [full] using sorted⟩,
    fun sb _ other => ⟨_, add_not_row sb other⟩⟩

/-- An instance of `get_column`: a binary integer column, read big-endian. -/
def binaryInt (dr : DataRow) (index : Nat) (_ : RowDescription) : Except Net.Error (Option Nat) :=
  .ok ((dr.column index).map fun bytes => bytes.foldl (fun n b => 256 * n + b.toNat) 0)

/-- One integer column, `id`, sorted ascending, and three rows of it. -/
def idDescription : RowDescription := ⟨[⟨ascii "id", 0, 0, 20, 8, 0, 1⟩]⟩

def idKeys : List OrderBy := [.AscColumn (ascii "id")]

def idRows : List DataRow := [⟨[[3]]⟩, ⟨[[1]]⟩, ⟨[[2]]⟩]

def idOrder (a b : DataRow) : Ordering :=
  orderBy binaryInt (fun x y => some (compare x y)) idDescription a b (columns idDescription idKeys)

theorem take_returns_rows_by_id :
    TotalOn idOrder idRows ∧
    default.addAll (idRows.map DataRow.message) = .ok ⟨idRows, false⟩ ∧
    (⟨idRows, false⟩ : SortBuffer).take = (none, ⟨idRows, false⟩) ∧
    (⟨idRows, false⟩ : SortBuffer).full.takes (idRows.length + 1) =
      idRows.map (some ∘ DataRow.message) ++ [none] ∧
    (TotalOn idOrder idRows →
      ∃ sb, (⟨idRows, false⟩ : SortBuffer).sort binaryInt (fun x y => some (compare x y)) idKeys
          idDescription = some sb ∧
        ∃ sorted : List Message, sorted.Perm (idRows.map DataRow.message) ∧
          sb.full.takes (idRows.length + 1) = sorted.map some ++ [none]) ∧
    ∀ (sb : SortBuffer) (m : Message), m.code ≠ 'D' → ∃ e, sb.add m = (.error e, sb) :=
  ⟨by decide, take_returns_rows binaryInt (fun x y => some (compare x y)) idKeys idDescription idRows
    (by decide)⟩

/-- The frame of a row whose columns may be NULL, written as length `-1`. -/
def nullableFrame (columns : List (Option Bytes)) : Bytes :=
  (columns.foldl (fun p column =>
      match column with
      | some column => (p.putI32 (asSigned 32 column.length)).put column
      | none => p.putI32 (-1))
    ((Payload.named 'D').putI16 (asSigned 16 columns.length))).freeze

theorem nullableFrame_some (columns : List Bytes) :
    nullableFrame (columns.map some) = (DataRow.mk columns).toBytes := by
  simp [nullableFrame, DataRow.toBytes, List.foldl_map]

/-- A row with a NULL column, a frame PostgreSQL sends, makes `add` read past its end. -/
theorem add_null_column :
    ¬ ∀ rows : List (List (Option Bytes)),
      (∀ row ∈ rows, 2 * row.length < 2 ^ 16 ∧ ∀ column ∈ row, ∀ bytes ∈ column,
        2 * bytes.length < 2 ^ 32) →
      ∃ sb, default.addAll (rows.map fun row => .new (nullableFrame row) (Payload.freeze_ne_nil _)) =
          .ok sb ∧
        sb.full.takes (rows.length + 1) =
          rows.map (fun row => some (.new (nullableFrame row) (Payload.freeze_ne_nil _))) ++ [none] :=
  fun h => by
    obtain ⟨sb, added, -⟩ := h [[none]] (by decide)
    have overrun : DataRow.fromBytes (nullableFrame [none]) = .error .overrun :=
      (DataRow.fromBytes_overrun 68 (asSigned 32 10) [0, 1, 255, 255, 255, 255]).2
        ⟨by decide, by decide⟩
    simp only [List.map_cons, List.map_nil, addAll] at added
    unfold add at added
    rw [Message.new_payload, overrun] at added
    cases added

end SortBuffer

/-! ### Keys from the router -/

/-- An `ORDER BY` key as written: a position or a column, with its `SortByDir` (3 for `DESC`). -/
inductive SortKey where
  | position (p : Nat) (dir : BitVec 32)
  | column (table : Option Bytes) (name : Bytes) (dir : BitVec 32)
  deriving DecidableEq, Repr

namespace SortKey

def node : SortKey → Node
  | .position p dir =>
    .mk (some (.sortBy (some (.mk (some (.aConst false (some (.ival (asSigned 32 p))))))) dir))
  | .column table name dir =>
    .mk (some (.sortBy (some (.mk (some (.columnRef
      ((table.toList ++ [name]).map fun s => .mk (some (.string s))))))) dir))

/-- The field the key names in `rd` and whether it sorts ascending; a position `p` names field
`p - 1`, wrapping at zero as a `usize` does. -/
def field (rd : RowDescription) : SortKey → Option (Nat × Bool)
  | .position p dir => some ((p + (2 ^ 64 - 1)) % 2 ^ 64, dir.toNat ≠ 3)
  | .column _ name dir => (rd.fieldIndex name).map (·, dir.toNat ≠ 3)

/-- A position that fits an `i32`, or a column; without `USING`. -/
def plain : SortKey → Bool
  | .position p dir => 2 * p < 2 ^ 32 && dir.toNat ≤ 3
  | .column _ _ dir => dir.toNat ≤ 3

def unqualified : SortKey → Bool
  | .column (some _) _ _ => false
  | _ => true

theorem resolve_node (rd : RowDescription) {k : SortKey} (plain : k.plain) (unqualified : k.unqualified) :
    ((sortKey k.node).map (SortBuffer.resolve rd)) = some (k.field rd) := by
  cases k with
  | position p dir =>
    simp only [SortKey.plain, Bool.and_eq_true, decide_eq_true_eq] at plain
    simp only [node, sortKey, asUsize_asSigned plain.1 (by decide)]
    by_cases desc : dir.toNat = 3
    · simp [desc, SortBuffer.resolve, OrderBy.index, OrderBy.asc, field]
    · simp [desc, show dir.toNat ≤ 2 by omega, SortBuffer.resolve, OrderBy.index, OrderBy.asc, field]
  | column table name dir =>
    cases table with
    | some _ => simp [SortKey.unqualified] at unqualified
    | none =>
      simp only [SortKey.plain, decide_eq_true_eq] at plain
      by_cases desc : dir.toNat = 3
      · simp [desc, node, sortKey, SortBuffer.resolve, OrderBy.index, OrderBy.name, OrderBy.asc, field]
      · simp [desc, show dir.toNat ≤ 2 by omega, node, sortKey, SortBuffer.resolve, OrderBy.index,
          OrderBy.name, OrderBy.asc, field]

end SortKey

/-- For positions and unqualified columns, `sort` resolves the keys `select_sort` reads off the
query to the fields they name, in clause order, ascending unless `DESC`. -/
theorem select_sort_resolves_keys (rd : RowDescription) (keys : List SortKey)
    (plain : ∀ k ∈ keys, k.plain ∧ k.unqualified) :
    SortBuffer.columns rd (selectSort (keys.map SortKey.node)) = keys.map (SortKey.field rd) := by
  induction keys with
  | nil => rfl
  | cons k keys ih =>
    have head := SortKey.resolve_node rd (plain k (List.mem_cons_self _ _)).1
      (plain k (List.mem_cons_self _ _)).2
    obtain ⟨ob, hk, resolved⟩ := Option.map_eq_some'.mp head
    simp [selectSort, SortBuffer.columns, List.filterMap_cons, hk, resolved] at ih ⊢
    exact ih fun k mem => plain k (List.mem_cons_of_mem _ mem)

theorem select_sort_resolves_keys_id :
    (∀ k ∈ [SortKey.column none (ascii "id") 3, .position 1 1], k.plain ∧ k.unqualified) ∧
    SortBuffer.columns ⟨[⟨ascii "id", 0, 0, 20, 8, 0, 1⟩]⟩
        (selectSort ([SortKey.column none (ascii "id") 3, .position 1 1].map SortKey.node)) =
      [SortKey.column none (ascii "id") 3, .position 1 1].map
        (SortKey.field ⟨[⟨ascii "id", 0, 0, 20, 8, 0, 1⟩]⟩) :=
  ⟨by decide, select_sort_resolves_keys _ _ (by decide)⟩

/-- `ORDER BY users.id` becomes a key on a column named `users`: `select_sort` takes the first
name of the reference, the table's, and `sort` finds no such field and skips the key. -/
theorem select_sort_qualified_column :
    ¬ ∀ (rd : RowDescription) (keys : List SortKey), (∀ k ∈ keys, k.plain) →
      SortBuffer.columns rd (selectSort (keys.map SortKey.node)) = keys.map (SortKey.field rd) :=
  fun h => absurd (h ⟨[⟨ascii "id", 0, 0, 20, 8, 0, 1⟩]⟩
    [.column (some (ascii "users")) (ascii "id") 2] (by decide)) (by decide)

end PgDog.Backend
