import PgDog.Net.Messages

/-!
# Routes

What the router decides for a statement, and what it reads to decide: the cluster's topology and
the client's `Bind` parameters. None of these types is under src/; each follows the spec.
-/

namespace PgDog.Frontend.Router.Parser

open Net

/-- Modelled from the spec: `OrderBy` (router/parser/order_by.rs), a 1-based position or a name. -/
inductive OrderBy where
  | Asc (column : Nat)
  | Desc (column : Nat)
  | AscColumn (name : Bytes)
  | DescColumn (name : Bytes)
  deriving DecidableEq, Repr

namespace OrderBy

/-- `OrderBy::index`: the 0-based field a position names, `column - 1` on a `usize`, which wraps at
zero as in a release build. -/
def index : OrderBy → Option Nat
  | .Asc column | .Desc column => some ((column + (2 ^ 64 - 1)) % 2 ^ 64)
  | _ => none

def name : OrderBy → Option Bytes
  | .AscColumn name | .DescColumn name => some name
  | _ => none

def asc : OrderBy → Bool
  | .Asc _ | .AscColumn _ => true
  | _ => false

end OrderBy

/-- Modelled from the spec: `ShardSelector`. `any` lets the pool pick, `all` fans out. -/
inductive Shard where
  | any
  | all
  | direct (shard : Nat)
  deriving DecidableEq, Repr

inductive Affinity where
  | read
  | write
  | unknown
  deriving DecidableEq, Repr

/-- Modelled from the spec: `Route` (router/parser/route.rs); `selector` is the spec's `shard`. -/
structure Route where
  selector : Shard
  affinity : Affinity
  orderBy : List OrderBy
  deriving DecidableEq, Repr

namespace Route

def read (shard : Option Nat) : Route := ⟨shard.elim .any .direct, .read, []⟩

def write (shard : Option Nat) : Route := ⟨shard.elim .any .direct, .write, []⟩

def select (shard : Option Nat) (orderBy : List OrderBy) : Route :=
  ⟨shard.elim .all .direct, .read, orderBy⟩

def overwriteShard (r : Route) (shard : Nat) : Route := { r with selector := .direct shard }

def shard (r : Route) : Option Nat :=
  match r.selector with
  | .direct shard => some shard
  | _ => none

@[simp] theorem shard_read (shard : Option Nat) : (read shard).shard = shard := by cases shard <;> rfl

@[simp] theorem shard_write (shard : Option Nat) : (write shard).shard = shard := by cases shard <;> rfl

@[simp] theorem shard_select (shard : Option Nat) (orderBy : List OrderBy) :
    (select shard orderBy).shard = shard := by cases shard <;> rfl

@[simp] theorem shard_overwriteShard (r : Route) (shard : Nat) : (r.overwriteShard shard).shard = some shard :=
  rfl

end Route

/-- `Command`, the router's decision. The COPY plan's contents are left out. -/
inductive Command where
  | query (route : Route)
  | copy
  | startTransaction
  | commitTransaction
  | rollbackTransaction
  deriving DecidableEq, Repr

/-- Modelled from the spec: a sharded table and its sharding column. -/
structure ShardedTable where
  name : Option Bytes
  column : Bytes
  deriving DecidableEq, Repr

/-- Modelled from the spec: `Cluster` (backend/pool/cluster.rs), the fields the router reads. -/
structure Cluster where
  shards : Nat
  readOnly : Bool
  writeOnly : Bool
  shardedTables : List ShardedTable
  deriving DecidableEq, Repr

/-- Modelled from the spec: a parameter of `Bind` (messages/bind.rs), with its format code. -/
structure Parameter where
  data : Bytes
  format : BitVec 16
  deriving DecidableEq, Repr

def Parameter.text (p : Parameter) : Option Bytes := if p.format = 0 then some p.data else none

/-- Modelled from the spec: `Bind` (messages/bind.rs), its format codes and parameter values. -/
structure Bind where
  codes : List (BitVec 16)
  params : List Bytes
  deriving DecidableEq, Repr

/-- One parameter value: an `i32` length, `-1` for NULL, read here as no bytes. -/
def Bind.readParameter : Reader Bytes := do
  let len ← getI32
  times getU8 len.toInt.toNat

/-- Modelled from the spec: the decoder of `Bind` in the v3 layout; result codes are not read. -/
def Bind.read : Reader Bind := do
  code 'B'
  let _len ← getI32
  let _portal ← cStringBuf
  let _statement ← cStringBuf
  let codes ← times getI16 (← getI16).toInt.toNat
  let params ← times Bind.readParameter (← getI16).toInt.toNat
  pure ⟨codes, params⟩

def Bind.fromBytes (bytes : Bytes) : Except Fault Bind := Bind.read.run' bytes

/-- `Bind::parameter`: the value at `index` with the one code, its own code, or text. -/
def Bind.parameter (b : Bind) (index : Nat) : Except Error (Option Parameter) :=
  .ok <| b.params[index]?.map fun data =>
    ⟨data, match b.codes with
      | [code] => code
      | codes => codes[index]?.getD 0⟩

end PgDog.Frontend.Router.Parser
