import PgDog.Net.Wire

/-!
# Parse trees

The part of `pg_query`'s protobuf tree that `QueryParser` reads. Strings are their UTF-8 bytes,
as field names are in `RowDescription`.
-/

namespace PgDog.Frontend.Router.Parser

open Net

/-- `TransactionStmtKind`, the kinds `query` tells apart. -/
inductive TransactionStmtKind where
  | begin
  | start
  | commit
  | rollback
  | other
  deriving DecidableEq, Repr

inductive Val where
  | ival (ival : BitVec 32)
  | fval (fval : Bytes)
  | boolval (boolval : Bool)
  | sval (sval : Bytes)
  | bsval (bsval : Bytes)
  deriving DecidableEq, Repr

mutual

inductive Node where
  | mk (node : Option NodeEnum)

/-- `NodeEnum`, with the fields of each statement and expression kind that the router reads. -/
inductive NodeEnum where
  | selectStmt (whereClause : Option Node) (sortClause : List Node)
  | insertStmt
  | updateStmt
  | deleteStmt
  | copyStmt (relation : Option Bytes) (isFrom : Bool)
  | transactionStmt (kind : TransactionStmtKind)
  | sortBy (node : Option Node) (sortbyDir : BitVec 32)
  | aConst (isnull : Bool) (val : Option Val)
  | columnRef (fields : List Node)
  | string (sval : Bytes)
  | paramRef (number : BitVec 32)
  | other

end

def Node.node : Node → Option NodeEnum
  | .mk node => node

structure RawStmt where
  stmt : Option Node

/-- `ParseResult`: the statements, and the tables they name (`tables()`). -/
structure ParseResult where
  stmts : List RawStmt
  tables : List Bytes

end PgDog.Frontend.Router.Parser
