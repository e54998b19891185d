import PgDog.Frontend.Router.Ast
import PgDog.Frontend.Buffer

/-!
# Query parser and router

`QueryParser` (router/parser/query.rs) and `Router` (router/mod.rs). The parser caches the last
command it decided; a request with no statement in it is routed by that cached command.
-/

namespace PgDog.Frontend.Router.Parser

open Net (Bytes Fault)

/-- Modelled from the spec: `router::Error` (router/error.rs); a decoder panic is `net`. -/
inductive Error where
  | pgQuery
  | emptyQuery
  | notInSync
  | net (fault : Fault)
  deriving DecidableEq, Repr

/-- Modelled from the spec: `Key` (router/parser/where_clause.rs), a constant or a `Bind` index. -/
inductive Key where
  | constant (value : Bytes)
  | parameter (param : Nat)
  deriving DecidableEq, Repr

/-- What `QueryParser::query` calls outside src/: `pg_query::parse`, and the router's `comment`,
`WhereClause`, `sharding` and `CopyParser` modules. -/
structure Externals where
  /-- `pg_query::parse`. -/
  parse : Bytes → Except Error ParseResult
  /-- `comment::shard(query, shards)`: a shard named in a comment. -/
  commentShard : Bytes → Nat → Except Error (Option Nat)
  /-- `WhereClause::new(&stmt.where_clause)`, with its `keys(table, column)`. -/
  whereClause : Option Node → Option (Option Bytes → Bytes → List Key)
  /-- `shard_str(value, shards)`. -/
  shardStr : Bytes → Nat → Option Nat
  /-- `CopyParser::new(stmt, cluster)`: whether it builds a parser for this `COPY`. -/
  copyParser : Option Bytes → Bool → Cluster → Except Error Bool

/-! ### ORDER BY -/

/-- One clause of `select_sort`: a `SortBy` over an integer constant or a column reference,
ascending unless its direction is `DESC` or `USING`. -/
def sortKey : Node → Option OrderBy
  | .mk (some (.sortBy (some (.mk (some node))) sortbyDir)) =>
    let asc := sortbyDir.toNat ≤ 2
    match node with
    | .aConst _ (some (.ival ival)) =>
      some (if asc then .Asc (Net.asUsize ival) else .Desc (Net.asUsize ival))
    | .columnRef (.mk (some (.string sval)) :: _) =>
      some (if asc then .AscColumn sval else .DescColumn sval)
    | _ => none
  | _ => none

def selectSort (nodes : List Node) : List OrderBy := nodes.filterMap sortKey

/-! ### Routing a statement -/

/-- `shards.insert(shard)` on the `HashSet` of shards. -/
def insertShard (shards : List Nat) : Option Nat → List Nat
  | some shard => if shard ∈ shards then shards else shards ++ [shard]
  | none => shards

section

variable (ext : Externals) (cluster : Cluster) (params : Option Bind)

/-- The shard one `WHERE` key resolves to through `shard_str`; a parameter only in text format. -/
def keyShard : Key → Except Error (Option Nat)
  | .constant value => pure (ext.shardStr value cluster.shards)
  | .parameter param =>
    match params with
    | none => pure none
    | some params => do
      let param ← (params.parameter param).mapError fun e => Error.net (.error e)
      pure (param.bind Parameter.text |>.bind (ext.shardStr · cluster.shards))

def select (whereClause : Option Node) (sortClause : List Node) : Except Error Command := do
  let orderBy := selectSort sortClause
  let shards ← match ext.whereClause whereClause with
    | none => pure []
    | some keys =>
      cluster.shardedTables.foldlM (fun shards table =>
        (keys table.name table.column).foldlM (fun shards key =>
          insertShard shards <$> keyShard ext cluster params key) shards) []
  let shard := if shards.length = 1 then shards.head? else none
  pure (.query (Route.select shard orderBy))

/-- The end of `QueryParser::query` for a route: the shard of a comment overrides the statement's,
and on a single shard, shard 0 overrides both. -/
def finishRoute (shard : Option Nat) (route : Route) : Route :=
  let route := match shard with
    | some shard => route.overwriteShard shard
    | none => route
  if cluster.shards = 1 then route.overwriteShard 0 else route

@[simp] theorem shard_finishRoute (shard : Option Nat) (route : Route) :
    (finishRoute cluster shard route).shard = if cluster.shards = 1 then some 0 else shard.or route.shard := by
  unfold finishRoute
  cases shard <;> dsimp only <;> split <;> rfl

@[simp] theorem affinity_finishRoute (shard : Option Nat) (route : Route) :
    (finishRoute cluster shard route).affinity = route.affinity := by
  unfold finishRoute
  cases shard <;> dsimp only <;> split <;> rfl

/-- `QueryParser::query`; `next` is what `round_robin::next()` returns. -/
def query (next : Nat) (query : Bytes) : Except Error Command := do
  if cluster.shards = 1 ∧ cluster.readOnly then return .query (Route.read (some 0))
  if cluster.shards = 1 ∧ cluster.writeOnly then return .query (Route.write (some 0))
  let shard ← ext.commentShard query cluster.shards
  let ast ← ext.parse query
  let some stmt := ast.stmts.head? | throw .emptyQuery
  let some root := stmt.stmt | throw .emptyQuery
  let command ← match root.node with
    | some (.selectStmt whereClause sortClause) =>
      if ast.tables.isEmpty ∧ shard.isNone then
        return .query (Route.read (some (next % cluster.shards)))
      else select ext cluster params whereClause sortClause
    | some (.copyStmt relation isFrom) => do
      let sharded ← ext.copyParser relation isFrom cluster
      pure (if sharded then .copy else .query (Route.write none))
    | some .insertStmt | some .updateStmt | some .deleteStmt => pure (.query (Route.write none))
    | some (.transactionStmt kind) =>
      match kind with
      | .commit => return .commitTransaction
      | .rollback => return .rollbackTransaction
      | .begin | .start => return .startTransaction
      | .other => pure (.query (Route.write none))
    | _ => pure (.query (Route.write none))
  pure <| match command with
    | .query route => .query (finishRoute cluster shard route)
    | command => command

/-- What `query` can decide as a route: a single-shard shortcut, a round-robin read for a
`SELECT` without tables or comment shard, or a write or `select` route finished by `finishRoute`. -/
theorem query_route {next : Nat} {sql : Bytes} {route : Route}
    (h : query ext cluster params next sql = .ok (.query route)) :
    (cluster.shards = 1 ∧ cluster.readOnly = true ∧ route = Route.read (some 0)) ∨
    (cluster.shards = 1 ∧ cluster.writeOnly = true ∧ route = Route.write (some 0)) ∨
    (ext.commentShard sql cluster.shards = .ok none ∧
      route = Route.read (some (next % cluster.shards))) ∨
    ∃ shard base, ext.commentShard sql cluster.shards = .ok shard ∧
      (base = Route.write none ∨ ∃ whereClause sortClause,
        select ext cluster params whereClause sortClause = .ok (.query base)) ∧
      route = finishRoute cluster shard base := by
  unfold query at h
  by_cases readOnly : cluster.shards = 1 ∧ cluster.readOnly = true
  · rw [if_pos readOnly] at h
    cases h
    exact .inl ⟨readOnly.1, readOnly.2, rfl⟩
  rw [if_neg readOnly] at h
  by_cases writeOnly : cluster.shards = 1 ∧ cluster.writeOnly = true
  · rw [if_pos writeOnly] at h
    cases h
    exact .inr (.inl ⟨writeOnly.1, writeOnly.2, rfl⟩)
  rw [if_neg writeOnly] at h
  dsimp only [bind, Except.bind, pure, Except.pure] at h
  split at h
  · cases h
  rename_i shard comment
  have finished : ∀ {command : Command}, (∀ r, command = .query r → r = Route.write none ∨
      ∃ w s, select ext cluster params w s = .ok (.query r)) →
      (match command with
        | .query route => Command.query (finishRoute cluster shard route)
        | command => command) = .query route →
      ∃ shard base, ext.commentShard sql cluster.shards = .ok shard ∧
        (base = Route.write none ∨ ∃ w s, select ext cluster params w s = .ok (.query base)) ∧
        route = finishRoute cluster shard base := by
    intro command base h
    cases command with
    | query r =>
      cases h
      exact ⟨shard, r, comment, base r rfl, rfl⟩
    | _ => cases h
  have written : ∀ r, Command.query (Route.write none) = .query r → r = Route.write none ∨
      ∃ w s, select ext cluster params w s = .ok (.query r) := by
    rintro r ⟨⟩
    exact .inl rfl
  split at h
  · cases h
  split at h
  · split at h
    · split at h
      · -- `SELECT`
        split at h
        · cases h
          rename_i tables
          rw [Option.isNone_iff_eq_none.1 tables.2] at comment
          exact .inr (.inr (.inl ⟨comment, rfl⟩))
        · split at h
          · cases h
          · rename_i selected
            exact .inr (.inr (.inr (finished (fun r chosen => .inr ⟨_, _, chosen ▸ selected⟩)
              (Except.ok.inj h))))
      · -- `COPY`
        split at h
        · cases h
        · refine .inr (.inr (.inr (finished (fun r copied => ?_) (Except.ok.inj h))))
          split_ifs at copied
          exact written r copied
      -- `INSERT`, `UPDATE`, `DELETE` and any other statement
      any_goals exact .inr (.inr (.inr (finished written (Except.ok.inj h))))
      -- a transaction statement is its own command, or a write
      split at h <;> first | exact .inr (.inr (.inr (finished written (Except.ok.inj h)))) | cases h
    · cases h
  · cases h

end

/-! ### The cached command -/

structure QueryParser where
  command : Command
  deriving DecidableEq, Repr

namespace QueryParser

/-- `QueryParser::default`; `Route::default()` (router/parser/route.rs) is not under src/. -/
def default (route : Route) : QueryParser := ⟨.query route⟩

/-- `QueryParser::parse`: the cached command changes only when a new one is decided. -/
def parse (qp : QueryParser) (ext : Externals) (next : Nat) (buffer : Buffer) (cluster : Cluster) :
    Except Error Command × QueryParser :=
  match buffer.query.mapError Error.net with
  | .error e => (.error e, qp)
  | .ok none => (.error .notInSync, qp)
  | .ok (some sql) =>
    match buffer.parameters.mapError Error.net >>= fun params =>
        Parser.query ext cluster params next sql with
    | .ok command => (.ok command, ⟨command⟩)
    | .error e => (.error e, qp)

def route (qp : QueryParser) : Route :=
  match qp.command with
  | .query route => route
  | _ => Route.write none

end QueryParser

end PgDog.Frontend.Router.Parser

namespace PgDog.Frontend

open Router.Parser

structure Router where
  queryParser : QueryParser
  deriving DecidableEq, Repr

namespace Router

def new (route : Route) : Router := ⟨.default route⟩

def query (r : Router) (ext : Externals) (next : Nat) (buffer : Buffer) (cluster : Cluster) :
    Except Error Unit × Router :=
  let (result, qp) := r.queryParser.parse ext next buffer cluster
  ((fun _ => ()) <$> result, ⟨qp⟩)

def route (r : Router) : Route := r.queryParser.route

def run (r : Router) (ext : Externals) (next : Nat) (cluster : Cluster) : List Buffer → Router
  | [] => r
  | buffer :: rest => (r.query ext next buffer cluster).2.run ext next cluster rest

end Router

/-! ### Routes across a session -/

section

variable (ext : Externals) (next : Nat) (cluster : Cluster)

/-- The command `QueryParser::parse` decides for a request, if it decides one. -/
def decision (buffer : Buffer) : Option Command :=
  match buffer.query, buffer.parameters with
  | .ok (some sql), .ok params => (Router.Parser.query ext cluster params next sql).toOption
  | _, _ => none

theorem query_router (r : Router) (buffer : Buffer) :
    (r.query ext next buffer cluster).2 = ((decision ext next cluster buffer).elim r fun c => ⟨⟨c⟩⟩) := by
  simp only [Router.query, QueryParser.parse, decision]
  cases buffer.query with
  | error e => rfl
  | ok sql =>
    cases sql with
    | none => rfl
    | some sql =>
      cases buffer.parameters with
      | error e => rfl
      | ok params =>
        simp only [Except.mapError, bind, Except.bind]
        cases Router.Parser.query ext cluster params next sql <;> rfl

theorem run_router (r : Router) (history : List Buffer) :
    r.run ext next cluster history =
      ((history.filterMap (decision ext next cluster)).getLast?.elim r fun c => ⟨⟨c⟩⟩) := by
  induction history generalizing r with
  | nil => rfl
  | cons buffer rest ih =>
    rw [Router.run, ih, query_router, List.filterMap_cons]
    cases decision ext next cluster buffer with
    | none => rfl
    | some c =>
      rw [List.getLast?_cons]
      cases (rest.filterMap (decision ext next cluster)).getLast? <;> rfl

/-- After any session, a request with no `Query` or `Parse` is refused with `NotInSync`, and the
route stays that of the last statement decided, or the default route if none was. -/
theorem route_without_statement (initial : Route) (history : List Buffer) (buffer : Buffer)
    (noStatement : buffer.query = .ok none) :
    (((Router.new initial).run ext next cluster history).query ext next buffer cluster).1 =
      .error .notInSync ∧
    (((Router.new initial).run ext next cluster history).query ext next buffer cluster).2.route =
      (history.filterMap (decision ext next cluster)).getLast?.elim (QueryParser.default initial).route
        fun c => (QueryParser.mk c).route := by
  refine ⟨by simp only [Router.query, QueryParser.parse, noStatement, Except.mapError]; rfl, ?_⟩
  rw [query_router, decision, noStatement, run_router]
  cases (history.filterMap (decision ext next cluster)).getLast? <;> rfl

end

/-- `pg_query` on `SELECT 1` and `INSERT INTO t VALUES (1)`, with no comments, keys or `COPY`. -/
def selectThenInsert : Externals where
  parse sql := .ok <|
    if sql = Net.ascii "SELECT 1" then ⟨[⟨some (.mk (some (.selectStmt none [])))⟩], []⟩
    else ⟨[⟨some (.mk (some .insertStmt))⟩], [Net.ascii "t"]⟩
  commentShard _ _ := .ok none
  whereClause _ := none
  shardStr _ _ := none
  copyParser _ _ _ := .ok false

/-- Prepare `S` as `SELECT 1`, then sync. -/
def prepareSelect : Buffer :=
  ⟨[.new (Net.Parse.mk (Net.ascii "S") (Net.ascii "SELECT 1") []).toBytes (Net.Payload.freeze_ne_nil _),
    .bare 'S']⟩

def insertRow : Buffer := ⟨[(Net.Query.mk (Net.ascii "INSERT INTO t VALUES (1)")).message]⟩

/-- Bind `S` with no parameters, execute, sync. -/
def executePrepared : Buffer :=
  ⟨[.new (((((Net.Payload.named 'B').putString []).putString (Net.ascii "S")).putI16 0).putI16 0
      |>.putI16 0).freeze (Net.Payload.freeze_ne_nil _),
    .bare 'E', .bare 'S']⟩

theorem route_without_statement_insert :
    executePrepared.query = .ok none ∧
    (((Router.new ⟨.any, .unknown, []⟩).run selectThenInsert 0 ⟨2, false, false, []⟩
      [prepareSelect, insertRow]).query selectThenInsert 0 executePrepared
        ⟨2, false, false, []⟩).2.route = Route.write none :=
  ⟨by decide, by
    simpa using (route_without_statement selectThenInsert 0 ⟨2, false, false, []⟩ ⟨.any, .unknown, []⟩
      [prepareSelect, insertRow] executePrepared (by decide)).2⟩

/-- Executing a prepared `SELECT 1` after an `INSERT` was routed takes the `INSERT`'s route. -/
theorem route_of_prepared_statement :
    ¬ ∀ (ext : Externals) next cluster initial pre (prepared : Buffer) post buffer sql params command,
      prepared.query = .ok (some sql) → buffer.query = .ok none → buffer.parameters = .ok params →
      Router.Parser.query ext cluster params next sql = .ok command →
      (((Router.new initial).run ext next cluster (pre ++ prepared :: post)).query ext next buffer
        cluster).2.route = (QueryParser.mk command).route :=
  fun h => absurd (h selectThenInsert 0 ⟨2, false, false, []⟩ ⟨.any, .unknown, []⟩ [] prepareSelect
    [insertRow] executePrepared _ _ _ rfl rfl rfl rfl) (by decide)

end PgDog.Frontend
