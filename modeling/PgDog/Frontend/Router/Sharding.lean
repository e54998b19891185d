import PgDog.Frontend.Router.QueryParser

/-!
# Sharding a statement

Which shard `QueryParser::query` sends a statement to. `select` collects the shards the `WHERE`
clause's keys resolve to into a `HashSet` and reads from one shard only when the set has one
member; every route `query` returns names a shard of the cluster, or none.
-/

namespace PgDog.Frontend.Router.Parser

open Net (Bytes)

/-! ### The shards a `WHERE` clause names -/

theorem mem_insertShard {shards : List Nat} {shard : Option Nat} {s : Nat} :
    s ∈ insertShard shards shard ↔ s ∈ shards ∨ shard = some s := by
  cases shard with
  | none => simp [insertShard]
  | some t =>
    simp only [insertShard]
    split_ifs with mem
    · exact ⟨.inl, fun h => h.elim id fun eq => Option.some.inj eq ▸ mem⟩
    · simp [eq_comm]

theorem nodup_insertShard {shards : List Nat} (nodup : shards.Nodup) (shard : Option Nat) :
    (insertShard shards shard).Nodup := by
  cases shard with
  | none => exact nodup
  | some t =>
    simp only [insertShard]
    split_ifs with mem
    · exact nodup
    · exact nodup.append (List.nodup_singleton t) (by simpa using mem)

theorem foldlM_collect {α ε : Type} (f : List Nat → α → Except ε (List Nat)) (names : α → Nat → Prop)
    (step : ∀ acc a, ∃ acc', f acc a = .ok acc' ∧ (∀ s, s ∈ acc' ↔ s ∈ acc ∨ names a s) ∧
      (acc.Nodup → acc'.Nodup))
    (xs : List α) (acc : List Nat) :
    ∃ shards, xs.foldlM f acc = .ok shards ∧ (∀ s, s ∈ shards ↔ s ∈ acc ∨ ∃ a ∈ xs, names a s) ∧
      (acc.Nodup → shards.Nodup) := by
  induction xs generalizing acc with
  | nil => exact ⟨acc, rfl, by simp, id⟩
  | cons a xs ih =>
    obtain ⟨acc', stepped, mem', nodup'⟩ := step acc a
    obtain ⟨shards, folded, mem, nodup⟩ := ih acc'
    refine ⟨shards, by simp only [List.foldlM_cons, stepped]; exact folded, fun s => ?_,
      nodup ∘ nodup'⟩
    simp only [mem, mem', List.mem_cons, exists_eq_or_imp, or_assoc]

section

variable (ext : Externals) (cluster : Cluster) (params : Option Bind)

theorem keyShard_ok (key : Key) : ∃ shard, keyShard ext cluster params key = .ok shard := by
  cases key with
  | constant value => exact ⟨_, rfl⟩
  | parameter param =>
    cases params with
    | none => exact ⟨_, rfl⟩
    | some params => exact ⟨_, rfl⟩

theorem select_shards (keys : Option Bytes → Bytes → List Key) :
    ∃ shards, cluster.shardedTables.foldlM (fun shards table =>
        (keys table.name table.column).foldlM (fun shards key =>
          insertShard shards <$> keyShard ext cluster params key) shards) [] = .ok shards ∧
      (∀ s, s ∈ shards ↔ ∃ table ∈ cluster.shardedTables, ∃ key ∈ keys table.name table.column,
        keyShard ext cluster params key = .ok (some s)) ∧ shards.Nodup := by
  have inner := foldlM_collect (fun shards key => insertShard shards <$> keyShard ext cluster params key)
    (fun key s => keyShard ext cluster params key = .ok (some s)) fun acc key => by
      obtain ⟨shard, resolved⟩ := keyShard_ok ext cluster params key
      exact ⟨_, by simp only [resolved]; rfl, fun s => by simp [mem_insertShard, resolved],
        (nodup_insertShard · shard)⟩
  obtain ⟨shards, folded, mem, nodup⟩ := foldlM_collect _
    (fun table s => ∃ key ∈ keys table.name table.column, keyShard ext cluster params key = .ok (some s))
    (fun acc table => inner (keys table.name table.column) acc) cluster.shardedTables []
  exact ⟨shards, folded, fun s => (mem s).trans (or_iff_right (List.not_mem_nil s)),
    nodup List.nodup_nil⟩

end

theorem single_shard {shards : List Nat} (nodup : shards.Nodup) (s : Nat) :
    (if shards.length = 1 then shards.head? else none) = some s ↔ s ∈ shards ∧ ∀ t ∈ shards, t = s := by
  match shards, nodup with
  | [], _ => simp
  | [a], _ => simp [eq_comm]
  | a :: b :: rest, nodup =>
    simp only [List.length_cons, add_left_eq_self, Nat.add_eq_zero, one_ne_zero, and_false,
      if_false, List.mem_cons, forall_eq_or_imp, reduceCtorEq, false_iff, not_and]
    rintro - rfl rfl
    simp at nodup

section

variable (ext : Externals) (cluster : Cluster) (params : Option Bind)

/-- What `select` returns: a read on the one shard the keys resolve to, if there is exactly one. -/
theorem select_route (whereClause : Option Node) (sortClause : List Node) :
    ∃ shards : List Nat, select ext cluster params whereClause sortClause =
        .ok (.query (Route.select (if shards.length = 1 then shards.head? else none)
          (selectSort sortClause))) ∧ shards.Nodup ∧
      ∀ s, s ∈ shards ↔ ∃ keys, ext.whereClause whereClause = some keys ∧
        ∃ table ∈ cluster.shardedTables, ∃ key ∈ keys table.name table.column,
          keyShard ext cluster params key = .ok (some s) := by
  cases hw : ext.whereClause whereClause with
  | none => exact ⟨[], by simp only [select, hw]; rfl, List.nodup_nil,
    fun s => iff_of_false (List.not_mem_nil s) fun ⟨_, absent, _⟩ => nomatch absent⟩
  | some keys =>
    obtain ⟨shards, folded, mem, nodup⟩ := select_shards ext cluster params keys
    refine ⟨shards, by simp only [select, hw, folded]; rfl, nodup, ?_⟩
    simpa only [Option.some.injEq, exists_eq_left'] using mem

theorem keyShard_shardStr {key : Key} {s : Nat} (h : keyShard ext cluster params key = .ok (some s)) :
    ∃ value, ext.shardStr value cluster.shards = some s := by
  cases key with
  | constant value => exact ⟨value, by simpa [keyShard, pure, Except.pure] using h⟩
  | parameter param =>
    cases params with
    | none => cases h
    | some params =>
      simp only [keyShard, Bind.parameter, Except.mapError, bind, Except.bind, pure, Except.pure,
        Except.ok.injEq, Option.bind_eq_some] at h
      obtain ⟨value, -, resolved⟩ := h
      exact ⟨value, resolved⟩

/-- `QueryParser::select` reads from one shard exactly when some key resolves to it and every key
that resolves at all resolves to it; keys that resolve to no shard are left out. -/
theorem select_pins_resolved_keys (whereClause : Option Node) (sortClause : List Node) :
    ∃ route, select ext cluster params whereClause sortClause = .ok (.query route) ∧
      route = Route.select route.shard (selectSort sortClause) ∧
      ∀ s, route.shard = some s ↔ ∃ keys, ext.whereClause whereClause = some keys ∧
        (∃ table ∈ cluster.shardedTables, ∃ key ∈ keys table.name table.column,
          keyShard ext cluster params key = .ok (some s)) ∧
        ∀ table ∈ cluster.shardedTables, ∀ key ∈ keys table.name table.column, ∀ t,
          keyShard ext cluster params key = .ok (some t) → t = s := by
  obtain ⟨shards, selected, nodup, mem⟩ := select_route ext cluster params whereClause sortClause
  refine ⟨_, selected, by simp, fun s => ?_⟩
  simp only [Route.shard_select, single_shard nodup, mem]
  constructor
  · rintro ⟨⟨keys, hw, resolved⟩, only⟩
    exact ⟨keys, hw, resolved, fun table ht key hk t r => only t ⟨keys, hw, table, ht, key, hk, r⟩⟩
  · rintro ⟨keys, hw, resolved, only⟩
    refine ⟨⟨keys, hw, resolved⟩, fun t ⟨keys', hw', table, ht, key, hk, r⟩ => ?_⟩
    cases hw.symm.trans hw'
    exact only table ht key hk t r

end

/-- `SELECT * FROM users WHERE id = 1 AND id = $1`, with `shard_str` putting `1` on shard 1. -/
def constantAndParameter : Externals where
  parse _ := .ok ⟨[⟨some (.mk (some (.selectStmt none [])))⟩], [Net.ascii "users"]⟩
  commentShard _ _ := .ok none
  whereClause _ := some fun _ _ => [.constant (Net.ascii "1"), .parameter 0]
  shardStr value _ := if value = Net.ascii "1" then some 1 else none
  copyParser _ _ _ := .ok false

def usersById : Cluster := ⟨2, false, false, [⟨some (Net.ascii "users"), Net.ascii "id"⟩]⟩

/-- A `Bind` of `$1` as the binary `int4` 1. -/
def binaryOne : Bind := ⟨[1], [[0, 0, 0, 1]]⟩

theorem select_pins_past_unresolved_key :
    ¬ ∀ (ext : Externals) (cluster : Cluster) (params : Option Bind) (whereClause : Option Node)
      (sortClause : List Node) (route : Route) (keys : Option Bytes → Bytes → List Key) (s : Nat),
      0 < cluster.shards → ext.whereClause whereClause = some keys →
      select ext cluster params whereClause sortClause = .ok (.query route) → route.shard = some s →
      ∀ table ∈ cluster.shardedTables, ∀ key ∈ keys table.name table.column,
        keyShard ext cluster params key = .ok (some s) :=
  fun h => absurd (h constantAndParameter usersById (some binaryOne) none [] _ _ 1 (by decide) rfl rfl
    rfl _ (List.mem_singleton_self _) (.parameter 0) (by simp)) (by decide)

theorem select_shard_in_range (ext : Externals) (cluster : Cluster) (params : Option Bind)
    {whereClause : Option Node} {sortClause : List Node} {route : Route}
    (shardStr : ∀ value s, ext.shardStr value cluster.shards = some s → s < cluster.shards)
    (h : select ext cluster params whereClause sortClause = .ok (.query route)) :
    ∀ s, route.shard = some s → s < cluster.shards := by
  obtain ⟨shards, selected, -, mem⟩ := select_route ext cluster params whereClause sortClause
  rw [selected] at h
  cases h
  intro s resolved
  simp only [Route.shard_select] at resolved
  split_ifs at resolved
  obtain ⟨-, -, -, -, key, -, resolves⟩ := (mem s).1 (List.mem_of_mem_head? resolved)
  obtain ⟨value, named⟩ := keyShard_shardStr ext cluster params resolves
  exact shardStr value s named

/-- When `shard_str` and the comment override name shards of the cluster, every route
`QueryParser::query` returns names one of them or none, and on a single shard it names shard 0. -/
theorem query_shard_in_range (ext : Externals) (cluster : Cluster) (params : Option Bind) (next : Nat)
    (sql : Bytes) (route : Route) (shards : 0 < cluster.shards)
    (shardStr : ∀ value s, ext.shardStr value cluster.shards = some s → s < cluster.shards)
    (commentShard : ∀ query s, ext.commentShard query cluster.shards = .ok (some s) → s < cluster.shards)
    (h : Router.Parser.query ext cluster params next sql = .ok (.query route)) :
    (∀ s, route.shard = some s → s < cluster.shards) ∧ (cluster.shards = 1 → route.shard = some 0) := by
  rcases query_route ext cluster params h with ⟨one, -, rfl⟩ | ⟨one, -, rfl⟩ | ⟨-, rfl⟩ |
    ⟨shard, base, comment, statement, rfl⟩
  · exact ⟨fun s pinned => by cases pinned; exact shards, fun _ => rfl⟩
  · exact ⟨fun s pinned => by cases pinned; exact shards, fun _ => rfl⟩
  · exact ⟨fun s pinned => by cases pinned; exact Nat.mod_lt _ shards,
      fun one => by simp [one, Nat.mod_one]⟩
  · have based : ∀ s, base.shard = some s → s < cluster.shards := by
      rcases statement with rfl | ⟨whereClause, sortClause, selected⟩
      · rintro s ⟨⟩
      · exact select_shard_in_range ext cluster params shardStr selected
    simp only [shard_finishRoute]
    refine ⟨fun s pinned => ?_, fun one => if_pos one⟩
    split_ifs at pinned
    · cases pinned
      exact shards
    · cases shard with
      | none => exact based s pinned
      | some t => exact commentShard sql s (Option.some.inj pinned ▸ comment)

theorem query_shard_in_range_users :
    Router.Parser.query constantAndParameter usersById none 0 (Net.ascii "SELECT * FROM users WHERE id = 1") =
      .ok (.query (Route.select (some 1) [])) ∧
    (∀ s, (Route.select (some 1) []).shard = some s → s < usersById.shards) ∧
      (usersById.shards = 1 → (Route.select (some 1) []).shard = some 0) :=
  ⟨rfl, query_shard_in_range constantAndParameter usersById none 0
    (Net.ascii "SELECT * FROM users WHERE id = 1") _ (by decide)
    (fun value s named => by
      simp only [constantAndParameter, Option.ite_none_right_eq_some, Option.some.injEq] at named
      simp [usersById, ← named.2])
    (fun _ _ none => by cases none) rfl⟩

end PgDog.Frontend.Router.Parser
