import PgDog.Frontend.Router.Sharding

/-!
# Reads, writes and transactions

`Command::begin`, `Command::rollback` and `Command::commit` (router/parser/query.rs), and the
affinity of the routes `QueryParser::query` decides: every one is a read or a write, so once a
session has decided a statement, its router's route is a read or a write (`run_affinity`).
-/

namespace PgDog.Frontend.Router.Parser

open Net (Bytes)

namespace Command

def begin : Command → Bool
  | .startTransaction => true
  | _ => false

def rollback : Command → Bool
  | .rollbackTransaction => true
  | _ => false

def commit : Command → Bool
  | .commitTransaction => true
  | _ => false

end Command

/-- Every route `QueryParser::query` decides is a read or a write. -/
theorem query_affinity {ext : Externals} {cluster : Cluster} {params : Option Bind} {next : Nat}
    {sql : Bytes} {route : Route} (h : Router.Parser.query ext cluster params next sql = .ok (.query route)) :
    route.affinity ≠ .unknown := by
  rcases query_route ext cluster params h with ⟨-, -, rfl⟩ | ⟨-, -, rfl⟩ | ⟨-, rfl⟩ |
    ⟨shard, base, -, statement, rfl⟩
  · nofun
  · nofun
  · nofun
  · rw [affinity_finishRoute]
    rcases statement with rfl | ⟨whereClause, sortClause, selected⟩
    · nofun
    · obtain ⟨shards, chosen, -⟩ := select_route ext cluster params whereClause sortClause
      rw [chosen] at selected
      cases selected
      nofun

end PgDog.Frontend.Router.Parser

namespace PgDog.Frontend

open Router.Parser

section

variable (ext : Externals) (next : Nat) (cluster : Cluster)

theorem decision_eq_some {buffer : Buffer} {command : Command}
    (h : decision ext next cluster buffer = some command) :
    ∃ params sql, Router.Parser.query ext cluster params next sql = .ok command := by
  unfold decision at h
  split at h
  · rename_i sql params _ _
    refine ⟨params, sql, ?_⟩
    revert h
    cases Router.Parser.query ext cluster params next sql <;> intro h <;> cases h
    rfl
  · cases h

theorem route_affinity_of_decision {buffer : Buffer} {command : Command}
    (h : decision ext next cluster buffer = some command) :
    (QueryParser.mk command).route.affinity ≠ .unknown := by
  obtain ⟨params, sql, decided⟩ := decision_eq_some ext next cluster h
  cases command with
  | query route => exact query_affinity decided
  | _ => nofun

/-- Over any session, the router's route is `Route::default()` until a statement is decided; from
then on it is a read or a write, whatever requests follow. -/
theorem run_affinity (initial : Route) (history : List Buffer) :
    (history.filterMap (decision ext next cluster) = [] →
      ((Router.new initial).run ext next cluster history).route = initial) ∧
    (history.filterMap (decision ext next cluster) ≠ [] →
      ((Router.new initial).run ext next cluster history).route.affinity ≠ .unknown) := by
  rw [run_router]
  refine ⟨fun undecided => by rw [undecided]; rfl, fun decided => ?_⟩
  obtain ⟨command, last⟩ := Option.ne_none_iff_exists'.1 (mt List.getLast?_eq_none_iff.1 decided)
  obtain ⟨buffer, -, h⟩ := List.mem_filterMap.1 (List.mem_of_getLast?_eq_some last)
  rw [last]
  exact route_affinity_of_decision ext next cluster h

end

end PgDog.Frontend
