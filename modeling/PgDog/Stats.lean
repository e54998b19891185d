import PgDog.Frontend.Client

/-!
# Connection statistics

What the `ConnStats` counters of a server connection (backend/server.rs) and of a client session
(frontend/client.rs) count. `Server.execute_stats` gives what one `execute` adds to each counter,
`Server.run_counts` that over any run of calls transactions never grow faster than queries, and
`spawn_stats` that over every interleaving of events the client's byte and transaction counters
are exact sums, and its query counter counts flushes: every `ReadyForQuery` and `CopyInResponse`
written, and never more than the messages flushed.
-/

namespace PgDog

open Net

namespace Backend.Server

/-! ### Server connection -/

variable {s s' : Server}

@[simp] theorem setState_stats (s : Server) (state : State) : (s.setState state).stats = s.stats := rfl

theorem read_stats {m m' : Message} (h : s.read (.ok m) = (.ok m', s')) :
    s'.stats.bytesSent = s.stats.bytesSent ∧
    s'.stats.bytesReceived = s.stats.bytesReceived + m.len ∧
    s'.stats.queries = s.stats.queries + (if m.code = 'Z' then 1 else 0) ∧
    s'.stats.transactions =
      s.stats.transactions + (if m.code = 'Z' ∧ s'.state = .idle then 1 else 0) := by
  simp only [read] at h
  split_ifs at h with ready
  · split at h
    · simp only [onReadyForQuery] at h
      split at h <;> cases h <;> simp [ready, setState]
    · cases h
  · cases h
    simp [ready]

theorem readUntilSync_stats {messages ms : List Message} {replies rest : List Received}
    (busy : s.inSync = false) (h : s.readUntilSync messages replies = some (.ok ms, s', rest)) :
    s'.stats.bytesSent = s.stats.bytesSent ∧
    s'.stats.bytesReceived + (messages.map Message.len).sum =
      s.stats.bytesReceived + (ms.map Message.len).sum ∧
    s'.stats.queries = s.stats.queries + 1 ∧
    s'.stats.transactions = s.stats.transactions + (if s'.state = .idle then 1 else 0) := by
  induction replies generalizing s messages with
  | nil => simp [readUntilSync, busy] at h
  | cons r replies ih =>
    simp only [readUntilSync, busy, Bool.false_eq_true, if_false] at h
    split at h
    · rename_i m s₁ hread
      obtain rfl := Server.read_ok hread
      obtain ⟨sent, received, queries, transactions⟩ := read_stats hread
      rcases read_cases hread with ⟨_, ⟨⟩, other, ⟨⟩, kept⟩ | ⟨_, rfq, ⟨⟩, ready, -, status⟩ |
        ⟨_, _, -, -, -, ⟨⟩, -⟩ | ⟨_, -, ⟨⟩, -⟩
      · obtain ⟨sent', received', queries', transactions'⟩ :=
          ih ((inSync_of_state kept).trans busy) h
        simp only [other, if_false, false_and, List.map_append, List.sum_append, List.map_cons,
          List.map_nil, List.sum_cons, List.sum_nil] at *
        omega
      · have synced : s₁.inSync = true := by
          rcases status with ⟨-, -, st⟩ | ⟨-, -, st⟩ | ⟨-, -, st⟩ | ⟨-, ⟨⟩, -⟩ <;> simp [inSync, st]
        rw [readUntilSync_in_sync synced] at h
        cases h
        simp only [ready, true_and, if_true, List.map_append, List.sum_append, List.map_cons,
          List.map_nil, List.sum_cons, List.sum_nil] at queries transactions ⊢
        omega
    · cases h

/-- An `execute` that returns messages counts the bytes of the `Query` and of every reply, one
query, and one transaction exactly when the connection ends idle. -/
theorem execute_stats {query : Bytes} {written : Bool} {replies rest : List Received}
    {ms : List Message} (h : s.execute query written replies = some (.ok ms, s', rest)) :
    s'.stats.bytesSent = s.stats.bytesSent + (Query.mk query).message.len ∧
    s'.stats.bytesReceived = s.stats.bytesReceived + (ms.map Message.len).sum ∧
    s'.stats.queries = s.stats.queries + 1 ∧
    s'.stats.transactions = s.stats.transactions + (if s'.state = .idle then 1 else 0) := by
  simp only [execute] at h
  split_ifs at h
  · cases h
  split at h
  · rename_i s₁ sent
    simp only [send] at sent
    split at sent
    · cases sent
      obtain ⟨sent, received, queries, transactions⟩ := readUntilSync_stats (by rfl) h
      simp only [setState_stats, List.map_nil, List.sum_nil, List.map_cons, List.sum_cons,
        add_zero] at *
      omega
    · cases sent
  · cases h

theorem execute_stats_select_one :
    ∃ ms s' rest, (⟨.idle, {}⟩ : Server).execute (ascii "SELECT 1") true
        [.ok (Message.bare 'C'), .ok ReadyForQuery.idle.message] = some (.ok ms, s', rest) ∧
      s'.stats.bytesSent = (⟨.idle, {}⟩ : Server).stats.bytesSent + (Query.mk (ascii "SELECT 1")).message.len ∧
      s'.stats.bytesReceived = (⟨.idle, {}⟩ : Server).stats.bytesReceived + (ms.map Message.len).sum ∧
      s'.stats.queries = (⟨.idle, {}⟩ : Server).stats.queries + 1 ∧
      s'.stats.transactions =
        (⟨.idle, {}⟩ : Server).stats.transactions + (if s'.state = .idle then 1 else 0) :=
  ⟨_, _, _, rfl,
    @execute_stats _ _ _ true [.ok (Message.bare 'C'), .ok ReadyForQuery.idle.message] _ _ rfl⟩

/-- The counters of `s'` extend those of `s`: none went down, and transactions grew by no more
than queries. -/
def CountsFrom (s s' : Server) : Prop :=
  s.stats.bytesSent ≤ s'.stats.bytesSent ∧ s.stats.bytesReceived ≤ s'.stats.bytesReceived ∧
    s.stats.queries ≤ s'.stats.queries ∧ s.stats.transactions ≤ s'.stats.transactions ∧
    s'.stats.transactions + s.stats.queries ≤ s'.stats.queries + s.stats.transactions

theorem CountsFrom.of_stats (h : s'.stats = s.stats) : CountsFrom s s' := by
  simp only [CountsFrom, h]; omega

theorem CountsFrom.refl (s : Server) : CountsFrom s s := .of_stats rfl

theorem CountsFrom.trans {s₁ : Server} (first : CountsFrom s s₁) (second : CountsFrom s₁ s') :
    CountsFrom s s' := by
  simp only [CountsFrom] at *; omega

theorem read_counts (r : Received) : CountsFrom s (s.read r).2 := by
  cases r with
  | error e => exact .of_stats rfl
  | ok m =>
    simp only [read]
    split_ifs
    · split
      · simp only [onReadyForQuery]
        split <;> simp only [CountsFrom, setState_stats] <;> omega
      · simp only [CountsFrom]; omega
    · simp only [CountsFrom]; omega

theorem send_counts (messages : List Message) (written : Bool) :
    CountsFrom s (s.send messages written).2 := by
  simp only [send]; split <;> simp only [CountsFrom, setState_stats] <;> omega

theorem flush_counts (flushed : Bool) : CountsFrom s (s.flush flushed).2 := by
  simp only [flush]; split <;> exact .of_stats rfl

theorem readUntilSync_counts {messages : List Message} {replies rest : List Received}
    {result : Except Error (List Message)}
    (h : s.readUntilSync messages replies = some (result, s', rest)) : CountsFrom s s' := by
  induction replies generalizing s messages with
  | nil =>
    simp only [readUntilSync] at h
    split_ifs at h
    cases h
    exact .refl _
  | cons r replies ih =>
    simp only [readUntilSync] at h
    split_ifs at h
    · cases h; exact .refl _
    split at h
    · rename_i hread
      exact (congrArg Prod.snd hread ▸ read_counts r).trans (ih h)
    · rename_i hread
      cases h
      have read : (s.read r).2 = s' := congrArg Prod.snd hread
      exact read ▸ read_counts r

theorem execute_counts {query : Bytes} {written : Bool} {replies rest : List Received}
    {result : Except Error (List Message)}
    (h : s.execute query written replies = some (result, s', rest)) : CountsFrom s s' := by
  simp only [execute] at h
  split_ifs at h
  · cases h; exact .refl _
  split at h
  · rename_i sent
    exact (congrArg Prod.snd sent ▸ send_counts _ written).trans (readUntilSync_counts h)
  · rename_i sent
    cases h
    have sent : (s.send _ written).2 = s' := congrArg Prod.snd sent
    exact sent ▸ send_counts _ written

theorem rollback_counts {written : Bool} {replies rest : List Received}
    (h : s.rollback written replies = some (s', rest)) : CountsFrom s s' := by
  obtain ⟨⟨s₁, rest₁⟩, rolledBack, settled⟩ := Option.map_eq_some'.mp h
  have last : CountsFrom s₁ s' := by
    cases settled; split <;> exact .of_stats rfl
  refine CountsFrom.trans ?_ last
  split_ifs at rolledBack
  · obtain ⟨⟨result, s₂, rest₂⟩, executed, returned⟩ := Option.map_eq_some'.mp rolledBack
    cases result <;> cases returned
    · exact (execute_counts executed).trans (.of_stats rfl)
    · exact execute_counts executed
  · cases rolledBack; exact .refl _

theorem apply_counts {op : Op} (h : s.apply op = some s') : CountsFrom s s' := by
  cases op with
  | send messages written => cases h; exact send_counts messages written
  | flush flushed => cases h; exact flush_counts flushed
  | read received => cases h; exact read_counts received
  | execute query written replies =>
    obtain ⟨⟨_, _, _⟩, executed, rfl⟩ := Option.map_eq_some'.mp h
    exact execute_counts executed
  | healthcheck query written replies =>
    obtain ⟨⟨_, _, _⟩, checked, rfl⟩ := Option.map_eq_some'.mp h
    obtain ⟨⟨_, _, _⟩, executed, returned⟩ := Option.map_eq_some'.mp checked
    cases returned
    exact execute_counts executed
  | rollback written replies =>
    obtain ⟨⟨_, _⟩, rolledBack, rfl⟩ := Option.map_eq_some'.mp h
    exact rollback_counts rolledBack

/-- Over every run of calls on a connection, no counter goes down, and transactions grow by no
more than queries. -/
theorem run_counts {ops : List Op} (h : s.run ops = some s') : CountsFrom s s' := by
  induction ops generalizing s with
  | nil => cases h; exact .refl _
  | cons op ops ih =>
    obtain ⟨s₁, applied, rest⟩ := Option.bind_eq_some.mp h
    exact (apply_counts applied).trans (ih rest)

/-- `BEGIN`, then `COMMIT`. -/
def beginCommit : List Op :=
  [.execute (ascii "BEGIN") true [.ok (ReadyForQuery.mk 'T').message],
    .execute (ascii "COMMIT") true [.ok ReadyForQuery.idle.message]]

theorem run_counts_begin_commit :
    ∃ s', (⟨.idle, {}⟩ : Server).run beginCommit = some s' ∧ CountsFrom ⟨.idle, {}⟩ s' :=
  ⟨_, rfl, @run_counts _ _ beginCommit rfl⟩

end Backend.Server

/-! ### Client session -/

namespace Frontend

def Event.received : Event → Option Message
  | .client m => some m
  | _ => none

def forwarded (effects : List Effect) : List Message :=
  effects.filterMap fun
    | .forwarded m => some m
    | _ => none

@[simp] theorem forwarded_nil : forwarded [] = [] := rfl

@[simp] theorem forwarded_checkedOut (effs : List Effect) :
    forwarded (.checkedOut :: effs) = forwarded effs := rfl

@[simp] theorem forwarded_sent (ms : List Message) (effs : List Effect) :
    forwarded (.sent ms :: effs) = forwarded effs := rfl

@[simp] theorem forwarded_forwarded (m : Message) (effs : List Effect) :
    forwarded (.forwarded m :: effs) = m :: forwarded effs := rfl

@[simp] theorem forwarded_disconnected (effs : List Effect) :
    forwarded (.disconnected :: effs) = forwarded effs := rfl

@[simp] theorem forwarded_append (effs effs' : List Effect) :
    forwarded (effs ++ effs') = forwarded effs ++ forwarded effs' :=
  List.filterMap_append _ _ _

theorem received_cons (e : Event) (es : List Event) :
    (((e :: es).filterMap Event.received).map Message.len).sum =
      (e.received.map Message.len).getD 0 + ((es.filterMap Event.received).map Message.len).sum := by
  cases h : e.received <;> simp [List.filterMap_cons, h]

namespace Session

variable {s s' : Session} {e : Event} {effs : List Effect}

@[simp] theorem forward_bytesSent (s : Session) (m : Message) :
    (s.forward m).stats.bytesSent = s.stats.bytesSent + m.len := by
  simp only [forward]; split <;> rfl

@[simp] theorem forward_bytesReceived (s : Session) (m : Message) :
    (s.forward m).stats.bytesReceived = s.stats.bytesReceived := by
  simp only [forward]; split <;> rfl

@[simp] theorem forward_transactions (s : Session) (m : Message) :
    (s.forward m).stats.transactions = s.stats.transactions := by
  simp only [forward]; split <;> rfl

@[simp] theorem forward_queries (s : Session) (m : Message) :
    (s.forward m).stats.queries = s.stats.queries + if m.code ∈ ['Z', 'G'] || s.flush then 1 else 0 := by
  simp only [forward]; split <;> simp_all

@[simp] theorem forward_flushed_length (s : Session) (m : Message) :
    (s.forward m).stream.flushed.length = s.stream.flushed.length +
      if m.code ∈ ['Z', 'G'] || s.flush then s.stream.buffered.length + 1 else 0 := by
  simp only [forward]; split <;> simp_all [Stream.sendFlush, Stream.send]

theorem step_stats (h : s.step e = some (s', effs)) :
    s'.stats.bytesReceived = s.stats.bytesReceived + (e.received.map Message.len).getD 0 ∧
    s'.stats.bytesSent = s.stats.bytesSent + ((forwarded effs).map Message.len).sum ∧
    s'.stats.transactions = s.stats.transactions + effs.count .disconnected := by
  cases e with
  | client m =>
    simp only [step] at h
    split at h
    · split_ifs at h
      · cases h; simp [Event.received]
      · simp only [dispatch, Option.some.injEq] at h
        split at h <;> cases h <;> simp [Event.received, sendBuffer]
      · cases h; simp [Event.received]
    · cases h
  | checkout server =>
    simp only [step] at h
    split at h
    · cases h; simp [Event.received, sendBuffer]
    · cases h
  | server r =>
    simp only [step] at h
    split at h
    · split at h
      · split at h <;> cases h <;> simp [Event.received]
      · cases h; simp [Event.received]
    · cases h
  | fail =>
    simp only [step] at h
    split at h
    · cases h
    · cases h; simp [Event.received]

theorem step_contents_forwarded (h : s.step e = some (s', effs)) :
    s'.stream.contents = s.stream.contents ++ forwarded effs := by
  rcases step_cases h with
    ⟨_, _, -, -, ⟨-, hst, rfl, -⟩ | ⟨-, -, _, -, -, -, hst, rfl⟩⟩ | ⟨_, _, -, -, -, -, hst, rfl⟩ |
    ⟨_, _, -, -, ⟨_, _, -, -, -, hst, ⟨-, -, rfl⟩ | ⟨-, -, rfl⟩⟩ | ⟨_, _, _, -, -, -, -, hst, rfl⟩⟩ |
    ⟨-, -, -, -, hst, rfl⟩
  all_goals simp [hst]

theorem forward_counts (s : Session) (m : Message) :
    s.stats.queries + [m].countP (·.code ∈ ['Z', 'G']) ≤ (s.forward m).stats.queries ∧
    (s.forward m).stats.queries + s.stream.flushed.length ≤
      s.stats.queries + (s.forward m).stream.flushed.length := by
  rw [forward_queries, forward_flushed_length, List.countP_singleton]
  by_cases zg : m.code ∈ ['Z', 'G']
  · simp only [zg, decide_True, Bool.true_or, if_true]; omega
  · simp only [zg, decide_False, Bool.false_or, Bool.false_eq_true, if_false]; split <;> omega

theorem step_queries (h : s.step e = some (s', effs)) :
    s.stats.queries + (forwarded effs).countP (·.code ∈ ['Z', 'G']) ≤ s'.stats.queries ∧
    s'.stats.queries + s.stream.flushed.length ≤ s.stats.queries + s'.stream.flushed.length := by
  cases e with
  | client m =>
    simp only [step] at h
    split at h
    · split_ifs at h
      · cases h; simp
      · simp only [dispatch, Option.some.injEq] at h
        split at h <;> cases h <;> simp [sendBuffer]
      · cases h; simp
    · cases h
  | checkout server =>
    simp only [step] at h
    split at h
    · cases h; simp [sendBuffer]
    · cases h
  | server r =>
    simp only [step] at h
    split at h
    · split at h
      · rename_i m _ _
        split at h <;> cases h <;>
          simpa only [forwarded_forwarded, forwarded_disconnected, forwarded_nil] using
            forward_counts { s with phase := .select [], server := ⟨some _⟩ } m
      · cases h; simp
    · cases h
  | fail =>
    simp only [step] at h
    split at h
    · cases h
    · cases h; simp

theorem run_stats {events : List Event} {effects : List Effect}
    (h : s.run events = some (s', effects)) :
    s'.stats.bytesReceived =
      s.stats.bytesReceived + ((events.filterMap Event.received).map Message.len).sum ∧
    s'.stats.bytesSent = s.stats.bytesSent + ((forwarded effects).map Message.len).sum ∧
    s'.stats.transactions = s.stats.transactions + effects.count .disconnected ∧
    s'.stream.contents = s.stream.contents ++ forwarded effects :=
  run_rel (fun s events effects s' =>
      s'.stats.bytesReceived =
        s.stats.bytesReceived + ((events.filterMap Event.received).map Message.len).sum ∧
      s'.stats.bytesSent = s.stats.bytesSent + ((forwarded effects).map Message.len).sum ∧
      s'.stats.transactions = s.stats.transactions + effects.count .disconnected ∧
      s'.stream.contents = s.stream.contents ++ forwarded effects)
    (fun _ => by simp)
    (fun s e effs s₁ es more s' hstep ⟨received, sent, transactions, contents⟩ => by
      obtain ⟨received₀, sent₀, transactions₀⟩ := step_stats hstep
      refine ⟨?_, ?_, ?_, by rw [contents, step_contents_forwarded hstep, forwarded_append,
        List.append_assoc]⟩
      · rw [received, received₀, received_cons]; omega
      · simp only [forwarded_append, List.map_append, List.sum_append]; omega
      · simp only [List.count_append]; omega)
    h

theorem run_queries {events : List Event} {effects : List Effect}
    (h : s.run events = some (s', effects)) :
    s.stats.queries + (forwarded effects).countP (·.code ∈ ['Z', 'G']) ≤ s'.stats.queries ∧
    s'.stats.queries + s.stream.flushed.length ≤ s.stats.queries + s'.stream.flushed.length :=
  run_rel (fun s _ effects s' =>
      s.stats.queries + (forwarded effects).countP (·.code ∈ ['Z', 'G']) ≤ s'.stats.queries ∧
      s'.stats.queries + s.stream.flushed.length ≤ s.stats.queries + s'.stream.flushed.length)
    (fun _ => by simp)
    (fun s e effs s₁ es more s' hstep ⟨counted, flushed⟩ => by
      obtain ⟨counted₀, flushed₀⟩ := step_queries hstep
      simp only [forwarded_append, List.countP_append]
      omega)
    h

end Session

/-- Over every interleaving of events of `Client::spawn`: `bytes_received` counts every message read
from the client, `bytes_sent` everything written to it, `transactions` each release, and `queries`
at least each `ReadyForQuery` and `CopyInResponse` written and at most each message flushed. -/
theorem spawn_stats {events : List Event} {s : Session} {effects : List Effect}
    (h : Session.init.run events = some (s, effects)) :
    s.stats.bytesReceived = ((events.filterMap Event.received).map Message.len).sum ∧
    s.stats.bytesSent = (s.stream.contents.map Message.len).sum ∧
    s.stats.transactions = effects.count .disconnected ∧
    s.stream.contents.countP (·.code ∈ ['Z', 'G']) ≤ s.stats.queries ∧
    s.stats.queries ≤ s.stream.flushed.length := by
  obtain ⟨received, sent, transactions, contents⟩ := Session.run_stats h
  obtain ⟨counted, flushed⟩ := Session.run_queries h
  have written : s.stream.contents = forwarded effects := by
    simpa [Session.init, Stream.contents] using contents
  refine ⟨by simpa [Session.init] using received, by rw [sent, written]; simp [Session.init],
    by simpa [Session.init] using transactions, ?_, by simpa [Session.init] using flushed⟩
  rw [written]
  simpa [Session.init] using counted

theorem spawn_stats_flush_then_bind :
    ∃ s effects, Session.init.run flushThenBind = some (s, effects) ∧
      s.stats.bytesReceived = ((flushThenBind.filterMap Event.received).map Message.len).sum ∧
      s.stats.bytesSent = (s.stream.contents.map Message.len).sum ∧
      s.stats.transactions = effects.count .disconnected ∧
      s.stream.contents.countP (·.code ∈ ['Z', 'G']) ≤ s.stats.queries ∧
      s.stats.queries ≤ s.stream.flushed.length :=
  ⟨_, _, rfl, spawn_stats rfl⟩

end Frontend

end PgDog
