import PgDog.Net.Messages

/-!
# Server connection

`Server` (backend/server.rs) as a state machine driven by the outcome of each socket read and
write: `send`, `flush`, `read`, `execute`, `healthcheck` and `rollback`, and the predicates
`done`, `in_sync`, `in_transaction` and `error` over its `State`.
-/

namespace PgDog.Backend

open Net

/-- Modelled from the spec: `State` (state.rs) is not under src/. -/
inductive State where
  | idle
  | active
  | idleInTransaction
  | transactionError
  | waiting
  | error
  | disconnected
  deriving DecidableEq, Repr

/-- Modelled from the spec: `ConnStats` (stats.rs) is not under src/. -/
structure ConnStats where
  bytesSent : Nat := 0
  bytesReceived : Nat := 0
  queries : Nat := 0
  transactions : Nat := 0
  deriving DecidableEq, Repr

inductive IoError where
  | failed
  deriving DecidableEq, Repr

/-- Modelled from the spec: `backend::Error` (backend/error.rs); a decoder panic is `net`. -/
inductive Error where
  | io
  | net (fault : Fault)
  | unexpectedTransactionStatus (status : Char)
  | notInSync
  | connectionError (error : ErrorResponse)
  | unexpectedMessage (code : Char)
  | noBackendKeyData
  deriving DecidableEq, Repr

abbrev Received := Except IoError Message

structure Server where
  state : State
  stats : ConnStats
  deriving DecidableEq, Repr

namespace Server

def done (s : Server) : Bool := s.state == .idle

def inSync (s : Server) : Bool :=
  match s.state with
  | .idleInTransaction | .transactionError | .idle => true
  | _ => false

def inTransaction (s : Server) : Bool :=
  match s.state with
  | .idleInTransaction | .transactionError => true
  | _ => false

def error (s : Server) : Bool := s.state == .error

def setState (s : Server) (state : State) : Server := { s with state }

/-- `Server::send`; `written` is whether `send_many` succeeds. -/
def send (s : Server) (messages : List Message) (written : Bool) : Except Error Unit × Server :=
  let s := s.setState .active
  if written then
    (.ok (), { s with stats := { s.stats with bytesSent := s.stats.bytesSent + (messages.map (·.len)).sum } })
  else (.error .io, s.setState .error)

/-- `Server::flush`; `flushed` is whether the stream's flush succeeds. -/
def flush (s : Server) (flushed : Bool) : Except Error Unit × Server :=
  if flushed then (.ok (), s) else (.error .io, s.setState .error)

def onReadyForQuery (s : Server) (m : Message) : Char → Except Error Message × Server
  | 'I' => (.ok m, { s with state := .idle, stats := { s.stats with transactions := s.stats.transactions + 1 } })
  | 'T' => (.ok m, s.setState .idleInTransaction)
  | 'E' => (.ok m, s.setState .transactionError)
  | status => (.error (.unexpectedTransactionStatus status), s.setState .error)

def read (s : Server) : Received → Except Error Message × Server
  | .error _ => (.error .io, s.setState .error)
  | .ok m =>
    let s := { s with stats := { s.stats with bytesReceived := s.stats.bytesReceived + m.len } }
    if m.code = 'Z' then
      let s := { s with stats := { s.stats with queries := s.stats.queries + 1 } }
      match ReadyForQuery.fromBytes m.payload with
      | .ok rfq => s.onReadyForQuery m rfq.status
      | .error fault => (.error (.net fault), s)
    else (.ok m, s)

/-- The loop of `Server::execute`; `none` when the replies run out. -/
def readUntilSync (s : Server) (messages : List Message) :
    List Received → Option (Except Error (List Message) × Server × List Received)
  | [] => if s.inSync then some (.ok messages, s, []) else none
  | r :: rest =>
    if s.inSync then some (.ok messages, s, r :: rest)
    else
      match s.read r with
      | (.ok m, s') => readUntilSync s' (messages ++ [m]) rest
      | (.error e, s') => some (.error e, s', rest)

/-- `Server::execute`; `replies` is what the socket returns to the reads after the write. -/
def execute (s : Server) (query : Bytes) (written : Bool) (replies : List Received) :
    Option (Except Error (List Message) × Server × List Received) :=
  if !s.inSync then some (.error .notInSync, s, replies)
  else
    match s.send [(Query.mk query).message] written with
    | (.ok (), s) => s.readUntilSync [] replies
    | (.error e, s) => some (.error e, s, replies)

def healthcheck (s : Server) (query : Bytes) (written : Bool) (replies : List Received) :
    Option (Except Error Unit × Server × List Received) :=
  (s.execute query written replies).map fun (result, s, rest) => ((fun _ => ()) <$> result, s, rest)

def rollback (s : Server) (written : Bool) (replies : List Received) :
    Option (Server × List Received) :=
  let rolledBack :=
    if s.inTransaction then
      (s.execute (ascii "ROLLBACK") written replies).map fun
        | (.ok _, s, rest) => (s, rest)
        | (.error _, s, rest) => (s.setState .error, rest)
    else some (s, replies)
  rolledBack.map fun (s, rest) => (if !s.inSync then s.setState .error else s, rest)

/-! ### One `read` -/

variable {s s' : Server} {r : Received} {result : Except Error Message}

/-- Everything one `read` can do to the state, and what it returns. -/
theorem read_cases (h : s.read r = (result, s')) :
    -- a message other than `ReadyForQuery` is returned, and the state kept
    (∃ m, r = .ok m ∧ m.code ≠ 'Z' ∧ result = .ok m ∧ s'.state = s.state) ∨
    -- `ReadyForQuery` moves the state to the one its status names, or to `Error` on any other
    (∃ m rfq, r = .ok m ∧ m.code = 'Z' ∧ ReadyForQuery.fromBytes m.payload = .ok rfq ∧
      (rfq.status = 'I' ∧ result = .ok m ∧ s'.state = .idle ∨
       rfq.status = 'T' ∧ result = .ok m ∧ s'.state = .idleInTransaction ∨
       rfq.status = 'E' ∧ result = .ok m ∧ s'.state = .transactionError ∨
       rfq.status ∉ ['I', 'T', 'E'] ∧ result = .error (.unexpectedTransactionStatus rfq.status) ∧
        s'.state = .error)) ∨
    -- a `ReadyForQuery` that does not decode is an error, and the state is kept
    (∃ m fault, r = .ok m ∧ m.code = 'Z' ∧ ReadyForQuery.fromBytes m.payload = .error fault ∧
      result = .error (.net fault) ∧ s'.state = s.state) ∨
    -- a socket error moves the connection to `Error`
    (∃ e, r = .error e ∧ result = .error .io ∧ s'.state = .error) := by
  cases r with
  | error e => cases h; exact .inr (.inr (.inr ⟨e, rfl, rfl, rfl⟩))
  | ok m =>
    simp only [read] at h
    split at h
    · rename_i rfqCode
      split at h
      · rename_i rfq decoded
        refine .inr (.inl ⟨m, rfq, rfl, rfqCode, decoded, ?_⟩)
        simp only [onReadyForQuery] at h
        split at h <;> cases h
        · exact .inl ⟨‹_›, rfl, rfl⟩
        · exact .inr (.inl ⟨‹_›, rfl, rfl⟩)
        · exact .inr (.inr (.inl ⟨‹_›, rfl, rfl⟩))
        · exact .inr (.inr (.inr ⟨by simp_all, rfl, rfl⟩))
      · rename_i fault decoded
        cases h
        exact .inr (.inr (.inl ⟨m, fault, rfl, rfqCode, decoded, rfl, rfl⟩))
    · cases h
      exact .inl ⟨m, rfl, ‹_›, rfl, rfl⟩

theorem inSync_of_state (h : s'.state = s.state) : s'.inSync = s.inSync := by
  simp only [inSync, h]

theorem read_ok {m : Message} (h : s.read r = (.ok m, s')) : r = .ok m := by
  rcases read_cases h with ⟨_, rfl, -, ⟨⟩, -⟩ | ⟨_, _, rfl, -, -, status⟩ | ⟨_, _, -, -, -, ⟨⟩, -⟩ |
    ⟨_, -, ⟨⟩, -⟩
  · rfl
  · rcases status with ⟨-, ⟨⟩, -⟩ | ⟨-, ⟨⟩, -⟩ | ⟨-, ⟨⟩, -⟩ | ⟨-, ⟨⟩, -⟩ <;> rfl

theorem read_done (h : s.read r = (result, s')) (busy : s.done = false) (done : s'.done = true) :
    ∃ m, r = .ok m ∧ result = .ok m ∧ ReadyForQuery.fromBytes m.payload = .ok .idle := by
  have idle : s'.state = .idle := by simpa [Server.done] using done
  rcases read_cases h with ⟨_, -, -, -, kept⟩ | ⟨m, ⟨_⟩, rfl, -, decoded, status⟩ |
    ⟨_, _, -, -, -, -, kept⟩ | ⟨_, -, -, s'st⟩
  · simp [Server.done, ← kept, idle] at busy
  · rcases status with ⟨rfl, rfl, -⟩ | ⟨-, -, s'st⟩ | ⟨-, -, s'st⟩ | ⟨-, -, s'st⟩
    · exact ⟨m, rfl, rfl, decoded⟩
    all_goals simp [s'st] at idle
  · simp [Server.done, ← kept, idle] at busy
  · simp [s'st] at idle

/-! ### `execute` and `rollback` -/

theorem readUntilSync_in_sync (synced : s.inSync = true) (messages : List Message)
    (replies : List Received) : s.readUntilSync messages replies = some (.ok messages, s, replies) := by
  cases replies <;> simp [readUntilSync, synced]

theorem readUntilSync_ok {messages ms : List Message} {replies rest : List Received}
    (busy : s.inSync = false) (h : s.readUntilSync messages replies = some (.ok ms, s', rest)) :
    ∃ read last rfq, ms = messages ++ read ++ [last] ∧ (∀ m ∈ read, m.code ≠ 'Z') ∧
      last.code = 'Z' ∧ ReadyForQuery.fromBytes last.payload = .ok rfq ∧
      (rfq.status = 'I' ∧ s'.state = .idle ∨ rfq.status = 'T' ∧ s'.state = .idleInTransaction ∨
       rfq.status = 'E' ∧ s'.state = .transactionError) := by
  induction replies generalizing s messages with
  | nil => simp [readUntilSync, busy] at h
  | cons r replies ih =>
    simp only [readUntilSync, busy, Bool.false_eq_true, if_false] at h
    split at h
    · rename_i m s₁ hread
      rcases read_cases hread with ⟨_, -, other, ⟨⟩, kept⟩ | ⟨_, rfq, -, rfqCode, decoded, status⟩ |
        ⟨_, _, -, -, -, ⟨⟩, -⟩ | ⟨_, -, ⟨⟩, -⟩
      · obtain ⟨read, last, rfq, rfl, others, rest⟩ := ih ((inSync_of_state kept).trans busy) h
        exact ⟨m :: read, last, rfq, by simp, List.forall_mem_cons.2 ⟨other, others⟩, rest⟩
      · rcases status with ⟨st, ⟨⟩, s'st⟩ | ⟨st, ⟨⟩, s'st⟩ | ⟨st, ⟨⟩, s'st⟩ | ⟨-, ⟨⟩, -⟩ <;>
        · rw [readUntilSync_in_sync (by simp [inSync, s'st])] at h
          cases h
          exact ⟨[], _, rfq, by simp, by simp, rfqCode, decoded, by simp [st, s'st]⟩
    · cases h

theorem execute_ok {query : Bytes} {written : Bool} {replies rest : List Received}
    {ms : List Message} (h : s.execute query written replies = some (.ok ms, s', rest)) :
    ∃ read last rfq, ms = read ++ [last] ∧ (∀ m ∈ read, m.code ≠ 'Z') ∧ last.code = 'Z' ∧
      ReadyForQuery.fromBytes last.payload = .ok rfq ∧
      (rfq.status = 'I' ∧ s'.state = .idle ∨ rfq.status = 'T' ∧ s'.state = .idleInTransaction ∨
       rfq.status = 'E' ∧ s'.state = .transactionError) := by
  simp only [execute] at h
  split_ifs at h
  · cases h
  split at h
  · rename_i s₁ sent
    have busy : s₁.inSync = false := by
      simp only [send] at sent
      split at sent
      · cases sent; rfl
      · cases sent
    simpa only [List.nil_append] using readUntilSync_ok busy h
  · cases h

/-- On a server out of sync `execute` changes nothing; when it returns messages, the server is in
sync and the last message is the only `ReadyForQuery`, with status `I`, `T` or `E`. -/
theorem execute_replies (s : Server) (query : Bytes) (written : Bool) (replies : List Received) :
    (s.inSync = false → s.execute query written replies = some (.error .notInSync, s, replies)) ∧
    ∀ ms s' rest, s.execute query written replies = some (.ok ms, s', rest) →
      s'.inSync = true ∧ ∃ read last rfq, ms = read ++ [last] ∧ (∀ m ∈ read, m.code ≠ 'Z') ∧
        last.code = 'Z' ∧ ReadyForQuery.fromBytes last.payload = .ok rfq ∧
        rfq.status ∈ ['I', 'T', 'E'] := by
  refine ⟨fun busy => by simp [execute, busy], fun ms s' rest h => ?_⟩
  obtain ⟨read, last, rfq, rfl, others, code, decoded, status⟩ := execute_ok h
  refine ⟨?_, read, last, rfq, rfl, others, code, decoded, ?_⟩ <;>
    rcases status with ⟨st, s'st⟩ | ⟨st, s'st⟩ | ⟨st, s'st⟩ <;> simp [inSync, st, s'st]

theorem execute_replies_select_one :
    ∃ s' rest, (⟨.idle, {}⟩ : Server).execute (ascii "SELECT 1") true
        [.ok (Message.bare 'C'), .ok ReadyForQuery.idle.message] =
        some (.ok [Message.bare 'C', ReadyForQuery.idle.message], s', rest) ∧
      s'.inSync = true ∧ ∃ read last rfq, [Message.bare 'C', ReadyForQuery.idle.message] = read ++ [last] ∧
        (∀ m ∈ read, m.code ≠ 'Z') ∧ last.code = 'Z' ∧ ReadyForQuery.fromBytes last.payload = .ok rfq ∧
        rfq.status ∈ ['I', 'T', 'E'] := by
  obtain ⟨s', rest, h⟩ : ∃ s' rest, (⟨.idle, {}⟩ : Server).execute (ascii "SELECT 1") true
      [.ok (Message.bare 'C'), .ok ReadyForQuery.idle.message] =
      some (.ok [Message.bare 'C', ReadyForQuery.idle.message], s', rest) := ⟨_, _, rfl⟩
  exact ⟨s', rest, h, (execute_replies _ _ _ _).2 _ _ _ h⟩

/-- After `rollback` the connection is still in a transaction only when it was in one and the
`ROLLBACK`'s own `ReadyForQuery` said so, with status `T` or `E`. -/
theorem rollback_open_after_reply {written : Bool} {replies rest : List Received}
    (h : s.rollback written replies = some (s', rest)) (inTx : s'.inTransaction = true) :
    s.inTransaction = true ∧ ∃ ms, s.execute (ascii "ROLLBACK") written replies = some (.ok ms, s', rest) ∧
      ∃ last rfq, ms.getLast? = some last ∧ ReadyForQuery.fromBytes last.payload = .ok rfq ∧
        rfq.status ∈ ['T', 'E'] := by
  obtain ⟨⟨s₁, rest₁⟩, rolledBack, settled⟩ := Option.map_eq_some'.mp h
  dsimp only at settled
  split_ifs at settled
  · cases settled; simp [inTransaction, setState] at inTx
  cases settled
  split_ifs at rolledBack with tx
  · obtain ⟨⟨result, s₂, rest₂⟩, executed, returned⟩ := Option.map_eq_some'.mp rolledBack
    cases result with
    | error e => cases returned; simp [inTransaction, setState] at inTx
    | ok ms =>
      cases returned
      obtain ⟨read, last, rfq, rfl, -, -, decoded, status⟩ := execute_ok executed
      refine ⟨tx, _, executed, last, rfq, by simp, decoded, ?_⟩
      rcases status with ⟨-, s'st⟩ | ⟨st, -⟩ | ⟨st, -⟩
      · simp [inTransaction, s'st] at inTx
      all_goals simp [st]
  · cases rolledBack
    exact absurd inTx tx

def stillInTransaction : List Received := [.ok (ReadyForQuery.mk 'T').message]

theorem rollback_open_after_reply_still_in_transaction :
    ∃ s' rest, (⟨.idleInTransaction, {}⟩ : Server).rollback true stillInTransaction = some (s', rest) ∧
      s'.inTransaction = true ∧ ((⟨.idleInTransaction, {}⟩ : Server).inTransaction = true ∧
        ∃ ms, (⟨.idleInTransaction, {}⟩ : Server).execute (ascii "ROLLBACK") true stillInTransaction =
          some (.ok ms, s', rest) ∧ ∃ last rfq, ms.getLast? = some last ∧
            ReadyForQuery.fromBytes last.payload = .ok rfq ∧ rfq.status ∈ ['T', 'E']) :=
  ⟨_, _, rfl, rfl, rollback_open_after_reply rfl rfl⟩

/-- A server in a transaction whose reply to `ROLLBACK` reports it still open. -/
theorem rollback_leaves_transaction_open :
    ¬ ∀ (s s' : Server) written replies rest, s.rollback written replies = some (s', rest) →
      s'.state = .error ∨ s'.inSync = true ∧ s'.state = .idle :=
  fun h => absurd (h ⟨.idleInTransaction, {}⟩ _ true stillInTransaction _ rfl) (by decide)

/-! ### Runs of calls -/

/-- One call on a connection, with the outcomes of the socket I/O it makes. -/
inductive Op where
  | send (messages : List Message) (written : Bool)
  | flush (flushed : Bool)
  | read (received : Received)
  | execute (query : Bytes) (written : Bool) (replies : List Received)
  | healthcheck (query : Bytes) (written : Bool) (replies : List Received)
  | rollback (written : Bool) (replies : List Received)

def apply (s : Server) : Op → Option Server
  | .send messages written => some (s.send messages written).2
  | .flush flushed => some (s.flush flushed).2
  | .read received => some (s.read received).2
  | .execute query written replies => (s.execute query written replies).map (·.2.1)
  | .healthcheck query written replies => (s.healthcheck query written replies).map (·.2.1)
  | .rollback written replies => (s.rollback written replies).map (·.1)

def run (s : Server) : List Op → Option Server
  | [] => some s
  | op :: ops => (s.apply op).bind fun s => run s ops

/-- A connection in `Error` on which a write succeeds and `ReadyForQuery` with status `I` is read
back: it is in sync and done again. -/
theorem error_send_ready_for_query :
    (⟨.error, {}⟩ : Server).run [.send [] true, .read (.ok ReadyForQuery.idle.message)] =
      some ⟨.idle, { queries := 1, transactions := 1, bytesReceived := 6 }⟩ ∧
    (⟨.idle, { queries := 1, transactions := 1, bytesReceived := 6 }⟩ : Server).error = false ∧
    (⟨.idle, { queries := 1, transactions := 1, bytesReceived := 6 }⟩ : Server).inSync = true ∧
    (⟨.idle, { queries := 1, transactions := 1, bytesReceived := 6 }⟩ : Server).done = true :=
  ⟨rfl, rfl, rfl, rfl⟩

end Server

end PgDog.Backend
