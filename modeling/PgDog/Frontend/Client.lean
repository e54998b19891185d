import PgDog.Backend.Server
import PgDog.Frontend.Buffer

/-!
# Client session loop

`Client::spawn` (frontend/client.rs) as a step function. The session waits at `select!` on two
futures: `buffer()`, which reads client messages until the buffer is full, and `server.read()`
on the connection it holds. An event is one message either of them gets, or the end of the
checkout a branch body waits on. The branch that completes first drops the other future, and
the messages a dropped `buffer()` future has read go with it.
-/

namespace PgDog.Frontend

open Net Backend
open scoped List

/-- Modelled from the spec: `Connection` (backend/pool/connection/mod.rs), the server guard held. -/
structure Connection where
  server : Option Server
  deriving DecidableEq, Repr

namespace Connection

def new : Connection := ⟨none⟩

def connected (c : Connection) : Bool := c.server.isSome

def done (c : Connection) : Bool := c.server.all Server.done

def disconnect (_ : Connection) : Connection := ⟨none⟩

end Connection

/-- Modelled from the spec: `Stream` (net/stream.rs): its write buffer, and what it flushed. -/
structure Stream where
  flushed : List Message
  buffered : List Message
  deriving DecidableEq, Repr

namespace Stream

def send (st : Stream) (m : Message) : Stream := { st with buffered := st.buffered ++ [m] }

def sendFlush (st : Stream) (m : Message) : Stream := ⟨st.flushed ++ st.buffered ++ [m], []⟩

end Stream

/-- Where `Client::spawn` is: at `select!`, with the messages the `buffer()` future has read;
in `server.get`, with a full buffer; or out of the loop with its result. -/
inductive Phase where
  | select (pending : List Message)
  | waiting (buffer : Buffer)
  | exited (result : Except Backend.Error Unit)
  deriving DecidableEq, Repr

/-- The state of `Client::spawn`: its locals `server` and `flush`, the stream and the stats. -/
structure Session where
  phase : Phase
  server : Connection
  flush : Bool
  stream : Stream
  stats : ConnStats
  deriving DecidableEq, Repr

def Session.init : Session := ⟨.select [], .new, false, ⟨[], []⟩, {}⟩

/-- What completes next. Every `?` in the loop whose error this model does not produce (a client
read or write, a checkout, a server write) is `fail`. -/
inductive Event where
  | client (m : Message)
  | checkout (server : Server)
  | server (received : Received)
  | fail
  deriving DecidableEq, Repr

inductive Effect where
  | checkedOut
  | sent (messages : List Message)
  | forwarded (m : Message)
  | disconnected
  deriving DecidableEq, Repr

namespace Session

def sendBuffer (s : Session) (server : Server) (buffer : Buffer) : Session × List Effect :=
  ({ s with phase := .select [], server := ⟨some (server.send buffer.messages true).2⟩ },
    [.sent buffer.messages])

/-- The `buffer` branch's body on a full buffer: check out a connection if none is held. -/
def dispatch (s : Session) (buffer : Buffer) : Session × List Effect :=
  let s := { s with flush := buffer.flush }
  match s.server.server with
  | none => ({ s with phase := .waiting buffer }, [])
  | some server => s.sendBuffer server buffer

/-- The `server.read()` branch's write to the client: flushed for `ReadyForQuery`,
`CopyInResponse`, or while `flush` is set, which it clears. -/
def forward (s : Session) (m : Message) : Session :=
  let s := { s with stats := { s.stats with bytesSent := s.stats.bytesSent + m.len } }
  if m.code ∈ ['Z', 'G'] || s.flush then
    { s with stream := s.stream.sendFlush m, flush := false,
             stats := { s.stats with queries := s.stats.queries + 1 } }
  else { s with stream := s.stream.send m }

def step (s : Session) : Event → Option (Session × List Effect)
  | .client m =>
    match s.phase with
    | .select pending =>
      let s := { s with stats := { s.stats with bytesReceived := s.stats.bytesReceived + m.len } }
      if m.code = 'X' then some ({ s with phase := .exited (.ok ()) }, [])
      else
        let buffer := (Buffer.mk pending).push m
        if buffer.full then some (s.dispatch buffer) else some ({ s with phase := .select buffer.messages }, [])
    | _ => none
  | .checkout server =>
    match s.phase with
    | .waiting buffer => some ((s.sendBuffer server buffer).1, .checkedOut :: (s.sendBuffer server buffer).2)
    | _ => none
  | .server received =>
    match s.phase, s.server.server with
    | .select _, some server =>
      match server.read received with
      | (.ok m, server) =>
        let s := forward { s with phase := .select [], server := ⟨some server⟩ } m
        if s.server.done then
          some ({ s with server := s.server.disconnect,
                         stats := { s.stats with transactions := s.stats.transactions + 1 } },
            [.forwarded m, .disconnected])
        else some (s, [.forwarded m])
      | (.error e, server) => some ({ s with phase := .exited (.error e), server := ⟨some server⟩ }, [])
    | _, _ => none
  | .fail =>
    match s.phase with
    | .exited _ => none
    | _ => some ({ s with phase := .exited (.error .io) }, [])

def run (s : Session) : List Event → Option (Session × List Effect)
  | [] => some (s, [])
  | e :: es => (s.step e).bind fun (s, effects) =>
    (run s es).map fun (s, more) => (s, effects ++ more)

end Session

/-! ### What a run did -/

def Phase.held : Phase → List Message
  | .select pending => pending
  | .waiting buffer => buffer.messages
  | .exited _ => []

def Phase.running : Phase → Bool
  | .exited _ => false
  | _ => true

def Event.read : Event → Option Message
  | .client m => if m.code = 'X' then none else some m
  | _ => none

def clientMessages (events : List Event) : List Message := events.filterMap Event.read

def Event.reply : Event → Option Message
  | .server (.ok m) => some m
  | _ => none

def serverMessages (events : List Event) : List Message := events.filterMap Event.reply

def requests (effects : List Effect) : List (List Message) :=
  effects.filterMap fun
    | .sent messages => some messages
    | _ => none

def sentMessages (effects : List Effect) : List Message := (requests effects).flatten

/-- Requests ending in `Query` or `Sync` sent since the last checkout, less the
`ReadyForQuery` messages read since. -/
def outstanding (effects : List Effect) : Nat :=
  effects.foldl (fun n e =>
    match e with
    | .checkedOut => 0
    | .sent messages => if messages.getLast?.any (·.code ∈ ['Q', 'S']) then n + 1 else n
    | .forwarded m => if m.code = 'Z' then n - 1 else n
    | .disconnected => n) 0

def lastStatus (effects : List Effect) : Option Char :=
  (effects.filterMap fun
    | .forwarded m => if m.code = 'Z' then (ReadyForQuery.fromBytes m.payload).toOption.map (·.status)
        else none
    | _ => none).getLast?

@[simp] theorem clientMessages_append (es es' : List Event) :
    clientMessages (es ++ es') = clientMessages es ++ clientMessages es' :=
  List.filterMap_append _ _ _

@[simp] theorem serverMessages_append (es es' : List Event) :
    serverMessages (es ++ es') = serverMessages es ++ serverMessages es' :=
  List.filterMap_append _ _ _

@[simp] theorem serverMessages_nil : serverMessages [] = [] := rfl

@[simp] theorem sentMessages_nil : sentMessages [] = [] := rfl

@[simp] theorem sentMessages_append (effs effs' : List Effect) :
    sentMessages (effs ++ effs') = sentMessages effs ++ sentMessages effs' := by
  simp [sentMessages, requests]

@[simp] theorem sentMessages_cons (e : Effect) (effs : List Effect) :
    sentMessages (e :: effs) = (match e with | .sent ms => ms | _ => []) ++ sentMessages effs := by
  cases e <;> simp [sentMessages, requests]

/-! ### Steps -/

def Stream.contents (st : Stream) : List Message := st.flushed ++ st.buffered

@[simp] theorem Stream.send_contents (st : Stream) (m : Message) :
    (st.send m).contents = st.contents ++ [m] := by simp [Stream.send, Stream.contents]

@[simp] theorem Stream.sendFlush_contents (st : Stream) (m : Message) :
    (st.sendFlush m).contents = st.contents ++ [m] := by simp [Stream.sendFlush, Stream.contents]

namespace Session

@[simp] theorem forward_phase (s : Session) (m : Message) : (s.forward m).phase = s.phase := by
  simp only [forward]; split <;> rfl

@[simp] theorem forward_server (s : Session) (m : Message) : (s.forward m).server = s.server := by
  simp only [forward]; split <;> rfl

@[simp] theorem forward_contents (s : Session) (m : Message) :
    (s.forward m).stream.contents = s.stream.contents ++ [m] := by
  simp only [forward]; split <;> simp

/-- The session holds no connection that is done. -/
def Pinned (s : Session) : Prop := ∀ server, s.server.server = some server → server.done = false

theorem send_not_done (server : Server) (messages : List Message) :
    (server.send messages true).2.done = false := rfl

variable {s s' : Session} {e : Event} {effs : List Effect}

theorem Pinned.of_held {server : Server} (hs : s'.server = ⟨some server⟩)
    (done : server.done = false) : s'.Pinned := fun _ held => by
  cases hs ▸ held
  exact done

theorem Pinned.of_server (hs : s'.server = s.server) (pinned : s.Pinned) : s'.Pinned :=
  fun server => hs ▸ pinned server

/-- Everything one step can do: each branch of `step`, with its guards. -/
theorem step_cases (h : s.step e = some (s', effs)) :
    -- `buffer()` reads a message at `select!`
    (∃ m pending, e = .client m ∧ s.phase = .select pending ∧
      -- nothing is sent: `Terminate` ends the loop, any other message is held until the buffer
      -- is full, and a full buffer waits for a checkout
      (s'.server = s.server ∧ s'.stream = s.stream ∧ effs = [] ∧
        (m.code = 'X' ∧ s'.phase = .exited (.ok ()) ∨
         m.code ≠ 'X' ∧ (Buffer.mk (pending ++ [m])).full = false ∧
          s'.phase = .select (pending ++ [m]) ∨
         m.code ≠ 'X' ∧ (Buffer.mk (pending ++ [m])).full = true ∧ s.server.server = none ∧
          s'.phase = .waiting ⟨pending ++ [m]⟩) ∨
      -- or a full buffer is sent on the connection held
      m.code ≠ 'X' ∧ (Buffer.mk (pending ++ [m])).full = true ∧
        ∃ server, s.server.server = some server ∧ s'.phase = .select [] ∧
          s'.server = ⟨some (server.send (pending ++ [m]) true).2⟩ ∧ s'.stream = s.stream ∧
          effs = [.sent (pending ++ [m])])) ∨
    -- the checkout completes, and the buffer is sent
    (∃ server buffer, e = .checkout server ∧ s.phase = .waiting buffer ∧ s'.phase = .select [] ∧
      s'.server = ⟨some (server.send buffer.messages true).2⟩ ∧ s'.stream = s.stream ∧
      effs = [.checkedOut, .sent buffer.messages]) ∨
    -- `server.read()` returns at `select!`
    (∃ pending server, s.phase = .select pending ∧ s.server.server = some server ∧
      -- a message is written to the client, and a connection that is done released
      ((∃ m server', e = .server (.ok m) ∧ server.read (.ok m) = (.ok m, server') ∧
          s'.phase = .select [] ∧ s'.stream.contents = s.stream.contents ++ [m] ∧
          (server'.done = true ∧ s'.server = ⟨none⟩ ∧ effs = [.forwarded m, .disconnected] ∨
           server'.done = false ∧ s'.server = ⟨some server'⟩ ∧ effs = [.forwarded m])) ∨
      -- an error ends the loop
      ∃ r err server', e = .server r ∧ server.read r = (.error err, server') ∧
        s'.phase = .exited (.error err) ∧ s'.server = ⟨some server'⟩ ∧ s'.stream = s.stream ∧
        effs = [])) ∨
    -- any other error ends the loop
    (e = .fail ∧ s.phase.running ∧ s'.phase = .exited (.error .io) ∧ s'.server = s.server ∧
      s'.stream = s.stream ∧ effs = []) := by
  cases e with
  | client m =>
    simp only [step] at h
    split at h
    · rename_i pending hphase
      refine .inl ⟨m, pending, rfl, hphase, ?_⟩
      split_ifs at h with hX hfull
      · cases h; exact .inl ⟨rfl, rfl, rfl, .inl ⟨hX, rfl⟩⟩
      · simp only [dispatch, Option.some.injEq] at h
        split at h <;> cases h
        · exact .inl ⟨rfl, rfl, rfl, .inr (.inr ⟨hX, hfull, ‹_›, rfl⟩)⟩
        · exact .inr ⟨hX, hfull, _, ‹_›, rfl, rfl, rfl, rfl⟩
      · cases h; exact .inl ⟨rfl, rfl, rfl, .inr (.inl ⟨hX, Bool.eq_false_iff.2 hfull, rfl⟩)⟩
    · cases h
  | checkout server =>
    simp only [step] at h
    split at h
    · cases h; exact .inr (.inl ⟨server, _, rfl, ‹_›, rfl, rfl, rfl, rfl⟩)
    · cases h
  | server r =>
    simp only [step] at h
    split at h
    · rename_i pending server hphase hserver
      refine .inr (.inr (.inl ⟨pending, server, hphase, hserver, ?_⟩))
      split at h
      · rename_i m server' hread
        cases Server.read_ok hread
        split at h <;> rename_i hdone <;> cases h <;>
          simp only [forward_server, Connection.done, Option.all] at hdone
        · exact .inl ⟨m, server', rfl, hread, forward_phase _ _, forward_contents _ _,
            .inl ⟨hdone, rfl, rfl⟩⟩
        · exact .inl ⟨m, server', rfl, hread, forward_phase _ _, forward_contents _ _,
            .inr ⟨Bool.eq_false_iff.2 hdone, forward_server _ _, rfl⟩⟩
      · rename_i err server' hread
        cases h
        exact .inr ⟨r, err, server', rfl, hread, rfl, rfl, rfl, rfl⟩
    · cases h
  | fail =>
    simp only [step] at h
    split at h
    · cases h
    · rename_i live
      cases h
      refine .inr (.inr (.inr ⟨rfl, ?_, rfl, rfl, rfl, rfl⟩))
      cases hphase : s.phase with
      | exited result => exact absurd hphase (live result)
      | _ => rfl

theorem step_sent_sublist (h : s.step e = some (s', effs)) :
    sentMessages effs ++ s'.phase.held <+ s.phase.held ++ clientMessages [e] := by
  rcases step_cases h with
    ⟨_, _, rfl, hp, ⟨-, -, rfl, ⟨hX, hp'⟩ | ⟨hX, -, hp'⟩ | ⟨hX, -, -, hp'⟩⟩ |
      ⟨hX, -, _, -, hp', -, -, rfl⟩⟩ |
    ⟨_, _, rfl, hp, hp', -, -, rfl⟩ |
    ⟨_, _, hp, -, ⟨_, _, rfl, -, hp', -, ⟨-, -, rfl⟩ | ⟨-, -, rfl⟩⟩ | ⟨_, _, _, rfl, -, hp', -, -, rfl⟩⟩ |
    ⟨rfl, -, hp', -, -, rfl⟩
  all_goals simp [Phase.held, clientMessages, Event.read, *]

theorem step_contents (h : s.step e = some (s', effs)) (running : s'.phase.running) :
    s.phase.running ∧ s'.stream.contents = s.stream.contents ++ serverMessages [e] := by
  rcases step_cases h with
    ⟨_, _, rfl, hp, ⟨-, hst, -, ⟨-, hp'⟩ | ⟨-, -, hp'⟩ | ⟨-, -, -, hp'⟩⟩ | ⟨-, -, _, -, -, -, hst, -⟩⟩ |
    ⟨_, _, rfl, hp, -, -, hst, -⟩ |
    ⟨_, _, hp, -, ⟨_, _, rfl, -, -, hst, -⟩ | ⟨_, _, _, -, -, hp', -⟩⟩ |
    ⟨-, -, hp', -⟩
  all_goals simp_all [Phase.running, serverMessages, Event.reply, Stream.contents]

theorem step_pinned (h : s.step e = some (s', effs)) (pinned : s.Pinned) :
    s'.Pinned ∧ (.disconnected ∈ effs →
      ∃ m, effs = [.forwarded m, .disconnected] ∧ ReadyForQuery.fromBytes m.payload = .ok .idle) := by
  rcases step_cases h with
    ⟨_, _, -, -, ⟨hs, -, rfl, -⟩ | ⟨-, -, _, -, -, hs, -, rfl⟩⟩ | ⟨_, _, -, -, -, hs, -, rfl⟩ |
    ⟨_, server, -, hserver, ⟨m, server', -, hread, -, -, ⟨hdone, hs, rfl⟩ | ⟨hdone, hs, rfl⟩⟩ |
      ⟨_, _, server', -, hread, -, hs, -, rfl⟩⟩ |
    ⟨-, -, -, hs, -, rfl⟩
  · exact ⟨.of_server hs pinned, by simp⟩
  · exact ⟨.of_held hs (send_not_done _ _), by simp⟩
  · exact ⟨.of_held hs (send_not_done _ _), by simp⟩
  · -- the connection `ReadyForQuery` left done is released
    obtain ⟨_, -, hm, idle⟩ := Server.read_done hread (pinned _ hserver) hdone
    cases hm
    exact ⟨fun _ held => by simp [hs] at held, fun _ => ⟨m, rfl, idle⟩⟩
  · exact ⟨.of_held hs hdone, by simp⟩
  · -- a read that fails leaves its connection not done
    have done : server'.done = false := by
      cases hdone : server'.done
      · rfl
      · obtain ⟨_, -, hm, -⟩ := Server.read_done hread (pinned _ hserver) hdone
        cases hm
    exact ⟨.of_held hs done, by simp⟩
  · exact ⟨.of_server hs pinned, by simp⟩

/-! ### Runs -/

/-- A relation that holds of the empty run and extends by a step holds of every run. -/
theorem run_rel (R : Session → List Event → List Effect → Session → Prop)
    (nil : ∀ s, R s [] [] s)
    (cons : ∀ s e effs s₁ es more s', s.step e = some (s₁, effs) → R s₁ es more s' →
      R s (e :: es) (effs ++ more) s')
    {events : List Event} {effects : List Effect} (h : s.run events = some (s', effects)) :
    R s events effects s' := by
  induction events generalizing s effects with
  | nil => cases h; exact nil _
  | cons e es ih =>
    obtain ⟨⟨s₁, effs⟩, hstep, hrun⟩ := Option.bind_eq_some.mp h
    obtain ⟨⟨s₂, more⟩, hrest, heq⟩ := Option.map_eq_some'.mp hrun
    cases heq
    exact cons _ _ _ _ _ _ _ hstep (ih hrest)

theorem run_sent_sublist {events : List Event} {effects : List Effect}
    (h : s.run events = some (s', effects)) :
    sentMessages effects ++ s'.phase.held <+ s.phase.held ++ clientMessages events :=
  run_rel (fun s events effects s' =>
      sentMessages effects ++ s'.phase.held <+ s.phase.held ++ clientMessages events)
    (fun _ => by simp)
    (fun s e effs s₁ es more s' hstep ih => calc
      sentMessages (effs ++ more) ++ s'.phase.held
        = sentMessages effs ++ (sentMessages more ++ s'.phase.held) := by simp
      _ <+ sentMessages effs ++ (s₁.phase.held ++ clientMessages es) := ih.append_left _
      _ = sentMessages effs ++ s₁.phase.held ++ clientMessages es := by simp
      _ <+ s.phase.held ++ clientMessages [e] ++ clientMessages es :=
        (step_sent_sublist hstep).append_right _
      _ = s.phase.held ++ clientMessages (e :: es) := by
        rw [List.append_assoc, ← clientMessages_append]; rfl)
    h

theorem run_contents {events : List Event} {effects : List Effect}
    (h : s.run events = some (s', effects)) (running : s'.phase.running) :
    s.phase.running ∧ s'.stream.contents = s.stream.contents ++ serverMessages events :=
  run_rel (fun s events _ s' => s'.phase.running →
      s.phase.running ∧ s'.stream.contents = s.stream.contents ++ serverMessages events)
    (fun _ running => ⟨running, by simp⟩)
    (fun s e effs s₁ es more s' hstep ih running => by
      obtain ⟨running₁, h₁⟩ := ih running
      obtain ⟨running₀, h₀⟩ := step_contents hstep running₁
      refine ⟨running₀, ?_⟩
      rw [h₁, h₀, List.append_assoc, ← serverMessages_append]; rfl)
    h running

theorem run_pinned {events : List Event} {effects : List Effect}
    (h : s.run events = some (s', effects)) (pinned : s.Pinned) : s'.Pinned :=
  run_rel (fun s _ _ s' => s.Pinned → s'.Pinned) (fun _ => id)
    (fun _ _ _ _ _ _ _ hstep ih pinned => ih (step_pinned hstep pinned).1) h pinned

end Session

/-! ### Whole sessions -/

/-- Every message the session sends to a server it read from the client, each once and in the
order read. -/
theorem spawn_sends_in_order {events : List Event} {s : Session} {effects : List Effect}
    (h : Session.init.run events = some (s, effects)) :
    sentMessages effects ++ s.phase.held <+ clientMessages events := by
  simpa [Session.init, Phase.held] using Session.run_sent_sublist h

/-- While the loop runs, the client has been written every message read from the server, in
order, and nothing else. -/
theorem spawn_writes_replies_in_order {events : List Event} {s : Session} {effects : List Effect}
    (h : Session.init.run events = some (s, effects)) (running : s.phase.running) :
    s.stream.contents = serverMessages events := by
  simpa [Session.init, Stream.contents] using (Session.run_contents h running).2

/-- From any state a run reaches, a step that releases the connection first forwards one
`ReadyForQuery` with status `I`, and does nothing else. -/
theorem spawn_releases_after_idle {events : List Event} {s s' : Session}
    {effects effs : List Effect} {e : Event} (h : Session.init.run events = some (s, effects))
    (hstep : s.step e = some (s', effs)) (released : .disconnected ∈ effs) :
    ∃ m, effs = [.forwarded m, .disconnected] ∧ ReadyForQuery.fromBytes m.payload = .ok .idle :=
  (Session.step_pinned hstep (Session.run_pinned h (fun _ h => nomatch h))).2 released

/-- `SELECT 1`, then `SELECT 2` sent before the first is answered, then the first
`ReadyForQuery`. -/
def pipelinedQueries : List Event :=
  [.client (Query.mk (ascii "SELECT 1")).message, .checkout ⟨.idle, {}⟩,
    .client (Query.mk (ascii "SELECT 2")).message, .server (.ok ReadyForQuery.idle.message)]

/-- `Parse`, `Describe`, `Flush`; then `Bind` read while the reply `ParseComplete`,
`ParameterDescription` arrives, then `Execute`, `Sync`. The loop reads only client messages'
tags, so bare frames stand for `Parse`, `Describe`, `Bind` and `Execute`. -/
def flushThenBind : List Event :=
  [.client (.bare 'P'), .client (.bare 'D'), .client (.bare 'H'), .checkout ⟨.idle, {}⟩,
    .server (.ok (.bare '1')), .client (.bare 'B'), .server (.ok (.bare 't')),
    .client (.bare 'E'), .client (.bare 'S')]

theorem spawn_sends_in_order_flush_then_bind :
    ∃ s effects, Session.init.run flushThenBind = some (s, effects) ∧
      sentMessages effects ++ s.phase.held <+ clientMessages flushThenBind :=
  ⟨_, _, rfl, spawn_sends_in_order rfl⟩

theorem spawn_writes_replies_in_order_flush_then_bind :
    ∃ s effects, Session.init.run flushThenBind = some (s, effects) ∧ s.phase.running ∧
      s.stream.contents = serverMessages flushThenBind :=
  ⟨_, _, rfl, rfl, spawn_writes_replies_in_order rfl rfl⟩

theorem spawn_releases_after_idle_pipelined :
    ∃ s effects s' effs, Session.init.run (pipelinedQueries.take 3) = some (s, effects) ∧
      s.step (.server (.ok ReadyForQuery.idle.message)) = some (s', effs) ∧
      .disconnected ∈ effs ∧
      ∃ m, effs = [.forwarded m, .disconnected] ∧ ReadyForQuery.fromBytes m.payload = .ok .idle :=
  ⟨_, _, _, _, rfl, rfl, by decide,
    @spawn_releases_after_idle (pipelinedQueries.take 3) _ _ _ _
      (.server (.ok ReadyForQuery.idle.message)) rfl rfl (by decide)⟩

/-- A second query sent before the first is answered is still outstanding when the first
`ReadyForQuery` releases the connection. -/
theorem spawn_releases_with_reply_outstanding :
    ¬ ∀ events s effects pre post, Session.init.run events = some (s, effects) →
      effects = pre ++ .disconnected :: post → outstanding pre = 0 ∧ lastStatus pre = some 'I' :=
  fun h => absurd (h pipelinedQueries _ _
    [.checkedOut, .sent [(Query.mk (ascii "SELECT 1")).message],
      .sent [(Query.mk (ascii "SELECT 2")).message], .forwarded ReadyForQuery.idle.message]
    [] rfl rfl).1 (by decide)

/-- A server message that arrives while a request is partly read drops what was read of it:
`Bind` is never sent. -/
theorem spawn_drops_partial_request :
    ¬ ∀ events s effects pending, Session.init.run events = some (s, effects) →
      s.phase = .select pending → sentMessages effects ++ pending = clientMessages events :=
  fun h => absurd (h flushThenBind _ _ [] rfl rfl) (by decide)

/-- After a request ending in `Flush`, only the first reply is flushed: `ParameterDescription`
stays in the write buffer while the loop waits at `select!`. -/
theorem spawn_leaves_reply_unflushed :
    ¬ ∀ events s effects pending, Session.init.run events = some (s, effects) →
      (requests effects).getLast?.any (Buffer.flush ⟨·⟩) → s.phase = .select pending →
      s.stream.buffered = [] :=
  fun h => absurd (h (flushThenBind.take 7) _ _ [] rfl rfl rfl) (by decide)

end PgDog.Frontend
