import PgDog.Frontend.Router.Route

/-!
# Client request buffer

`Buffer` collects the messages of one client request until a sync point, so that a server
connection is checked out only for a complete request.
-/

namespace PgDog.Frontend

open Net Router.Parser

/-- Modelled from the spec: `Buffer` (frontend/buffer.rs), the client messages of one request. -/
structure Buffer where
  messages : List Message
  deriving DecidableEq, Repr

namespace Buffer

def new : Buffer := ⟨[]⟩

def push (b : Buffer) (m : Message) : Buffer := ⟨b.messages ++ [m]⟩

def isEmpty (b : Buffer) : Bool := b.messages.isEmpty

/-- `Buffer::full`: the last message is a sync point, `Query`, `Sync` or `CopyDone`, or a
`Flush` that ends an extended-protocol unit. -/
def full (b : Buffer) : Bool := b.messages.getLast?.any fun m => m.code ∈ ['Q', 'S', 'c', 'H']

def flush (b : Buffer) : Bool := b.messages.getLast?.any (·.code == 'H')

/-- `Buffer::query`: the SQL of the request's first `Query` or `Parse`, if it has one. -/
def query (b : Buffer) : Except Fault (Option Bytes) :=
  match b.messages.find? (fun m => m.code = 'Q' || m.code = 'P') with
  | none => .ok none
  | some m =>
    if m.code = 'Q' then (Query.fromBytes m.payload).map (some ·.query)
    else (Parse.fromBytes m.payload).map (some ·.query)

def parameters (b : Buffer) : Except Fault (Option Bind) :=
  match b.messages.find? (·.code = 'B') with
  | none => .ok none
  | some m => (Bind.fromBytes m.payload).map some

end Buffer

end PgDog.Frontend
