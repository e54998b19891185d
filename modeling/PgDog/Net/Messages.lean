import PgDog.Net.Wire

/-!
# Protocol messages

`Message` and the typed messages whose `from_bytes`/`to_bytes` the proxy uses on the hot path:
`DataRow`, `RowDescription`, `Parse`, `ParameterStatus` and `Password` (net/messages/).
Each `fromBytes` reads a whole frame, tag and length included, and ignores what follows.
-/

namespace PgDog.Net

/-- `Message`: a frame as `Stream::read` returns it, its tag byte and the bytes after it. -/
structure Message where
  tag : UInt8
  body : Bytes
  deriving DecidableEq, Repr

namespace Message

/-- `Message::payload`, the whole frame. -/
def payload (m : Message) : Bytes := m.tag :: m.body

/-- `Protocol::code`: `payload[0] as char`. -/
def code (m : Message) : Char := Char.ofNat m.tag.toNat

def len (m : Message) : Nat := m.payload.length

/-- `Message::new(payload)` on a frame an encoder built, which starts with its tag. -/
def new (frame : Bytes) (framed : frame ≠ []) : Message := ⟨frame.head framed, frame.tail⟩

@[simp] theorem new_payload (frame : Bytes) (framed : frame ≠ []) :
    (new frame framed).payload = frame := by
  cases frame with
  | nil => exact absurd rfl framed
  | cons b rest => rfl

end Message

/-- A reader run on a whole buffer, as `FromBytes::from_bytes` is. -/
def Reader.run' {α : Type} (read : Reader α) (bytes : Bytes) : Except Fault α :=
  Prod.fst <$> read bytes

theorem Payload.freeze_ne_nil (p : Payload) : p.freeze ≠ [] := List.cons_ne_nil _ _

/-- A message with no fields after its tag and length, as `Flush` and `Sync` are. -/
def Message.bare (c : Char) : Message := .new (Payload.named c).freeze (Payload.freeze_ne_nil _)

/-! ### DataRow -/

structure DataRow where
  columns : List Bytes
  deriving DecidableEq, Repr

namespace DataRow

def column (dr : DataRow) (index : Nat) : Option Bytes := dr.columns[index]?

/-- One column of `from_bytes`: `len = get_i32() as usize`, then `len` times `get_u8`. -/
def readColumn : Reader Bytes := do
  let len ← getI32
  times getU8 (asUsize len)

/-- The body of `FromBytes for DataRow`. -/
def read : Reader DataRow := do
  code 'D'
  let _len ← getI32
  let count ← getI16
  let columns ← times readColumn count.toInt.toNat
  pure ⟨columns⟩

def fromBytes (bytes : Bytes) : Except Fault DataRow := read.run' bytes

def toBytes (dr : DataRow) : Bytes :=
  (dr.columns.foldl (fun p column => (p.putI32 (asSigned 32 column.length)).put column)
    ((Payload.named 'D').putI16 (asSigned 16 dr.columns.length))).freeze

def message (dr : DataRow) : Message := .new dr.toBytes (Payload.freeze_ne_nil _)

end DataRow

/-! ### RowDescription -/

structure Field where
  name : Bytes
  tableOid : BitVec 32
  column : BitVec 16
  typeOid : BitVec 32
  typeSize : BitVec 16
  typeModifier : BitVec 32
  format : BitVec 16
  deriving DecidableEq, Repr

structure RowDescription where
  fields : List Field
  deriving DecidableEq, Repr

namespace RowDescription

def new (fields : List Field) : RowDescription := ⟨fields⟩

def field (rd : RowDescription) (index : Nat) : Option Field := rd.fields[index]?

/-- `RowDescription::field_index`: the first field with this name. -/
def fieldIndex (rd : RowDescription) (name : Bytes) : Option Nat :=
  rd.fields.findIdx? (·.name == name)

/-- `RowDescription::equivalent`: names and type OIDs agree along `zip` of the two lists. -/
def equivalent (a b : RowDescription) : Bool :=
  (a.fields.zip b.fields).all fun (x, y) => x.name == y.name && x.typeOid == y.typeOid

/-- A table with an `id bigint` column, and the same table with an extra `email text` column. -/
def usersId : RowDescription := ⟨[⟨ascii "id", 16384, 1, 20, 8, -1, 0⟩]⟩

def usersIdEmail : RowDescription :=
  ⟨[⟨ascii "id", 16384, 1, 20, 8, -1, 0⟩, ⟨ascii "email", 16384, 2, 25, -1, -1, 0⟩]⟩

/-- Descriptions of different lengths that agree on their common fields are equivalent. -/
theorem equivalent_extra_column :
    ¬ ∀ a b : RowDescription, a.equivalent b = true ↔
      a.fields.length = b.fields.length ∧ ∀ (i : Nat) (x y : Field), a.fields[i]? = some x →
        b.fields[i]? = some y → x.name = y.name ∧ x.typeOid = y.typeOid :=
  fun h => absurd ((h usersId usersIdEmail).1 (by decide)).1 (by decide)

/-- The members of one field after its name, read in the order the struct literal lists them. -/
def readMembers (name : Bytes) : Reader Field := do
  let tableOid ← getI32
  let column ← getI16
  let typeOid ← getI32
  let typeSize ← getI16
  let typeModifier ← getI32
  let format ← getI16
  pure ⟨name, tableOid, column, typeOid, typeSize, typeModifier, format⟩

def readField : Reader Field := do
  let name ← cStringBuf
  readMembers name

def read : Reader RowDescription := do
  code 'T'
  let _len ← getI32
  let count ← getI16
  let fields ← times readField count.toInt.toNat
  pure ⟨fields⟩

def fromBytes (bytes : Bytes) : Except Fault RowDescription := read.run' bytes

def putField (p : Payload) (f : Field) : Payload :=
  ((((((p.putString f.name).putI32 f.tableOid).putI16 f.column).putI32 f.typeOid).putI16
    f.typeSize).putI32 f.typeModifier).putI16 f.format

def toBytes (rd : RowDescription) : Bytes :=
  (rd.fields.foldl putField ((Payload.named 'T').putI16 (asSigned 16 rd.fields.length))).freeze

end RowDescription

/-! ### Parse -/

structure Parse where
  name : Bytes
  query : Bytes
  dataTypes : List (BitVec 32)
  deriving DecidableEq, Repr

namespace Parse

def newAnonymous (query : Bytes) : Parse := ⟨[], query, []⟩

def numbered (name query : Bytes) : Parse := ⟨name, query, []⟩

def anonymous (p : Parse) : Bool := p.name.isEmpty

def read : Reader Parse := do
  code 'P'
  let _len ← getI32
  let name ← cStringBuf
  let query ← cStringBuf
  let params := asUsize (← getI16)
  let dataTypes ← collect 4 getI32 params
  pure ⟨name, query, dataTypes⟩

def fromBytes (bytes : Bytes) : Except Fault Parse := read.run' bytes

def toBytes (p : Parse) : Bytes :=
  (p.dataTypes.foldl Payload.putI32
    ((((Payload.named 'P').putString p.name).putString p.query).putI16
      (asSigned 16 p.dataTypes.length))).freeze

end Parse

/-! ### ParameterStatus -/

structure ParameterStatus where
  name : Bytes
  value : Bytes
  deriving DecidableEq, Repr

namespace ParameterStatus

/-- `ParameterStatus::fake`: what a client is told about the server it connected to. -/
def fake : List ParameterStatus :=
  [⟨ascii "server_name", ascii "pgDog"⟩, ⟨ascii "server_encoding", ascii "UTF8"⟩,
    ⟨ascii "client_encoding", ascii "UTF8"⟩]

def read : Reader ParameterStatus := do
  code 'S'
  let _len ← getI32
  let name ← cStringBuf
  let value ← cStringBuf
  pure ⟨name, value⟩

def fromBytes (bytes : Bytes) : Except Fault ParameterStatus := read.run' bytes

def toBytes (ps : ParameterStatus) : Bytes :=
  (((Payload.named 'S').putString ps.name).putString ps.value).freeze

end ParameterStatus

/-! ### Startup messages -/

/-- Modelled from the spec: `ErrorResponse` (messages/error_response.rs), its typed fields. -/
structure ErrorResponse where
  fields : List (UInt8 × Bytes)
  deriving DecidableEq, Repr

/-- Modelled from the spec: `Authentication` (messages/auth/mod.rs), the `Ok` variant. -/
inductive Authentication where
  | ok
  deriving DecidableEq, Repr

/-- Modelled from the spec: `BackendKeyData` (messages/backend_key.rs). -/
structure BackendKeyData where
  pid : BitVec 32
  secret : BitVec 32
  deriving DecidableEq, Repr

/-! ### Password -/

inductive Password where
  | saslInitialResponse (name response : Bytes)
  | saslResponse (response : Bytes)
  deriving DecidableEq, Repr

namespace Password

def saslInitial (response : Bytes) : Password := .saslInitialResponse (ascii "SCRAM-SHA-256") response

/-- The body of `FromBytes for Password`: the variant is whether bytes follow the first string. -/
def read : Reader Password := do
  code 'p'
  let _len ← getI32
  let content ← cStringBuf
  if ← hasRemaining then
    let len ← getI32
    let response ← if 0 ≤ len.toInt then cStringBuf else pure []
    pure (.saslInitialResponse content response)
  else
    pure (.saslResponse content)

def fromBytes (bytes : Bytes) : Except Fault Password := read.run' bytes

def toBytes : Password → Bytes
  | .saslInitialResponse name response =>
    ((((Payload.named 'p').putString name).putI32 (asSigned 32 response.length)).put response).freeze
  | .saslResponse response => ((Payload.named 'p').put response).freeze

end Password

/-! ### ReadyForQuery and Query -/

/-- Modelled from the spec: `ReadyForQuery` (messages/rfq.rs), the transaction-status byte. -/
structure ReadyForQuery where
  status : Char
  deriving DecidableEq, Repr

namespace ReadyForQuery

def read : Reader ReadyForQuery := do
  code 'Z'
  let _len ← getI32
  let status ← getU8
  pure ⟨Char.ofNat status.toNat⟩

def fromBytes (bytes : Bytes) : Except Fault ReadyForQuery := read.run' bytes

def toBytes (rfq : ReadyForQuery) : Bytes :=
  ((Payload.named 'Z').put [UInt8.ofNat rfq.status.toNat]).freeze

def message (rfq : ReadyForQuery) : Message := .new rfq.toBytes (Payload.freeze_ne_nil _)

def idle : ReadyForQuery := ⟨'I'⟩

end ReadyForQuery

/-- Modelled from the spec: `Query` (messages/query.rs), the SQL text, NUL-terminated. -/
structure Query where
  query : Bytes
  deriving DecidableEq, Repr

namespace Query

def read : Reader Query := do
  code 'Q'
  let _len ← getI32
  let query ← cStringBuf
  pure ⟨query⟩

def fromBytes (bytes : Bytes) : Except Fault Query := read.run' bytes

def toBytes (q : Query) : Bytes := ((Payload.named 'Q').putString q.query).freeze

def message (q : Query) : Message := .new q.toBytes (Payload.freeze_ne_nil _)

end Query

end PgDog.Net
