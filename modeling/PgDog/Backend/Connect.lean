import PgDog.Backend.Server

/-!
# Connection startup

The two loops of `Server::connect` (backend/server.rs) after `Startup` is sent: authentication
until `AuthenticationOk`, then `ParameterStatus` and `BackendKeyData` until `ReadyForQuery`. The
TCP connect, the TLS negotiation and the writes before them are not modelled: `messages` is what
the reads after them return.
-/

namespace PgDog.Backend

open Net

/-- The decoders `Server::connect` calls whose code is not under src/. -/
structure StartupDecoders where
  errorResponse : Bytes → Except Fault ErrorResponse
  authentication : Bytes → Except Fault Authentication
  backendKeyData : Bytes → Except Fault BackendKeyData

namespace Server

variable (d : StartupDecoders)

/-- The authentication loop: `AuthenticationOk` ends it, and anything else fails `connect`. -/
def authenticate : List Received → Option (Except Error (List Received))
  | [] => none
  | .error _ :: _ => some (.error .io)
  | .ok m :: rest =>
    match m.code with
    | 'E' => some <|
      match d.errorResponse m.payload with
      | .ok error => .error (.connectionError error)
      | .error fault => .error (.net fault)
    | 'R' => some <|
      match d.authentication m.payload with
      | .ok .ok => .ok rest
      | .error fault => .error (.net fault)
    | code => some (.error (.unexpectedMessage code))

def readStartup (params : List (Bytes × Bytes)) (keyData : Option BackendKeyData) :
    List Received → Option (Except Error (List (Bytes × Bytes) × Option BackendKeyData))
  | [] => none
  | .error _ :: _ => some (.error .io)
  | .ok m :: rest =>
    match m.code with
    | 'Z' => some (.ok (params, keyData))
    | 'S' =>
      match ParameterStatus.fromBytes m.payload with
      | .ok parameter => readStartup (params ++ [(parameter.name, parameter.value)]) keyData rest
      | .error fault => some (.error (.net fault))
    | 'K' =>
      match d.backendKeyData m.payload with
      | .ok key => readStartup params (some key) rest
      | .error fault => some (.error (.net fault))
    | code => some (.error (.unexpectedMessage code))

/-- `Server::connect` from the first read after `Startup`; `none` when the reads run out. -/
def connect (messages : List Received) :
    Option (Except Error (Server × List (Bytes × Bytes) × BackendKeyData)) :=
  match authenticate d messages with
  | none => none
  | some (.error e) => some (.error e)
  | some (.ok rest) =>
    (readStartup d [] none rest).map fun
      | .error e => .error e
      | .ok (_, none) => .error .noBackendKeyData
      | .ok (params, some id) => .ok (⟨.idle, {}⟩, params, id)

/-! ### The startup grammar -/

def StartupMessage (m : Message) : Prop :=
  m.code = 'S' ∧ (∃ parameter, ParameterStatus.fromBytes m.payload = .ok parameter) ∨
    m.code = 'K' ∧ ∃ key, d.backendKeyData m.payload = .ok key

def startupParameters (ms : List Message) : List (Bytes × Bytes) :=
  ms.filterMap fun m =>
    if m.code = 'S' then (ParameterStatus.fromBytes m.payload).toOption.map fun p => (p.name, p.value)
    else none

def keyData (ms : List Message) : List BackendKeyData :=
  ms.filterMap fun m => if m.code = 'K' then (d.backendKeyData m.payload).toOption else none

/-! ### What `connect` accepts -/

@[simp] theorem startupParameters_nil : startupParameters [] = [] := rfl

@[simp] theorem keyData_nil : keyData d [] = [] := rfl

theorem startup_parameter {m : Message} {parameter : ParameterStatus} (code : m.code = 'S')
    (decoded : ParameterStatus.fromBytes m.payload = .ok parameter) (ms : List Message) :
    startupParameters (m :: ms) = (parameter.name, parameter.value) :: startupParameters ms ∧
      keyData d (m :: ms) = keyData d ms := by
  simp [startupParameters, keyData, code, decoded, Except.toOption]

theorem startup_key {m : Message} {key : BackendKeyData} (code : m.code = 'K')
    (decoded : d.backendKeyData m.payload = .ok key) (ms : List Message) :
    startupParameters (m :: ms) = startupParameters ms ∧ keyData d (m :: ms) = key :: keyData d ms := by
  simp [startupParameters, keyData, code, decoded, Except.toOption]

theorem readStartup_ok {params params' : List (Bytes × Bytes)} {key key' : Option BackendKeyData}
    {messages : List Received} :
    readStartup d params key messages = some (.ok (params', key')) ↔
      ∃ startup ready rest, messages = startup.map .ok ++ .ok ready :: rest ∧
        (∀ m ∈ startup, StartupMessage d m) ∧ ready.code = 'Z' ∧
        params' = params ++ startupParameters startup ∧ key' = (keyData d startup).getLast?.or key := by
  constructor
  · intro h
    induction messages generalizing params key with
    | nil => cases h
    | cons r messages ih =>
      cases r with
      | error e => cases h
      | ok m =>
        simp only [readStartup] at h
        split at h
        · cases h
          exact ⟨[], m, messages, rfl, by simp, ‹_›, by simp, by simp⟩
        · rename_i code
          split at h
          · rename_i parameter decoded
            obtain ⟨startup, ready, rest, rfl, all, ready_code, rfl, rfl⟩ := ih h
            obtain ⟨params_eq, keys_eq⟩ := startup_parameter d code decoded startup
            exact ⟨m :: startup, ready, rest, rfl,
              List.forall_mem_cons.2 ⟨.inl ⟨code, parameter, decoded⟩, all⟩, ready_code,
              by simp [params_eq], by rw [keys_eq]⟩
          · cases h
        · rename_i code
          split at h
          · rename_i key decoded
            obtain ⟨startup, ready, rest, rfl, all, ready_code, rfl, rfl⟩ := ih h
            obtain ⟨params_eq, keys_eq⟩ := startup_key d code decoded startup
            refine ⟨m :: startup, ready, rest, rfl,
              List.forall_mem_cons.2 ⟨.inr ⟨code, key, decoded⟩, all⟩, ready_code, by simp [params_eq], ?_⟩
            rw [keys_eq, List.getLast?_cons]
            cases (keyData d startup).getLast? <;> rfl
          · cases h
        · cases h
  · rintro ⟨startup, ready, rest, rfl, all, ready_code, rfl, rfl⟩
    induction startup generalizing params key with
    | nil => simp [readStartup, ready_code]
    | cons m startup ih =>
      rcases all m (List.mem_cons_self _ _) with ⟨code, parameter, decoded⟩ | ⟨code, key', decoded⟩
      · obtain ⟨params_eq, keys_eq⟩ := startup_parameter d code decoded startup
        simp only [List.map_cons, List.cons_append, readStartup, code, decoded, params_eq, keys_eq]
        refine (ih fun m mem => all m (List.mem_cons_of_mem _ mem)).trans ?_
        simp
      · obtain ⟨params_eq, keys_eq⟩ := startup_key d code decoded startup
        simp only [List.map_cons, List.cons_append, readStartup, code, decoded, params_eq, keys_eq]
        refine (ih fun m mem => all m (List.mem_cons_of_mem _ mem)).trans ?_
        rw [List.getLast?_cons]
        cases (keyData d startup).getLast? <;> rfl

theorem authenticate_ok {messages rest : List Received} :
    authenticate d messages = some (.ok rest) ↔
      ∃ auth, messages = .ok auth :: rest ∧ auth.code = 'R' ∧ d.authentication auth.payload = .ok .ok := by
  constructor
  · intro h
    match messages, h with
    | .ok m :: rest, h =>
      simp only [authenticate] at h
      split at h
      · split at h <;> cases h
      · split at h
        · cases h
          exact ⟨m, rfl, ‹_›, ‹_›⟩
        · cases h
      · cases h
  · rintro ⟨auth, rfl, code, decoded⟩
    simp [authenticate, code, decoded]

/-- `Server::connect` succeeds exactly on `AuthenticationOk`, parameters and key data with at
least one key, then `ReadyForQuery`; it returns the parameters in order and the last key. -/
theorem connect_ok_iff (messages : List Received) (server : Server)
    (params : List (Bytes × Bytes)) (id : BackendKeyData) :
    connect d messages = some (.ok (server, params, id)) ↔ server = ⟨.idle, {}⟩ ∧
      ∃ auth startup ready rest, messages = .ok auth :: startup.map .ok ++ .ok ready :: rest ∧
        auth.code = 'R' ∧ d.authentication auth.payload = .ok .ok ∧
        (∀ m ∈ startup, StartupMessage d m) ∧ ready.code = 'Z' ∧
        params = startupParameters startup ∧ (keyData d startup).getLast? = some id := by
  constructor
  · intro h
    simp only [connect] at h
    split at h
    · cases h
    · cases h
    · rename_i rest authenticated
      obtain ⟨auth, rfl, code, decoded⟩ := (authenticate_ok d).1 authenticated
      obtain ⟨result, started, returned⟩ := Option.map_eq_some'.mp h
      cases result with
      | error e => cases returned
      | ok started' =>
        obtain ⟨params', _ | id'⟩ := started'
        · cases returned
        · cases returned
          obtain ⟨startup, ready, rest', rfl, all, ready_code, params_eq, key_eq⟩ :=
            (readStartup_ok d).1 started
          exact ⟨rfl, auth, startup, ready, rest', rfl, code, decoded, all, ready_code,
            by simpa using params_eq, by simpa using key_eq.symm⟩
  · rintro ⟨rfl, auth, startup, ready, rest, rfl, code, decoded, all, ready_code, rfl, last⟩
    simp [connect, (authenticate_ok d).2 ⟨auth, rfl, code, decoded⟩,
      (readStartup_ok d).2 ⟨startup, ready, rest, rfl, all, ready_code, rfl, rfl⟩, last]

theorem authenticate_error {messages : List Received} {e : Error}
    (h : authenticate d messages = some (.error e)) : e ≠ .noBackendKeyData := by
  match messages, h with
  | .error _ :: _, h => cases h; nofun
  | .ok m :: rest, h =>
    simp only [authenticate] at h
    split at h
    · split at h <;> cases h <;> nofun
    · split at h <;> cases h; nofun
    · cases h; nofun

theorem readStartup_error {params : List (Bytes × Bytes)} {key : Option BackendKeyData}
    {messages : List Received} {e : Error} (h : readStartup d params key messages = some (.error e)) :
    e ≠ .noBackendKeyData := by
  induction messages generalizing params key with
  | nil => cases h
  | cons r messages ih =>
    cases r with
    | error _ => cases h; nofun
    | ok m =>
      simp only [readStartup] at h
      split at h
      · cases h
      · split at h
        · exact ih h
        · cases h; nofun
      · split at h
        · exact ih h
        · cases h; nofun
      · cases h; nofun

/-- `Server::connect` fails with `NoBackendKeyData` exactly on the startup grammar with no
`BackendKeyData` in it. -/
theorem connect_no_backend_key_data (messages : List Received) :
    connect d messages = some (.error .noBackendKeyData) ↔
      ∃ auth startup ready rest, messages = .ok auth :: startup.map .ok ++ .ok ready :: rest ∧
        auth.code = 'R' ∧ d.authentication auth.payload = .ok .ok ∧
        (∀ m ∈ startup, StartupMessage d m) ∧ ready.code = 'Z' ∧ keyData d startup = [] := by
  constructor
  · intro h
    simp only [connect] at h
    split at h
    · cases h
    · cases h
      exact absurd rfl (authenticate_error d ‹_›)
    · rename_i rest authenticated
      obtain ⟨auth, rfl, code, decoded⟩ := (authenticate_ok d).1 authenticated
      obtain ⟨result, started, returned⟩ := Option.map_eq_some'.mp h
      cases result with
      | error e =>
        cases returned
        exact absurd rfl (readStartup_error d started)
      | ok started' =>
        obtain ⟨params', _ | id'⟩ := started'
        · obtain ⟨startup, ready, rest', rfl, all, ready_code, -, key_eq⟩ :=
            (readStartup_ok d).1 started
          exact ⟨auth, startup, ready, rest', rfl, code, decoded, all, ready_code,
            List.getLast?_eq_none_iff.1 (by simpa using key_eq.symm)⟩
        · cases returned
  · rintro ⟨auth, startup, ready, rest, rfl, code, decoded, all, ready_code, none⟩
    simp [connect, (authenticate_ok d).2 ⟨auth, rfl, code, decoded⟩,
      (readStartup_ok d).2 ⟨startup, ready, rest, rfl, all, ready_code, rfl, rfl⟩, none]

/-- An `ErrorResponse` after `AuthenticationOk` fails as an unexpected `E`. -/
theorem connect_error_after_ok {auth error : Message} (rest : List Received) (code : auth.code = 'R')
    (ok : d.authentication auth.payload = .ok .ok) (errorCode : error.code = 'E') :
    connect d (.ok auth :: .ok error :: rest) = some (.error (.unexpectedMessage 'E')) := by
  simp [connect, authenticate, code, ok, readStartup, errorCode]

/-- Stand-ins for the decoders not under src/. -/
def fixedDecoders : StartupDecoders :=
  ⟨fun _ => .ok ⟨[(83, ascii "FATAL")]⟩, fun _ => .ok .ok, fun _ => .ok ⟨0, 0⟩⟩

def authenticationOk : Message := ⟨82, [0, 0, 0, 8, 0, 0, 0, 0]⟩

/-- An `ErrorResponse` with severity `FATAL`. -/
def fatalError : Message := ⟨69, [0, 0, 0, 12, 83] ++ ascii "FATAL" ++ [0, 0]⟩

theorem connect_error_response_after_ok :
    ¬ ∀ (d : StartupDecoders) (auth error : Message) (e : ErrorResponse) (rest : List Received),
      auth.code = 'R' → d.authentication auth.payload = .ok .ok → error.code = 'E' →
      d.errorResponse error.payload = .ok e →
      connect d (.ok auth :: .ok error :: rest) = some (.error (.connectionError e)) := fun h => by
  have claimed := h fixedDecoders authenticationOk fatalError _ [] (by decide) rfl (by decide) rfl
  rw [connect_error_after_ok fixedDecoders [] (by decide) rfl (by decide)] at claimed
  cases claimed

end Server

end PgDog.Backend
