import SiteSearch.Connection.Config
import SiteSearch.Connection.Signature
import SiteSearch.Engine.Remote.Delivery
import SiteSearch.Text.Bytes
import SiteSearch.Url.Reader

/-!
# A client for a remote engine

A client has the addresses of the hosts and what it signs in with. `Client.engine` answers engine
calls over a network. A network is anything that takes a message and says what becomes of it; it has
a state of its own.
-/
namespace SiteSearch.Remote

/-- What is put on the wire. -/
structure Message where
  method : Method
  /-- Without a name, a password or a fragment. -/
  url : Url
  headers : List (String × String)
  body : String
  deriving DecidableEq, Repr

/-- A network with a state: what becomes of each message. -/
abbrev Network (σ : Type) := Message → σ → Transmission × σ

/-- What a client signs in with. -/
inductive Credentials where
  | basic (username password : String)
  | signed (signer : Signer)
  deriving DecidableEq, Repr

/-- A client. -/
structure Client where
  hosts : List Url
  credentials : Credentials
  retry : RetryPolicy := .request
  /-- The rounds after which even a policy without a limit is followed no more. -/
  patience : Nat := 1000
  deriving DecidableEq, Repr

/-! ## Messages -/

/-- The header that a name and a password sign in with. -/
def basicHeader (username : String) (password : Option String) : String × String :=
  let credentials := username ++ ":" ++ password.getD ""
  ("authorization", "Basic " ++ String.ofList (Text.base64 (Text.utf8Of credentials)))

/-- A part of an address without its escapes, if that is a text. -/
def plainPart? (part : String) : Option String :=
  (Text.readUtf8? (Url.unescape (Text.utf8Of part))).map String.ofList

/-- The headers that a name or a password in an address asks for. -/
def addressHeaders (url : Url) : List (String × String) :=
  match plainPart? url.username with
  | none => []
  | some username =>
    let password := if url.password.isEmpty then none else plainPart? url.password
    if username.isEmpty && password.isNone then [] else [basicHeader username password]

/-- The headers that a client signs in with. -/
def Credentials.headers (credentials : Credentials) (method : Method) (url : Url) (body : String)
    (now : Int) : List (String × String) :=
  match credentials with
  | .basic username password => [basicHeader username (some password)]
  | .signed signer => signer.sign method.name url (Text.utf8Of body) now

/-- The message of a request to a host, if the address of the host can be gone on from. -/
def Client.message? (client : Client) (now : Int) (request : Request) (host : Url) :
    Option Message :=
  (host.withSegments request.segments).map fun url =>
    let url := url.withPairs request.query
    let body := (request.payload.map Payload.text).getD ""
    let content := request.payload.toList.map fun payload => ("content-type", payload.contentType)
    { method := request.method
      url := { url with username := "", password := "", fragment := none }
      headers := addressHeaders url ++ content
        ++ client.credentials.headers request.method url body now
      body }

/-- Whether a character may stand in a header. -/
def isHeaderChar (c : Char) : Bool :=
  c = '\t' || (0x20 ≤ c.toNat && c.toNat != 0x7F)

/-- Whether a host can be asked for in a message: there has to be one, without characters that only
an address may hold. -/
def isReachableHost : Option Host → Bool
  | none => false
  | some (.name name) =>
    !name.isEmpty && !name.toList.any fun c => ['"', '`', '\x7b', '\x7d'].contains c
  | some _ => true

/-- Whether a message can be put on the wire at all. -/
def Message.isSendable (message : Message) : Bool :=
  (message.url.scheme = "http" || message.url.scheme = "https") && isReachableHost message.url.host
    && message.headers.all fun header => header.2.toList.all isHeaderChar

/-! ## Engine -/

section Engine

variable {σ : Type}

/-- Sends a request to a host. -/
def Client.transmit (client : Client) (network : Network σ) (now : Int) (request : Request)
    (host : Url) : StateM σ (Except EngineError Transmission) := do
  match client.message? now request host with
  | none =>
    pure (.error (.configuration ("Endpoint '" ++ host.text ++ "' cannot be a base URL")))
  | some message =>
    if message.isSendable then .ok <$> network message
    else pure (.ok (.broken "the message cannot be sent"))

/-- The rounds that are looked at. -/
def Client.look (client : Client) (policy : RetryPolicy) : Nat :=
  match policy.limit with
  | some limit => max limit 1
  | none => client.patience

/-- Delivers a request. The network has no clock, so the pauses take no time. -/
def Client.deliver (client : Client) (network : Network σ) (now : Int) (request : Request) :
    StateM σ (Except EngineError Reply) := do
  let policy := request.delivery.policy client.retry
  let result ← Remote.deliver (client.transmit network now request) (fun _ => pure ())
    request.delivery client.retry client.hosts (client.look policy)
  pure (result.getD (.error (.transport "Request failed: no host replied")))

/-- The engine that a client reaches over a network. -/
def Client.engine (client : Client) (network : Network σ) (now : Int) : Engine σ :=
  fun call state =>
    let (result, state) := (client.deliver network now (.ofCall call)).run state
    (result.bind fun reply => reply.outcome call, state)

end Engine

/-! ## Making a client -/

/-- Reads the address of a host. -/
def readHost (text : String) : Except ServiceError Url :=
  match Url.read text with
  | .ok url => .ok url
  | .error error =>
    .error (.configuration ("Invalid endpoint '" ++ text ++ "': " ++ error.message))

/-- What a configuration signs in with. -/
def Credentials.ofConfig (config : Config) : Except ServiceError Credentials :=
  match config.authentication with
  | some .basic => .ok (.basic config.username config.password)
  | some .signed =>
    .ok (.signed
      { accessKey := config.username
        secretKey := config.password
        sessionToken := config.sessionToken
        region := config.region.getD "" })
  | none => .error (.configuration "No valid authentication method set")

/-- A client as it is configured; nothing is sent yet. -/
def Client.ofConfig (config : Config) : Except ServiceError Client := do
  config.validate
  let hosts ← config.hosts.mapM readHost
  let credentials ← Credentials.ofConfig config
  .ok { hosts, credentials }

/-- A client that has reached its engine: it asks whether the engine is there, a few times if need
be. -/
def Client.connect {σ : Type} (config : Config) (network : Network σ) (now : Int) :
    StateM σ (Except ServiceError Client) := do
  match Client.ofConfig config with
  | .error error => pure (.error error)
  | .ok client =>
    let answer ← RetryPolicy.startup.attempts EngineError.isTransient (fun _ => pure ())
      (client.engine network now .ping) (client.look .startup)
    match answer with
    | some (.ok _) => pure (.ok client)
    | some (.error error) => pure (.error (.ofEngine error))
    | none => pure (.error (.transport "Request failed: no host replied"))

end SiteSearch.Remote
