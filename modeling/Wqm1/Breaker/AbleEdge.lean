import Wqm1.Breaker.Controller
import Wqm1.Library.Action
import Wqm1.Library.JsonText

/-! The client of the vendor's Smart Breaker API: one bound circuit, a bearer token that is
fetched, kept and renewed, and the mapping of HTTP answers to typed errors. -/

set_option autoImplicit false

namespace Wqm1.Breaker.AbleEdge

open Wqm1.Library Action

/-- `str()`; floats and collections, which no known position reads like, by `render`. -/
def str (render : Json → String) : Json → String
  | .null => "None"
  | .bool true => "True"
  | .bool false => "False"
  | .integer value => toString value
  | .text value => String.ofList value
  | json => render json

/-- `float()` of a number or a Boolean; an integer can be too large for it. -/
inductive Number where
  | other
  | tooLarge
  | value (number : Double)
deriving DecidableEq

def Number.ofInt (value : Int) : Number :=
  match Double.ofInt value with
  | none => tooLarge
  | some number => .value number

/-- With Booleans, which `isinstance(value, int | float)` lets through. -/
def number : Json → Number
  | .bool value => .value (.finite (if value then 1 else 0))
  | .integer value => .ofInt value
  | .real value => .value value
  | _ => .other

inductive Method where
  | get | post
deriving DecidableEq

inductive Position where
  | open | close
deriving DecidableEq

/-- The body of a POST to the handle. -/
structure Command where
  position : Position
  reason : String
deriving DecidableEq

structure AbleEdgeClient where
  deviceId : String
  apiBase : String := "https://api.em.eaton.com/api/v1"
  tokenUrl : String := "https://api.em.eaton.com/oauth2/token"

inductive Request where
  | token
  | api (method : Method) (path : String) (body : Option Command) (bearer : String)
deriving DecidableEq

namespace Request

def method : Request → Method
  | token => .post
  | api method _ _ _ => method

def url (client : AbleEdgeClient) : Request → String
  | token => client.tokenUrl
  | api _ path _ _ => client.apiBase ++ path

end Request

inductive Body where
  | empty
  /-- Neither empty nor JSON; `json.loads` says why. -/
  | malformed (cause : String)
  | json (value : Json)

/-- What `urlopen` and the read of its answer come to. -/
inductive Http where
  | answer (status : Int) (body : Body)
  | error (code : Int)
  | failed (cause : String)
  /-- An exception that `_send` does not catch. -/
  | escaped

/-- The errors of the client, each with the data in its text. -/
inductive SmartBreakerError where
  | rejectedCredentials (status : Int)
  | tokenEndpoint (status : Int)
  | noAccessToken
  | failed (method : Method) (url cause : String)
  | noDeviceId
  | refused (method : Method) (path : String) (status : Int)
  | notFound (method : Method) (path : String)
  | unsupported (method : Method) (path : String)
  | rateLimited (method : Method) (path : String)
  | unavailable (method : Method) (path : String)
  | serverError (method : Method) (path : String) (status : Int)
  | unexpected (method : Method) (path : String) (status : Int)
deriving DecidableEq

def Method.text : Method → String
  | .get => "GET"
  | .post => "POST"

namespace SmartBreakerError

/-- `str(e)`; `device` is the `repr` of the device id. -/
def text (device : String) : SmartBreakerError → String
  | rejectedCredentials status => s!"AbleEdge token endpoint rejected credentials (HTTP {status})"
  | tokenEndpoint status => s!"AbleEdge token endpoint returned HTTP {status}"
  | noAccessToken => "AbleEdge token response carried no access_token"
  | failed method url cause => s!"AbleEdge {method.text} {url} failed: {cause}"
  | noDeviceId => "no smart_breaker_device_id configured"
  | refused method path status | serverError method path status | unexpected method path status =>
    s!"AbleEdge {method.text} {path} -> HTTP {status}"
  | notFound method path => s!"AbleEdge device {device} not found ({method.text} {path})"
  | unsupported method path => s!"AbleEdge device does not support {method.text} {path} (HTTP 418)"
  | rateLimited method path => s!"AbleEdge rate limit hit on {method.text} {path}"
  | unavailable method path => s!"AbleEdge reports breaker unavailable ({method.text} {path})"

end SmartBreakerError

inductive Fault where
  | vendor (error : SmartBreakerError)
  | other
deriving DecidableEq

inductive Event where
  | tick (now : Rat)
  | sent (request : Request) (answer : Http)

/-- The token cache, and everything around the client: what it did so far, and what the clock
reads and `urlopen` comes to at each coming step. -/
structure World where
  token : Option String := none
  tokenExpiresAt : Double := .finite 0
  log : List Event := []
  clock : Nat → Rat
  answers : Nat → Http

abbrev Client (Value : Type) := Action World Fault Value

def now : Client Rat := fun world =>
  (.ok (world.clock world.log.length), { world with log := world.log ++ [.tick (world.clock world.log.length)] })

def urlopen (request : Request) : Client Http := fun world =>
  (.ok (world.answers world.log.length),
    { world with log := world.log ++ [.sent request (world.answers world.log.length)] })

section Client

variable (client : AbleEdgeClient)

/-- The status and the JSON of an answer. -/
def Http.read (request : Request) : Http → Except Fault (Int × Json)
  | answer status .empty => .ok (status, .null)
  | answer status (.malformed cause) =>
    if status = 204 then .ok (status, .null) else .error (.vendor (.failed request.method (request.url client) cause))
  | answer status (.json value) => .ok (status, if status = 204 then .null else value)
  | error code => .ok (code, .null)
  | failed cause => .error (.vendor (.failed request.method (request.url client) cause))
  | escaped => .error .other

def send (request : Request) : Client (Int × Json) := do
  MonadExcept.ofExcept ((← urlopen request).read client request)

def tokenSkewS : Rat := 60
def defaultTokenTtlS : Rat := 3600

/-- The token and its lifetime in the answer of the token endpoint. -/
def grant (status : Int) (payload : Json) : Except Fault (String × Double) :=
  if status = 401 ∨ status = 403 then .error (.vendor (.rejectedCredentials status))
  else match payload with
    | .object members =>
      if status = 200 then
        match Json.get members "access_token".toList with
        | .text token =>
          if token = [] then .error (.vendor .noAccessToken)
          else match ((members.lookup "expires_in".toList).map number).getD (.value (.finite defaultTokenTtlS)) with
            | .value ttl => .ok (String.ofList token, ttl)
            | .other => .ok (String.ofList token, .finite defaultTokenTtlS)
            | .tooLarge => .error .other
        | _ => .error (.vendor .noAccessToken)
      else .error (.vendor (.tokenEndpoint status))
    | _ => .error (.vendor (.tokenEndpoint status))

/-- `now + max(0.0, ttl - 60)`. -/
def expiry (now : Rat) : Double → Double
  | .finite ttl => .finite (now + max 0 (ttl - tokenSkewS))
  | .infinite false => .infinite false
  | .infinite true | .nan => .finite now

def keepToken (token : String) (expiresAt : Double) : Client Unit := fun world =>
  (.ok (), { world with token := some token, tokenExpiresAt := expiresAt })

def forgetToken : Client Unit := fun world =>
  (.ok (), { world with token := none, tokenExpiresAt := .finite 0 })

/-- `int(ttl_s)` for the log line. -/
def logTtl : Double → Client Unit
  | .finite _ => pure ()
  | .infinite _ | .nan => throw .other

def authenticate : Client Unit := do
  let (status, payload) ← send client .token
  let (token, ttl) ← MonadExcept.ofExcept (grant status payload)
  keepToken token (expiry (← now) ttl)
  logTtl ttl

/-- A new token where none is held or the held one is due. -/
def renewToken : Option String → Client Unit
  | none => authenticate client
  | some _ => do
    let reading ← now
    let expiresAt ← view World.tokenExpiresAt
    if expiresAt.gt reading then pure () else authenticate client

/-- `assert self._token is not None`. -/
def held : Option String → Client String
  | some token => pure token
  | none => throw .other

def ensureToken : Client String := do
  renewToken client (← view World.token)
  held (← view World.token)

def check (method : Method) (path : String) (status : Int) (payload : Json) : Except Fault Json :=
  if 200 ≤ status ∧ status < 300 then .ok payload
  else .error <| .vendor <|
    if status = 401 ∨ status = 403 then .refused method path status
    else if status = 404 then .notFound method path
    else if status = 418 then .unsupported method path
    else if status = 429 then .rateLimited method path
    else if status = 503 then .unavailable method path
    else if 500 ≤ status then .serverError method path status
    else .unexpected method path status

/-- One pass of the loop in `_request`. -/
def attempt (method : Method) (path : String) (body : Option Command) : Client (Int × Json) := do
  let token ← ensureToken client
  send client (.api method path body token)

/-- The second pass, after a 401. -/
def retried (method : Method) (path : String) (body : Option Command) (first : Int × Json) : Client (Int × Json) :=
  if first.1 = 401 then do
    forgetToken
    attempt client method path body
  else pure first

def request (method : Method) (path : String) (body : Option Command) : Client Json :=
  if client.deviceId = "" then throw (.vendor .noDeviceId)
  else do
    let first ← attempt client method path body
    let (status, payload) ← retried client method path body first
    MonadExcept.ofExcept (check method path status payload)

/-- The members below `data`, or of a bare object. -/
def data : Json → List (Text × Json)
  | .object members =>
    match members.lookup "data".toList with
    | none => members
    | some (.object inner) => inner
    | some _ => []
  | _ => []

def positionPath : String := s!"/devices/{client.deviceId}/breaker/remoteHandle/position"
def isConnectedPath : String := s!"/devices/{client.deviceId}/device/metadata/isConnected"
def meterPath : String := s!"/devices/{client.deviceId}/data/telemetry/meter/reading"

def positionWord (render : Json → String) : Json → Option String
  | .null => none
  | position => some (str render position).toLower

def isOn : Option String → Option Bool
  | some word =>
    if word = "close" ∨ word = "closed" then some true
    else if word = "open" ∨ word = "opened" then some false
    else none
  | none => none

def connected (members : List (Text × Json)) : Option Bool :=
  let value :=
    match members.lookup "isConnected".toList with
    | none => Json.get members "val".toList
    | some (.object node) => Json.get node "val".toList
    | some node => node
  match value with
  | .bool value => some value
  | .integer value => some (value ≠ 0)
  | _ => none

/-- The probe of the link between the breaker and its cloud; a typed error leaves it unknown. -/
def probe : Client (Option Bool) :=
  tryCatch
    (do
      let payload ← request client .get (isConnectedPath client) none
      return connected (data payload))
    fun
      | .vendor _ => pure none
      | .other => throw .other

/-- The status, and when it was observed. -/
def getStatus (render : Json → String) (probeConnected : Bool) : Client (CircuitStatus × Rat) := do
  let payload ← request client .get (positionPath client) none
  let word := positionWord render (Json.get (data payload) "position".toList)
  let link ← (if probeConnected then probe client else pure none)
  let observedAt ← now
  return (⟨isOn word, link, word⟩, observedAt)

def command (on : Bool) (reason : String) : Command where
  position := if on then .close else .open
  reason := ((if reason = "" then "WQM-1" else reason).take 200).toString

def setCircuit (on : Bool) (reason : String) : Client Unit := do
  let _ ← request client .post (positionPath client) (some (command on reason))
  return

/-- What the breaker's meter says, and when. -/
structure MeterReading where
  currentA : Option Double
  voltageV : Option Double
  energyDeliveredWh : Option Double
  observedAt : Double
  raw : List (Text × Json)

def floated : Number → Client (Option Double)
  | .value number => pure (some number)
  | .other => pure none
  | .tooLarge => throw .other

def num : Json → Client (Option Double)
  | .bool _ => pure none
  | json => floated (number json)

/-- A node `{"val": n}` or a bare number. -/
def val : Json → Client (Option Double)
  | .object node => num (Json.get node "val".toList)
  | json => num json

def observedAt : Number → Client Double
  | .value number => pure number
  | .other => do return .finite (← now)
  | .tooLarge => throw .other

def getPower : Client MeterReading := do
  let members := data (← request client .get (meterPath client) none)
  let energy :=
    match Json.get members "energy".toList with
    | .object node => node
    | _ => []
  let currentA ← val (Json.get members "currentA".toList)
  let voltageV ← val (Json.get members "voltageAN".toList)
  let energyDeliveredWh ← num (Json.get energy "deliveredWH".toList)
  let observedAt ← observedAt (number (Json.get members "ts".toList))
  return ⟨currentA, voltageV, energyDeliveredWh, observedAt, members⟩

/-- What the controller and its owner ask of the client. -/
inductive Operation where
  | authenticate
  | getStatus (probeConnected : Bool)
  | setCircuit (on : Bool) (reason : String)
  | getPower
deriving DecidableEq

/-- One operation, and whether it returned; an exception is the caller's to handle. -/
def perform (render : Json → String) : Operation → World → Bool × World
  | .authenticate, world => finished ((authenticate client).outcome world)
  | .getStatus probeConnected, world => finished ((getStatus client render probeConnected).outcome world)
  | .setCircuit on reason, world => finished ((setCircuit client on reason).outcome world)
  | .getPower, world => finished ((getPower client).outcome world)
where
  finished {Value : Type} : Except Fault Value × World → Bool × World
    | (result, world) => (result.toBool, world)

/-- The operations, with whether each returned, and what is left after all of them. -/
def run (render : Json → String) : List Operation → World → List (Operation × Bool) × World
  | [], world => ([], world)
  | operation :: rest, world =>
    let (returned, middle) := perform client render operation world
    let (others, final) := run render rest middle
    ((operation, returned) :: others, final)

end Client

end Wqm1.Breaker.AbleEdge
