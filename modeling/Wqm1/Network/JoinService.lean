import Wqm1.Library.LineStream
import Wqm1.Network.SetupPage

/-! The root half of the Wi-Fi page: one line of JSON each way over a local socket, and what the
page answers to a phone that asks for a join. -/

set_option autoImplicit false

namespace Wqm1.Network.JoinService

open Wqm1.Library Wqm1.Network.SetupPage

def maxRequest : Nat := 4096

def newline : UInt8 := 10

/-- `text.encode("utf-8")` of a text that `json.dumps` has written, which is ASCII. -/
def encoded (text : Text) : Bytes := text.map fun c => UInt8.ofNat c.toNat

section Root

/-- What `start_join` returns. -/
inductive Started where
  | joining
  | busy (running : Text)

def Started.answer (ssid : Text) : Started → Json
  | joining => .object [("state".toList, .text "joining".toList), ("ssid".toList, .text ssid)]
  | busy running => .object [("state".toList, .text "busy".toList), ("ssid".toList, .text running)]

/-- What the service finds on the unit: whether a join holds the lock, what a scan answers and what a join does. None
where a call raises. -/
structure Root where
  lockHeld : Bool
  refresh : Option Json
  start : JoinArgs → Option Started

def errorAnswer (code : Text) : Json := .object [("error".toList, .text code)]

def unavailable : Json := errorAnswer "unavailable".toList

def badRequest : Json := errorAnswer "bad_request".toList

inductive Handled where
  | answer (json : Json)
  | rescan
  | join (args : JoinArgs)

/-- The password of a request, or the answer to one that is refused. -/
def passwordAsked (json : Json) : Except Json (Option Text) :=
  match passwordOf json with
  | none => .error badRequest
  | some password =>
    if password = [] then .ok none
    else match passwordProblemCode password true with
      | some problem => .error (errorAnswer problem.key)
      | none => .ok (some password)

/-- `handle_request`, up to the join or the scan that it starts. -/
def handleRequest (lockHeld : Bool) : Json → Handled
  | .object members =>
    let op := textOr (Json.get members "op".toList)
    let ssid := textOr (Json.get members "ssid".toList)
    if op = "rescan".toList then
      if lockHeld then .answer (.object [("ok".toList, .bool false), ("count".toList, .integer 0)]) else .rescan
    else if op ≠ "join".toList then .answer badRequest
    else if !Hotspot.validSsid ssid then .answer (errorAnswer Refusal.networkNameBad.key)
    else match passwordAsked (Json.get members "password".toList) with
      | .error refused => .answer refused
      | .ok password => .join ⟨ssid, password, saysTrue (Json.get members "hidden".toList)⟩
  | _ => .answer badRequest

/-- What became of one request: the join that was asked for and the answer, if there is one. -/
structure Outcome where
  asked : Option JoinArgs
  answer : Option Json

def Handled.outcome (root : Root) : Handled → Outcome
  | answer json => ⟨none, some json⟩
  | rescan => ⟨none, root.refresh⟩
  | join args => ⟨some args, (root.start args).map (Started.answer args.ssid)⟩

def allowed (uid owner : Option Nat) : Bool := uid.any fun uid => uid = 0 || owner = some uid

/-- What the connection brings to the service: who is at the other end, what is sent and how it arrives. -/
structure Incoming where
  uid : Option Nat
  sizes : List Nat
  stream : Bytes
  closed : Bool

/-- `serve_one`. The bytes are read as text by `decode`. -/
def serveOne (decode : Bytes → Option Text) (owner : Option Nat) (root : Root)
    (incoming : Incoming) : Outcome :=
  if allowed incoming.uid owner then
    match readLine newline maxRequest incoming.closed incoming.sizes [] incoming.stream with
    | .silent => ⟨none, none⟩
    | .refused => ⟨none, some badRequest⟩
    | .line line => (handleRequest root.lockHeld (((decode line).bind Json.loads).getD .null)).outcome root
  else ⟨none, none⟩

end Root

section Page

/-- The connection as the page has it: whether there is a service with a free slot behind the socket, whom
that takes the page for, and how the bytes arrive at either end. -/
structure Link where
  reachable : Bool
  uid : Option Nat
  owner : Option Nat
  asking : List Nat
  answering : List Nat

def asObject : Json → Json
  | .object members => .object members
  | _ => unavailable

def encodedLine (repr : Double → Text) (json : Json) : Bytes :=
  encoded (Json.dumps repr json) ++ [newline]

/-- `_call` over the socket. -/
def call (decode : Bytes → Option Text) (repr : Double → Text) (link : Link) (root : Root)
    (request : Json) :
    Option JoinArgs × Json :=
  if link.reachable then
    let served :=
      serveOne decode link.owner root ⟨link.uid, link.asking, encodedLine repr request, false⟩
    let reply := (served.answer.map (encodedLine repr)).getD []
    match readLine newline maxRequest true link.answering [] reply with
    | .silent | .refused => (served.asked, unavailable)
    | .line line => (served.asked, (((decode line).bind Json.loads).map asObject).getD unavailable)
  else (none, unavailable)

def joinMembers (args : JoinArgs) : List (Text × Json) :=
  [("op".toList, .text "join".toList), ("ssid".toList, .text args.ssid),
    ("password".toList, (args.password.map Json.text).getD .null), ("hidden".toList, .bool args.hidden)]

def joinRequest (args : JoinArgs) : Json := .object (joinMembers args)

structure Response where
  status : Nat
  body : Json

def membersOf : Json → List (Text × Json)
  | .object members => members
  | _ => []

/-- Python's truth value. -/
def truthy : Json → Bool
  | .null => false
  | .bool value => value
  | .integer value => value ≠ 0
  | .real value => value ≠ .finite 0
  | .text text => text ≠ []
  | .array items => items ≠ []
  | .object members => members ≠ []

/-- The last part of `_join`: what a phone is told of the answer. -/
def tell (args : JoinArgs) (answer : Json) : Response :=
  let members := membersOf answer
  let state := textOr (Json.get members "state".toList)
  let running := Json.get members "ssid".toList
  let error := textOr (Json.get members "error".toList)
  if state = "joining".toList then
    ⟨202, .object [("state".toList, .text "joining".toList), ("ssid".toList, .text args.ssid)]⟩
  else if state = "busy".toList then
    ⟨409, .object [("state".toList, .text "busy".toList),
      ("ssid".toList, if truthy running then running else .text args.ssid)]⟩
  else if error = "unavailable".toList ∨ !copyKeys.contains error ∨ error = "try_again".toList then
    ⟨503, errorAnswer "try_again".toList⟩
  else ⟨400, errorAnswer error⟩

/-- `_join` of a body that could be read. -/
def join (decode : Bytes → Option Text) (repr : Double → Text) (link : Link) (root : Root)
    (body : Json)
    (networks : List ScanList.ScanRow) : Option JoinArgs × Response :=
  match validateJoin body networks with
  | .error refusal => (none, ⟨400, errorAnswer refusal.key⟩)
  | .ok args =>
    let called := call decode repr link root (joinRequest args)
    (called.1, tell args called.2)

def rescanRequest : Json := .object [("op".toList, .text "rescan".toList)]

inductive Reply where
  | redirect | page | notFound | state | dropped
  | networks (view : View)
  | json (response : Response)

/-- `_rescan` of a body that could be read. -/
def rescan (decode : Bytes → Option Text) (repr : Double → Text) (link : Link) (root : Root) :
    Option JoinArgs × Response :=
  let called := call decode repr link root rescanRequest
  (called.1, ⟨200,
    if truthy (Json.get (membersOf called.2) "ok".toList) then .object [("ok".toList, .bool true)]
    else .object [("ok".toList, .bool false), ("error".toList, .text "rescan_failed".toList)]⟩)

/-- `_handle`: what root is asked for and what goes back to the client. -/
def handle (decode : Bytes → Option Text) (repr : Double → Text) (link : Link) (root : Root)
    (networks : List ScanList.ScanRow) (request : Request) : Option JoinArgs × Reply :=
  match classifyRequest request.path request.host request.verb with
  | .redirect => (none, .redirect)
  | .page => (none, .page)
  | .notFound => (none, .notFound)
  | .api name =>
    if crossSite request then (none, .json ⟨403, errorAnswer "try_again".toList⟩)
    else match name with
      | .networks => (none, .networks (networksView networks))
      | .state => (none, .state)
      | .rescan =>
        match readJson request with
        | .stalled => (none, .dropped)
        | .refused => (none, .json ⟨413, .object [("ok".toList, .bool false), ("error".toList, .text "rescan_failed".toList)]⟩)
        | .value _ =>
          let rescanned := rescan decode repr link root
          (rescanned.1, .json rescanned.2)
      | .join =>
        match readJson request with
        | .stalled => (none, .dropped)
        | .refused => (none, .json ⟨413, errorAnswer "try_again".toList⟩)
        | .value body =>
          let joined := join decode repr link root body networks
          (joined.1, .json joined.2)

end Page

section Lines

/-- How ASCII is read. -/
def Ascii (decode : Bytes → Option Text) : Prop :=
  ∀ text, Json.Printable text → decode (encoded text) = some text

variable {decode : Bytes → Option Text} {repr : Double → Text} {json : Json}

theorem newline_not_mem_encoded {text : Text} (printable : Json.Printable text) :
    newline ∉ encoded text := by
  intro member
  obtain ⟨c, inside, same⟩ := List.mem_map.mp member
  obtain ⟨low, high⟩ := printable c inside
  have value := congrArg UInt8.toNat same
  rw [UInt8.toNat_ofNat', Nat.mod_eq_of_lt (by omega)] at value
  rw [value] at low
  exact absurd low (by decide)

/-- A line that is on its way is read as it is, or not at all. -/
theorem eq_of_readLine (plain : json.Plain) {closed : Bool} {sizes : List Nat} {line : Bytes}
    (read : readLine newline maxRequest closed sizes [] (encodedLine repr json) = .line line) :
    line = encoded (Json.dumps repr json) := by
  obtain ⟨⟨rest, whole⟩, clean, -⟩ := readLine_line read (Nat.zero_le _)
  rw [List.nil_append] at whole
  rw [← takeWhile_line clean rest, ← whole]
  exact takeWhile_line (newline_not_mem_encoded (Json.printable_dumps plain)) []

theorem loads_decode (ascii : Ascii decode) (plain : json.Plain) :
    (decode (encoded (Json.dumps repr json))).bind Json.loads = some json := by
  rw [ascii _ (Json.printable_dumps plain), Option.bind_some, Json.loads_dumps plain]

/-- A short line is read, however it arrives, or the reader waits in vain for the rest of it. -/
theorem readLine_or_silent (plain : json.Plain) (short : (Json.dumps repr json).length < maxRequest)
    (closed : Bool)
    (sizes : List Nat) :
    readLine newline maxRequest closed sizes [] (encodedLine repr json) = .line (encoded (Json.dumps repr json)) ∨
      (readLine newline maxRequest closed sizes [] (encodedLine repr json) = .silent ∧ sizes.length < maxRequest) := by
  have size : (encoded (Json.dumps repr json)).length = (Json.dumps repr json).length :=
    List.length_map ..
  rcases readLine_sent closed sizes (List.nil_append (encodedLine repr json))
      (newline_not_mem_encoded (Json.printable_dumps plain)) (size.trans_lt short) with read | ⟨quiet, few⟩
  · exact .inl read
  · rw [encodedLine, List.length_append, size, List.length_singleton] at few
    exact .inr ⟨quiet, few.trans_le short⟩

/-- It is read when it may arrive in as many pieces as a line may have bytes. -/
theorem readLine_encoded (plain : json.Plain) (short : (Json.dumps repr json).length < maxRequest)
    {closed : Bool}
    {sizes : List Nat} (patient : maxRequest ≤ sizes.length) :
    readLine newline maxRequest closed sizes [] (encodedLine repr json) = .line (encoded (Json.dumps repr json)) := by
  rcases readLine_or_silent plain short closed sizes with read | ⟨-, few⟩
  · exact read
  · exact absurd few (Nat.not_lt.mpr patient)

end Lines

section Asked

variable {decode : Bytes → Option Text} {repr : Double → Text} {link : Link} {root : Root} {args : JoinArgs}

/-- What both halves ask of a join: a name that nmcli takes and a password that WPA takes. -/
structure Fit (args : JoinArgs) : Prop where
  ssid : Hotspot.validSsid args.ssid = true
  password : ∀ password, args.password = some password → password ≠ [] ∧
    passwordProblemCode password true = none

theorem problem_secured {password : Text} (nonempty : password ≠ []) (first second : Bool) :
    passwordProblemCode password first = passwordProblemCode password second := by
  simp only [passwordProblemCode, if_neg nonempty]

theorem fit_of_acceptPassword {members : List (Text × Json)} {secured hidden : Bool} {ssid : Text}
    (valid : Hotspot.validSsid ssid = true) {password : Option Text}
    (accepted : acceptPassword members secured = .ok password) : Fit ⟨ssid, password, hidden⟩ := by
  refine ⟨valid, ?_⟩
  rintro password rfl
  unfold acceptPassword at accepted
  split at accepted
  next => cases accepted
  next raw _ =>
    dsimp only at accepted
    split at accepted
    next => cases accepted
    next =>
      split at accepted
      next => cases accepted
      next fine =>
        obtain ⟨nonempty, same⟩ := Option.ite_none_left_eq_some.mp (Except.ok.inj accepted)
        obtain rfl := Option.some.inj same
        exact ⟨nonempty, (problem_secured nonempty _ _).trans fine⟩

theorem fit_of_validateJoin {body : Json} {networks : List ScanList.ScanRow}
    (valid : validateJoin body networks = .ok args) : Fit args := by
  unfold validateJoin at valid
  split at valid
  next members =>
    dsimp only at valid
    generalize (if saysTrue (Json.get members "hidden".toList) then Text.strip (textOr (Json.get members "ssid".toList))
      else textOr (Json.get members "ssid".toList)) = ssid at valid
    generalize (if saysTrue (Json.get members "hidden".toList) then none else findNetwork networks ssid) = found at valid
    split at valid
    next => cases valid
    next =>
      split at valid
      next => cases valid
      next named =>
        split at valid
        next => cases valid
        next =>
          cases accepted : acceptPassword members (found.any ScanList.ScanRow.secured) with
          | error refusal =>
            rw [accepted] at valid
            cases valid
          | ok password =>
            rw [accepted] at valid
            obtain rfl := Except.ok.inj valid
            exact fit_of_acceptPassword (by simpa using named) accepted
  next => cases valid

theorem plain_joinRequest (args : JoinArgs) : (joinRequest args).Plain := by
  refine .object ?_ (by simp [joinMembers])
  simp only [joinMembers, List.forall_mem_cons, List.not_mem_nil, false_implies, implies_true, and_true]
  refine ⟨.text _, .text _, ?_, .bool _⟩
  cases args.password with
  | none => exact .null
  | some password => exact .text password

/-- The root half takes what the page has checked as it is. -/
theorem handleRequest_joinRequest (fit : Fit args) (lockHeld : Bool) :
    handleRequest lockHeld (joinRequest args) = .join args := by
  obtain ⟨ssid, password, hidden⟩ := args
  have asked : passwordAsked ((password.map Json.text).getD .null) = .ok password := by
    cases password with
    | none => rfl
    | some password =>
      obtain ⟨nonempty, fine⟩ := fit.password password rfl
      simp only [Option.map_some, Option.getD_some, passwordAsked, passwordOf, if_neg nonempty, fine]
  have flag : saysTrue (.bool hidden) = hidden := by cases hidden <;> rfl
  have named : (!Hotspot.validSsid ssid) = false := by rw [fit.ssid, Bool.not_true]
  have op : Json.get (joinMembers ⟨ssid, password, hidden⟩) "op".toList = .text "join".toList := rfl
  have name : Json.get (joinMembers ⟨ssid, password, hidden⟩) "ssid".toList = .text ssid := rfl
  have secret : Json.get (joinMembers ⟨ssid, password, hidden⟩) "password".toList =
    (password.map Json.text).getD .null := rfl
  have concealed : Json.get (joinMembers ⟨ssid, password, hidden⟩) "hidden".toList = .bool hidden := rfl
  have other : "join".toList ≠ "rescan".toList := by decide
  simp only [joinRequest, handleRequest, op, name, secret, concealed, textOr, asked, flag, named, if_neg other, ne_eq,
    not_true_eq_false, Bool.false_eq_true, ↓reduceIte]

theorem length_of_validSsid {ssid : Text} (valid : Hotspot.validSsid ssid = true) :
    ssid.length ≤ 33 := by
  unfold Hotspot.validSsid at valid
  dsimp only at valid
  split at valid
  · have few := (Bool.and_eq_true_iff.mp valid).2
    rw [decide_eq_true_eq, List.length_dropLast] at few
    omega
  · have few := (Bool.and_eq_true_iff.mp valid).2
    rw [decide_eq_true_eq] at few
    omega

/-- What WPA takes for a password. -/
theorem passphrase_of_fine {password : Text} (nonempty : password ≠ []) {secured : Bool}
    (fine : passwordProblemCode password secured = none) :
    8 ≤ password.length ∧ password.length ≤ 63 ∧ ∀ c ∈ password, 32 ≤ c.toNat ∧ c.toNat ≠ 127 := by
  unfold passwordProblemCode at fine
  rw [if_neg nonempty] at fine
  split at fine
  next => cases fine
  next clean =>
    split at fine
    next => cases fine
    next long =>
      split at fine
      next => cases fine
      next short =>
        refine ⟨Nat.le_of_not_lt long, Nat.le_of_not_lt short, fun c member => ?_⟩
        have plain := List.any_eq_false.mp (Bool.eq_false_iff.mpr clean) c member
        simp only [Bool.or_eq_true, decide_eq_true_eq, not_or, Nat.not_lt] at plain
        exact plain

theorem short_joinRequest (fit : Fit args) :
    (Json.dumps repr (joinRequest args)).length < maxRequest := by
  have ssid := Json.length_quoted args.ssid
  have name := length_of_validSsid fit.ssid
  have secret : (Json.dumps repr ((args.password.map Json.text).getD .null)).length ≤ 758 := by
    cases given : args.password with
    | none => exact (by decide : "null".toList.length ≤ 758)
    | some password =>
      obtain ⟨nonempty, fine⟩ := fit.password password given
      have bound := (passphrase_of_fine nonempty fine).2.1
      have length := Json.length_quoted password
      rw [Option.map_some, Option.getD_some, Json.dumps]
      omega
  have flag : (Json.dumps repr (.bool args.hidden)).length ≤ 5 := by
    cases args.hidden with
    | true => exact (by decide : "true".toList.length ≤ 5)
    | false => exact (by decide : "false".toList.length ≤ 5)
  have op : (Json.quoted "op".toList).length = 4 := by decide
  have join : (Json.quoted "join".toList).length = 6 := by decide
  have keys : (Json.quoted "ssid".toList).length = 6 ∧ (Json.quoted "password".toList).length = 10 ∧
      (Json.quoted "hidden".toList).length = 8 := by decide
  simp only [joinRequest, joinMembers, Json.dumps, Json.dumpsMembers, List.length_cons, List.length_append,
    List.length_nil, op, join, keys]
  unfold maxRequest
  omega

theorem plain_answer (ssid : Text) (started : Started) : (started.answer ssid).Plain := by
  cases started with
  | joining =>
    refine .object ?_ (by simp)
    simp only [List.forall_mem_cons, List.not_mem_nil, false_implies, implies_true, and_true]
    exact ⟨.text _, .text _⟩
  | busy running =>
    refine .object ?_ (by simp)
    simp only [List.forall_mem_cons, List.not_mem_nil, false_implies, implies_true, and_true]
    exact ⟨.text _, .text _⟩

theorem asObject_answer (ssid : Text) (started : Started) :
    asObject (started.answer ssid) = started.answer ssid := by
  cases started <;> rfl

/-- What the service does with the request of the page, however its bytes arrive. -/
theorem serveOne_joinRequest (ascii : Ascii decode) (repr : Double → Text) (root : Root)
    (fit : Fit args)
    (owner uid : Option Nat) (sizes : List Nat) :
    serveOne decode owner root ⟨uid, sizes, encodedLine repr (joinRequest args), false⟩ = ⟨none, none⟩ ∨
      serveOne decode owner root ⟨uid, sizes, encodedLine repr (joinRequest args), false⟩ =
        ⟨some args, (root.start args).map (Started.answer args.ssid)⟩ := by
  have plain := plain_joinRequest args
  unfold serveOne
  split
  next =>
    dsimp only
    rcases readLine_or_silent plain (short_joinRequest fit) false sizes with read | ⟨quiet, -⟩
    · rw [read]
      right
      dsimp only
      rw [loads_decode ascii plain, Option.getD_some, handleRequest_joinRequest fit]
      rfl
    · rw [quiet]
      exact .inl rfl
  next => exact .inl rfl

/-- The page learns what became of its request, or that it cannot say. -/
theorem call_joinRequest (ascii : Ascii decode) (repr : Double → Text) (link : Link) (root : Root)
    (fit : Fit args) :
    call decode repr link root (joinRequest args) = (none, unavailable) ∨
      call decode repr link root (joinRequest args) = (some args, unavailable) ∨
        ∃ started, root.start args = some started ∧
          call decode repr link root (joinRequest args) = (some args, started.answer args.ssid) := by
  unfold call
  split
  next =>
    dsimp only
    rcases serveOne_joinRequest ascii repr root fit link.owner link.uid link.asking with
      nothing | asked
    · rw [nothing]
      left
      split
      next => rfl
      next => rfl
      next line read =>
        obtain ⟨⟨rest, whole⟩, -, -⟩ := readLine_line read (Nat.zero_le _)
        exact absurd whole (by simp)
    · rw [asked]
      right
      split
      next => exact .inl rfl
      next => exact .inl rfl
      next line read =>
        cases known : root.start args with
        | none =>
          rw [known] at read
          obtain ⟨⟨rest, whole⟩, -, -⟩ := readLine_line read (Nat.zero_le _)
          exact absurd whole (by simp)
        | some started =>
          rw [known] at read
          have plain := plain_answer args.ssid started
          rw [eq_of_readLine plain read, loads_decode ascii plain]
          exact .inr ⟨started, rfl, congrArg (some args, ·) (asObject_answer args.ssid started)⟩
  next => exact .inl rfl

theorem tell_unavailable (args : JoinArgs) :
    tell args unavailable = ⟨503, errorAnswer "try_again".toList⟩ := rfl

theorem tell_joining (args : JoinArgs) : tell args (Started.joining.answer args.ssid) =
    ⟨202, .object [("state".toList, .text "joining".toList), ("ssid".toList, .text args.ssid)]⟩ := rfl

theorem tell_busy (args : JoinArgs) (running : Text) :
    tell args ((Started.busy running).answer args.ssid) =
    ⟨409, .object [("state".toList, .text "busy".toList),
      ("ssid".toList, if truthy (.text running) then .text running else .text args.ssid)]⟩ := rfl

end Asked

section Phone

/-- How a request for a join may end: what the root half was asked for and what the phone is told. -/
inductive Honest (root : Root) : Except Refusal JoinArgs → Option JoinArgs × Response → Prop where
  | refused (refusal : Refusal) : Honest root (.error refusal) (none, ⟨400, errorAnswer refusal.key⟩)
  | started {args : JoinArgs} (starts : root.start args = some .joining) :
    Honest root (.ok args) (some args,
      ⟨202, .object [("state".toList, .text "joining".toList), ("ssid".toList, .text args.ssid)]⟩)
  | busy {args : JoinArgs} {running : Text} (waits : root.start args = some (.busy running)) :
    Honest root (.ok args) (some args, ⟨409, .object [("state".toList, .text "busy".toList),
      ("ssid".toList, if truthy (.text running) then .text running else .text args.ssid)]⟩)
  | unasked (args : JoinArgs) : Honest root (.ok args) (none, ⟨503, errorAnswer "try_again".toList⟩)
  | unknown (args : JoinArgs) : Honest root (.ok args) (some args, ⟨503, errorAnswer "try_again".toList⟩)

variable {decode : Bytes → Option Text} {repr : Double → Text} {link : Link} {root : Root}

theorem join_honest (ascii : Ascii decode) (link : Link) (root : Root) (body : Json)
    (networks : List ScanList.ScanRow) :
    Honest root (validateJoin body networks) (join decode repr link root body networks) := by
  unfold join
  cases checked : validateJoin body networks with
  | error refusal => exact .refused refusal
  | ok args =>
    dsimp only
    rcases call_joinRequest ascii repr link root (fit_of_validateJoin checked) with
      nothing | lost | ⟨started, known, answered⟩
    · rw [nothing, tell_unavailable]
      exact .unasked args
    · rw [lost, tell_unavailable]
      exact .unknown args
    · rw [answered]
      cases started with
      | joining =>
        rw [tell_joining]
        exact .started known
      | busy running =>
        rw [tell_busy]
        exact .busy known

/-- A phone whose request got no answer of the root half is to try again. -/
theorem join_unavailable {body : Json} {networks : List ScanList.ScanRow} {args : JoinArgs}
    (valid : validateJoin body networks = .ok args)
    (lost : (call decode repr link root (joinRequest args)).2 = unavailable) :
    (join decode repr link root body networks).2 = ⟨503, errorAnswer "try_again".toList⟩ := by
  unfold join
  rw [valid]
  dsimp only
  rw [lost, tell_unavailable]

/-- A request of the page itself for a join: no other site has sent it. -/
structure FromPage (request : Request) (body : Json) : Prop where
  verb : request.verb = .post
  path : requestPath request.path = "/api/join".toList
  host : isOwnHost request.host = true
  site : crossSite request = false
  body : readJson request = .value body

theorem apiRoute_join {verb : Verb} {route : Text} (routed : apiRoute verb route = some .join) :
    verb = .post ∧ route = "/api/join".toList := by
  unfold apiRoute at routed
  cases verb with
  | get | head =>
    dsimp only at routed
    split at routed
    · cases routed
    · split at routed <;> cases routed
  | post =>
    dsimp only at routed
    split at routed
    next same => exact ⟨rfl, same⟩
    next => split at routed <;> cases routed
  | put | delete | patch | options => cases routed

theorem classifyRequest_join {path host : Text} {verb : Verb}
    (kind : classifyRequest path host verb = .api .join) :
    isOwnHost host = true ∧ verb = .post ∧ requestPath path = "/api/join".toList := by
  unfold classifyRequest at kind
  split at kind
  next => cases kind
  next =>
    split at kind
    next => cases kind
    next own =>
      split at kind
      next => cases kind
      next =>
        split at kind
        next routed =>
          obtain rfl := Kind.api.inj kind
          exact ⟨by simpa using own, apiRoute_join routed⟩
        next => cases kind

theorem plain_rescanRequest : rescanRequest.Plain := by
  refine .object ?_ (by simp)
  simp only [List.forall_mem_cons, List.not_mem_nil, false_implies, implies_true, and_true]
  exact .text _

/-- A rescan asks for no join. -/
theorem asked_rescan (ascii : Ascii decode) : (rescan decode repr link root).1 = none := by
  have plain := plain_rescanRequest
  have short : (Json.dumps repr rescanRequest).length < maxRequest :=
    (by decide : ('{' :: (Json.quoted "op".toList ++ ':' :: ' ' :: (Json.quoted "rescan".toList ++ ['}']))).length <
      maxRequest)
  have served : (serveOne decode link.owner root ⟨link.uid, link.asking, encodedLine repr rescanRequest, false⟩).asked =
      none := by
    unfold serveOne
    split
    next =>
      rcases readLine_or_silent plain short false link.asking with read | ⟨quiet, -⟩
      · dsimp only
        rw [read]
        dsimp only
        rw [loads_decode ascii plain, Option.getD_some]
        cases root.lockHeld <;> rfl
      · dsimp only
        rw [quiet]
    next => rfl
  unfold rescan call
  split
  next =>
    dsimp only
    split <;> exact served
  next => rfl

/-- ASCII is read byte by byte. -/
def latin (bytes : Bytes) : Option Text := some (bytes.map fun byte => Char.ofNat byte.toNat)

theorem ascii_latin : Ascii latin := by
  intro text printable
  refine congrArg some ?_
  rw [encoded, List.map_map]
  refine (List.map_congr_left fun c member => ?_).trans (List.map_id text)
  obtain ⟨-, high⟩ := printable c member
  rw [Function.comp_apply, UInt8.toNat_ofNat', Nat.mod_eq_of_lt (by omega), Char.ofNat_toNat, id]

/-- The page of a phone asks for a hidden network. -/
def post : Request where
  verb := .post
  path := "/api/join".toList
  host := "192.168.4.1".toList
  contentLength := some "57".toList
  body := encoded (Json.dumps (fun _ => []) (.object [("ssid".toList, .text "Site".toList),
    ("password".toList, .text "letmein12".toList), ("hidden".toList, .bool true)]))

def idleRoot : Root where
  lockHeld := false
  refresh := some (.object [("ok".toList, .bool true), ("count".toList, .integer 3)])
  start _ := some .joining

/-- Every byte arrives on its own. -/
def patientLink : Link where
  reachable := true
  uid := some 1000
  owner := some 1000
  asking := List.replicate maxRequest 1
  answering := List.replicate maxRequest 1

/-- Over the socket a request ends as in the process of the service itself. -/
theorem call_in_process (ascii : Ascii decode) (reachable : link.reachable = true)
    (known : allowed link.uid link.owner = true) (patient : maxRequest ≤ link.asking.length)
    (waits : maxRequest ≤ link.answering.length) {request : Json} (plain : request.Plain)
    (short : (Json.dumps repr request).length < maxRequest) {answer : List (Text × Json)}
    (answers : ((handleRequest root.lockHeld request).outcome root).answer = some (.object answer))
    (plainAnswer : (Json.object answer).Plain)
    (shortAnswer : (Json.dumps repr (.object answer)).length < maxRequest) :
    call decode repr link root request =
      (((handleRequest root.lockHeld request).outcome root).asked, .object answer) := by
  have served :
      serveOne decode link.owner root ⟨link.uid, link.asking, encodedLine repr request, false⟩ =
      (handleRequest root.lockHeld request).outcome root := by
    unfold serveOne
    rw [if_pos known]
    dsimp only
    rw [readLine_encoded plain short patient]
    dsimp only
    rw [loads_decode ascii plain, Option.getD_some]
  unfold call
  rw [if_pos reachable, served]
  dsimp only
  rw [answers, Option.map_some, Option.getD_some, readLine_encoded plainAnswer shortAnswer waits]
  dsimp only
  rw [loads_decode ascii plainAnswer]
  rfl

theorem call_in_process_rescan : call latin (fun _ => []) patientLink idleRoot rescanRequest =
    (none, .object [("ok".toList, .bool true), ("count".toList, .integer 3)]) := by
  refine call_in_process ascii_latin rfl (by decide) ?_ ?_ plain_rescanRequest
    (by decide +kernel) rfl ?_ (by decide +kernel)
  · exact List.length_replicate.ge
  · exact List.length_replicate.ge
  · refine .object ?_ (by simp)
    simp only [List.forall_mem_cons, List.not_mem_nil, false_implies, implies_true, and_true]
    exact ⟨.bool true, .integer (Json.short_of_lt 1 (by decide) (by decide) (by decide))⟩

theorem eq_text_of_textOr {json : Json} {text : Text} (nonempty : text ≠ [])
    (said : textOr json = text) :
    json = .text text := by
  cases json with
  | text found => exact congrArg Json.text said
  | null | bool | integer | real | array | object => exact absurd said.symm nonempty

/-- The only requests that start a join. -/
theorem handleRequest_eq_join {lockHeld : Bool} {request : Json} {args : JoinArgs}
    (handled : handleRequest lockHeld request = .join args) : ∃ members, request = .object members ∧
      Json.get members "op".toList = .text "join".toList ∧
        Json.get members "ssid".toList = .text args.ssid ∧
      Hotspot.validSsid args.ssid = true ∧
      passwordAsked (Json.get members "password".toList) = .ok args.password := by
  unfold handleRequest at handled
  split at handled
  next members =>
    dsimp only at handled
    split at handled
    next => split at handled <;> cases handled
    next =>
      split at handled
      next => cases handled
      next op =>
        split at handled
        next => cases handled
        next valid =>
          split at handled
          next => cases handled
          next password asked =>
            obtain rfl := Handled.join.inj handled
            have valid : Hotspot.validSsid (textOr (Json.get members "ssid".toList)) = true := by simpa using valid
            have named : textOr (Json.get members "ssid".toList) ≠ [] := by
              intro empty
              rw [empty] at valid
              exact absurd valid (by decide)
            exact ⟨members, rfl, eq_text_of_textOr (by decide) (not_not.mp op), eq_text_of_textOr named rfl, valid, asked⟩
  next => cases handled

theorem fine_of_passwordAsked {json : Json} {password : Text}
    (asked : passwordAsked json = .ok (some password)) :
    password ≠ [] ∧ passwordProblemCode password true = none := by
  unfold passwordAsked at asked
  split at asked
  next => cases asked
  next =>
    split at asked
    next => cases Except.ok.inj asked
    next nonempty =>
      split at asked
      next => cases asked
      next fine =>
        obtain rfl := Option.some.inj (Except.ok.inj asked)
        exact ⟨nonempty, fine⟩

/-- What the service needs before it asks for a join: a caller it takes requests from and one line of
JSON with a name and a password that are in order. -/
structure Warranted (decode : Bytes → Option Text) (owner : Option Nat) (incoming : Incoming)
    (args : JoinArgs) :
    Prop where
  caller : incoming.uid = some 0 ∨ ∃ uid, incoming.uid = some uid ∧ owner = some uid
  line : ∃ line rest members, incoming.stream = line ++ newline :: rest ∧ line.length < maxRequest ∧
    (decode line).bind Json.loads = some (.object members) ∧
    Json.get members "op".toList = .text "join".toList ∧
      Json.get members "ssid".toList = .text args.ssid
  ssid : Hotspot.validSsid args.ssid = true
  password : ∀ password, args.password = some password →
    8 ≤ password.length ∧ password.length ≤ 63 ∧ ∀ c ∈ password, 32 ≤ c.toNat ∧ c.toNat ≠ 127

/-- Whatever bytes come from whomever, root asks for a join only on a warranted request. -/
theorem serveOne_warranted (decode : Bytes → Option Text) (owner : Option Nat) (root : Root)
    (incoming : Incoming) :
    ∀ args, (serveOne decode owner root incoming).asked = some args → Warranted decode owner incoming args := by
  intro args asked
  unfold serveOne at asked
  split at asked
  next known =>
    split at asked
    next => cases asked
    next => cases asked
    next line read =>
      obtain ⟨⟨rest, whole⟩, -, few⟩ := readLine_line read (Nat.zero_le _)
      cases handled : handleRequest root.lockHeld (((decode line).bind Json.loads).getD .null) with
      | answer json =>
        rw [handled] at asked
        cases asked
      | rescan =>
        rw [handled] at asked
        cases asked
      | join found =>
        rw [handled] at asked
        obtain rfl := Option.some.inj asked
        obtain ⟨members, object, op, ssid, valid, password⟩ := handleRequest_eq_join handled
        refine ⟨?_, ⟨line, rest, members, whole, few, ?_, op, ssid⟩, valid, ?_⟩
        · obtain ⟨uid, caller, may⟩ := (Option.any_eq_true _ _).mp known
          rcases (Bool.or_eq_true _ _).mp may with root | owned
          · exact .inl (caller.trans (congrArg some (of_decide_eq_true root)))
          · exact .inr ⟨uid, caller, of_decide_eq_true owned⟩
        · cases parsed : (decode line).bind Json.loads with
          | none =>
            rw [parsed] at object
            cases object
          | some json =>
            rw [parsed] at object
            exact congrArg some object
        · intro secret given
          rw [given] at password
          obtain ⟨nonempty, fine⟩ := fine_of_passwordAsked password
          exact passphrase_of_fine nonempty fine
  next => cases asked

def siteArgs : JoinArgs := ⟨"Site".toList, some "letmein12".toList, true⟩

def siteIncoming : Incoming where
  uid := some 1000
  sizes := [7, 100]
  stream := encodedLine (fun _ => []) (joinRequest siteArgs)
  closed := false

theorem serveOne_warranted_site : Warranted latin (some 1000) siteIncoming siteArgs :=
  serveOne_warranted latin (some 1000) idleRoot siteIncoming siteArgs (by decide +kernel)

end Phone

end Wqm1.Network.JoinService
