import Wqm1.Breaker.AbleEdge

/-! What the vendor is sent: every API request under the token that its token endpoint issued
last, and no command twice. -/

set_option autoImplicit false

namespace Wqm1.Breaker.AbleEdge

open Wqm1.Library Action

section Rules

variable {client : AbleEdgeClient} {before holds : World → Prop} {Value : Type}

theorem meets_now {returns : Rat → World → Prop} {raises : Fault → World → Prop}
    (reads : ∀ world reading, before world → returns reading { world with log := world.log ++ [.tick reading] }) :
    Meets before now returns raises :=
  fun world started => reads world _ started

theorem meets_urlopen {request : Request} {returns : Http → World → Prop}
    {raises : Fault → World → Prop}
    (answers : ∀ world answer, before world →
      returns answer { world with log := world.log ++ [.sent request answer] }) :
    Meets before (urlopen request) returns raises :=
  fun world started => answers world _ started

theorem meets_ofExcept {outcome : Except Fault Value} {returns : Value → World → Prop}
    {raises : Fault → World → Prop}
    (returned : ∀ value world, outcome = .ok value → before world → returns value world)
    (raised : ∀ fault world, outcome = .error fault → before world → raises fault world) :
    Meets before (MonadExcept.ofExcept outcome) returns raises := by
  cases outcome with
  | ok value => exact meets_pure fun world started => returned value world rfl started
  | error fault => exact meets_throw fun world started => raised fault world rfl started

theorem meets_send {request : Request} {returns : Int × Json → World → Prop}
    {raises : Fault → World → Prop}
    (returned : ∀ world answer read, before world → Http.read client request answer = .ok read →
      returns read { world with log := world.log ++ [.sent request answer] })
    (raised : ∀ world answer fault, before world → Http.read client request answer = .error fault →
      raises fault { world with log := world.log ++ [.sent request answer] }) :
    Meets before (send client request) returns raises := by
  refine Meets.through (fun answer world => ∃ earlier, before earlier ∧
    world = { earlier with log := earlier.log ++ [.sent request answer] })
    (meets_urlopen fun world answer started => ⟨world, started, rfl⟩) fun answer => ?_
  refine meets_ofExcept ?_ ?_
  · rintro read _ reads ⟨world, started, rfl⟩
    exact returned world answer read started reads
  · rintro fault _ reads ⟨world, started, rfl⟩
    exact raised world answer fault started reads

theorem keeps_probe (asks : ∀ path, Keeps holds (request client .get path none)) :
    Keeps holds (probe client) := by
  refine Keeps.tryCatch (Keeps.bind (asks _) fun _ => keeps_pure _) fun fault => ?_
  cases fault with
  | vendor error => exact keeps_pure _
  | other => exact keeps_throw _

theorem keeps_getStatus {render : Json → String} {probeConnected : Bool}
    (asks : ∀ path, Keeps holds (request client .get path none)) (reads : Keeps holds now) :
    Keeps holds (getStatus client render probeConnected) := by
  refine Keeps.bind
    (asks _) fun payload => Keeps.bind ?_ fun link => Keeps.bind reads fun _ => keeps_pure _
  split
  next => exact keeps_probe asks
  next => exact keeps_pure _

theorem keeps_floated (number : Number) : Keeps holds (floated number) := by
  cases number with
  | value number => exact keeps_pure _
  | other => exact keeps_pure _
  | tooLarge => exact keeps_throw _

theorem keeps_num (json : Json) : Keeps holds (num json) := by
  unfold num
  split
  next => exact keeps_pure _
  next => exact keeps_floated _

theorem keeps_val (json : Json) : Keeps holds (val json) := by
  unfold val
  split
  next => exact keeps_num _
  next => exact keeps_num _

theorem keeps_observedAt (reads : Keeps holds now) (number : Number) :
    Keeps holds (observedAt number) := by
  cases number with
  | value number => exact keeps_pure _
  | other => exact Keeps.bind reads fun _ => keeps_pure _
  | tooLarge => exact keeps_throw _

theorem keeps_getPower (asks : ∀ path, Keeps holds (request client .get path none))
    (reads : Keeps holds now) :
    Keeps holds (getPower client) :=
  Keeps.bind (asks _) fun _ => Keeps.bind (keeps_val _) fun _ => Keeps.bind (keeps_val _) fun _ =>
    Keeps.bind (keeps_num _) fun _ => Keeps.bind (keeps_observedAt reads _) fun _ => keeps_pure _

theorem keeps_logTtl {holds : World → Prop} (ttl : Double) : Keeps holds (logTtl ttl) := by
  cases ttl with
  | finite value => exact keeps_pure _
  | infinite negative => exact keeps_throw _
  | nan => exact keeps_throw _

end Rules

section Bearer

/-- The token and its lifetime, if the token endpoint granted one. -/
def Http.granted (client : AbleEdgeClient) (answer : Http) : Option (String × Double) :=
  (answer.read client .token).toOption.bind fun read => (grant read.1 read.2).toOption

def Event.granted (client : AbleEdgeClient) : Event → Option (String × Double)
  | .sent .token answer => answer.granted client
  | .sent (.api ..) _ | .tick _ => none

/-- The token endpoint issued this token last, to be used until it expires. -/
def Issued (client : AbleEdgeClient) (log : List Event) (token : String) (expiresAt : Double)
    (later : List Event) : Prop :=
  ∃ earlier answer issuedAt ttl, log = earlier ++ .sent .token answer :: .tick issuedAt :: later ∧
    answer.granted client = some (token, ttl) ∧ expiresAt = expiry issuedAt ttl ∧
      ∀ event ∈ later, event.granted client = none

/-- The bearer token was issued last, and it is either just issued or by the clock, just read, not due. -/
def Authorized (client : AbleEdgeClient) (log : List Event) (bearer : String) : Prop :=
  ∃ expiresAt later, Issued client log bearer expiresAt later ∧
    (later = [] ∨ ∃ between reading, later = between ++ [.tick reading] ∧ expiresAt.gt reading = true)

structure Sound (client : AbleEdgeClient) (world : World) : Prop where
  cached : ∀ token, world.token = some token →
    ∃ later, Issued client world.log token world.tokenExpiresAt later
  sent : ∀ before method path body bearer answer after,
    world.log = before ++ .sent (.api method path body bearer) answer :: after →
      Authorized client before bearer

variable {client : AbleEdgeClient}

theorem Issued.append {log : List Event} {token : String} {expiresAt : Double} {later : List Event}
    {event : Event}
    (issued : Issued client log token expiresAt later) (ungranted : event.granted client = none) :
    Issued client (log ++ [event]) token expiresAt (later ++ [event]) := by
  obtain ⟨earlier, answer, issuedAt, ttl, rfl, granted, due, quiet⟩ := issued
  refine ⟨earlier, answer, issuedAt, ttl, by simp, granted, due, fun other member => ?_⟩
  rcases List.mem_append.mp member with old | new
  · exact quiet other old
  · exact List.mem_singleton.mp new ▸ ungranted

/-- What is sent was authorized, also when the log grows by an authorized event. -/
theorem sent_append {log : List Event} (event : Event)
    (sent : ∀ before method path body bearer answer after,
      log = before ++ .sent (.api method path body bearer) answer :: after →
        Authorized client before bearer)
    (fits : ∀ method path body bearer answer, event = .sent (.api method path body bearer) answer →
      Authorized client log bearer)
    (before : List Event) (method : Method) (path : String) (body : Option Command) (bearer : String) (answer : Http)
    (after : List Event)
    (split : log ++ [event] = before ++ .sent (.api method path body bearer) answer :: after) :
    Authorized client before bearer := by
  rcases List.eq_nil_or_concat after with rfl | ⟨rest, last, rfl⟩
  · obtain ⟨rfl, same⟩ := List.append_inj' split rfl
    exact fits method path body bearer answer (List.cons.inj same).1
  · have shorter : log ++ [event] = (before ++ .sent (.api method path body bearer) answer :: rest) ++ [last] := by
      simpa using split
    exact sent before method path body bearer answer rest (List.append_inj' shorter rfl).1

theorem Sound.append {world : World} {event : Event} (sound : Sound client world)
    (ungranted : event.granted client = none)
    (fits : ∀ method path body bearer answer, event = .sent (.api method path body bearer) answer →
      Authorized client world.log bearer) :
    Sound client { world with log := world.log ++ [event] } where
  cached token held :=
    let ⟨later, issued⟩ := sound.cached token held
    ⟨later ++ [event], issued.append ungranted⟩
  sent := sent_append event sound.sent fits

theorem Sound.tick {world : World} (sound : Sound client world) (reading : Rat) :
    Sound client { world with log := world.log ++ [.tick reading] } :=
  sound.append rfl fun _ _ _ _ _ same => by cases same

theorem sound_now : Keeps (Sound client) now :=
  meets_now fun _ reading sound => sound.tick reading

/-- A token that was not granted changes nothing. -/
theorem Sound.ungranted {world : World} {answer : Http} (sound : Sound client world)
    (refused : answer.granted client = none) :
    Sound client { world with log := world.log ++ [.sent .token answer] } :=
  sound.append refused fun _ _ _ _ _ same => by cases same

/-- After a token was kept it is the last one that was issued. -/
theorem meets_authenticate :
    Meets (Sound client) (authenticate client)
      (fun _ world => Sound client world ∧ ∀ token, world.token = some token → Authorized client world.log token)
      fun _ => Sound client := by
  let asked (answer : Http) (world : World) : Prop :=
    ∃ earlier, Sound client earlier ∧
      world = { earlier with log := earlier.log ++ [.sent .token answer] }
  refine Meets.through
    (fun read world => ∃ answer, answer.read client .token = .ok read ∧ asked answer world)
    (meets_send ?_ ?_) fun read => ?_
  · exact fun world answer read sound reads => ⟨answer, reads, world, sound, rfl⟩
  · intro world answer fault sound reads
    exact sound.ungranted (by simp [Http.granted, reads, Except.toOption])
  refine Meets.through
    (fun granted world => ∃ answer, answer.granted client = some granted ∧ asked answer world)
    (meets_ofExcept ?_ ?_) fun granted => ?_
  · rintro granted world grants ⟨answer, reads, asked⟩
    exact ⟨answer, by simp [Http.granted, reads, grants, Except.toOption], asked⟩
  · rintro fault _ grants ⟨answer, reads, earlier, sound, rfl⟩
    exact sound.ungranted (by simp [Http.granted, reads, grants, Except.toOption])
  let kept (world : World) : Prop :=
    Sound client world ∧ ∀ token, world.token = some token → Authorized client world.log token
  let timed (reading : Rat) (world : World) : Prop :=
    ∃ answer earlier, answer.granted client = some granted ∧
    Sound client earlier ∧
      world = { earlier with log := earlier.log ++ [.sent .token answer] ++ [.tick reading] }
  have keeps (reading : Rat) :
      Meets (timed reading) (keepToken granted.1 (expiry reading granted.2))
        (fun _ => kept) fun _ => Sound client := by
    rintro _ ⟨answer, earlier, grants, sound, rfl⟩
    have issued : Issued client (earlier.log ++ [.sent .token answer] ++ [.tick reading]) granted.1
        (expiry reading granted.2) [] :=
      ⟨earlier.log, answer, reading, granted.2, by simp, grants, rfl, fun _ absent => by cases absent⟩
    have asking := sent_append (.sent .token answer) sound.sent fun _ _ _ _ _ same => by cases same
    have sent := sent_append (.tick reading) asking fun _ _ _ _ _ same => by cases same
    refine ⟨⟨fun token held => ⟨[], Option.some.inj held ▸ issued⟩, sent⟩, fun token held => ?_⟩
    exact Option.some.inj held ▸ ⟨_, [], issued, .inl rfl⟩
  refine Meets.through timed (meets_now ?_) fun reading => Meets.bind (keeps reading) fun _ => ?_
  · rintro _ reading ⟨answer, grants, earlier, sound, rfl⟩
    exact ⟨answer, earlier, grants, sound, rfl⟩
  · exact (keeps_logTtl granted.2).weaken (fun _ now => now)
      (fun _ _ now => now) fun _ _ now => now.1

theorem meets_renewToken (held : Option String) :
    Meets (fun world => Sound client world ∧ world.token = held) (renewToken client held)
      (fun _ world => Sound client world ∧ ∀ token, world.token = some token → Authorized client world.log token)
      fun _ => Sound client := by
  cases held with
  | none => exact meets_authenticate.weaken (fun _ now => now.1) (fun _ _ now => now) fun _ _ now => now
  | some token =>
    refine Meets.through (fun reading world => Sound client world ∧ world.token = some token ∧
      ∃ later, Issued client world.log token world.tokenExpiresAt (later ++ [.tick reading])) (meets_now ?_)
      fun reading => ?_
    · rintro world reading ⟨sound, held⟩
      obtain ⟨later, issued⟩ := sound.cached token held
      exact ⟨sound.tick reading, held, later, issued.append rfl⟩
    refine Meets.through (fun expiresAt world => Sound client world ∧ world.token = some token ∧
      ∃ later, Issued client world.log token expiresAt (later ++ [.tick reading])) (meets_view fun _ now => now)
      fun expiresAt => ?_
    split
    next live =>
      refine meets_pure ?_
      rintro world ⟨sound, held, later, issued⟩
      refine ⟨sound, fun other same => ?_⟩
      cases Option.some.inj (held.symm.trans same)
      exact ⟨expiresAt, _, issued, .inr ⟨later, reading, rfl, live⟩⟩
    next => exact meets_authenticate.weaken (fun _ now => now.1) (fun _ _ now => now) fun _ _ now => now

theorem meets_ensureToken :
    Meets (Sound client) (ensureToken client)
      (fun token world => Sound client world ∧ Authorized client world.log token) fun _ => Sound client := by
  refine Meets.through (fun held world => Sound client world ∧ world.token = held)
    (meets_view fun world sound => ⟨sound, rfl⟩) fun held => ?_
  refine Meets.bind (meets_renewToken held) fun _ => ?_
  refine Meets.through (fun held world => Sound client world ∧
    ∀ token, held = some token →
      Authorized client world.log token) (meets_view fun _ now => now) fun held => ?_
  cases held with
  | some token => exact meets_pure fun world now => ⟨now.1, now.2 token rfl⟩
  | none => exact meets_throw fun world now => now.1

theorem sound_attempt (method : Method) (path : String) (body : Option Command) :
    Keeps (Sound client) (attempt client method path body) := by
  refine Meets.bind meets_ensureToken fun token => ?_
  have sending (world : World) (answer : Http)
      (now : Sound client world ∧ Authorized client world.log token) :
      Sound client { world with log := world.log ++ [.sent (.api method path body token) answer] } := by
    refine now.1.append rfl fun _ _ _ _ _ same => ?_
    cases same
    exact now.2
  exact meets_send
    (fun world answer _ now _ => sending world answer now) fun world answer _ now _ =>
    sending world answer now

theorem sound_forgetToken : Keeps (Sound client) forgetToken :=
  fun _ sound => ⟨fun _ held => (Option.some_ne_none _ held.symm).elim, sound.sent⟩

theorem sound_request (method : Method) (path : String) (body : Option Command) :
    Keeps (Sound client) (request client method path body) := by
  unfold request
  split
  next => exact keeps_throw _
  next =>
    refine Keeps.bind (sound_attempt method path body) fun first => Keeps.bind ?_ fun last => ?_
    · unfold retried
      split
      next => exact Keeps.bind sound_forgetToken fun _ => sound_attempt method path body
      next => exact keeps_pure _
    · exact meets_ofExcept (fun _ _ _ sound => sound) fun _ _ _ sound => sound

theorem sound_perform {render : Json → String} {operation : Operation} {world : World}
    (sound : Sound client world) :
    Sound client (perform client render operation world).2 := by
  have asks (path : String) : Keeps (Sound client) (request client .get path none) :=
    sound_request .get path none
  cases operation with
  | authenticate =>
    have keeps : Keeps (Sound client) (authenticate client) :=
      meets_authenticate.weaken (fun _ now => now) (fun _ _ now => now.1) fun _ _ now => now
    exact keeps.final sound
  | getStatus probeConnected => exact (keeps_getStatus asks sound_now).final sound
  | setCircuit on reason =>
    have keeps : Keeps (Sound client) (setCircuit client on reason) :=
      Keeps.bind (sound_request .post _ _) fun _ => keeps_pure _
    exact keeps.final sound
  | getPower => exact (keeps_getPower asks sound_now).final sound

theorem sound_run {render : Json → String} {operations : List Operation} {world : World}
    (sound : Sound client world) : Sound client (run client render operations world).2 := by
  induction operations generalizing world with
  | nil => exact sound
  | cons operation rest ih => exact ih (sound_perform sound)

/-- A client that was just built. -/
def World.fresh (clock : Nat → Rat) (answers : Nat → Http) : World :=
  { clock := clock, answers := answers }

/-- Every API request is sent under the token that the endpoint issued last, and that is not due. -/
theorem every_request_authorized (render : Json → String) (operations : List Operation)
    (clock : Nat → Rat)
    (answers : Nat → Http) (before after : List Event) (method : Method) (path : String) (body : Option Command)
    (bearer : String) (answer : Http)
    (sent : (run client render operations (.fresh clock answers)).2.log =
      before ++ .sent (.api method path body bearer) answer :: after) : Authorized client before bearer := by
  have fresh : Sound client (.fresh clock answers) := {
    cached _ held := (Option.some_ne_none _ held.symm).elim
    sent _ _ _ _ _ _ _ split :=
      (List.append_ne_nil_of_right_ne_nil _ (List.cons_ne_nil _ _) split.symm).elim }
  exact (sound_run fresh).sent before method path body bearer answer after sent

/-- A vendor that grants a token for an hour and takes every command. -/
def granting : Nat → Http
  | 0 => .answer 200 (.json (.object [("access_token".toList, .text "tok-1".toList), ("expires_in".toList, .integer 3600)]))
  | _ => .answer 204 .empty

def boundClient : AbleEdgeClient where
  deviceId := "f4628c73"

def Event.request : Event → Option Request
  | .sent request _ => some request
  | .tick _ => none

theorem split_of_request {log : List Event} {place : Nat} {request : Request}
    (asked : log[place]?.bind Event.request = some request) :
    ∃ answer, log = log.take place ++ .sent request answer :: log.drop (place + 1) := by
  obtain ⟨event, found, same⟩ := Option.bind_eq_some_iff.mp asked
  obtain ⟨bound, rfl⟩ := List.getElem?_eq_some_iff.mp found
  cases event : log[place] with
  | tick reading =>
    rw [event] at same
    cases same
  | sent asked answer =>
    rw [event] at same
    obtain rfl := Option.some.inj same
    refine ⟨answer, ?_⟩
    rw [← event, ← List.drop_eq_getElem_cons bound]
    exact (List.take_append_drop place log).symm

/-- The second command of a run still goes out under the token of the first. -/
theorem every_request_authorized_second : ∃ before : List Event, before.length = 4 ∧
    Authorized boundClient before "tok-1" := by
  have asked : (run boundClient (fun _ => "") [.setCircuit true "dusk", .setCircuit false "dawn"]
      (.fresh (fun step => 100 * step) granting)).2.log[4]?.bind Event.request =
        some (.api .post (positionPath boundClient) (some (command false "dawn")) "tok-1") := by
    decide +kernel
  obtain ⟨answer, split⟩ := split_of_request asked
  exact ⟨_, by decide +kernel, every_request_authorized _ _ _ _ _ _ _ _ _ _ _ split⟩

end Bearer

section Commands

/-- A command to the breaker's handle, and what came of it. -/
def Event.posted (client : AbleEdgeClient) : Event → Option (Command × Except Fault (Int × Json))
  | .sent (.api method path (some command) bearer) answer =>
    some (command, answer.read client (.api method path (some command) bearer))
  | .sent (.api _ _ none _) _ | .sent .token _ | .tick _ => none

def posts (client : AbleEdgeClient) (log : List Event) :
    List (Command × Except Fault (Int × Json)) :=
  log.filterMap (Event.posted client)

/-- The vendor took the command. -/
def accepted (post : Command × Except Fault (Int × Json)) : Bool :=
  match post.2 with
  | .ok (status, _) => 200 ≤ status && status < 300
  | .error _ => false

def unauthorized (post : Command × Except Fault (Int × Json)) : Bool :=
  match post.2 with
  | .ok (status, _) => status = 401
  | .error _ => false

def Operation.command : Operation → Option Command
  | .setCircuit on reason => some (AbleEdge.command on reason)
  | .authenticate | .getStatus _ | .getPower => none

/-- What the vendor was sent of one command: at most two requests, of which the first of two was refused as
unauthorized; it took one just in case the request returned. -/
structure Delivers (command : Option Command) (returned : Bool)
    (sent : List (Command × Except Fault (Int × Json))) : Prop where
  few : sent.length ≤ 2
  same : ∀ post ∈ sent, command = some post.1
  repeated : ∀ post ∈ sent.dropLast, unauthorized post = true
  counted : sent.countP accepted = if returned && command.isSome then 1 else 0

variable {client : AbleEdgeClient}

theorem posts_append (log : List Event) (event : Event) :
    posts client (log ++ [event]) = posts client log ++ (event.posted client).toList := by
  simp only [posts, List.filterMap_append, List.filterMap_cons, List.filterMap_nil]
  cases event.posted client <;> rfl

theorem delivers_nil {command : Option Command} {returned : Bool}
    (idle : (returned && command.isSome) = false) :
    Delivers command returned [] where
  few := Nat.zero_le 2
  same _ absent := by cases absent
  repeated _ absent := by cases absent
  counted := by simp [idle]

theorem Delivers.single {command : Command} {read : Except Fault (Int × Json)} {returned : Bool}
    (taken : accepted (command, read) = returned) : Delivers (some command) returned [(command, read)] where
  few := by simp
  same := by simp
  repeated := by simp
  counted := by simp [List.countP_cons, taken]

theorem Delivers.twice {command : Command} {first : Int × Json} {read : Except Fault (Int × Json)}
    {returned : Bool}
    (refused : first.1 = 401) (taken : accepted (command, read) = returned) :
    Delivers (some command) returned [(command, .ok first), (command, read)] where
  few := by simp
  same := by simp
  repeated := by simp [unauthorized, refused]
  counted := by
    have untaken : accepted (command, .ok first) = false := by simp [accepted, refused]
    simp [List.countP_cons, taken, untaken]

/-- What the vendor took is the command, where it returned. -/
theorem Delivers.taken {command : Option Command} {returned : Bool}
    {sent : List (Command × Except Fault (Int × Json))} (delivers : Delivers command returned sent) :
    (sent.filter accepted).map Prod.fst = (if returned then command else none).toList := by
  have counted := delivers.counted
  rw [List.countP_eq_length_filter] at counted
  cases command with
  | none =>
    have none : sent = [] :=
      List.eq_nil_iff_forall_not_mem.mpr fun post member => Option.some_ne_none _ (delivers.same post member).symm
    subst none
    cases returned <;> rfl
  | some command =>
    cases returned with
    | false =>
      rw [List.length_eq_zero_iff.mp counted]
      rfl
    | true =>
      obtain ⟨post, single⟩ := List.length_eq_one_iff.mp counted
      have member : post ∈ sent.filter accepted := single ▸ List.mem_singleton_self post
      rw [single, Option.some.inj (delivers.same post (List.mem_filter.mp member).1)]
      rfl

/-- The commands that were sent are these. -/
def Sent (client : AbleEdgeClient)
    (sent : List (Command × Except Fault (Int × Json))) (world : World) : Prop :=
  posts client world.log = sent

section Quiet

variable {sent : List (Command × Except Fault (Int × Json))}

theorem Sent.quiet {world : World} {event : Event} (now : Sent client sent world)
    (quiet : event.posted client = none) :
    Sent client sent { world with log := world.log ++ [event] } := by
  unfold Sent
  rw [posts_append, quiet, now]
  exact List.append_nil sent

theorem sent_now : Keeps (Sent client sent) now :=
  meets_now fun _ _ now => now.quiet rfl

theorem sent_send {request : Request}
    (quiet : ∀ answer, (Event.sent request answer).posted client = none) :
    Keeps (Sent client sent) (send client request) :=
  meets_send (fun _ answer _ now _ => now.quiet (quiet answer)) fun _ answer _ now _ => now.quiet (quiet answer)

theorem sent_authenticate : Keeps (Sent client sent) (authenticate client) := by
  refine Keeps.bind (sent_send fun _ => rfl) fun read => Keeps.bind ?_ fun granted => ?_
  · exact meets_ofExcept (fun _ _ _ now => now) fun _ _ _ now => now
  · exact Keeps.bind sent_now fun _ => Keeps.bind (fun _ now => now) fun _ => keeps_logTtl _

theorem sent_renewToken (held : Option String) :
    Keeps (Sent client sent) (renewToken client held) := by
  cases held with
  | none => exact sent_authenticate
  | some token =>
    refine Keeps.bind sent_now fun reading => Keeps.bind (keeps_view _) fun expiresAt => ?_
    split
    next => exact keeps_pure _
    next => exact sent_authenticate

theorem sent_ensureToken : Keeps (Sent client sent) (ensureToken client) := by
  refine Keeps.bind (keeps_view _) fun held => Keeps.bind (sent_renewToken held) fun _ =>
    Keeps.bind (keeps_view _) fun held => ?_
  cases held with
  | some token => exact keeps_pure _
  | none => exact keeps_throw _

theorem sent_get (path : String) : Keeps (Sent client sent) (request client .get path none) := by
  have attempts : Keeps (Sent client sent) (attempt client .get path none) :=
    Keeps.bind sent_ensureToken fun _ => sent_send fun _ => rfl
  unfold request
  split
  next => exact keeps_throw _
  next =>
    refine Keeps.bind attempts fun first => Keeps.bind ?_ fun last => ?_
    · unfold retried
      split
      next => exact Keeps.bind (fun _ now => now) fun _ => attempts
      next => exact keeps_pure _
    · exact meets_ofExcept (fun _ _ _ now => now) fun _ _ _ now => now

end Quiet

section Post

variable {sent : List (Command × Except Fault (Int × Json))} {path : String} {command : Command}

theorem meets_attempt :
    Meets (Sent client sent) (attempt client .post path (some command))
      (fun read => Sent client (sent ++ [(command, .ok read)]))
      fun fault world => Sent client sent world ∨
        Sent client (sent ++ [(command, .error fault)]) world := by
  refine Meets.through (fun _ => Sent client sent)
    (sent_ensureToken.weaken (fun _ now => now) (fun _ _ now => now) fun _ _ now => .inl now) fun token => ?_
  refine meets_send
    (fun world answer read now reads => ?_) fun world answer fault now reads => .inr ?_
  · unfold Sent
    rw [posts_append, now, Event.posted, reads]
    rfl
  · unfold Sent
    rw [posts_append, now, Event.posted, reads]
    rfl

theorem accepted_check {status : Int} {payload : Json} :
    accepted (command, .ok (status, payload)) = (check .post path status payload).toBool := by
  unfold check
  split
  next success => simpa [accepted, Except.toBool] using success
  next failure => simpa [accepted, Except.toBool] using failure

/-- What a request has sent when it ends. -/
def Ended (client : AbleEdgeClient) (command : Command)
    (sent : List (Command × Except Fault (Int × Json)))
    (returned : Bool) (world : World) : Prop :=
  ∃ added, Sent client (sent ++ added) world ∧ Delivers (some command) returned added

theorem meets_post :
    Meets (Sent client sent) (request client .post path (some command))
      (fun _ => Ended client command sent true) fun _ => Ended client command sent false := by
  unfold request
  split
  next => exact meets_throw fun _ now => ⟨[], (List.append_nil sent).symm ▸ now, delivers_nil rfl⟩
  next =>
    refine Meets.through (fun first => Sent client (sent ++ [(command, .ok first)])) ?_ fun first => ?_
    · refine meets_attempt.weaken (fun _ now => now) (fun _ _ now => now) ?_
      rintro fault world (none | once)
      · exact ⟨[], (List.append_nil sent).symm ▸ none, delivers_nil rfl⟩
      · exact ⟨_, once, .single rfl⟩
    refine Meets.through (fun last world => ∃ added, Sent client (sent ++ added) world ∧
      ∀ returned, accepted (command, .ok last) = returned →
        Delivers (some command) returned added) ?_
      fun last => ?_
    · unfold retried
      split
      next refused =>
        have forgets : Meets (Sent client (sent ++ [(command, Except.ok first)])) forgetToken
            (fun _ => Sent client (sent ++ [(command, Except.ok first)])) fun _ => Ended client command sent false :=
          fun _ now => now
        refine forgets.bind fun _ => meets_attempt.weaken (fun _ now => now) ?_ ?_
        · exact fun last world twice => ⟨_, by simpa using twice, fun _ taken => .twice refused taken⟩
        · rintro fault world (once | twice)
          · exact ⟨_, once, .single (by simp [accepted, refused])⟩
          · exact ⟨_, by simpa using twice, .twice refused rfl⟩
      next => exact meets_pure fun world once => ⟨_, once, fun _ taken => .single taken⟩
    · obtain ⟨status, payload⟩ := last
      refine meets_ofExcept ?_ ?_
      · rintro value world checked ⟨added, now, delivers⟩
        exact ⟨added, now, delivers true (by rw [accepted_check, checked]; rfl)⟩
      · rintro fault world checked ⟨added, now, delivers⟩
        exact ⟨added, now, delivers false (by rw [accepted_check, checked]; rfl)⟩

end Post

section Run

variable {render : Json → String}

theorem perform_delivers (client : AbleEdgeClient) (render : Json → String) (operation : Operation)
    (world : World) :
    ∃ sent, posts client (perform client render operation world).2.log = posts client world.log ++ sent ∧
      Delivers operation.command (perform client render operation world).1 sent := by
  have silent {Value : Type} {action : Client Value}
      (keeps : Keeps (Sent client (posts client world.log)) action)
      (returned : Bool) : ∃ sent, posts client (action.outcome world).2.log = posts client world.log ++ sent ∧
        Delivers none returned sent :=
    ⟨[], (keeps.final rfl).trans (List.append_nil _).symm, delivers_nil (Bool.and_false returned)⟩
  cases operation with
  | authenticate => exact silent sent_authenticate _
  | getStatus probeConnected => exact silent (keeps_getStatus sent_get sent_now) _
  | getPower => exact silent (keeps_getPower sent_get sent_now) _
  | setCircuit on reason =>
    let sent := posts client world.log
    have meets : Meets (Sent client sent) (setCircuit client on reason)
        (fun _ => Ended client (command on reason) sent true) fun _ => Ended client (command on reason) sent false :=
      Meets.bind meets_post fun _ => meets_pure fun _ ended => ended
    have met := meets world rfl
    let ended := (setCircuit client on reason).outcome world
    change ∃ added, posts client (perform.finished ended).2.log = sent ++ added ∧
      Delivers (some (command on reason)) (perform.finished ended).1 added
    dsimp only [ended]
    cases outcome : (setCircuit client on reason).outcome world with
    | mk result final =>
      rw [outcome] at met
      cases result with
      | ok value => exact met
      | error fault => exact met

/-- In every run each command goes out at most twice, the second time only after a refusal as unauthorized, and
the vendor takes a command exactly once for each one that returns, and never for one that fails. -/
theorem commands_once (render : Json → String) (operations : List Operation) (world : World) :
    ∃ sent : List (List (Command × Except Fault (Int × Json))),
      posts client (run client render operations world).2.log = posts client world.log ++ sent.flatten ∧
        List.Forall₂ (fun outcome => Delivers outcome.1.command outcome.2)
          (run client render operations world).1 sent ∧
          (sent.flatten.filter accepted).map Prod.fst =
            ((run client render operations world).1.filter Prod.snd).filterMap fun outcome => outcome.1.command := by
  induction operations generalizing world with
  | nil => exact ⟨[], (List.append_nil _).symm, .nil, rfl⟩
  | cons operation rest ih =>
    obtain ⟨first, grown, delivers⟩ := perform_delivers client render operation world
    obtain ⟨others, growing, delivering, taken⟩ := ih (perform client render operation world).2
    refine ⟨first :: others, ?_, .cons delivers delivering, ?_⟩
    · rw [List.flatten_cons, ← List.append_assoc, ← grown]
      exact growing
    · rw [List.flatten_cons, List.filter_append, List.map_append, taken, delivers.taken]
      simp only [run, List.filter_cons]
      cases (perform client render operation world).1 with
      | false => rfl
      | true =>
        simp only [↓reduceIte, List.filterMap_cons]
        cases operation.command <;> rfl

end Run

end Commands

end Wqm1.Breaker.AbleEdge
