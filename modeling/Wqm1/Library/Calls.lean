import Wqm1.Library.Prog
import Mathlib.Logic.IsEmpty.Basic

/-! Programs that nothing disturbs: caught exceptions, what one run ends with, and
programs whose calls are all of one kind. -/

set_option autoImplicit false

namespace Wqm1.Library.Prog

variable {σ C : Type} {A : C → Type} {Job Effect : Type} {α β : Type}

/-- `try: body except: none`. -/
def caught : Prog σ A α → Prog σ A (Option α)
  | done value => done (some value)
  | raise => done none
  | get next => get fun memory => (next memory).caught
  | put memory next => put memory next.caught
  | call request next => call request fun answer => (next answer).caught

/-- The value, or an exception. -/
def orRaise : Option α → Prog σ A α
  | some value => done value
  | none => raise

/-- All calls are of a kind, and the program itself writes nothing. -/
def Only (allowed : C → Prop) : Prog σ A α → Prop
  | done _ => True
  | raise => True
  | get next => ∀ memory, (next memory).Only allowed
  | put _ _ => False
  | call request next => allowed request ∧ ∀ answer, (next answer).Only allowed

/-- How a run ends that starts in a memory; the result `none` is an exception. -/
inductive Ends (system : System σ A Job Effect) : Prog σ A α → σ → Option α → σ → Prop where
  | done (value : α) (memory : σ) : Ends system (done value) memory (some value) memory
  | raise (memory : σ) : Ends system raise memory none memory
  | get {next : σ → Prog σ A α} {memory final : σ} {result : Option α}
      (rest : Ends system (next memory) memory result final) : Ends system (get next) memory result final
  | put {next : Prog σ A α} {memory written final : σ} {result : Option α}
      (rest : Ends system next written result final) : Ends system (put written next) memory result final
  | call {request : C} {next : Option (A request) → Prog σ A α} {memory final : σ} {result : Option α}
      (answer : Option (A request)) (possible : system.answers request memory answer = true)
      (rest : Ends system (next answer) (system.perform request answer memory) result final) :
      Ends system (call request next) memory result final

/-- The run in which every request gets the answer of an oracle, if these answers are
possible. -/
def follow (system : System σ A Job Effect) (oracle : (request : C) → Option (A request)) :
    Prog σ A α → σ → Option (Option α × σ)
  | done value, memory => some (some value, memory)
  | raise, memory => some (none, memory)
  | get next, memory => (next memory).follow system oracle memory
  | put written next, _ => next.follow system oracle written
  | call request next, memory =>
    if system.answers request memory (oracle request) then
      (next (oracle request)).follow system oracle (system.perform request (oracle request) memory)
    else none

variable {system : System σ A Job Effect} {holds : σ → Prop} {after : Option α → σ → Prop} {memory final : σ}
  {allowed : C → Prop}

theorem ends_follow {oracle : (request : C) → Option (A request)} {program : Prog σ A α}
    {result : Option α}
    (followed : program.follow system oracle memory = some (result, final)) :
    Ends system program memory result final := by
  induction program generalizing memory with
  | done value =>
    cases followed
    exact .done ..
  | raise =>
    cases followed
    exact .raise ..
  | get next ih => exact .get (ih memory followed)
  | put written next ih => exact .put (ih followed)
  | call request next ih =>
    unfold follow at followed
    split at followed
    next possible => exact .call _ possible (ih _ followed)
    next => cases followed

theorem Safe.after_ends {program : Prog σ A α} {result : Option α}
    (safe : program.Safe system holds after memory)
    (ended : Ends system program memory result final) : after result final := by
  induction ended with
  | done value memory => exact safe
  | raise memory => exact safe
  | get rest ih => exact ih safe
  | put rest ih => exact ih safe
  | call answer possible rest ih => exact ih ((safe _ .refl).2 answer possible)

theorem safe_caught {program : Prog σ A α} {after : Option (Option α) → σ → Prop} :
    program.caught.Safe system holds after memory ↔
      program.Safe system holds (fun result memory => after (some result) memory) memory := by
  induction program generalizing memory with
  | done value => exact Iff.rfl
  | raise => exact Iff.rfl
  | get next ih => exact ih memory
  | put written next ih => exact ih
  | call request next ih =>
    simp only [caught, Safe]
    exact forall₂_congr fun seen _ =>
      and_congr_right fun _ => forall₂_congr fun answer _ => ih answer

theorem Safe.caughtThen {program : Prog σ A α} {next : Option α → Prog σ A β}
    {after : Option β → σ → Prop}
    (normal : α → σ → Prop) (raised : σ → Prop) (first : program.Safe system holds (ends normal raised) memory)
    (returns : ∀ value memory, normal value memory → (next (some value)).Safe system holds after memory)
    (raises : ∀ memory, raised memory → (next none).Safe system holds after memory) :
    (program.caught >>= next).Safe system holds after memory := by
  refine safe_monad_bind.mpr (safe_caught.mpr (first.mono fun result memory reached => ?_))
  cases result with
  | none => exact raises memory reached
  | some value => exact returns value memory reached

/-- A program that does not raise, and what follows. -/
theorem Safe.returnsThen {program : Prog σ A α} {next : α → Prog σ A β}
    {after : Option β → σ → Prop}
    (normal : α → σ → Prop) (first : program.Safe system holds (ends normal fun _ => False) memory)
    (rest : ∀ value memory, normal value memory → (next value).Safe system holds after memory) :
    (program >>= next).Safe system holds after memory := by
  refine Safe.bind normal (first.mono fun result memory reached => ?_) rest
  cases result with
  | none => exact reached.elim
  | some value => exact reached

theorem safe_ends {program : Prog σ A α} {stable : σ → Prop} :
    program.Safe system holds (ends (fun _ => stable) stable) memory ↔
      program.Safe system holds (fun _ => stable) memory :=
  safe_congr fun result _ => by cases result <;> exact Iff.rfl

/-- Where nothing disturbs, a memory stays while a call is answered. -/
theorem eq_of_disturbed [IsEmpty Effect] {seen : σ} (disturbed : system.Disturbed memory seen) :
    seen = memory := by
  induction disturbed with
  | refl => rfl
  | tail _ changed => exact isEmptyElim changed.choose

theorem safe_call [IsEmpty Effect] {request : C} {next : Option (A request) → Prog σ A α}
    (now : holds memory)
    (answered : ∀ answer, system.answers request memory answer = true →
      (next answer).Safe system holds after (system.perform request answer memory)) :
    (call request next).Safe system holds after memory := by
  intro seen disturbed
  cases eq_of_disturbed disturbed
  exact ⟨now, answered⟩

theorem Safe.invokeThen [IsEmpty Effect] {request : C} {next : A request → Prog σ A α}
    (now : holds memory)
    (answered : ∀ answer, system.answers request memory (some answer) = true →
      (next answer).Safe system holds after (system.perform request (some answer) memory))
    (raised : system.answers request memory none = true → after none (system.perform request none memory)) :
    (invoke request >>= next).Safe system holds after memory := by
  apply safe_call now
  intro answer possible
  cases answer with
  | none => exact raised possible
  | some value => exact answered value possible

theorem safe_invokeLast [IsEmpty Effect] {request : C} {normal : A request → σ → Prop}
    {raised : σ → Prop}
    (now : holds memory)
    (answered : ∀ answer, system.answers request memory (some answer) = true →
      normal answer (system.perform request (some answer) memory))
    (failed : system.answers request memory none = true → raised (system.perform request none memory)) :
    (invoke request).Safe system holds (ends normal raised) memory := by
  apply safe_call now
  intro answer possible
  cases answer with
  | none => exact failed possible
  | some value => exact answered value possible

theorem Safe.attemptThen [IsEmpty Effect] {request : C} {next : Option (A request) → Prog σ A α}
    (now : holds memory)
    (answered : ∀ answer, system.answers request memory answer = true →
      (next answer).Safe system holds after (system.perform request answer memory)) :
    (attempt request >>= next).Safe system holds after memory :=
  safe_call now answered

theorem safe_trivial [IsEmpty Effect] (program : Prog σ A α) (memory : σ) :
    program.Safe system (fun _ => True) (fun _ _ => True) memory := by
  induction program generalizing memory with
  | done value => trivial
  | raise => trivial
  | get next ih => exact ih memory memory
  | put written next ih => exact ih written
  | call request next ih => exact safe_call trivial fun answer _ => ih answer _

/-- A part of a program of which nothing need be known. -/
theorem Safe.ignoring [IsEmpty Effect] {program : Prog σ A α} {next : α → Prog σ A β}
    {after : Option β → σ → Prop}
    (raised : ∀ memory, after none memory)
    (rest : ∀ value memory, (next value).Safe system (fun _ => True) after memory) :
    (program >>= next).Safe system (fun _ => True) after memory := by
  refine Safe.bind (fun _ _ => True)
    ((safe_trivial program memory).mono fun result memory _ => ?_) ?_
  · cases result with
    | none => exact raised memory
    | some value => trivial
  · exact fun value memory _ => rest value memory

/-- What every call of a kind keeps is kept by a program of such calls. -/
theorem Only.safe [IsEmpty Effect] {program : Prog σ A α} {stable : σ → Prop}
    (only : program.Only allowed)
    (now : stable memory) (holding : ∀ memory, stable memory → holds memory)
    (keeps : ∀ request memory answer, allowed request → stable memory → system.answers request memory answer = true →
      stable (system.perform request answer memory)) :
    program.Safe system holds (fun _ memory => stable memory) memory := by
  induction program generalizing memory with
  | done value => exact now
  | raise => exact now
  | get next ih => exact ih memory (only memory) now
  | put written next => exact only.elim
  | call request next ih =>
    exact safe_call (holding memory now) fun answer possible =>
      ih answer (only.2 answer) (keeps request memory answer only.1 now possible)

theorem Only.mono {program : Prog σ A α} {wider : C → Prop} (only : program.Only allowed)
    (widen : ∀ request, allowed request → wider request) : program.Only wider := by
  induction program with
  | done value => trivial
  | raise => trivial
  | get next ih => exact fun memory => ih memory (only memory)
  | put written next => exact only.elim
  | call request next ih => exact ⟨widen request only.1, fun answer => ih answer (only.2 answer)⟩

theorem Only.bind {program : Prog σ A α} {next : α → Prog σ A β} (first : program.Only allowed)
    (rest : ∀ value, (next value).Only allowed) : (program >>= next).Only allowed := by
  change (program.bind next).Only allowed
  induction program with
  | done value => exact rest value
  | raise => trivial
  | get inner ih => exact fun memory => ih memory (first memory)
  | put written inner => exact first.elim
  | call request inner ih => exact ⟨first.1, fun answer => ih answer (first.2 answer)⟩

theorem Only.ite {condition : Prop} [Decidable condition] {first second : Prog σ A α}
    (left : first.Only allowed)
    (right : second.Only allowed) : (if condition then first else second).Only allowed := by
  split
  next => exact left
  next => exact right

theorem Only.caught {program : Prog σ A α} (only : program.Only allowed) :
    program.caught.Only allowed := by
  induction program with
  | done value => trivial
  | raise => trivial
  | get next ih => exact fun memory => ih memory (only memory)
  | put written next => exact only.elim
  | call request next ih => exact ⟨only.1, fun answer => ih answer (only.2 answer)⟩

theorem only_invoke {request : C} (fits : allowed request) :
    (invoke request : Prog σ A (A request)).Only allowed := by
  refine ⟨fits, fun answer => ?_⟩
  cases answer <;> trivial

theorem only_attempt {request : C} (fits : allowed request) :
    (attempt request : Prog σ A (Option (A request))).Only allowed :=
  ⟨fits, fun _ => trivial⟩

theorem only_orRaise (value : Option α) : (orRaise value : Prog σ A α).Only allowed := by
  cases value <;> trivial

theorem Ends.bind {program : Prog σ A α} {next : α → Prog σ A β} {value : α} {middle : σ}
    {result : Option β}
    (first : Ends system program memory (some value) middle)
    (rest : Ends system (next value) middle result final) :
    Ends system (program >>= next) memory result final := by
  change Ends system (program.bind next) memory result final
  generalize returned : some value = ended at first
  induction first with
  | done value memory =>
    cases returned
    exact rest
  | raise memory => cases returned
  | get inner ih => exact .get (ih rest returned)
  | put inner ih => exact .put (ih rest returned)
  | call answer possible inner ih => exact .call answer possible (ih rest returned)

theorem Ends.raises {program : Prog σ A α} {next : α → Prog σ A β}
    (first : Ends system program memory none final) :
    Ends system (program >>= next) memory none final := by
  change Ends system (program.bind next) memory none final
  generalize raised : none = ended at first
  induction first with
  | done value memory => cases raised
  | raise memory => exact .raise memory
  | get inner ih => exact .get (ih raised)
  | put inner ih => exact .put (ih raised)
  | call answer possible inner ih => exact .call answer possible (ih raised)

theorem Ends.caught {program : Prog σ A α} {result : Option α}
    (ended : Ends system program memory result final) :
    Ends system program.caught memory (some result) final := by
  induction ended with
  | done value memory => exact .done ..
  | raise memory => exact .done ..
  | get inner ih => exact .get ih
  | put inner ih => exact .put ih
  | call answer possible inner ih => exact .call answer possible ih

theorem Ends.invoked {request : C} (answer : Option (A request))
    (possible : system.answers request memory answer = true) :
    Ends system (invoke request) memory answer (system.perform request answer memory) := by
  refine .call answer possible ?_
  cases answer with
  | none => exact .raise ..
  | some value => exact .done ..

theorem Ends.attempted {request : C} (answer : Option (A request))
    (possible : system.answers request memory answer = true) :
    Ends system (attempt request) memory (some answer) (system.perform request answer memory) :=
  .call answer possible (.done ..)

end Wqm1.Library.Prog
