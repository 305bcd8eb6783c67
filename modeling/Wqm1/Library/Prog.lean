import Mathlib.Logic.Relation

/-! Sequential programs over shared memory. A program runs undisturbed between
two calls to the outside. While it waits for the answer to a call, other
threads may change the memory and the process may be killed. -/

set_option autoImplicit false

namespace Wqm1.Library

open Relation (ReflTransGen)

/-- A program over memory `σ` whose calls `request` are answered in `A request`.
The answer `none` is a call that raised. -/
inductive Prog (σ : Type) {C : Type} (A : C → Type) (α : Type) : Type where
  | done (value : α)
  | raise
  | get (next : σ → Prog σ A α)
  | put (memory : σ) (next : Prog σ A α)
  | call (request : C) (next : Option (A request) → Prog σ A α)

namespace Prog

variable {σ C : Type} {A : C → Type} {α β : Type}

def bind : Prog σ A α → (α → Prog σ A β) → Prog σ A β
  | done value, after => after value
  | raise, _ => raise
  | get next, after => get fun memory => (next memory).bind after
  | put memory next, after => put memory (next.bind after)
  | call request next, after => call request fun answer => (next answer).bind after

instance : Monad (Prog σ A) where
  pure := done
  bind := bind

/-- One undisturbed read and write of the memory. -/
def update (change : σ → σ × α) : Prog σ A α :=
  get fun memory => put (change memory).1 (done (change memory).2)

/-- A read of the memory that writes nothing. -/
def inspect (view : σ → α) : Prog σ A α :=
  get fun memory => done (view memory)

/-- A call whose exception leaves the program. -/
def invoke (request : C) : Prog σ A (A request) :=
  call request fun
    | some answer => done answer
    | none => raise

/-- A call whose exception is caught and dropped. -/
def attempt (request : C) : Prog σ A (Option (A request)) :=
  call request done

/-- `try: body finally: cleanup`. -/
def ensuring : Prog σ A α → Prog σ A Unit → Prog σ A α
  | done value, cleanup => cleanup.bind fun _ => done value
  | raise, cleanup => cleanup.bind fun _ => raise
  | get next, cleanup => get fun memory => (next memory).ensuring cleanup
  | put memory next, cleanup => put memory (next.ensuring cleanup)
  | call request next, cleanup => call request fun answer => (next answer).ensuring cleanup

end Prog

/-- A worker thread that runs one job after another, and everything around it:
what a call does to the memory, which answers a call may get, what the other
threads may do, and what a restart after a crash finds. -/
structure System (σ : Type) {C : Type} (A : C → Type) (Job Effect : Type) where
  program : Job → Prog σ A Unit
  starts : Job → σ → Bool
  perform : (request : C) → Option (A request) → σ → σ
  answers : (request : C) → σ → Option (A request) → Bool
  effect : Effect → σ → σ
  permits : Effect → σ → Bool
  restart : σ → σ
  crashes : σ → Bool

/-- The memory, and the call the worker waits on; `none` between two jobs. -/
structure Machine (σ : Type) {C : Type} (A : C → Type) where
  memory : σ
  waiting : Option ((request : C) × (Option (A request) → Prog σ A Unit))

inductive Move {C : Type} (A : C → Type) (Job Effect : Type) where
  | start (job : Job)
  | reply (answer : (request : C) → Option (A request))
  | disturb (effect : Effect)
  | crash

/-- Run to the next call, or to the end of the job. -/
def Prog.settle {σ C : Type} {A : C → Type} : Prog σ A Unit → σ → Machine σ A
  | done _, memory => ⟨memory, none⟩
  | raise, memory => ⟨memory, none⟩
  | get next, memory => (next memory).settle memory
  | put memory next, _ => next.settle memory
  | call request next, memory => ⟨memory, some ⟨request, next⟩⟩

namespace System

variable {σ C : Type} {A : C → Type} {Job Effect : Type} (system : System σ A Job Effect)

/-- Whether a move is possible: a job starts only when the worker is idle, a
reply needs a waiting call that may be answered so. -/
def legal (machine : Machine σ A) : Move A Job Effect → Bool
  | .start job => machine.waiting.isNone && system.starts job machine.memory
  | .reply answer =>
      match machine.waiting with
      | none => false
      | some ⟨request, _⟩ => system.answers request machine.memory (answer request)
  | .disturb effect => system.permits effect machine.memory
  | .crash => system.crashes machine.memory

def step (machine : Machine σ A) : Move A Job Effect → Machine σ A
  | .start job => (system.program job).settle machine.memory
  | .reply answer =>
      match machine.waiting with
      | none => machine
      | some ⟨request, next⟩ =>
          (next (answer request)).settle (system.perform request (answer request) machine.memory)
  | .disturb effect => { machine with memory := system.effect effect machine.memory }
  | .crash => ⟨system.restart machine.memory, none⟩

/-- Every machine that some order of legal moves leads to. -/
inductive Reaches (initial : Machine σ A) : Machine σ A → Prop where
  | refl : Reaches initial initial
  | move {machine : Machine σ A} (taken : Move A Job Effect) :
      Reaches initial machine → system.legal machine taken = true →
      Reaches initial (system.step machine taken)

def play : Machine σ A → List (Move A Job Effect) → Machine σ A
  | machine, [] => machine
  | machine, taken :: rest => play (system.step machine taken) rest

def legalRun : Machine σ A → List (Move A Job Effect) → Bool
  | _, [] => true
  | machine, taken :: rest => system.legal machine taken && legalRun (system.step machine taken) rest

variable {system}

theorem Reaches.trans {first second third : Machine σ A} (before : system.Reaches first second)
    (after : system.Reaches second third) : system.Reaches first third := by
  induction after with
  | refl => exact before
  | move taken _ allowed ih => exact .move taken ih allowed

/-- A list of moves checked by evaluation is a run. -/
theorem reaches_play {machine : Machine σ A} {moves : List (Move A Job Effect)}
    (allowed : system.legalRun machine moves = true) :
    system.Reaches machine (system.play machine moves) := by
  induction moves generalizing machine with
  | nil => exact .refl
  | cons taken rest ih =>
      simp only [legalRun, Bool.and_eq_true] at allowed
      exact Reaches.trans (.move taken .refl allowed.1) (ih allowed.2)

/-- What the other threads can make of a memory by any number of effects. -/
def Disturbed (system : System σ A Job Effect) : σ → σ → Prop :=
  ReflTransGen fun before after =>
    ∃ effect, system.permits effect before = true ∧ after = system.effect effect before

end System

namespace Prog

variable {σ C : Type} {A : C → Type} {Job Effect : Type} {α β : Type}

/-- From this memory the program keeps `holds` at every point where it waits,
whatever the other threads do meanwhile, and ends in `after`; `after none` is
an end by an exception. -/
def Safe (system : System σ A Job Effect) (holds : σ → Prop) (after : Option α → σ → Prop) :
    Prog σ A α → σ → Prop
  | done value, memory => after (some value) memory
  | raise, memory => after none memory
  | get next, memory => (next memory).Safe system holds after memory
  | put memory next, _ => next.Safe system holds after memory
  | call request next, memory => ∀ seen, system.Disturbed memory seen → holds seen ∧
      ∀ answer, system.answers request seen answer = true →
        (next answer).Safe system holds after (system.perform request answer seen)

variable {system : System σ A Job Effect} {holds : σ → Prop} {after : Option α → σ → Prop}
  {memory : σ}

theorem Safe.mono {program : Prog σ A α} {weaker : Option α → σ → Prop}
    (safe : program.Safe system holds after memory)
    (weaken : ∀ result memory, after result memory → weaker result memory) :
    program.Safe system holds weaker memory := by
  induction program generalizing memory with
  | done value => exact weaken _ _ safe
  | raise => exact weaken _ _ safe
  | get next ih => exact ih memory safe
  | put written next ih => exact ih safe
  | call request next ih =>
      intro seen disturbed
      obtain ⟨holding, answered⟩ := safe seen disturbed
      exact ⟨holding, fun answer possible => ih answer (answered answer possible)⟩

theorem safe_congr {program : Prog σ A α} {other : Option α → σ → Prop}
    (same : ∀ result memory, after result memory ↔ other result memory) :
    program.Safe system holds after memory ↔ program.Safe system holds other memory :=
  ⟨fun safe => safe.mono fun result memory => (same result memory).mp,
    fun safe => safe.mono fun result memory => (same result memory).mpr⟩

theorem safe_bind {program : Prog σ A α} {next : α → Prog σ A β} {after : Option β → σ → Prop} :
    (program.bind next).Safe system holds after memory ↔
      program.Safe system holds (fun result memory => result.elim (after none memory)
        fun value => (next value).Safe system holds after memory) memory := by
  induction program generalizing memory with
  | done value => exact Iff.rfl
  | raise => exact Iff.rfl
  | get inner ih => exact ih memory
  | put written inner ih => exact ih
  | call request inner ih =>
      simp only [bind, Safe]
      exact forall₂_congr fun seen _ =>
        and_congr_right fun _ => forall₂_congr fun answer _ => ih answer

theorem safe_ensuring {program : Prog σ A α} {cleanup : Prog σ A Unit} :
    (program.ensuring cleanup).Safe system holds after memory ↔
      program.Safe system holds (fun result memory =>
        cleanup.Safe system holds (fun ended memory =>
          after (ended.bind fun _ => result) memory) memory) memory := by
  induction program generalizing memory with
  | done value =>
      rw [ensuring, safe_bind]
      exact safe_congr fun ended memory => by cases ended <;> exact Iff.rfl
  | raise =>
      rw [ensuring, safe_bind]
      exact safe_congr fun ended memory => by cases ended <;> exact Iff.rfl
  | get inner ih => exact ih memory
  | put written inner ih => exact ih
  | call request inner ih =>
      simp only [ensuring, Safe]
      exact forall₂_congr fun seen _ =>
        and_congr_right fun _ => forall₂_congr fun answer _ => ih answer

@[simp] theorem safe_pure {value : α} :
    (pure value : Prog σ A α).Safe system holds after memory ↔ after (some value) memory := Iff.rfl

@[simp] theorem safe_monad_bind {program : Prog σ A α} {next : α → Prog σ A β}
    {after : Option β → σ → Prop} :
    (program >>= next).Safe system holds after memory ↔
      program.Safe system holds (fun result memory => result.elim (after none memory)
        fun value => (next value).Safe system holds after memory) memory := safe_bind

@[simp] theorem safe_update {change : σ → σ × α} :
    (update change : Prog σ A α).Safe system holds after memory ↔
      after (some (change memory).2) (change memory).1 := Iff.rfl

@[simp] theorem safe_inspect {view : σ → α} :
    (inspect view : Prog σ A α).Safe system holds after memory ↔
      after (some (view memory)) memory := Iff.rfl

/-- A postcondition by its two ends, returning and raising. -/
def ends (normal : α → σ → Prop) (raised : σ → Prop) : Option α → σ → Prop
  | some value, memory => normal value memory
  | none, memory => raised memory

theorem Safe.bind {program : Prog σ A α} {next : α → Prog σ A β} {after : Option β → σ → Prop}
    (normal : α → σ → Prop)
    (first : program.Safe system holds (ends normal (after none)) memory)
    (rest : ∀ value memory, normal value memory → (next value).Safe system holds after memory) :
    (program >>= next).Safe system holds after memory :=
  safe_monad_bind.mpr (first.mono fun result memory reached => by
    cases result with
    | none => exact reached
    | some value => exact rest value memory reached)

theorem Safe.inspectThen {view : σ → α} {next : α → Prog σ A β} {after : Option β → σ → Prop}
    (rest : (next (view memory)).Safe system holds after memory) :
    (inspect view >>= next).Safe system holds after memory := rest

theorem Safe.updateThen {change : σ → σ × α} {next : α → Prog σ A β} {after : Option β → σ → Prop}
    (rest : (next (change memory).2).Safe system holds after (change memory).1) :
    (update change >>= next).Safe system holds after memory := rest

theorem safe_invoke (request : C) {after : Option (A request) → σ → Prop} (stable : σ → Prop)
    (now : stable memory)
    (keeps : ∀ effect memory, stable memory → system.permits effect memory = true →
      stable (system.effect effect memory))
    (holding : ∀ memory, stable memory → holds memory)
    (answered : ∀ memory answer, stable memory → system.answers request memory answer = true →
      after answer (system.perform request answer memory)) :
    (invoke request : Prog σ A (A request)).Safe system holds after memory := by
  intro seen disturbed
  have still : stable seen := by
    induction disturbed with
    | refl => exact now
    | tail _ changed ih =>
        obtain ⟨effect, permitted, rfl⟩ := changed
        exact keeps effect _ ih permitted
  refine ⟨holding seen still, fun answer possible => ?_⟩
  cases answer with
  | none => exact answered seen none still possible
  | some value => exact answered seen (some value) still possible

theorem safe_attempt (request : C) {after : Option (Option (A request)) → σ → Prop}
    (stable : σ → Prop) (now : stable memory)
    (keeps : ∀ effect memory, stable memory → system.permits effect memory = true →
      stable (system.effect effect memory))
    (holding : ∀ memory, stable memory → holds memory)
    (answered : ∀ memory answer, stable memory → system.answers request memory answer = true →
      after (some answer) (system.perform request answer memory)) :
    (attempt request : Prog σ A (Option (A request))).Safe system holds after memory := by
  intro seen disturbed
  have still : stable seen := by
    induction disturbed with
    | refl => exact now
    | tail _ changed ih =>
        obtain ⟨effect, permitted, rfl⟩ := changed
        exact keeps effect _ ih permitted
  exact ⟨holding seen still, fun answer possible => answered seen answer still possible⟩

end Prog

namespace System

variable {σ C : Type} {A : C → Type} {Job Effect : Type} {system : System σ A Job Effect}

/-- What is known between two jobs, or what the waiting worker still owes. -/
private def Sound (system : System σ A Job Effect) (idle holds : σ → Prop) (machine : Machine σ A) :
    Prop :=
  match machine.waiting with
  | none => idle machine.memory
  | some ⟨request, next⟩ =>
      (Prog.call request next).Safe system holds (fun _ memory => idle memory) machine.memory

private theorem sound_settle {idle holds : σ → Prop} {program : Prog σ A Unit} {memory : σ}
    (safe : program.Safe system holds (fun _ memory => idle memory) memory) :
    Sound system idle holds (program.settle memory) := by
  induction program generalizing memory with
  | done value => exact safe
  | raise => exact safe
  | get next ih => exact ih memory safe
  | put written next ih => exact ih safe
  | call request next _ => exact safe

/-- The run rule. Every job leads from `idle` back to `idle` and keeps `holds`
wherever it waits; the other threads keep `idle`; a restart of anything that
`holds` is `idle`. Then every memory a run reaches `holds`. -/
theorem invariant (idle holds : σ → Prop) (weaken : ∀ memory, idle memory → holds memory)
    {initial : σ} (begins : idle initial)
    (jobs : ∀ job memory, idle memory → system.starts job memory = true →
      (system.program job).Safe system holds (fun _ memory => idle memory) memory)
    (effects : ∀ effect memory, idle memory → system.permits effect memory = true →
      idle (system.effect effect memory))
    (restarts : ∀ memory, holds memory → system.crashes memory = true →
      idle (system.restart memory))
    {machine : Machine σ A} (run : system.Reaches ⟨initial, none⟩ machine) :
    holds machine.memory ∧ (machine.waiting = none → idle machine.memory) := by
  have current {machine : Machine σ A} (sound : Sound system idle holds machine) :
      holds machine.memory := by
    obtain ⟨memory, waiting⟩ := machine
    cases waiting with
    | none => exact weaken memory sound
    | some pending => exact (sound memory .refl).1
  suffices sound : Sound system idle holds machine from
    ⟨current sound, fun resting => by simpa only [Sound, resting] using sound⟩
  induction run with
  | refl => exact begins
  | @move machine taken _ allowed ih =>
      obtain ⟨memory, waiting⟩ := machine
      cases taken with
      | start job =>
          cases waiting with
          | none => exact sound_settle (jobs job memory ih (by simpa [legal] using allowed))
          | some pending => simp [legal] at allowed
      | reply answer =>
          cases waiting with
          | none => simp [legal] at allowed
          | some pending => exact sound_settle ((ih memory .refl).2 _ allowed)
      | disturb effect =>
          cases waiting with
          | none => exact effects effect memory ih allowed
          | some pending =>
              intro seen disturbed
              exact ih seen (.head ⟨effect, allowed, rfl⟩ disturbed)
      | crash => exact restarts memory (current ih) allowed

end System

end Wqm1.Library
