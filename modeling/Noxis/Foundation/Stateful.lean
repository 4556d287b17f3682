import Mathlib.Logic.Basic

namespace Foundation

/-!
# Fallible and stateful computations

Three shapes of function are used throughout.  A pure function that may
reject its input is an `Except`.  A function that may also abort through a
failed `expect` reports a `Fault`, which keeps rejections and aborts apart.
A method that mutates its receiver is an `EStateM`: its result carries the
receiver's state in the failing case too, so whether a failure leaves the
state untouched is a theorem about the method and not a property of the
encoding.

The last section packages the induction over a sequence of calls.
-/

/-- A failed `expect`, with the message it aborts with. -/
structure Panic where
  message : String
deriving DecidableEq, Repr

/-- Either a typed rejection or an abort. -/
inductive Fault (ε : Type) where
  | error (reason : ε)
  | panic (cause : Panic)
deriving DecidableEq, Repr

variable {ε ε' σ τ α β κ ω : Type}

/-- Rename the rejections and keep the aborts. -/
def Fault.map (wrap : ε -> ε') : Fault ε -> Fault ε'
  | .error reason => .error (wrap reason)
  | .panic cause => .panic cause

variable {result : β}

theorem Except.bind_eq_ok {first : Except ε α} {next : α -> Except ε β} :
    (first >>= next) = Except.ok result <->
      ∃ value, first = Except.ok value /\ next value = Except.ok result := by
  cases first with
  | error reason =>
    constructor
    · intro impossible
      cases impossible
    · rintro ⟨value, impossible, _⟩
      cases impossible
  | ok value =>
    constructor
    · intro finished
      exact ⟨value, rfl, finished⟩
    · rintro ⟨other, same, finished⟩
      cases same
      exact finished

/-- A writer that is characterised by what it accepts and what it writes. -/
theorem Except.bind_written {write : Except ε α} {accepts : Prop} {written : α}
    (writes : forall {output}, write = .ok output <-> accepts /\ output = written)
    {next : α -> Except ε β} :
    (write >>= next) = .ok result <-> accepts /\ next written = .ok result := by
  rw [Except.bind_eq_ok]
  constructor
  · rintro ⟨output, wrote, finished⟩
    rcases writes.mp wrote with ⟨accepted, rfl⟩
    exact ⟨accepted, finished⟩
  · rintro ⟨accepted, finished⟩
    exact ⟨written, writes.mpr ⟨accepted, rfl⟩, finished⟩

variable {condition : Prop} {reason : ε} {value : α}

/-- A check that refuses and otherwise continues. -/
theorem Except.refuse_eq_ok [Decidable condition] {rest} :
    (if condition then Except.error reason else rest) = Except.ok value <->
      ¬condition /\ rest = Except.ok value := by
  by_cases refused : condition
  · simp [*]
  · rw [if_neg refused]
    exact (and_iff_right refused).symm

variable {computation : Except ε α} {wrap : ε -> ε'}

theorem Except.mapError_eq_ok :
    computation.mapError wrap = Except.ok value <-> computation = Except.ok value := by
  cases computation with
  | error reason =>
    constructor <;> intro impossible <;> cases impossible
  | ok stored =>
    constructor <;> intro same <;> cases same <;> rfl

theorem Except.bind_eq_error {first : Except ε α} {next : α -> Except ε β} :
    (first >>= next) = Except.error reason <->
      first = Except.error reason ∨
        ∃ value, first = Except.ok value /\ next value = Except.error reason := by
  cases first with
  | error stored =>
    constructor
    · intro failed
      cases failed
      exact Or.inl rfl
    · rintro (failed | ⟨value, impossible, _⟩)
      · cases failed
        rfl
      · cases impossible
  | ok value =>
    constructor
    · intro failed
      exact Or.inr ⟨value, rfl, failed⟩
    · rintro (impossible | ⟨other, same, failed⟩)
      · cases impossible
      · cases same
        exact failed

theorem Except.mapError_eq_error {reason : ε'} :
    computation.mapError wrap = Except.error reason <->
      ∃ cause, computation = Except.error cause /\ wrap cause = reason := by
  cases computation with
  | error stored =>
    constructor
    · intro same
      exact ⟨stored, rfl, Except.error.inj same⟩
    · rintro ⟨cause, same, rfl⟩
      cases same
      rfl
  | ok value =>
    constructor
    · intro impossible
      cases impossible
    · rintro ⟨_, impossible, _⟩
      cases impossible

/-- The value of a computation together with the fact that it is its value. -/
def witnessed (computation : Except ε α) : Except ε { value // computation = .ok value } :=
  match computation with
  | .ok value => .ok ⟨value, rfl⟩
  | .error reason => .error reason

theorem witnessed_of_ok (succeeded : computation = .ok value) :
    witnessed computation = .ok ⟨value, succeeded⟩ := by
  subst succeeded
  rfl

variable {cause : Panic}

/-- A check that rejects does not abort. -/
theorem Except.refuse_eq_panic [Decidable condition] {next : Except (Fault ε) α} :
    (if condition then Except.error (Fault.error reason) else next) = .error (.panic cause) <->
      ¬condition /\ next = .error (.panic cause) := by
  by_cases holds : condition
  · simp [*]
  simp [*]

/-- A computation that only rejects does not abort. -/
theorem Except.mapError_ne_panic {computation : Except ε' α} {wrap : ε' -> ε} :
    computation.mapError (fun reason => Fault.error (wrap reason)) ≠ .error (.panic cause) := by
  grind [mapError_eq_error]

theorem Except.ok_or_error (computation : Except ε α) :
    (∃ value, computation = Except.ok value) ∨ (∃ reason, computation = Except.error reason) := by
  cases computation with
  | error reason => exact Or.inr ⟨reason, rfl⟩
  | ok value => exact Or.inl ⟨value, rfl⟩

theorem Except.eq_ok_of_isOk (succeeds : computation.isOk = true) (default : α) :
    computation = Except.ok (computation.toOption.getD default) := by
  cases computation with
  | error reason => cases succeeds
  | ok value => rfl

variable {action : α -> Except ε β} {values : List α}

theorem Except.exists_mapM_eq_ok :
    (∃ results, values.mapM action = Except.ok results) <->
      forall value, value ∈ values -> ∃ result, action value = Except.ok result := by
  induction values with
  | nil => simp [pure, Except.pure]
  | cons value rest ih =>
    simp only [List.mapM_cons, Except.bind_eq_ok, List.forall_mem_cons, ← ih]
    constructor
    · grind
    · rintro ⟨⟨result, acted⟩, results, mapped⟩
      exact ⟨_, result, acted, results, mapped, rfl⟩

theorem Except.forM_eq_ok {action : α -> Except ε PUnit} :
    values.forM action = Except.ok () <->
      forall value, value ∈ values -> action value = Except.ok () := by
  induction values with
  | nil => simp [pure, Except.pure]
  | cons value rest ih =>
    change (action value >>= fun _ => rest.forM action) = _ <-> _
    rw [Except.bind_eq_ok, List.forall_mem_cons, ← ih]
    grind

variable {state : σ}

/-- A fold over a larger state projects to the fold over a part of it, if each
step does so wherever an invariant of the part holds. -/
theorem Except.map_foldlM {step : σ -> α -> Except ε σ} {plain : τ -> α -> Except ε τ}
    {project : σ -> τ} {invariant : τ -> Prop}
    (kept : forall {part next value}, invariant part -> plain part value = .ok next ->
      invariant next) (projects : forall {state value}, invariant (project state) ->
      (step state value).map project = plain (project state) value)
    (holds : invariant (project state)) :
    (values.foldlM step state).map project = values.foldlM plain (project state) := by
  induction values generalizing state with
  | nil => rfl
  | cons value rest ih =>
    rw [List.foldlM_cons, List.foldlM_cons, ← projects holds]
    cases outcome : step state value with
    | error reason => rfl
    | ok next =>
      have here : plain (project state) value = .ok (project next) := by
        rw [← projects holds, outcome]
        rfl
      exact ih (kept holds here)

/-- What can be read off one result can be read off all of them in order. -/
theorem Except.map_of_mapM_eq_ok {γ : Type} {read : β -> γ} {expected : α -> γ}
    (agrees : forall value result, action value = Except.ok result -> read result = expected value)
    {results : List β} (mapped : values.mapM action = Except.ok results) :
    results.map read = values.map expected := by
  induction values generalizing results with
  | nil =>
    cases mapped
    rfl
  | cons value rest ih =>
    rw [List.mapM_cons] at mapped
    rcases Except.bind_eq_ok.mp mapped with ⟨result, acted, mapped⟩
    rcases Except.bind_eq_ok.mp mapped with ⟨others, mappedRest, same⟩
    cases same
    grind

/-! ## Stateful computations -/

/-- The receiver after a call, whether or not it succeeded. -/
def finalState : EStateM.Result ε σ α -> σ
  | .ok _ state => state
  | .error _ state => state

/-- Run a pure check inside a method. -/
def check (computation : Except ε α) : EStateM ε σ α := fun state =>
  match computation with
  | .ok value => .ok value state
  | .error reason => .error reason state

@[simp] theorem check_ok (value : α) (state : σ) :
    check (Except.ok value : Except ε α) state = .ok value state := rfl

@[simp] theorem check_error (reason : ε) (state : σ) :
    check (Except.error reason : Except ε α) state = .error reason state := rfl

/-- Rename the rejections of a method. -/
def mapFailure (wrap : ε -> ε') (method : EStateM ε σ α) : EStateM ε' σ α := fun state =>
  match method state with
  | .ok value next => .ok value next
  | .error reason next => .error (wrap reason) next

def onCopy (method : EStateM ε σ Unit) (state : σ) : Except ε σ :=
  match method state with
  | .ok () next => .ok next
  | .error reason _ => .error reason

theorem onCopy_eq_ok {method : EStateM ε σ Unit} {next : σ} :
    onCopy method state = .ok next <-> method state = .ok () next := by
  grind [onCopy]

/-- A method that starts by reading its receiver continues with that state. -/
theorem get_bind (next : σ -> EStateM ε σ α) (state : σ) :
    (get >>= next) state = next state state := rfl

theorem refuse_bind [Decidable condition] (reason : ε) (first : EStateM ε σ α)
    (next : α -> EStateM ε σ β) :
    ((if condition then throw reason else first) >>= next) =
      if condition then throw reason else first >>= next := by
  by_cases refused : condition
  · rw [if_pos refused, if_pos refused]
    rfl
  · rw [if_neg refused, if_neg refused]

/-- Run a method of a part on the whole. -/
def onPart (part : σ -> τ) (replace : σ -> τ -> σ) (method : EStateM ε τ α) : EStateM ε σ α :=
  fun state =>
    match method (part state) with
    | .ok value next => .ok value (replace state next)
    | .error reason next => .error reason (replace state next)

variable {first : EStateM ε σ α} {next : α -> EStateM ε σ β} {start middle : σ}

theorem bind_of_ok (finished : first start = .ok value middle) :
    (first >>= next) start = next value middle := by
  change EStateM.bind first next start = _
  rw [EStateM.bind, finished]

theorem bind_of_error (failed : first start = .error reason middle) :
    (first >>= next) start = .error reason middle := by
  change EStateM.bind first next start = _
  rw [EStateM.bind, failed]

variable {finish : σ}

theorem bind_eq_ok :
    (first >>= next) start = .ok result finish <->
      ∃ value middle, first start = .ok value middle /\ next value middle = .ok result finish := by
  cases outcome : first start with
  | ok value middle =>
    grind [bind_of_ok]
  | error reason middle =>
    grind [bind_of_error]

theorem bind_eq_error :
    (first >>= next) start = .error reason finish <->
      first start = .error reason finish ∨
        ∃ value middle, first start = .ok value middle /\
          next value middle = .error reason finish := by
  cases outcome : first start with
  | ok value middle =>
    grind [bind_of_ok]
  | error other middle =>
    rw [bind_of_error outcome]
    simp

theorem check_eq_ok :
    check computation start = .ok value finish <->
      computation = .ok value /\ finish = start := by
  cases computation with
  | ok result =>
    constructor
    · intro same
      cases same
      exact ⟨rfl, rfl⟩
    · rintro ⟨same, rfl⟩
      cases same
      rfl
  | error reason => simp

theorem check_eq_error :
    check computation start = .error reason finish <->
      computation = .error reason /\ finish = start := by
  cases computation with
  | ok result => simp
  | error other =>
    simp [eq_comm]

/-- A check either ends a method without a change or is passed. -/
theorem check_bind_cases (computation : Except ε α) (next : α -> EStateM ε σ β) (start : σ) :
    (∃ reason, computation = .error reason /\ (check computation >>= next) start = .error reason start) ∨
      ∃ value, computation = .ok value /\ (check computation >>= next) start = next value start := by
  cases computation with
  | error reason => exact Or.inl ⟨reason, rfl, rfl⟩
  | ok value => exact Or.inr ⟨value, rfl, rfl⟩

variable {method : EStateM ε σ α}

theorem mapFailure_eq_ok :
    mapFailure wrap method start = .ok value finish <-> method start = .ok value finish := by
  grind [mapFailure]

theorem mapFailure_eq_error {reason : ε'} :
    mapFailure wrap method start = .error reason finish <->
      ∃ cause, method start = .error cause finish /\ wrap cause = reason := by
  unfold mapFailure
  cases method start with
  | ok result next => simp
  | error cause next =>
    constructor
    · intro same
      cases same
      exact ⟨cause, rfl, rfl⟩
    · rintro ⟨other, same, rfl⟩
      cases same
      rfl

theorem mapFailure_bind (wrap : ε -> ε') (first : EStateM ε σ α) (next : α -> EStateM ε σ β) :
    mapFailure wrap (first >>= next) =
      mapFailure wrap first >>= fun value => mapFailure wrap (next value) := by
  funext state
  cases outcome : first state with
  | ok value middle =>
    rw [bind_of_ok (mapFailure_eq_ok.mpr outcome), mapFailure, bind_of_ok outcome]
    rfl
  | error reason middle =>
    grind [bind_of_error, mapFailure]

variable {part : σ -> τ} {replace : σ -> τ -> σ}

theorem onPart_eq_ok {method : EStateM ε τ α} :
    onPart part replace method start = .ok value finish <->
      ∃ next, method (part start) = .ok value next /\ finish = replace start next := by
  unfold onPart
  cases method (part start) with
  | ok result next =>
    constructor
    · intro same
      cases same
      exact ⟨next, rfl, rfl⟩
    · rintro ⟨other, same, rfl⟩
      cases same
      rfl
  | error reason next => simp

theorem onPart_eq_error {method : EStateM ε τ α} :
    onPart part replace method start = .error reason finish <->
      ∃ next, method (part start) = .error reason next /\ finish = replace start next := by
  unfold onPart
  cases method (part start) with
  | ok result next => simp
  | error other next =>
    constructor
    · intro same
      cases same
      exact ⟨next, rfl, rfl⟩
    · rintro ⟨last, same, rfl⟩
      cases same
      rfl

/-- Every failure of the method is one of the allowed errors. -/
def FailsWith (allowed : ε -> Prop) (method : EStateM ε σ α) : Prop :=
  forall start reason finish, method start = .error reason finish -> allowed reason

namespace FailsWith

variable {allowed : ε -> Prop}

theorem pure (value : α) : FailsWith allowed (Pure.pure value : EStateM ε σ α) := by
  intro start reason finish failed
  cases failed

theorem throw {reason : ε} (isAllowed : allowed reason) :
    FailsWith allowed (MonadExcept.throw reason : EStateM ε σ α) := by
  intro start other finish failed
  cases failed
  exact isAllowed

theorem bind {first : EStateM ε σ α} {next : α -> EStateM ε σ β}
    (firstFails : FailsWith allowed first) (nextFails : forall value, FailsWith allowed (next value)) :
    FailsWith allowed (first >>= next) := by
  intro start reason finish failed
  cases outcome : first start with
  | ok value middle =>
    rw [bind_of_ok outcome] at failed
    exact nextFails value middle reason finish failed
  | error other middle =>
    rw [bind_of_error outcome] at failed
    cases failed
    exact firstFails start reason finish outcome

theorem ite {condition : Prop} [Decidable condition] {left right : EStateM ε σ α}
    (leftFails : FailsWith allowed left) (rightFails : FailsWith allowed right) :
    FailsWith allowed (if condition then left else right) := by
  by_cases holds : condition
  · rw [if_pos holds]
    exact leftFails
  · rw [if_neg holds]
    exact rightFails

theorem get : FailsWith allowed (MonadState.get : EStateM ε σ σ) := by
  intro start reason finish failed
  cases failed

theorem check {computation}
    (allows : forall reason, computation = .error reason -> allowed reason) :
    FailsWith allowed (Foundation.check computation : EStateM ε σ α) := by
  intro start reason finish failed
  cases computation with
  | ok value => cases failed
  | error other =>
    cases failed
    exact allows reason rfl

theorem mapFailure {wrap : ε' -> ε} {method : EStateM ε' σ α}
    (fails : FailsWith (fun reason => allowed (wrap reason)) method) :
    FailsWith allowed (Foundation.mapFailure wrap method) := by
  intro start reason finish failed
  unfold Foundation.mapFailure at failed
  cases outcome : method start with
  | ok value next =>
    rw [outcome] at failed
    cases failed
  | error other next =>
    rw [outcome] at failed
    cases failed
    exact fails start other finish outcome

theorem onPart {part : σ -> τ} {replace : σ -> τ -> σ} {method : EStateM ε τ α}
    (fails : FailsWith allowed method) : FailsWith allowed (Foundation.onPart part replace method) := by
  intro start reason finish failed
  unfold Foundation.onPart at failed
  cases outcome : method (part start) with
  | ok value next =>
    rw [outcome] at failed
    cases failed
  | error other next =>
    rw [outcome] at failed
    cases failed
    exact fails (part start) reason next outcome

end FailsWith

/-- A failure of the method leaves the state as it was. -/
def KeepsOnFailure (method : EStateM ε σ α) : Prop :=
  forall start reason finish, method start = .error reason finish -> finish = start

namespace KeepsOnFailure

theorem check (computation : Except ε α) :
    KeepsOnFailure (Foundation.check computation : EStateM ε σ α) := by
  intro start reason finish failed
  exact (check_eq_error.mp failed).2

theorem throw (reason : ε) : KeepsOnFailure (MonadExcept.throw reason : EStateM ε σ α) := by
  intro start other finish failed
  cases failed
  rfl

variable {method : EStateM ε σ α}

theorem of_total (total : forall start, ∃ value finish, method start = .ok value finish) :
    KeepsOnFailure method := by
  intro start reason finish failed
  rcases total start with ⟨value, other, finished⟩
  rw [finished] at failed
  cases failed

theorem check_bind {computation : Except ε α} {next : α -> EStateM ε σ β}
    (keeps : forall value, computation = .ok value -> KeepsOnFailure (next value)) :
    KeepsOnFailure (Foundation.check computation >>= next) := by
  intro start reason finish failed
  rcases bind_eq_error.mp failed with first | ⟨value, middle, checked, later⟩
  · exact KeepsOnFailure.check computation start reason finish first
  · rcases check_eq_ok.mp checked with ⟨isOk, rfl⟩
    exact keeps value isOk _ reason finish later

theorem get_bind {next : σ -> EStateM ε σ α} (keeps : forall state, KeepsOnFailure (next state)) :
    KeepsOnFailure (MonadState.get >>= next) := by
  intro start reason finish failed
  rw [Foundation.get_bind] at failed
  exact keeps start start reason finish failed

theorem mapFailure {wrap : ε -> ε'} (keeps : KeepsOnFailure method) :
    KeepsOnFailure (Foundation.mapFailure wrap method) := by
  intro start reason finish failed
  rcases mapFailure_eq_error.mp failed with ⟨cause, failedInside, _⟩
  exact keeps start cause finish failedInside

theorem bind_pure (keeps : KeepsOnFailure method) (read : α -> β) :
    KeepsOnFailure (method >>= fun value => pure (read value)) := by
  intro start reason finish failed
  rcases bind_eq_error.mp failed with first | ⟨value, middle, _, later⟩
  · exact keeps start reason finish first
  · cases later

theorem ite {condition : Prop} [Decidable condition] {left right : EStateM ε σ α}
    (leftKeeps : KeepsOnFailure left) (rightKeeps : KeepsOnFailure right) :
    KeepsOnFailure (if condition then left else right) := by
  split
  · exact leftKeeps
  · exact rightKeeps

end KeepsOnFailure

/-! ## Sequences of calls -/

section
variable (step : σ -> κ -> σ × List ω)

/-- Perform the calls in order and concatenate what each one records. -/
def run (start : σ) : List κ -> σ × List ω
  | [] => (start, [])
  | call :: rest =>
    let next := step start call
    let later := run next.1 rest
    (later.1, next.2 ++ later.2)

variable {start : σ}

variable {step} in
theorem run_cons_of_step {next : σ} {call : κ} {events}
    (stepped : step start call = (next, events)) (rest : List κ) :
    run step start (call :: rest) = ((run step next rest).1, events ++ (run step next rest).2) := by
  rw [run, stepped]

private theorem run_invariant_from (invariant : σ -> List ω -> Prop) (calls : List κ)
    (preserved : forall state history call, call ∈ calls -> invariant state history ->
      invariant (step state call).1 (history ++ (step state call).2))
    (start : σ) (past : List ω) (initial : invariant start past) :
    invariant (run step start calls).1 (past ++ (run step start calls).2) := by
  induction calls generalizing start past with
  | nil => simpa only [run, List.append_nil] using initial
  | cons call rest ih =>
    have here := preserved start past call List.mem_cons_self initial
    have later := ih
      (fun state history other member =>
        preserved state history other (List.mem_cons_of_mem call member)) _ _ here
    rw [List.append_assoc] at later
    exact later

/-- A property of the state and of everything recorded so far holds after a
run when it holds at the start and each call of the run preserves it. -/
theorem run_invariant (invariant : σ -> List ω -> Prop) (initial : invariant start [])
    (calls : List κ)
    (preserved : forall state history call, call ∈ calls -> invariant state history ->
      invariant (step state call).1 (history ++ (step state call).2)) :
    invariant (run step start calls).1 (run step start calls).2 :=
  run_invariant_from step invariant calls preserved start [] initial

end
end Foundation
