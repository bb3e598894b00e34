import CollectionRunner.Script.Failure
import CollectionRunner.Script.Host

/-!
# Computations of scripts

An `Eval α` answers an `α` or stops, and moves the machine it runs on. It carries the proof that the
machine's host only evolves, and that every test it began also ended unless the computation is cut
off. So what no script can do to its host holds of every computation by its type, and is read off it
by `Eval.evolves`, `Eval.nests` and `Eval.balanced`.
-/

namespace CollectionRunner

/-- What a variable holds: its own datum, or that of a cell it shares with functions. -/
inductive Slot
  | own (d : Datum)
  | shared (cell : Nat)
  deriving Repr, Inhabited

/-- A variable of a script. -/
structure Variable where
  name : String
  constant : Bool
  slot : Slot
  deriving Repr, Inhabited

/-- What variables share with functions. -/
structure Cell where
  content : Datum
  constant : Bool
  deriving Repr, Inhabited

/-- The state of a running script apart from its host. -/
structure Frame where
  /-- The variables in sight, innermost first. -/
  bindings : List Variable
  /-- The datum that `this` stands for. -/
  receiver : Option Datum
  cells : Array Cell
  /-- Number of functions entered and not yet left. -/
  nesting : Nat
  /-- Number of steps that are left. -/
  steps : Nat
  /-- Where random values come from. -/
  seed : UInt64
  deriving Inhabited

/-- A running script. -/
structure Machine where
  host : Host
  frame : Frame
  deriving Inhabited

/-- Why a computation did not answer. -/
inductive Stop
  | failed (f : Failure)
  | broke (value : Datum)
  | continued
  | returned (value : Datum)
  deriving Repr, Inhabited

/-- Whether the computation was cut off from outside. -/
def Stop.isCut : Stop → Bool
  | failed f => f.isTermination
  | _ => false

/-- Whether an ending was cut off. -/
def cutOff : Except Stop α → Bool
  | .ok _ => false
  | .error s => s.isCut

/-- What a computation does to the host of its machine. -/
structure Leads (before : Host) (cut : Bool) (after : Host) : Prop where
  evolves : before.Evolves after
  nests : cut = false → before.Nests after

theorem Leads.stay (h : Host) (cut : Bool) : Leads h cut h := ⟨.refl h, fun _ => .refl h⟩

theorem Leads.followed {a b c : Host} {cut : Bool} (first : Leads a false b)
    (second : Leads b cut c) : Leads a cut c :=
  ⟨first.evolves.trans second.evolves,
   fun whole => (first.nests rfl).trans (second.nests whole)⟩

/-- A computation of a script. -/
def Eval (α : Type) : Type :=
  (m : Machine) → { r : Except Stop α × Machine // Leads m.host (cutOff r.1) r.2.host }

namespace Eval

/-- Run a computation. -/
def run (x : Eval α) (m : Machine) : Except Stop α × Machine := (x m).1

theorem leads (x : Eval α) (m : Machine) :
    Leads m.host (cutOff (x.run m).1) (x.run m).2.host := (x m).2

theorem evolves (x : Eval α) (m : Machine) : m.host.Evolves (x.run m).2.host :=
  (x.leads m).evolves

theorem nests (x : Eval α) (m : Machine) (whole : cutOff (x.run m).1 = false) :
    m.host.Nests (x.run m).2.host := (x.leads m).nests whole

theorem balanced (x : Eval α) (m : Machine) (whole : cutOff (x.run m).1 = false) :
    m.host.Balanced (x.run m).2.host := (x.evolves m).balanced (x.nests m whole)

/-! ## Sequencing -/

/-- Answer without doing anything. -/
@[inline] def answer (a : α) : Eval α := fun m => ⟨(.ok a, m), .stay _ _⟩

/-- Stop without doing anything. -/
@[inline] def stop (s : Stop) : Eval α := fun m => ⟨(.error s, m), .stay _ _⟩

/-- Run one computation after another, unless it stops. -/
@[inline] def andThen (x : Eval α) (f : α → Eval β) : Eval β := fun m =>
  match x m with
  | ⟨(.ok a, m₁), first⟩ =>
    match f a m₁ with
    | ⟨r, second⟩ => ⟨r, first.followed second⟩
  | ⟨(.error s, m₁), first⟩ => ⟨(.error s, m₁), first⟩

instance : Monad Eval where
  pure := answer
  bind := andThen

/-- Go on after a computation that stopped, where `f` says how. One that was cut off cannot go on. -/
@[inline] def rescue (x : Eval α) (f : Stop → Option (Eval α)) : Eval α := fun m =>
  match x m with
  | ⟨(.ok a, m₁), first⟩ => ⟨(.ok a, m₁), first⟩
  | ⟨(.error s, m₁), first⟩ =>
    if whole : s.isCut = false then
      match f s with
      | some y =>
        match y m₁ with
        | ⟨r, second⟩ =>
          ⟨r, Leads.followed ⟨first.evolves, fun _ => first.nests whole⟩ second⟩
      | none => ⟨(.error s, m₁), first⟩
    else ⟨(.error s, m₁), first⟩

/-- Change the frame after a computation, however it ended; `f` is given the frame before it. -/
@[inline] def leaving (x : Eval α) (f : Frame → Frame → Frame) : Eval α := fun m =>
  match x m with
  | ⟨(r, m₁), first⟩ => ⟨(r, { m₁ with frame := f m.frame m₁.frame }), first⟩

/-! ## State -/

/-- The host. -/
@[inline] def host : Eval Host := fun m => ⟨(.ok m.host, m), .stay _ _⟩

/-- The frame. -/
@[inline] def frame : Eval Frame := fun m => ⟨(.ok m.frame, m), .stay _ _⟩

/-- Change the frame. -/
@[inline] def modifyFrame (f : Frame → Frame) : Eval Unit := fun m =>
  ⟨(.ok (), { m with frame := f m.frame }), .stay _ _⟩

/-- Have an effect on the host. -/
def perform (e : Effect) : Eval Unit := fun m =>
  ⟨(.ok (), { m with host := m.host.apply e }),
   .effect e (.refl _), fun _ => .apply _ e⟩

/-! ## Failing -/

/-- Fail. -/
@[inline] def fail (f : Failure) : Eval α := stop (.failed f)

/-- Fail by a fault at a place. -/
@[inline] def fault (f : ScriptFault) (place : Option Position) : Eval α :=
  fail (.fault f place)

/-- Fail with a text, as host functions do. -/
def refuse (message : String) : Eval α := fail (.thrown (.text message) none)

/-- Use up some steps. When too few are left, the computation is cut off. -/
def spend (n : Nat) : Eval Unit := fun m =>
  if m.frame.steps < n then ⟨(.error (.failed (.fault .terminated none)), m), .stay _ _⟩
  else ⟨(.ok (), { m with frame := { m.frame with steps := m.frame.steps - n } }), .stay _ _⟩

/-- Use up one step. -/
def tick : Eval Unit := spend 1

/-! ## Repeating -/

/-- Repeat a computation on what it hands on, until it answers. It is cut off after a number of
times. -/
def repeated (x : σ → Eval (σ ⊕ α)) : Nat → σ → Eval α
  | 0, _ => fault .terminated none
  | n + 1, s => fun m =>
    match x s m with
    | ⟨(.ok (.inl t), m₁), first⟩ =>
      match repeated x n t m₁ with
      | ⟨r, second⟩ => ⟨r, first.followed second⟩
    | ⟨(.ok (.inr a), m₁), first⟩ => ⟨(.ok a, m₁), first⟩
    | ⟨(.error s, m₁), first⟩ => ⟨(.error s, m₁), first⟩

/-! ## Tests -/

/-- The record of a test whose body ended with a failure. -/
def failedRecord (name : String) (f : Failure) : AssertionResult :=
  match f.matcherFailure? with
  | some m => { AssertionResult.fail name f.message with expected := m.expected, actual := m.actual }
  | none => .fail name f.message

/-- What a test records when its body ended as it did; nothing when it was cut off. -/
def recordOf (name : String) : Except Stop α → AssertionResult
  | .error (.failed f) => failedRecord name f
  | _ => .pass name

/-- Run a test: the body once, and then the record of how it ended. A body that is cut off leaves no
record. -/
def test (name : String) (body : Eval α) : Eval Unit := fun m =>
  match body { m with host := m.host.begin } with
  | ⟨(r, m₁), inner⟩ =>
    if whole : cutOff r = false then
      ⟨(.ok (), { m₁ with host := m₁.host.record (recordOf name r) }),
       .record _ (.trans (.begin (.refl _)) inner.evolves),
       fun _ => .test _ (inner.nests whole)⟩
    else
      match r with
      | .error s =>
        ⟨(.error s, m₁), .trans (.begin (.refl _)) inner.evolves,
         fun notCut => absurd notCut whole⟩
      | .ok _ => absurd rfl whole

end Eval

end CollectionRunner
