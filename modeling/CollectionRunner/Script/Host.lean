import CollectionRunner.Env.Placeholder
import CollectionRunner.Env.Tracker
import CollectionRunner.Http.View
import CollectionRunner.Script.Result

/-!
# What a script works on

The `Host` of a script holds the views of its request and response, its tracked variables, and what
it recorded and sent. A script moves its host on by effects and by tests, and in no other way:
`Host.Evolves` is that relation. `Host.Nests` says that every test begun also ended, tests in the
body of another before that one.
-/

namespace CollectionRunner

/-- The two sets of variables a script can change. -/
inductive Store
  | environment
  | globals
  deriving DecidableEq, Repr, Inhabited

/-- What is noted of a test: that it began, and the record it left when it ended. -/
inductive TestMark
  | began
  | ended (result : AssertionResult)
  deriving DecidableEq, Repr, Inhabited

namespace TestMark

/-- Whether a test began. -/
def isBegin : TestMark → Bool
  | began => true
  | ended _ => false

/-- The record of a test that ended. -/
def record? : TestMark → Option AssertionResult
  | began => none
  | ended result => some result

end TestMark

/-- A test that ended: the tests in its body, first things first, and its record. -/
structure TestCall where
  inner : List TestCall
  result : AssertionResult

namespace TestCall

mutual

/-- What is noted of a test and of those in its body. -/
def marks : TestCall → List TestMark
  | ⟨inner, result⟩ => .began :: (marksAll inner ++ [.ended result])

/-- What is noted of tests one after the other. -/
def marksAll : List TestCall → List TestMark
  | [] => []
  | call :: rest => marks call ++ marksAll rest

end

theorem marksAll_append (calls others : List TestCall) :
    marksAll (calls ++ others) = marksAll calls ++ marksAll others := by
  induction calls with
  | nil => rfl
  | cons call rest ih => rw [List.cons_append, marksAll, marksAll, ih, List.append_assoc]

mutual

theorem length_recordsOf : ∀ call : TestCall,
    ((marks call).filterMap TestMark.record?).length = (marks call).countP TestMark.isBegin
  | ⟨inner, result⟩ => by
    have inside := length_records inner
    simp only [marks, List.filterMap_cons, TestMark.record?, List.filterMap_append,
      List.length_append, inside, List.countP_cons, List.countP_append, TestMark.isBegin]
    rfl

/-- Tests leave as many records as there are. -/
theorem length_records : ∀ calls : List TestCall,
    ((marksAll calls).filterMap TestMark.record?).length =
      (marksAll calls).countP TestMark.isBegin
  | [] => rfl
  | call :: rest => by
    rw [marksAll, List.filterMap_append, List.length_append, length_recordsOf call,
      length_records rest, List.countP_append]

end

end TestCall

/-- What a script works on. -/
structure Host where
  request : RequestView
  response : Option Response
  environment : Tracker
  globals : Tracker
  console : List ConsoleEntry
  assertions : List AssertionResult
  /-- Number of tests that were begun. -/
  begun : Nat
  /-- When tests began and ended, first things first. -/
  marks : List TestMark
  /-- The requests sent so far, by this script and before it. -/
  sent : List Request
  deriving Inhabited

/-- What a script does to its host besides testing. -/
inductive Effect
  | setUrl (url : String)
  | setHeader (name value : String)
  | removeHeader (name : String)
  | setBody (body : String)
  | set (store : Store) (name value : String)
  | unset (store : Store) (name : String)
  | log (entry : ConsoleEntry)
  | send (request : Request)
  deriving DecidableEq, Repr, Inhabited

namespace Host

/-- The tracked variables of a store. -/
def tracker (h : Host) : Store → Tracker
  | .environment => h.environment
  | .globals => h.globals

/-- Change the tracked variables of a store. -/
def onTracker (h : Host) (store : Store) (f : Tracker → Tracker) : Host :=
  match store with
  | .environment => { h with environment := f h.environment }
  | .globals => { h with globals := f h.globals }

/-- Replace the view of the request; a refused change leaves it. -/
def onRequest (h : Host) (view : Option RequestView) : Host :=
  match view with
  | some view => { h with request := view }
  | none => h

/-- The host after an effect. -/
def apply (h : Host) : Effect → Host
  | .setUrl url => h.onRequest (h.request.setUrl url)
  | .setHeader name value => h.onRequest (h.request.setHeader name value)
  | .removeHeader name => h.onRequest ((h.request.removeHeader name).map Prod.fst)
  | .setBody body => h.onRequest (h.request.setBody body)
  | .set store name value => h.onTracker store (·.set name value)
  | .unset store name => h.onTracker store (·.unset name)
  | .log entry => { h with console := h.console ++ [entry] }
  | .send request => { h with sent := h.sent ++ [request] }

/-- The host when a test begins. -/
def begin (h : Host) : Host := { h with begun := h.begun + 1, marks := h.marks ++ [.began] }

/-- The host with the record of a test that ended. -/
def record (h : Host) (result : AssertionResult) : Host :=
  { h with assertions := h.assertions ++ [result], marks := h.marks ++ [.ended result] }

/-- The variables that placeholders see: live values, those of the environment first. -/
def visible (h : Host) : Variables :=
  Variables.visible h.globals.snapshot h.environment.snapshot

/-- Reached from another host by effects and tests. -/
inductive Evolves : Host → Host → Prop
  | refl (h : Host) : Evolves h h
  | effect {h g : Host} (e : Effect) : Evolves h g → Evolves h (g.apply e)
  | begin {h g : Host} : Evolves h g → Evolves h g.begin
  | record {h g : Host} (r : AssertionResult) : Evolves h g → Evolves h (g.record r)

theorem Evolves.trans {a b c : Host} (first : Evolves a b) (second : Evolves b c) :
    Evolves a c := by
  induction second with
  | refl => exact first
  | effect e _ ih => exact .effect e ih
  | begin _ ih => exact .begin ih
  | record r _ ih => exact .record r ih

theorem begun_apply (h : Host) (e : Effect) : (h.apply e).begun = h.begun := by
  cases e <;> simp only [apply, onRequest, onTracker] <;> split <;> rfl

theorem assertions_apply (h : Host) (e : Effect) : (h.apply e).assertions = h.assertions := by
  cases e <;> simp only [apply, onRequest, onTracker] <;> split <;> rfl

theorem marks_apply (h : Host) (e : Effect) : (h.apply e).marks = h.marks := by
  cases e <;> simp only [apply, onRequest, onTracker] <;> split <;> rfl

/-! ## Tests -/

/-- What is noted of tests between two hosts counts them and holds their records. -/
theorem Evolves.noted {a b : Host} (evolves : a.Evolves b) :
    ∃ new, b.marks = a.marks ++ new ∧
      b.assertions = a.assertions ++ new.filterMap TestMark.record? ∧
      b.begun = a.begun + new.countP TestMark.isBegin := by
  induction evolves with
  | refl => exact ⟨[], by simp⟩
  | effect e _ ih =>
    rw [marks_apply, assertions_apply, begun_apply]
    exact ih
  | begin _ ih =>
    obtain ⟨new, marks, assertions, begun⟩ := ih
    refine ⟨new ++ [.began], ?_, ?_, ?_⟩
    · rw [Host.begin, marks, List.append_assoc]
    · rw [Host.begin, assertions, List.filterMap_append]
      exact congrArg _ (List.append_nil _).symm
    · rw [Host.begin, begun, List.countP_append]
      rfl
  | record r _ ih =>
    obtain ⟨new, marks, assertions, begun⟩ := ih
    refine ⟨new ++ [.ended r], ?_, ?_, ?_⟩
    · rw [Host.record, marks, List.append_assoc]
    · rw [Host.record, assertions, List.filterMap_append, List.append_assoc]
      rfl
    · rw [Host.record, begun, List.countP_append]
      rfl

/-- The tests that began between two hosts also ended between them. -/
def Nests (a b : Host) : Prop := ∃ calls, b.marks = a.marks ++ TestCall.marksAll calls

theorem Nests.refl (h : Host) : Nests h h := ⟨[], (List.append_nil _).symm⟩

theorem Nests.trans {a b c : Host} (first : Nests a b) (second : Nests b c) : Nests a c := by
  obtain ⟨calls, marks⟩ := first
  obtain ⟨others, more⟩ := second
  exact ⟨calls ++ others, by rw [more, marks, TestCall.marksAll_append, List.append_assoc]⟩

theorem Nests.apply (h : Host) (e : Effect) : Nests h (h.apply e) :=
  ⟨[], by rw [marks_apply, TestCall.marksAll, List.append_nil]⟩

/-- A test whose body was left is one more test that ended. -/
theorem Nests.test {h g : Host} (r : AssertionResult) (body : Nests h.begin g) :
    Nests h (g.record r) := by
  obtain ⟨inner, marks⟩ := body
  refine ⟨[⟨inner, r⟩], ?_⟩
  rw [record, marks, begin, TestCall.marksAll, TestCall.marks, TestCall.marksAll]
  simp only [List.append_assoc, List.cons_append, List.nil_append, List.append_nil]

/-- As many records were added between two hosts as tests were begun. -/
def Balanced (a b : Host) : Prop :=
  b.begun + a.assertions.length = a.begun + b.assertions.length

theorem Evolves.balanced {a b : Host} (evolves : a.Evolves b) (nests : a.Nests b) :
    a.Balanced b := by
  obtain ⟨new, marks, assertions, begun⟩ := evolves.noted
  obtain ⟨calls, tree⟩ := nests
  have same : new = TestCall.marksAll calls := List.append_cancel_left (marks.symm.trans tree)
  have counted := TestCall.length_records calls
  rw [Balanced, assertions, begun, List.length_append, same, counted]
  omega

end Host

end CollectionRunner
