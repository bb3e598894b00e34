import CollectionRunner.Proofs.Script.Tests

/-!
# The order of records

A test leaves its record when it ends, and by then the tests in its body have left theirs.  What a
host notes of tests is read as a list of `TestCall`s in one way only (`TestCall.marksAll_inj`).
Numbering the calls in the order in which they were made, `TestCall.endedAll` lists their records in
the order in which they ended: each number comes once (`TestCall.numbers_endedAll`), and the numbers
ascend just when no test is called in the body of another (`TestCall.ascending_endedAll_iff`).  Main
statement: `Script.tests_listed`, for every script that is not cut off.
-/

namespace CollectionRunner

namespace TestCall

/-! ## Reading marks -/

/-- Marks that are no part of the tests before them: no test begins there. -/
def Apart (marks : List TestMark) : Prop := ∀ mark ∈ marks.head?, mark.isBegin = false

theorem apart_nil : Apart [] := nofun

theorem apart_ended (r : AssertionResult) (marks : List TestMark) : Apart (.ended r :: marks) := by
  intro mark first
  cases first
  rfl

theorem not_apart_marks (call : TestCall) (rest : List TestMark) :
    ¬ Apart (call.marks ++ rest) := by
  intro apart
  obtain ⟨inner, r⟩ := call
  rw [marks] at apart
  cases apart .began rfl

mutual

theorem marks_inj : ∀ {a b : TestCall} {s t : List TestMark},
    a.marks ++ s = b.marks ++ t → a = b ∧ s = t
  | ⟨inner, r⟩, ⟨inner', r'⟩, s, t, same => by
    simp only [marks, List.cons_append, List.append_assoc, List.nil_append, List.cons.injEq,
      true_and] at same
    obtain ⟨rfl, rest⟩ := marksAll_inj (apart_ended r s) (apart_ended r' t) same
    cases rest
    exact ⟨rfl, rfl⟩

/-- Marks are those of tests in one way only. -/
theorem marksAll_inj : ∀ {as bs : List TestCall} {s t : List TestMark}, Apart s → Apart t →
    marksAll as ++ s = marksAll bs ++ t → as = bs ∧ s = t
  | [], [], _, _, _, _, same => ⟨rfl, same⟩
  -- Where one side has no more tests, the other goes on with a mark that begins one.
  | [], b :: bs, s, t, sApart, _, same => by
    rw [marksAll, marksAll, List.nil_append, List.append_assoc] at same
    rw [same] at sApart
    exact absurd sApart (not_apart_marks b _)
  | a :: as, [], s, t, _, tApart, same => by
    rw [marksAll, marksAll, List.nil_append, List.append_assoc] at same
    rw [← same] at tApart
    exact absurd tApart (not_apart_marks a _)
  | a :: as, b :: bs, s, t, sApart, tApart, same => by
    rw [marksAll, marksAll, List.append_assoc, List.append_assoc] at same
    obtain ⟨rfl, later⟩ := marks_inj same
    obtain ⟨rfl, tails⟩ := marksAll_inj sApart tApart later
    exact ⟨rfl, tails⟩

end

/-! ## Numbering calls -/

mutual

/-- Number of tests that a test consists of. -/
def size : TestCall → Nat
  | ⟨inner, _⟩ => sizeAll inner + 1

/-- Number of tests that some tests consist of. -/
def sizeAll : List TestCall → Nat
  | [] => 0
  | call :: rest => call.size + sizeAll rest

end

mutual

/-- The records of a test and of those in its body in the order in which they ended, each with the
number of its call.  Calls are numbered from `n` on as they are made, a call before those in its
body. -/
def ended (n : Nat) : TestCall → List (Nat × AssertionResult)
  | ⟨inner, result⟩ => endedAll (n + 1) inner ++ [(n, result)]

/-- The numbered records of tests one after the other. -/
def endedAll (n : Nat) : List TestCall → List (Nat × AssertionResult)
  | [] => []
  | call :: rest => ended n call ++ endedAll (n + call.size) rest

end

mutual

theorem records_ended : ∀ (n : Nat) (call : TestCall),
    (call.ended n).map Prod.snd = call.marks.filterMap TestMark.record?
  | n, ⟨inner, result⟩ => by
    have inside := records_endedAll (n + 1) inner
    rw [ended, marks, List.map_append, inside, List.filterMap_cons, List.filterMap_append]
    rfl

theorem records_endedAll : ∀ (n : Nat) (calls : List TestCall),
    (endedAll n calls).map Prod.snd = (marksAll calls).filterMap TestMark.record?
  | _, [] => rfl
  | n, call :: rest => by
    rw [endedAll, marksAll, List.map_append, List.filterMap_append, records_ended n call,
      records_endedAll (n + call.size) rest]

end

mutual

theorem numbers_ended : ∀ (n : Nat) (call : TestCall),
    ((call.ended n).map Prod.fst).Perm (List.range' n call.size)
  | n, ⟨inner, result⟩ => by
    have inside := numbers_endedAll (n + 1) inner
    rw [ended, size, List.map_append, List.range'_succ]
    exact (inside.append_right [n]).trans List.perm_append_comm

/-- Each number comes once. -/
theorem numbers_endedAll : ∀ (n : Nat) (calls : List TestCall),
    ((endedAll n calls).map Prod.fst).Perm (List.range' n (sizeAll calls))
  | _, [] => .nil
  | n, call :: rest => by
    rw [endedAll, sizeAll, List.map_append, ← List.range'_append_1]
    exact (numbers_ended n call).append (numbers_endedAll (n + call.size) rest)

end

theorem lt_of_mem_ended {n : Nat} {call : TestCall} {e : Nat × AssertionResult}
    (member : e ∈ call.ended n) : e.1 < n + call.size := by
  have listed := (numbers_ended n call).mem_iff.mp (List.mem_map_of_mem member)
  exact (List.mem_range'_1.mp listed).2

theorem le_of_mem_endedAll {n : Nat} {calls : List TestCall} {e : Nat × AssertionResult}
    (member : e ∈ endedAll n calls) : n ≤ e.1 := by
  have listed := (numbers_endedAll n calls).mem_iff.mp (List.mem_map_of_mem member)
  exact (List.mem_range'_1.mp listed).1

/-- Records come in the order in which their calls were made. -/
def Ascending (records : List (Nat × AssertionResult)) : Prop := records.Pairwise (·.1 < ·.1)

/-- The record of a test comes after those of the tests in its body. -/
theorem ascending_ended_iff {n : Nat} {call : TestCall} :
    Ascending (call.ended n) ↔ call.inner = [] := by
  obtain ⟨inner, result⟩ := call
  cases inner with
  | nil => exact ⟨fun _ => rfl, fun _ => List.pairwise_singleton _ _⟩
  | cons first rest =>
    refine ⟨fun ascending => ?_, nofun⟩
    obtain ⟨e, member⟩ : ∃ e, e ∈ endedAll (n + 1) (first :: rest) := by
      obtain ⟨inner, r⟩ := first
      exact ⟨(n + 1, r), by simp [endedAll, ended]⟩
    rw [ended, Ascending, List.pairwise_append] at ascending
    have before : e.1 < n := ascending.2.2 e member (n, result) (List.mem_singleton.mpr rfl)
    have after := le_of_mem_endedAll member
    omega

/-- Records come in the order of the calls just when no test is called in the body of another. -/
theorem ascending_endedAll_iff {n : Nat} {calls : List TestCall} :
    Ascending (endedAll n calls) ↔ ∀ call ∈ calls, call.inner = [] := by
  induction calls generalizing n with
  | nil => exact ⟨fun _ _ => nofun, fun _ => .nil⟩
  | cons call rest ih =>
    -- What a test leaves comes before all that later tests leave.
    have across : ∀ a ∈ call.ended n, ∀ b ∈ endedAll (n + call.size) rest, a.1 < b.1 :=
      fun a first b later =>
        Nat.lt_of_lt_of_le (lt_of_mem_ended first) (le_of_mem_endedAll later)
    rw [List.forall_mem_cons, ← ascending_ended_iff (n := n), ← ih (n := n + call.size)]
    unfold Ascending
    rw [endedAll, List.pairwise_append]
    exact ⟨fun ⟨first, later, _⟩ => ⟨first, later⟩, fun ⟨first, later⟩ => ⟨first, later, across⟩⟩

end TestCall

/-! ## Whole scripts -/

namespace Script

/-- How a script lists the records of its tests: as the tests ended, each test once. -/
structure Lists (noted : List TestMark) (listed : List AssertionResult) (calls : List TestCall) :
    Prop where
  marks : noted = TestCall.marksAll calls
  /-- The marks are those of no other tests. -/
  only : ∀ others, noted = TestCall.marksAll others → others = calls
  records : listed = (TestCall.endedAll 0 calls).map Prod.snd
  once : ((TestCall.endedAll 0 calls).map Prod.fst).Perm
    (List.range (TestCall.sizeAll calls))
  ascending_iff : TestCall.Ascending (TestCall.endedAll 0 calls) ↔
    ∀ call ∈ calls, call.inner = []

/-- A host that began without tests lists their records as they ended, each test once. -/
theorem lists_of_nests {start h : Host} (fresh : start.marks = [] ∧ start.assertions = [])
    (evolves : start.Evolves h) (nests : start.Nests h) :
    ∃ calls, Lists h.marks h.assertions calls := by
  obtain ⟨calls, marks⟩ := nests
  obtain ⟨new, noted, assertions, -⟩ := evolves.noted
  rw [fresh.1, List.nil_append] at marks noted
  rw [fresh.2, List.nil_append, ← noted, marks, ← TestCall.records_endedAll 0] at assertions
  refine ⟨calls, marks, fun others same => ?_, assertions, ?_, TestCall.ascending_endedAll_iff⟩
  · rw [marks] at same
    have only := TestCall.marksAll_inj TestCall.apart_nil TestCall.apart_nil
      (congrArg (· ++ []) same)
    exact only.1.symm
  · rw [List.range_eq_range']
    exact TestCall.numbers_endedAll 0 calls

/-- A script that is not cut off lists the records of its tests as they ended.  That is the order in
which they were called unless a test is called in the body of another. -/
theorem tests_listed (around : Surroundings) (budget : Duration) (script : String) (o : Occasion) :
    (∃ ms, (conduct.execute around budget script o).result.error = some (.timeout ms)) ∨
      ∃ calls, Lists (conduct.ending around budget script o).marks
        (conduct.execute around budget script o).result.assertions calls := by
  unfold Scripting.execute Scripting.ending
  split
  · exact .inr (lists_of_nests ⟨rfl, rfl⟩ (.refl o.host) (.refl _))
  · rcases conduct_nests script around budget o.host with cut | nests
    · exact .inl cut
    · exact .inr (lists_of_nests ⟨rfl, rfl⟩ (conduct script around budget o.host).evolves nests)

/-- The record of a test in the body of another comes first. -/
theorem inner_test_listed_first :
    let script := "test(\"outer\", || test(\"inner\", || 1));"
    let calls : List TestCall := [⟨[⟨[], .pass "inner"⟩], .pass "outer"⟩]
    (conduct.execute default (.ofMilliseconds 1) script default).result.error = none ∧
      (conduct.ending default (.ofMilliseconds 1) script default).marks = TestCall.marksAll calls ∧
      (conduct.execute default (.ofMilliseconds 1) script default).result.assertions =
        [.pass "inner", .pass "outer"] ∧
      ¬ TestCall.Ascending (TestCall.endedAll 0 calls) := by
  refine ⟨by decide +kernel, by decide +kernel, by decide +kernel, ?_⟩
  rw [TestCall.ascending_endedAll_iff]
  intro flat
  cases flat _ List.mem_cons_self

end Script

end CollectionRunner
