import CollectionRunner.Text.Category

/-!
# Finding categories

A run that starts at or before a character and after which all runs start later is the one that
bisection finds (`Text.bisect_eq`), so the character has its category (`Text.categoryIn_eq`).  As
runs are read in order, that is known of the first ones without reading the rest
(`Text.category_of_low`).
-/

namespace CollectionRunner.Text

/-! ## Bisection -/

/-- The run at `k` is the last one that starts at or before a code point. -/
structure LastRun (table : Array (Nat × Category)) (code k : Nat) : Prop where
  before : ∀ {i : Nat} {run : Nat × Category}, table[i]? = some run → i ≤ k → run.1 ≤ code
  after : ∀ {i : Nat} {run : Nat × Category}, table[i]? = some run → k < i → code < run.1

/-- Bisection finds the last run that starts at or before a code point, between any two bounds
around it and with fuel for their distance. -/
theorem bisect_eq {table : Array (Nat × Category)} {code k fuel low high : Nat}
    (last : LastRun table code k) (above : low ≤ k) (below : k < high) (within : high ≤ table.size)
    (enough : high - low ≤ fuel + 1) : bisect table code fuel low high = k := by
  induction fuel generalizing low high with
  | zero =>
    rw [bisect]
    omega
  | succ fuel ih =>
    rw [bisect]
    split
    · omega
    · have inside : (low + high) / 2 < table.size := by omega
      have found := Array.getElem?_eq_getElem inside
      simp only [found]
      split
      · rename_i starts
        have reached : (low + high) / 2 ≤ k := Nat.le_of_not_lt fun later =>
          Nat.not_lt_of_le starts (last.after found later)
        exact ih reached below within (by omega)
      · rename_i startsLater
        have passed : k < (low + high) / 2 := Nat.lt_of_not_le fun earlier =>
          startsLater (last.before found earlier)
        exact ih above passed (by omega) (by omega)

/-- A code point has the category of the last run that starts at or before it. -/
theorem categoryIn_eq {table : Array (Nat × Category)} {code : Nat}
    {before after : List (Nat × Category)} {run : Nat × Category}
    (runs : table.toList = before ++ run :: after)
    (starts : ∀ other ∈ before ++ [run], other.1 ≤ code) (ends : ∀ other ∈ after, code < other.1) :
    categoryIn table code = run.2 := by
  have last : LastRun table code before.length := by
    constructor
    · intro i other found early
      rw [← Array.getElem?_toList, runs, List.append_cons,
        List.getElem?_append_left (by simp; omega)] at found
      exact starts other (List.mem_of_getElem? found)
    · intro i other found late
      rw [← Array.getElem?_toList, runs, List.append_cons,
        List.getElem?_append_right (by simp; omega)] at found
      exact ends other (List.mem_of_getElem? found)
  have inside : before.length < table.size := by
    rw [← Array.length_toList, runs, List.length_append, List.length_cons]
    omega
  have enough : table.size - 0 ≤ table.size + 1 := Nat.le_succ _
  have found : table[before.length]? = some run := by
    rw [← Array.getElem?_toList, runs, List.getElem?_append_right (Nat.le_refl _), Nat.sub_self]
    rfl
  rw [categoryIn, bisect_eq last (Nat.zero_le _) inside (Nat.le_refl _) enough, found]

/-! ## Reading runs -/

/-- Runs are read in order. -/
theorem readRuns_starts (cs : List Char) (start : Nat) (table : Array (Nat × Category)) :
    ∃ more, (readRuns cs start table).toList = table.toList ++ more ∧
      ∀ run ∈ more, start ≤ run.1 := by
  fun_induction readRuns cs start table with
  | case1 a b rest start table digit ih => exact ih
  | case2 a b rest start table letter category digits length ih =>
    obtain ⟨more, read, later⟩ := ih
    refine ⟨(start, category) :: more, ?_, ?_⟩
    · rw [read, Array.toList_push, List.append_assoc]
      rfl
    · intro run member
      rcases List.mem_cons.mp member with rfl | member
      · exact Nat.le_refl _
      · exact Nat.le_trans (Nat.le_add_right _ _) (later run member)
  | case3 => exact ⟨[], (List.append_nil _).symm, nofun⟩

theorem toList_foldl_append (texts : List String) (s : String) :
    (texts.foldl (· ++ ·) s).toList = s.toList ++ (texts.map String.toList).flatten := by
  induction texts generalizing s with
  | nil => simp
  | cons t texts ih => simp [ih]

theorem exists_append {cs start : List Char} {c : Char} {n : Nat}
    (starts : cs.take n = start ++ [c]) (more : List Char) :
    ∃ rest, cs ++ more = start ++ c :: rest := by
  refine ⟨cs.drop n ++ more, ?_⟩
  rw [List.append_cons, ← starts, ← List.append_assoc, List.take_append_drop]

/-- The runs of the code points below 58. -/
def lowRuns : List (Nat × Category) :=
  [(0, .Cc), (32, .Zs), (33, .Po), (36, .Sc), (37, .Po), (40, .Ps), (41, .Pe), (42, .Po), (43, .Sm),
   (44, .Po), (45, .Pd), (46, .Po), (48, .Nd)]

theorem readRuns_low (cs : List Char) :
    readRuns ("Cc32ZsPo3ScPo3PsPePoSmPoPdPo2Nd10".toList ++ 'P' :: cs) 0 #[] =
      readRuns ('P' :: cs) 58 lowRuns.toArray := by
  rfl

theorem categoryTable_low :
    ∃ more, categoryTable.toList = lowRuns ++ more ∧ ∀ run ∈ more, 58 ≤ run.1 := by
  obtain ⟨cs, text⟩ : ∃ cs, categoryRuns.toList =
      "Cc32ZsPo3ScPo3PsPePoSmPoPdPo2Nd10".toList ++ 'P' :: cs := by
    rw [categoryRuns, String.join, List.foldl_cons, toList_foldl_append]
    exact exists_append (n := 34) (by decide +kernel) _
  rw [categoryTable, text, readRuns_low]
  exact readRuns_starts _ _ _

/-- The category of a code point below 58, by the run that it falls in. -/
theorem category_of_low {c : Char} (before after : List (Nat × Category)) (run : Nat × Category)
    (runs : lowRuns = before ++ run :: after)
    (starts : ∀ other ∈ before ++ [run], other.1 ≤ c.toNat)
    (ends : ∀ other ∈ after, c.toNat < other.1) (low : c.toNat < 58) : category c = run.2 := by
  obtain ⟨more, table, later⟩ := categoryTable_low
  rw [runs, List.append_assoc] at table
  refine categoryIn_eq table starts ?_
  intro other member
  rcases List.mem_append.mp member with near | far
  · exact ends other near
  · exact Nat.lt_of_lt_of_le low (later other far)

/-- The category of a digit from `0` to `9`. -/
theorem category_of_isDigit {c : Char} (digit : c.isDigit = true) : category c = .Nd := by
  obtain ⟨first, last⟩ : 48 ≤ c.toNat ∧ c.toNat ≤ 57 := by
    rw [Char.isDigit, Bool.and_eq_true, decide_eq_true_eq, decide_eq_true_eq] at digit
    exact digit
  have starts : ∀ run ∈ lowRuns, run.1 ≤ 48 := by decide
  exact category_of_low (lowRuns.take 12) [] (48, .Nd) rfl
    (fun run member => Nat.le_trans (starts run member) first) nofun (by omega)

theorem category_comma : category ',' = .Po :=
  category_of_low (lowRuns.take 9) (lowRuns.drop 10) (44, .Po) rfl (by decide) (by decide)
    (by decide)

theorem category_open : category '(' = .Ps :=
  category_of_low (lowRuns.take 5) (lowRuns.drop 6) (40, .Ps) rfl (by decide) (by decide)
    (by decide)

theorem category_close : category ')' = .Pe :=
  category_of_low (lowRuns.take 6) (lowRuns.drop 7) (41, .Pe) rfl (by decide) (by decide)
    (by decide)

end CollectionRunner.Text
