import CollectionRunner.Proofs.Script.Integers
import CollectionRunner.Proofs.Script.NumberText
import CollectionRunner.Proofs.Text.Quoted

/-!
# Descriptions tell values apart

Messages describe values in one line.  Texts are quoted there, but the names of maps are not, and a
name may look like an entry (`described_alike`).  Values whose names have no colon before a blank are
`Legible`: what describes them in a longer line is read in one way (`Legible.read`), by the kind that
its first character tells.  Main statement: `told_apart`.
-/

namespace CollectionRunner.ScriptValue

/-! ## Equal values -/

theorem sameItems_iff {as bs : List ScriptValue} :
    sameItems as bs = true ↔ List.Forall₂ (fun a b => a.same b = true) as bs := by
  induction as generalizing bs with
  | nil => cases bs <;> simp [sameItems]
  | cons a as ih => cases bs <;> simp [sameItems, ih]

theorem sameEntries_iff {as bs : List (String × ScriptValue)} :
    sameEntries as bs = true ↔
      List.Forall₂ (fun a b => a.1 = b.1 ∧ a.2.same b.2 = true) as bs := by
  induction as generalizing bs with
  | nil => cases bs <;> simp [sameEntries]
  | cons a as ih => cases bs <;> simp [sameEntries, ih]

theorem describeItems_eq (items : List ScriptValue) :
    describeItems items = items.map describe := by
  induction items with
  | nil => rfl
  | cons item rest ih => rw [describeItems, ih, List.map_cons]

theorem describeEntries_eq (entries : List (String × ScriptValue)) :
    describeEntries entries = entries.map fun e => e.1 ++ ": " ++ e.2.describe := by
  induction entries with
  | nil => rfl
  | cons entry rest ih => rw [describeEntries, ih, List.map_cons]

mutual

/-- Equal values are described alike. -/
theorem describe_of_same : ∀ {a b : ScriptValue}, a.same b = true → a.describe = b.describe
  | null, null, _ => rfl
  | bool _, bool _, equal => by rw [beq_iff_eq.mp equal]
  | number _, number _, equal => numberText_of_beq equal
  | text _, text _, equal => by rw [beq_iff_eq.mp equal]
  | list _, list _, equal => by rw [describe, describe, describeItems_of_same equal]
  | map _, map _, equal => by rw [describe, describe, describeEntries_of_same equal]

theorem describeItems_of_same : ∀ {as bs : List ScriptValue}, sameItems as bs = true →
    describeItems as = describeItems bs
  | [], [], _ => rfl
  | a :: as, b :: bs, equal => by
    obtain ⟨first, rest⟩ := Bool.and_eq_true_iff.mp equal
    rw [describeItems, describeItems, describe_of_same first, describeItems_of_same rest]

theorem describeEntries_of_same : ∀ {as bs : List (String × ScriptValue)},
    sameEntries as bs = true → describeEntries as = describeEntries bs
  | [], [], _ => rfl
  | (k, a) :: as, (l, b) :: bs, equal => by
    obtain ⟨first, rest⟩ := Bool.and_eq_true_iff.mp equal
    obtain ⟨name, value⟩ := Bool.and_eq_true_iff.mp first
    rw [describeEntries, describeEntries, beq_iff_eq.mp name, describe_of_same value,
      describeEntries_of_same rest]

end

/-! ## Where a value ends -/

/-- What may follow a value in a line: nothing, or what stands between values. -/
def Ends (t : List Char) : Prop := ∀ c ∈ t.head?, c = ',' ∨ c = ' '

/-- A text without commas and blanks is told apart from what follows it, which starts with one of
them. -/
theorem append_inj_of_ends {s t u v : List Char} (first : ∀ c ∈ s, c ≠ ',' ∧ c ≠ ' ')
    (second : ∀ c ∈ t, c ≠ ',' ∧ c ≠ ' ') (sEnds : Ends u) (tEnds : Ends v)
    (same : s ++ u = t ++ v) : s = t ∧ u = v := by
  have inner {c : Char} {t u v : List Char} (plain : ∀ d ∈ c :: t, d ≠ ',' ∧ d ≠ ' ')
      (ends : Ends u) : u ≠ c :: t ++ v := by
    rintro rfl
    obtain ⟨comma, blank⟩ := plain c List.mem_cons_self
    exact (ends c rfl).elim comma blank
  induction s generalizing t with
  | nil =>
    cases t with
    | nil => exact ⟨rfl, same⟩
    | cons d t => exact absurd same (inner second sEnds)
  | cons c s ih =>
    cases t with
    | nil => exact absurd same.symm (inner first tEnds)
    | cons d t =>
      obtain ⟨rfl, rest⟩ := List.cons_eq_cons.mp same
      obtain ⟨rfl, follow⟩ := ih (List.forall_mem_cons.mp first).2 (List.forall_mem_cons.mp second).2
        rest
      exact ⟨rfl, follow⟩

/-! ## Names -/

/-- The name has no mark of its end in it. -/
def Markless (name : String) : Prop := ¬ [':', ' '] <:+: name.toList

instance (name : String) : Decidable (Markless name) :=
  inferInstanceAs (Decidable (¬ [':', ' '] <:+: name.toList))

/-- The first mark is the one after the name. -/
theorem name_inj {k l s t : List Char} (first : ¬ [':', ' '] <:+: k)
    (second : ¬ [':', ' '] <:+: l) (same : k ++ ':' :: ' ' :: s = l ++ ':' :: ' ' :: t) :
    k = l ∧ s = t := by
  have inner {c : Char} {k s t : List Char} (markless : ¬ [':', ' '] <:+: c :: k) :
      ':' :: ' ' :: s ≠ c :: k ++ ':' :: ' ' :: t := by
    intro same
    obtain ⟨rfl, rest⟩ := List.cons_eq_cons.mp same
    cases k with
    | nil =>
      have blank := List.head_eq_of_cons_eq rest
      cases blank
    | cons d k =>
      obtain ⟨rfl, -⟩ := List.cons_eq_cons.mp rest
      exact markless ⟨[], k, rfl⟩
  induction k generalizing l with
  | nil =>
    cases l with
    | nil => exact ⟨rfl, List.tail_eq_of_cons_eq (List.tail_eq_of_cons_eq same)⟩
    | cons d l => exact absurd same (inner second)
  | cons c k ih =>
    cases l with
    | nil => exact absurd same.symm (inner first)
    | cons d l =>
      obtain ⟨rfl, rest⟩ := List.cons_eq_cons.mp same
      have shorter {k : List Char} (markless : ¬ [':', ' '] <:+: c :: k) : ¬ [':', ' '] <:+: k :=
        fun mark => markless (mark.trans (List.suffix_cons c k).isInfix)
      obtain ⟨rfl, follow⟩ := ih (shorter first) (shorter second) rest
      exact ⟨rfl, follow⟩

/-! ## Lists and maps -/

/-- What stands after the first of some texts, up to the closing bracket or brace. -/
def following (close : Char) : List (List Char) → List Char
  | [] => [' ', close]
  | t :: ts => ',' :: ' ' :: (t ++ following close ts)

/-- What stands after an opening bracket or brace. -/
def enclosed (close : Char) : List (List Char) → List Char
  | [] => [close]
  | t :: ts => ' ' :: (t ++ following close ts)

theorem toList_intercalate (close : Char) (s : String) (ss : List String) :
    (String.intercalate ", " (s :: ss)).toList ++ [' ', close] =
      s.toList ++ following close (ss.map String.toList) := by
  induction ss generalizing s with
  | nil => simp [following]
  | cons t ss ih =>
    rw [String.intercalate_cons_cons, String.toList_append, String.toList_append, List.append_assoc,
      List.append_assoc, ih]
    rfl

theorem toList_bracketed (ss : List String) :
    (bracketed ss).toList = '[' :: enclosed ']' (ss.map String.toList) := by
  cases ss with
  | nil => rfl
  | cons s ss =>
    rw [bracketed, List.isEmpty_cons, if_neg Bool.false_ne_true, String.toList_append,
      String.toList_append, List.append_assoc]
    exact congrArg ('[' :: ' ' :: ·) (toList_intercalate ']' s ss)

theorem toList_braced (ss : List String) :
    (braced ss).toList = '\x7b' :: enclosed '\x7d' (ss.map String.toList) := by
  cases ss with
  | nil => rfl
  | cons s ss =>
    rw [braced, List.isEmpty_cons, if_neg Bool.false_ne_true, String.toList_append,
      String.toList_append, List.append_assoc]
    exact congrArg ('\x7b' :: ' ' :: ·) (toList_intercalate '\x7d' s ss)

/-- Each item of one list and each of another are read in one way in a longer line. -/
def Apart (shown : α → List Char) (Same : α → α → Prop) (as bs : List α) : Prop :=
  ∀ a ∈ as, ∀ b ∈ bs, ∀ {t u}, Ends t → Ends u → shown a ++ t = shown b ++ u → Same a b ∧ t = u

section Items

variable {shown : α → List Char} {Same : α → α → Prop} {as bs : List α} {a b : α} {close : Char}
  {t u : List Char}

theorem Apart.tail (apart : Apart shown Same (a :: as) (b :: bs)) : Apart shown Same as bs :=
  fun a aMember b bMember => apart a (List.mem_cons_of_mem _ aMember) b
    (List.mem_cons_of_mem _ bMember)

theorem ends_following (close : Char) (ts : List (List Char)) (t : List Char) :
    Ends (following close ts ++ t) := by
  cases ts with
  | nil =>
    rintro c ⟨⟩
    exact .inr rfl
  | cons =>
    rintro c ⟨⟩
    exact .inl rfl

/-- The items after the first one are read up to the closing mark in one way, if each of them is. -/
theorem following_inj (apart : Apart shown Same as bs)
    (same : following close (as.map shown) ++ t = following close (bs.map shown) ++ u) :
    List.Forall₂ Same as bs ∧ t = u := by
  induction as generalizing bs with
  | nil =>
    cases bs with
    | nil => exact ⟨.nil, List.append_cancel_left same⟩
    | cons b bs => cases List.head_eq_of_cons_eq same
  | cons a as ih =>
    cases bs with
    | nil => cases List.head_eq_of_cons_eq same
    | cons b bs =>
      have items : shown a ++ following close (as.map shown) ++ t =
          shown b ++ following close (bs.map shown) ++ u :=
        List.tail_eq_of_cons_eq (List.tail_eq_of_cons_eq same)
      rw [List.append_assoc, List.append_assoc] at items
      obtain ⟨first, rest⟩ := apart a List.mem_cons_self b List.mem_cons_self
        (ends_following _ _ _) (ends_following _ _ _) items
      obtain ⟨others, follow⟩ := ih apart.tail rest
      exact ⟨.cons first others, follow⟩

/-- Two texts that open a list or a map and go on alike hold the same items, and the same text
follows them. -/
theorem enclosed_inj (visible : close ≠ ' ') (apart : Apart shown Same as bs)
    (same : enclosed close (as.map shown) ++ t = enclosed close (bs.map shown) ++ u) :
    List.Forall₂ Same as bs ∧ t = u := by
  cases as with
  | nil =>
    cases bs with
    | nil => exact ⟨.nil, List.tail_eq_of_cons_eq same⟩
    | cons b bs => exact absurd (List.head_eq_of_cons_eq same) visible
  | cons a as =>
    cases bs with
    | nil => exact absurd (List.head_eq_of_cons_eq same).symm visible
    | cons b bs =>
      -- Another comma makes these the items that follow a first one.
      exact following_inj apart (congrArg (',' :: ·) same)

end Items

/-! ## Legible values -/

/-- Every number in the value is one, and no name of a map has a colon before a blank. -/
inductive Legible : ScriptValue → Prop
  | null : Legible null
  | bool (b : Bool) : Legible (bool b)
  | number {x : Float} : Number.notANumber x = false → Legible (number x)
  | text (s : String) : Legible (text s)
  | list {items : List ScriptValue} : (∀ item ∈ items, Legible item) → Legible (list items)
  | map {entries : List (String × ScriptValue)} : (∀ entry ∈ entries, Markless entry.1) →
    (∀ entry ∈ entries, Legible entry.2) → Legible (map entries)

/-- The kind of a value, by the first character that describes it. -/
def kindOf (c : Char) : String :=
  if c = 'n' then "null"
  else if c = 't' ∨ c = 'f' then "boolean"
  else if c = '"' then "string"
  else if c = '[' then "list"
  else if c = '\x7b' then "map"
  else "number"

theorem kindOf_number {c : Char} (start : c.isDigit ∨ c = '-' ∨ c = 'I') : kindOf c = "number" := by
  have other {d : Char} (letter : ¬ (d.isDigit ∨ d = '-' ∨ d = 'I')) : c ≠ d := by
    rintro rfl
    exact letter start
  unfold kindOf
  rw [if_neg (other (by decide)), if_neg (not_or.mpr ⟨other (by decide), other (by decide)⟩),
    if_neg (other (by decide)), if_neg (other (by decide)), if_neg (other (by decide))]

/-- The first character that describes a legible value tells of which kind the value is. -/
theorem Legible.head {v : ScriptValue} (legible : Legible v) :
    ∃ c rest, v.describe.toList = c :: rest ∧ kindOf c = v.typeName := by
  cases legible with
  | null => exact ⟨_, _, rfl, rfl⟩
  | bool b => cases b <;> exact ⟨_, _, rfl, rfl⟩
  | number number =>
    obtain ⟨c, rest, text, start⟩ := (shows_numberText number).head
    exact ⟨c, rest, text, kindOf_number start⟩
  | text s => exact ⟨'"', _, String.toList_ofList, rfl⟩
  | list => exact ⟨'[', _, toList_bracketed _, rfl⟩
  | map => exact ⟨'\x7b', _, toList_braced _, rfl⟩

theorem typeName_eq {a b : ScriptValue} {t u : List Char} (first : Legible a) (second : Legible b)
    (same : a.describe.toList ++ t = b.describe.toList ++ u) : a.typeName = b.typeName := by
  obtain ⟨c, cs, aText, aKind⟩ := first.head
  obtain ⟨d, ds, bText, bKind⟩ := second.head
  rw [aText, bText] at same
  rw [← aKind, ← bKind, List.head_eq_of_cons_eq same]

theorem bool_inj {x y : Bool} {t u : List Char}
    (same : (bool x).describe.toList ++ t = (bool y).describe.toList ++ u) : x = y ∧ t = u := by
  cases x <;> cases y
  · exact ⟨rfl, List.append_cancel_left same⟩
  · cases List.head_eq_of_cons_eq same
  · cases List.head_eq_of_cons_eq same
  · exact ⟨rfl, List.append_cancel_left same⟩

theorem number_inj {x y : Float} {t u : List Char} (first : Number.notANumber x = false)
    (second : Number.notANumber y = false) (tEnds : Ends t) (uEnds : Ends u)
    (same : (numberText x).toList ++ t = (numberText y).toList ++ u) :
    (x == y) = true ∧ t = u := by
  obtain ⟨text, follow⟩ := append_inj_of_ends (shows_numberText first).no_separator
    (shows_numberText second).no_separator tEnds uEnds same
  exact ⟨(numberText_eq_iff first second).mp (String.toList_inj.mp text), follow⟩

/-- A name without a colon before a blank ends at the first one, so an entry of a map splits in one
way. -/
theorem entry_inj {a b : String × ScriptValue} {t u : List Char} (first : Markless a.1)
    (second : Markless b.1)
    (same : (a.1 ++ ": " ++ a.2.describe).toList ++ t = (b.1 ++ ": " ++ b.2.describe).toList ++ u) :
    a.1 = b.1 ∧ a.2.describe.toList ++ t = b.2.describe.toList ++ u := by
  have shape (e : String × ScriptValue) (t : List Char) :
      (e.1 ++ ": " ++ e.2.describe).toList ++ t =
        e.1.toList ++ ':' :: ' ' :: (e.2.describe.toList ++ t) := by
    rw [String.toList_append, String.toList_append, List.append_assoc, List.append_assoc]
    rfl
  rw [shape, shape] at same
  obtain ⟨name, rest⟩ := name_inj first second same
  exact ⟨String.toList_inj.mp name, rest⟩

/-- Two lists that are described alike have the same items, with whatever may follow a value after
them. -/
theorem list_inj {as bs : List ScriptValue} {t u : List Char}
    (apart : Apart (·.describe.toList) (fun a b => a.same b = true) as bs)
    (same : (list as).describe.toList ++ t = (list bs).describe.toList ++ u) :
    (list as).same (list bs) = true ∧ t = u := by
  have shape (items : List ScriptValue) (t : List Char) : (list items).describe.toList ++ t =
      '[' :: (enclosed ']' (items.map (·.describe.toList)) ++ t) := by
    rw [describe, describeItems_eq, toList_bracketed, List.map_map]
    rfl
  rw [shape, shape] at same
  obtain ⟨items, follow⟩ := enclosed_inj (by decide) apart (List.tail_eq_of_cons_eq same)
  exact ⟨sameItems_iff.mpr items, follow⟩

/-- Two maps that are described alike have the same names with the same values, where the names mark
their own end. -/
theorem map_inj {as bs : List (String × ScriptValue)} {t u : List Char}
    (first : ∀ a ∈ as, Markless a.1) (second : ∀ b ∈ bs, Markless b.1)
    (apart : Apart (·.2.describe.toList) (fun a b => a.2.same b.2 = true) as bs)
    (same : (map as).describe.toList ++ t = (map bs).describe.toList ++ u) :
    (map as).same (map bs) = true ∧ t = u := by
  have shape (entries : List (String × ScriptValue)) (t : List Char) :
      (map entries).describe.toList ++ t =
        '\x7b' :: (enclosed '\x7d'
          (entries.map fun e => (e.1 ++ ": " ++ e.2.describe).toList) ++ t) := by
    rw [describe, describeEntries_eq, toList_braced, List.map_map]
    rfl
  rw [shape, shape] at same
  have entries : Apart (fun e => (e.1 ++ ": " ++ e.2.describe).toList)
      (fun a b => a.1 = b.1 ∧ a.2.same b.2 = true) as bs := by
    intro a aMember b bMember t u tEnds uEnds same
    obtain ⟨name, rest⟩ := entry_inj (first a aMember) (second b bMember) same
    obtain ⟨value, follow⟩ := apart a aMember b bMember tEnds uEnds rest
    exact ⟨⟨name, value⟩, follow⟩
  obtain ⟨all, follow⟩ := enclosed_inj (by decide) entries (List.tail_eq_of_cons_eq same)
  exact ⟨sameEntries_iff.mpr all, follow⟩

/-- A legible value is read in one way in a longer line, and so is what follows it. -/
theorem Legible.read {a b : ScriptValue} (first : Legible a) (second : Legible b)
    {t u : List Char} (tEnds : Ends t) (uEnds : Ends u)
    (same : a.describe.toList ++ t = b.describe.toList ++ u) : a.same b = true ∧ t = u := by
  -- What follows is not fixed: the first of two items is followed by the second.
  induction first generalizing b t u with
  | null =>
    have kind := typeName_eq .null second same
    cases second with
    | null => exact ⟨rfl, List.append_cancel_left same⟩
    | bool | number | text | list | map => simp [typeName] at kind
  | bool x =>
    have kind := typeName_eq (.bool x) second same
    cases second with
    | bool y =>
      obtain ⟨rfl, follow⟩ := bool_inj same
      exact ⟨beq_self_eq_true x, follow⟩
    | null | number | text | list | map => simp [typeName] at kind
  | number number =>
    have kind := typeName_eq (.number number) second same
    cases second with
    | number number' => exact number_inj number number' tEnds uEnds same
    | null | bool | text | list | map => simp [typeName] at kind
  | text s =>
    have kind := typeName_eq (.text s) second same
    cases second with
    | text s' =>
      obtain ⟨rfl, follow⟩ := Text.quoted_append_inj same
      exact ⟨beq_self_eq_true s, follow⟩
    | null | bool | number | list | map => simp [typeName] at kind
  | list items ih =>
    have kind := typeName_eq (.list items) second same
    cases second with
    | list items' =>
      exact list_inj (fun a aMember b bMember => ih a aMember (items' b bMember)) same
    | null | bool | number | text | map => simp [typeName] at kind
  | map names values ih =>
    have kind := typeName_eq (.map names values) second same
    cases second with
    | map names' values' =>
      exact map_inj names names' (fun a aMember b bMember => ih a aMember (values' b bMember)) same
    | null | bool | number | text | list => simp [typeName] at kind

/-- Legible values are described alike exactly when they are equal. -/
theorem describe_eq_iff {a b : ScriptValue} (first : Legible a) (second : Legible b) :
    a.describe = b.describe ↔ a.same b = true := by
  refine ⟨fun same => ?_, describe_of_same⟩
  have nothing : Ends [] := fun c member => nomatch member
  exact (first.read second nothing nothing (congrArg (·.toList ++ []) same)).1

/-! ## Failures -/

/-- What messages show of two values. -/
structure ToldApart (a b : ScriptValue) : Prop where
  alike_iff : a.describe = b.describe ↔ a.same b = true
  met_iff : ∀ {name matcher}, Native.Compares name matcher →
    ((Expectation.of a).Met (matcher b) ↔ a.same b = true)
  /-- A comparison that fails shows two texts. -/
  failure : ∀ {name matcher}, Native.Compares name matcher → ∀ {failure},
    (Expectation.of a).check (matcher b) = some failure →
      failure.expected = some b.describe ∧ failure.actual = some a.describe ∧
        failure.expected ≠ failure.actual

theorem check_of_compares {name : String} {matcher : ScriptValue → Matcher}
    (compares : Native.Compares name matcher) (a b : ScriptValue) :
    (Expectation.of a).check (matcher b) =
      if a.same b = false then some ((matcher b).unmet a false) else none := by
  cases compares with
  | toBe | toEqual => exact Expectation.check_of_ok rfl false

theorem unmet_of_compares {name : String} {matcher : ScriptValue → Matcher}
    (compares : Native.Compares name matcher) (a b : ScriptValue) :
    ((matcher b).unmet a false).expected = some b.describe ∧
      ((matcher b).unmet a false).actual = some a.describe := by
  cases compares with
  | toBe | toEqual => exact ⟨rfl, rfl⟩

/-- Legible values that are described alike are equal, and so a failed comparison of two shows two
texts. -/
theorem Legible.toldApart {a b : ScriptValue} (first : Legible a) (second : Legible b) :
    ToldApart a b where
  alike_iff := describe_eq_iff first second
  met_iff := by
    intro name matcher compares
    rw [Expectation.Met, check_of_compares compares]
    cases a.same b <;> simp
  failure := by
    intro name matcher compares failure failed
    rw [check_of_compares compares] at failed
    obtain ⟨different, same⟩ := Option.ite_none_right_eq_some.mp failed
    cases same
    obtain ⟨expected, actual⟩ := unmet_of_compares compares a b
    refine ⟨expected, actual, fun alike => ?_⟩
    rw [expected, actual, Option.some.injEq] at alike
    rw [(describe_eq_iff first second).mp alike.symm] at different
    cases different

/-- Equal values are described alike.  Legible values are described alike only then, so a comparison
of them that fails shows different texts for the expected and the actual value. -/
theorem told_apart (a b : ScriptValue) :
    (a.same b = true → a.describe = b.describe) ∧
      (Legible a → Legible b → ToldApart a b) :=
  ⟨describe_of_same, Legible.toldApart⟩

/-- Values that differ in where a text ends. -/
theorem told_apart_of_nested :
    let whole := map [("a:", number 0.5), ("list", list [text "1, 2", null])]
    let parts := map [("a:", number 0.5), ("list", list [text "1", text "2", null])]
    whole.same parts = false ∧ whole.describe ≠ parts.describe := by
  intro whole parts
  have different : whole.same parts = false := by decide +kernel
  have names {v : ScriptValue} : ∀ entry ∈ [("a:", number 0.5), ("list", v)], Markless entry.1 := by
    rw [List.forall_mem_cons, List.forall_mem_singleton]
    exact ⟨(by decide : Markless "a:"), (by decide : Markless "list")⟩
  have half : Legible (number 0.5) := .number (by decide)
  have wholeLegible : Legible whole := by
    refine .map names ?_
    rw [List.forall_mem_cons, List.forall_mem_singleton]
    refine ⟨half, .list ?_⟩
    rw [List.forall_mem_cons, List.forall_mem_singleton]
    exact ⟨.text _, .null⟩
  have partsLegible : Legible parts := by
    refine .map names ?_
    rw [List.forall_mem_cons, List.forall_mem_singleton]
    refine ⟨half, .list ?_⟩
    rw [List.forall_mem_cons, List.forall_mem_cons, List.forall_mem_singleton]
    exact ⟨.text _, .text _, .null⟩
  refine ⟨different, fun alike => ?_⟩
  rw [((told_apart whole parts).2 wholeLegible partsLegible).alike_iff.mp alike] at different
  cases different

/-- A name that looks like an entry: the maps differ and are described alike, also when a comparison
of them fails. -/
theorem described_alike :
    let two := map [("a", number 1.0), ("b", number 2.0)]
    let one := map [("a: 1, b", number 2.0)]
    two.Built (fun x => Number.notANumber x = false) ∧
      one.Built (fun x => Number.notANumber x = false) ∧
      two.same one = false ∧ two.describe = one.describe ∧
      ∃ failure, (Expectation.of two).check (.be one) = some failure ∧
        failure.expected = failure.actual := by
  intro two one
  have different : two.same one = false := by decide +kernel
  have alike : two.describe = one.describe := by decide +kernel
  refine ⟨.map (by decide) ?_, .map (by decide) ?_, different, alike, ?_⟩
  · rw [List.forall_mem_cons, List.forall_mem_singleton]
    exact ⟨.number (by decide), .number (by decide)⟩
  · rw [List.forall_mem_singleton]
    exact .number (by decide)
  · refine ⟨(Matcher.be one).unmet two false, ?_, ?_⟩
    · rw [check_of_compares .toBe, if_pos different]
    · exact congrArg some alike.symm

end CollectionRunner.ScriptValue
