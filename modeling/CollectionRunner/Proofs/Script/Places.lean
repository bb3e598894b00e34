import CollectionRunner.Proofs.Text.Category
import CollectionRunner.Script.Failure
import Mathlib.Data.List.Basic

/-!
# Places in texts

Failures say in words where they happened, as in `(line 3, position 4)`, and reports leave such
places out.  A place is found by its form alone (`Failure.afterPlace_eq_some_iff`), and what is left
without places is told by the relation `Failure.Strips`.  So a text loses nothing but white space at
its ends exactly when it shows no place (`Failure.trimmed_withoutPlaces_iff`), and a place at the end
of a text is left out whatever the text is (`Failure.trim_withoutPlaces_placeText`).
-/

namespace CollectionRunner

/-! ## White space -/

namespace Text

/-- White space only. -/
def Blank (cs : List Char) : Prop := ∀ c ∈ cs, blank c = true

theorem blank_nil : Blank [] := nofun

theorem blank_space : Blank [' '] := List.forall_mem_singleton.mpr rfl

/-- Number of characters that are not white space. -/
def solid (cs : List Char) : Nat := cs.countP (!blank ·)

theorem solid_append (cs ds : List Char) : solid (cs ++ ds) = solid cs + solid ds :=
  List.countP_append

theorem solid_cons_lt_iff (c : Char) {cs ds : List Char} :
    solid (c :: cs) < solid (c :: ds) ↔ solid cs < solid ds := by
  have left := solid_append [c] cs
  have right := solid_append [c] ds
  rw [List.singleton_append] at left right
  omega

theorem solid_dropWhile (cs : List Char) : solid (cs.dropWhile blank) = solid cs := by
  induction cs with
  | nil => rfl
  | cons c rest ih =>
    cases space : blank c with
    | true => simpa [solid, space] using ih
    | false => rw [List.dropWhile_cons_of_neg (by simp [space])]

theorem solid_reverse (cs : List Char) : solid cs.reverse = solid cs :=
  cs.countP_reverse

theorem solid_trimmed (cs : List Char) : solid (trimmed cs) = solid cs := by
  rw [trimmed, solid_reverse, solid_dropWhile, solid_reverse, solid_dropWhile]

/-- Blanks added at the end of a text are cut off with those that end it. -/
theorem trimmed_append_blank (cs : List Char) {space : List Char} (white : Blank space) :
    trimmed (cs ++ space) = trimmed cs := by
  have gone : space.dropWhile blank = [] := by
    rw [← List.append_nil space, List.dropWhile_append_of_pos white]
    rfl
  unfold trimmed
  rw [List.dropWhile_append]
  split
  · rename_i empty
    rw [List.isEmpty_iff] at empty
    rw [gone, empty]
  · rw [List.reverse_append, List.dropWhile_append_of_pos fun c member =>
      white c (List.mem_reverse.mp member)]

end Text

namespace Failure

/-! ## The form of a place -/

/-- A number in decimal digits. -/
def Numeral (cs : List Char) : Prop := cs ≠ [] ∧ ∀ c ∈ cs, isDigit c = true

/-- Two numbers as a message shows them as a place. -/
def shownPlace (line column : List Char) : List Char :=
  "(line ".toList ++ line ++ ", position ".toList ++ column ++ ")".toList

/-- What follows the bracket that opens a place. -/
def shownNumbers (line column : List Char) : List Char :=
  "line ".toList ++ (line ++ (", position ".toList ++ (column ++ ")".toList)))

theorem shownPlace_append (line column rest : List Char) :
    shownPlace line column ++ rest =
      "(line ".toList ++ (line ++ (", position ".toList ++ (column ++ (")".toList ++ rest)))) := by
  unfold shownPlace
  -- The texts are made variables: matching them as lists would unfold them.
  generalize "(line ".toList = a, ", position ".toList = b, ")".toList = c
  simp only [List.append_assoc]

theorem shownPlace_eq_cons (line column : List Char) :
    shownPlace line column = '(' :: shownNumbers line column := by
  rw [← List.append_nil (shownPlace line column), shownPlace_append, List.append_nil]
  rfl

theorem shownPlace_eq_concat (line column : List Char) :
    ∃ body, shownPlace line column = body ++ [')'] := ⟨_, rfl⟩

/-- What is left of a text after an expected start, which is found exactly when it stands there. -/
theorem afterText_eq_some_iff {expected cs rest : List Char} :
    afterText expected cs = some rest ↔ cs = expected ++ rest := by
  induction expected generalizing cs with
  | nil => simp [afterText]
  | cons c expected ih =>
    cases cs with
    | nil => simp [afterText]
    | cons d cs =>
      simp only [afterText, beq_iff_eq, List.cons_append, List.cons.injEq]
      split
      · rename_i same
        simp [same, ih]
      · rename_i other
        simp [Ne.symm other]

theorem isDigit_comma : isDigit ',' = false := by
  rw [isDigit, Text.category_comma]
  rfl

theorem isDigit_open : isDigit '(' = false := by
  rw [isDigit, Text.category_open]
  rfl

theorem isDigit_close : isDigit ')' = false := by
  rw [isDigit, Text.category_close]
  rfl

theorem splitDigits_numeral {digits rest : List Char} {c : Char} (numeral : Numeral digits)
    (stop : isDigit c = false) : splitDigits (digits ++ c :: rest) = (digits, c :: rest) := by
  have stops : ¬ isDigit c = true := by simp [stop]
  rw [splitDigits, List.takeWhile_append_of_pos numeral.2, List.dropWhile_append_of_pos numeral.2,
    List.takeWhile_cons_of_neg stops, List.dropWhile_cons_of_neg stops, List.append_nil]

/-- A text is cut after the digits that it starts with. -/
theorem splitDigits_cuts (cs : List Char) :
    cs = (splitDigits cs).1 ++ (splitDigits cs).2 ∧ ∀ c ∈ (splitDigits cs).1, isDigit c = true :=
  ⟨List.takeWhile_append_dropWhile.symm, List.all_eq_true.mp List.all_takeWhile⟩

/-- A place is found by its form. -/
theorem afterPlace_eq_some_iff {cs line column rest : List Char} :
    afterPlace cs = some (line, column, rest) ↔
      Numeral line ∧ Numeral column ∧
        ∃ space, Text.Blank space ∧ cs = space ++ (shownPlace line column ++ rest) := by
  constructor
  · intro found
    simp only [afterPlace, Option.bind_eq_bind, Option.bind_eq_some_iff, afterText_eq_some_iff]
      at found
    obtain ⟨a, first, b, second, c, third, found⟩ := found
    obtain ⟨aCut, aDigits⟩ := splitDigits_cuts a
    obtain ⟨bCut, bDigits⟩ := splitDigits_cuts b
    generalize splitDigits a = as at second aCut aDigits found
    generalize splitDigits b = bs at third bCut bDigits found
    split at found
    · cases found
    · rename_i written
      simp only [Option.some.injEq, Prod.mk.injEq] at found
      obtain ⟨rfl, rfl, rfl⟩ := found
      rw [Bool.or_eq_true, List.isEmpty_iff, List.isEmpty_iff, not_or] at written
      refine ⟨⟨written.1, aDigits⟩, ⟨written.2, bDigits⟩, cs.takeWhile Text.blank,
        List.all_eq_true.mp List.all_takeWhile, ?_⟩
      rw [shownPlace_append, ← third, ← bCut, ← second, ← aCut, ← first]
      exact List.takeWhile_append_dropWhile.symm
  · intro form
    obtain ⟨lineNumeral, columnNumeral, space, blank, same⟩ := form
    have opened : cs.dropWhile Text.blank = shownPlace line column ++ rest := by
      have starts : ¬ Text.blank '(' = true := by decide
      rw [same, List.dropWhile_append_of_pos blank]
      exact List.dropWhile_cons_of_neg starts
    have first : afterText "(line ".toList (cs.dropWhile Text.blank) =
        some (line ++ (", position ".toList ++ (column ++ (")".toList ++ rest)))) := by
      rw [afterText_eq_some_iff, opened, shownPlace_append]
    have lines : splitDigits (line ++ (", position ".toList ++ (column ++ (")".toList ++ rest)))) =
        (line, ", position ".toList ++ (column ++ (")".toList ++ rest))) :=
      splitDigits_numeral lineNumeral isDigit_comma
    have second : afterText ", position ".toList
        (", position ".toList ++ (column ++ (")".toList ++ rest))) =
          some (column ++ (")".toList ++ rest)) :=
      afterText_eq_some_iff.mpr rfl
    have columns : splitDigits (column ++ (")".toList ++ rest)) = (column, ")".toList ++ rest) :=
      splitDigits_numeral columnNumeral isDigit_close
    have third : afterText ")".toList (")".toList ++ rest) = some rest :=
      afterText_eq_some_iff.mpr rfl
    have written : ¬ (line.isEmpty || column.isEmpty) = true := by
      rw [Bool.or_eq_true, List.isEmpty_iff, List.isEmpty_iff, not_or]
      exact ⟨lineNumeral.1, columnNumeral.1⟩
    simp only [afterPlace, first, lines, second, columns, third, Option.bind_eq_bind,
      Option.bind_some, if_neg written]

/-! ## Texts that show places -/

/-- There is a place in a text. -/
def ShowsPlace (cs : List Char) : Prop :=
  ∃ before line column after, Numeral line ∧ Numeral column ∧
    cs = before ++ (shownPlace line column ++ after)

theorem ShowsPlace.of_afterPlace {cs line column rest : List Char}
    (found : afterPlace cs = some (line, column, rest)) : ShowsPlace cs := by
  obtain ⟨lineNumeral, columnNumeral, space, -, same⟩ := afterPlace_eq_some_iff.mp found
  exact ⟨space, line, column, rest, lineNumeral, columnNumeral, same⟩

theorem ShowsPlace.bracket {cs : List Char} (shows : ShowsPlace cs) : '(' ∈ cs := by
  obtain ⟨before, line, column, after, _, _, rfl⟩ := shows
  rw [shownPlace_eq_cons]
  exact List.mem_append_right _ List.mem_cons_self

theorem not_showsPlace_of_blank {cs : List Char} (blank : Text.Blank cs) : ¬ ShowsPlace cs :=
  fun shows => absurd (blank _ shows.bracket) (by decide)

/-- A place that does not start a text is in the rest of it. -/
theorem ShowsPlace.tail {c : Char} {rest : List Char} (shows : ShowsPlace (c :: rest))
    (unfound : afterPlace (c :: rest) = none) : ShowsPlace rest := by
  obtain ⟨before, line, column, after, lineNumeral, columnNumeral, same⟩ := shows
  cases before with
  | nil =>
    have found := afterPlace_eq_some_iff.mpr ⟨lineNumeral, columnNumeral, [], nofun, same⟩
    rw [unfound] at found
    cases found
  | cons d before =>
    injection same with _ same
    exact ⟨before, line, column, after, lineNumeral, columnNumeral, same⟩

theorem ShowsPlace.cons {rest : List Char} (c : Char) (shows : ShowsPlace rest) :
    ShowsPlace (c :: rest) := by
  obtain ⟨before, line, column, after, lineNumeral, columnNumeral, same⟩ := shows
  exact ⟨c :: before, line, column, after, lineNumeral, columnNumeral, congrArg (c :: ·) same⟩

/-! ## Texts without places -/

/-- Leaving places out of a text as they are met from its start on. -/
inductive Strips : List Char → List Char → Prop
  | nil : Strips [] []
  | place {cs line column rest kept : List Char} : afterPlace cs = some (line, column, rest) →
    Strips rest kept → Strips cs kept
  | keep {c : Char} {rest kept : List Char} : afterPlace (c :: rest) = none →
    Strips rest kept → Strips (c :: rest) (c :: kept)

theorem strips_withoutPlaces (cs : List Char) : Strips cs (withoutPlaces cs) := by
  fun_induction withoutPlaces cs with
  | case1 cs line column rest found shorter ih => exact .place found ih
  | case2 => exact .nil
  | case3 c rest unfound ih => exact .keep unfound ih

theorem afterPlace_nil : afterPlace [] = none := rfl

/-- There is one way to leave places out of a text, since no place starts inside another one. -/
theorem Strips.unique {cs kept kept' : List Char} (strips : Strips cs kept)
    (strips' : Strips cs kept') : kept = kept' := by
  induction strips generalizing kept' with
  | nil =>
    cases strips' with
    | nil => rfl
    | place found _ => cases afterPlace_nil.symm.trans found
  | place found _ ih =>
    cases strips' with
    | nil => cases afterPlace_nil.symm.trans found
    | place found' strips' =>
      cases found.symm.trans found'
      exact ih strips'
    | keep unfound _ => cases found.symm.trans unfound
  | keep unfound _ ih =>
    cases strips' with
    | place found _ => cases unfound.symm.trans found
    | keep _ strips' => rw [ih strips']

theorem withoutPlaces_of_found {cs line column rest : List Char}
    (found : afterPlace cs = some (line, column, rest)) :
    withoutPlaces cs = withoutPlaces rest :=
  (strips_withoutPlaces cs).unique (.place found (strips_withoutPlaces rest))

theorem withoutPlaces_of_unfound {c : Char} {rest : List Char}
    (unfound : afterPlace (c :: rest) = none) :
    withoutPlaces (c :: rest) = c :: withoutPlaces rest :=
  (strips_withoutPlaces (c :: rest)).unique (.keep unfound (strips_withoutPlaces rest))

/-- Places start with white space or a bracket. -/
theorem withoutPlaces_append_plain {plain : List Char}
    (other : plain.all (fun c => !Text.blank c && c != '(') = true) (cs : List Char) :
    withoutPlaces (plain ++ cs) = plain ++ withoutPlaces cs := by
  induction plain with
  | nil => rfl
  | cons c plain ih =>
    rw [List.all_cons, Bool.and_eq_true, Bool.and_eq_true, bne_iff_ne] at other
    obtain ⟨⟨solid, noBracket⟩, other⟩ := other
    have unfound : afterPlace (c :: (plain ++ cs)) = none := by
      refine Option.eq_none_iff_forall_ne_some.mpr fun (line, column, rest) found => ?_
      obtain ⟨-, -, space, blank, same⟩ := afterPlace_eq_some_iff.mp found
      rw [shownPlace_eq_cons] at same
      cases space with
      | nil =>
        injection same with same _
        exact noBracket same
      | cons d space =>
        injection same with same _
        rw [same, blank d List.mem_cons_self] at solid
        cases solid
    rw [List.cons_append, withoutPlaces_of_unfound unfound, ih other]
    rfl

theorem Strips.eq_of_clean {cs kept : List Char} (strips : Strips cs kept)
    (clean : ¬ ShowsPlace cs) : kept = cs := by
  induction strips with
  | nil => rfl
  | place found => exact absurd (.of_afterPlace found) clean
  | keep _ _ ih => rw [ih fun shows => clean (shows.cons _)]

theorem withoutPlaces_of_clean {cs : List Char} (clean : ¬ ShowsPlace cs) :
    withoutPlaces cs = cs :=
  (strips_withoutPlaces cs).eq_of_clean clean

theorem solid_shownPlace_pos (line column : List Char) :
    0 < Text.solid (shownPlace line column) := by
  rw [shownPlace_eq_cons]
  exact List.countP_pos_iff.mpr ⟨'(', List.mem_cons_self, by decide⟩

theorem solid_of_afterPlace {cs line column rest : List Char}
    (found : afterPlace cs = some (line, column, rest)) : Text.solid rest < Text.solid cs := by
  obtain ⟨-, -, space, -, rfl⟩ := afterPlace_eq_some_iff.mp found
  have := solid_shownPlace_pos line column
  rw [Text.solid_append, Text.solid_append]
  omega

theorem Strips.solid_le {cs kept : List Char} (strips : Strips cs kept) :
    Text.solid kept ≤ Text.solid cs := by
  induction strips with
  | nil => exact Nat.le_refl _
  | place found _ ih => exact Nat.le_trans ih (Nat.le_of_lt (solid_of_afterPlace found))
  | keep _ _ ih =>
    exact Nat.le_of_not_lt fun more => Nat.not_lt_of_le ih ((Text.solid_cons_lt_iff _).mp more)

/-- Leaving a place out leaves out more than white space. -/
theorem Strips.solid_lt {cs kept : List Char} (strips : Strips cs kept) (shows : ShowsPlace cs) :
    Text.solid kept < Text.solid cs := by
  induction strips with
  | nil => exact absurd shows (not_showsPlace_of_blank Text.blank_nil)
  | place found strips => exact Nat.lt_of_le_of_lt strips.solid_le (solid_of_afterPlace found)
  | keep unfound _ ih => exact (Text.solid_cons_lt_iff _).mpr (ih (shows.tail unfound))

/-- A text loses nothing but white space at its ends exactly when it shows no place. -/
theorem trimmed_withoutPlaces_iff {cs : List Char} :
    Text.trimmed (withoutPlaces cs) = Text.trimmed cs ↔ ¬ ShowsPlace cs := by
  constructor
  · intro same shows
    have fewer := (strips_withoutPlaces cs).solid_lt shows
    rw [← Text.solid_trimmed, same, Text.solid_trimmed] at fewer
    exact Nat.lt_irrefl _ fewer
  · intro clean
    rw [withoutPlaces_of_clean clean]

/-! ## Places at the end of a text -/

theorem Numeral.not_mem {digits : List Char} (numeral : Numeral digits) {c : Char}
    (other : isDigit c = false) : c ∉ digits := by
  intro member
  rw [numeral.2 c member] at other
  cases other

/-- No bracket opens inside a place, so that places do not overlap. -/
theorem not_mem_shownNumbers {line column : List Char} (lineNumeral : Numeral line)
    (columnNumeral : Numeral column) : '(' ∉ shownNumbers line column := by
  intro member
  rcases List.mem_append.mp member with word | member
  · exact absurd word (by decide)
  rcases List.mem_append.mp member with digits | member
  · exact lineNumeral.not_mem isDigit_open digits
  rcases List.mem_append.mp member with word | member
  · exact absurd word (by decide)
  rcases List.mem_append.mp member with digits | close
  · exact columnNumeral.not_mem isDigit_open digits
  · exact absurd close (by decide)

/-- No place goes on after a place. -/
theorem eq_nil_of_shownPlace_append {line column line' column' rest : List Char}
    (lineNumeral : Numeral line) (columnNumeral : Numeral column) (lineNumeral' : Numeral line')
    (columnNumeral' : Numeral column')
    (same : shownPlace line column = shownPlace line' column' ++ rest) : rest = [] := by
  have whole : afterPlace (shownPlace line column) = some (line, column, []) :=
    afterPlace_eq_some_iff.mpr ⟨lineNumeral, columnNumeral, [], nofun, (List.append_nil _).symm⟩
  have start : afterPlace (shownPlace line column) = some (line', column', rest) :=
    afterPlace_eq_some_iff.mpr ⟨lineNumeral', columnNumeral', [], nofun, same⟩
  rw [whole, Option.some_inj, Prod.mk.injEq, Prod.mk.injEq] at start
  exact start.2.2.symm

/-- A place at the end of a text is no part of another place. -/
theorem afterPlace_append_shownPlace {cs line column line' column' rest : List Char}
    (lineNumeral : Numeral line) (columnNumeral : Numeral column) (unfound : afterPlace cs = none)
    (found : afterPlace (cs ++ ' ' :: shownPlace line column) = some (line', column', rest)) :
    Text.Blank cs ∧ rest = [] := by
  obtain ⟨lineNumeral', columnNumeral', space, blank, same⟩ := afterPlace_eq_some_iff.mp found
  have notWithin : ∀ after, cs ≠ space ++ shownPlace line' column' ++ after := by
    intro after within
    rw [List.append_assoc] at within
    rw [afterPlace_eq_some_iff.mpr ⟨lineNumeral', columnNumeral', space, blank, within⟩] at unfound
    cases unfound
  rw [← List.append_assoc] at same
  rcases List.append_eq_append_iff.mp same with ⟨shared, whole, cut⟩ | ⟨after, within, -⟩
  · -- What is found ends in the place at the end: it does not end before the bracket there, and
    -- has no other bracket than that.
    rcases shared with _ | ⟨c, _ | ⟨d, shared⟩⟩
    · exact absurd (by rw [whole, List.append_nil, List.append_nil]) (notWithin [])
    · injection cut with isBlank _
      obtain ⟨body, closed⟩ := shownPlace_eq_concat line' column'
      rw [closed, ← List.append_assoc] at whole
      have last : [')'] = [c] := List.append_inj_right' whole rfl
      rw [← isBlank] at last
      exact absurd last (by decide)
    · rw [shownPlace_eq_cons] at cut
      injection cut with isBlank cut
      injection cut with isBracket cut
      subst isBlank isBracket
      have aligned : space ++ '(' :: shownNumbers line' column' = cs ++ [' '] ++ '(' :: shared := by
        rw [← shownPlace_eq_cons, whole, List.append_cons]
      have noBracket : '(' ∉ space := fun member => absurd (blank _ member) (by decide)
      obtain ⟨before, -, numbers⟩ := (List.append_cons_inj_of_notMem noBracket
        (not_mem_shownNumbers lineNumeral' columnNumeral')).mp aligned
      refine ⟨fun c member => blank c (before ▸ List.mem_append_left _ member), ?_⟩
      refine eq_nil_of_shownPlace_append lineNumeral columnNumeral lineNumeral' columnNumeral' ?_
      rw [shownPlace_eq_cons, cut, shownPlace_eq_cons, numbers]
      rfl
  · exact absurd within (notWithin after)

/-- A place at the end of a text is left out, at most with white space before it. -/
theorem Strips.append_shownPlace {cs kept line column : List Char} (strips : Strips cs kept)
    (lineNumeral : Numeral line) (columnNumeral : Numeral column) :
    ∃ space, Text.Blank space ∧
      kept = withoutPlaces (cs ++ ' ' :: shownPlace line column) ++ space := by
  induction strips with
  | nil =>
    have found : afterPlace ([] ++ ' ' :: shownPlace line column) = some (line, column, []) := by
      refine afterPlace_eq_some_iff.mpr ⟨lineNumeral, columnNumeral, [' '], Text.blank_space, ?_⟩
      rw [List.append_nil]
      rfl
    rw [withoutPlaces_of_found found, withoutPlaces_of_clean (not_showsPlace_of_blank Text.blank_nil)]
    exact ⟨[], nofun, rfl⟩
  | @place cs line' column' rest kept found _ ih =>
    obtain ⟨lineNumeral', columnNumeral', space, blank, rfl⟩ := afterPlace_eq_some_iff.mp found
    have found' : afterPlace (space ++ (shownPlace line' column' ++ rest) ++
        ' ' :: shownPlace line column) =
          some (line', column', rest ++ ' ' :: shownPlace line column) := by
      refine afterPlace_eq_some_iff.mpr ⟨lineNumeral', columnNumeral', space, blank, ?_⟩
      rw [List.append_assoc, List.append_assoc]
    rw [withoutPlaces_of_found found']
    exact ih
  | @keep c rest kept unfound strips ih =>
    cases found : afterPlace (c :: rest ++ ' ' :: shownPlace line column) with
    | none =>
      obtain ⟨space, blank, same⟩ := ih
      refine ⟨space, blank, ?_⟩
      rw [List.cons_append] at found ⊢
      rw [withoutPlaces_of_unfound found, same]
      rfl
    | some place =>
      obtain ⟨line', column', after⟩ := place
      obtain ⟨blank, rfl⟩ := afterPlace_append_shownPlace lineNumeral columnNumeral unfound found
      refine ⟨c :: rest, blank, ?_⟩
      have clean := not_showsPlace_of_blank fun d member => blank d (List.mem_cons_of_mem c member)
      rw [withoutPlaces_of_found found, strips.eq_of_clean clean,
        withoutPlaces_of_clean (not_showsPlace_of_blank Text.blank_nil), List.nil_append]

theorem numeral_repr (n : Nat) : Numeral n.repr.toList := by
  rw [Nat.toList_repr]
  refine ⟨Nat.toDigits_ne_nil, fun c member => ?_⟩
  have digit : c.isDigit = true := Nat.isDigit_of_mem_toDigits (by decide) (by decide) member
  rw [isDigit, Text.category_of_isDigit digit]
  rfl

theorem toList_placeText (p : Position) :
    (placeText (some p)).toList = ' ' :: shownPlace p.line.repr.toList p.column.repr.toList := by
  have text : placeText (some p) =
      " (line " ++ p.line.repr ++ ", position " ++ p.column.repr ++ ")" := rfl
  rw [text, String.toList_append, String.toList_append, String.toList_append,
    String.toList_append]
  rfl

theorem withoutPlaces_placeText (p : Position) (cs : List Char) :
    withoutPlaces ((placeText (some p)).toList ++ cs) = withoutPlaces cs := by
  refine withoutPlaces_of_found (afterPlace_eq_some_iff.mpr
    ⟨numeral_repr p.line, numeral_repr p.column, [' '], Text.blank_space, ?_⟩)
  rw [toList_placeText]
  rfl

/-- Messages do not depend on the place they end with. -/
theorem trim_withoutPlaces_placeText (text : String) (place : Option Position) :
    Text.trim (String.ofList (withoutPlaces (text ++ placeText place).toList)) =
      Text.trim (String.ofList (withoutPlaces text.toList)) := by
  cases place with
  | none => rw [placeText, String.append_empty]
  | some p =>
    obtain ⟨space, blank, same⟩ := (strips_withoutPlaces text.toList).append_shownPlace
      (numeral_repr p.line) (numeral_repr p.column)
    rw [String.toList_append, toList_placeText, same]
    simp only [Text.trim, String.toList_ofList, Text.trimmed_append_blank _ blank]

end Failure

end CollectionRunner
