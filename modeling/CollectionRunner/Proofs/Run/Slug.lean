import CollectionRunner.Proofs.Text.Blank
import CollectionRunner.Run.Session

/-!
# Names of sessions

The name of a session starts with the letters and digits of the collection's name in lower case, each
maximal run of them set off by one hyphen.  `Session.Words` tells the runs of a text apart, in one
way only (`Session.Words.unique`).  While the name is written, one hyphen comes before each further
run whatever stands between the two (`Session.slugFrom_after`), so that the hyphens at the ends are
all there is to cut (`Session.slug_eq`).  Main statement: `Session.new_id_canonical`.
-/

namespace CollectionRunner

namespace Session

/-! ## Characters -/

theorem slugChar_iff_toNat {c : Char} :
    slugChar c = true ↔ (48 ≤ c.toNat ∧ c.toNat ≤ 57) ∨ (65 ≤ c.toNat ∧ c.toNat ≤ 90) ∨
      (97 ≤ c.toNat ∧ c.toNat ≤ 122) := by
  simp only [slugChar, Char.isAlphanum, Char.isAlpha, Char.isUpper, Char.isLower, Char.isDigit,
    ge_iff_le, UInt32.le_iff_toNat_le, Bool.or_eq_true, Bool.and_eq_true, decide_eq_true_eq,
    Char.toNat_val, Char.reduceToNat]
  omega

theorem slugChar_hyphen : slugChar '-' = false := rfl

theorem blank_hyphen : Text.blank '-' = false := rfl

theorem blank_of_slugChar {c : Char} (char : slugChar c = true) : Text.blank c = false := by
  rw [slugChar_iff_toNat] at char
  simp only [Text.blank, Bool.or_eq_false_iff, Bool.and_eq_false_iff, beq_eq_false_iff_ne,
    decide_eq_false_iff_not]
  omega

theorem slugChar_of_blank {c : Char} (blank : Text.blank c = true) : slugChar c = false := by
  cases char : slugChar c with
  | true => exact absurd (blank_of_slugChar char) (by simp [blank])
  | false => rfl

theorem toLower_of_isDigit {c : Char} (digit : c.isDigit) : c.toLower = c := by
  refine Char.toLower_eq_of_not_isUpper ?_
  rw [Char.isDigit_iff_toNat] at digit
  simp only [Char.isUpper, ge_iff_le, UInt32.le_iff_toNat_le, decide_eq_true_eq, not_and,
    Char.toNat_val, Char.reduceToNat] at *
  omega

/-- A lower-case letter or a digit. -/
def Small (c : Char) : Prop := c.isLower ∨ c.isDigit

theorem small_toLower {c : Char} (char : slugChar c = true) : Small c.toLower := by
  rcases Bool.or_eq_true_iff.mp char with alpha | digit
  · exact .inl ((Char.isLower_toLower_eq_isAlpha c).trans alpha)
  · rw [toLower_of_isDigit digit]
    exact .inr digit

namespace Small

variable {c : Char}

theorem slugChar (small : Small c) : slugChar c = true := by
  rcases small with lower | digit
  · exact Bool.or_eq_true_iff.mpr (.inl (Bool.or_eq_true_iff.mpr (.inr lower)))
  · exact Bool.or_eq_true_iff.mpr (.inr digit)

theorem toLower_eq (small : Small c) : c.toLower = c := by
  rcases small with lower | digit
  · exact Char.toLower_eq_of_not_isUpper (Char.not_isUpper_of_isLower lower)
  · exact toLower_of_isDigit digit

theorem ne_hyphen (small : Small c) : c ≠ '-' := by
  rintro rfl
  have char := small.slugChar
  cases char

end Small

/-! ## Runs of letters and digits -/

/-- Neither letters nor digits. -/
def Gap (cs : List Char) : Prop := ∀ c ∈ cs, slugChar c = false

/-- Letters and digits. -/
def Word (cs : List Char) : Prop := cs ≠ [] ∧ ∀ c ∈ cs, slugChar c = true

/-- The maximal runs of letters and digits of a text one after the other, with what is neither around
and between them. -/
inductive Words : List Char → List (List Char) → Prop
  | none {gap : List Char} : Gap gap → Words gap []
  | next {gap word rest : List Char} {words : List (List Char)} :
    Gap gap → Word word → (∀ c ∈ rest.head?, slugChar c = false) → Words rest words →
    Words (gap ++ (word ++ rest)) (word :: words)

variable {cs gap word rest : List Char} {words : List (List Char)}

theorem Words.start (here : Word word) (stop : ∀ c ∈ rest.head?, slugChar c = false)
    (read : Words rest words) : Words (word ++ rest) (word :: words) :=
  @Words.next [] word rest words nofun here stop read

theorem Words.gap_append (space : Gap gap) (read : Words cs words) : Words (gap ++ cs) words := by
  cases read with
  | none more => exact .none (List.forall_mem_append.mpr ⟨space, more⟩)
  | next more here stop later =>
    rw [← List.append_assoc]
    exact .next (List.forall_mem_append.mpr ⟨space, more⟩) here stop later

/-- A gap at the end adds no word. -/
theorem Words.append_gap (space : Gap gap) (read : Words cs words) : Words (cs ++ gap) words := by
  induction read with
  | none more => exact .none (List.forall_mem_append.mpr ⟨more, space⟩)
  | @next before word rest words more here stop _ ih =>
    rw [List.append_assoc, List.append_assoc]
    refine .next more here ?_ ih
    intro c first
    cases rest with
    | nil => exact space c (List.mem_of_mem_head? first)
    | cons d rest => exact stop c first

/-- A letter or digit before a text starts a word of its own, or lengthens the first one. -/
theorem Words.cons_char {c : Char} (char : slugChar c = true) (read : Words cs words) :
    ∃ words, Words (c :: cs) words := by
  have lone (stop : ∀ c ∈ cs.head?, slugChar c = false) : Words (c :: cs) ([c] :: words) :=
    .start ⟨List.cons_ne_nil c [], List.forall_mem_singleton.mpr char⟩ stop read
  cases read with
  | none space => exact ⟨_, lone fun d first => space d (List.mem_of_mem_head? first)⟩
  | @next gap word rest words space here stop later =>
    cases gap with
    | cons d gap =>
      refine ⟨_, lone fun e first => ?_⟩
      cases first
      exact space d List.mem_cons_self
    | nil =>
      exact ⟨_, .start ⟨List.cons_ne_nil c word, List.forall_mem_cons.mpr ⟨char, here.2⟩⟩ stop
        later⟩

/-- Every text has its runs. -/
theorem exists_words (cs : List Char) : ∃ words, Words cs words := by
  induction cs with
  | nil => exact ⟨[], .none nofun⟩
  | cons c rest ih =>
    obtain ⟨words, read⟩ := ih
    cases char : slugChar c with
    | true => exact read.cons_char char
    | false => exact ⟨words, read.gap_append (List.forall_mem_singleton.mpr char)⟩

/-- A text is split in one way into characters of a kind and what does not start with one. -/
theorem eq_of_span (kind : Char → Bool) {xs xs' ys ys' : List Char}
    (same : xs ++ ys = xs' ++ ys') (front : ∀ c ∈ xs, kind c = true)
    (front' : ∀ c ∈ xs', kind c = true) (stop : ∀ c ∈ ys.head?, kind c = false)
    (stop' : ∀ c ∈ ys'.head?, kind c = false) : xs = xs' ∧ ys = ys' := by
  have ends {xs ys : List Char} (front : ∀ c ∈ xs, kind c = true)
      (stop : ∀ c ∈ ys.head?, kind c = false) :
      (xs ++ ys).takeWhile kind = xs ∧ (xs ++ ys).dropWhile kind = ys := by
    rw [List.takeWhile_append_of_pos front, List.dropWhile_append_of_pos front]
    cases ys with
    | nil => exact ⟨List.append_nil _, rfl⟩
    | cons c ys =>
      have off : ¬ kind c = true := by simp [stop c rfl]
      rw [List.takeWhile_cons_of_neg off, List.dropWhile_cons_of_neg off]
      exact ⟨List.append_nil _, rfl⟩
  obtain ⟨first, second⟩ := ends front stop
  obtain ⟨first', second'⟩ := ends front' stop'
  rw [same] at first second
  exact ⟨first.symm.trans first', second.symm.trans second'⟩

theorem Word.head_char (here : Word word) : ∀ c ∈ (word ++ rest).head?, slugChar c = true := by
  intro c first
  obtain ⟨d, more, rfl⟩ := List.exists_cons_of_ne_nil here.1
  cases first
  exact here.2 c List.mem_cons_self

theorem not_gap_of_word (here : Word word) : ¬ Gap (gap ++ (word ++ rest)) := by
  intro space
  obtain ⟨c, member⟩ := List.exists_mem_of_ne_nil word here.1
  have off := space c (List.mem_append_right _ (List.mem_append_left _ member))
  rw [here.2 c member] at off
  cases off

/-- A text has its runs in one way. -/
theorem Words.unique {others : List (List Char)} (read : Words cs words)
    (again : Words cs others) : others = words := by
  induction read generalizing others with
  | none space =>
    cases again with
    | none => rfl
    | next _ here => exact absurd space (not_gap_of_word here)
  | @next gap word rest words space here stop _ ih =>
    generalize shown : gap ++ (word ++ rest) = cs at again
    cases again with
    | none space' =>
      rw [← shown] at space'
      exact absurd space' (not_gap_of_word here)
    | @next gap' word' rest' others space' here' stop' later =>
      obtain ⟨-, same⟩ := eq_of_span (!slugChar ·) shown (by simpa [Gap] using space)
        (by simpa [Gap] using space') (by simpa using here.head_char)
        (by simpa using here'.head_char)
      obtain ⟨rfl, rfl⟩ := eq_of_span slugChar same here.2 here'.2 stop stop'
      rw [ih later]

/-! ## Writing -/

/-- A run as it is written. -/
def lowered (word : List Char) : List Char := word.map Char.toLower

/-- Lower-case letters and digits. -/
def SmallWord (cs : List Char) : Prop := cs ≠ [] ∧ ∀ c ∈ cs, Small c

theorem Word.lowered (here : Word word) : SmallWord (lowered word) := by
  refine ⟨fun empty => here.1 (List.map_eq_nil_iff.mp empty), fun c member => ?_⟩
  obtain ⟨d, source, rfl⟩ := List.mem_map.mp member
  exact small_toLower (here.2 d source)

theorem slugFrom_word (here : ∀ c ∈ word, slugChar c = true) (written : List Char) :
    slugFrom written (word ++ rest) = slugFrom ((lowered word).reverse ++ written) rest := by
  induction word generalizing written with
  | nil => rfl
  | cons c word ih =>
    obtain ⟨first, others⟩ := List.forall_mem_cons.mp here
    rw [List.cons_append, slugFrom, if_pos first, ih others]
    simp [lowered]

theorem slugFrom_hyphen (space : Gap gap) (written : List Char) :
    slugFrom ('-' :: written) (gap ++ rest) = slugFrom ('-' :: written) rest := by
  induction gap with
  | nil => rfl
  | cons c gap ih =>
    obtain ⟨first, others⟩ := List.forall_mem_cons.mp space
    rw [List.cons_append, slugFrom, if_neg (by simp [first]), if_pos List.head?_cons, ih others]

theorem slugFrom_gap (space : Gap gap) (present : gap ≠ []) {written : List Char}
    (fresh : written.head? ≠ some '-') :
    slugFrom written (gap ++ rest) = slugFrom ('-' :: written) rest := by
  obtain ⟨c, more, rfl⟩ := List.exists_cons_of_ne_nil present
  obtain ⟨first, others⟩ := List.forall_mem_cons.mp space
  rw [List.cons_append, slugFrom, if_neg (by simp [first]), if_neg fresh, slugFrom_hyphen others]

theorem SmallWord.head_reverse_ne (here : SmallWord word) (written : List Char) :
    (word.reverse ++ written).head? ≠ some '-' := by
  intro first
  rw [List.head?_append_of_ne_nil _ (List.reverse_ne_nil_iff.mpr here.1)] at first
  exact (here.2 _ (List.mem_reverse.mp (List.mem_of_mem_head? first))).ne_hyphen rfl

/-- Hyphens only. -/
def Hyphens (cs : List Char) : Prop := ∀ c ∈ cs, c = '-'

theorem hyphens_nil : Hyphens [] := nofun

/-- After a run, one hyphen is written before each further one. -/
theorem slugFrom_after (read : Words cs words) (stop : ∀ c ∈ cs.head?, slugChar c = false)
    {written : List Char} (fresh : written.head? ≠ some '-') :
    ∃ trail, Hyphens trail ∧
      slugFrom written cs =
        (words.flatMap (fun word => '-' :: lowered word) ++ trail).reverse ++ written := by
  induction read generalizing written with
  | @none gap space =>
    cases gap with
    | nil => exact ⟨[], hyphens_nil, rfl⟩
    | cons c gap =>
      refine ⟨['-'], by simp [Hyphens], ?_⟩
      have step : slugFrom written (c :: gap ++ []) = slugFrom ('-' :: written) [] :=
        slugFrom_gap space (List.cons_ne_nil c gap) fresh
      rw [List.append_nil] at step
      exact step
  | @next gap word rest words space here stop' _ ih =>
    have present : gap ≠ [] := by
      rintro rfl
      obtain ⟨c, more, rfl⟩ := List.exists_cons_of_ne_nil here.1
      have off := stop c rfl
      rw [here.2 c List.mem_cons_self] at off
      cases off
    obtain ⟨trail, hyphens, later⟩ := ih stop' (here.lowered.head_reverse_ne ('-' :: written))
    refine ⟨trail, hyphens, ?_⟩
    rw [slugFrom_gap space present fresh, slugFrom_word here.2, later]
    simp

/-- Runs as they are written one after the other. -/
def joined (words : List (List Char)) : List Char := ['-'].intercalate (words.map lowered)

theorem joined_cons (word : List Char) (words : List (List Char)) :
    joined (word :: words) = lowered word ++ words.flatMap (fun word => '-' :: lowered word) := by
  induction words generalizing word with
  | nil => simp [joined]
  | cons next words ih =>
    rw [joined, List.map_cons, List.map_cons, List.intercalate_cons_cons, ← List.map_cons, ← joined,
      ih next]
    simp

theorem slugFrom_start (space : Gap gap) :
    ∃ lead, Hyphens lead ∧ ∀ rest, slugFrom [] (gap ++ rest) = slugFrom lead rest := by
  by_cases present : gap = []
  · subst present
    exact ⟨[], hyphens_nil, fun _ => rfl⟩
  · exact ⟨['-'], by simp [Hyphens], fun _ => slugFrom_gap space present nofun⟩

/-- The runs of a text are written as they are joined, with hyphens at most around them. -/
theorem slugFrom_joined (read : Words cs words) :
    ∃ lead trail, Hyphens lead ∧ Hyphens trail ∧
      slugFrom [] cs = (lead ++ (joined words ++ trail)).reverse := by
  cases read with
  | none space =>
    obtain ⟨lead, hyphens, start⟩ := slugFrom_start space
    refine ⟨lead.reverse, [], fun c member => hyphens c (List.mem_reverse.mp member), hyphens_nil, ?_⟩
    have whole := start []
    rw [List.append_nil] at whole
    rw [whole]
    simp [joined, slugFrom]
  | @next gap word rest words space here stop later =>
    obtain ⟨lead, hyphens, start⟩ := slugFrom_start space
    obtain ⟨trail, hyphens', finish⟩ := slugFrom_after later stop (here.lowered.head_reverse_ne lead)
    refine ⟨lead.reverse, trail, fun c member => hyphens c (List.mem_reverse.mp member), hyphens', ?_⟩
    rw [start, slugFrom_word here.2, finish, joined_cons]
    simp

/-- Hyphens around a text are cut. -/
theorem cut_hyphens {lead mid trail : List Char} (before : Hyphens lead) (after : Hyphens trail)
    (first : mid.head? ≠ some '-') (last : mid.getLast? ≠ some '-') :
    (((lead ++ (mid ++ trail)).reverse.dropWhile (· == '-')).reverse).dropWhile (· == '-') = mid := by
  have kept {cs : List Char} (first : cs.head? ≠ some '-') : cs.dropWhile (· == '-') = cs := by
    cases cs with
    | nil => rfl
    | cons c cs => exact List.dropWhile_cons_of_neg fun same => first (by simpa using same)
  have dropped {cs : List Char} (hyphens : Hyphens cs) (rest : List Char) :
      (cs ++ rest).dropWhile (· == '-') = rest.dropWhile (· == '-') :=
    List.dropWhile_append_of_pos fun c member => beq_iff_eq.mpr (hyphens c member)
  rw [List.reverse_append, List.reverse_append, List.append_assoc,
    dropped fun c member => after c (List.mem_reverse.mp member)]
  by_cases empty : mid = []
  · subst empty
    rw [List.reverse_nil, List.nil_append, ← List.append_nil lead.reverse,
      dropped fun c member => before c (List.mem_reverse.mp member)]
    rfl
  · have back : (mid.reverse ++ lead.reverse).head? ≠ some '-' := by
      rwa [List.head?_append_of_ne_nil _ (List.reverse_ne_nil_iff.mpr empty), List.head?_reverse]
    rw [kept back, ← List.reverse_append, List.reverse_reverse, dropped before, kept first]

/-! ## The shape of a name -/

/-- Lower-case letters and digits with single hyphens between them. -/
structure Slugged (cs : List Char) : Prop where
  present : cs ≠ []
  chars : ∀ c ∈ cs, Small c ∨ c = '-'
  first : cs.head? ≠ some '-'
  last : cs.getLast? ≠ some '-'
  single : ¬ ['-', '-'] <:+: cs

/-- Hyphens stay single when a word without any is put in front. -/
theorem single_append {word rest : List Char} (plain : ∀ c ∈ word, c ≠ '-')
    (single : ¬ ['-', '-'] <:+: rest) : ¬ ['-', '-'] <:+: word ++ rest := by
  induction word with
  | nil => exact single
  | cons c word ih =>
    obtain ⟨first, others⟩ := List.forall_mem_cons.mp plain
    rw [List.cons_append, List.infix_cons_iff, List.cons_prefix_cons]
    rintro (⟨same, -⟩ | later)
    · exact first same.symm
    · exact ih others later

namespace SmallWord

theorem slugged (here : SmallWord word) : Slugged word where
  present := here.1
  chars c member := .inl (here.2 c member)
  first atEnd := (here.2 _ (List.mem_of_mem_head? atEnd)).ne_hyphen rfl
  last atEnd := (here.2 _ (List.mem_of_getLast? atEnd)).ne_hyphen rfl
  single twice := (here.2 _ (twice.subset List.mem_cons_self)).ne_hyphen rfl

/-- A small word, a hyphen and a slug make a slug. -/
theorem slugged_append (here : SmallWord word) (later : Slugged rest) :
    Slugged (word ++ '-' :: rest) where
  present := List.append_ne_nil_of_left_ne_nil here.1 _
  chars := by
    refine List.forall_mem_append.mpr ⟨here.slugged.chars, ?_⟩
    exact List.forall_mem_cons.mpr ⟨.inr rfl, later.chars⟩
  first := by
    rw [List.head?_append_of_ne_nil _ here.1]
    exact here.slugged.first
  last := by
    rw [List.getLast?_append_of_ne_nil _ (List.cons_ne_nil _ _),
      List.getLast?_cons_of_ne_nil later.present]
    exact later.last
  single := by
    refine single_append (fun c member => (here.2 c member).ne_hyphen) ?_
    rw [List.infix_cons_iff, List.cons_prefix_cons]
    rintro (⟨-, again⟩ | deeper)
    · obtain ⟨more, rfl⟩ := again
      exact later.first rfl
    · exact later.single deeper

end SmallWord

/-- Words that are joined in small letters make a slug. -/
theorem Slugged.joined (all : ∀ word ∈ words, Word word) (present : words ≠ []) :
    Slugged (joined words) := by
  induction words with
  | nil => exact absurd rfl present
  | cons word words ih =>
    obtain ⟨here, others⟩ := List.forall_mem_cons.mp all
    cases words with
    | nil =>
      rw [Session.joined, List.map_singleton, List.intercalate_singleton]
      exact here.lowered.slugged
    | cons next words =>
      have tail := ih others (List.cons_ne_nil _ _)
      rw [Session.joined, List.map_cons, List.map_cons, List.intercalate_cons_cons, List.append_assoc,
        ← List.map_cons, ← Session.joined]
      exact here.lowered.slugged_append tail

theorem Words.all_words (read : Words cs words) : ∀ word ∈ words, Word word := by
  induction read with
  | none => nofun
  | next _ here _ _ ih => exact List.forall_mem_cons.mpr ⟨here, ih⟩

/-- A text with single hyphens is written as it is. -/
theorem slugFrom_slugged {written : List Char} (chars : ∀ c ∈ cs, Small c ∨ c = '-')
    (single : ¬ ['-', '-'] <:+: written.reverse ++ cs) :
    slugFrom written cs = cs.reverse ++ written := by
  induction cs generalizing written with
  | nil => rfl
  | cons c cs ih =>
    obtain ⟨here, others⟩ := List.forall_mem_cons.mp chars
    have moved : written.reverse ++ c :: cs = (c :: written).reverse ++ cs := by simp
    rw [moved] at single
    have later := ih others single
    rcases here with small | rfl
    · rw [slugFrom, if_pos small.slugChar, small.toLower_eq, later]
      simp
    · have fresh : written.head? ≠ some '-' := by
        intro again
        obtain ⟨more, rfl⟩ := List.head?_eq_some_iff.mp again
        exact single ⟨more.reverse, cs, by simp⟩
      rw [slugFrom, if_neg (by simp [slugChar_hyphen]), if_neg fresh, later]
      simp

theorem slug_of_slugFrom {name : String} {lead mid trail : List Char} (before : Hyphens lead)
    (after : Hyphens trail) (first : mid.head? ≠ some '-') (last : mid.getLast? ≠ some '-')
    (written : slugFrom [] (Text.trimmed name.toList) = (lead ++ (mid ++ trail)).reverse) :
    slug name = if mid = [] then "run" else String.ofList mid := by
  simp only [slug, written, cut_hyphens before after first last, List.isEmpty_iff]

/-- A name in this shape is left as it is. -/
theorem Slugged.slug_eq {name : String} (shape : Slugged name.toList) : slug name = name := by
  have solid : Text.trimmed name.toList = name.toList := by
    refine Text.trimmed_of_solid fun c member => ?_
    rcases shape.chars c member with small | rfl
    · exact blank_of_slugChar small.slugChar
    · exact blank_hyphen
  have written : slugFrom [] name.toList = name.toList.reverse ++ [] :=
    slugFrom_slugged shape.chars shape.single
  rw [slug_of_slugFrom hyphens_nil hyphens_nil shape.first shape.last
    (by rw [solid, written]; simp), if_neg shape.present, String.ofList_toList]

/-! ## Names -/

theorem words_trimmed_iff : Words (Text.trimmed cs) words ↔ Words cs words := by
  obtain ⟨lead, trail, before, after, split⟩ := Text.trimmed_between cs
  have up {others} (read : Words (Text.trimmed cs) others) : Words cs others := by
    rw [split]
    exact (read.append_gap fun c member => slugChar_of_blank (after c member)).gap_append
      fun c member => slugChar_of_blank (before c member)
  refine ⟨up, fun read => ?_⟩
  obtain ⟨others, inner⟩ := exists_words (Text.trimmed cs)
  exact read.unique (up inner) ▸ inner

theorem slug_eq {name : String} (read : Words name.toList words) :
    slug name = if words = [] then "run" else String.ofList (joined words) := by
  obtain ⟨lead, trail, before, after, written⟩ := slugFrom_joined (words_trimmed_iff.mpr read)
  by_cases none : words = []
  · subst none
    exact slug_of_slugFrom before after (by decide) (by decide) written
  · have shape := Slugged.joined read.all_words none
    rw [slug_of_slugFrom before after shape.first shape.last written, if_neg shape.present,
      if_neg none]

theorem slugged_run : Slugged "run".toList := by
  have letters : "run".toList.all Char.isLower := by decide
  exact SmallWord.slugged ⟨by decide, fun c member => .inl (List.all_eq_true.mp letters c member)⟩

theorem slugged_slug (name : String) : Slugged (slug name).toList := by
  obtain ⟨words, read⟩ := exists_words name.toList
  rw [slug_eq read]
  split
  · exact slugged_run
  · rename_i present
    rw [String.toList_ofList]
    exact Slugged.joined read.all_words present

/-- The name of a session is the runs of letters and digits of the collection's name in lower case with
single hyphens between them, and then the time.  A name that has the shape of one is left as it is. -/
theorem new_id_canonical (name : String) (folderPath : Option String)
    (environment : Option Environment) (config : RunConfig) (now : Moment) :
    (new name folderPath environment config now).id = slug name ++ "-" ++ now.stamp ∧
      (∃! words, Words name.toList words) ∧
      (∀ words, Words name.toList words → slug name =
        if words = [] then "run" else
          String.ofList (['-'].intercalate (words.map fun word => word.map Char.toLower))) ∧
      Slugged (slug name).toList ∧ slug (slug name) = slug name := by
  refine ⟨rfl, ?_, fun words read => slug_eq read, slugged_slug name, (slugged_slug name).slug_eq⟩
  obtain ⟨words, read⟩ := exists_words name.toList
  exact ⟨words, read, fun others again => read.unique again⟩

end Session

end CollectionRunner
