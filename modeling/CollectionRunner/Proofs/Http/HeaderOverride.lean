import CollectionRunner.Proofs.Http.HeaderMap

/-!
# Headers that are set over others

A request can carry several headers of one name, ignoring case.  Setting the name replaces the first
of them and leaves the others behind it (`Header.overrides_putHeader`), while removing the name
removes them all.  So a header that is set is the only one of its name if and only if there was at
most one before, which calls of setters keep and a removal brings about (`Call.lone_edits`).  Main
statement: `RequestView.setHeader_overrides`; a value that stays behind is in
`RequestView.older_header_stays`.
-/

namespace CollectionRunner

namespace Header

/-- The headers of a name, ignoring the case of ASCII letters, in order. -/
def under (name : String) (headers : List Header) : List Header := headers.filter (named name)

/-- What is left of headers over which a header was set. -/
structure Overrides (name value : String) (old new : List Header) : Prop where
  /-- The header comes in the place of the first older one of the name. -/
  own : under name new = ⟨name, value⟩ :: (under name old).tail
  others : RequestView.dropHeader name new = RequestView.dropHeader name old
  found : find? new name = some value
  lone_iff : under name new = [⟨name, value⟩] ↔ (under name old).length ≤ 1

theorem under_cons_of_named {name : String} {h : Header} (named : h.named name = true)
    (rest : List Header) : under name (h :: rest) = h :: under name rest :=
  List.filter_cons_of_pos named

theorem under_cons_of_unnamed {name : String} {h : Header} (unnamed : ¬ h.named name = true)
    (rest : List Header) : under name (h :: rest) = under name rest :=
  List.filter_cons_of_neg unnamed

theorem under_congr {name other : String} (same : Text.asciiLower name = Text.asciiLower other)
    (headers : List Header) : under name headers = under other headers := by
  refine List.filter_congr fun h _ => ?_
  rw [Bool.eq_iff_iff, named_iff, named_iff, same]

theorem named_self (name value : String) : named name ⟨name, value⟩ = true := named_iff.mpr rfl

/-- Putting a header replaces the first one of its name and leaves the others of that name. -/
theorem under_putHeader (name value : String) (headers : List Header) :
    under name (RequestView.putHeader name value headers) =
      ⟨name, value⟩ :: (under name headers).tail := by
  induction headers with
  | nil => exact under_cons_of_named (named_self name value) []
  | cons h rest ih =>
    rw [RequestView.putHeader]
    by_cases named : h.named name = true
    · rw [if_pos named, under_cons_of_named (named_self name value), under_cons_of_named named,
        List.tail_cons]
    · rw [if_neg named, under_cons_of_unnamed named, under_cons_of_unnamed named, ih]

/-- Putting a header leaves the headers of other names. -/
theorem under_putHeader_of_ne {name other : String}
    (differs : Text.asciiLower other ≠ Text.asciiLower name) (value : String)
    (headers : List Header) :
    under other (RequestView.putHeader name value headers) = under other headers := by
  have unnamed : ¬ named other ⟨name, value⟩ = true := fun named => differs (named_iff.mp named).symm
  induction headers with
  | nil => exact under_cons_of_unnamed unnamed []
  | cons h rest ih =>
    rw [RequestView.putHeader]
    by_cases named : h.named name = true
    · have passed : ¬ h.named other = true := fun also =>
        differs ((named_iff.mp also).symm.trans (named_iff.mp named))
      rw [if_pos named, under_cons_of_unnamed unnamed, under_cons_of_unnamed passed]
    · rw [if_neg named]
      unfold under at ih ⊢
      rw [List.filter_cons, List.filter_cons, ih]

/-- Dropping the headers of a name forgets what was put under it. -/
theorem dropHeader_putHeader (name value : String) (headers : List Header) :
    RequestView.dropHeader name (RequestView.putHeader name value headers) =
      RequestView.dropHeader name headers := by
  unfold RequestView.dropHeader
  induction headers with
  | nil => simp [RequestView.putHeader, named_self]
  | cons h rest ih =>
    rw [RequestView.putHeader]
    by_cases named : h.named name = true
    · rw [if_pos named, List.filter_cons_of_neg (by simp [named_self]),
        List.filter_cons_of_neg (by simp [named])]
    · rw [if_neg named, List.filter_cons_of_pos (by simp [named]),
        List.filter_cons_of_pos (by simp [named]), ih]

theorem overrides_putHeader (name value : String) (headers : List Header) :
    Overrides name value headers (RequestView.putHeader name value headers) where
  own := under_putHeader name value headers
  others := dropHeader_putHeader name value headers
  found := by rw [find?_putHeader, if_pos rfl]
  lone_iff := by
    rw [under_putHeader, List.cons.injEq, and_iff_right rfl, ← List.length_eq_zero_iff,
      List.length_tail]
    omega

/-- Dropping the headers of a name leaves none of it, and leaves those of other names. -/
theorem under_dropHeader {name other : String} (headers : List Header) :
    under other (RequestView.dropHeader name headers) =
      if Text.asciiLower other = Text.asciiLower name then [] else under other headers := by
  unfold under RequestView.dropHeader
  rw [List.filter_filter]
  split
  · rename_i same
    refine List.filter_eq_nil_iff.mpr fun h _ both => ?_
    rw [Bool.and_eq_true, Bool.not_eq_true'] at both
    exact absurd (named_iff.mpr ((named_iff.mp both.1).trans same)) (by simp [both.2])
  · rename_i differs
    refine List.filter_congr fun h _ => ?_
    cases named : h.named other with
    | false => rfl
    | true =>
      have unnamed : h.named name = false := Bool.eq_false_iff.mpr fun also =>
        differs ((named_iff.mp named).symm.trans (named_iff.mp also))
      rw [unnamed]
      rfl

end Header

namespace RequestView

/-! ## Names that come once -/

/-- A call leaves at most one header of a name if there was at most one, or if it removes them. -/
theorem Call.lone_edit {r : Request} {name : String} (c : Call)
    (lone : (Header.under name r.headers).length ≤ 1 ∨ c.removes (Text.asciiLower name) = true) :
    (Header.under name (c.edit r).headers).length ≤ 1 := by
  cases c with
  | setUrl | setBody => exact lone.resolve_right Bool.false_ne_true
  | setHeader other value =>
    have before := lone.resolve_right Bool.false_ne_true
    by_cases same : Text.asciiLower name = Text.asciiLower other
    · rw [Header.under_congr same] at before ⊢
      rw [edit, Header.under_putHeader, List.length_cons, List.length_tail]
      omega
    · rw [edit, Header.under_putHeader_of_ne same]
      exact before
  | removeHeader other =>
    rw [edit, Header.under_dropHeader]
    split
    · exact Nat.zero_le 1
    · rename_i differs
      exact lone.resolve_right fun removed => differs (beq_iff_eq.mp removed).symm

/-- At most one header of a name stays so; a call that removes the name makes it so. -/
theorem Call.lone_edits {r : Request} {name : String} (cs : List Call)
    (lone : (Header.under name r.headers).length ≤ 1 ∨
      cs.any (removes (Text.asciiLower name)) = true) :
    (Header.under name (cs.foldl edit r).headers).length ≤ 1 := by
  induction cs generalizing r with
  | nil => exact lone.resolve_right Bool.false_ne_true
  | cons c rest ih =>
    refine ih ?_
    rcases lone with before | removed
    · exact .inl (c.lone_edit (.inl before))
    · rw [List.any_cons, Bool.or_eq_true] at removed
      exact removed.imp (fun here => c.lone_edit (.inr here)) id

/-! ## Setting a header -/

/-- What a view shows, and what is sent, after a header was set over those of an earlier view. -/
structure Carries (r : Request) (cs : List Call) (name value : String) (old v : RequestView) :
    Prop where
  overrides : Header.Overrides name value old.request.headers v.request.headers
  sent : ∀ target, (v.applyTo target).headers = v.request.headers
  /-- The request that was given has at most one header of the name, or the name was removed. -/
  lone : (Header.under name r.headers).length ≤ 1 ∨
      cs.any (Call.removes (Text.asciiLower name)) = true →
    Header.under name v.request.headers = [⟨name, value⟩]

/-- After any calls, a header that is set comes in the place of the first one of its name.  It is the
only one of its name, in the view and in the request that is sent, unless the name came more than
once from the beginning and was never removed. -/
theorem setHeader_overrides (r : Request) (cs : List Call) (name value : String) :
    ((readOnly r).calls cs).setHeader name value = none ∧
      ∃ v, ((editable r).calls cs).setHeader name value = some v ∧
        Carries r cs name value ((editable r).calls cs) v := by
  have kept : (readOnly r).calls cs = readOnly r := (calls_of_readOnly rfl cs).1
  have edited : (editable r).calls cs = ⟨cs.foldl Call.edit r, true, !cs.isEmpty⟩ :=
    calls_eq rfl cs
  have overrides := Header.overrides_putHeader name value (cs.foldl Call.edit r).headers
  rw [kept, edited]
  exact ⟨rfl, _, rfl, {
    overrides := overrides
    sent := fun _ => rfl
    lone := fun lone => overrides.lone_iff.mpr (Call.lone_edits cs lone) }⟩

/-- A value set over two headers of its name, and the older value of the second one is sent with
it. -/
theorem older_header_stays :
    let r : Request := ⟨"GET", "https://api.test/", [⟨"X-Id", "1"⟩, ⟨"x-id", "2"⟩], none⟩
    ∃ v, (editable r).setHeader "X-ID" "3" = some v ∧
      Header.under "X-ID" v.request.headers = [⟨"X-ID", "3"⟩, ⟨"x-id", "2"⟩] ∧
      (v.applyTo r).headers = [⟨"X-ID", "3"⟩, ⟨"x-id", "2"⟩] :=
  ⟨_, rfl, by decide, by decide⟩

end RequestView

end CollectionRunner
