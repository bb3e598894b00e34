import CollectionRunner.Proofs.Http.HeaderOverride
import CollectionRunner.Proofs.Http.QueryPart
import CollectionRunner.Proofs.Script.Endings

/-!
# Names that come more than once

Scripts read parameters and headers one by one, or all of them as a map.  One by one they get the
first value of a name, and the map holds the last one (`Variables.get?_ofList`), so both ways agree
on a name if and only if its first and its last value are the same (`Readings`).  Main statements:
`Native.query_read`, and `Native.headers_read` where the map tells names apart that are one name for
who asks for a single header.
-/

namespace CollectionRunner

/-! ## First and last values -/

/-- The values that entries give to a name, in order. -/
def Variables.valuesOf (entries : List (String × String)) (name : String) : List String :=
  (entries.filter (·.1 == name)).map Prod.snd

/-- A lookup in a list of entries finds the first value that the list gives to a name. -/
theorem Variables.lookup_eq_head? (entries : List (String × String)) (name : String) :
    entries.lookup name = (valuesOf entries name).head? := by
  unfold valuesOf
  induction entries with
  | nil => rfl
  | cons entry rest ih =>
    obtain ⟨key, value⟩ := entry
    by_cases same : name = key
    · rw [same, List.lookup_cons_self, List.filter_cons_of_pos (by simp)]
      rfl
    · rw [List.lookup_cons, beq_false_of_ne same,
        List.filter_cons_of_neg (by simpa using Ne.symm same)]
      exact ih

/-- Entries set one after the other leave the last value that they give to a name, or the one from
before where they give none. -/
theorem Variables.get?_setAll_eq (entries : List (String × String)) (vars : Variables)
    (name : String) :
    (vars.setAll entries).get? name = (valuesOf entries name).getLast?.or (vars.get? name) := by
  unfold valuesOf
  induction entries generalizing vars with
  | nil => rfl
  | cons entry rest ih =>
    obtain ⟨key, value⟩ := entry
    have later := ih (vars.set key value)
    rw [get?_set] at later
    refine later.trans ?_
    by_cases same : name = key
    · rw [if_pos same, List.filter_cons_of_pos (by simp [same]), List.map_cons, List.getLast?_cons]
      cases ((rest.filter (·.1 == name)).map Prod.snd).getLast? <;> rfl
    · rw [if_neg same, List.filter_cons_of_neg (by simpa using Ne.symm same)]

/-- The variables of a list of entries hold the last value of each name. -/
theorem Variables.get?_ofList (entries : List (String × String)) (name : String) :
    (ofList entries).get? name = (valuesOf entries name).getLast? := by
  rw [ofList, get?_setAll_eq]
  exact Option.or_none

/-- The entries of variables are what a lookup finds. -/
theorem Variables.mem_entries_iff {vars : Variables} {name value : String} :
    (name, value) ∈ vars.entries ↔ vars.get? name = some value := by
  rw [get?, List.lookup_eq_some_iff]
  constructor
  · intro member
    obtain ⟨before, after, split⟩ := List.append_of_mem member
    refine ⟨before, after, split, fun entry earlier => bne_iff_ne.mpr ?_⟩
    have ordered := vars.ordered
    rw [split] at ordered
    exact (Std.ne_of_lt ((List.pairwise_append.mp ordered).2.2 entry earlier _
      List.mem_cons_self)).symm
  · rintro ⟨before, after, split, -⟩
    rw [split]
    exact List.mem_append_right before List.mem_cons_self

/-! ## One by one and as a map -/

namespace Datum

theorem mem_entries_iff {vars : Variables} {name : String} {d : Datum} :
    (name, d) ∈ vars.entries.map (fun (k, v) => (k, text v)) ↔
      ∃ value, vars.get? name = some value ∧ d = text value := by
  rw [List.mem_map]
  constructor
  · rintro ⟨⟨key, value⟩, member, same⟩
    cases same
    exact ⟨value, Variables.mem_entries_iff.mp member, rfl⟩
  · rintro ⟨value, held, rfl⟩
    exact ⟨(name, value), Variables.mem_entries_iff.mpr held, rfl⟩

theorem text_eq_ofText?_iff {s : String} {found : Option String} :
    text s = ofText? found ↔ found = some s := by
  cases found with
  | none => exact ⟨nofun, nofun⟩
  | some t => rw [ofText?, text.injEq, Option.some.injEq, eq_comm]

end Datum

/-- What is found under a name, of the values that `findable` gives it, and the entries of a map made
of the values that `written` gives to names. -/
structure Readings (find : String → Option String) (findable written : String → List String)
    (entries : List (String × Datum)) : Prop where
  first : ∀ name, find name = (findable name).head?
  last : ∀ name d, (name, d) ∈ entries ↔
    ∃ value, (written name).getLast? = some value ∧ d = .text value
  agree_iff : ∀ name d, (name, d) ∈ entries →
    (d = .ofText? (find name) ↔ (findable name).head? = (written name).getLast?)

/-- A reading by the first value of a name beside a map of the same pairs, which keeps the last. -/
theorem Readings.of_first {find : String → Option String} {findable : String → List String}
    (first : ∀ name, find name = (findable name).head?) (pairs : List (String × String)) :
    Readings find findable (Variables.valuesOf pairs)
      ((Variables.ofList pairs).entries.map fun (k, v) => (k, .text v)) := by
  have last (name : String) (d : Datum) :
      (name, d) ∈ (Variables.ofList pairs).entries.map (fun (k, v) => (k, .text v)) ↔
        ∃ value, (Variables.valuesOf pairs name).getLast? = some value ∧ d = .text value := by
    rw [Datum.mem_entries_iff, Variables.get?_ofList]
  refine ⟨first, last, fun name d member => ?_⟩
  obtain ⟨value, held, rfl⟩ := (last name d).mp member
  rw [Datum.text_eq_ofText?_iff, first, held]

/-! ## Parameters -/

namespace Native

/-- What scripts get of the query of their request: single parameters, and a map with these
entries. -/
structure QueryRead (caller : Caller) (m : Machine) (entries : List (String × Datum)) : Prop where
  all : answer? caller "query" [.handle .request] m = some (.ok (.map entries, none), m)
  one : ∀ name, answer? caller "param" [.handle .request, .text name] m =
    some (.ok (.ofText? (m.host.request.param name), none), m)
  readings : Readings m.host.request.param (Variables.valuesOf m.host.request.query)
    (Variables.valuesOf m.host.request.query) entries
  present : ∀ name, (∃ d, (name, d) ∈ entries) ↔ (m.host.request.param name).isSome
  /-- A name that comes at most once. -/
  lone : ∀ name, (Variables.valuesOf m.host.request.query name).length ≤ 1 →
    ∀ d, (name, d) ∈ entries → d = .ofText? (m.host.request.param name)

/-- A script that asks for a parameter gets its first value, and the map of all parameters holds its
last one. -/
theorem query_read (caller : Caller) (m : Machine) : ∃ entries, QueryRead caller m entries := by
  have readings := Readings.of_first (Variables.lookup_eq_head? m.host.request.query)
    m.host.request.query
  refine ⟨_, {
    all := rfl
    one := fun _ => rfl
    readings := readings
    present := ?_
    lone := ?_ }⟩
  · intro name
    change _ ↔ (m.host.request.query.lookup name).isSome
    rw [readings.first, List.isSome_head?, ← List.getLast?_isSome, Option.isSome_iff_exists]
    constructor
    · rintro ⟨d, member⟩
      obtain ⟨value, held, -⟩ := (readings.last name d).mp member
      exact ⟨value, held⟩
    · rintro ⟨value, held⟩
      exact ⟨.text value, (readings.last name _).mpr ⟨value, held, rfl⟩⟩
  · intro name lone d member
    refine (readings.agree_iff name d member).mpr ?_
    match Variables.valuesOf m.host.request.query name, lone with
    | [], _ => rfl
    | [_], _ => rfl

end Native

/-- A query with two values of one name. -/
theorem Query.pairs_of_repeated : pairs "a=1&a=2" = [("a", "1"), ("a", "2")] := by
  have parts : (splitAll 0x26 (Text.bytes "a=1&a=2")).filter (! ·.isEmpty) =
      [[0x61, 0x3d, 0x31], [0x61, 0x3d, 0x32]] := by
    decide +kernel
  rw [pairs, parts]
  simp [splitFirst, decode, unescape, Text.lossy, Text.lossyFrom, Text.lossyFrom.start]

/-- A parameter with two values: asked for by its name it is the first one, and the map holds the
second. -/
theorem Native.parameters_read_apart :
    let request := RequestView.editable ⟨"GET", "https://api.test/?a=1&a=2", [], none⟩
    request.query = [("a", "1"), ("a", "2")] ∧
    ∀ caller, ∀ m : Machine, m.host.request = request →
      answer? caller "query" [.handle .request] m = some (.ok (.map [("a", .text "2")], none), m) ∧
      answer? caller "param" [.handle .request, .text "a"] m =
        some (.ok (.text "1", none), m) := by
  intro request
  have split : "https://api.test/?a=1&a=2".toList =
      "https://api.test/".toList ++ '?' :: ("a=1&a=2".toList ++ []) := by decide
  have read : request.query = _ := Query.ofUrl_of_split split (by decide) (by decide) .nothing
  rw [String.ofList_toList, Query.pairs_of_repeated] at read
  refine ⟨read, fun caller m given => ?_⟩
  rw [← given] at read
  constructor
  · change some (Except.ok (Datum.ofVariables (Variables.ofList m.host.request.query), none), m) = _
    rw [read]
    rfl
  · change some (Except.ok (Datum.ofText? (m.host.request.query.lookup "a"), none), m) = _
    rw [read]
    rfl

/-! ## Headers -/

namespace Header

/-- The values of the headers of a name as it is written, in order. -/
def written (headers : List Header) (name : String) : List String :=
  Variables.valuesOf (headers.map fun h => (h.name, h.value)) name

theorem find?_eq_head? (headers : List Header) (name : String) :
    find? headers name = ((under name headers).map Header.value).head? := by
  rw [find?, List.head?_map, under, List.head?_filter]

theorem mem_written_iff {headers : List Header} {name value : String} :
    value ∈ written headers name ↔ ⟨name, value⟩ ∈ headers := by
  simp only [written, Variables.valuesOf, List.mem_map, List.mem_filter]
  constructor
  · rintro ⟨_, ⟨⟨⟨n, v⟩, member, rfl⟩, same⟩, rfl⟩
    cases beq_iff_eq.mp same
    exact member
  · intro member
    exact ⟨(name, value), ⟨⟨_, member, rfl⟩, beq_self_eq_true name⟩, rfl⟩

end Header

namespace Native

/-- What scripts get of headers through their object: single headers, and a map with these
entries. -/
structure HeadersRead (caller : Caller) (m : Machine) (object : Handle) (headers : List Header)
    (entries : List (String × Datum)) : Prop where
  all : answer? caller "all" [.handle object] m = some (.ok (.map entries, none), m)
  one : ∀ name, answer? caller "get" [.handle object, .text name] m =
    some (.ok (.ofText? (Header.find? headers name), none), m)
  has : ∀ name, answer? caller "has" [.handle object, .text name] m =
    some (.ok (.bool (Header.find? headers name).isSome, none), m)
  /-- A single header is found ignoring case; the map tells the ways apart that a name is
  written. -/
  readings : Readings (Header.find? headers)
    (fun name => (Header.under name headers).map Header.value) (Header.written headers) entries
  present : ∀ name, (Header.find? headers name).isSome ↔
    ∃ entry ∈ entries, Text.asciiLower entry.1 = Text.asciiLower name
  /-- Headers of one name, ignoring case, have one value. -/
  uniform : (∀ g ∈ headers, ∀ h ∈ headers, Text.asciiLower g.name = Text.asciiLower h.name →
      g.value = h.value) →
    ∀ name d, (name, d) ∈ entries → d = .ofText? (Header.find? headers name)

/-- What the object for some headers answers, if it answers by `Header.find?` and `Header.table`. -/
theorem HeadersRead.of_answers {caller : Caller} {m : Machine} {object : Handle}
    {headers : List Header}
    (all : answer? caller "all" [.handle object] m =
      some (.ok (.ofVariables (Header.table headers), none), m))
    (one : ∀ name, answer? caller "get" [.handle object, .text name] m =
      some (.ok (.ofText? (Header.find? headers name), none), m))
    (has : ∀ name, answer? caller "has" [.handle object, .text name] m =
      some (.ok (.bool (Header.find? headers name).isSome, none), m)) :
    ∃ entries, HeadersRead caller m object headers entries := by
  have readings := Readings.of_first (Header.find?_eq_head? headers)
    (headers.map fun h => (h.name, h.value))
  -- an entry of the map is a header
  have header {name : String} {d : Datum}
      (member : (name, d) ∈ (Header.table headers).entries.map fun (k, v) => (k, .text v)) :
      ∃ value, ⟨name, value⟩ ∈ headers ∧ d = .text value := by
    obtain ⟨value, held, same⟩ := (readings.last name d).mp member
    exact ⟨value, Header.mem_written_iff.mp (List.mem_of_getLast? held), same⟩
  refine ⟨_, {
    all := all
    one := one
    has := has
    readings := readings
    present := ?_
    uniform := ?_ }⟩
  · intro name
    rw [Header.find?, Option.isSome_map, List.find?_isSome]
    constructor
    · rintro ⟨h, member, named⟩
      have written : Header.written headers h.name ≠ [] :=
        List.ne_nil_of_mem (Header.mem_written_iff.mpr member)
      obtain ⟨value, held⟩ := Option.isSome_iff_exists.mp (List.getLast?_isSome.mpr written)
      exact ⟨(h.name, .text value), (readings.last h.name _).mpr ⟨value, held, rfl⟩,
        Header.named_iff.mp named⟩
    · rintro ⟨⟨key, d⟩, member, same⟩
      obtain ⟨value, there, -⟩ := header member
      exact ⟨_, there, Header.named_iff.mpr same⟩
  · intro uniform name d member
    obtain ⟨value, there, rfl⟩ := header member
    rw [Datum.text_eq_ofText?_iff, Header.find?]
    obtain ⟨h, found⟩ : ∃ h, headers.find? (Header.named name) = some h :=
      Option.isSome_iff_exists.mp (List.find?_isSome.mpr ⟨_, there, Header.named_self name value⟩)
    have same := uniform h (List.mem_of_find?_eq_some found) _ there
      (Header.named_iff.mp (List.find?_some found))
    rw [found, Option.map_some, same]

/-- A script that asks for a header gets the first one of its name ignoring case, and the map of all
headers holds the last one of each name as it is written; of the request as of a response. -/
theorem headers_read (caller : Caller) (m : Machine) :
    (∃ entries, HeadersRead caller m .requestHeaders m.host.request.request.headers entries) ∧
      ∀ r : Response, ∃ entries, HeadersRead caller m (.responseHeaders r) r.headers entries :=
  ⟨HeadersRead.of_answers rfl (fun _ => rfl) fun _ => rfl,
    fun _ => HeadersRead.of_answers rfl (fun _ => rfl) fun _ => rfl⟩

end Native

/-- A header with two values: asked for by its name it is the first one, and the map holds the
second. -/
theorem Native.cookies_read_apart :
    let cookies : List Header := [⟨"Set-Cookie", "a=1"⟩, ⟨"Set-Cookie", "b=2"⟩]
    let object := Handle.responseHeaders ⟨200, "OK", cookies, "", 0.0⟩
    Header.find? cookies "Set-Cookie" = some "a=1" ∧
    ∀ caller m,
      answer? caller "all" [.handle object] m =
        some (.ok (.map [("Set-Cookie", .text "b=2")], none), m) ∧
      answer? caller "get" [.handle object, .text "Set-Cookie"] m =
        some (.ok (.text "a=1", none), m) :=
  ⟨rfl, fun _ _ => ⟨rfl, rfl⟩⟩

end CollectionRunner
