import CollectionRunner.Http.View
import CollectionRunner.Proofs.Env.Replay
import CollectionRunner.Text.Letters
import Mathlib.Data.List.Basic

/-!
# Views as maps of headers

The headers of a view are a list in which names can come more than once, in any case.  Who only looks
headers up sees a map from names in lower case to values: `Header.Reads` is that relation between a
list and a map, setting a header is setting an entry of the map, and removing one is removing an
entry (`Header.Reads.put`, `Header.Reads.drop`).  So a view and its map answer every sequence of
setters alike.  Main statement: `RequestView.calls_refine`, which also says what setters do to the
rest of the view and in which order they leave the headers.
-/

namespace CollectionRunner

namespace Header

/-! ## Lists of headers and maps -/

theorem named_iff {name : String} {h : Header} :
    h.named name = true ↔ Text.asciiLower h.name = Text.asciiLower name := by
  unfold named Text.asciiLower
  rw [beq_iff_eq, String.ofList_inj]

/-- The map that has, for every name, the value of its first header. -/
def firsts : List Header → Variables
  | [] => .empty
  | h :: rest => (firsts rest).set (Text.asciiLower h.name) h.value

/-- Looking headers up is looking names in lower case up. -/
def Reads (headers : List Header) (map : Variables) : Prop :=
  ∀ name, find? headers name = map.get? (Text.asciiLower name)

/-- A header is found first if the name is its own, in any case. -/
theorem find?_cons (h : Header) (rest : List Header) (name : String) :
    find? (h :: rest) name =
      if Text.asciiLower name = Text.asciiLower h.name then some h.value
      else find? rest name := by
  unfold find?
  rw [List.find?_cons]
  by_cases same : Text.asciiLower name = Text.asciiLower h.name
  · rw [named_iff.mpr same.symm, if_pos same]
    rfl
  · have other : h.named name = false :=
      Bool.eq_false_iff.mpr fun named => same (named_iff.mp named).symm
    rw [other, if_neg same]

theorem reads_firsts (headers : List Header) : Reads headers (firsts headers) := by
  induction headers with
  | nil => exact fun _ => rfl
  | cons h rest ih =>
    intro name
    rw [find?_cons, firsts, Variables.get?_set, ih name]

/-- A header that is put is found under its name, and all others are found as before. -/
theorem find?_putHeader (headers : List Header) (name value other : String) :
    find? (RequestView.putHeader name value headers) other =
      if Text.asciiLower other = Text.asciiLower name then some value
      else find? headers other := by
  induction headers with
  | nil => exact find?_cons ⟨name, value⟩ [] other
  | cons h rest ih =>
    rw [RequestView.putHeader]
    split
    · rename_i named
      have same := named_iff.mp named
      rw [find?_cons, find?_cons, same]
      split <;> rfl
    · rename_i unnamed
      have differs : Text.asciiLower h.name ≠ Text.asciiLower name := mt named_iff.mpr unnamed
      rw [find?_cons, find?_cons, ih]
      by_cases first : Text.asciiLower other = Text.asciiLower h.name
      · rw [if_pos first, if_pos first, if_neg (first ▸ differs)]
      · rw [if_neg first, if_neg first]

/-- A header that is dropped is not found, and all others are found as before. -/
theorem find?_dropHeader (headers : List Header) (name other : String) :
    find? (RequestView.dropHeader name headers) other =
      if Text.asciiLower other = Text.asciiLower name then none else find? headers other := by
  unfold RequestView.dropHeader
  induction headers with
  | nil => simp [find?]
  | cons h rest ih =>
    by_cases named : h.named name = true
    · have same := named_iff.mp named
      rw [List.filter_cons_of_neg (by simp [named]), ih, find?_cons, same]
      split <;> rfl
    · have differs : Text.asciiLower h.name ≠ Text.asciiLower name := mt named_iff.mpr named
      rw [List.filter_cons_of_pos (by simp [named]), find?_cons, find?_cons, ih]
      by_cases first : Text.asciiLower other = Text.asciiLower h.name
      · rw [if_pos first, if_pos first, if_neg (first ▸ differs)]
      · rw [if_neg first, if_neg first]

theorem Reads.put {headers : List Header} {map : Variables} (reads : Reads headers map)
    (name value : String) :
    Reads (RequestView.putHeader name value headers) (map.set (Text.asciiLower name) value) := by
  intro other
  rw [find?_putHeader, Variables.get?_set, reads other]

theorem Reads.drop {headers : List Header} {map : Variables} (reads : Reads headers map)
    (name : String) :
    Reads (RequestView.dropHeader name headers) (map.unset (Text.asciiLower name)) := by
  intro other
  rw [find?_dropHeader, Variables.get?_unset, reads other]

/-- Removing headers makes the list shorter if and only if it has some of the name. -/
theorem length_dropHeader_ne (headers : List Header) (name : String) :
    ((RequestView.dropHeader name headers).length != headers.length) =
      (find? headers name).isSome := by
  unfold RequestView.dropHeader find?
  rw [Option.isSome_map, Bool.eq_iff_iff, bne_iff_ne, List.find?_isSome, ne_eq,
    List.length_filter_eq_length_iff]
  simp

end Header

/-! ## Order of the names -/

namespace Header

/-- The names of headers in lower case, in order. -/
def keys (headers : List Header) : List String := headers.map fun h => Text.asciiLower h.name

/-- A header that is set stays in its place, and a new one comes last. -/
theorem keys_putHeader (name value : String) (headers : List Header) :
    keys (RequestView.putHeader name value headers) =
      if Text.asciiLower name ∈ keys headers then keys headers
      else keys headers ++ [Text.asciiLower name] := by
  induction headers with
  | nil => rfl
  | cons h rest ih =>
    rw [RequestView.putHeader]
    by_cases named : h.named name = true
    · have same := named_iff.mp named
      rw [if_pos named, if_pos (by simp [keys, same])]
      simp [keys, same]
    · have differs : Text.asciiLower h.name ≠ Text.asciiLower name := mt named_iff.mpr named
      rw [if_neg named]
      unfold keys at ih ⊢
      rw [List.map_cons, ih, List.map_cons]
      by_cases later : Text.asciiLower name ∈ rest.map fun h => Text.asciiLower h.name
      · rw [if_pos later, if_pos (List.mem_cons_of_mem _ later)]
      · rw [if_neg later, if_neg (by simp [later, differs.symm])]
        rfl

theorem keys_dropHeader (name : String) (headers : List Header) :
    keys (RequestView.dropHeader name headers) =
      (keys headers).filter (· ≠ Text.asciiLower name) := by
  unfold keys RequestView.dropHeader
  rw [List.filter_map]
  congr 1
  refine List.filter_congr fun h _ => ?_
  rw [Bool.eq_iff_iff]
  simp [← named_iff]

end Header

/-! ## Setters -/

namespace RequestView

/-- A call of a setter. -/
inductive Call
  | setUrl (url : String)
  | setHeader (name value : String)
  | removeHeader (name : String)
  | setBody (body : String)
  deriving DecidableEq, Repr

/-- What a setter answers. -/
inductive Answer
  | done
  /-- Whether there was a header to remove. -/
  | removed (any : Bool)
  /-- The view is read-only. -/
  | refused
  deriving DecidableEq, Repr

/-- The view after a call, and what the call answers. -/
def call (v : RequestView) : Call → RequestView × Answer
  | .setUrl url => ((v.setUrl url).map (·, .done)).getD (v, .refused)
  | .setHeader name value => ((v.setHeader name value).map (·, .done)).getD (v, .refused)
  | .removeHeader name =>
    ((v.removeHeader name).map fun (w, any) => (w, .removed any)).getD (v, .refused)
  | .setBody body => ((v.setBody body).map (·, .done)).getD (v, .refused)

/-- The view after calls, one after the other. -/
def calls (v : RequestView) (cs : List Call) : RequestView := cs.foldl (fun v c => (v.call c).1) v

/-- What calls answer, one after the other. -/
def answers (v : RequestView) : List Call → List Answer
  | [] => []
  | c :: rest => (v.call c).2 :: (v.call c).1.answers rest

namespace Call

/-- What a call does to a map of headers. -/
def onMap (map : Variables) : Call → Variables
  | setHeader name value => map.set (Text.asciiLower name) value
  | removeHeader name => map.unset (Text.asciiLower name)
  | _ => map

/-- What a call answers over a map of headers. -/
def answer (map : Variables) : Call → Answer
  | removeHeader name => .removed (map.has (Text.asciiLower name))
  | _ => .done

/-- What calls answer over a map of headers, one after the other. -/
def answers (map : Variables) : List Call → List Answer
  | [] => []
  | c :: rest => c.answer map :: answers (c.onMap map) rest

/-- The address a call sets. -/
def url? : Call → Option String
  | setUrl url => some url
  | _ => none

/-- The body a call sets. -/
def body? : Call → Option String
  | setBody body => some body
  | _ => none

/-- Whether a call removes the headers of a name in lower case. -/
def removes (key : String) : Call → Bool
  | removeHeader name => Text.asciiLower name == key
  | _ => false

/-- What a call does to a request. -/
def edit (r : Request) : Call → Request
  | setUrl url => { r with url }
  | setHeader name value => { r with headers := putHeader name value r.headers }
  | removeHeader name => { r with headers := dropHeader name r.headers }
  | setBody body => { r with body := some body }

end Call

/-- A call of a view that may not be changed is refused. -/
theorem call_of_readOnly {v : RequestView} (readOnly : v.mutable = false) (c : Call) :
    v.call c = (v, .refused) := by
  cases c <;>
    simp [call, setUrl, setHeader, removeHeader, setBody, mutate, readOnly]

theorem fst_call {v : RequestView} (mutable : v.mutable = true) (c : Call) :
    (v.call c).1 = { v with request := c.edit v.request, modified := true } := by
  cases c <;>
    simp [call, setUrl, setHeader, removeHeader, setBody, mutate, mutable, Call.edit]

theorem snd_call {v : RequestView} (mutable : v.mutable = true) {map : Variables}
    (reads : Header.Reads v.request.headers map) (c : Call) : (v.call c).2 = c.answer map := by
  cases c with
  | removeHeader name =>
    have shorter := Header.length_dropHeader_ne v.request.headers name
    rw [reads name] at shorter
    simp [call, removeHeader, mutate, mutable, Call.answer, Variables.has, shorter]
  | setUrl | setHeader | setBody =>
    simp [call, setUrl, setHeader, setBody, mutate, mutable, Call.answer]

theorem Call.reads_edit {r : Request} {map : Variables} (reads : Header.Reads r.headers map)
    (c : Call) : Header.Reads (c.edit r).headers (c.onMap map) := by
  cases c with
  | setHeader name value => exact reads.put name value
  | removeHeader name => exact reads.drop name
  | setUrl | setBody => exact reads

/-! ## Calls one after the other -/

/-- Calls only edit the request of a view and note that it was changed. -/
theorem calls_eq {v : RequestView} (mutable : v.mutable = true) (cs : List Call) :
    v.calls cs = { v with
      request := cs.foldl Call.edit v.request
      modified := v.modified || !cs.isEmpty } := by
  induction cs generalizing v with
  | nil => simp [calls]
  | cons c rest ih =>
    have later := ih (v := (v.call c).1) (by rw [fst_call mutable]; exact mutable)
    rw [fst_call mutable] at later
    rw [calls, List.foldl_cons, fst_call mutable]
    refine later.trans ?_
    simp

theorem answers_eq {v : RequestView} (mutable : v.mutable = true) {map : Variables}
    (reads : Header.Reads v.request.headers map) (cs : List Call) :
    v.answers cs = Call.answers map cs := by
  induction cs generalizing v map with
  | nil => rfl
  | cons c rest ih =>
    rw [answers, Call.answers, snd_call mutable reads, fst_call mutable]
    exact congrArg _ (ih (v := { v with request := c.edit v.request, modified := true }) mutable
      (Call.reads_edit reads c))

/-- A view that may not be changed refuses all calls and stays as it is. -/
theorem calls_of_readOnly {v : RequestView} (readOnly : v.mutable = false) (cs : List Call) :
    v.calls cs = v ∧ v.answers cs = cs.map fun _ => .refused := by
  induction cs with
  | nil => exact ⟨rfl, rfl⟩
  | cons c rest ih =>
    rw [calls, List.foldl_cons, answers, call_of_readOnly readOnly]
    exact ⟨ih.1, congrArg _ ih.2⟩

namespace Call

variable (r : Request) (cs : List Call)

theorem reads_edits {r : Request} {map : Variables} (reads : Header.Reads r.headers map)
    (cs : List Call) :
    Header.Reads (cs.foldl edit r).headers (cs.foldl onMap map) := by
  induction cs generalizing r map with
  | nil => exact reads
  | cons c rest ih => exact ih (reads_edit reads c)

theorem method_edits : (cs.foldl edit r).method = r.method := by
  induction cs generalizing r with
  | nil => rfl
  | cons c rest ih =>
    rw [List.foldl_cons, ih]
    cases c <;> rfl

theorem url_edits : (cs.foldl edit r).url = (cs.filterMap url?).getLast?.getD r.url := by
  induction cs generalizing r with
  | nil => rfl
  | cons c rest ih =>
    rw [List.foldl_cons, ih]
    cases c <;> simp [url?, edit, List.getLast?_cons]

/-- The body after edits is the one set last, or the one from before. -/
theorem body_edits : (cs.foldl edit r).body = (cs.filterMap body?).getLast?.or r.body := by
  induction cs generalizing r with
  | nil => rfl
  | cons c rest ih =>
    rw [List.foldl_cons, ih]
    cases c with
    | setBody body =>
      simp only [edit, body?, List.filterMap_cons, List.getLast?_cons]
      cases (rest.filterMap body?).getLast? <;> rfl
    | setUrl | setHeader | removeHeader => simp [body?, edit]

/-- A call removes names, or adds one that is not there, at the end. -/
theorem keys_edit (c : Call) : ∃ added,
    Header.keys (c.edit r).headers =
      (Header.keys r.headers).filter (fun key => !c.removes key) ++ added ∧
    added.Nodup ∧ ∀ key ∈ added, key ∉ Header.keys r.headers ∧
      ∃ name value, c = setHeader name value ∧ Text.asciiLower name = key := by
  cases c with
  | setHeader name value =>
    have put := Header.keys_putHeader name value r.headers
    by_cases present : Text.asciiLower name ∈ Header.keys r.headers
    · rw [if_pos present] at put
      exact ⟨[], by simp [edit, removes, put, List.filter_true], by simp⟩
    · rw [if_neg present] at put
      exact ⟨[Text.asciiLower name], by simp [edit, removes, put, List.filter_true],
        by simp [present]⟩
  | removeHeader name =>
    have drop := Header.keys_dropHeader name r.headers
    refine ⟨[], ?_, by simp⟩
    rw [edit, drop, List.append_nil]
    refine List.filter_congr fun key _ => ?_
    rw [Bool.eq_iff_iff]
    simp [removes, eq_comm (a := key)]
  | setUrl | setBody => exact ⟨[], by simp [edit, removes, List.filter_true], by simp⟩

/-- Names that differ in more than case still do so after any calls. -/
theorem nodup_edits {r : Request} (distinct : (Header.keys r.headers).Nodup) (cs : List Call) :
    (Header.keys (cs.foldl edit r).headers).Nodup := by
  induction cs generalizing r with
  | nil => exact distinct
  | cons c rest ih =>
    obtain ⟨added, order, once, fresh⟩ := keys_edit r c
    refine ih ?_
    rw [order]
    refine List.nodup_append.mpr ⟨distinct.filter _, once, fun key kept other new same => ?_⟩
    subst same
    exact (fresh key new).1 (List.mem_filter.mp kept).1

/-- The headers that no call removes keep their order, and those that calls add come after them. -/
theorem keys_edits : ∃ added,
    Header.keys (cs.foldl edit r).headers =
      (Header.keys r.headers).filter (fun key => !cs.any (removes key)) ++ added ∧
    ∀ key ∈ added, ∃ name value, setHeader name value ∈ cs ∧ Text.asciiLower name = key := by
  induction cs generalizing r with
  | nil => exact ⟨[], by simp [List.filter_true], by simp⟩
  | cons c rest ih =>
    obtain ⟨first, order, -, fresh⟩ := keys_edit r c
    obtain ⟨later, order', fresh'⟩ := ih (c.edit r)
    -- A name that this call adds is gone when a later call removes it; set once more, it is among
    -- those that the later calls add.
    refine ⟨first.filter (fun key => !rest.any (removes key)) ++ later, ?_, ?_⟩
    · rw [List.foldl_cons, order', order, List.filter_append, List.filter_filter,
        List.append_assoc]
      simp [Bool.and_comm]
    · intro key member
      rcases List.mem_append.mp member with here | there
      · obtain ⟨-, name, value, rfl, same⟩ := fresh key (List.mem_filter.mp here).1
        exact ⟨name, value, List.mem_cons_self, same⟩
      · obtain ⟨name, value, called, same⟩ := fresh' key there
        exact ⟨name, value, List.mem_cons_of_mem _ called, same⟩

end Call

/-! ## Views after calls -/

/-- What calls made of a request, seen through its view `v`, and what they answered: for who looks
headers up, what they make of the map of the first headers and what they answer over it. -/
structure Refines (r : Request) (cs : List Call) (v : RequestView) (answered : List Answer) :
    Prop where
  header : ∀ name, v.header name =
    (cs.foldl Call.onMap (Header.firsts r.headers)).get? (Text.asciiLower name)
  hasHeader : ∀ name, v.hasHeader name =
    (cs.foldl Call.onMap (Header.firsts r.headers)).has (Text.asciiLower name)
  answers : answered = Call.answers (Header.firsts r.headers) cs
  method : v.request.method = r.method
  url : v.request.url = (cs.filterMap Call.url?).getLast?.getD r.url
  body : v.request.body = (cs.filterMap Call.body?).getLast?.or r.body
  modified : v.modified = true ↔ cs ≠ []
  applyTo_self : v.applyTo r = v.request
  applyTo : ∀ target, v.applyTo target =
    if cs = [] then target
    else ⟨target.method, v.request.url, v.request.headers, v.request.body⟩
  distinct : (Header.keys r.headers).Nodup → (Header.keys v.request.headers).Nodup
  order : ∃ added,
    Header.keys v.request.headers =
      (Header.keys r.headers).filter (fun key => !cs.any (Call.removes key)) ++ added ∧
    ∀ key ∈ added, ∃ name value, .setHeader name value ∈ cs ∧ Text.asciiLower name = key

/-- Calls on an editable view come to the same on its request and on the map of its first headers.
-/
theorem refines_edits (r : Request) (cs : List Call) :
    Refines r cs ⟨cs.foldl Call.edit r, true, !cs.isEmpty⟩
      (Call.answers (Header.firsts r.headers) cs) := by
  have reads := Call.reads_edits (Header.reads_firsts r.headers) cs
  have method := Call.method_edits r cs
  have applied (target : Request) :
      applyTo ⟨cs.foldl Call.edit r, true, !cs.isEmpty⟩ target =
        if cs = [] then target
        else ⟨target.method, (cs.foldl Call.edit r).url, (cs.foldl Call.edit r).headers,
          (cs.foldl Call.edit r).body⟩ := by
    cases cs <;> rfl
  refine {
    header := reads
    hasHeader := fun name => congrArg Option.isSome (reads name)
    answers := rfl
    method := method
    url := Call.url_edits r cs
    body := Call.body_edits r cs
    modified := by simp
    applyTo_self := ?_
    applyTo := applied
    distinct := fun distinct => Call.nodup_edits distinct cs
    order := Call.keys_edits r cs }
  rw [applied]
  cases cs with
  | nil => rfl
  | cons c rest => rw [if_neg (List.cons_ne_nil c rest), ← method]

/-- A view that can be changed answers all calls of its setters as the map of its headers does, and
one that is read-only refuses them and stays as it is. -/
theorem calls_refine (r : Request) (cs : List Call) :
    Refines r cs ((editable r).calls cs) ((editable r).answers cs) ∧
      (readOnly r).calls cs = readOnly r ∧
      (readOnly r).answers cs = cs.map fun _ => .refused := by
  refine ⟨?_, calls_of_readOnly rfl cs⟩
  have view : (editable r).calls cs = ⟨cs.foldl Call.edit r, true, !cs.isEmpty⟩ :=
    calls_eq rfl cs
  rw [view, answers_eq (v := editable r) rfl (Header.reads_firsts r.headers) cs]
  exact refines_edits r cs

end RequestView

end CollectionRunner
