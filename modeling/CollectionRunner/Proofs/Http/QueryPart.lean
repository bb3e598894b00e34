import CollectionRunner.Proofs.Http.HeaderMap
import Mathlib.Data.List.TakeWhile

/-!
# Queries of addresses

An address has at most one query: what stands between a question mark and the fragment, if that
question mark comes before any fragment (`Query.Part`).  Views read their parameters off the first
question mark wherever it is, so they agree with the address when it has a query or no question
mark at all.  Main statement: `RequestView.calls_query`; an address whose question mark is inside
its fragment is read as if it had a query (`RequestView.query_of_fragment`).
-/

namespace CollectionRunner

namespace Query

/-! ## Splitting -/

section Splitting

variable {α : Type} [BEq α] [LawfulBEq α] {sep : α}

theorem splitFirst_of_not_mem {l : List α} (absent : sep ∉ l) : splitFirst sep l = (l, none) := by
  have differs : ∀ a ∈ l, (a != sep) = true :=
    fun a mem => bne_iff_ne.mpr (ne_of_mem_of_not_mem mem absent)
  rw [splitFirst, List.dropWhile_eq_nil_iff.mpr differs]

theorem splitFirst_append {before after : List α} (absent : sep ∉ before) :
    splitFirst sep (before ++ sep :: after) = (before, some after) := by
  have differs : ∀ a ∈ before, (a != sep) = true :=
    fun a mem => bne_iff_ne.mpr (ne_of_mem_of_not_mem mem absent)
  have stops : ¬ (sep != sep) = true := by simp
  rw [splitFirst, List.dropWhile_append_of_pos differs, List.dropWhile_cons, if_neg stops,
    List.takeWhile_append_of_pos differs, List.takeWhile_cons, if_neg stops, List.append_nil]

end Splitting

/-! ## The parts of an address -/

/-- What comes after a query: nothing, or a fragment. -/
inductive Tail : List Char → Prop
  | nothing : Tail []
  | fragment (cs : List Char) : Tail ('#' :: cs)

/-- The query of an address, if it has one. -/
inductive Part : List Char → Option (List Char) → Prop
  | absent {head tail : List Char} (question : '?' ∉ head) (number : '#' ∉ head)
      (ends : Tail tail) : Part (head ++ tail) none
  | present {head query tail : List Char} (question : '?' ∉ head) (number : '#' ∉ head)
      (inside : '#' ∉ query) (ends : Tail tail) : Part (head ++ '?' :: (query ++ tail)) (some query)

theorem splitFirst_tail {front tail : List Char} (absent : '#' ∉ front) (ends : Tail tail) :
    (splitFirst '#' (front ++ tail)).1 = front := by
  cases ends with
  | nothing => rw [List.append_nil, splitFirst_of_not_mem absent]
  | fragment cs => rw [splitFirst_append absent]

theorem exists_tail (url : List Char) :
    ∃ front tail, url = front ++ tail ∧ '#' ∉ front ∧ Tail tail := by
  by_cases mem : '#' ∈ url
  · obtain ⟨front, rest, rfl, absent⟩ := List.eq_append_cons_of_mem mem
    exact ⟨front, _, rfl, absent, .fragment rest⟩
  · exact ⟨url, [], (List.append_nil url).symm, mem, .nothing⟩

theorem exists_part (url : List Char) : ∃ part, Part url part := by
  obtain ⟨front, tail, rfl, absent, ends⟩ := exists_tail url
  by_cases mem : '?' ∈ front
  · obtain ⟨head, query, rfl, question⟩ := List.eq_append_cons_of_mem mem
    rw [List.mem_append, List.mem_cons, not_or, not_or] at absent
    obtain ⟨number, -, inside⟩ := absent
    rw [List.append_assoc, List.cons_append]
    exact ⟨some query, .present question number inside ends⟩
  · exact ⟨none, .absent mem absent ends⟩

/-- The query is found by cutting the fragment off first. -/
theorem Part.eq {url : List Char} {part : Option (List Char)} (parted : Part url part) :
    part = (splitFirst '?' (splitFirst '#' url).1).2 := by
  cases parted with
  | absent question number ends => rw [splitFirst_tail number ends, splitFirst_of_not_mem question]
  | @present head query tail question number inside ends =>
    have front : '#' ∉ head ++ '?' :: query := by
      rw [List.mem_append, List.mem_cons, not_or, not_or]
      exact ⟨number, by decide, inside⟩
    have regroup : head ++ '?' :: (query ++ tail) = (head ++ '?' :: query) ++ tail :=
      (List.append_assoc head ('?' :: query) tail).symm
    rw [regroup, splitFirst_tail front ends, splitFirst_append question]

theorem existsUnique_part (url : List Char) : ∃! part, Part url part := by
  obtain ⟨part, parted⟩ := exists_part url
  exact ⟨part, parted, fun other parted' => parted'.eq.trans parted.eq.symm⟩

/-! ## What is read -/

theorem ofUrl_of_not_mem {url : String} (absent : '?' ∉ url.toList) : ofUrl url = [] := by
  rw [ofUrl, splitFirst_of_not_mem absent]

/-- Whatever comes before the first question mark. -/
theorem ofUrl_of_split {url : String} {head query tail : List Char}
    (split : url.toList = head ++ '?' :: (query ++ tail)) (question : '?' ∉ head)
    (inside : '#' ∉ query) (ends : Tail tail) : ofUrl url = pairs (String.ofList query) := by
  rw [ofUrl, split, splitFirst_append question]
  exact congrArg (fun cs => pairs (String.ofList cs)) (splitFirst_tail inside ends)

theorem ofUrl_of_part {url : String} {query : List Char} (parted : Part url.toList (some query)) :
    ofUrl url = pairs (String.ofList query) := by
  generalize shape : url.toList = cs at parted
  cases parted with
  | present question _ inside ends => exact ofUrl_of_split shape question inside ends

theorem pairs_of_lone : pairs "a=1" = [("a", "1")] := by
  have parts : (splitAll 0x26 (Text.bytes "a=1")).filter (! ·.isEmpty) = [[0x61, 0x3d, 0x31]] := by
    decide +kernel
  rw [pairs, parts]
  simp [splitFirst, decode, unescape, Text.lossy, Text.lossyFrom, Text.lossyFrom.start]

end Query

/-! ## Views -/

namespace RequestView

/-- What a view answers about the query of an address. -/
structure Queries (url : String) (v : RequestView) : Prop where
  parted : ∃! part, Query.Part url.toList part
  present : ∀ {query}, Query.Part url.toList (some query) →
    v.query = Query.pairs (String.ofList query)
  absent : '?' ∉ url.toList → v.query = []
  /-- Without a query, the first question mark is inside the fragment. -/
  fragment : ∀ {head query tail}, Query.Part url.toList none →
    url.toList = head ++ '?' :: (query ++ tail) → '?' ∉ head → '#' ∉ query → Query.Tail tail →
      v.query = Query.pairs (String.ofList query)
  found : ∀ name value, v.param name = some value ↔
    ∃ before after, v.query = before ++ (name, value) :: after ∧ ∀ pair ∈ before, pair.1 ≠ name
  missing : ∀ name, v.param name = none ↔ ∀ pair ∈ v.query, pair.1 ≠ name

/-- What a view answers about its query is read off its address at that moment. -/
theorem queries (v : RequestView) : v.Queries v.request.url where
  parted := Query.existsUnique_part _
  present := Query.ofUrl_of_part
  absent := Query.ofUrl_of_not_mem
  fragment _ := Query.ofUrl_of_split
  found := by
    intro name value
    simp only [param, List.lookup_eq_some_iff, bne_iff_ne, ne_comm (a := name)]
  missing := by
    intro name
    simp only [param, List.lookup_eq_none_iff, bne_iff_ne, ne_comm (a := name)]

/-- Views answer about the query of the address that was set last, or of the first one. -/
theorem calls_query (r : Request) (cs : List Call) :
    ((editable r).calls cs).Queries ((cs.filterMap Call.url?).getLast?.getD r.url) ∧
      ((readOnly r).calls cs).Queries r.url := by
  have set : ((editable r).calls cs).request.url =
      (cs.filterMap Call.url?).getLast?.getD r.url := by
    rw [calls_eq rfl]
    exact Call.url_edits r cs
  have kept : (readOnly r).calls cs = readOnly r := (calls_of_readOnly rfl cs).1
  refine ⟨?_, ?_⟩
  · rw [← set]
    exact queries _
  · rw [kept]
    exact queries (readOnly r)

/-- An address without a query is read as if it had one. -/
theorem query_of_fragment :
    let v := editable ⟨"GET", "https://h/p#frag?a=1", [], none⟩
    Query.Part v.request.url.toList none ∧ v.query = [("a", "1")] ∧ v.param "a" = some "1" := by
  have question : '?' ∉ "https://h/p".toList := by decide
  have number : '#' ∉ "https://h/p".toList := by decide
  have split : "https://h/p#frag?a=1".toList =
      "https://h/p#frag".toList ++ '?' :: ("a=1".toList ++ []) := by decide
  have read := Query.ofUrl_of_split split (by decide) (by decide) .nothing
  rw [String.ofList_toList, Query.pairs_of_lone] at read
  exact ⟨.absent question number (.fragment "frag?a=1".toList), read,
    congrArg (List.lookup "a") read⟩

end RequestView

end CollectionRunner
