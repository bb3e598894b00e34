import CollectionRunner.Proofs.Run.Accounting

/-!
# Folders as slices of a collection

Requests that are saved alike are told apart by their `Folder.Place` in the tree of folders.
`Folder.places` are the places in the order in which `Folder.flatten` lists the requests there:
every place comes once and after all that are declared before it (`Folder.lists_flatten`).  The
places of a folder that a path leads to follow each other among those of the folder where the path
starts (`Folder.places_of_sub?`), and a path of names leads along some path of indices
(`Folder.exists_sub?_of_descend`).  Main statement: `Collection.folder_slices`.
-/

namespace CollectionRunner

namespace Folder

/-- Where a request stands in a folder: the index of the subfolder to go into at each level, and the
index of the request there. -/
structure Place where
  folders : List Nat
  request : Nat

namespace Place

/-- A place in the subfolder at an index, seen from the folder around it. -/
def under (k : Nat) (p : Place) : Place := ⟨k :: p.folders, p.request⟩

/-- A place in the folder that a path leads to, seen from where the path starts. -/
def along (path : List Nat) (p : Place) : Place := ⟨path ++ p.folders, p.request⟩

/-- The order in which places are declared: the requests of a folder one after the other, then its
subfolders one after the other. -/
inductive Before : Place → Place → Prop
  | own {i j : Nat} : i < j → Before ⟨[], i⟩ ⟨[], j⟩
  | ownFirst (i k : Nat) (p : Place) : Before ⟨[], i⟩ (p.under k)
  | siblings {k l : Nat} (p q : Place) : k < l → Before (p.under k) (q.under l)
  | inside {p q : Place} (k : Nat) : Before p q → Before (p.under k) (q.under k)

theorem under_inj {k l : Nat} {p q : Place} (same : p.under k = q.under l) : k = l ∧ p = q := by
  cases p
  cases q
  cases same
  exact ⟨rfl, rfl⟩

/-- No place is before itself, so places in order are distinct. -/
theorem Before.ne {p q : Place} (before : p.Before q) : p ≠ q := by
  induction before with
  | own less =>
    intro same
    cases same
    exact Nat.lt_irrefl _ less
  | ownFirst =>
    intro same
    cases same
  | siblings p q less =>
    intro same
    obtain ⟨rfl, -⟩ := under_inj same
    exact Nat.lt_irrefl _ less
  | inside k _ ih =>
    intro same
    exact ih (under_inj same).2

end Place

/-! ## Places in a folder -/

/-- The folder that a path of indices leads to. -/
def sub? (f : Folder) : List Nat → Option Folder
  | [] => some f
  | k :: path => f.folders[k]?.bind fun g => g.sub? path

/-- The request at a place. -/
def request? (f : Folder) (p : Place) : Option RequestItem :=
  (f.sub? p.folders).bind fun g => g.requests[p.request]?

mutual

/-- The places of a folder: those of its own requests, then those in each subfolder. -/
def places : Folder → List Place
  | ⟨_, requests, folders⟩ =>
    (List.range requests.length).map (Place.mk []) ++ placesFrom 0 folders

/-- The places in subfolders, the first of which has an index. -/
def placesFrom (k : Nat) : List Folder → List Place
  | [] => []
  | f :: rest => (places f).map (Place.under k) ++ placesFrom (k + 1) rest

end

theorem request?_under {f g : Folder} {k : Nat} (found : f.folders[k]? = some g) (p : Place) :
    f.request? (p.under k) = g.request? p := by
  unfold request?
  rw [Place.under, sub?, found]
  rfl

/-- A place told along a path of folders leads to what it leads to from the last of them. -/
theorem request?_along {f g : Folder} {path : List Nat} (found : f.sub? path = some g)
    (p : Place) : f.request? (p.along path) = g.request? p := by
  induction path generalizing f with
  | nil =>
    cases found
    rfl
  | cons k path ih =>
    rw [sub?, Option.bind_eq_some_iff] at found
    obtain ⟨next, there, found⟩ := found
    exact (request?_under there (p.along path)).trans (ih found)

/-- The places of folders are those of one of them, seen from the folder around them. -/
theorem mem_placesFrom {k : Nat} {folders : List Folder} {p : Place} :
    p ∈ placesFrom k folders ↔
      ∃ (i : Nat) (f : Folder) (q : Place),
        folders[i]? = some f ∧ q ∈ f.places ∧ p = q.under (k + i) := by
  induction folders generalizing k with
  | nil => simp [placesFrom]
  | cons f rest ih =>
    rw [placesFrom, List.mem_append, List.mem_map, ih]
    constructor
    · intro listed
      rcases listed with ⟨q, member, rfl⟩ | ⟨i, g, q, there, member, rfl⟩
      · exact ⟨0, f, q, rfl, member, rfl⟩
      · exact ⟨i + 1, g, q, there, member, by rw [Nat.add_assoc, Nat.add_comm 1 i]⟩
    · intro listed
      obtain ⟨i, g, q, there, member, rfl⟩ := listed
      cases i with
      | zero =>
        cases there
        exact .inl ⟨q, member, rfl⟩
      | succ i => exact .inr ⟨i, g, q, there, member, by rw [Nat.add_assoc, Nat.add_comm 1 i]⟩

/-- A folder's own places are the numbers of its own requests. -/
theorem mem_places_own {f : Folder} {i : Nat} :
    ⟨[], i⟩ ∈ f.places ↔ i < f.requests.length := by
  obtain ⟨name, requests, folders⟩ := f
  have others : (⟨[], i⟩ : Place) ∉ placesFrom 0 folders := by
    rw [mem_placesFrom]
    intro inner
    obtain ⟨k, g, q, -, -, same⟩ := inner
    cases same
  rw [places, List.mem_append, or_iff_left others]
  simp

/-- The places in a subfolder are its own, seen from the folder around it. -/
theorem mem_places_under {f : Folder} {k : Nat} {p : Place} :
    p.under k ∈ f.places ↔ ∃ g, f.folders[k]? = some g ∧ p ∈ g.places := by
  obtain ⟨name, requests, folders⟩ := f
  have own : p.under k ∉ (List.range requests.length).map (Place.mk []) := by
    intro member
    obtain ⟨i, -, same⟩ := List.mem_map.mp member
    cases same
  rw [places, List.mem_append, or_iff_right own, mem_placesFrom]
  constructor
  · intro listed
    obtain ⟨i, g, q, there, member, same⟩ := listed
    obtain ⟨rfl, rfl⟩ := Place.under_inj same
    rw [Nat.zero_add]
    exact ⟨g, there, member⟩
  · intro inner
    obtain ⟨g, there, member⟩ := inner
    exact ⟨k, g, p, there, member, by rw [Nat.zero_add]⟩

/-- The places of a folder are those where it has a request. -/
theorem mem_places {f : Folder} {p : Place} : p ∈ f.places ↔ (f.request? p).isSome = true := by
  obtain ⟨path, i⟩ := p
  induction path generalizing f with
  | nil => rw [mem_places_own, request?, sub?, Option.bind_some, isSome_getElem?]
  | cons k path ih =>
    rw [show (⟨k :: path, i⟩ : Place) = .under k ⟨path, i⟩ from rfl, mem_places_under]
    cases there : f.folders[k]? with
    | none => simp [request?, Place.under, sub?, there]
    | some g =>
      rw [request?_under there, ← ih]
      simp

mutual

theorem pairwise_places : ∀ f : Folder, f.places.Pairwise Place.Before
  | ⟨_, requests, folders⟩ => by
    rw [places, List.pairwise_append, List.pairwise_map]
    refine ⟨List.pairwise_lt_range.imp .own, pairwise_placesFrom 0 folders, ?_⟩
    intro p own q inner
    obtain ⟨i, -, rfl⟩ := List.mem_map.mp own
    obtain ⟨k, g, q, -, -, rfl⟩ := mem_placesFrom.mp inner
    exact .ownFirst i (0 + k) q

/-- The places of folders in a row stand in the order of their requests. -/
theorem pairwise_placesFrom : ∀ (k : Nat) (folders : List Folder),
    (placesFrom k folders).Pairwise Place.Before
  | _, [] => .nil
  | k, f :: rest => by
    rw [placesFrom, List.pairwise_append, List.pairwise_map]
    refine ⟨(pairwise_places f).imp (.inside k), pairwise_placesFrom (k + 1) rest, ?_⟩
    intro p first q later
    obtain ⟨p, -, rfl⟩ := List.mem_map.mp first
    obtain ⟨i, g, q, -, -, rfl⟩ := mem_placesFrom.mp later
    exact .siblings p q (by omega)

end

mutual

theorem requests_places : ∀ f : Folder, f.places.map f.request? = f.flatten.map some
  | ⟨name, requests, folders⟩ => by
    rw [places, flatten, List.map_append, List.map_append,
      requests_placesFrom 0 folders ⟨name, requests, folders⟩ rfl, List.map_map]
    congr 1
    refine List.ext_getElem (by simp) fun i _ there => ?_
    rw [List.length_map] at there
    simp [request?, sub?, there]

-- The folder around the subfolders stays, as it is there that their places are looked up.
/-- At the places of folders are their requests, in the order in which they are listed. -/
theorem requests_placesFrom : ∀ (k : Nat) (folders : List Folder) (f : Folder),
    f.folders.drop k = folders → (placesFrom k folders).map f.request? = (flattenAll folders).map some
  | _, [], _, _ => rfl
  | k, g :: rest, f, left => by
    have there : f.folders[k]? = some g := by
      rw [← List.head?_drop, left]
      rfl
    have others : f.folders.drop (k + 1) = rest := by
      rw [← List.tail_drop, left]
      rfl
    rw [placesFrom, flattenAll, List.map_append, List.map_append, List.map_map,
      requests_placesFrom (k + 1) rest f others, ← requests_places g]
    congr 1
    exact List.map_congr_left fun p _ => request?_under there p

end

/-- Some places are where a folder has some requests: each place where it has one comes once, and
after those that are declared before it. -/
structure Lists (f : Folder) (places : List Place) (items : List RequestItem) : Prop where
  requests : places.map f.request? = items.map some
  every : ∀ p, p ∈ places ↔ (f.request? p).isSome = true
  once : places.Nodup
  ordered : places.Pairwise Place.Before

theorem lists_flatten (f : Folder) : f.Lists f.places f.flatten where
  requests := requests_places f
  every _ := mem_places
  once := (pairwise_places f).imp Place.Before.ne
  ordered := pairwise_places f

/-! ## Places along a path -/

/-- The places in one of the folders follow one another. -/
theorem exists_placesFrom {folders : List Folder} {i : Nat} {g : Folder}
    (there : folders[i]? = some g) (k : Nat) :
    ∃ front back,
      placesFrom k folders = front ++ g.places.map (Place.under (k + i)) ++ back := by
  induction folders generalizing i k with
  | nil => cases there
  | cons f rest ih =>
    cases i with
    | zero =>
      cases there
      exact ⟨[], placesFrom (k + 1) rest, rfl⟩
    | succ i =>
      obtain ⟨front, back, split⟩ := ih there (k + 1)
      refine ⟨f.places.map (Place.under k) ++ front, back, ?_⟩
      rw [placesFrom, split, Nat.add_assoc, Nat.add_comm 1 i]
      simp only [List.append_assoc]

theorem exists_places_of_getElem? {f g : Folder} {k : Nat} (there : f.folders[k]? = some g) :
    ∃ front back, f.places = front ++ g.places.map (Place.under k) ++ back := by
  obtain ⟨name, requests, folders⟩ := f
  obtain ⟨front, back, split⟩ := exists_placesFrom there 0
  refine ⟨(List.range requests.length).map (Place.mk []) ++ front, back, ?_⟩
  rw [places, split, Nat.zero_add]
  simp only [List.append_assoc]

/-- The places of a folder that a path leads to follow each other. -/
theorem places_of_sub? {f g : Folder} {path : List Nat} (found : f.sub? path = some g) :
    ∃ front back, f.places = front ++ g.places.map (Place.along path) ++ back := by
  induction path generalizing f with
  | nil =>
    cases found
    refine ⟨[], [], ?_⟩
    rw [List.append_nil, List.nil_append]
    exact (List.map_id _).symm
  | cons k path ih =>
    rw [sub?, Option.bind_eq_some_iff] at found
    obtain ⟨next, there, found⟩ := found
    obtain ⟨front, back, inner⟩ := ih found
    obtain ⟨before, after, outer⟩ := exists_places_of_getElem? there
    refine ⟨before ++ front.map (Place.under k), back.map (Place.under k) ++ after, ?_⟩
    rw [outer, inner, List.map_append, List.map_append, List.map_map]
    simp only [List.append_assoc]
    rfl

/-- So its requests are a slice, which starts after as many requests as there are places before. -/
theorem flatten_of_places {f g : Folder} {path : List Nat} (found : f.sub? path = some g)
    {front back : List Place}
    (split : f.places = front ++ g.places.map (Place.along path) ++ back) :
    ∃ before after, f.flatten = before ++ g.flatten ++ after ∧ before.length = front.length := by
  have inner : g.places.map (f.request? ∘ Place.along path) = g.flatten.map some := by
    rw [← requests_places g]
    exact List.map_congr_left fun p _ => request?_along found p
  have listed := requests_places f
  rw [split, List.map_append, List.map_append, List.map_map, inner] at listed
  obtain ⟨most, after, all, front_eq, -⟩ := List.map_eq_append_iff.mp listed.symm
  obtain ⟨before, middle, most_eq, before_eq, middle_eq⟩ := List.map_eq_append_iff.mp front_eq
  have same : middle = g.flatten := (List.map_inj_right fun _ _ => Option.some.inj).mp middle_eq
  refine ⟨before, after, ?_, ?_⟩
  · rw [all, most_eq, same]
  · rw [← List.length_map some, before_eq, List.length_map]

/-- A path of names leads where some path of as many indices leads. -/
theorem exists_sub?_of_descend {f g : Folder} {names : List String}
    (found : f.descend names = some g) :
    ∃ path, path.length = names.length ∧ f.sub? path = some g := by
  induction names generalizing f with
  | nil => exact ⟨[], rfl, found⟩
  | cons name rest ih =>
    rw [descend] at found
    split at found
    · rename_i next first
      obtain ⟨k, there⟩ := List.getElem?_of_mem (List.mem_of_find?_eq_some first)
      obtain ⟨path, length, leads⟩ := ih found
      refine ⟨k :: path, by rw [List.length_cons, length, List.length_cons], ?_⟩
      rw [sub?, there]
      exact leads
    · cases found

end Folder

/-! ## Runs of a folder -/

/-- A collection as the folder around its folders. -/
def Collection.root (c : Collection) : Folder := ⟨c.name, c.requests, c.folders⟩

theorem Collection.flatten_eq (c : Collection) : c.flatten = c.root.flatten := rfl

theorem Collection.descend_of_folder? {c : Collection} {path : String} {f : Folder}
    (found : c.folder? path = some f) :
    segments path ≠ [] ∧ c.root.descend (segments path) = some f := by
  unfold folder? at found
  split at found
  · cases found
  · rename_i first rest names
    rw [names]
    exact ⟨List.cons_ne_nil _ _, found⟩

/-- What a result says of its request, which the run does not change. -/
def RequestResult.about (result : RequestResult) : String × String × String :=
  (result.info.id, result.info.name, result.info.method)

/-- What the results of a request say of it. -/
def RequestItem.about (item : RequestItem) : String × String × String :=
  (item.id, item.name, Text.asciiUpper item.method)

/-- The results of a run are about its requests, one for each, in their order. -/
theorem Account.about {r : Runner} {config : RunConfig} {items : List RequestItem} {p : Progress}
    {cut : Nat} (account : Account r config items p cut) :
    p.session.results.map RequestResult.about = items.map RequestItem.about := by
  refine List.ext_getElem (by simp [account.length]) fun i inResults inItems => ?_
  rw [List.length_map] at inResults inItems
  obtain ⟨result, there, describes⟩ :=
    account.described i items[i] (List.getElem?_eq_getElem inItems)
  rw [List.getElem?_eq_getElem inResults, Option.some_inj] at there
  rw [List.getElem_map, List.getElem_map, there, RequestResult.about, describes.id, describes.name,
    describes.method]
  rfl

/-- A run with valid settings has one result for each of its requests, in their order. -/
theorem Runner.exists_run_about (r : Runner) {collection : Collection} {folder : Option String}
    {config : RunConfig} {items : List RequestItem} (valid : config.validate = .ok ())
    (found : Runner.requests collection folder = .ok items) (environment : Option Environment)
    (shared : Shared) :
    ∃ p, r.run collection folder environment config shared = .ok p ∧
      p.session.results.map RequestResult.about = items.map RequestItem.about := by
  obtain ⟨taken, left, status, halts, ran⟩ := r.run_eq_halted valid found environment shared
  have account :=
    halts.account (.opening r collection folder environment config shared items) rfl
  exact ⟨_, ran, account.about⟩

/-- The folder at a path is a slice of its collection: its places follow each other among all
places, its requests among all requests from the same index on, and the results of its run are about
the requests that a stretch of the results of a run of everything is about. -/
structure Collection.Slice (c : Collection) (path : String) (f : Folder) : Prop where
  places : ∃ way front back, way ≠ [] ∧ c.root.sub? way = some f ∧
    c.root.places = front ++ f.places.map (Folder.Place.along way) ++ back ∧
    ∃ before after, c.flatten = before ++ f.flatten ++ after ∧ before.length = front.length
  runs : ∀ (r : Runner) (environment : Option Environment) (config : RunConfig) (shared : Shared),
    config.validate = .ok () → ∃ whole part before after,
      r.run c none environment config shared = .ok whole ∧
      r.run c (some path) environment config shared = .ok part ∧
      whole.session.results.map RequestResult.about =
        before ++ part.session.results.map RequestResult.about ++ after

/-- The folder at a path has its own part of the list of requests, and its run is about that part.
-/
theorem Collection.slice_of_folder? {c : Collection} {path : String} {f : Folder}
    (found : c.folder? path = some f) : c.Slice path f where
  places := by
    obtain ⟨named, descends⟩ := descend_of_folder? found
    obtain ⟨way, length, leads⟩ := Folder.exists_sub?_of_descend descends
    obtain ⟨front, back, split⟩ := Folder.places_of_sub? leads
    have inner : way ≠ [] := by
      intro empty
      rw [empty] at length
      exact named (List.length_eq_zero_iff.mp length.symm)
    exact ⟨way, front, back, inner, leads, split, Folder.flatten_of_places leads split⟩
  runs := by
    intro r environment config shared valid
    obtain ⟨-, descends⟩ := descend_of_folder? found
    obtain ⟨way, -, leads⟩ := Folder.exists_sub?_of_descend descends
    obtain ⟨front, back, split⟩ := Folder.places_of_sub? leads
    obtain ⟨before, after, flat, -⟩ := Folder.flatten_of_places leads split
    have all : Runner.requests c none = .ok c.flatten := rfl
    have inside : Runner.requests c (some path) = .ok f.flatten := by
      simp only [Runner.requests, found]
    obtain ⟨whole, ranWhole, aboutWhole⟩ := r.exists_run_about valid all environment shared
    obtain ⟨part, ranPart, aboutPart⟩ := r.exists_run_about valid inside environment shared
    refine ⟨whole, part, before.map RequestItem.about, after.map RequestItem.about, ranWhole,
      ranPart, ?_⟩
    rw [aboutWhole, aboutPart, c.flatten_eq, flat, List.map_append, List.map_append]

/-- The requests of a collection are those at its places, each place once and in declared order, and
so are those of every folder that is found, which is a slice of the collection. -/
theorem Collection.folder_slices (c : Collection) :
    c.root.Lists c.root.places c.flatten ∧
    ∀ (path : String) (f : Folder), c.folder? path = some f →
      f.Lists f.places f.flatten ∧ c.Slice path f :=
  ⟨c.root.lists_flatten, fun _ f found => ⟨f.lists_flatten, slice_of_folder? found⟩⟩

end CollectionRunner
