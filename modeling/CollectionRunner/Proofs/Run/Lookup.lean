import CollectionRunner.Proofs.Run.Folders
import Mathlib

/-!
# Folders found by their names

A path of names leads along a chain of folders, each directly inside the one before
(`Folder.Chain`).  The search takes the first folder of each name and never turns back, so it finds
the end of the one chain in which every folder stands before its namesakes
(`Folder.descend_eq_some_iff`), and it misses a chain exactly when a folder on its way hides a later
one of the same name into which alone the rest of the path leads (`Folder.descend_eq_none_iff`).
Main statement: `Collection.folder?_finds`.
-/

namespace CollectionRunner

namespace Folder

/-! ## Chains of folders -/

/-- Folders that go down from a folder: the first is directly inside it, each next one directly
inside the one before. -/
def Chain : Folder → List Folder → Prop
  | _, [] => True
  | f, g :: rest => g ∈ f.folders ∧ g.Chain rest

/-- A folder among others comes before all that have its name. -/
def Foremost (g : Folder) (siblings : List Folder) : Prop :=
  ∃ before after, siblings = before ++ g :: after ∧ ∀ h ∈ before, h.name ≠ g.name

/-- A chain of folders that all come before their namesakes. -/
def ForemostChain : Folder → List Folder → Prop
  | _, [] => True
  | f, g :: rest => g.Foremost f.folders ∧ g.ForemostChain rest

/-- Names lead down from a folder along a chain. -/
structure Leads (f : Folder) (names : List String) (chain : List Folder) : Prop where
  nested : f.Chain chain
  named : chain.map Folder.name = names

/-- A folder on the way along some names hides a later one of its name: the names that are left
lead down from the later one only. -/
inductive Hides : Folder → List String → Prop
  | here {f g h : Folder} {rest : List String} {chain : List Folder} :
    g.Foremost f.folders → h ∈ f.folders → h.name = g.name → h.Leads rest chain →
    (∀ other, ¬ g.Leads rest other) → Hides f (g.name :: rest)
  | further {f g : Folder} {rest : List String} :
    g.Foremost f.folders → Hides g rest → Hides f (g.name :: rest)

variable {f g h : Folder} {name : String} {names : List String} {path : List Folder}

theorem Foremost.mem {siblings : List Folder} (foremost : g.Foremost siblings) : g ∈ siblings := by
  obtain ⟨before, after, rfl, -⟩ := foremost
  exact List.mem_append_right _ List.mem_cons_self

theorem find?_name_eq_some_iff {siblings : List Folder} :
    siblings.find? (·.name == name) = some g ↔ g.Foremost siblings ∧ g.name = name := by
  rw [List.find?_eq_some_iff_append, beq_iff_eq]
  constructor
  · rintro ⟨rfl, before, after, split, others⟩
    exact ⟨⟨before, after, split, fun h mem => by simpa using others h mem⟩, rfl⟩
  · rintro ⟨⟨before, after, split, others⟩, rfl⟩
    exact ⟨rfl, before, after, split, fun h mem => by simpa using others h mem⟩

theorem ForemostChain.chain (foremost : f.ForemostChain path) : f.Chain path := by
  induction path generalizing f with
  | nil => trivial
  | cons g rest ih => exact ⟨foremost.1.mem, ih foremost.2⟩

theorem leads_cons_iff :
    f.Leads (name :: names) path ↔
      ∃ g rest, path = g :: rest ∧ g ∈ f.folders ∧ g.name = name ∧ g.Leads names rest := by
  constructor
  · intro leads
    obtain ⟨g, rest, rfl, own, others⟩ := List.map_eq_cons_iff.mp leads.named
    exact ⟨g, rest, rfl, leads.nested.1, own, leads.nested.2, others⟩
  · rintro ⟨g, rest, rfl, inside, rfl, leads⟩
    exact ⟨⟨inside, leads.nested⟩, congrArg (g.name :: ·) leads.named⟩

/-! ## The search -/

/-- One step of the search. -/
theorem descend_cons_eq_some_iff :
    f.descend (name :: names) = some h ↔
      ∃ g : Folder, g.Foremost f.folders ∧ g.name = name ∧ g.descend names = some h := by
  rw [descend]
  cases first : f.folders.find? (·.name == name) with
  | none =>
    constructor
    · intro found
      cases found
    · rintro ⟨g, foremost, named, -⟩
      rw [find?_name_eq_some_iff.mpr ⟨foremost, named⟩] at first
      cases first
  | some next =>
    constructor
    · intro found
      obtain ⟨foremost, named⟩ := find?_name_eq_some_iff.mp first
      exact ⟨next, foremost, named, found⟩
    · rintro ⟨g, foremost, named, found⟩
      rw [find?_name_eq_some_iff.mpr ⟨foremost, named⟩] at first
      cases first
      exact found

/-- The search finds the end of the chain in which each folder comes before its namesakes. -/
theorem descend_eq_some_iff :
    f.descend names = some h ↔
      ∃ chain, f.ForemostChain chain ∧ chain.map Folder.name = names ∧
        (f :: chain).getLast? = some h := by
  induction names generalizing f with
  | nil =>
    constructor
    · rintro ⟨⟩
      exact ⟨[], trivial, rfl, rfl⟩
    · rintro ⟨chain, -, named, last⟩
      rw [List.map_eq_nil_iff.mp named] at last
      exact last
  | cons name rest ih =>
    rw [descend_cons_eq_some_iff]
    constructor
    · rintro ⟨g, foremost, rfl, found⟩
      obtain ⟨chain, below, named, last⟩ := ih.mp found
      exact ⟨g :: chain, ⟨foremost, below⟩, congrArg (g.name :: ·) named, last⟩
    · rintro ⟨chain, foremost, named, last⟩
      obtain ⟨g, below, rfl, own, others⟩ := List.map_eq_cons_iff.mp named
      exact ⟨g, foremost.1, own, ih.mpr ⟨below, foremost.2, others, last⟩⟩

theorem exists_foremost {siblings : List Folder} (inside : h ∈ siblings) :
    ∃ g : Folder, g.Foremost siblings ∧ g.name = h.name := by
  have some : (siblings.find? (·.name == h.name)).isSome := by
    rw [List.find?_isSome]
    exact ⟨h, inside, beq_self_eq_true _⟩
  obtain ⟨g, first⟩ := Option.isSome_iff_exists.mp some
  exact ⟨g, find?_name_eq_some_iff.mp first⟩

theorem Foremost.unique {siblings : List Folder} (first : g.Foremost siblings)
    (second : h.Foremost siblings) (same : g.name = h.name) : g = h := by
  have one := find?_name_eq_some_iff.mpr ⟨first, same⟩
  rw [find?_name_eq_some_iff.mpr ⟨second, rfl⟩] at one
  exact (Option.some.inj one).symm

/-- Where a folder of a name comes first, it is the one that hides another or is gone into. -/
theorem Hides.of_foremost (hides : f.Hides (g.name :: names)) (foremost : g.Foremost f.folders) :
    g.Hides names ∨ ∀ chain, ¬ g.Leads names chain := by
  generalize shown : g.name :: names = way at hides
  cases hides with
  | here first _ _ _ stuck =>
    obtain ⟨named, rfl⟩ := List.cons.inj shown
    rw [foremost.unique first named]
    exact .inr stuck
  | further first hides =>
    obtain ⟨named, rfl⟩ := List.cons.inj shown
    rw [foremost.unique first named]
    exact .inl hides

/-- The search misses a chain exactly when a folder on the way hides another. -/
theorem descend_eq_none_iff (leads : f.Leads names path) :
    f.descend names = none ↔ f.Hides names := by
  induction names generalizing f path with
  | nil =>
    refine ⟨nofun, ?_⟩
    intro hides
    cases hides
  | cons name rest ih =>
    obtain ⟨h, others, rfl, inside, rfl, later⟩ := leads_cons_iff.mp leads
    obtain ⟨g, foremost, same⟩ := exists_foremost inside
    have step : f.descend (h.name :: rest) = g.descend rest := by
      rw [descend, find?_name_eq_some_iff.mpr ⟨foremost, same⟩]
    rw [step, ← same]
    by_cases through : ∃ chain, g.Leads rest chain
    · obtain ⟨chain, through⟩ := through
      rw [ih through]
      constructor
      · exact .further foremost
      · intro hides
        exact (hides.of_foremost foremost).resolve_right fun stuck => stuck chain through
    · have stuck := not_exists.mp through
      refine iff_of_true ?_ (.here foremost inside same.symm later stuck)
      rw [Option.eq_none_iff_forall_not_mem]
      intro last found
      obtain ⟨chain, down, named, -⟩ := descend_eq_some_iff.mp found
      exact stuck chain ⟨down.chain, named⟩

/-! ## Folders with names of their own -/

/-- No two folders side by side have one name, neither in a folder nor anywhere below it. -/
def Distinct (f : Folder) : Prop :=
  ∀ chain g, f.Chain chain → (f :: chain).getLast? = some g → (g.folders.map Folder.name).Nodup

theorem Distinct.nodup_names (distinct : f.Distinct) : (f.folders.map Folder.name).Nodup :=
  distinct [] f trivial rfl

theorem Distinct.inside (distinct : f.Distinct) (inside : g ∈ f.folders) : g.Distinct := by
  intro chain last down ends
  refine distinct (g :: chain) last ⟨inside, down⟩ ?_
  rw [List.getLast?_cons_cons]
  exact ends

theorem Distinct.not_hides (distinct : f.Distinct) : ¬ f.Hides names := by
  intro hides
  induction hides with
  | @here f g h rest chain foremost inside same leads stuck =>
    have one : h = g := List.inj_on_of_nodup_map distinct.nodup_names inside foremost.mem same
    rw [one] at leads
    exact stuck chain leads
  | further foremost _ ih => exact ih (distinct.inside foremost.mem)

end Folder

/-! ## Folders of a collection -/

namespace Collection

theorem folder?_eq (c : Collection) (path : String) :
    c.folder? path = if segments path = [] then none else c.root.descend (segments path) := by
  unfold folder?
  cases segments path with
  | nil => rfl
  | cons first rest => rfl

/-- A folder is found at a path exactly when it is the last of a chain that takes the first folder
of each name. -/
theorem folder?_eq_some_iff {c : Collection} {path : String} {f : Folder} :
    c.folder? path = some f ↔
      ∃ chain, c.root.ForemostChain chain ∧ chain.map Folder.name = segments path ∧
        chain.getLast? = some f := by
  rw [folder?_eq]
  split
  · rename_i nameless
    refine ⟨nofun, ?_⟩
    rintro ⟨chain, -, named, last⟩
    rw [List.map_eq_nil_iff.mp (named.trans nameless)] at last
    cases last
  · rename_i names
    rw [Folder.descend_eq_some_iff]
    refine exists_congr fun chain => and_congr_right fun _ => and_congr_right fun named => ?_
    obtain ⟨first, rest, rfl⟩ : ∃ first rest, chain = first :: rest :=
      List.exists_cons_of_ne_nil fun empty => names (by rw [← named, empty]; rfl)
    rw [List.getLast?_cons_cons]

/-- A path is found exactly when folders lead along it and no folder of the same name stands before
one of them. -/
theorem isSome_folder?_iff {c : Collection} {path : String} :
    (c.folder? path).isSome = true ↔
      segments path ≠ [] ∧ (∃ chain, c.root.Leads (segments path) chain) ∧
        ¬ c.root.Hides (segments path) := by
  constructor
  · intro found
    obtain ⟨f, there⟩ := Option.isSome_iff_exists.mp found
    obtain ⟨names, descends⟩ := descend_of_folder? there
    obtain ⟨chain, foremost, named, -⟩ := folder?_eq_some_iff.mp there
    have leads : c.root.Leads (segments path) chain := ⟨foremost.chain, named⟩
    refine ⟨names, ⟨chain, leads⟩, ?_⟩
    intro hides
    rw [(Folder.descend_eq_none_iff leads).mpr hides] at descends
    cases descends
  · rintro ⟨names, ⟨chain, leads⟩, free⟩
    rw [folder?_eq, if_neg names, Option.isSome_iff_ne_none]
    exact fun missed => free ((Folder.descend_eq_none_iff leads).mp missed)

/-- A folder is found at a path iff the path has names, they lead down along some chain, and no
folder on the way hides a later one of its name.  What is found is the end of the chain of those
folders that come before their namesakes.  When no two folders side by side have one name, a path
with names finds a folder iff they lead somewhere. -/
theorem folder?_finds (c : Collection) (path : String) :
    (∀ f, c.folder? path = some f ↔
      ∃ chain, c.root.ForemostChain chain ∧ chain.map Folder.name = segments path ∧
        chain.getLast? = some f) ∧
    (∀ f, c.folder? path = some f →
      ∃ chain, c.root.Leads (segments path) chain ∧ chain.getLast? = some f) ∧
    ((c.folder? path).isSome = true ↔
      segments path ≠ [] ∧ (∃ chain, c.root.Leads (segments path) chain) ∧
        ¬ c.root.Hides (segments path)) ∧
    (c.root.Distinct →
      ((c.folder? path).isSome = true ↔
        segments path ≠ [] ∧ ∃ chain, c.root.Leads (segments path) chain)) := by
  refine ⟨fun _ => folder?_eq_some_iff, ?_, isSome_folder?_iff, ?_⟩
  · intro f found
    obtain ⟨chain, foremost, named, last⟩ := folder?_eq_some_iff.mp found
    exact ⟨chain, ⟨foremost.chain, named⟩, last⟩
  · intro distinct
    rw [isSome_folder?_iff, and_iff_left distinct.not_hides]

/-- The first folder "a" hides the second one, in which there is a folder "b". -/
theorem folder_of_namesake_missed :
    let inner : Folder := ⟨"b", [], []⟩
    let outer : Folder := ⟨"a", [], [inner]⟩
    let c : Collection := ⟨"shop", none, [], [⟨"a", [], []⟩, outer]⟩
    segments "a/b" = ["a", "b"] ∧ c.root.Leads (segments "a/b") [outer, inner] ∧
      c.folder? "a/b" = none := by
  have names : segments "a/b" = ["a", "b"] := by cbv
  refine ⟨names, ⟨?_, names.symm⟩, by cbv⟩
  exact ⟨List.mem_cons_of_mem _ List.mem_cons_self, List.mem_cons_self, trivial⟩

end Collection

end CollectionRunner
