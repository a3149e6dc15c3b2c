import SchemaIntake.Files.Expansion
import SchemaIntake.Proofs.Text.Cutting

/-!
# Paths in trees

A path is put together from a directory and the name of an entry in two ways, and the path of the
current directory is left out.  Here it is shown that the path of an entry leads to that entry, and
that it is absolute exactly if that of the directory is.

## Main definitions

* `Path.names path` — the components of a path that are not empty and not a single dot.
* `Node.Leads top current path here` — a path leads to a node; `here` is that node with the
  directories around it, from the inside to the outside.

## Main results

* `Path.exists_components_append` — the components of a path of an entry.
* `Node.Leads.pathIn` — **the path of an entry leads to the entry**.
* `Node.Leads.exists_start` — a path leads from the root or from the current directory on.
-/

namespace SchemaIntake

open Text

namespace Path

/-! ### Components -/

theorem components_append_slash (a b : Text) :
    components (a ++ '/' :: b) = components a ++ components b :=
  cutWhere_append_of_cut rfl b

theorem components_of_not_mem {t : Text} (h : '/' ∉ t) : components t = [t] := by
  induction t with
  | nil => rfl
  | cons c t ih =>
    have hc : c ≠ '/' := fun hc => h (hc ▸ List.mem_cons_self)
    exact cutWhere_cons_of_keep (by simpa using hc) (ih fun ht => h (List.mem_cons_of_mem c ht))

theorem isAbsolute_of_not_mem {t : Text} (h : '/' ∉ t) : isAbsolute t = false := by
  rw [isAbsolute, decide_eq_false_iff_not]
  intro hhead
  exact h (List.mem_of_mem_head? hhead)

/-- The components of a path have no slash. -/
theorem not_mem_of_mem_components {t piece : Text} (h : piece ∈ components t) : '/' ∉ piece := by
  induction t generalizing piece with
  | nil =>
    obtain rfl : piece = [] := by simpa [components, cutWhere] using h
    exact List.not_mem_nil
  | cons c t ih =>
    -- a slash is cut at, and any other character joins the first piece
    by_cases hc : c = '/'
    · subst hc
      rcases List.mem_cons.mp h with rfl | h
      · exact List.not_mem_nil
      · exact ih h
    · obtain ⟨first, rest, ht⟩ : ∃ first rest, components t = first :: rest :=
        exists_cutWhere_eq_cons _ _ _ t
      have hct : components (c :: t) = (c :: first) :: rest :=
        cutWhere_cons_of_keep (by simpa using hc) ht
      rw [ht] at ih
      rw [hct] at h
      rcases List.mem_cons.mp h with rfl | h
      · simpa [Ne.symm hc] using ih List.mem_cons_self
      · exact ih (List.mem_cons_of_mem first h)

/-- The path of an entry ends with its name.  Before it stand the components of the directory; one
that is empty since the path ends with a slash is left out. -/
theorem exists_components_append (path : Text) {name : Text} (h : '/' ∉ name) :
    ∃ init, components (append path name) = init ++ [name] ∧
      (components path = init ∨ components path = init ++ [[]]) := by
  rw [append]
  split
  · next hlast =>
    obtain ⟨r, rfl⟩ := List.getLast?_eq_some_iff.mp hlast
    refine ⟨components r, ?_, Or.inr ?_⟩
    · rw [List.append_assoc, List.singleton_append, components_append_slash,
        components_of_not_mem h]
    · exact components_append_slash r []
  · exact ⟨components path, by rw [components_append_slash, components_of_not_mem h], Or.inl rfl⟩

theorem isAbsolute_append {path : Text} (h : path ≠ []) (name : Text) :
    isAbsolute (append path name) = isAbsolute path := by
  obtain ⟨c, rest, rfl⟩ := List.exists_cons_of_ne_nil h
  rw [append]
  split <;> rfl

/-- The path of the current directory is not absolute. -/
theorem isAbsolute_of_isHere {path : Text} (h : isHere path = true) : isAbsolute path = false := by
  rw [isHere, Bool.and_eq_true, decide_eq_true_eq] at h
  rw [isAbsolute, h.1]
  rfl

theorem isAbsolute_pathIn {path name : Text} (hne : path ≠ []) (hslash : '/' ∉ name) :
    isAbsolute (Disk.pathIn path name) = isAbsolute path := by
  rw [Disk.pathIn]
  split
  · next hhere => rw [isAbsolute_of_isHere hhere, isAbsolute_of_not_mem hslash]
  · exact isAbsolute_append hne name

/-- An absolute path starts with the slash of the root. -/
theorem eq_cons_afterRoot {path : Text} (h : isAbsolute path = true) :
    path = '/' :: afterRoot path := by
  rw [isAbsolute, decide_eq_true_eq] at h
  obtain ⟨rest, rfl⟩ := List.head?_eq_some_iff.mp h
  rfl

theorem afterRoot_of_not_isAbsolute {path : Text} (h : isAbsolute path = false) :
    afterRoot path = path := by
  rw [afterRoot, h, if_neg Bool.false_ne_true]

/-- The components of an absolute path start with an empty one. -/
theorem components_of_isAbsolute {path : Text} (h : isAbsolute path = true) :
    components path = [] :: components (afterRoot path) := by
  have hslash : components ('/' :: afterRoot path) = [] :: components (afterRoot path) :=
    components_append_slash [] (afterRoot path)
  rwa [← eq_cons_afterRoot h] at hslash

/-- The components of a path that are not empty and not a single dot. -/
def names (path : Text) : List Text := (components path).filter fun c => !(c.isEmpty || c = ['.'])

theorem flatMap_names {cs : List Text} (h : ∀ c ∈ cs, '/' ∉ c) :
    cs.flatMap names = cs.filter fun c => !(c.isEmpty || c = ['.']) := by
  induction cs with
  | nil => rfl
  | cons c cs ih =>
    rw [List.flatMap_cons, ih fun d hd => h d (List.mem_cons_of_mem c hd), names,
      components_of_not_mem (h c List.mem_cons_self), ← List.filter_append, List.singleton_append]

/-- A path has the names of its components. -/
theorem flatMap_names_components (path : Text) : (components path).flatMap names = names path :=
  flatMap_names fun _ => not_mem_of_mem_components

/-- The slash of the root is no name. -/
theorem names_afterRoot (path : Text) : names (afterRoot path) = names path := by
  cases h : isAbsolute path with
  | true =>
    rw [names, names, components_of_isAbsolute h]
    rfl
  | false => rw [afterRoot_of_not_isAbsolute h]

theorem names_append (path : Text) {name : Text} (h : '/' ∉ name) :
    names (append path name) = names path ++ names name := by
  obtain ⟨init, happend, hpath⟩ := exists_components_append path h
  rw [names, names, names, happend, components_of_not_mem h, List.filter_append]
  rcases hpath with hpath | hpath
  · rw [hpath]
  · rw [hpath, List.filter_append]
    simp

/-- The path of the current directory, written with dots only, has no names. -/
theorem names_of_isHere {path : Text} (h : isHere path = true) : names path = [] := by
  rw [isHere, Bool.and_eq_true, List.all_eq_true] at h
  rw [names, List.filter_eq_nil_iff]
  intro c hc
  simpa [or_iff_not_imp_left] using h.2 c hc

theorem names_pathIn (path : Text) {name : Text} (h : '/' ∉ name) :
    names (Disk.pathIn path name) = names path ++ names name := by
  rw [Disk.pathIn]
  split
  · next hhere => rw [names_of_isHere hhere, List.nil_append]
  · exact names_append path h

end Path

namespace Node

/-! ### Steps -/

theorem follow?_append (a b : List Text) (start : List Node) :
    follow? (a ++ b) start = (follow? a start).bind (follow? b) :=
  List.foldlM_append

theorem follow?_singleton (name : Text) (start : List Node) :
    follow? [name] start = step? name start := by
  rw [follow?, List.foldlM_cons]
  simp

theorem exists_directory_of_step? {name : Text} {here there : List Node}
    (h : step? name here = some there) : ∃ entries around, here = directory entries :: around := by
  match here with
  | [] => exact absurd h (by simp [step?])
  | file content :: around => exact absurd h (by simp [step?])
  | directory entries :: around => exact ⟨entries, around, rfl⟩

theorem exists_cons_of_step? {name : Text} {here there : List Node}
    (h : step? name here = some there) : ∃ node around, there = node :: around := by
  obtain ⟨entries, around, rfl⟩ := exists_directory_of_step? h
  rw [step?] at h
  split at h
  · exact ⟨_, _, (Option.some.inj h).symm⟩
  · split at h
    · obtain rfl := Option.some.inj h
      split
      · exact ⟨_, [], rfl⟩
      · next haround => exact List.exists_cons_of_ne_nil (by simpa using haround)
    · obtain ⟨node, -, rfl⟩ := Option.map_eq_some_iff.mp h
      exact ⟨_, _, rfl⟩

/-- From a directory, empty components and dots lead to the directory itself. -/
theorem step?_directory {c : Text} (hc : c.isEmpty = true ∨ c = ['.'])
    (entries : List (Text × Node)) (around : List Node) :
    step? c (directory entries :: around) = some (directory entries :: around) := by
  have hdot : (c.isEmpty || c = ".".toList) = true := by simpa using hc
  rw [step?, if_pos hdot]

/-- Empty components and dots lead nowhere else. -/
theorem eq_of_step? {c : Text} (hc : c.isEmpty = true ∨ c = ['.']) {here there : List Node}
    (h : step? c here = some there) : there = here := by
  obtain ⟨entries, around, rfl⟩ := exists_directory_of_step? h
  rw [step?_directory hc] at h
  exact (Option.some.inj h).symm

theorem eq_of_follow? {cs : List Text} (hcs : ∀ c ∈ cs, c.isEmpty = true ∨ c = ['.'])
    {here there : List Node} (h : follow? cs here = some there) : there = here := by
  induction cs generalizing here with
  | nil => exact (Option.some.inj h).symm
  | cons c cs ih =>
    rw [← List.singleton_append, follow?_append, follow?_singleton] at h
    obtain ⟨next, hnext, hrest⟩ := Option.bind_eq_some_iff.mp h
    rw [ih (fun d hd => hcs d (List.mem_cons_of_mem c hd)) hrest,
      eq_of_step? (hcs c List.mem_cons_self) hnext]

/-- A path has a first component, so it leads somewhere from directories only. -/
theorem exists_directory_of_follow? {t : Text} {here there : List Node}
    (h : follow? (Path.components t) here = some there) :
    ∃ entries around, here = directory entries :: around := by
  obtain ⟨c, cs, hcs⟩ : ∃ c cs, Path.components t = c :: cs := exists_cutWhere_eq_cons _ _ _ t
  rw [hcs, ← List.singleton_append, follow?_append, follow?_singleton] at h
  obtain ⟨next, hnext, -⟩ := Option.bind_eq_some_iff.mp h
  exact exists_directory_of_step? hnext

/-! ### Where a path leads -/

variable {top : Node} {current : List Text} {path name : Text} {here there : List Node}

/-- A path leads to the first of some nodes; the others are the directories around it, from the
inside to the outside. -/
structure Leads (top : Node) (current : List Text) (path : Text) (here : List Node) : Prop where
  ne_nil : path ≠ []
  follow?_eq : follow? (start current path ++ Path.components path) [top] = some here

theorem Leads.find?_eq (h : Leads top current path here) : top.find? current path = here.head? := by
  rw [find?, if_neg (by simp [h.ne_nil]), h.follow?_eq, Option.bind_some]

theorem exists_leads_of_find? {node : Node} (h : top.find? current path = some node) :
    ∃ around, Leads top current path (node :: around) := by
  rw [find?] at h
  split at h
  · exact absurd h (by simp)
  · next hne =>
    obtain ⟨here, hfollow, hhead⟩ := Option.bind_eq_some_iff.mp h
    obtain ⟨around, rfl⟩ := List.head?_eq_some_iff.mp hhead
    exact ⟨around, by simpa using hne, hfollow⟩

/-- **The path of an entry leads to the entry.** -/
theorem Leads.pathIn (h : Leads top current path here) (hne : name ≠ []) (hslash : '/' ∉ name)
    (hstep : step? name here = some there) :
    Leads top current (Disk.pathIn path name) there := by
  have hstart : start current (Disk.pathIn path name) = start current path := by
    rw [start, start, Path.isAbsolute_pathIn h.ne_nil hslash]
  have hfollow := h.follow?_eq
  rw [follow?_append] at hfollow
  refine ⟨?_, ?_⟩
  · rw [Disk.pathIn, Path.append]
    split
    · exact hne
    · split <;> simp [h.ne_nil]
  rw [hstart, Disk.pathIn]
  split
  · next hhere =>
    -- the path leads to the current directory, from which the name is taken
    rw [Path.isHere, Bool.and_eq_true, List.all_eq_true] at hhere
    obtain ⟨dir, hdir, hdots⟩ := Option.bind_eq_some_iff.mp hfollow
    obtain rfl := eq_of_follow? (fun c hc => by simpa using hhere.2 c hc) hdots
    rw [follow?_append, hdir, Option.bind_some, Path.components_of_not_mem hslash,
      follow?_singleton, hstep]
  · obtain ⟨init, happend, hpath⟩ := Path.exists_components_append path hslash
    have hinit : follow? (start current path ++ init) [top] = some here := by
      have hfollow := h.follow?_eq
      rcases hpath with hpath | hpath
      · rwa [hpath] at hfollow
      · rw [hpath, ← List.append_assoc, follow?_append] at hfollow
        obtain ⟨mid, hmid, hlast⟩ := Option.bind_eq_some_iff.mp hfollow
        rw [hmid, eq_of_follow? (by simp) hlast]
    rw [happend, ← List.append_assoc, follow?_append, hinit, Option.bind_some, follow?_singleton,
      hstep]

/-- **A path leads from the root or from the current directory on**, by its components behind the
slash of the root. -/
theorem Leads.exists_start (h : Leads top current path here) :
    ∃ first, Leads top current (if Path.isAbsolute path then "/".toList else ".".toList) first ∧
      follow? (Path.components (Path.afterRoot path)) first = some here := by
  have hfollow := h.follow?_eq
  cases habsolute : Path.isAbsolute path with
  | true =>
    rw [start, habsolute, if_pos rfl, List.nil_append, Path.components_of_isAbsolute habsolute,
      ← List.singleton_append, follow?_append, follow?_singleton] at hfollow
    obtain ⟨first, hfirst, hrest⟩ := Option.bind_eq_some_iff.mp hfollow
    obtain rfl := eq_of_step? (Or.inl rfl) hfirst
    refine ⟨_, ⟨by decide, ?_⟩, hrest⟩
    have hroot : start current "/".toList ++ Path.components "/".toList = [[]] ++ [[]] := rfl
    rw [if_pos rfl, hroot, follow?_append, follow?_singleton, hfirst, Option.bind_some,
      follow?_singleton, hfirst]
  | false =>
    rw [start, habsolute, if_neg Bool.false_ne_true, follow?_append] at hfollow
    obtain ⟨first, hfirst, hrest⟩ := Option.bind_eq_some_iff.mp hfollow
    rw [Path.afterRoot_of_not_isAbsolute habsolute]
    refine ⟨first, ⟨by decide, ?_⟩, hrest⟩
    -- the current directory is one, since the path leads somewhere from it
    obtain ⟨entries, around, rfl⟩ := exists_directory_of_follow? hrest
    have hdot : start current ".".toList ++ Path.components ".".toList = current ++ [['.']] := rfl
    rw [if_neg Bool.false_ne_true, hdot, follow?_append, hfirst, Option.bind_some,
      follow?_singleton, step?_directory (Or.inr rfl)]

end Node

end SchemaIntake
