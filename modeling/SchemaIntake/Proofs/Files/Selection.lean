import SchemaIntake.Proofs.Files.Paths

/-!
# What patterns select

A pattern is also a path.  Its question marks and stars select themselves, so a file whose own path
is used as a pattern is among the files that are selected; where the path has a bracket that need
not be so.

## Main definitions

* `Disk.Selects disk t p` — the argument `t` stands for the path `p`: it is that path, or a pattern
  that selects it.
* `Pattern.IsItsOwn t` — a path without brackets, without components `**` and, but for the slash of
  the root, without empty ones.

## Main results

* `Disk.mem_expand_iff` — **the paths that some arguments stand for**.
* `Pattern.matchesName_of_readPieces?` — a component without brackets selects itself.
* `Node.exists_mem_select_of_isItsOwn` — **a file is selected by its own path**.
-/

namespace SchemaIntake

open Text

namespace Disk

/-! ### Arguments -/

section Expand

variable {disk : Disk Id} {t p : Text}

/-- An argument stands for a path: it is that path, or a pattern that selects it. -/
def Selects (disk : Disk Id) (t p : Text) : Prop :=
  if Pattern.isOne t then ∃ pattern, Pattern.read? t = some pattern ∧ p ∈ (disk.select pattern).run
  else p = t

theorem mapM_id {α β : Type} (f : α → Id β) (xs : List α) : xs.mapM f = xs.map f :=
  List.idRun_mapM

theorem expand_cons_of_isOne (h : Pattern.isOne t = true) (rest : List Text) :
    disk.expand (t :: rest) =
      match Pattern.read? t with
      | none => none
      | some pattern => (disk.expand rest).run.map ((disk.select pattern).run ++ ·) := by
  rw [expand, if_pos h]
  rfl

theorem expand_cons_of_not_isOne (h : Pattern.isOne t = false) (rest : List Text) :
    disk.expand (t :: rest) = (disk.expand rest).run.map (t :: ·) := by
  rw [expand, if_neg (by simp [h])]
  rfl

/-- Where arguments stand for some paths, the first of them stands for the first of these, and if it
is a pattern it is well formed. -/
theorem exists_of_expand_cons {rest paths : List Text}
    (h : disk.expand (t :: rest) = some paths) :
    ∃ own others, disk.expand rest = some others ∧ paths = own ++ others ∧
      (∀ p, p ∈ own ↔ disk.Selects t p) ∧
        (Pattern.isOne t = true → ∃ pattern, Pattern.read? t = some pattern) := by
  cases ht : Pattern.isOne t with
  | true =>
    rw [expand_cons_of_isOne ht] at h
    cases hread : Pattern.read? t with
    | none => simp [hread] at h
    | some pattern =>
      rw [hread] at h
      obtain ⟨others, hothers, rfl⟩ := Option.map_eq_some_iff.mp h
      exact ⟨_, others, hothers, rfl, by simp [Selects, ht, hread], fun _ => ⟨pattern, rfl⟩⟩
  | false =>
    rw [expand_cons_of_not_isOne ht] at h
    obtain ⟨others, hothers, rfl⟩ := Option.map_eq_some_iff.mp h
    exact ⟨[t], others, hothers, rfl, by simp [Selects, ht], nofun⟩

/-- **The paths that some arguments stand for.** -/
theorem mem_expand_iff {arguments paths : List Text} (h : disk.expand arguments = some paths) :
    p ∈ paths ↔ ∃ t ∈ arguments, disk.Selects t p := by
  induction arguments generalizing paths with
  | nil =>
    obtain rfl : [] = paths := Option.some.inj h
    simp
  | cons t rest ih =>
    obtain ⟨own, others, hothers, rfl, hown, -⟩ := exists_of_expand_cons h
    simp [hown, ih hothers]

/-- Where arguments stand for paths at all, the patterns among them are well formed. -/
theorem exists_pattern_of_expand {arguments paths : List Text}
    (h : disk.expand arguments = some paths) (ht : t ∈ arguments) (hone : Pattern.isOne t = true) :
    ∃ pattern, Pattern.read? t = some pattern := by
  induction arguments generalizing paths with
  | nil => exact absurd ht List.not_mem_nil
  | cons u rest ih =>
    obtain ⟨own, others, hothers, -, -, hpattern⟩ := exists_of_expand_cons h
    rcases List.mem_cons.mp ht with rfl | ht
    · exact hpattern hone
    · exact ih hothers ht

end Expand

end Disk

/-! ### Components -/

namespace Pattern

theorem holdsLater_of_holds {p : Text → Bool} {t : Text} (h : p t = true) :
    holdsLater p t = true := by
  cases t <;> simp [holdsLater, h]

theorem matchesName_of_readPiecesWithin {n : Nat} {t : Text} {pieces : List Piece}
    (hbracket : '[' ∉ t) (h : readPiecesWithin n t = some pieces) :
    matchesName pieces t = true := by
  induction n generalizing t pieces with
  | zero =>
    cases t with
    | nil =>
      obtain rfl := Option.some.inj h
      rfl
    | cons c rest => simp [readPiecesWithin] at h
  | succ n ih =>
    cases t with
    | nil =>
      obtain rfl := Option.some.inj h
      rfl
    | cons c rest =>
      have hrest : '[' ∉ rest := fun hmem => hbracket (List.mem_cons_of_mem c hmem)
      rw [readPiecesWithin] at h
      split at h
      · obtain ⟨others, hothers, rfl⟩ := Option.map_eq_some_iff.mp h
        simp [matchesName, Piece.matchesChar, ih hrest hothers]
      · split at h
        · split at h
          · exact absurd h (by simp)
          · obtain ⟨others, hothers, rfl⟩ := Option.map_eq_some_iff.mp h
            -- the star selects the star and nothing more
            rw [matchesName, holdsLater, holdsLater_of_holds (ih hrest hothers), Bool.or_true]
        · split at h
          · next hc => exact absurd (hc ▸ List.mem_cons_self) hbracket
          · obtain ⟨others, hothers, rfl⟩ := Option.map_eq_some_iff.mp h
            simp [matchesName, Piece.matchesChar, ih hrest hothers]

/-- A component without brackets selects itself. -/
theorem matchesName_of_readPieces? {t : Text} {pieces : List Piece} (hbracket : '[' ∉ t)
    (h : readPieces? t = some pieces) : matchesName pieces t = true :=
  matchesName_of_readPiecesWithin hbracket h

/-- A path that selects itself where it is used as a pattern: no component of it is empty, has an
opening bracket or is `**`.  The slash of the root does not count. -/
def IsItsOwn (t : Text) : Prop :=
  ∀ c ∈ Path.components (Path.afterRoot t), c ≠ [] ∧ '[' ∉ c ∧ c ≠ "**".toList

instance (t : Text) : Decidable (IsItsOwn t) := by
  unfold IsItsOwn
  infer_instance

end Pattern

/-! ### Trees -/

namespace Disk

variable {disk : Disk Id} {pieces : List Pattern.Piece} {rest : List Pattern.Component}
  {t path : Text}

theorem selected_nil : (disk.selected false [] path).run = [path] := by
  rw [selected]
  rfl

theorem selected_name
    (h : (if t = ".".toList || t = "..".toList then disk.isDirectory path
      else disk.exists? (pathIn path t)).run = true) :
    (disk.selected false (.name t :: rest) path).run =
      (disk.selected false rest (pathIn path t)).run := by
  have hthere (isThere : Bool) (h : isThere = true) :
      (if isThere then disk.selected false rest (pathIn path t) else pure [] : Id (List Text)) =
        disk.selected false rest (pathIn path t) := if_pos h
  rw [selected]
  split at h
  · next hdots => exact (if_pos hdots).trans (hthere _ h)
  · next hdots => exact (if_neg hdots).trans (hthere _ h)

theorem selected_wild (h : (disk.isDirectory path).run = true) :
    (disk.selected false (.wild pieces :: rest) path).run =
      (((dots pieces).map (Path.append path) ++
        (matching (.wild pieces) (disk.entriesOf path).run).map (·.path)).map
          fun p => (disk.selected false rest p).run).flatten := by
  rw [selected]
  refine (if_pos h).trans ?_
  exact congrArg List.flatten (mapM_id (disk.selected false rest) _)

/-- A pattern of one component selects names in the current directory, in their order. -/
theorem select_wild (h : (disk.isDirectory ".".toList).run = true) :
    (disk.select ⟨false, [.wild pieces], false⟩).run =
      (dots pieces).map (Path.append ".".toList) ++
        ((disk.names ".".toList).run.mergeSort inOrder).filter (Pattern.matchesName pieces) := by
  have hentries : (matching (.wild pieces) (disk.entriesOf ".".toList).run).map (·.path) =
      ((disk.names ".".toList).run.mergeSort inOrder).filter (Pattern.matchesName pieces) := by
    change ((((disk.names ".".toList).run.mergeSort inOrder).map fun name =>
      (⟨name, name⟩ : Entry)).filter fun e => Pattern.matchesName pieces e.name).map (·.path) = _
    rw [List.filter_map, List.map_map]
    exact List.map_id _
  have hall : (fun p => (disk.selected false [] p).run) = fun p => [p] :=
    funext fun p => selected_nil
  rw [select, if_neg Bool.false_ne_true, selected_wild h, hentries, hall, ← List.flatMap_def,
    List.flatMap_singleton']

/-- What is selected from an entry that a component selects is selected. -/
theorem mem_selected_wild {e : Entry} {p : Text} (h : (disk.isDirectory path).run = true)
    (hentry : e ∈ (disk.entriesOf path).run) (hmatches : Pattern.matchesName pieces e.name = true)
    (hp : p ∈ (disk.selected false rest e.path).run) :
    p ∈ (disk.selected false (.wild pieces :: rest) path).run := by
  rw [selected_wild h]
  refine List.mem_flatten.mpr ⟨_, List.mem_map_of_mem ?_, hp⟩
  exact List.mem_append_right _ (List.mem_map_of_mem (List.mem_filter.mpr ⟨hentry, hmatches⟩))

theorem mem_entriesOf {e : Entry} : e ∈ (disk.entriesOf path).run ↔
    ∃ name ∈ (disk.names path).run, e = ⟨name, pathIn path name⟩ := by
  change e ∈ ((disk.names path).run.mergeSort inOrder).map _ ↔ _
  rw [List.mem_map]
  simp [List.mem_mergeSort, eq_comm]

end Disk

namespace Node

variable {top : Node} {current : List Text} {path name : Text} {here there : List Node}
  {content : Option Text}

theorem Leads.isDirectory {entries : List (Text × Node)} {around : List Node}
    (h : Leads top current path (directory entries :: around)) :
    ((top.disk current).isDirectory path).run = true := by
  change decide ((top.find? current path).map kind = some .directory) = true
  simp [h.find?_eq, kind]

theorem Leads.exists? {node : Node} {around : List Node}
    (h : Leads top current path (node :: around)) :
    ((top.disk current).exists? path).run = true := by
  change ((top.find? current path).map kind).isSome = true
  simp [h.find?_eq]

/-- A step to a name that is neither empty nor dots leads to an entry. -/
theorem mem_names_of_step? (h : Leads top current path here) (hne : name ≠ [])
    (hdot : name ≠ ".".toList) (hdots : name ≠ "..".toList) (hstep : step? name here = some there) :
    name ∈ ((top.disk current).names path).run := by
  obtain ⟨entries, around, rfl⟩ := exists_directory_of_step? hstep
  have hhere : (name.isEmpty || name = ".".toList) = false :=
    Bool.or_eq_false_iff.mpr ⟨List.isEmpty_eq_false_iff.mpr hne, decide_eq_false hdot⟩
  rw [step?, if_neg (by rw [hhere]; exact Bool.false_ne_true), if_neg hdots] at hstep
  obtain ⟨node, hchild, -⟩ := Option.map_eq_some_iff.mp hstep
  obtain ⟨entry, hentry, -⟩ := Option.map_eq_some_iff.mp hchild
  have hname : entry.1 = name := by simpa using List.find?_some hentry
  change name ∈ ((top.find? current path).map fun node => node.entries.map (·.1)).getD []
  rw [h.find?_eq, List.head?_cons, Option.map_some, Option.getD_some, ← hname]
  exact List.mem_map_of_mem (List.mem_of_find?_eq_some hentry)

/-- **What components lead to is selected by them**, if they have no brackets. -/
theorem exists_mem_selected {names : List Text} {components : List Pattern.Component}
    (hread : names.mapM Pattern.readComponent? = some components)
    (hnames : ∀ c ∈ names, c ≠ [] ∧ '/' ∉ c ∧ '[' ∉ c ∧ c ≠ "**".toList)
    (hpath : Leads top current path here) (hfollow : follow? names here = some there) :
    ∃ p ∈ ((top.disk current).selected false components path).run, Leads top current p there ∧
      Path.isAbsolute p = Path.isAbsolute path ∧
      Path.names p = Path.names path ++ names.flatMap Path.names := by
  induction names generalizing path here components with
  | nil =>
    obtain rfl : [] = components := Option.some.inj hread
    obtain rfl : here = there := Option.some.inj hfollow
    refine ⟨path, ?_, hpath, rfl, by simp⟩
    rw [Disk.selected_nil]
    exact List.mem_singleton_self path
  | cons name names ih =>
    obtain ⟨hne, hslash, hbracket, hstars⟩ := hnames name List.mem_cons_self
    rw [← List.singleton_append, follow?_append, follow?_singleton] at hfollow
    obtain ⟨next, hstep, hrest⟩ := Option.bind_eq_some_iff.mp hfollow
    rw [List.mapM_cons] at hread
    obtain ⟨component, hcomponent, hread⟩ := Option.bind_eq_some_iff.mp hread
    obtain ⟨components', hread', hread⟩ := Option.bind_eq_some_iff.mp hread
    obtain rfl : component :: components' = components := Option.some.inj hread
    -- a step out of a file leads nowhere, so the path leads to a directory
    obtain ⟨entries, around, rfl⟩ := exists_directory_of_step? hstep
    have hnext := hpath.pathIn hne hslash hstep
    obtain ⟨p, hp, hleads, habsolute, hpnames⟩ :=
      ih hread' (fun c hc => hnames c (List.mem_cons_of_mem name hc)) hnext hrest
    rw [Path.isAbsolute_pathIn hpath.ne_nil hslash] at habsolute
    refine ⟨p, ?_, hleads, habsolute, ?_⟩
    -- a wild component is looked for among the entries, a plain one is looked up
    · rw [Pattern.readComponent?, if_neg hstars] at hcomponent
      split at hcomponent
      · next hone =>
        obtain ⟨pieces, hpieces, rfl⟩ := Option.map_eq_some_iff.mp hcomponent
        have hmem := mem_names_of_step? hpath hne (by rintro rfl; exact absurd hone (by decide))
          (by rintro rfl; exact absurd hone (by decide)) hstep
        exact Disk.mem_selected_wild hpath.isDirectory (Disk.mem_entriesOf.mpr ⟨name, hmem, rfl⟩)
          (Pattern.matchesName_of_readPieces? hbracket hpieces) hp
      · obtain rfl : Pattern.Component.name name = component := Option.some.inj hcomponent
        rw [Disk.selected_name]
        · exact hp
        · split
          · exact hpath.isDirectory
          · obtain ⟨node, around, rfl⟩ := exists_cons_of_step? hstep
            exact hnext.exists?
    · rw [hpnames, Path.names_pathIn path hslash, List.flatMap_cons, List.append_assoc]

/-- A path that ends with a slash has an empty component, even behind the slash of the root. -/
theorem nil_mem_components_afterRoot {t : Text} (h : t.getLast? = some '/') :
    [] ∈ Path.components (Path.afterRoot t) := by
  obtain ⟨r, rfl⟩ := List.getLast?_eq_some_iff.mp h
  cases r with
  | nil => decide
  | cons c r =>
    have hlast : ∃ init, Path.afterRoot (c :: r ++ ['/']) = init ++ ['/'] := by
      rw [Path.afterRoot]
      split <;> exact ⟨_, rfl⟩
    obtain ⟨init, hinit⟩ := hlast
    rw [hinit, Path.components_append_slash]
    exact List.mem_append_right _ List.mem_cons_self

/-- A path that is its own pattern is read component by component. -/
theorem eq_of_read?_of_isItsOwn {t : Text} (hown : Pattern.IsItsOwn t) {pattern : Pattern}
    (hread : Pattern.read? t = some pattern) : ∃ components,
      (Path.components (Path.afterRoot t)).mapM Pattern.readComponent? = some components ∧
        pattern = ⟨Path.isAbsolute t, components, false⟩ := by
  have hlast : t.getLast? ≠ some '/' := fun hlast =>
    (hown [] (nil_mem_components_afterRoot hlast)).1 rfl
  simp only [Pattern.read?, hlast, decide_false, if_false] at hread
  obtain ⟨components, hcomponents, hread⟩ := Option.bind_eq_some_iff.mp hread
  exact ⟨components, hcomponents, (Option.some.inj hread).symm⟩

/-- **A file is selected by its own path**, or by another path to the same place. -/
theorem exists_mem_select_of_isItsOwn {t : Text} {node : Node}
    (hfind : top.find? current t = some node) (hown : Pattern.IsItsOwn t) {pattern : Pattern}
    (hread : Pattern.read? t = some pattern) :
    ∃ p ∈ ((top.disk current).select pattern).run,
      Path.isAbsolute p = Path.isAbsolute t ∧ Path.names p = Path.names t ∧
        top.find? current p = some node := by
  obtain ⟨around, hleads⟩ := exists_leads_of_find? hfind
  obtain ⟨components, hcomponents, rfl⟩ := eq_of_read?_of_isItsOwn hown hread
  obtain ⟨first, hfirst, hfollow⟩ := hleads.exists_start
  have hplain : ∀ c ∈ Path.components (Path.afterRoot t),
      c ≠ [] ∧ '/' ∉ c ∧ '[' ∉ c ∧ c ≠ "**".toList :=
    fun c hc => ⟨(hown c hc).1, Path.not_mem_of_mem_components hc, (hown c hc).2⟩
  obtain ⟨p, hp, hpleads, habsolute, hpnames⟩ :=
    exists_mem_selected hcomponents hplain hfirst hfollow
  -- neither start has a name, and only the root is absolute
  have hstart : Path.isAbsolute (if Path.isAbsolute t then "/".toList else ".".toList) =
      Path.isAbsolute t ∧
        Path.names (if Path.isAbsolute t then "/".toList else ".".toList) = [] := by
    cases Path.isAbsolute t <;> exact ⟨rfl, rfl⟩
  refine ⟨p, hp, habsolute.trans hstart.1, ?_, hpleads.find?_eq⟩
  rw [hpnames, hstart.2, List.nil_append, Path.flatMap_names_components, Path.names_afterRoot]

end Node

end SchemaIntake
