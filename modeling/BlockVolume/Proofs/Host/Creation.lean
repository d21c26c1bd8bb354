import BlockVolume.Proofs.Host.Canonical
/-!
What making a mount target leaves behind.

A walk that ends at a directory ends there also where a tree has more entries, and from there it can
go on. So the parents of a target, made first, still lead to it when it is made, and a target that
was made without an error is a directory.
-/

namespace BlockVolume.Host.FileTree

open BlockVolume.Path (component)

variable {tree more : FileTree} {place start : Location} {p : Path}

/-- All entries of a tree stand in another one, where they are. -/
def Keeps (tree more : FileTree) : Prop :=
  ∀ ⦃place entry⦄, tree.at? place = some entry → more.at? place = some entry

theorem keeps_add (tree : FileTree) (place : Location) (entry : Entry) :
    tree.Keeps (tree.add place entry) := by
  intro other found h
  rw [at?] at h ⊢
  split at h
  case isTrue root => rw [if_pos root, h]
  case isFalse inner =>
    rw [if_neg inner, add, List.lookup_append, h]
    rfl

theorem at?_add (free : tree.at? place = none) (entry : Entry) :
    (tree.add place entry).at? place = some entry := by
  rw [at?] at free ⊢
  split at free
  case isTrue => cases free
  case isFalse inner =>
    rw [if_neg inner, add, List.lookup_append, free]
    simp

/-! ### Walks to directories -/

/-- A walk goes on from the directory that its first part comes to: there is no link at the end of
that part, and what it came through is still there. A walk that follows no link at its end must
indeed go on, for it follows the links before. -/
theorem walk_append {follow ahead : Bool} {links : Nat} {todo rest : List String}
    {final : Location} (kept : tree.Keeps more)
    (walked : tree.walk follow links todo start = .ok place) (dir : tree.at? place = some .dir)
    (goes : ahead = true ∨ rest ≠ [])
    (later : ∀ links, more.walk ahead links rest place = .ok final) :
    more.walk ahead links (todo ++ rest) start = .ok final := by
  fun_induction walk tree follow links todo start
  case case1 =>
    obtain rfl := Except.ok.inj walked
    exact later _
  case case2 up ih =>
    rw [List.cons_append, walk, up]
    exact ih walked
  case case3 | case4 | case7 | case9 | case10 => cases walked
  case case5 named short found ih =>
    rw [List.cons_append, walk, named]
    simp only [if_neg short, kept found]
    exact ih walked
  case case6 found _ | case8 found _ =>
    -- what the walk came to is no directory
    obtain rfl := Except.ok.inj walked
    rw [found] at dir
    cases dir
  case case11 later _ named short target found _ links some ih =>
    have inside : ((later ++ rest).isEmpty && !ahead) = false := by
      rcases goes with rfl | goes
      · simp
      · simp [goes]
    rw [List.cons_append, walk, named]
    simp only [if_neg short, kept found, inside, Bool.false_eq_true, if_false, if_neg some,
      ← List.append_assoc]
    exact ih walked
  case case12 piece _ up name ih =>
    rw [List.cons_append, walk]
    cases hc : component piece with
    | up => exact absurd hc up
    | name text => exact absurd hc (name text)
    | root | here => exact ih walked

/-- Where a walk comes to a directory, it does so with links followed as well. -/
theorem locate_of_dir (located : tree.locate false p = .ok place)
    (dir : tree.at? place = some .dir) : tree.locate true p = .ok place := by
  obtain ⟨taken, walked⟩ := locate_eq_ok.mp located
  refine locate_eq_ok.mpr ⟨taken, ?_⟩
  rw [← List.append_nil (steps p)]
  exact walk_append (fun _ _ => id) walked dir (.inl rfl) fun _ => by rw [walk]

/-! ### Directories that are made -/

/-- A path leads to a directory that is there, and from it to a name that is free. -/
structure IsFree (tree : FileTree) (p : Path) (parent : Location) (name : String) : Prop where
  taken : checkText p = .ok ()
  pieces : p.pieces = p.pieces.dropLast ++ [name]
  named : component name = .name name
  short : ¬name.utf8ByteSize > maxNameBytes
  leads : tree.walk true maxLinks p.pieces.dropLast [] = .ok parent
  dir : tree.at? parent = some .dir
  free : tree.at? (parent ++ [name]) = none

/-- A directory is made there, and nowhere else. -/
theorem makeDirectory_eq_ok (made : tree.makeDirectory p = .ok more) :
    ∃ parent name, tree.IsFree p parent name ∧ more = tree.add (parent ++ [name]) .dir := by
  rw [makeDirectory] at made
  cases taken : checkText p with
  | error failure => simp [taken, bind, Except.bind] at made
  | ok =>
  simp only [taken, bind, Except.bind] at made
  cases ending : p.pieces.getLast? with
  | none => simp [ending] at made
  | some piece =>
  simp only [ending] at made
  cases walked : tree.walk true maxLinks p.pieces.dropLast [] with
  | error failure => simp [walked] at made
  | ok place =>
  simp only [walked] at made
  split at made
  · cases made
  split at made
  case h_2 => cases made
  case h_1 parent _ name named =>
  split at made
  · cases made
  split at made
  · cases made
  case isFalse.isFalse short free =>
    obtain rfl := Path.component_eq_name named
    have pieces := (List.dropLast_append_getLast? name ending).symm
    exact ⟨place, name,
      ⟨taken, pieces, named, short, walked, by simpa using parent, by simpa using free⟩,
      (Except.ok.inj made).symm⟩

/-- A directory that was made is new, and its path leads there, whether links are followed or
not. -/
theorem locate_of_makeDirectory (made : tree.makeDirectory p = .ok more) :
    ∃ place, (∀ follow, more.locate follow p = .ok place) ∧ more.at? place = some .dir ∧
      tree.at? place = none := by
  obtain ⟨parent, name, h, rfl⟩ := makeDirectory_eq_ok made
  have dir := at?_add h.free .dir
  -- the name alone leads on from its parent, and so it does with a dot after it
  have last : ∀ follow links, (tree.add (parent ++ [name]) .dir).walk follow links
      (if endsInSlash p then [name, "."] else [name]) parent = .ok (parent ++ [name]) := by
    have dot : component "." = .here := rfl
    intro follow links
    split
    · simp [walk, h.named, h.short, dir, dot]
    · simp [walk, h.named, h.short, dir]
  have whole : steps p = p.pieces.dropLast ++ if endsInSlash p then [name, "."] else [name] := by
    rw [steps]
    split
    · nth_rewrite 1 [h.pieces]
      simp
    · exact h.pieces
  refine ⟨parent ++ [name], fun follow => locate_eq_ok.mpr ⟨h.taken, ?_⟩, dir, h.free⟩
  rw [whole]
  exact walk_append (keeps_add tree _ _) h.leads h.dir (.inr (by split <;> simp)) (last follow)

/-- A directory that was made is one. -/
theorem isDirectory_of_makeDirectory (made : tree.makeDirectory p = .ok more) :
    more.isDirectory p = true := by
  obtain ⟨place, located, dir, -⟩ := locate_of_makeDirectory made
  exact isDirectory_iff.mpr ⟨place, located true, dir⟩

/-- What stands in the way of a directory may be one already. -/
theorem found_eq_ok {failure : Failure} : (if tree.isDirectory p then .ok () else .error failure,
    tree) = ((.ok (), more) : Except Failure Unit × FileTree) ↔
      tree.isDirectory p = true ∧ more = tree := by
  by_cases there : tree.isDirectory p = true <;> simp [there, eq_comm]

/-- There is a directory because it was made, or one was there. -/
theorem ensureDirectory_eq_ok (made : tree.ensureDirectory p = (.ok (), more)) :
    tree.makeDirectory p = .ok more ∨ tree.isDirectory p = true ∧ more = tree := by
  rw [ensureDirectory] at made
  split at made
  case h_1 tree here =>
    obtain rfl := (Prod.mk.inj made).2
    exact .inl here
  case h_2 => exact .inr (found_eq_ok.mp made)

theorem isDirectory_of_ensureDirectory (made : tree.ensureDirectory p = (.ok (), more)) :
    more.isDirectory p = true := by
  rcases ensureDirectory_eq_ok made with made | ⟨dir, rfl⟩
  · exact isDirectory_of_makeDirectory made
  · exact dir

/-- A directory is missing, and its parent is made first. -/
structure MadeBelow (tree : FileTree) (p : Path) (depth : Nat) (more : FileTree) : Prop where
  missing : ∃ failure, tree.makeDirectory p = .error failure ∧ failure.isNotFound = true
  below : ∃ less parent between, depth = less + 1 ∧ p.parent? = some parent ∧
    makeDirectories less tree parent = (.ok (), between) ∧
      between.ensureDirectory p = (.ok (), more)

theorem makeDirectories_eq_ok {depth : Nat} (some : p.same ⟨""⟩ = false)
    (made : makeDirectories depth tree p = (.ok (), more)) :
    tree.makeDirectory p = .ok more ∨ tree.isDirectory p = true ∧ more = tree ∨
      tree.MadeBelow p depth more := by
  rw [makeDirectories.eq_def, if_neg (by simp [some])] at made
  split at made
  case h_1 tree here =>
    obtain rfl := (Prod.mk.inj made).2
    exact .inl here
  case h_2 failure failed =>
  split at made
  case isTrue => exact .inr (.inl (found_eq_ok.mp made))
  case isFalse missing =>
  split at made
  case h_2 => cases made
  case h_1 depth parent above =>
  split at made
  case h_1 between first =>
    exact .inr (.inr ⟨⟨failure, failed, by simpa using missing⟩,
      depth, parent, between, rfl, above, first, made⟩)
  case h_2 => cases made

theorem isDirectory_of_makeDirectories {depth : Nat} (some : p.same ⟨""⟩ = false)
    (made : makeDirectories depth tree p = (.ok (), more)) : more.isDirectory p = true := by
  rcases makeDirectories_eq_ok some made with made | ⟨dir, rfl⟩ | ⟨-, _, _, _, -, -, -, made⟩
  · exact isDirectory_of_makeDirectory made
  · exact dir
  · exact isDirectory_of_ensureDirectory made

/-- What is found at a path stands at the place that the path leads to. -/
theorem entry_eq_ok {follow : Bool} {found : Entry} (h : tree.entry follow p = .ok found) :
    ∃ place, tree.locate follow p = .ok place ∧ tree.at? place = some found := by
  rw [entry] at h
  cases located : tree.locate follow p with
  | error failure => simp [located, bind, Except.bind] at h
  | ok place =>
    simp only [located, bind, Except.bind] at h
    cases standing : tree.at? place with
    | none => simp [standing] at h
    | some entry =>
      simp only [standing] at h
      obtain rfl := Except.ok.inj h
      exact ⟨place, rfl, standing⟩

/-- A text that stands for no components is empty: a slash would stand for the root. -/
theorem text_eq_empty (same : p.same ⟨""⟩ = true) : p.text = "" := by
  have none : p.components = [] := Path.same_iff.mp same
  rw [Path.components] at none
  split at none
  case isTrue => cases none
  case isFalse relative =>
  split at none
  case isTrue => cases none
  case isFalse start =>
  have steps : p.pieces.map component = [] := by
    cases h : p.pieces.map component with
    | nil => rfl
    | cons first rest =>
      rw [h] at none start
      have dots := List.filter_eq_nil_iff.mp none first List.mem_cons_self
      exact absurd (by simpa using dots) (by simpa using start)
  have slashes : p.text.toList.filter (fun c => !(c == '/')) = [] := by
    rw [← Text.flatten_splitOnP, ← List.flatten_filter_not_isEmpty]
    have pieces := List.map_eq_nil_iff.mp (List.map_eq_nil_iff.mp steps)
    rw [pieces, List.flatten_nil]
  cases h : p.text.toList with
  | nil => exact String.toList_eq_nil_iff.mp h
  | cons c cs =>
    rw [h] at slashes
    have slash := List.filter_eq_nil_iff.mp slashes c List.mem_cons_self
    exact absurd (by simpa [Path.isAbsolute, h] using slash) relative

/-- A target was there, or nothing was and directories were made. -/
theorem createTarget_eq_ok (made : tree.createTarget p = (.ok (), more)) :
    tree.entry false p = .ok .dir ∧ more = tree ∨
      ∃ failure, tree.entry false p = .error failure ∧
        makeDirectories p.components.length tree p = (.ok (), more) := by
  rw [createTarget] at made
  split at made
  case h_1 found =>
    obtain rfl := (Prod.mk.inj made).2
    exact .inl ⟨found, rfl⟩
  case h_2 => cases made
  case h_3 failure missing =>
  split at made
  case isFalse => cases made
  case isTrue =>
    obtain ⟨done, rfl⟩ := Prod.mk.inj made
    refine .inr ⟨failure, missing, Prod.ext ?_ rfl⟩
    cases h : (makeDirectories p.components.length tree p).1 with
    | ok => rfl
    | error failure =>
      rw [h] at done
      cases done

/-- A target that was made is a directory; the empty path alone is taken for one without being
there. -/
theorem isDirectory_of_createTarget (made : tree.createTarget p = (.ok (), more))
    (some : p.text ≠ "") : more.isDirectory p = true := by
  rcases createTarget_eq_ok made with ⟨found, rfl⟩ | ⟨failure, -, made⟩
  · obtain ⟨place, located, dir⟩ := entry_eq_ok found
    exact isDirectory_iff.mpr ⟨place, locate_of_dir located dir, dir⟩
  · have named : p.same ⟨""⟩ = false := Bool.eq_false_iff.mpr fun same => some (text_eq_empty same)
    exact isDirectory_of_makeDirectories named made

/-- A directory has a link-free form. -/
theorem exists_canonical (dir : tree.isDirectory p = true) :
    ∃ form, tree.canonical? p = some form := by
  obtain ⟨place, located, -⟩ := isDirectory_iff.mp dir
  exact ⟨pathOf place, by rw [canonical?, located]⟩

end BlockVolume.Host.FileTree
