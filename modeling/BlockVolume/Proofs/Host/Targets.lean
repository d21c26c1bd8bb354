import BlockVolume.Proofs.Host.Walks
import Mathlib
/-!
Making a mount target, on every tree and for every path.

A tree only grows by directories while a target is made. Two walks of one path through trees that
a tree has grown to lead to the same place, so it is settled beforehand whether a path can come to
name a link: a target that was made is a directory itself but for such a path. One without `..` is
none, for where its parents were made there was nothing below them.
-/

namespace BlockVolume.Host.FileTree

open BlockVolume.Mount (MountError)
open BlockVolume.Path (Component IsName component)

variable {tree more after : FileTree} {follow : Bool} {links : Nat} {todo : List String}
  {place other above start : Location} {p : Path} {name target : String} {found found' : Entry}
  {front names : List String}

/-! ### Trees that grow -/

/-- Nothing of a tree is gone or changed, and whatever is new is a directory. -/
def Grows (tree more : FileTree) : Prop :=
  ∀ place, more.at? place = tree.at? place ∨ tree.at? place = none ∧ more.at? place = some .dir

theorem grows_refl (tree : FileTree) : tree.Grows tree := fun _ => .inl rfl

theorem Grows.trans (h : tree.Grows more) (h' : more.Grows after) : tree.Grows after := by
  intro place
  rcases h' place with same | ⟨free, dir⟩
  · rw [same]
    exact h place
  · rcases h place with same | ⟨free', -⟩
    · exact .inr ⟨same.symm.trans free, dir⟩
    · exact .inr ⟨free', dir⟩

theorem Grows.eq_none (h : tree.Grows more) (free : more.at? place = none) :
    tree.at? place = none := by
  rcases h place with same | ⟨free', -⟩
  · exact same.symm.trans free
  · exact free'

/-- What is no directory was there before. -/
theorem Grows.at?_of_ne (h : tree.Grows more) (there : more.at? place = some found)
    (other : found ≠ .dir) : tree.at? place = some found := by
  rcases h place with same | ⟨-, dir⟩
  · exact same.symm.trans there
  · exact absurd (Option.some.inj (there.symm.trans dir)) other

/-- Two trees that a tree has grown to do not differ in what stands at a place. -/
theorem Grows.found_eq (h : tree.Grows more) (h' : tree.Grows after)
    (there : more.at? place = some found) (there' : after.at? place = some found') :
    found = found' := by
  by_cases dir : found = .dir
  · subst dir
    by_contra differ
    have old := h'.at?_of_ne there' (Ne.symm differ)
    rcases h place with same | ⟨free, -⟩
    · exact differ (Option.some.inj (there.symm.trans (same.trans old)))
    · cases free.symm.trans old
  · rcases h' place with same | ⟨free, -⟩
    · exact Option.some.inj ((h.at?_of_ne there dir).symm.trans (same.symm.trans there'))
    · cases free.symm.trans (h.at?_of_ne there dir)

theorem grows_add (free : tree.at? place = none) : tree.Grows (tree.add place .dir) := by
  intro other
  by_cases same : other = place
  · subst same
    exact .inr ⟨free, at?_add free .dir⟩
  · refine .inl ?_
    simp [at?, add, List.lookup_append, List.lookup_cons, beq_false_of_ne same]

/-- One path leads to one place, however directories were added. -/
theorem Leads.agree (h : tree.Grows more) (h' : tree.Grows after)
    (leads : more.Leads follow links todo start place)
    (leads' : after.Leads follow links todo start other) : other = place := by
  induction leads generalizing other with
  | done =>
    cases leads'
    rfl
  | dot here _ ih =>
    cases leads' with
    | dot _ later => exact ih later
    | up above => cases here.symm.trans above
    | dir named | file named | stop _ named | link _ named => cases here.symm.trans named
  | up above _ ih =>
    cases leads' with
    | up _ later => exact ih later
    | dot here => cases above.symm.trans here
    | dir named | file named | stop _ named | link _ named => cases above.symm.trans named
  | dir named _ found _ ih =>
    cases leads' with
    | dir _ _ _ later => exact ih later
    | dot here => cases named.symm.trans here
    | up above => cases named.symm.trans above
    | file _ _ found' | stop _ _ _ found' | link _ _ _ found' => cases h.found_eq h' found found'
  | file named _ found =>
    cases leads' with
    | file => rfl
    | dot here => cases named.symm.trans here
    | up above => cases named.symm.trans above
    | dir _ _ found' | stop _ _ _ found' | link _ _ _ found' => cases h.found_eq h' found found'
  | stop last named _ found =>
    cases leads' with
    | stop => rfl
    | dot here => cases named.symm.trans here
    | up above => cases named.symm.trans above
    | dir _ _ found' | file _ _ found' => cases h.found_eq h' found found'
    | link goes => simp [last] at goes
  | link goes named _ found _ _ ih =>
    cases leads' with
    | link _ _ _ found' _ later =>
      obtain rfl := Entry.link.inj (h.found_eq h' found found')
      exact ih later
    | dot here => cases named.symm.trans here
    | up above => cases named.symm.trans above
    | dir _ _ found' | file _ _ found' => cases h.found_eq h' found found'
    | stop last => simp [last] at goes

/-! ### Making directories -/

theorem grows_of_makeDirectory (made : tree.makeDirectory p = .ok more) : tree.Grows more := by
  obtain ⟨parent, name, free, rfl⟩ := makeDirectory_eq_ok made
  exact grows_add free.free

theorem grows_ensureDirectory (tree : FileTree) (p : Path) :
    tree.Grows (tree.ensureDirectory p).2 := by
  rw [ensureDirectory]
  split
  case h_1 made => exact grows_of_makeDirectory made
  case h_2 => exact grows_refl tree

theorem grows_makeDirectories (depth : Nat) (tree : FileTree) (p : Path) :
    tree.Grows (makeDirectories depth tree p).2 := by
  fun_induction makeDirectories depth tree p
  case case1 | case3 | case6 => exact grows_refl _
  case case2 made => exact grows_of_makeDirectory made
  case case4 between below ih =>
    rw [below] at ih
    exact ih.trans (grows_ensureDirectory between _)
  case case5 below ih => rwa [below] at ih

theorem grows_createTarget (tree : FileTree) (p : Path) : tree.Grows (tree.createTarget p).2 := by
  rw [createTarget]
  split
  · exact grows_refl tree
  · exact grows_refl tree
  split
  · exact grows_makeDirectories p.components.length tree p
  · exact grows_refl tree

/-! ### Looking without following -/

theorem entry_eq_ok_iff : tree.entry follow p = .ok found ↔
    ∃ place, tree.locate follow p = .ok place ∧ tree.at? place = some found := by
  refine ⟨entry_eq_ok, ?_⟩
  rintro ⟨place, located, there⟩
  simp [entry, located, there, bind, Except.bind]

/-- Where a path leads to a directory, it is one or a link. -/
theorem exists_entry (dir : tree.isDirectory p = true) :
    ∃ found, tree.entry false p = .ok found ∧ (found = .dir ∨ ∃ target, found = .link target) := by
  obtain ⟨place, located, there⟩ := isDirectory_iff.mp dir
  obtain ⟨taken, walked⟩ := locate_eq_ok.mp located
  obtain ⟨other, leads, ends⟩ := (walk_eq_ok.mp walked).unfollowed
  have located' := locate_eq_ok.mpr ⟨taken, walk_eq_ok.mpr leads⟩
  rcases ends with rfl | ⟨target, linked⟩
  · exact ⟨.dir, entry_eq_ok_iff.mpr ⟨other, located', there⟩, .inl rfl⟩
  · exact ⟨.link target, entry_eq_ok_iff.mpr ⟨other, located', linked⟩, .inr ⟨target, rfl⟩⟩

/-- The last piece of a path is among the last steps. -/
theorem exists_steps (some : p.pieces ≠ []) :
    ∃ rest, rest ≠ [] ∧ steps p = p.pieces.dropLast ++ rest := by
  have whole := (List.dropLast_append_getLast some).symm
  rw [steps]
  split
  · exact ⟨[p.pieces.getLast some, "."], by simp, by nth_rewrite 1 [whole]; simp⟩
  · exact ⟨[p.pieces.getLast some], by simp, whole⟩

/-- Where a path leads somewhere, no directory is missing for making one there. -/
theorem not_isNotFound {failure : Failure} (dir : tree.isDirectory p = true)
    (failed : tree.makeDirectory p = .error failure) : failure.isNotFound = false := by
  obtain ⟨place, located, there⟩ := isDirectory_iff.mp dir
  obtain ⟨taken, walked⟩ := locate_eq_ok.mp located
  rw [makeDirectory] at failed
  simp only [taken, bind, Except.bind] at failed
  split at failed
  case h_1 =>
    obtain rfl := Except.error.inj failed
    rfl
  case h_2 piece ending =>
  have some : p.pieces ≠ [] := by
    intro none
    simp [none] at ending
  obtain ⟨rest, more, whole⟩ := exists_steps some
  rw [whole] at walked
  obtain ⟨above, left, before, -⟩ := (walk_eq_ok.mp walked).exists_between more
  simp only [walk_eq_ok.mpr before] at failed
  split at failed
  · obtain rfl := Except.error.inj failed
    rfl
  split at failed
  case h_2 =>
    obtain rfl := Except.error.inj failed
    rfl
  split at failed
  · obtain rfl := Except.error.inj failed
    rfl
  split at failed
  · obtain rfl := Except.error.inj failed
    rfl
  · cases failed

/-! ### Paths without `..` -/

/-- There is a directory above every entry. -/
def IsRooted (tree : FileTree) : Prop :=
  ∀ ⦃place name entry⦄, tree.at? (place ++ [name]) = some entry → tree.at? place = some .dir

/-- The path is absolute and has nothing but these names. -/
structure Names (p : Path) (names : List String) : Prop where
  components : p.components = .root :: names.map .name
  named : ∀ name ∈ names, IsName name

theorem exists_names (absolute : p.isAbsolute = true) (level : .up ∉ p.components) :
    ∃ names, Names p names := by
  have components : p.components = .root :: (p.pieces.map component).filter (· != .here) := by
    rw [Path.components, if_pos absolute]
  rw [components] at level
  have named : ∀ piece ∈ p.pieces.filter (component · != .here), IsName piece := by
    intro piece hp
    obtain ⟨cut, other⟩ := List.mem_filter.mp hp
    refine ⟨Path.isPiece_of_mem cut, ?_⟩
    cases hc : component piece with
    | root => exact absurd hc (Path.component_ne_root piece)
    | here => simp [hc] at other
    | up =>
      have above : Component.up ∈ (p.pieces.map component).filter (· != .here) :=
        List.mem_filter.mpr ⟨List.mem_map.mpr ⟨piece, cut, hc⟩, rfl⟩
      exact absurd (List.mem_cons_of_mem _ above) level
    | name text => rw [Path.component_eq_name hc]
  refine ⟨p.pieces.filter (component · != .here), ?_, named⟩
  rw [components, List.filter_map]
  exact congrArg (.root :: ·) (List.map_congr_left fun piece hp => (named piece hp).2)

theorem names_pathOf (named : ∀ name ∈ front, IsName name) : Names (pathOf front) front :=
  ⟨Path.components_pathOf named, named⟩

theorem Names.fewer (h : Names p names) : Fewer (steps p) names :=
  fewer_of_names ((filter_steps p).trans (Path.filter_pieces_of_components h.components))

/-- Where the steps end with a name it is the last one, and the dots are before it. -/
theorem Names.of_concat {before : List String} {last : String} (h : Names p (front ++ [name]))
    (whole : steps p = before ++ [last]) (named : component last = .name last) :
    last = name ∧ Fewer before front := by
  have same := (filter_steps p).trans (Path.filter_pieces_of_components h.components)
  rw [whole, List.map_append, List.filter_append, List.map_append] at same
  obtain ⟨dots, ends⟩ := List.append_inj' same (by simp [named])
  exact ⟨by simpa [named] using ends, fewer_of_names dots⟩

theorem ofComponents_names (front : List String) :
    Path.ofComponents (.root :: front.map .name) = pathOf front := by
  cases front with
  | nil => rfl
  | cons first rest =>
    rw [List.map_cons, Path.ofComponents, pathOf]
    · refine congrArg Path.mk (String.toList_inj.mp ?_)
      simp [String.toList_intercalate, Path.Component.piece, List.intercalate, Function.comp_def]
    · simp

/-- Above the last name are the other names. -/
theorem Names.parent? (h : Names p (front ++ [name])) : p.parent? = some (pathOf front) := by
  have split : p.components = (.root :: front.map .name) ++ [.name name] := by
    rw [h.components]
    simp
  have last : p.components.dropLast = .root :: front.map .name := by
    rw [split, List.dropLast_concat]
  rw [Path.parent?]
  split
  case h_1 none | h_2 none => simp [h.components] at none
  case h_3 => rw [last, ofComponents_names]

/-- Below a directory that is new there are new directories only. -/
theorem Leads.below_new (rooted : tree.IsRooted) (grown : tree.Grows more)
    (new : tree.at? above = none) (named : component name = .name name)
    (leads : more.Leads follow links [name] above place) :
    place = above ++ [name] ∧ more.at? place = some .dir ∧ tree.at? place = none := by
  have free : tree.at? (above ++ [name]) = none := by
    by_contra old
    obtain ⟨entry, old⟩ := Option.ne_none_iff_exists'.mp old
    cases new.symm.trans (rooted old)
  have dir {entry : Entry} (there : more.at? (above ++ [name]) = some entry) : entry = .dir := by
    by_contra other
    cases free.symm.trans (grown.at?_of_ne there other)
  cases leads with
  | dot here => cases named.symm.trans here
  | up above => cases named.symm.trans above
  | dir _ _ there later =>
    cases later
    exact ⟨rfl, there, free⟩
  | file _ _ there | stop _ _ _ there | link _ _ _ there => cases dir there

/-- Where a walk stops at a link, the link is the name at its end. -/
theorem Leads.ends_at_link (leads : tree.Leads true links todo start place)
    (leads' : tree.Leads false links todo start other) (dir : tree.at? place = some .dir)
    (linked : tree.at? other = some (.link target)) :
    ∃ before name above left, todo = before ++ [name] ∧ component name = .name name ∧
      tree.Leads true links before start above ∧ tree.Leads false left [name] above other := by
  have apart : place ≠ other := by
    rintro rfl
    cases dir.symm.trans linked
  rcases List.eq_nil_or_concat' todo with rfl | ⟨before, last, rfl⟩
  · cases leads
    cases leads'
    exact absurd rfl apart
  obtain ⟨above, left, first, second⟩ := leads.exists_between (by simp)
  obtain ⟨above', left', first', second'⟩ := leads'.exists_between (by simp)
  obtain rfl := first.agree (grows_refl tree) (grows_refl tree) first'
  cases second' with
  | dot here later =>
    cases later
    cases second with
    | dot _ later =>
      cases later
      exact absurd rfl apart
    | up above => cases here.symm.trans above
    | dir named | file named | link _ named => cases here.symm.trans named
    | stop last => cases last
  | up above later =>
    cases later
    cases second with
    | dot here => cases above.symm.trans here
    | up _ later =>
      cases later
      exact absurd rfl apart
    | dir named | file named | link _ named => cases above.symm.trans named
    | stop last => cases last
  | dir _ _ there later =>
    cases later
    cases there.symm.trans linked
  | file _ _ there => cases there.symm.trans linked
  | stop _ named short there =>
    exact ⟨before, last, _, left', rfl, named, first, .stop rfl named short there⟩
  | link goes => simp at goes

/-- A path leads to a directory that is new, and not by a link at its end. -/
def IsNew (tree more : FileTree) (p : Path) : Prop :=
  ∃ place, (∀ follow, more.locate follow p = .ok place) ∧ more.at? place = some .dir ∧
    tree.at? place = none

/-- A directory below a new one is new. -/
theorem isNew_below (rooted : tree.IsRooted) (grown : tree.Grows more)
    (names : Names p (front ++ [name])) (new : IsNew tree more (pathOf front))
    (dir : more.isDirectory p = true) : IsNew tree more p := by
  obtain ⟨above, located, -, free⟩ := new
  have named : component name = .name name := (names.named name (by simp)).2
  have front_leads : more.Leads true maxLinks front [] above :=
    (walk_eq_ok.mp (locate_eq_ok.mp (located true)).2).fewer
      (names_pathOf fun other ho => names.named other (by simp [ho])).fewer
  obtain ⟨place, located', there⟩ := isDirectory_iff.mp dir
  obtain ⟨taken, walked⟩ := locate_eq_ok.mp located'
  have leads := walk_eq_ok.mp walked
  -- the same walk without its dots comes by the new directory
  have new : place = above ++ [name] ∧ more.at? place = some .dir ∧ tree.at? place = none := by
    obtain ⟨above', left, before, last⟩ := (leads.fewer names.fewer).exists_between (by simp)
    obtain rfl := front_leads.agree (grows_refl more) (grows_refl more) before
    exact last.below_new rooted grown free named
  obtain ⟨other, leads', ends⟩ := leads.unfollowed
  have same : other = place := by
    refine ends.resolve_right ?_
    rintro ⟨target, linked⟩
    obtain ⟨before, last, above', left, whole, isName, first, second⟩ :=
      leads.ends_at_link leads' there linked
    obtain ⟨rfl, dots⟩ := names.of_concat whole isName
    obtain rfl := front_leads.agree (grows_refl more) (grows_refl more) (first.fewer dots)
    cases linked.symm.trans (second.below_new rooted grown free named).2.1
  subst same
  refine ⟨other, fun follow => ?_, new.2⟩
  cases follow with
  | true => exact located'
  | false => exact locate_eq_ok.mpr ⟨taken, walk_eq_ok.mpr leads'⟩

theorem Names.same_empty (h : Names p names) : p.same ⟨""⟩ = false := by
  refine Bool.eq_false_iff.mpr fun same => ?_
  have none : p.components = [] := Path.same_iff.mp same
  cases none.symm.trans h.components

/-- Where directories are made for a path without `..`, the last one is new, unless there was one
already. -/
theorem isNew_of_makeDirectories {depth : Nat} (rooted : tree.IsRooted) (h : Names p names)
    (made : makeDirectories depth tree p = (.ok (), more)) : more = tree ∨ IsNew tree more p := by
  induction depth using Nat.strong_induction_on generalizing p names more with
  | _ depth ih =>
    rcases makeDirectories_eq_ok h.same_empty made with made | ⟨-, rfl⟩ | ⟨missing, below⟩
    · exact .inr (locate_of_makeDirectory made)
    · exact .inl rfl
    obtain ⟨failure, failed, notFound⟩ := missing
    obtain ⟨less, parent, between, rfl, above, first, second⟩ := below
    rcases List.eq_nil_or_concat' names with rfl | ⟨front, name, rfl⟩
    · simp [Path.parent?, h.components] at above
    obtain rfl := Option.some.inj (h.parent?.symm.trans above)
    have named : ∀ other ∈ front, IsName other := fun other ho => h.named other (by simp [ho])
    have grown : tree.Grows between := by
      simpa [first] using grows_makeDirectories less tree (pathOf front)
    rcases ensureDirectory_eq_ok second with made | ⟨dir, rfl⟩
    · obtain ⟨place, located, there, free⟩ := locate_of_makeDirectory made
      exact .inr ⟨place, located, there, grown.eq_none free⟩
    · rcases ih less (Nat.lt_succ_self less) (names_pathOf named) first with rfl | new
      · -- a directory cannot be missing for one that is there
        cases notFound.symm.trans (not_isNotFound dir failed)
      · exact .inr (isNew_below rooted grown h new dir)

/-- Where a directory is missing it is made after its parent. -/
theorem makeDirectories_of_missing {depth : Nat} {parent : Path} {failure : Failure}
    (some : p.same ⟨""⟩ = false) (failed : tree.makeDirectory p = .error failure)
    (missing : failure.isNotFound = true) (above : p.parent? = .some parent)
    (first : makeDirectories depth tree parent = (.ok (), more)) :
    makeDirectories (depth + 1) tree p = more.ensureDirectory p := by
  rw [makeDirectories.eq_def, if_neg (by simp [some]), failed]
  simp [missing, above, first]

theorem ensureDirectory_of_isDirectory {failure : Failure}
    (failed : tree.makeDirectory p = .error failure) (dir : tree.isDirectory p = true) :
    tree.ensureDirectory p = (.ok (), tree) := by
  rw [ensureDirectory, failed]
  simp [dir]

/-! ### Targets -/

/-- With more directories the path can come to name a link. -/
def MayLink (tree : FileTree) (p : Path) : Prop :=
  ∃ more target, tree.Grows more ∧ more.entry false p = .ok (.link target)

/-- Looking at a path finds one thing, however directories were added. -/
theorem Grows.entry_eq (h : tree.Grows more) (h' : tree.Grows after)
    (there : more.entry follow p = .ok found) (there' : after.entry follow p = .ok found') :
    found = found' := by
  obtain ⟨place, located, standing⟩ := entry_eq_ok_iff.mp there
  obtain ⟨other, located', standing'⟩ := entry_eq_ok_iff.mp there'
  have leads := walk_eq_ok.mp (locate_eq_ok.mp located).2
  have leads' := walk_eq_ok.mp (locate_eq_ok.mp located').2
  obtain rfl := leads.agree h h' leads'
  exact h.found_eq h' standing standing'

/-- What making a target comes to: the result and the tree after it. -/
structure MakesTarget (tree : FileTree) (p : Path) (result : Except MountError Unit)
    (after : FileTree) : Prop where
  /-- Nothing is gone or changed and only directories are new, whatever is returned. -/
  grown : tree.Grows after
  /-- A directory is taken as it is. -/
  present : tree.entry false p = .ok .dir → result = .ok () ∧ after = tree
  /-- Something else than a directory is refused, a link to one too. -/
  refused : ∀ found, tree.entry false p = .ok found → found ≠ .dir →
    result = .error (.notADirectory p) ∧ after = tree
  /-- A target that was made is a directory itself, and there when it is made again. -/
  settled : result = .ok () → ¬tree.MayLink p →
    after.entry false p = .ok .dir ∧ after.createTarget p = (.ok (), after)
  /-- A path that comes to name a link is made as well, and refused when it is made again. -/
  linked : result = .ok () → tree.MayLink p →
    ∃ target, after.entry false p = .ok (.link target) ∧
      after.createTarget p = (.error (.notADirectory p), after)
  /-- Without `..` the path of a target that was made does not come to name a link. -/
  level : tree.IsRooted → .up ∉ p.components → result = .ok () → ¬tree.MayLink p

/-- A target that was made at a path without `..` is a directory itself. -/
theorem entry_of_level (rooted : tree.IsRooted) (names : Names p names)
    (made : tree.createTarget p = (.ok (), after)) : after.entry false p = .ok .dir := by
  rcases createTarget_eq_ok made with ⟨found, rfl⟩ | ⟨failure, missing, made⟩
  · exact found
  rcases isNew_of_makeDirectories rooted names made with rfl | ⟨place, located, dir, -⟩
  · obtain ⟨found, there, -⟩ := exists_entry (isDirectory_of_makeDirectories names.same_empty made)
    cases missing.symm.trans there
  · exact entry_eq_ok_iff.mpr ⟨place, located false, dir⟩

/-- A target is made on any tree for any absolute path, without harm; what was made is settled,
unless its path comes to name a link, which only a path with `..` can. -/
theorem createTarget_makes (tree : FileTree) (absolute : p.isAbsolute = true) :
    MakesTarget tree p (tree.createTarget p).1 (tree.createTarget p).2 := by
  have grown := grows_createTarget tree p
  have text : p.text ≠ "" := by
    intro empty
    simp [Path.isAbsolute, empty] at absolute
  constructor
  case grown => exact grown
  case present =>
    intro there
    rw [createTarget, there]
    exact ⟨rfl, rfl⟩
  case refused =>
    intro found there other
    rw [createTarget, there]
    cases found with
    | dir => exact absurd rfl other
    | file | link => exact ⟨rfl, rfl⟩
  case settled =>
    intro made settled
    obtain ⟨found, there, dir | ⟨target, linked⟩⟩ :=
      exists_entry (isDirectory_of_createTarget (Prod.ext made rfl) text)
    · subst dir
      exact ⟨there, by rw [createTarget, there]⟩
    · subst linked
      exact absurd ⟨_, target, grown, there⟩ settled
  case linked =>
    rintro made ⟨more, target, grown', linked⟩
    obtain ⟨found, there, -⟩ := exists_entry (isDirectory_of_createTarget (Prod.ext made rfl) text)
    obtain rfl := grown'.entry_eq grown linked there
    exact ⟨target, there, by rw [createTarget, there]⟩
  case level =>
    rintro rooted level made ⟨more, target, grown', linked⟩
    obtain ⟨names, h⟩ := exists_names absolute level
    cases grown'.entry_eq grown linked (entry_of_level rooted h (Prod.ext made rfl))

/-- A directory and a link to it. -/
def linkedTree : FileTree := ⟨[(["d"], .dir), (["l"], .link "/d")]⟩

theorem isRooted_linkedTree : linkedTree.IsRooted := by
  intro place name entry there
  have listed : (place ++ [name], entry) ∈ linkedTree.entries := by
    rw [at?, if_neg (by simp)] at there
    obtain ⟨before, later, whole, -⟩ := List.lookup_eq_some_iff.mp there
    simp [whole]
  have top : place = [] := by
    simp only [linkedTree, List.mem_cons, Prod.mk.injEq, List.not_mem_nil, or_false,
      List.append_eq_singleton_iff] at listed
    grind
  rw [top]
  rfl

theorem createTarget_makes_below_link :
    linkedTree.createTarget ⟨"/l/a"⟩ = (.ok (), linkedTree.add ["d", "a"] .dir) ∧
      ¬linkedTree.MayLink ⟨"/l/a"⟩ := by
  have taken : checkText ⟨"/l/a"⟩ = .ok () := rfl
  have steps_eq : steps ⟨"/l/a"⟩ = ["l", "a"] := rfl
  have missing : linkedTree.entry false ⟨"/l/a"⟩ = .error (.system .noEntry) := by
    rw [entry, locate, taken, steps_eq]
    cbv
  have here : linkedTree.makeDirectory ⟨"/l/a"⟩ = .ok (linkedTree.add ["d", "a"] .dir) := by
    rw [makeDirectory, taken]
    cbv
  have made : linkedTree.createTarget ⟨"/l/a"⟩ = (.ok (), linkedTree.add ["d", "a"] .dir) := by
    rw [createTarget, missing, makeDirectories.eq_def, here]
    rfl
  have makes := createTarget_makes linkedTree (p := ⟨"/l/a"⟩) rfl
  rw [made] at makes
  exact ⟨made, makes.level isRooted_linkedTree (by decide) rfl⟩

/-- The directory above `..` is made, and `..` is there then. -/
theorem makeDirectories_linkedTree :
    makeDirectories 3 linkedTree ⟨"/x/.."⟩ = (.ok (), linkedTree.add ["x"] .dir) := by
  have top : makeDirectories 2 linkedTree ⟨"/x"⟩ = (.ok (), linkedTree.add ["x"] .dir) := by
    have made : linkedTree.makeDirectory ⟨"/x"⟩ = .ok (linkedTree.add ["x"] .dir) := by
      rw [makeDirectory, show checkText ⟨"/x"⟩ = .ok () from rfl]
      cbv
    rw [makeDirectories.eq_def, made]
    rfl
  have taken : checkText ⟨"/x/.."⟩ = .ok () := rfl
  have steps_eq : steps ⟨"/x/.."⟩ = ["x", ".."] := rfl
  have failed : linkedTree.makeDirectory ⟨"/x/.."⟩ = .error (.system .noEntry) := by
    rw [makeDirectory, taken]
    cbv
  have again : (linkedTree.add ["x"] .dir).makeDirectory ⟨"/x/.."⟩ = .error (.system .exists) := by
    rw [makeDirectory, taken]
    cbv
  have dir : (linkedTree.add ["x"] .dir).isDirectory ⟨"/x/.."⟩ = true := by
    rw [isDirectory, entry, locate, taken, steps_eq]
    cbv
  rw [makeDirectories_of_missing rfl failed rfl (by cbv) top]
  exact ensureDirectory_of_isDirectory again dir

/-- The link is not found before the directory above `..` is made, and then it passes for the
target; it is refused when the target is made again. -/
theorem createTarget_link :
    linkedTree.createTarget ⟨"/x/../l"⟩ = (.ok (), linkedTree.add ["x"] .dir) ∧
      (linkedTree.add ["x"] .dir).entry false ⟨"/x/../l"⟩ = .ok (.link "/d") ∧
      (linkedTree.add ["x"] .dir).createTarget ⟨"/x/../l"⟩ =
        (.error (.notADirectory ⟨"/x/../l"⟩), linkedTree.add ["x"] .dir) := by
  have taken : checkText ⟨"/x/../l"⟩ = .ok () := rfl
  have steps_eq : steps ⟨"/x/../l"⟩ = ["x", "..", "l"] := rfl
  have missing : linkedTree.entry false ⟨"/x/../l"⟩ = .error (.system .noEntry) := by
    rw [entry, locate, taken, steps_eq]
    cbv
  have failed : linkedTree.makeDirectory ⟨"/x/../l"⟩ = .error (.system .noEntry) := by
    rw [makeDirectory, taken]
    cbv
  have again :
      (linkedTree.add ["x"] .dir).makeDirectory ⟨"/x/../l"⟩ = .error (.system .exists) := by
    rw [makeDirectory, taken]
    cbv
  have dir : (linkedTree.add ["x"] .dir).isDirectory ⟨"/x/../l"⟩ = true := by
    rw [isDirectory, entry, locate, taken, steps_eq]
    cbv
  have linked : (linkedTree.add ["x"] .dir).entry false ⟨"/x/../l"⟩ = .ok (.link "/d") := by
    rw [entry, locate, taken, steps_eq]
    cbv
  have made : makeDirectories 4 linkedTree ⟨"/x/../l"⟩ = (.ok (), linkedTree.add ["x"] .dir) := by
    rw [makeDirectories_of_missing rfl failed rfl (by cbv) makeDirectories_linkedTree]
    exact ensureDirectory_of_isDirectory again dir
  have depth : (⟨"/x/../l"⟩ : Path).components.length = 4 := by cbv
  refine ⟨?_, linked, ?_⟩
  · rw [createTarget, missing, depth, made]
    rfl
  · rw [createTarget, linked]

end BlockVolume.Host.FileTree
