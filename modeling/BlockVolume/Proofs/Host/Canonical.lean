import BlockVolume.Host.Target
import BlockVolume.Proofs.Mount.Table
import BlockVolume.Proofs.Text.Cutting
/-!
Paths that are their own link-free form.

A walk that ends at a directory has come through directories alone, whatever links it followed on
the way: the names of the place where it ends lead there straight. So a path that is the path of
that place, but for slashes and dots, leads there without following anything.
-/

namespace BlockVolume

namespace Path

/-- A text that can stand between slashes. -/
def IsPiece (piece : String) : Prop := piece ≠ "" ∧ '/' ∉ piece.toList

/-- The name of an entry: a piece that is no dot. -/
def IsName (name : String) : Prop := IsPiece name ∧ component name = .name name

theorem isPiece_of_mem {p : Path} {piece : String} (h : piece ∈ p.pieces) : IsPiece piece := by
  obtain ⟨cs, hc, rfl⟩ := List.mem_map.mp h
  obtain ⟨cut, some⟩ := List.mem_filter.mp hc
  constructor
  · simpa using some
  · intro slash
    have := Text.eq_false_of_mem_splitOnP cut '/' (by simpa using slash)
    simp at this

theorem component_ne_root (piece : String) : component piece ≠ .root := by
  rw [component]
  split
  · simp
  · split <;> simp

theorem component_eq_name {piece name : String} (h : component piece = .name name) :
    name = piece := by
  rw [component] at h
  split at h
  · cases h
  · split at h
    · cases h
    · exact (Component.name.inj h).symm

/-- The components of the path of a place are its names. -/
theorem components_pathOf {place : Host.Location} (names : ∀ name ∈ place, IsName name) :
    (Host.FileTree.pathOf place).components = .root :: place.map .name := by
  have text : (Host.FileTree.pathOf place).text.toList =
      '/' :: ['/'].intercalate (place.map String.toList) := by
    simp [Host.FileTree.pathOf, String.toList_intercalate]
  have cut : ((Text.splitOnP (· == '/') (['/'].intercalate (place.map String.toList))).filter
      fun piece => !piece.isEmpty) = place.map String.toList := by
    cases place with
    | nil => rfl
    | cons first rest =>
      rw [Text.splitOnP_intercalate (by decide) (by simp)]
      · refine List.filter_eq_self.mpr fun piece hp => ?_
        obtain ⟨name, hn, rfl⟩ := List.mem_map.mp hp
        simpa using (names name hn).1.1
      · intro piece hp c hc
        obtain ⟨name, hn, rfl⟩ := List.mem_map.mp hp
        exact beq_false_of_ne fun slash => (names name hn).1.2 (slash ▸ hc)
  have pieces : (Host.FileTree.pathOf place).pieces = place := by
    rw [Path.pieces, text, Text.splitOnP]
    simp only [beq_self_eq_true, if_true, List.filter_cons, List.isEmpty_nil, Bool.not_true,
      Bool.false_eq_true, if_false, cut, List.map_map]
    simp [Function.comp_def]
  have steps : place.map component = place.map .name :=
    List.map_congr_left fun name hn => (names name hn).2
  have inner : (place.map Component.name).filter (· != .here) = place.map .name :=
    List.filter_eq_self.mpr fun step hs => by
      obtain ⟨name, -, rfl⟩ := List.mem_map.mp hs
      rfl
  rw [components, pieces, steps, inner, if_pos (by simp [isAbsolute, text])]

/-- A path whose components are the root and some names has no pieces but these names and dots. -/
theorem filter_pieces_of_components {p : Path} {names : List String}
    (h : p.components = .root :: names.map .name) :
    (p.pieces.map component).filter (· != .here) = names.map .name := by
  rw [components] at h
  split at h
  case isTrue => exact (List.cons.inj h).2
  case isFalse =>
    split at h
    case isTrue => cases (List.cons.inj h).1
    case isFalse =>
      have root : Component.root ∈ (p.pieces.map component).filter (· != .here) := by
        simp [h]
      obtain ⟨piece, -, heq⟩ := List.mem_map.mp (List.mem_filter.mp root).1
      exact absurd heq (component_ne_root piece)

end Path

namespace Host.FileTree

open BlockVolume.Path (IsName IsPiece component)

variable {tree : FileTree} {follow : Bool} {place start : Location} {target : Path}

/-- A place to which its names lead straight, through directories alone. -/
structure Straight (tree : FileTree) (place : Location) : Prop where
  names : ∀ name ∈ place, IsName name ∧ name.utf8ByteSize ≤ maxNameBytes
  dirs : ∀ front, front <+: place → tree.at? front = some .dir

theorem straight_nil : Straight tree [] :=
  ⟨by simp, fun front hf => by rw [List.prefix_nil.mp hf]; rfl⟩

theorem Straight.dropLast (h : Straight tree place) : Straight tree place.dropLast where
  names name hn := h.names name (List.dropLast_subset _ hn)
  dirs front hf := h.dirs front (hf.trans (List.dropLast_prefix _))

theorem Straight.snoc (h : Straight tree place) {name : String} (hn : IsName name)
    (short : name.utf8ByteSize ≤ maxNameBytes) (dir : tree.at? (place ++ [name]) = some .dir) :
    Straight tree (place ++ [name]) where
  names other ho := by
    rcases List.mem_append.mp ho with ho | ho
    · exact h.names other ho
    · obtain rfl := List.mem_singleton.mp ho
      exact ⟨hn, short⟩
  dirs front hf := by
    rcases List.prefix_concat_iff.mp hf with rfl | hf
    · exact dir
    · exact h.dirs front hf

theorem isPiece_of_mem_steps {p : Path} {piece : String} (h : piece ∈ steps p) : IsPiece piece := by
  have dot : IsPiece "." := ⟨by decide, by decide⟩
  rw [steps] at h
  split at h
  · rcases List.mem_append.mp h with h | h
    · exact Path.isPiece_of_mem h
    · exact List.mem_singleton.mp h ▸ dot
  · exact Path.isPiece_of_mem h

/-- A walk that comes to a directory from a place that is straight comes to one that is. -/
theorem straight_of_walk {links : Nat} {todo : List String}
    (walked : tree.walk follow links todo start = .ok place)
    (pieces : ∀ piece ∈ todo, IsPiece piece) (h : Straight tree start)
    (dir : tree.at? place = some .dir) : Straight tree place := by
  fun_induction walk tree follow links todo start
  case case1 =>
    obtain rfl := Except.ok.inj walked
    exact h
  case case2 ih => exact ih walked (List.forall_mem_cons.mp pieces).2 h.dropLast
  case case3 | case4 | case7 | case9 | case10 => cases walked
  case case5 piece rest name named short found ih =>
    obtain rfl := Path.component_eq_name named
    have own : IsName name := ⟨pieces name List.mem_cons_self, named⟩
    exact ih walked (List.forall_mem_cons.mp pieces).2
      (h.snoc own (Nat.le_of_not_lt short) found)
  case case6 found _ | case8 found _ =>
    -- what the walk came to is no directory
    obtain rfl := Except.ok.inj walked
    rw [found] at dir
    cases dir
  case case11 links _ target _ _ _ _ _ ih =>
    refine ih walked (fun piece hp => ?_) ?_
    · rcases List.mem_append.mp hp with hp | hp
      · exact isPiece_of_mem_steps hp
      · exact (List.forall_mem_cons.mp pieces).2 piece hp
    · split
      · exact straight_nil
      · exact h
  case case12 ih => exact ih walked (List.forall_mem_cons.mp pieces).2 h

/-- To a straight place its names lead, dots or no dots, and whether links are followed or not. -/
theorem walk_of_straight {links : Nat} {todo names : List String}
    (h : Straight tree (start ++ names))
    (steps : (todo.map component).filter (· != .here) = names.map .name) :
    tree.walk follow links todo start = .ok (start ++ names) := by
  induction todo generalizing start names with
  | nil =>
    obtain rfl := List.map_eq_nil_iff.mp steps.symm
    rw [walk, List.append_nil]
  | cons piece rest ih =>
    rw [List.map_cons] at steps
    cases hc : component piece with
    | root => exact absurd hc (Path.component_ne_root piece)
    | here =>
      rw [hc, List.filter_cons_of_neg (by simp)] at steps
      rw [walk, hc]
      exact ih h steps
    | up =>
      rw [hc, List.filter_cons_of_pos (by simp)] at steps
      cases names with
      | nil => cases steps
      | cons name names => cases (List.cons.inj steps).1
    | name name =>
      rw [hc, List.filter_cons_of_pos (by simp)] at steps
      cases names with
      | nil => cases steps
      | cons other names =>
        obtain ⟨same, later⟩ := List.cons.inj steps
        obtain rfl := Path.Component.name.inj same
        have split : start ++ name :: names = start ++ [name] ++ names := by simp
        have short := (h.names name (by simp)).2
        have dir : tree.at? (start ++ [name]) = some .dir :=
          h.dirs _ (split ▸ List.prefix_append _ _)
        rw [split] at h ⊢
        rw [walk, hc]
        simp only [if_neg (Nat.not_lt_of_le short), dir]
        exact ih h later

/-- Finding a location is a walk, if the text is one that the system takes. -/
theorem locate_eq_ok :
    tree.locate follow target = .ok place ↔
      checkText target = .ok () ∧ tree.walk follow maxLinks (steps target) [] = .ok place := by
  rw [locate]
  cases checkText target with
  | error failure => simp [bind, Except.bind]
  | ok => simp [bind, Except.bind]

theorem isDirectory_iff :
    tree.isDirectory target = true ↔
      ∃ place, tree.locate true target = .ok place ∧ tree.at? place = some .dir := by
  rw [isDirectory, entry]
  cases tree.locate true target with
  | error failure => simp [bind, Except.bind]
  | ok place =>
    cases ha : tree.at? place with
    | none => simp [bind, Except.bind, ha]
    | some found => cases found <;> simp [bind, Except.bind, ha]

/-- The steps of a path are its pieces and dots. -/
theorem filter_steps (p : Path) :
    ((steps p).map component).filter (· != .here) =
      (p.pieces.map component).filter (· != .here) := by
  rw [steps]
  split
  · rw [List.map_append, List.filter_append]
    exact List.append_nil _
  · rfl

/-- A target that is a directory and its own link-free form is a directory without following links,
and so it is there already where it is to be made. -/
theorem createTarget_of_canonical {form : Path} (dir : tree.isDirectory target = true)
    (canonical : tree.canonical? target = some form) (same : form.same target = true) :
    tree.createTarget target = (.ok (), tree) := by
  obtain ⟨place, located, standing⟩ := isDirectory_iff.mp dir
  have form_eq : form = pathOf place := by
    rw [canonical?, located] at canonical
    exact (Option.some.inj canonical).symm
  obtain ⟨taken, walked⟩ := locate_eq_ok.mp located
  have straight : Straight tree place :=
    straight_of_walk walked (fun _ => isPiece_of_mem_steps) straight_nil standing
  have components : target.components = .root :: place.map .name := by
    rw [← Path.same_iff.mp same, form_eq]
    exact Path.components_pathOf fun name hn => (straight.names name hn).1
  have names := (filter_steps target).trans (Path.filter_pieces_of_components components)
  have again : tree.walk false maxLinks (steps target) [] = .ok ([] ++ place) :=
    walk_of_straight straight names
  have found : tree.locate false target = .ok place := locate_eq_ok.mpr ⟨taken, again⟩
  have entry : tree.entry false target = .ok .dir := by
    rw [entry, found]
    simp [bind, Except.bind, standing]
  rw [createTarget, entry]

end Host.FileTree
end BlockVolume
