import BlockVolume.Proofs.Host.Creation
/-!
Where walks lead, as a relation.

`Leads` has one case for each thing that can stand at the next step of a walk that arrives. So a
walk with more to do comes by where its first part leads, dots can be left out, and a walk that
follows no link at its end comes to the same place or to a link.
-/

namespace BlockVolume.Host.FileTree

open BlockVolume.Path (component)

variable {tree more : FileTree} {follow : Bool} {links : Nat} {todo less rest : List String}
  {place other final start : Location} {piece target : String}

/-- What there is to do leads from the directory `place` to where the walk ends. -/
inductive Leads (tree : FileTree) (follow : Bool) :
    Nat → List String → Location → Location → Prop
  | done {links : Nat} {place : Location} : Leads tree follow links [] place place
  | dot {links : Nat} {piece : String} {rest : List String} {place final : Location}
      (here : component piece = .here) (later : Leads tree follow links rest place final) :
      Leads tree follow links (piece :: rest) place final
  | up {links : Nat} {piece : String} {rest : List String} {place final : Location}
      (above : component piece = .up) (later : Leads tree follow links rest place.dropLast final) :
      Leads tree follow links (piece :: rest) place final
  | dir {links : Nat} {piece : String} {rest : List String} {place final : Location}
      (named : component piece = .name piece) (short : ¬piece.utf8ByteSize > maxNameBytes)
      (found : tree.at? (place ++ [piece]) = some .dir)
      (later : Leads tree follow links rest (place ++ [piece]) final) :
      Leads tree follow links (piece :: rest) place final
  | file {links : Nat} {piece : String} {place : Location}
      (named : component piece = .name piece) (short : ¬piece.utf8ByteSize > maxNameBytes)
      (found : tree.at? (place ++ [piece]) = some .file) :
      Leads tree follow links [piece] place (place ++ [piece])
  | stop {links : Nat} {piece target : String} {place : Location} (last : follow = false)
      (named : component piece = .name piece) (short : ¬piece.utf8ByteSize > maxNameBytes)
      (found : tree.at? (place ++ [piece]) = some (.link target)) :
      Leads tree follow links [piece] place (place ++ [piece])
  | link {links : Nat} {piece target : String} {rest : List String} {place final : Location}
      (goes : follow = true ∨ rest ≠ [])
      (named : component piece = .name piece) (short : ¬piece.utf8ByteSize > maxNameBytes)
      (found : tree.at? (place ++ [piece]) = some (.link target)) (some : target ≠ "")
      (later : Leads tree follow links (steps ⟨target⟩ ++ rest)
        (if Path.isAbsolute ⟨target⟩ then [] else place) final) :
      Leads tree follow (links + 1) (piece :: rest) place final

theorem leads_of_walk (walked : tree.walk follow links todo start = .ok final) :
    tree.Leads follow links todo start final := by
  fun_induction walk tree follow links todo start
  case case1 =>
    obtain rfl := Except.ok.inj walked
    exact .done
  case case2 up ih => exact .up up (ih walked)
  case case3 | case4 | case7 | case9 | case10 => cases walked
  case case5 named short found ih =>
    obtain rfl := Path.component_eq_name named
    exact .dir named short found (ih walked)
  case case6 named short found last =>
    obtain rfl := Path.component_eq_name named
    obtain rfl := Except.ok.inj walked
    obtain rfl := List.isEmpty_iff.mp last
    exact .file named short found
  case case8 named short target found last =>
    obtain rfl := Path.component_eq_name named
    obtain rfl := Except.ok.inj walked
    obtain ⟨rfl, unfollowed⟩ : _ = [] ∧ follow = false := by simpa using last
    exact .stop unfollowed named short found
  case case11 piece rest name named short target found goes links some ih =>
    obtain rfl := Path.component_eq_name named
    have ahead : follow = true ∨ rest ≠ [] := by
      cases follow
      · exact .inr (by simpa using goes)
      · exact .inl rfl
    exact .link ahead named short found (by simpa using some) (ih walked)
  case case12 piece rest up name ih =>
    refine .dot ?_ (ih walked)
    cases hc : component piece with
    | up => exact absurd hc up
    | name text => exact absurd hc (name text)
    | root => exact absurd hc (Path.component_ne_root piece)
    | here => rfl

theorem walk_eq_ok :
    tree.walk follow links todo start = .ok final ↔ tree.Leads follow links todo start final := by
  refine ⟨leads_of_walk, ?_⟩
  intro h
  induction h with
  | done => rw [walk]
  | dot here _ ih | up here _ ih =>
    rw [walk, here]
    exact ih
  | dir named short found _ ih =>
    rw [walk, named]
    simpa only [if_neg short, found] using ih
  | file named short found =>
    rw [walk, named]
    simp [if_neg short, found]
  | stop last named short found =>
    rw [walk, named]
    simp [if_neg short, found, last]
  | @link _ _ _ rest _ _ goes named short found some _ ih =>
    have ahead : (rest.isEmpty && !follow) = false := by
      rcases goes with rfl | goes
      · simp
      · simp [goes]
    rw [walk, named]
    simpa [if_neg short, found, ahead, some] using ih

/-! ### More to do, and less -/

/-- A walk with more to do comes by where its first part leads. -/
theorem Leads.exists_between (h : tree.Leads follow links (todo ++ rest) start final)
    (some : rest ≠ []) : ∃ place left, tree.Leads true links todo start place ∧
      tree.Leads follow left rest place final := by
  generalize whole : todo ++ rest = steps at h
  induction h generalizing todo with
  | done => exact absurd (List.append_eq_nil_iff.mp whole).2 some
  | dot here later ih =>
    rcases List.append_eq_cons_iff.mp whole with ⟨rfl, rfl⟩ | ⟨todo, rfl, rfl⟩
    · exact ⟨_, _, .done, .dot here later⟩
    · obtain ⟨place, left, before, after⟩ := ih rfl
      exact ⟨place, left, .dot here before, after⟩
  | up above later ih =>
    rcases List.append_eq_cons_iff.mp whole with ⟨rfl, rfl⟩ | ⟨todo, rfl, rfl⟩
    · exact ⟨_, _, .done, .up above later⟩
    · obtain ⟨place, left, before, after⟩ := ih rfl
      exact ⟨place, left, .up above before, after⟩
  | dir named short found later ih =>
    rcases List.append_eq_cons_iff.mp whole with ⟨rfl, rfl⟩ | ⟨todo, rfl, rfl⟩
    · exact ⟨_, _, .done, .dir named short found later⟩
    · obtain ⟨place, left, before, after⟩ := ih rfl
      exact ⟨place, left, .dir named short found before, after⟩
  | @file links _ _ named short found =>
    rcases List.append_eq_cons_iff.mp whole with ⟨rfl, rfl⟩ | ⟨todo, rfl, none⟩
    · exact ⟨_, links, .done, .file named short found⟩
    · exact absurd (List.append_eq_nil_iff.mp none.symm).2 some
  | @stop links _ _ _ last named short found =>
    rcases List.append_eq_cons_iff.mp whole with ⟨rfl, rfl⟩ | ⟨todo, rfl, none⟩
    · exact ⟨_, links, .done, .stop last named short found⟩
    · exact absurd (List.append_eq_nil_iff.mp none.symm).2 some
  | link goes named short found isText later ih =>
    rcases List.append_eq_cons_iff.mp whole with ⟨rfl, rfl⟩ | ⟨todo, rfl, rfl⟩
    · exact ⟨_, _, .done, .link goes named short found isText later⟩
    · obtain ⟨place, left, before, after⟩ := ih (List.append_assoc _ _ _)
      exact ⟨place, left, .link (.inl rfl) named short found isText before, after⟩

/-- A walk that follows no link at its end comes to where it would come otherwise, or to a link. -/
theorem Leads.unfollowed (h : tree.Leads true links todo start final) :
    ∃ place, tree.Leads false links todo start place ∧
      (place = final ∨ ∃ target, tree.at? place = some (.link target)) := by
  induction h with
  | done => exact ⟨_, .done, .inl rfl⟩
  | dot here _ ih =>
    obtain ⟨place, later, ends⟩ := ih
    exact ⟨place, .dot here later, ends⟩
  | up above _ ih =>
    obtain ⟨place, later, ends⟩ := ih
    exact ⟨place, .up above later, ends⟩
  | dir named short found _ ih =>
    obtain ⟨place, later, ends⟩ := ih
    exact ⟨place, .dir named short found later, ends⟩
  | file named short found => exact ⟨_, .file named short found, .inl rfl⟩
  | stop last => cases last
  | @link _ _ _ rest _ _ _ named short found some _ ih =>
    by_cases goes : rest = []
    · subst goes
      exact ⟨_, .stop rfl named short found, .inr ⟨_, found⟩⟩
    · obtain ⟨place, later, ends⟩ := ih
      exact ⟨place, .link (.inr goes) named short found some later, ends⟩

/-- `less` is `todo` with some of its dots left out. -/
inductive Fewer : List String → List String → Prop
  | nil : Fewer [] []
  | keep {piece : String} {todo less : List String} (h : Fewer todo less) :
      Fewer (piece :: todo) (piece :: less)
  | drop {piece : String} {todo less : List String} (here : component piece = .here)
      (h : Fewer todo less) : Fewer (piece :: todo) less

theorem Fewer.append (h : Fewer todo less) (front : List String) :
    Fewer (front ++ todo) (front ++ less) := by
  induction front with
  | nil => exact h
  | cons piece front ih => exact ih.keep

/-- Without their dots, pieces are the names that their components are. -/
theorem fewer_of_names {names : List String}
    (h : (todo.map component).filter (· != .here) = names.map .name) : Fewer todo names := by
  induction todo generalizing names with
  | nil =>
    obtain rfl := List.map_eq_nil_iff.mp h.symm
    exact .nil
  | cons piece todo ih =>
    rw [List.map_cons] at h
    by_cases here : component piece = .here
    · rw [List.filter_cons_of_neg (by simp [here])] at h
      exact .drop here (ih h)
    · rw [List.filter_cons_of_pos (by simpa using here)] at h
      cases names with
      | nil => cases h
      | cons name names =>
        obtain ⟨named, below⟩ := List.cons.inj h
        obtain rfl := Path.component_eq_name named
        exact (ih below).keep

/-- Dots do not lead anywhere. -/
theorem Leads.fewer (h : tree.Leads true links todo start final) (dots : Fewer todo less) :
    tree.Leads true links less start final := by
  induction h generalizing less with
  | done =>
    cases dots
    exact .done
  | dot here _ ih =>
    cases dots with
    | keep dots => exact .dot here (ih dots)
    | drop _ dots => exact ih dots
  | up above _ ih =>
    cases dots with
    | keep dots => exact .up above (ih dots)
    | drop here => cases above.symm.trans here
  | dir named short found _ ih =>
    cases dots with
    | keep dots => exact .dir named short found (ih dots)
    | drop here => cases named.symm.trans here
  | file named short found =>
    cases dots with
    | keep dots =>
      cases dots
      exact .file named short found
    | drop here => cases named.symm.trans here
  | stop last => cases last
  | link _ named short found some _ ih =>
    cases dots with
    | keep dots => exact .link (.inl rfl) named short found some (ih (dots.append _))
    | drop here => cases named.symm.trans here

end BlockVolume.Host.FileTree
