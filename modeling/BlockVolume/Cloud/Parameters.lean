import BlockVolume.Text.Percent
/-!
Parameters of a control-plane call: each key once, in ascending order.
-/

namespace BlockVolume.Cloud

open BlockVolume.Text

/-- Puts a pair in its place, where it replaces a pair with the same key. -/
def insertPair (key value : String) : List (String × String) → List (String × String)
  | [] => [(key, value)]
  | (k, v) :: rest =>
    if key < k then (key, value) :: (k, v) :: rest
    else if key = k then (key, value) :: rest
    else (k, v) :: insertPair key value rest

theorem mem_insertPair {key value : String} {pair : String × String}
    {pairs : List (String × String)} (h : pair ∈ insertPair key value pairs) :
    pair = (key, value) ∨ pair ∈ pairs := by
  induction pairs with
  | nil => simpa [insertPair] using h
  | cons p rest ih =>
    obtain ⟨k, v⟩ := p
    simp only [insertPair] at h
    split at h
    · simpa using h
    · split at h <;> simp only [List.mem_cons] at h ⊢
      · exact h.imp_right .inr
      · rcases h with h | h
        · exact .inr (.inl h)
        · exact (ih h).imp_right .inr

theorem pairwise_insertPair (key value : String) {pairs : List (String × String)}
    (h : pairs.Pairwise (·.1 < ·.1)) : (insertPair key value pairs).Pairwise (·.1 < ·.1) := by
  induction pairs with
  | nil => simp [insertPair]
  | cons p rest ih =>
    obtain ⟨k, v⟩ := p
    obtain ⟨first, later⟩ := List.pairwise_cons.1 h
    simp only [insertPair]
    split
    · rename_i lt
      refine List.pairwise_cons.2 ⟨fun q hq => ?_, h⟩
      rcases List.mem_cons.1 hq with rfl | hq
      · exact lt
      · exact String.lt_trans lt (first q hq)
    · split
      · rename_i eq
        subst eq
        exact List.pairwise_cons.2 ⟨first, later⟩
      · rename_i notLt ne
        refine List.pairwise_cons.2 ⟨fun q hq => ?_, ih later⟩
        rcases mem_insertPair hq with rfl | hq
        · exact Classical.byContradiction fun not =>
            ne (String.le_antisymm (String.not_lt.1 not) (String.not_lt.1 notLt))
        · exact first q hq

/-- A map from keys to values, listed in ascending order of the keys. -/
structure Parameters where
  pairs : List (String × String)
  sorted : pairs.Pairwise (·.1 < ·.1)

namespace Parameters

/-- No parameters. -/
def empty : Parameters := ⟨[], .nil⟩

/-- Sets a parameter. -/
def insert (parameters : Parameters) (key value : String) : Parameters :=
  ⟨insertPair key value parameters.pairs, pairwise_insertPair key value parameters.sorted⟩

/-- Parameters set one after the other. -/
def ofList (pairs : List (String × String)) : Parameters :=
  pairs.foldl (fun parameters (key, value) => parameters.insert key value) empty

/-- The encoded pairs `key=value`, joined by `&`. -/
def query (parameters : Parameters) : String :=
  "&".intercalate
    (parameters.pairs.map fun (key, value) => Percent.encode key ++ "=" ++ Percent.encode value)

end Parameters
end BlockVolume.Cloud
