import BlockVolume.Proofs.Cloud.SignedUrl
/-!
Different requests sign different texts.

The text that is signed ends in the encoded query, and no `&` stands in what is encoded. So the
method and the query are read off the text, and the parameters off the query: what is signed for one
request is signed for no other.
-/

namespace BlockVolume.Cloud

open BlockVolume.Text

variable {p q : Parameters}

theorem encode_inj {s t : String} : Percent.encode s = Percent.encode t ↔ s = t := by
  refine ⟨fun h => ?_, fun h => h ▸ rfl⟩
  rw [← plainText_encode s, h, plainText_encode]

/-! ### Queries -/

theorem Parameters.ext_pairs (h : p.pairs = q.pairs) : p = q := by
  cases p
  cases h
  rfl

/-- A query is read back as the pairs that are in it. -/
theorem decodedPairs_query (nonempty : p.pairs ≠ []) : decodedPairs p.query = p.pairs := by
  rw [← String.ofList_toList (s := p.query), toList_query, decodedPairs_writtenPair nonempty]

/-- Even a pair of empty texts is written with its equals sign. -/
theorem query_eq_empty : p.query = "" ↔ p.pairs = [] := by
  rw [← String.toList_eq_nil_iff, toList_query]
  cases p.pairs with
  | nil => simp
  | cons pair pairs =>
    cases pairs with
    | nil => simp [List.intercalate, writtenPair]
    | cons next pairs => simp [List.intercalate_cons_cons]

theorem query_inj : p.query = q.query ↔ p = q := by
  refine ⟨fun same => Parameters.ext_pairs ?_, fun h => h ▸ rfl⟩
  by_cases none : p.pairs = []
  · rw [none, query_eq_empty.mp (same ▸ query_eq_empty.mpr none)]
  · have some : q.pairs ≠ [] := fun h => none (query_eq_empty.mp (same ▸ query_eq_empty.mpr h))
    rw [← decodedPairs_query none, same, decodedPairs_query some]

/-! ### Texts that are signed -/

theorem toList_stringToSign (method : String) (parameters : Parameters) :
    (stringToSign method parameters).toList =
      (method ++ "&" ++ Percent.encode "/").toList ++
        '&' :: (Percent.encode parameters.query).toList := by
  have mark : "&".toList = ['&'] := by decide
  simp [stringToSign, mark]

/-- The text that is signed tells the method and each parameter, whatever characters are in them. -/
theorem stringToSign_inj (method method' : String) (p q : Parameters) :
    stringToSign method p = stringToSign method' q ↔ method = method' ∧ p = q := by
  have last : ∀ s, '&' ∉ (Percent.encode s).toList := not_mem_encode (by decide)
  rw [← String.toList_inj, toList_stringToSign, toList_stringToSign,
    append_sep_inj (last _) (last _), String.toList_inj, String.toList_inj, encode_inj, query_inj]
  simp

end BlockVolume.Cloud
