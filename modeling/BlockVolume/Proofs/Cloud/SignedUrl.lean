import BlockVolume.Cloud.SignedQuery
import BlockVolume.Proofs.Text.Cutting
import BlockVolume.Proofs.Text.Percent
/-!
Signed URLs, read by whoever checks them.

A written key or value holds none of the marks `?`, `&` and `=`, so a URL falls apart into just the
pairs that were joined in it: the parameters in the order of their keys, and the signature. Set one
after the other they make the same parameters again, which is what the signature was made for.
-/

namespace BlockVolume.Cloud

open BlockVolume.Text

variable {parameters : Parameters} {pairs : List (String × String)} {key value : String}

/-! ### Parameters set again -/

/-- A key above all others goes to the end. -/
theorem insertPair_of_lt (above : ∀ pair ∈ pairs, pair.1 < key) :
    insertPair key value pairs = pairs ++ [(key, value)] := by
  induction pairs with
  | nil => rfl
  | cons pair pairs ih =>
    have less := above pair List.mem_cons_self
    have later := ih fun other mem => above other (List.mem_cons_of_mem pair mem)
    rw [insertPair, if_neg (String.lt_asymm less), if_neg (String.ne_of_lt less).symm, later]
    rfl

theorem Parameters.pairs_foldl_insert {start : Parameters}
    (sorted : (start.pairs ++ pairs).Pairwise (·.1 < ·.1)) :
    (pairs.foldl (fun parameters (key, value) => parameters.insert key value) start).pairs =
      start.pairs ++ pairs := by
  induction pairs generalizing start with
  | nil => simp
  | cons pair pairs ih =>
    obtain ⟨key, value⟩ := pair
    have above : ∀ pair ∈ start.pairs, pair.1 < key := fun pair mem =>
      (List.pairwise_append.mp sorted).2.2 pair mem _ List.mem_cons_self
    have next : (start.insert key value).pairs = start.pairs ++ [(key, value)] :=
      insertPair_of_lt above
    rw [List.foldl_cons, ih (by simpa [next] using sorted), next]
    simp

/-- The pairs of parameters, set one after the other, make the same parameters. -/
theorem Parameters.ofList_pairs (parameters : Parameters) :
    Parameters.ofList parameters.pairs = parameters := by
  obtain ⟨pairs, sorted⟩ := parameters
  have same : (Parameters.ofList pairs).pairs = pairs := pairs_foldl_insert sorted
  generalize Parameters.ofList pairs = made at same
  cases made
  subst same
  rfl

/-! ### Pairs in a query -/

/-- A pair as it is written in a query. -/
def writtenPair (pair : String × String) : List Char :=
  (Percent.encode pair.1).toList ++ '=' :: (Percent.encode pair.2).toList

theorem not_mem_encode {c : Char} (mark : Percent.isWritten c = false) (s : String) :
    c ∉ (Percent.encode s).toList := by
  intro mem
  have written := Percent.isWritten_of_mem_encode mem
  rw [mark] at written
  cases written

theorem not_mem_writtenPair {c : Char} (mark : Percent.isWritten c = false) (ne : c ≠ '=')
    (pair : String × String) : c ∉ writtenPair pair := by
  simp [writtenPair, not_mem_encode mark, ne]

theorem toList_query (parameters : Parameters) :
    parameters.query.toList = ['&'].intercalate (parameters.pairs.map writtenPair) := by
  have mark : "&".toList = ['&'] := by decide
  rw [Parameters.query, String.toList_intercalate, List.map_map, mark]
  refine congrArg _ (List.map_congr_left fun pair _ => ?_)
  simp [writtenPair]

@[simp] theorem plainText_encode (s : String) : plainText (Percent.encode s) = s := by
  simp [plainText, Utf8.toStringLossy, Utf8.ofString]

/-- A query is cut into its pairs. -/
theorem splitOnP_writtenPair (nonempty : pairs ≠ []) :
    splitOnP (· == '&') (['&'].intercalate (pairs.map writtenPair)) = pairs.map writtenPair := by
  refine splitOnP_intercalate (by decide) (by simpa using nonempty) fun piece mem c hc => ?_
  obtain ⟨pair, -, rfl⟩ := List.mem_map.mp mem
  refine beq_false_of_ne fun mark => ?_
  exact not_mem_writtenPair (by decide) (by decide) pair (mark ▸ hc)

/-- And each pair is read as what it was. -/
theorem decodedPairs_writtenPair (nonempty : pairs ≠ []) :
    decodedPairs (String.ofList (['&'].intercalate (pairs.map writtenPair))) = pairs := by
  rw [decodedPairs, sentPairs, String.toList_ofList, splitOnP_writtenPair nonempty, List.map_map,
    List.map_map]
  refine (List.map_congr_left fun pair _ => ?_).trans (List.map_id pairs)
  have cut : splitFirst '=' (writtenPair pair) = _ :=
    splitFirst_append (not_mem_encode (by decide) pair.1) _
  simp [cut]

/-! ### Signed URLs -/

/-- The pairs that are sent: the parameters and their signature. -/
def signedPairs (secret : String) (parameters : Parameters) : List (String × String) :=
  parameters.pairs ++ [(signatureName, sign secret (stringToSign "GET" parameters))]

/-- The query of a signed URL. -/
def signedQuery (secret : String) (parameters : Parameters) : String :=
  String.ofList (['&'].intercalate ((signedPairs secret parameters).map writtenPair))

variable {endpoint secret : String}

theorem toList_signedUrl (credentials : Credentials) (nonempty : parameters.pairs ≠ []) :
    (signedUrl endpoint credentials parameters).toList =
      endpoint.toList ++ '?' :: (signedQuery credentials.secret parameters).toList := by
  have start : "&Signature=".toList = '&' :: ((Percent.encode signatureName).toList ++ ['=']) := by
    decide
  have question : "?".toList = ['?'] := by decide
  rw [signedUrl, signedQuery, signedPairs, String.toList_ofList, List.map_append,
    List.map_singleton, intercalate_concat (by simpa using nonempty), ← toList_query]
  simp [start, question, writtenPair]

theorem decodedPairs_signedQuery :
    decodedPairs (signedQuery secret parameters) = signedPairs secret parameters :=
  decodedPairs_writtenPair (by simp [signedPairs])

/-- The parameters are found again as the other pairs. -/
theorem ofList_signedPairs (unsigned : ∀ pair ∈ parameters.pairs, pair.1 ≠ signatureName) :
    Parameters.ofList ((signedPairs secret parameters).filter (·.1 != signatureName)) =
      parameters := by
  have others : parameters.pairs.filter (·.1 != signatureName) = parameters.pairs :=
    List.filter_eq_self.mpr fun pair mem => bne_iff_ne.mpr (unsigned pair mem)
  rw [signedPairs, List.filter_append, others]
  simp [Parameters.ofList_pairs]

/-- A signed URL is cut at its first question mark, its query into pairs, each pair at its first
equals sign. What is decoded is each parameter once, in the order of the bytes of the keys, and then
the signature of the others. -/
theorem signedUrl_verifies (credentials : Credentials) (plain : '?' ∉ endpoint.toList)
    (nonempty : parameters.pairs ≠ [])
    (unsigned : ∀ pair ∈ parameters.pairs, pair.1 ≠ signatureName) :
    ∃ query signature : String,
      splitFirst '?' (signedUrl endpoint credentials parameters).toList =
        some (endpoint.toList, query.toList) ∧
      (∀ piece ∈ splitOnP (· == '&') query.toList, '=' ∈ piece) ∧
      decodedPairs query = parameters.pairs ++ [(signatureName, signature)] ∧
      parameters.pairs.Pairwise (fun a b => Utf8.ofString a.1 < Utf8.ofString b.1) ∧
      signature = sign credentials.secret (stringToSign "GET"
        (Parameters.ofList ((decodedPairs query).filter (·.1 != signatureName)))) := by
  refine ⟨signedQuery credentials.secret parameters, _, ?_, ?_, decodedPairs_signedQuery, ?_, ?_⟩
  · rw [toList_signedUrl credentials nonempty]
    exact splitFirst_append plain _
  · intro piece mem
    rw [signedQuery, String.toList_ofList, splitOnP_writtenPair (by simp [signedPairs])] at mem
    obtain ⟨pair, -, rfl⟩ := List.mem_map.mp mem
    simp [writtenPair]
  · exact parameters.sorted.imp fun less => Utf8.ofString_lt less
  · rw [decodedPairs_signedQuery, ofList_signedPairs unsigned]

/-- Parameters with marks, blanks and other letters in them. -/
def markedParameters : Parameters := Parameters.ofList [("ä", "+"), ("a b", "x&y=z%"), ("", "?")]

theorem markedParameters_verify :
    ∃ query signature : String,
      splitFirst '?' (signedUrl "https://e/" (.lasting "i" "s") markedParameters).toList =
        some ("https://e/".toList, query.toList) ∧
      decodedPairs query =
        [("", "?"), ("a b", "x&y=z%"), ("ä", "+"), (signatureName, signature)] ∧
      signature = sign "s" (stringToSign "GET"
        (Parameters.ofList ((decodedPairs query).filter (·.1 != signatureName)))) := by
  have sorted : markedParameters.pairs = [("", "?"), ("a b", "x&y=z%"), ("ä", "+")] := by
    decide +kernel
  have unsigned : ∀ pair ∈ markedParameters.pairs, pair.1 ≠ signatureName := by
    rw [sorted]
    decide
  have plain : '?' ∉ "https://e/".toList := by decide
  obtain ⟨query, signature, cut, -, pairs, -, signed⟩ :=
    signedUrl_verifies (.lasting "i" "s") plain (by simp [sorted]) unsigned
  rw [sorted] at pairs
  exact ⟨query, signature, cut, pairs, signed⟩

/-- Whoever has the secret accepts the query. -/
theorem isSignedBy_signedQuery (unsigned : ∀ pair ∈ parameters.pairs, pair.1 ≠ signatureName) :
    isSignedBy secret (signedQuery secret parameters) = true := by
  have only : parameters.pairs.lookup signatureName = none :=
    List.lookup_eq_none_iff.mpr fun pair mem => bne_iff_ne.mpr (unsigned pair mem).symm
  rw [isSignedBy, decodedPairs_signedQuery, ofList_signedPairs unsigned]
  simp [signedPairs, List.lookup_append, only]

end BlockVolume.Cloud
