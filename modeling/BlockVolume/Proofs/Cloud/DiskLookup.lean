import BlockVolume.Cloud.Endpoints
import BlockVolume.Proofs.Cloud.Answers
import BlockVolume.Proofs.Cloud.SignedUrl
import BlockVolume.Proofs.Json.Strings
/-!
Looking up one disk.

A look-up sends a list of ids that is made of the id as it is, between a quote and a quote. The list
is the one of just that id as long as the id needs no escape; of any other id the control plane reads
something else, or nothing. What it answers is searched for the id again.
-/

namespace BlockVolume.Cloud

open BlockVolume.Json (Blanks Document IsBare Value Written)
open BlockVolume.Text

variable {key value id text : String} {pairs : List (String × String)}

/-! ### The parameter that is sent -/

/-- A parameter that is set is there once, with the value it was set to. -/
theorem filter_insertPair (sorted : pairs.Pairwise (·.1 < ·.1)) :
    (insertPair key value pairs).filter (·.1 == key) = [(key, value)] := by
  induction pairs with
  | nil => simp [insertPair]
  | cons pair pairs ih =>
    obtain ⟨k, v⟩ := pair
    obtain ⟨first, later⟩ := List.pairwise_cons.mp sorted
    have others (above : ∀ other ∈ pairs, key < other.1) : pairs.filter (·.1 == key) = [] :=
      List.filter_eq_nil_iff.mpr fun other ho => by
        simpa using (String.ne_of_lt (above other ho)).symm
    rw [insertPair]
    split
    case isTrue less =>
      have different : (k == key) = false := beq_false_of_ne (String.ne_of_lt less).symm
      have none := others fun other ho => String.lt_trans less (first other ho)
      simp only [List.filter_cons, beq_self_eq_true, different, none]
      rfl
    case isFalse =>
      split
      case isTrue same =>
        subst same
        simp only [List.filter_cons, beq_self_eq_true, others first]
        rfl
      case isFalse different => simpa [Ne.symm different] using ih later

/-- The URL asks for the disks of a list of ids: this is its only parameter of that name. -/
def AsksFor (endpoint url ids : String) : Prop :=
  ∃ query : String, url.toList = endpoint.toList ++ '?' :: query.toList ∧
    (decodedPairs query).filter (·.1 == "DiskIds") = [("DiskIds", ids)]

theorem asksFor_describeUrl (endpoints : Endpoints) (credentials : Credentials) (stamp : Stamp)
    (region id : String) : AsksFor endpoints.control
      (endpoints.describeUrl credentials stamp region id) (diskIds id) := by
  have only : (describeParameters credentials stamp region id).pairs.filter (·.1 == "DiskIds") =
      [("DiskIds", diskIds id)] := filter_insertPair (Parameters.sorted _)
  have nonempty : (describeParameters credentials stamp region id).pairs ≠ [] := by
    intro none
    rw [none] at only
    cases only
  refine ⟨_, toList_signedUrl credentials nonempty, ?_⟩
  rw [decodedPairs_signedQuery, signedPairs, List.filter_append, only]
  simp [signatureName]

/-! ### The list of ids -/

/-- The text is a document whose value is the list of one string, which has the id for its text. -/
def ListsOnly (text id : String) : Prop :=
  ∃ item, Document (.array [item]) (Utf8.ofString text) ∧ item.Spells id

/-- A document without blanks at its ends is the value alone. -/
theorem written_of_document {value : Value} {b c : UInt8} {bytes : Bytes}
    (h : Document value bytes) (starts : ∃ tail, bytes = b :: tail)
    (first : Json.isBlankByte b = false) (ends : ∃ init, bytes = init ++ [c])
    (last : Json.isBlankByte c = false) : Written value bytes := by
  cases h with
  | @mk value before text after hb written ha =>
    have noneBefore : before = [] := by
      cases before with
      | nil => rfl
      | cons d before =>
        obtain ⟨tail, starts⟩ := starts
        obtain ⟨rfl, -⟩ := List.cons.inj starts
        rw [hb d List.mem_cons_self] at first
        cases first
    have noneAfter : after = [] := by
      rcases List.eq_nil_or_concat' after with none | ⟨init, d, rfl⟩
      · exact none
      · obtain ⟨whole, ends⟩ := ends
        rw [← List.append_assoc, ← List.append_assoc] at ends
        obtain rfl := List.singleton_inj.mp (List.append_inj' ends rfl).2
        rw [ha d List.mem_concat_self] at last
        cases last
    rw [noneBefore, noneAfter, List.nil_append, List.append_nil]
    exact written

theorem document_of_written_array {item : Value} {bytes : Bytes}
    (h : Written (.array [item]) bytes) :
    ∃ inner, Document item inner ∧ bytes = 0x5B :: (inner ++ [0x5D]) := by
  cases h with
  | array h =>
    cases h with
    | last h => exact ⟨_, h, rfl⟩
    | cons h later => cases later

theorem body_of_written_string {raw bytes : Bytes} (h : Written (.string raw) bytes) :
    Json.Body raw ∧ bytes = 0x22 :: (raw ++ [0x22]) := by
  cases h with
  | string h => exact ⟨h, rfl⟩

/-- Between brackets and quotes stands the string that these bytes are. -/
theorem document_quoted_iff {raw bytes : Bytes} :
    Document (.array [.string raw]) (0x5B :: (0x22 :: (bytes ++ [0x22]) ++ [0x5D])) ↔
      Json.Body bytes ∧ raw = bytes := by
  constructor
  · intro h
    have list := written_of_document (b := 0x5B) (c := 0x5D) h ⟨_, rfl⟩ (by decide)
      ⟨0x5B :: 0x22 :: (bytes ++ [0x22]), rfl⟩ (by decide)
    obtain ⟨inner, item, whole⟩ := document_of_written_array list
    obtain rfl := List.append_cancel_right (List.cons.inj whole).2
    have string := written_of_document (b := 0x22) (c := 0x22) item ⟨_, rfl⟩ (by decide)
      ⟨0x22 :: bytes, rfl⟩ (by decide)
    obtain ⟨body, whole⟩ := body_of_written_string string
    obtain rfl := List.append_cancel_right (List.cons.inj whole).2
    exact ⟨body, rfl⟩
  · rintro ⟨body, rfl⟩
    have none := Json.blanks_nil
    have item : Document (.string raw) (0x22 :: (raw ++ [0x22])) := by
      simpa using Document.mk none (.string body) none
    have list : Document (.array [.string raw]) _ := .mk none (.array (.last item)) none
    simpa using list

/-- The list that is sent is the list of just the id exactly if the id needs no escape. -/
theorem listsOnly_diskIds_iff : ListsOnly (diskIds id) id ↔ IsBare id := by
  have bytes : Utf8.ofString (diskIds id) =
      0x5B :: (0x22 :: (Utf8.ofString id ++ [0x22]) ++ [0x5D]) := by
    have front : Utf8.encode "[\"".toList = [0x5B, 0x22] := by decide
    have back : Utf8.encode "\"]".toList = [0x22, 0x5D] := by decide
    rw [diskIds, Utf8.ofString, String.toList_append, String.toList_append, Utf8.encode_append,
      Utf8.encode_append, front, back]
    simp [Utf8.ofString]
  rw [← Json.stands_iff, ListsOnly, bytes]
  constructor
  · rintro ⟨item, document, raw, rfl, spelled⟩
    obtain ⟨body, rfl⟩ := document_quoted_iff.mp document
    exact ⟨body, spelled⟩
  · rintro ⟨body, spelled⟩
    exact ⟨_, document_quoted_iff.mpr ⟨body, rfl⟩, _, rfl, spelled⟩

/-! ### Looking up -/

/-- A look-up asks for just its disk exactly if the id needs no escape. It gives a result exactly if
the answer is a success that lists disks, and then the first of them with the id, or none. -/
theorem lookUp_asks_and_finds (endpoints : Endpoints) (credentials : Credentials) (stamp : Stamp)
    (region id : String) :
    (∃ ids, AsksFor endpoints.control (endpoints.describeUrl credentials stamp region id) ids ∧
      (ListsOnly ids id ↔ IsBare id)) ∧
    ∀ status body, ((∃ found, describeResult id (.full status body) = .ok found) ↔
        (200 ≤ status ∧ status < 300) ∧ ∃ disks, Expected ListsDisks body disks) ∧
      ∀ found, describeResult id (.full status body) = .ok found ↔
        (200 ≤ status ∧ status < 300) ∧
          ∃ disks, Expected ListsDisks body disks ∧ FirstWith id disks found := by
  have found (status : Nat) (body : Bytes) (found : Option Disk) :
      describeResult id (.full status body) = .ok found ↔ (200 ≤ status ∧ status < 300) ∧
        ∃ disks, Expected ListsDisks body disks ∧ FirstWith id disks found := by
    rw [(classified_describeResult id status body).ok]
    refine and_congr_right fun _ => ?_
    constructor
    · rintro ⟨value, document, disks, lists, first⟩
      exact ⟨disks, ⟨value, document, lists⟩, first⟩
    · rintro ⟨disks, ⟨value, document, lists⟩, first⟩
      exact ⟨value, document, disks, lists, first⟩
  refine ⟨⟨_, asksFor_describeUrl endpoints credentials stamp region id, listsOnly_diskIds_iff⟩,
    fun status body => ⟨?_, found status body⟩⟩
  simp only [found]
  constructor
  · rintro ⟨_, success, disks, lists, -⟩
    exact ⟨success, disks, lists⟩
  · rintro ⟨success, disks, lists⟩
    exact ⟨_, success, disks, lists, find?_eq_iff.mp rfl⟩

/-- An id with a quote in it is asked for with a list that is not the one of just this id. -/
theorem quoted_id_not_asked : ∃ ids, AsksFor "https://e/"
    (Endpoints.describeUrl ⟨"https://m/", "https://e/"⟩ (.lasting "ak" "sk") ⟨"n", "t"⟩ "r" "d\"1")
      ids ∧ ¬ListsOnly ids "d\"1" := by
  refine ⟨_, asksFor_describeUrl ⟨"https://m/", "https://e/"⟩ (.lasting "ak" "sk") ⟨"n", "t"⟩ "r" _,
    ?_⟩
  rw [listsOnly_diskIds_iff]
  intro bare
  have quote : '"' ∈ "d\"1".toList := by decide
  exact (bare _ quote).1 rfl

end BlockVolume.Cloud
