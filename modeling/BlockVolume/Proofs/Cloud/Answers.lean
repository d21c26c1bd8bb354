import BlockVolume.Cloud.Reply
import BlockVolume.Proofs.Json.Reading
import BlockVolume.Proofs.Json.Records
import BlockVolume.Proofs.Text.Utf8
/-!
What an answer of the control plane comes to, by its status and the bytes of its body.

The documents that are expected are told by the names of their fields: disks, lists of disks, and
refusals. Only the strings that such a field reads must be texts; any other string is checked for
its form, so that a body need not be UTF-8 for its document to be taken.
-/

namespace BlockVolume.Cloud

open BlockVolume.Json (Document Found Value)
open BlockVolume.Text (Bytes)

variable {value : Value} {disk : Disk} {disks : List Disk} {status : Nat} {body : Bytes}

/-! ### Expected documents -/

/-- The fields of a disk. -/
def diskNames : List String := ["DiskId", "Status", "InstanceId", "Device", "Category", "ZoneId"]

/-- The fields of a refusal. -/
def refusalNames : List String := ["RequestId", "Code", "Message"]

/-- What each word of the control plane says that a disk is doing. -/
inductive StatusWord : String → DiskStatus → Prop where
  | inUse : StatusWord "In_use" .inUse
  | available : StatusWord "Available" .available
  | attaching : StatusWord "Attaching" .attaching
  | detaching : StatusWord "Detaching" .detaching
  | creating : StatusWord "Creating" .creating
  | reIniting : StatusWord "ReIniting" .reIniting
  | unknown {word : String}
      (other : word ∉ ["In_use", "Available", "Attaching", "Detaching", "Creating", "ReIniting"]) :
      StatusWord word .unknown

/-- A record that tells a disk: with an id and the word for its status, while any other field may be
left out. -/
structure IsDisk (value : Value) (disk : Disk) : Prop where
  record : value.IsRecord diskNames
  id : value.Gives diskNames "DiskId" disk.id
  status : ∃ word, value.Gives diskNames "Status" word ∧ StatusWord word disk.status
  holder : value.GivesOrLacks diskNames "InstanceId" disk.holder
  device : value.GivesOrLacks diskNames "Device" disk.device
  category : value.GivesOrLacks diskNames "Category" disk.category
  zone : value.GivesOrLacks diskNames "ZoneId" disk.zone

/-- A record that tells a list of disks, in a record of its own. -/
def ListsDisks (value : Value) (disks : List Disk) : Prop :=
  value.IsRecord ["Disks"] ∧ ∃ set, value.field? ["Disks"] "Disks" = some set ∧
    set.IsRecord ["Disk"] ∧ (set.field? ["Disk"] "Disk" = none ∧ disks = [] ∨
      ∃ items, set.field? ["Disk"] "Disk" = some (.array items) ∧ List.Forall₂ IsDisk items disks)

/-- A record that tells a refusal: with a code, while any other field may be left out. -/
structure IsRefusal (value : Value) (code message requestId : String) : Prop where
  record : value.IsRecord refusalNames
  code : value.Gives refusalNames "Code" code
  message : value.GivesOrLacks refusalNames "Message" message
  requestId : value.GivesOrLacks refusalNames "RequestId" requestId

theorem parseRefusal_eq_ok_iff {e : ApiError} : parseRefusal value = .ok e ↔
    ∃ code message requestId, e = .service code message requestId ∧
      IsRefusal value code message requestId := by
  refine (Value.fields_bind_eq_ok_iff fun found fields => (by
    simp (disch := decide) only [bind_eq_ok, Found.required_text_iff fields,
      Found.optional_text_iff fields, pure, Except.pure, ok_eq_ok]
    exact Iff.rfl)).trans ?_
  constructor
  · rintro ⟨record, requestId, hr, code, hc, message, hm, rfl⟩
    exact ⟨code, message, requestId, rfl, record, hc, hm, hr⟩
  · rintro ⟨code, message, requestId, rfl, record, hc, hm, hr⟩
    exact ⟨record, requestId, hr, code, hc, message, hm, rfl⟩

theorem ofWord_eq_iff {word : String} {status : DiskStatus} :
    DiskStatus.ofWord word = status ↔ StatusWord word status := by
  constructor
  · rintro rfl
    unfold DiskStatus.ofWord
    split
    case h_1 => exact .inUse
    case h_2 => exact .available
    case h_3 => exact .attaching
    case h_4 => exact .detaching
    case h_5 => exact .creating
    case h_6 => exact .reIniting
    case h_7 inUse available attaching detaching creating reIniting =>
      exact .unknown (by simpa using ⟨inUse, available, attaching, detaching, creating, reIniting⟩)
  · intro told
    cases told with
    | unknown other =>
      unfold DiskStatus.ofWord
      split
      case h_7 => rfl
      all_goals simp at other
    | _ => rfl

theorem parseDisk_eq_ok_iff : parseDisk value = .ok disk ↔ IsDisk value disk := by
  refine (Value.fields_bind_eq_ok_iff fun found fields => (by
    simp (disch := decide) only [bind_eq_ok, Found.required_text_iff fields,
      Found.optional_text_iff fields, pure, Except.pure, ok_eq_ok]
    exact Iff.rfl)).trans ?_
  constructor
  · rintro ⟨record, id, hi, word, hs, holder, hh, device, hd, category, hc, zone, hz, rfl⟩
    exact ⟨record, hi, ⟨word, hs, ofWord_eq_iff.mp rfl⟩, hh, hd, hc, hz⟩
  · rintro ⟨record, hi, ⟨word, hs, status⟩, hh, hd, hc, hz⟩
    refine ⟨record, _, hi, word, hs, _, hh, _, hd, _, hc, _, hz, ?_⟩
    rw [ofWord_eq_iff.mpr status]

theorem parseDisks_eq_ok_iff : parseDisks value = .ok disks ↔ ListsDisks value disks := by
  refine Value.fields_bind_eq_ok_iff fun found fields => ?_
  rw [Found.required_eq_ok_iff fields (by decide)]
  refine exists_congr fun set => and_congr_right fun _ => ?_
  refine Value.fields_bind_eq_ok_iff fun found fields => ?_
  rw [Found.optional_eq_ok_iff fields (by decide)]
  refine or_congr_right ?_
  simp only [Value.asList_eq_ok_iff, parseDisk_eq_ok_iff]
  constructor
  · rintro ⟨_, field, items, rfl, told⟩
    exact ⟨items, field, told⟩
  · rintro ⟨items, field, told⟩
    exact ⟨_, field, items, rfl, told⟩

/-! ### Answers -/

/-- The bytes are a document of the shape that a call expects, which tells its result. -/
def Expected {α : Type} (Shape : Value → α → Prop) (body : Bytes) (result : α) : Prop :=
  ∃ value, Document value body ∧ Shape value result

/-- The bytes are a document of a refusal. -/
def Refused (body : Bytes) (code message requestId : String) : Prop :=
  ∃ value, Document value body ∧ IsRefusal value code message requestId

/-- The answer is neither a success with an expected document nor a refusal. -/
def Unread {α : Type} (Shape : Value → α → Prop) (status : Nat) (body : Bytes) : Prop :=
  if 200 ≤ status ∧ status < 300 then ∀ result, ¬Expected Shape body result
  else ∀ code message requestId, ¬Refused body code message requestId

/-- The result of a call, by the status and the body of its answer. -/
structure Classified {α : Type} (Shape : Value → α → Prop) (status : Nat) (body : Bytes)
    (result : Except ApiError α) : Prop where
  /-- A result comes of a success with an expected document, which tells it. -/
  ok : ∀ x, result = .ok x ↔ (200 ≤ status ∧ status < 300) ∧ Expected Shape body x
  /-- A refusal comes of any other status, with the document of just that refusal. -/
  service : ∀ code message requestId, result = .error (.service code message requestId) ↔
    ¬(200 ≤ status ∧ status < 300) ∧ Refused body code message requestId
  /-- All else is an error of the transport. -/
  transport : (∃ text, result = .error (.transport text)) ↔ Unread Shape status body
  /-- Just these errors are taken as such. -/
  taken : ∀ e, result = .error e → (e.errorClass = .transport ↔ Unread Shape status body)

theorem read_expected_iff {α : Type} {parse : Value → Except Json.Error α} {Shape : Value → α → Prop}
    (parses : ∀ value x, parse value = .ok x ↔ Shape value x) (x : α) :
    Json.read body >>= parse = .ok x ↔ Expected Shape body x := by
  simp only [bind_eq_ok, Json.read_eq_ok_iff, parses, Expected]

theorem read_refusal_iff {e : ApiError} : Json.read body >>= parseRefusal = .ok e ↔
    ∃ code message requestId, e = .service code message requestId ∧
      Refused body code message requestId := by
  simp only [bind_eq_ok, Json.read_eq_ok_iff, parseRefusal_eq_ok_iff, Refused]
  constructor
  · rintro ⟨value, document, code, message, requestId, rfl, told⟩
    exact ⟨code, message, requestId, rfl, value, document, told⟩
  · rintro ⟨code, message, requestId, rfl, value, document, told⟩
    exact ⟨value, document, code, message, requestId, rfl, told⟩

theorem errorClass_eq_transport_iff {e : ApiError} :
    e.errorClass = .transport ↔ ∃ text, e = .transport text := by
  cases e with
  | transport text => simp [ApiError.errorClass, ApiError.code?]
  | service code message requestId =>
    simp only [ApiError.errorClass, ApiError.code?]
    repeat' split
    all_goals simp

section

variable {α : Type} {parse : Value → Except Json.Error α} {Shape : Value → α → Prop}
  (parses : ∀ value x, parse value = .ok x ↔ Shape value x)

include parses

/-- A success is read as what it tells, or not at all. -/
theorem resultOf_success (h : 200 ≤ status ∧ status < 300) (body : Bytes) :
    (∃ x, resultOf parse (.full status body) = .ok x ∧ ∀ y, Expected Shape body y ↔ x = y) ∨
      (∃ text, resultOf parse (.full status body) = .error (.transport text)) ∧
        ∀ y, ¬Expected Shape body y := by
  have success : Http.isSuccess status = true := by simpa [Http.isSuccess] using h
  rw [resultOf, if_pos success]
  simp only [← read_expected_iff parses]
  cases Json.read body >>= parse with
  | ok x => exact .inl ⟨x, rfl, fun y => by simp⟩
  | error e => exact .inr ⟨⟨_, rfl⟩, fun y => by simp⟩

omit parses in
/-- Any other status is read as a refusal, or not at all. -/
theorem resultOf_failure (h : ¬(200 ≤ status ∧ status < 300)) (body : Bytes) :
    (∃ code message requestId,
        resultOf parse (.full status body) = .error (.service code message requestId) ∧
          ∀ c m r, Refused body c m r ↔ code = c ∧ message = m ∧ requestId = r) ∨
      (∃ text, resultOf parse (.full status body) = .error (.transport text)) ∧
        ∀ c m r, ¬Refused body c m r := by
  have failure : ¬Http.isSuccess status = true := by simpa [Http.isSuccess] using h
  have refused (c m r : String) : Refused body c m r ↔
      Json.read body >>= parseRefusal = .ok (.service c m r) := by
    rw [read_refusal_iff]
    simp
  rw [resultOf, if_neg failure]
  simp only [refused]
  cases read : Json.read body >>= parseRefusal with
  | ok refusal =>
    obtain ⟨code, message, requestId, rfl, -⟩ := read_refusal_iff.mp read
    exact .inl ⟨code, message, requestId, rfl, fun c m r => by simp⟩
  | error e => exact .inr ⟨⟨_, rfl⟩, fun c m r => by simp⟩

theorem classified_resultOf (status : Nat) (body : Bytes) :
    Classified Shape status body (resultOf parse (.full status body)) := by
  by_cases h : 200 ≤ status ∧ status < 300
  · rcases resultOf_success parses h body with ⟨x, run, told⟩ | ⟨⟨text, run⟩, unread⟩
    · rw [run]
      constructor <;> simp [Unread, h, told]
    · rw [run]
      constructor <;> simp [Unread, h, unread, errorClass_eq_transport_iff]
  · rcases resultOf_failure h body with
      ⟨code, message, requestId, run, told⟩ | ⟨⟨text, run⟩, unread⟩
    · rw [run]
      constructor <;> simp [Unread, h, told, errorClass_eq_transport_iff]
    · rw [run]
      constructor <;> simp [Unread, h, unread, errorClass_eq_transport_iff]

end

/-! ### Calls -/

/-- The first disk of a list that has the id, if there is one. -/
inductive FirstWith (id : String) : List Disk → Option Disk → Prop
  | none {disks : List Disk} (h : ∀ disk ∈ disks, disk.id ≠ id) : FirstWith id disks none
  | some {earlier later : List Disk} {disk : Disk} (h : ∀ disk ∈ earlier, disk.id ≠ id)
      (same : disk.id = id) : FirstWith id (earlier ++ disk :: later) (some disk)

theorem find?_eq_iff {id : String} {found : Option Disk} :
    disks.find? (·.id == id) = found ↔ FirstWith id disks found := by
  constructor
  · intro h
    cases found with
    | none => exact .none (by simpa using h)
    | some disk =>
      obtain ⟨same, earlier, later, rfl, first⟩ := List.find?_eq_some_iff_append.mp h
      exact .some (by simpa using first) (by simpa using same)
  · rintro (h | ⟨h, same⟩)
    · simpa using h
    · exact List.find?_eq_some_iff_append.mpr ⟨by simpa using same, _, _, rfl, by simpa using h⟩

/-- The document lists disks, and the first of them with the id is what is found. -/
def Finds (id : String) (value : Value) (found : Option Disk) : Prop :=
  ∃ disks, ListsDisks value disks ∧ FirstWith id disks found

theorem map_resultOf {α β : Type} (parse : Value → Except Json.Error α) (f : α → β)
    (answer : Http.Answer) : (resultOf parse answer).map f =
      resultOf (fun value => (parse value).map f) answer := by
  cases answer with
  | closed => rfl
  | cutShort status => rfl
  | full status body =>
    have later : (Json.read body >>= fun value => (parse value).map f) =
        (Json.read body >>= parse).map f := by
      cases Json.read body <;> rfl
    rw [resultOf, resultOf, later]
    split
    · cases Json.read body >>= parse <;> rfl
    · cases Json.read body >>= parseRefusal <;> rfl

theorem classified_changeResult (status : Nat) (body : Bytes) :
    Classified (fun _ _ => True) status body (changeResult (.full status body)) :=
  classified_resultOf (fun _ _ => by simp [parseNothing]) status body

theorem classified_describeResult (id : String) (status : Nat) (body : Bytes) :
    Classified (Finds id) status body (describeResult id (.full status body)) := by
  rw [describeResult, map_resultOf]
  refine classified_resultOf (fun value found => ?_) status body
  simp only [map_eq_ok, parseDisks_eq_ok_iff, find?_eq_iff, Finds]

/-- Every answer to a call is classified by its status and the bytes of its body: where the disk is
attached or detached, any document is expected; where it is looked up, a list of disks. -/
theorem calls_classified (id : String) (status : Nat) (body : Bytes) :
    Classified (fun _ _ => True) status body (changeResult (.full status body)) ∧
      Classified (Finds id) status body (describeResult id (.full status body)) :=
  ⟨classified_changeResult status body, classified_describeResult id status body⟩

/-- A string with a byte that is none of UTF-8. -/
def strangeBody : Bytes := [0x22, 0xFF, 0x22]

/-- Bytes that are no text are taken as the answer to an attachment. -/
theorem strangeBody_taken :
    changeResult (.full 200 strangeBody) = .ok () ∧ ∀ text, Text.Utf8.encode text ≠ strangeBody := by
  have body : Json.Body [0xFF] := .plain (by decide) (by decide) (by decide) .nil
  have document : Document (.string [0xFF]) strangeBody :=
    .mk Json.blanks_nil (.string body) Json.blanks_nil
  constructor
  · rw [changeResult, resultOf, Json.read_eq_ok_iff.mpr document]
    rfl
  · intro text same
    have decoded : Text.Utf8.decode? strangeBody = some text := Text.Utf8.decode?_eq_some_iff.mpr same
    simp [strangeBody, Text.Utf8.decode?, Text.Utf8.front] at decoded

end BlockVolume.Cloud
