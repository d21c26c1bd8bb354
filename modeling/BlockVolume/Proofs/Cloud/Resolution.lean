import BlockVolume.Proofs.Questions
/-!
Where credentials come from.

There are three sources: the environment, the configured keys, and the role of the instance, whose token
takes two look-ups. The first source that has all parts gives them, and nothing of the others goes
with them. `Resolved` says so source by source, with the look-ups that are made.
-/

namespace BlockVolume.Cloud

open BlockVolume.Program

variable {environment : List (String × String)} {id secret list role document : String}
  {credentials : Credentials} {token : RoleToken} {es : List (Exchange Ask.Answer)}

/-! ### The sources -/

/-- The value of a variable; one that is not set counts as empty. -/
def valueOf (environment : List (String × String)) (name : String) : String :=
  (environment.lookup name).getD ""

/-- Both parts of a key pair are there. -/
def Whole (id secret : String) : Prop := id ≠ "" ∧ secret ≠ ""

/-- The role that a list names: its first line that is not blank, without the blanks around it. -/
def FirstRole (list role : String) : Prop :=
  ∃ before line after, Text.lines list.toList = before ++ line :: after ∧
    (∀ other ∈ before, Text.trimChars other = []) ∧ Text.trimChars line ≠ [] ∧
      role = String.ofList (Text.trimChars line)

/-- A document issues a token with all its parts. -/
structure Issues (document : String) (token : RoleToken) : Prop where
  decodes : RoleToken.parse document = .ok token
  accepted : token.code = "" ∨ token.code = "Success"
  whole : Whole token.id token.secret
  session : token.token ≠ ""

theorem isEmpty_eq_false : credentials.isEmpty = false ↔ Whole credentials.id credentials.secret := by
  simp [Credentials.isEmpty, Whole]

theorem isEmpty_eq_true : credentials.isEmpty = true ↔ ¬Whole credentials.id credentials.secret := by
  rw [← isEmpty_eq_false, Bool.not_eq_false]

theorem firstRole?_eq_some : firstRole? list = some role ↔ FirstRole list role := by
  rw [firstRole?, List.find?_map, Option.map_map, Option.map_eq_some_iff]
  constructor
  · rintro ⟨line, found, rfl⟩
    obtain ⟨named, before, after, split, blank⟩ := List.find?_eq_some_iff_append.mp found
    exact ⟨before, line, after, split, by simpa using blank, by simpa using named, rfl⟩
  · rintro ⟨before, line, after, split, blank, named, rfl⟩
    refine ⟨line, List.find?_eq_some_iff_append.mpr ⟨?_, before, after, split, ?_⟩, rfl⟩
    · simpa using named
    · simpa using blank

example : firstRole? "\r\n csi-role \nother" = some "csi-role" := by decide +kernel

theorem unnamed_iff {reply : Option String} :
    reply.bind firstRole? = none ↔ ∀ list role, reply = some list → ¬FirstRole list role := by
  rw [Option.bind_eq_none_iff]
  simp only [Option.eq_none_iff_forall_ne_some, ne_eq, firstRole?_eq_some]
  exact ⟨fun h list role given => h list given role, fun h list given role => h list role given⟩

theorem ofDocument?_eq_some : RoleToken.ofDocument? document = some token ↔
    RoleToken.parse document = .ok token ∧ (token.code = "" ∨ token.code = "Success") := by
  rw [RoleToken.ofDocument?]
  cases RoleToken.parse document with
  | error e => simp
  | ok found =>
    have issued : found.isIssued = true ↔ found.code = "" ∨ found.code = "Success" := by
      simp [RoleToken.isIssued]
    dsimp only
    rw [Option.ite_none_right_eq_some, issued, Option.some.injEq, Except.ok.injEq]
    constructor
    · rintro ⟨accepted, rfl⟩
      exact ⟨rfl, accepted⟩
    · rintro ⟨rfl, accepted⟩
      exact ⟨accepted, rfl⟩

theorem credentials?_eq_some : token.credentials? = some credentials ↔
    Whole token.id token.secret ∧ token.token ≠ "" ∧
      credentials = .temporary token.id token.secret token.token := by
  have usable : ¬((Credentials.temporary token.id token.secret token.token).isEmpty ||
      token.token.isEmpty) = true ↔ Whole token.id token.secret ∧ token.token ≠ "" := by
    rw [Bool.or_eq_true, not_or, Bool.not_eq_true, isEmpty_eq_false, String.isEmpty_iff]
    rfl
  rw [RoleToken.credentials?, Option.ite_none_left_eq_some, usable, Option.some.injEq, and_assoc,
    eq_comm (a := credentials)]

/-- What a document of a role is good for. -/
theorem credentials_of_document :
    (RoleToken.ofDocument? document).bind RoleToken.credentials? = some credentials ↔
      ∃ token, Issues document token ∧
        credentials = .temporary token.id token.secret token.token := by
  simp only [Option.bind_eq_some_iff, ofDocument?_eq_some, credentials?_eq_some]
  constructor
  · rintro ⟨token, ⟨decodes, accepted⟩, whole, session, rfl⟩
    exact ⟨token, ⟨decodes, accepted, whole, session⟩, rfl⟩
  · rintro ⟨token, issues, rfl⟩
    exact ⟨token, ⟨issues.decodes, issues.accepted⟩, issues.whole, issues.session, rfl⟩

theorem refused_iff {reply : Option String} :
    (reply.bind RoleToken.ofDocument?).bind RoleToken.credentials? = none ↔
      ∀ document token, reply = some document → ¬Issues document token := by
  rw [Option.bind_assoc, Option.bind_eq_none_iff]
  simp only [Option.eq_none_iff_forall_ne_some, ne_eq, credentials_of_document]
  constructor
  · intro h document token given issues
    exact h document given _ ⟨token, issues, rfl⟩
  · rintro h document given _ ⟨token, issues, -⟩
    exact h document token given issues

/-! ### Resolving -/

/-- What the sources come to, with what is asked for it. -/
inductive Resolved (environment : List (String × String)) (id secret : String) :
    List (Exchange Ask.Answer) → Credentials → Prop where
  | environment
      (whole : Whole (valueOf environment idVariable) (valueOf environment secretVariable)) :
      Resolved environment id secret []
        (.lasting (valueOf environment idVariable) (valueOf environment secretVariable))
  | configured
      (unset : ¬Whole (valueOf environment idVariable) (valueOf environment secretVariable))
      (whole : Whole id secret) : Resolved environment id secret [] (.lasting id secret)
  | role {list role document : String} {token : RoleToken}
      (unset : ¬Whole (valueOf environment idVariable) (valueOf environment secretVariable))
      (unconfigured : ¬Whole id secret) (named : FirstRole list role)
      (issues : Issues document token) :
      Resolved environment id secret
        [⟨.cloud (.metadata roleResource), some list⟩,
          ⟨.cloud (.metadata (roleResource ++ role)), some document⟩]
        (.temporary token.id token.secret token.token)
  /-- The document of the role is not there, or issues no token. -/
  | noToken {list role : String} {reply : Option String}
      (unset : ¬Whole (valueOf environment idVariable) (valueOf environment secretVariable))
      (unconfigured : ¬Whole id secret) (named : FirstRole list role)
      (refused : ∀ document token, reply = some document → ¬Issues document token) :
      Resolved environment id secret
        [⟨.cloud (.metadata roleResource), some list⟩,
          ⟨.cloud (.metadata (roleResource ++ role)), reply⟩] .none
  /-- The list of roles is not there, or names none. -/
  | noRole {reply : Option String}
      (unset : ¬Whole (valueOf environment idVariable) (valueOf environment secretVariable))
      (unconfigured : ¬Whole id secret)
      (unnamed : ∀ list role, reply = some list → ¬FirstRole list role) :
      Resolved environment id secret [⟨.cloud (.metadata roleResource), reply⟩] .none

section Local

variable (unset : ¬Whole (valueOf environment idVariable) (valueOf environment secretVariable))

theorem local_of_environment
    (whole : Whole (valueOf environment idVariable) (valueOf environment secretVariable)) :
    (CredentialSource.ofKeys environment id secret).localCredentials? =
      some (.lasting (valueOf environment idVariable) (valueOf environment secretVariable)) :=
  if_neg (Bool.eq_false_iff.mp (isEmpty_eq_false.mpr whole))

include unset

theorem local_of_configured (whole : Whole id secret) :
    (CredentialSource.ofKeys environment id secret).localCredentials? =
      some (.lasting id secret) := by
  refine (if_pos (isEmpty_eq_true.mpr unset)).trans ?_
  exact if_neg (Bool.eq_false_iff.mp (isEmpty_eq_false.mpr whole))

theorem local_eq_none (unconfigured : ¬Whole id secret) :
    (CredentialSource.ofKeys environment id secret).localCredentials? = none := by
  refine (if_pos (isEmpty_eq_true.mpr unset)).trans ?_
  exact if_pos (isEmpty_eq_true.mpr unconfigured)

end Local

/-- A program that asks one question and takes something of its answer. -/
theorem history_query_map {β : Type} {question : Ask} {f : question.Answer → β} {found : β} :
    History (do return f (← question.ask) : NodeProgram β) es found ↔
      ∃ reply, es = [⟨question, reply⟩] ∧ found = f reply := by
  refine history_bind.trans ?_
  constructor
  · rintro ⟨before, reply, after, rfl, hq, hp⟩
    obtain rfl := history_query.mp hq
    obtain ⟨rfl, rfl⟩ := history_pure.mp hp
    exact ⟨reply, rfl, rfl⟩
  · rintro ⟨reply, rfl, rfl⟩
    exact ⟨_, reply, [], rfl, history_query.mpr rfl, history_pure.mpr ⟨rfl, rfl⟩⟩

/-- The role is looked up, and its token where there is one. -/
theorem history_roleCredentials_iff {found : Option Credentials} :
    History roleCredentials es found ↔
      (∃ reply : Option String, es = [⟨.cloud (.metadata roleResource), reply⟩] ∧
        reply.bind firstRole? = none ∧ found = none) ∨
      ∃ (list role : String) (reply : Option String), firstRole? list = some role ∧
        es = [⟨.cloud (.metadata roleResource), some list⟩,
          ⟨.cloud (.metadata (roleResource ++ role)), reply⟩] ∧
        found = (reply.bind RoleToken.ofDocument?).bind RoleToken.credentials? := by
  rw [roleCredentials, history_bind]
  constructor
  · rintro ⟨before, named, after, rfl, hn, h⟩
    obtain ⟨reply, rfl, rfl⟩ := history_query_map.mp hn
    cases named : reply.bind firstRole? with
    | none =>
      rw [named] at h
      obtain ⟨rfl, rfl⟩ := history_pure.mp h
      exact .inl ⟨reply, rfl, named, rfl⟩
    | some role =>
      rw [named] at h
      obtain ⟨asked, token, after, rfl, ht, hp⟩ := history_bind.mp h
      obtain ⟨second, rfl, rfl⟩ := history_query_map.mp ht
      obtain ⟨rfl, rfl⟩ := history_pure.mp hp
      obtain ⟨list, rfl, first⟩ := Option.bind_eq_some_iff.mp named
      exact .inr ⟨list, role, second, first, rfl, rfl⟩
  · rintro (⟨reply, rfl, unnamed, rfl⟩ | ⟨list, role, second, first, rfl, rfl⟩)
    · refine ⟨_, reply.bind firstRole?, [], rfl, history_query_map.mpr ⟨reply, rfl, rfl⟩, ?_⟩
      rw [unnamed]
      exact history_pure.mpr ⟨rfl, rfl⟩
    · have named : (some list).bind firstRole? = some role := first
      refine ⟨_, (some list).bind firstRole?, _, rfl, history_query_map.mpr ⟨_, rfl, rfl⟩, ?_⟩
      rw [named]
      exact history_bind.mpr ⟨_, _, [], rfl, history_query_map.mpr ⟨second, rfl, rfl⟩,
        history_pure.mpr ⟨rfl, rfl⟩⟩

theorem history_resolve_of_local {source : CredentialSource} {found : Credentials}
    (given : source.localCredentials? = some found) :
    History source.resolve es credentials ↔ es = [] ∧ credentials = found := by
  rw [CredentialSource.resolve, given]
  exact history_pure

theorem history_resolve_of_none {source : CredentialSource}
    (none : source.localCredentials? = none) :
    History source.resolve es credentials ↔
      ∃ found, History roleCredentials es found ∧ credentials = found.getD Credentials.none := by
  rw [CredentialSource.resolve, none]
  refine history_bind.trans ?_
  constructor
  · rintro ⟨before, found, after, rfl, hr, hp⟩
    obtain ⟨rfl, rfl⟩ := history_pure.mp hp
    exact ⟨found, by rwa [List.append_nil], rfl⟩
  · rintro ⟨found, hr, rfl⟩
    exact ⟨es, found, [], by simp, hr, history_pure.mpr ⟨rfl, rfl⟩⟩

theorem history_resolve_iff :
    History (CredentialSource.ofKeys environment id secret).resolve es credentials ↔
      Resolved environment id secret es credentials := by
  constructor
  · intro h
    by_cases set : Whole (valueOf environment idVariable) (valueOf environment secretVariable)
    · obtain ⟨rfl, rfl⟩ := (history_resolve_of_local (local_of_environment set)).mp h
      exact .environment set
    by_cases whole : Whole id secret
    · obtain ⟨rfl, rfl⟩ := (history_resolve_of_local (local_of_configured set whole)).mp h
      exact .configured set whole
    obtain ⟨found, hr, rfl⟩ := (history_resolve_of_none (local_eq_none set whole)).mp h
    rcases history_roleCredentials_iff.mp hr with
      ⟨reply, rfl, unnamed, rfl⟩ | ⟨list, role, reply, named, rfl, rfl⟩
    · exact .noRole set whole (unnamed_iff.mp unnamed)
    · have named := firstRole?_eq_some.mp named
      cases issued : (reply.bind RoleToken.ofDocument?).bind RoleToken.credentials? with
      | none => exact .noToken set whole named (refused_iff.mp issued)
      | some found =>
        rw [Option.bind_assoc] at issued
        obtain ⟨document, rfl, issued⟩ := Option.bind_eq_some_iff.mp issued
        obtain ⟨token, issues, rfl⟩ := credentials_of_document.mp issued
        exact .role set whole named issues
  · intro h
    cases h with
    | environment whole =>
      exact (history_resolve_of_local (local_of_environment whole)).mpr ⟨rfl, rfl⟩
    | configured unset whole =>
      exact (history_resolve_of_local (local_of_configured unset whole)).mpr ⟨rfl, rfl⟩
    | role unset unconfigured named issues =>
      refine (history_resolve_of_none (local_eq_none unset unconfigured)).mpr ⟨some _, ?_, rfl⟩
      refine history_roleCredentials_iff.mpr (.inr ⟨_, _, _, firstRole?_eq_some.mpr named, rfl, ?_⟩)
      exact (credentials_of_document.mpr ⟨_, issues, rfl⟩).symm
    | noToken unset unconfigured named refused =>
      refine (history_resolve_of_none (local_eq_none unset unconfigured)).mpr ⟨none, ?_, rfl⟩
      refine history_roleCredentials_iff.mpr (.inr ⟨_, _, _, firstRole?_eq_some.mpr named, rfl, ?_⟩)
      exact (refused_iff.mpr refused).symm
    | noRole unset unconfigured unnamed =>
      refine (history_resolve_of_none (local_eq_none unset unconfigured)).mpr ⟨none, ?_, rfl⟩
      exact history_roleCredentials_iff.mpr (.inl ⟨_, rfl, unnamed_iff.mpr unnamed, rfl⟩)

/-- Only the token of a role makes credentials temporary. -/
theorem Resolved.of_isTemporary (h : Resolved environment id secret es credentials)
    (temporary : credentials.isTemporary = true) :
    ∃ list role document token, FirstRole list role ∧ Issues document token ∧
      es = [⟨.cloud (.metadata roleResource), some list⟩,
        ⟨.cloud (.metadata (roleResource ++ role)), some document⟩] ∧
      credentials = .temporary token.id token.secret token.token := by
  cases h with
  | role unset unconfigured named issues => exact ⟨_, _, _, _, named, issues, rfl, rfl⟩
  | _ => cases temporary

/-- Credentials come whole from the first source that has all their parts: the environment, the
configured keys, or the token of the first role, with the look-ups that it takes; where there is none,
they are empty. In any surroundings they are resolved so, and they are temporary only if a token was
issued for them. -/
theorem credentials_from_first_source (environment : List (String × String)) (id secret : String) :
    (∀ es credentials,
      History (CredentialSource.ofKeys environment id secret).resolve es credentials ↔
        Resolved environment id secret es credentials) ∧
    (∀ (σ : Type) (answer : (q : Ask) → σ → Ask.Answer q × σ) (s : σ),
      Resolved environment id secret
        (((CredentialSource.ofKeys environment id secret).resolve.moments answer s).map Prod.snd)
        ((CredentialSource.ofKeys environment id secret).resolve.run answer s).1) ∧
    ∀ es credentials, Resolved environment id secret es credentials →
      credentials.isTemporary = true →
        ∃ list role document token, FirstRole list role ∧ Issues document token ∧
          es = [⟨.cloud (.metadata roleResource), some list⟩,
            ⟨.cloud (.metadata (roleResource ++ role)), some document⟩] ∧
          credentials = .temporary token.id token.secret token.token := by
  refine ⟨fun _ _ => history_resolve_iff, fun σ answer s => ?_, fun _ _ h => h.of_isTemporary⟩
  exact history_resolve_iff.mp
    (course_self answer (CredentialSource.ofKeys environment id secret).resolve s).history

end BlockVolume.Cloud
