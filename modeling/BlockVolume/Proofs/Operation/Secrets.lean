import BlockVolume.Proofs.Cloud.Masking
import BlockVolume.Proofs.InStep
import BlockVolume.Proofs.Operation.Alphabet
/-!
Operations that know different secrets.

Two exchanges are alike if they are the same, or build clients for credentials with the same mask, or
fetch role documents with the same mask. Wherever an operation decides something it does so by what is
in the mask. So operations whose sources have the same mask are in step, whatever else they are told:
they differ in the credentials that clients are built for, and end with the same result.
-/

namespace BlockVolume

open BlockVolume.Cloud (ApiError Client CredentialSource Credentials Disk RoleToken)
open BlockVolume.Program
open BlockVolume.Volume (Request)

/-- A question with the secrets in it hidden. -/
def Ask.masked : Ask → Ask
  | .cloud (.client credentials) => .cloud (.client credentials.masked)
  | question => question

/-- The resource is the token document of some role. -/
def IsRoleDocument (resource : String) : Prop :=
  ∃ role, role ≠ "" ∧ resource = Cloud.roleResource ++ role

/-- Questions that differ in secrets only. -/
inductive AlikeAsk : Ask → Ask → Prop where
  | same (question : Ask) : AlikeAsk question question
  | client {credentials credentials' : Credentials}
      (mask : credentials.masked = credentials'.masked) :
      AlikeAsk (.cloud (.client credentials)) (.cloud (.client credentials'))

/-- Exchanges that differ in secrets only. -/
inductive AlikeExchange : Exchange Ask.Answer → Exchange Ask.Answer → Prop where
  | same (e : Exchange Ask.Answer) : AlikeExchange e e
  | client {credentials credentials' : Credentials}
      (mask : credentials.masked = credentials'.masked) (reply : Option Api) :
      AlikeExchange ⟨.cloud (.client credentials), reply⟩ ⟨.cloud (.client credentials'), reply⟩
  | document {resource : String} (role : IsRoleDocument resource)
      {reply reply' : Option String}
      (mask : reply.map RoleToken.maskedDocument = reply'.map RoleToken.maskedDocument) :
      AlikeExchange ⟨.cloud (.metadata resource), reply⟩ ⟨.cloud (.metadata resource), reply'⟩

/-- All but secrets is alike. -/
def butSecrets : Likeness Ask.Answer := ⟨AlikeAsk, AlikeExchange⟩

/-- Options that are the same once they are mapped are both nothing, or hold values of which that is
true. -/
theorem rel_of_map_eq {α β : Type} {f : α → β} {x y : Option α} (h : x.map f = y.map f) :
    Option.Rel (fun a b => f a = f b) x y := by
  cases x <;> cases y
  case none.none => exact .none
  case some.some a b => exact .some (Option.some.inj h)
  all_goals cases h

section Exchanges

variable {resource : String} {question : Ask}

/-- Only what the metadata service answers may differ between alike answers. -/
theorem isPlain_of_ne_metadata (other : ∀ resource, question ≠ .cloud (.metadata resource)) :
    butSecrets.IsPlain question := by
  refine ⟨.same question, fun reply reply' h => ?_⟩
  cases h with
  | same => rfl
  | client => rfl
  | document => exact absurd rfl (other _)

/-- And there only the documents of roles. -/
theorem isPlain_metadata (other : ¬IsRoleDocument resource) :
    butSecrets.IsPlain (.cloud (.metadata resource)) := by
  refine ⟨.same _, fun reply reply' h => ?_⟩
  cases h with
  | same => rfl
  | document role => exact absurd role other

/-- Documents from metadata differ in secrets at most. -/
theorem inStep_metadata (resource : String) :
    InStep butSecrets
      (fun reply reply' => reply.map RoleToken.maskedDocument = reply'.map RoleToken.maskedDocument)
      (CloudAsk.metadata resource).ask (CloudAsk.metadata resource).ask := by
  refine .ask (AlikeAsk.same _) fun reply reply' h => .done ?_
  cases h with
  | same => rfl
  | document _ mask => exact mask

theorem inStep_client {credentials credentials' : Credentials}
    (mask : credentials.masked = credentials'.masked) :
    InStep butSecrets Eq (CloudAsk.client credentials).ask (CloudAsk.client credentials').ask := by
  refine .ask (AlikeAsk.client mask) fun reply reply' h => .done ?_
  cases h <;> rfl

/-- A resource that goes on from the role list with nothing is the role list. -/
theorem not_isRoleDocument_roleResource : ¬IsRoleDocument Cloud.roleResource := by
  rintro ⟨role, some, same⟩
  have lengths := congrArg (fun s : String => s.toList.length) same
  simp only [String.toList_append, List.length_append] at lengths
  have none : role.toList = [] := List.length_eq_zero_iff.mp (by omega)
  exact some (String.toList_eq_nil_iff.mp none)

/-- A resource with another beginning than the role list is no document of a role. -/
theorem not_isRoleDocument_of_take
    (other : resource.toList.take 2 ≠ ['r', 'a']) : ¬IsRoleDocument resource := by
  rintro ⟨role, -, rfl⟩
  have start : Cloud.roleResource.toList = 'r' :: 'a' :: Cloud.roleResource.toList.drop 2 := by
    decide
  rw [String.toList_append, start] at other
  exact other rfl

end Exchanges

/-! ### Clients -/

namespace Cloud

section Clients

variable {source source' : CredentialSource} {client client' : Client}
  {credentials credentials' : Credentials}

theorem inStep_roleName : InStep butSecrets Eq roleName roleName :=
  InStep.refl (Only.bind (only_query (isPlain_metadata not_isRoleDocument_roleResource)) fun _ =>
    only_pure _)

theorem inStep_roleToken (role : String) :
    InStep butSecrets (fun found found' => found.map RoleToken.masked = found'.map RoleToken.masked)
      (roleToken role) (roleToken role) := by
  refine (inStep_metadata _).bind fun reply reply' masks => inStep_pure ?_
  cases rel_of_map_eq masks with
  | none => rfl
  | some mask => exact RoleToken.map_masked_ofDocument?_congr mask

theorem inStep_roleCredentials :
    InStep butSecrets
      (fun found found' => found.map Credentials.masked = found'.map Credentials.masked)
      roleCredentials roleCredentials := by
  refine inStep_roleName.bind fun role _ same => ?_
  subst same
  cases role with
  | none => exact inStep_pure rfl
  | some role =>
    refine (inStep_roleToken role).bind fun found found' mask => inStep_pure ?_
    have served (found : Option RoleToken) :
        (found.bind RoleToken.credentials?).map Credentials.masked =
          (found.map RoleToken.masked).bind RoleToken.credentials? := by
      cases found with
      | none => rfl
      | some token => exact (RoleToken.credentials?_masked token).symm
    rw [served, served, mask]

/-- From sources with the same mask come credentials with the same mask. -/
theorem inStep_resolve (sources : source.masked = source'.masked) :
    InStep butSecrets (fun found found' => found.masked = found'.masked) source.resolve
      source'.resolve := by
  have here : source.localCredentials?.map Credentials.masked =
      source'.localCredentials?.map Credentials.masked := by
    rw [← CredentialSource.localCredentials?_masked, sources,
      CredentialSource.localCredentials?_masked]
  rw [CredentialSource.resolve, CredentialSource.resolve]
  generalize source.localCredentials? = found at here
  generalize source'.localCredentials? = found' at here
  cases rel_of_map_eq here with
  | some mask => exact inStep_pure mask
  | none =>
    refine inStep_roleCredentials.bind fun found found' masks => inStep_pure ?_
    cases rel_of_map_eq masks with
    | none => rfl
    | some mask => exact mask

theorem isEmpty_eq_of_masked (mask : credentials.masked = credentials'.masked) :
    credentials.isEmpty = credentials'.isEmpty := by
  rw [← Credentials.isEmpty_masked, mask, Credentials.isEmpty_masked]

/-- Clients for them have the same handle, or there is none in either case. -/
theorem inStep_build (mask : credentials.masked = credentials'.masked) :
    InStep butSecrets (fun built built' => built.map Client.masked = built'.map Client.masked)
      (Client.build credentials) (Client.build credentials') := by
  rw [Client.build, Client.build, isEmpty_eq_of_masked mask]
  split
  · exact inStep_pure rfl
  · refine (inStep_client mask).bind fun reply _ same => inStep_pure ?_
    subst same
    cases reply with
    | none => rfl
    | some api => exact congrArg some (Client.masked_eq_iff.mpr ⟨rfl, mask⟩)

theorem inStep_connect (sources : source.masked = source'.masked) :
    InStep butSecrets (fun built built' => built.map Client.masked = built'.map Client.masked)
      (Client.connect source) (Client.connect source') :=
  (inStep_resolve sources).bind fun _ _ mask => inStep_build mask

/-- Clients are refreshed in step: they expire alike. -/
theorem inStep_refresh (sources : source.masked = source'.masked)
    (clients : client.masked = client'.masked) :
    InStep butSecrets (fun next next' => next.masked = next'.masked) (client.refresh source)
      (client'.refresh source') := by
  have mask := (Client.masked_eq_iff.mp clients).2
  have expires : client.credentials.isTemporary = client'.credentials.isTemporary := by
    rw [← Credentials.isTemporary_masked, mask, Credentials.isTemporary_masked]
  rw [Client.refresh, Client.refresh, expires]
  split
  · refine (inStep_resolve sources).bind fun _ _ found => ?_
    refine (inStep_build found).bind fun built built' same => inStep_pure ?_
    cases rel_of_map_eq same with
    | none => exact clients
    | some next => exact next
  · exact inStep_pure clients

end Clients
end Cloud

/-! ### Calls -/

namespace Operation

/-- Settings that differ in secrets only. -/
structure AlikeSettings (setting setting' : Setting) : Prop where
  sources : setting.source.masked = setting'.source.masked
  policy : setting.policy = setting'.policy
  context : setting.context = setting'.context

/-- Clients that differ in secrets only, with the same value each. -/
inductive AlikeHeld {α : Type} : Client × α → Client × α → Prop where
  | held {client client' : Client} (mask : client.masked = client'.masked) (value : α) :
      AlikeHeld (client, value) (client', value)

section Calls

variable {α : Type} {setting setting' : Setting} {client client' : Client}
  {call : Api → NodeProgram (Except ApiError α)}

theorem stepInStep_fail {β β' : Type} {ends : β → β' → Prop} (h : AlikeSettings setting setting')
    (problem : Problem) :
    StepInStep butSecrets ends (setting.fail problem) (setting'.fail problem) := by
  rw [Setting.fail, Setting.fail, h.context]
  exact stepInStep_throw _

/-- A question to anything but the metadata service is in step with itself. -/
theorem inStep_plain {question : Ask} (other : ∀ resource, question ≠ .cloud (.metadata resource)) :
    InStep butSecrets Eq question.ask question.ask :=
  InStep.refl (only_query (isPlain_of_ne_metadata other))

theorem inStep_callOnce (h : AlikeSettings setting setting')
    (plain : ∀ api, Only butSecrets.IsPlain (call api)) (clients : client.masked = client'.masked) :
    InStep butSecrets AlikeHeld (setting.callOnce call client) (setting'.callOnce call client') := by
  have called {client client' : Client} (clients : client.masked = client'.masked) :
      InStep butSecrets Eq (call client.api) (call client'.api) := by
    rw [(Client.masked_eq_iff.mp clients).1]
    exact InStep.refl (plain _)
  refine (called clients).bind fun reply _ same => ?_
  subst same
  cases reply with
  | ok value => exact inStep_pure (.held clients _)
  | error e =>
    dsimp only
    split
    · refine (Cloud.inStep_refresh h.sources clients).bind fun next next' fresh => ?_
      refine (called fresh).bind fun reply _ same => inStep_pure ?_
      subst same
      exact .held fresh reply
    · exact inStep_pure (.held clients _)

theorem inStep_callAgain (h : AlikeSettings setting setting')
    (plain : ∀ api, Only butSecrets.IsPlain (call api)) (left attempt : Nat)
    (clients : client.masked = client'.masked) :
    StepInStep butSecrets AlikeHeld (setting.callAgain call left attempt client)
      (setting'.callAgain call left attempt client') := by
  induction left using Nat.strongRecOn generalizing attempt client client' with
  | ind left ih =>
  rw [Setting.callAgain, Setting.callAgain]
  refine (inStep_callOnce h plain clients).lift_bind fun held held' same => ?_
  cases same with
  | held fresh reply =>
  cases reply with
  | ok value => exact stepInStep_pure (.held fresh _)
  | error e =>
    dsimp only
    split
    case isFalse => exact stepInStep_fail h _
    case isTrue =>
    cases left with
    | zero => exact stepInStep_fail h _
    | succ left =>
      dsimp only
      rw [h.policy]
      refine (inStep_plain (by simp)).lift_bind fun _ _ _ => ?_
      refine (Cloud.inStep_refresh h.sources fresh).lift_bind fun again again' same => ?_
      exact ih left (Nat.lt_succ_self left) (attempt + 1) same

theorem inStep_call (h : AlikeSettings setting setting')
    (plain : ∀ api, Only butSecrets.IsPlain (call api)) (clients : client.masked = client'.masked) :
    StepInStep butSecrets AlikeHeld (setting.call call client) (setting'.call call client') := by
  rw [Setting.call, Setting.call, h.policy]
  exact inStep_callAgain h plain _ _ clients

theorem stepInStep_connect (h : AlikeSettings setting setting') :
    StepInStep butSecrets (fun client client' => client.masked = client'.masked) setting.connect
      setting'.connect := by
  refine (Cloud.inStep_connect h.sources).lift_bind fun built built' masks => ?_
  cases rel_of_map_eq masks with
  | none => exact stepInStep_fail h _
  | some same => exact stepInStep_pure same

theorem stepInStep_describe (h : AlikeSettings setting setting') (region : String)
    (clients : client.masked = client'.masked) :
    StepInStep butSecrets AlikeHeld (setting.describe region client)
      (setting'.describe region client') := by
  rw [Setting.describe, Setting.describe, h.context]
  refine (inStep_call h (fun api => only_query (isPlain_of_ne_metadata (by simp))) clients).bind
    fun held held' same => ?_
  cases same with
  | held fresh found =>
  cases found with
  | none => exact stepInStep_fail h _
  | some disk => exact stepInStep_pure (.held fresh _)

theorem stepInStep_watch (h : AlikeSettings setting setting') (region expected : String)
    (settled : Disk → Bool) (left attempt : Nat) (clients : client.masked = client'.masked) :
    StepInStep butSecrets AlikeHeld (setting.watch region expected settled left attempt client)
      (setting'.watch region expected settled left attempt client') := by
  induction left generalizing attempt client client' with
  | zero =>
    rw [Setting.watch, Setting.watch, h.policy]
    exact stepInStep_fail h _
  | succ left ih =>
    rw [Setting.watch, Setting.watch, h.policy]
    refine (stepInStep_describe h region clients).bind fun held held' same => ?_
    cases same with
    | held fresh disk =>
    dsimp only
    split
    · exact stepInStep_pure (.held fresh _)
    · split
      · refine (inStep_plain (by simp)).lift_bind fun _ _ _ => ?_
        exact ih (attempt + 1) fresh
      · exact ih (attempt + 1) fresh

theorem stepInStep_waitFor (h : AlikeSettings setting setting') (region expected : String)
    (settled : Disk → Bool) (clients : client.masked = client'.masked) :
    StepInStep butSecrets AlikeHeld (setting.waitFor region expected settled client)
      (setting'.waitFor region expected settled client') := by
  rw [Setting.waitFor, Setting.waitFor, h.policy]
  exact stepInStep_watch h region expected settled _ _ clients

end Calls
/-! ### Operations -/

section Operations

variable {setting setting' : Setting} {client client' : Client} {request : Request} {target : Path}

theorem isPlain_of_isHost {question : Ask} (h : question.isHost) : butSecrets.IsPlain question :=
  isPlain_of_ne_metadata fun resource same => by
    subst same
    cases h

theorem isPlain_of_isInspecting {question : Ask} (h : question.isInspecting) :
    butSecrets.IsPlain question :=
  isPlain_of_ne_metadata fun resource same => by
    subst same
    cases h

/-- What is done on the host, or ends in an error, does not depend on where credentials come from. -/
theorem mountDevice_congr (same : setting.context = setting'.context) (disk : Disk) :
    mountDevice setting request disk target = mountDevice setting' request disk target := by
  obtain ⟨_, _, context⟩ := setting
  obtain ⟨_, _, context'⟩ := setting'
  subst same
  rfl

theorem unmountTarget_congr (same : setting.context = setting'.context) :
    unmountTarget setting target = unmountTarget setting' target := by
  obtain ⟨_, _, context⟩ := setting
  obtain ⟨_, _, context'⟩ := setting'
  subst same
  rfl

theorem mountsElsewhere_congr (same : setting.context = setting'.context) (own devices : List Path) :
    mountsElsewhere setting own devices = mountsElsewhere setting' own devices := by
  induction devices with
  | nil => rfl
  | cons device devices ih =>
    rw [mountsElsewhere, mountsElsewhere, ih]
    obtain ⟨_, _, context⟩ := setting
    obtain ⟨_, _, context'⟩ := setting'
    subst same
    rfl

theorem stepInStep_mountDevice (h : AlikeSettings setting setting') (disk : Disk) :
    StepInStep butSecrets Eq (mountDevice setting request disk target)
      (mountDevice setting' request disk target) := by
  rw [mountDevice_congr h.context]
  exact StepInStep.refl
    (only_mountDevice (fun _ => isPlain_of_isInspecting) fun _ => isPlain_of_isHost rfl)

theorem stepInStep_unmountTarget (h : AlikeSettings setting setting') :
    StepInStep butSecrets Eq (unmountTarget setting target) (unmountTarget setting' target) := by
  rw [unmountTarget_congr h.context]
  exact StepInStep.refl (only_unmounting (isPlain_of_isHost rfl) (isPlain_of_isHost rfl))

theorem stepInStep_mountsElsewhere (h : AlikeSettings setting setting') (own devices : List Path) :
    StepInStep butSecrets Eq (mountsElsewhere setting own devices)
      (mountsElsewhere setting' own devices) := by
  rw [mountsElsewhere_congr h.context]
  exact StepInStep.refl fun _ _ hp e he =>
    isPlain_of_isHost (isHost_mountsElsewhere own devices hp e he)

/-- A disk is watched and mounted in step. -/
theorem stepInStep_watch_mount (h : AlikeSettings setting setting')
    (clients : client.masked = client'.masked) :
    StepInStep butSecrets Eq
      (setting.waitFor request.region "attached" (·.isSettledOn request.node) client >>=
        fun found => mountDevice setting request found.2 target)
      (setting'.waitFor request.region "attached" (·.isSettledOn request.node) client' >>=
        fun found => mountDevice setting' request found.2 target) := by
  refine (stepInStep_waitFor h _ _ _ clients).bind fun held held' same => ?_
  cases same with
  | held _ disk => exact stepInStep_mountDevice h disk

theorem stepInStep_attach (h : AlikeSettings setting setting') :
    StepInStep butSecrets Eq (attach setting request target) (attach setting' request target) := by
  refine (stepInStep_connect h).bind fun client client' clients => ?_
  refine (stepInStep_describe h _ clients).bind fun held held' same => ?_
  cases same with
  | held fresh disk =>
  dsimp only
  split
  · exact stepInStep_watch_mount h fresh
  · refine (inStep_call h (fun api => only_query (isPlain_of_ne_metadata (by simp))) fresh).bind
      fun held held' same => ?_
    cases same with
    | held again _ => exact stepInStep_watch_mount h again

theorem stepInStep_describe? (h : AlikeSettings setting setting') (region : String)
    (clients : client.masked = client'.masked) :
    StepInStep butSecrets (Option.Rel AlikeHeld) (describe? setting region client)
      (describe? setting' region client') := by
  refine InStep.bind (stepInStep_describe h region clients) fun outcome outcome' same => ?_
  cases same with
  | ok same => exact .done (.ok (.some same))
  | error e =>
    cases e with
    | validation e => exact .done (.error _)
    | failed context problem =>
      cases problem
      case diskNotFound => exact .done (.ok .none)
      all_goals exact .done (.error _)

theorem stepInStep_detach (h : AlikeSettings setting setting') :
    StepInStep butSecrets Eq (detach setting request target) (detach setting' request target) := by
  refine (stepInStep_connect h).bind fun client client' clients => ?_
  refine (stepInStep_describe? h _ clients).bind fun found found' same => ?_
  cases same with
  | none => exact stepInStep_unmountTarget h
  | @some held held' same =>
  cases same with
  | held fresh disk =>
  dsimp only
  split
  · exact stepInStep_unmountTarget h
  · refine (inStep_plain (by simp)).lift_bind fun own _ same => ?_
    subst same
    refine (stepInStep_mountsElsewhere h _ _).bind fun busy _ same => ?_
    subst same
    split
    · refine (stepInStep_unmountTarget h).bind fun _ _ _ => ?_
      refine (inStep_call h (fun api => only_query (isPlain_of_ne_metadata (by simp))) fresh).bind
        fun held held' same => ?_
      cases same with
      | held again _ =>
        refine (stepInStep_waitFor h _ _ _ again).bind fun _ _ _ => ?_
        exact stepInStep_pure rfl
    · exact stepInStep_fail h _

end Operations

/-- Actions of attachers that differ in secrets only are in step, and come to the same outcome. -/
theorem inStep_execute {attacher attacher' : Attacher}
    (sources : attacher.source.masked = attacher'.source.masked)
    (policies : attacher.policy = attacher'.policy) (action : Action) (request : Request)
    (target : Path) :
    InStep butSecrets Eq (attacher.execute action request target)
      (attacher'.execute action request target) := by
  have settings (action : Action) :
      AlikeSettings (attacher.setting action request) (attacher'.setting action request) :=
    ⟨sources, policies, rfl⟩
  have performed : StepInStep butSecrets Eq (attacher.perform action request target)
      (attacher'.perform action request target) := by
    cases action with
    | attach => exact stepInStep_attach (settings .attach)
    | detach => exact stepInStep_detach (settings .detach)
  refine InStep.bind performed fun result result' same => inStep_pure ?_
  rw [same.eq]

end Operation
end BlockVolume
