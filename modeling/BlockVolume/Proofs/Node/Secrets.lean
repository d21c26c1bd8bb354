import BlockVolume.Proofs.Node.Frame
import BlockVolume.Proofs.Node.Serialization
import BlockVolume.Proofs.Operation.Secrets
/-!
Secrets do not flow out of staging and unstaging.

What can be seen of a call is its answer, the questions it asks with the secrets in them hidden,
what is written out of the values it comes by, and the host it leaves (`View`). Two nodes that were
told different secrets, in worlds whose clouds give out different secrets and are alike otherwise,
show the same.
-/

namespace BlockVolume

open BlockVolume.Cloud (Client CredentialSource Credentials RoleToken)
open BlockVolume.Operation (Action Outcome Status)
open BlockVolume.Program
open BlockVolume.Volume (Request)

/-! ### Texts -/

namespace Cloud

variable {credentials credentials' : Credentials}

theorem Credentials.describe_congr (mask : credentials.masked = credentials'.masked) :
    credentials.describe = credentials'.describe := by
  rw [← credentials.describe_masked, mask, credentials'.describe_masked]

namespace RoleToken

/-- What is written out of a token, and of the credentials in it. -/
def texts (token : RoleToken) : List String :=
  [token.describe, (Credentials.temporary token.id token.secret token.token).describe]

@[simp] theorem texts_masked (token : RoleToken) : token.masked.texts = token.texts := rfl

/-- What is written out of the token in a document, if there is one. -/
def textsOf (document : String) : List String := ((parse document).toOption.map texts).getD []

theorem textsOf_congr {document document' : String}
    (mask : maskedDocument document = maskedDocument document') :
    textsOf document = textsOf document' := by
  have shown (document : String) :
      (parse document).toOption.map texts = ((parse document).toOption.map masked).map texts := by
    rw [Option.map_map]
    rfl
  rw [textsOf, textsOf, shown, map_masked_parse_congr mask, ← shown]

end RoleToken

/-- What is written out of the credentials that a source holds. -/
def CredentialSource.texts (source : CredentialSource) : List String :=
  (source.configured.toList ++ source.localCredentials?.toList).map Credentials.describe

theorem CredentialSource.texts_masked (source : CredentialSource) :
    source.masked.texts = source.texts := by
  have configured : source.masked.configured = source.configured.map Credentials.masked := rfl
  rw [texts, texts, localCredentials?_masked, configured, Option.toList_map, Option.toList_map,
    ← List.map_append, List.map_map]
  exact List.map_congr_left fun credentials _ => credentials.describe_masked

end Cloud

/-- What is written out of the values that an exchange brings: credentials and the client for them,
or the token in a document and its credentials. -/
def textsOf : Exchange Ask.Answer → List String
  | ⟨.cloud (.client credentials), built⟩ =>
    credentials.describe :: (built.map fun api => (Client.mk api credentials).describe).toList
  | ⟨.cloud (.metadata _), found⟩ => (found.map RoleToken.textsOf).getD []
  | _ => []

variable {e e' : Exchange Ask.Answer}

/-- The same answers to the same question are alike. -/
theorem AlikeExchange.of_eq {question : Ask} {reply reply' : question.Answer} (h : reply = reply') :
    AlikeExchange ⟨question, reply⟩ ⟨question, reply'⟩ :=
  h ▸ .same _

/-- Alike exchanges show the same question. -/
theorem AlikeExchange.masked_question (h : AlikeExchange e e') :
    e.question.masked = e'.question.masked := by
  cases h with
  | same => rfl
  | client mask => exact congrArg (fun shown => Ask.cloud (.client shown)) mask
  | document => rfl

/-- And the same texts. -/
theorem AlikeExchange.textsOf_eq (h : AlikeExchange e e') : textsOf e = textsOf e' := by
  cases h with
  | same => rfl
  | client mask built =>
    simp only [textsOf, Client.describe, Credentials.describe_congr mask]
  | document _ masks =>
    cases rel_of_map_eq masks with
    | none => rfl
    | some mask => exact RoleToken.textsOf_congr mask

namespace Node

/-! ### Calls -/

namespace Service

variable {service service' : Service}

/-- A request is read alike wherever the default region is the same. -/
theorem inStep_parse (regions : service.defaultRegion = service'.defaultRegion) (call : VolumeCall) :
    InStep butSecrets Eq (service.parse call.volume call.options).run
      (service'.parse call.volume call.options).run := by
  have read : Only butSecrets.IsPlain (service.parse call.volume call.options).run := by
    refine Only.bind (Volume.only_reading ?_ ?_ ?_ _ _) fun _ => only_pure _
    all_goals exact isPlain_metadata (not_isRoleDocument_of_take (by decide))
  have same : service'.parse call.volume call.options = service.parse call.volume call.options := by
    rw [parse, parse, regions]
  rw [same]
  exact InStep.refl read

/-- Calls of services that differ in secrets only are in step, and end with the same answer. -/
theorem inStep_program (services : service.masked = service'.masked) (call : VolumeCall) :
    InStep butSecrets Eq (service.program call) (service'.program call) := by
  have regions : service.defaultRegion = service'.defaultRegion :=
    congrArg (fun shown => shown.defaultRegion) services
  have sources : service.attacher.source.masked = service'.attacher.source.masked :=
    congrArg (fun shown => shown.attacher.source) services
  have policies : service.attacher.policy = service'.attacher.policy :=
    congrArg (fun shown => shown.attacher.policy) services
  rw [program_eq, program_eq]
  refine (inStep_parse regions call).bind fun read _ same => ?_
  subst same
  cases read with
  | error status => exact inStep_pure rfl
  | ok request =>
    refine (Operation.inStep_plain (by simp)).bind fun _ _ _ => ?_
    refine (Operation.inStep_execute sources policies call.action request call.staging).bind
      fun outcome _ same => ?_
    subst same
    exact (Operation.inStep_plain (by simp)).bind fun _ _ _ => inStep_pure rfl

end Service

/-! ### Worlds -/

section Worlds

variable {σ σ' μ : Type}

/-- Clouds that give out different secrets at most, from states that belong together: documents of
roles may differ in secrets, all other metadata is the same, and so is what clients for credentials
with the same mask answer. How long they take for it is open. -/
structure CloudModel.Alike (cloud : CloudModel σ) (cloud' : CloudModel σ')
    (together : σ → σ' → Prop) : Prop where
  metadata : ∀ {s s'}, together s s' → ∀ resource,
    AlikeExchange ⟨.cloud (.metadata resource), (cloud.metadata resource s).1⟩
        ⟨.cloud (.metadata resource), (cloud'.metadata resource s').1⟩ ∧
      together (cloud.metadata resource s).2 (cloud'.metadata resource s').2
  accepts : ∀ {s s'}, together s s' → ∀ {credentials credentials' : Credentials},
    credentials.masked = credentials'.masked →
      (cloud.accepts credentials s).1 = (cloud'.accepts credentials' s').1 ∧
        together (cloud.accepts credentials s).2 (cloud'.accepts credentials' s').2
  describe : ∀ {s s'}, together s s' → ∀ {credentials credentials' : Credentials},
    credentials.masked = credentials'.masked → ∀ region disk,
      (cloud.describe credentials region disk s).1.1 =
          (cloud'.describe credentials' region disk s').1.1 ∧
        together (cloud.describe credentials region disk s).2
          (cloud'.describe credentials' region disk s').2
  change : ∀ {s s'}, together s s' → ∀ action {credentials credentials' : Credentials},
    credentials.masked = credentials'.masked → ∀ disk node,
      (cloud.change action credentials disk node s).1.1 =
          (cloud'.change action credentials' disk node s').1.1 ∧
        together (cloud.change action credentials disk node s).2
          (cloud'.change action credentials' disk node s').2

namespace World

/-- Worlds that differ in secrets at most, as far as an operation can see: time, locks and logs are
left open. -/
structure Alike (together : σ → σ' → Prop) (world : World σ μ) (world' : World σ' μ) : Prop where
  clouds : together world.cloud world'.cloud
  hosts : world.host = world'.host
  clients : world.clients.map Credentials.masked = world'.clients.map Credentials.masked

variable {together : σ → σ' → Prop} {cloud : CloudModel σ} {cloud' : CloudModel σ'}
  {world : World σ μ} {world' : World σ' μ}

theorem Alike.credentialsOf (h : world.Alike together world') (api : Api) :
    (world.credentialsOf api).masked = (world'.credentialsOf api).masked := by
  have built := congrArg (·[api.serial]?) h.clients
  simp only [List.getElem?_map] at built
  rw [World.credentialsOf, World.credentialsOf]
  generalize world.clients[api.serial]? = found at built
  generalize world'.clients[api.serial]? = found' at built
  cases rel_of_map_eq built with
  | none => rfl
  | some mask => exact mask

/-- Clients for credentials with the same mask are built alike. -/
theorem Alike.reply_client (h : world.Alike together world') (clouds : cloud.Alike cloud' together)
    (mounter : MounterModel μ) {credentials credentials' : Credentials}
    (mask : credentials.masked = credentials'.masked) :
    AlikeExchange ⟨_, (reply cloud mounter (.cloud (.client credentials)) world).1⟩
        ⟨_, (reply cloud' mounter (.cloud (.client credentials')) world').1⟩ ∧
      (reply cloud mounter (.cloud (.client credentials)) world).2.Alike together
        (reply cloud' mounter (.cloud (.client credentials')) world').2 := by
  obtain ⟨accepted, left⟩ := clouds.accepts h.clouds mask
  have length : world.clients.length = world'.clients.length := by
    simpa using congrArg List.length h.clients
  simp only [reply, answer, answerCloud, accepted, record, length]
  split
  · refine ⟨.client mask _, left, h.hosts, ?_⟩
    simp only [pass, List.map_append, h.clients, List.map_cons, mask]
  · exact ⟨.client mask _, left, h.hosts, h.clients⟩

/-- Alike questions are answered alike in such worlds, which stay such worlds. -/
theorem answerAlike_reply (clouds : cloud.Alike cloud' together) (mounter : MounterModel μ) :
    AnswerAlike butSecrets (World.Alike together) (reply cloud mounter) (reply cloud' mounter) := by
  intro question question' world world' asked h
  cases asked with
  | client mask => exact h.reply_client clouds mounter mask
  | same question =>
  cases question with
  | cloud question =>
    cases question with
    | metadata resource =>
      obtain ⟨answered, left⟩ := clouds.metadata h.clouds resource
      exact ⟨answered, left, h.hosts, h.clients⟩
    | client credentials => exact h.reply_client clouds mounter rfl
    | describe api region disk =>
      obtain ⟨answered, left⟩ := clouds.describe h.clouds (h.credentialsOf api) region disk
      exact ⟨.of_eq answered, left, h.hosts, h.clients⟩
    | attach api disk node =>
      obtain ⟨answered, left⟩ := clouds.change h.clouds .attach (h.credentialsOf api) disk node
      exact ⟨.of_eq answered, left, h.hosts, h.clients⟩
    | detach api disk node =>
      obtain ⟨answered, left⟩ := clouds.change h.clouds .detach (h.credentialsOf api) disk node
      exact ⟨.of_eq answered, left, h.hosts, h.clients⟩
  | mounter question =>
    obtain ⟨mounters, trees⟩ := Prod.mk.inj h.hosts
    rw [reply_mounter, reply_mounter, mounters, trees]
    exact ⟨.same _, h.clouds, rfl, h.clients⟩
  | tree question =>
    obtain ⟨mounters, trees⟩ := Prod.mk.inj h.hosts
    cases question with
    | createTarget path =>
      rw [reply_createTarget, reply_createTarget, trees]
      exact ⟨.same _, h.clouds, Prod.ext mounters rfl, h.clients⟩
    | isPresent path => exact ⟨.of_eq (congrArg (·.isPresent path) trees), h⟩
    | canonical path => exact ⟨.of_eq (congrArg (·.canonical? path) trees), h⟩
    | isEmptyDirectory path => exact ⟨.of_eq (congrArg (·.isEmptyDirectory path) trees), h⟩
  | _ => exact ⟨.same _, h.clouds, h.hosts, h.clients⟩

end World

/-! ### Views -/

/-- What can be seen of a call. -/
structure View (μ : Type) where
  answer : Answer
  /-- What was asked, in order, with secrets hidden. -/
  questions : List Ask
  /-- What is written out of the credentials, clients and tokens there were. -/
  texts : List String
  /-- The mounter and the file tree that are left. -/
  host : μ × Host.FileTree

/-- What can be seen of a call of a service that runs alone. -/
def Service.view (service : Service) (cloud : CloudModel σ) (mounter : MounterModel μ)
    (call : VolumeCall) (world : World σ μ) : View μ :=
  let moments := (service.program call).moments (World.reply cloud mounter) world
  let (answer, left) := World.run cloud mounter (service.program call) world
  { answer
    questions := moments.map (·.2.question.masked)
    texts := service.attacher.source.texts ++ moments.flatMap (textsOf ·.2)
    host := left.host }

variable {together : σ → σ' → Prop} {cloud : CloudModel σ} {cloud' : CloudModel σ'}
  {world : World σ μ} {world' : World σ' μ}

/-- Services that differ in secrets only show the same. -/
theorem Service.view_congr {service service' : Service} (services : service.masked = service'.masked)
    (clouds : cloud.Alike cloud' together) (mounter : MounterModel μ)
    (worlds : world.Alike together world') (call : VolumeCall) :
    service.view cloud mounter call world = service'.view cloud' mounter call world' := by
  obtain ⟨answers, left, moments⟩ :=
    (inStep_program services call).run (World.answerAlike_reply clouds mounter) worlds
  have questions := map_eq_of_alike moments AlikeExchange.masked_question
  have texts := map_eq_of_alike moments AlikeExchange.textsOf_eq
  have held : service.attacher.source.texts = service'.attacher.source.texts := by
    rw [← CredentialSource.texts_masked, ← CredentialSource.texts_masked service'.attacher.source]
    exact congrArg (fun shown => shown.attacher.source.texts) services
  rw [view, view, View.mk.injEq]
  refine ⟨answers, questions, ?_, left.hosts⟩
  rw [List.flatMap_def, List.flatMap_def, texts, held]

/-- Secrets do not flow out: whatever secrets the configuration, the environment and the documents
of roles hold, what is written out of the configuration and what can be seen of a call are the same.
-/
theorem secrets_stay (clouds : cloud.Alike cloud' together) (mounter : MounterModel μ)
    {config config' : Config} (configs : config.masked = config'.masked)
    {environment environment' : List (String × String)}
    (environments : Cloud.maskedEnvironment environment = Cloud.maskedEnvironment environment')
    (worlds : world.Alike together world') (call : VolumeCall) :
    config.describe = config'.describe ∧
      (config.service environment).view cloud mounter call world =
        (config'.service environment').view cloud' mounter call world' := by
  constructor
  · rw [← config.describe_masked, configs, config'.describe_masked]
  · refine Service.view_congr ?_ clouds mounter worlds call
    rw [Config.masked_service, Config.masked_service, configs, environments]

end Worlds

/-- A cloud with one role and no disks. -/
def roleCloud (document : String) : CloudModel Unit where
  metadata resource _ :=
    (if resource = Cloud.roleResource then some "r"
     else if resource = Cloud.roleResource ++ "r" then some document
     else none, ())
  accepts _ _ := (true, ())
  describe _ _ _ _ := ((.ok none, 0), ())
  change _ _ _ _ _ := ((.ok (), 0), ())

theorem alike_roleCloud {document document' : String}
    (mask : RoleToken.maskedDocument document = RoleToken.maskedDocument document') :
    (roleCloud document).Alike (roleCloud document') Eq where
  metadata same resource := by
    refine ⟨?_, same⟩
    dsimp only [roleCloud]
    split
    · exact .same _
    · split
      case isTrue role =>
        subst role
        exact .document ⟨"r", by decide, rfl⟩ (congrArg some mask)
      case isFalse => exact .same _
  accepts same _ _ _ := ⟨rfl, same⟩
  describe same _ _ _ _ _ := ⟨rfl, same⟩
  change same _ _ _ _ _ _ := ⟨rfl, same⟩

/-- A configuration with half a pair of keys, which does not count. -/
def halfConfig (secret : String) : Config :=
  { Config.standard with shared := { GlobalOptions.standard with accessKeySecret := secret } }

/-- Two tokens of one role, with the same id. -/
theorem roleCloud_secrets_stay :
    RoleToken.ofDocument? "[\"a\",\"b\",\"c\"]" = some ⟨"a", "b", "c", "", ""⟩ ∧
      RoleToken.ofDocument? "[\"a\",\"x\",\"y\"]" = some ⟨"a", "x", "y", "", ""⟩ ∧
      (halfConfig "k").describe = (halfConfig "l").describe ∧
      ((halfConfig "k").service [(Cloud.secretVariable, "p")]).view
          (roleCloud "[\"a\",\"b\",\"c\"]") refusing (sampleStaging "d-1") (.start () () ⟨[]⟩) =
        ((halfConfig "l").service [(Cloud.secretVariable, "q")]).view
          (roleCloud "[\"a\",\"x\",\"y\"]") refusing (sampleStaging "d-1") (.start () () ⟨[]⟩) := by
  have mask : RoleToken.maskedDocument "[\"a\",\"b\",\"c\"]" =
      RoleToken.maskedDocument "[\"a\",\"x\",\"y\"]" := by
    cbv
  refine ⟨by cbv, by cbv, ?_⟩
  exact secrets_stay (alike_roleCloud mask) refusing (by rfl) (by rfl) ⟨rfl, rfl, rfl⟩
    (sampleStaging "d-1")

end Node
end BlockVolume
