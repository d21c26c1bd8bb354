import BlockVolume.Proofs.Node.Frame
import BlockVolume.Rehearsal.Script
import Mathlib
/-!
Clients and their credentials.

A client is only built for credentials that were just resolved, and keeps them. A refresh builds
another one, or gives the same client back. So whatever metadata and the factory answer along the
way, each client that is got goes with the credentials that the factory was asked to build it for.
-/

namespace BlockVolume

open BlockVolume.Node (CloudModel MounterModel World)
open BlockVolume.Program

namespace Cloud

variable {source : CredentialSource} {client : Client} {credentials : Credentials}
  {es fs : List (Exchange Ask.Answer)}

/-! ### One client -/

/-- How the building of a client goes. -/
inductive Built (credentials : Credentials) :
    List (Exchange Ask.Answer) → Option Client → Prop where
  | unasked (empty : credentials.isEmpty = true) : Built credentials [] none
  | asked (usable : credentials.isEmpty = false) (reply : Option Api) :
      Built credentials [⟨.cloud (.client credentials), reply⟩] (reply.map (⟨·, credentials⟩))

theorem built_of_history {result : Option Client}
    (h : History (Client.build credentials) es result) : Built credentials es result := by
  rw [Client.build] at h
  split at h
  case isTrue empty =>
    obtain ⟨rfl, rfl⟩ := history_pure.mp h
    exact .unasked empty
  case isFalse usable =>
    obtain ⟨asked, reply, rest, rfl, hq, hr⟩ := history_bind.mp h
    obtain rfl := history_query.mp hq
    obtain ⟨rfl, rfl⟩ := history_pure.mp hr
    exact .asked (Bool.eq_false_iff.mpr usable) reply

/-- What a refresh of a client comes to. -/
inductive Refreshed (source : CredentialSource) (client : Client) :
    List (Exchange Ask.Answer) → Client → Prop where
  /-- A client without a session token stays, and nothing is asked. -/
  | lasting (lasts : client.credentials.isTemporary = false) : Refreshed source client [] client
  /-- No credentials resolve. -/
  | empty {asked : List (Exchange Ask.Answer)} {found : Credentials}
      (expires : client.credentials.isTemporary = true)
      (resolved : History source.resolve asked found) (empty : found.isEmpty = true) :
      Refreshed source client asked client
  /-- The factory fails. -/
  | refused {asked : List (Exchange Ask.Answer)} {found : Credentials}
      (expires : client.credentials.isTemporary = true)
      (resolved : History source.resolve asked found) (usable : found.isEmpty = false) :
      Refreshed source client (asked ++ [⟨.cloud (.client found), none⟩]) client
  /-- There is a new client. -/
  | renewed {asked : List (Exchange Ask.Answer)} {found : Credentials}
      (expires : client.credentials.isTemporary = true)
      (resolved : History source.resolve asked found) (usable : found.isEmpty = false) (api : Api) :
      Refreshed source client (asked ++ [⟨.cloud (.client found), some api⟩]) ⟨api, found⟩

theorem refreshed_of_history {next : Client} (h : History (client.refresh source) es next) :
    Refreshed source client es next := by
  rw [Client.refresh] at h
  split at h
  case isFalse lasts =>
    obtain ⟨rfl, rfl⟩ := history_pure.mp h
    exact .lasting (Bool.eq_false_iff.mpr lasts)
  case isTrue expires =>
    obtain ⟨asked, found, rest, rfl, hf, h₁⟩ := history_bind.mp h
    obtain ⟨built, result, last, rfl, hb, h₂⟩ := history_bind.mp h₁
    obtain ⟨rfl, rfl⟩ := history_pure.mp h₂
    rw [List.append_nil]
    cases built_of_history hb with
    | unasked empty =>
      rw [List.append_nil]
      exact .empty expires hf empty
    | asked usable reply =>
      cases reply with
      | none => exact .refused expires hf usable
      | some api => exact .renewed expires hf usable api

/-- A client that goes with its credentials: they are not empty, and some exchange was the building of
the client for them. -/
structure Paired (es : List (Exchange Ask.Answer)) (client : Client) : Prop where
  usable : client.credentials.isEmpty = false
  built : ⟨.cloud (.client client.credentials), some client.api⟩ ∈ es

theorem Paired.mono (h : Paired es client) (sub : ∀ e ∈ es, e ∈ fs) : Paired fs client :=
  ⟨h.usable, sub _ h.built⟩

theorem Built.paired {result : Option Client} (h : Built credentials es result)
    (got : result = some client) : Paired es client := by
  cases h with
  | unasked => cases got
  | asked usable reply =>
    obtain ⟨api, rfl, rfl⟩ := Option.map_eq_some_iff.mp got
    exact ⟨usable, List.mem_singleton_self _⟩

theorem paired_of_connect (h : History (Client.connect source) es (some client)) :
    Paired es client := by
  obtain ⟨asked, found, built, rfl, -, hb⟩ := history_bind.mp h
  exact ((built_of_history hb).paired rfl).mono fun _ => List.mem_append_right _

theorem Refreshed.paired {next : Client} (h : Refreshed source client fs next)
    (before : Paired es client) : Paired (es ++ fs) next := by
  cases h with
  | lasting | empty | refused => exact before.mono fun _ => List.mem_append_left _
  | renewed expires resolved usable api => exact ⟨usable, by simp⟩

/-! ### Many clients -/

/-- A step towards a client. The environment and the configuration are read anew in each. -/
inductive ClientStep where
  | connect (source : CredentialSource)
  /-- Refreshes what the step with the given number got. -/
  | refresh (source : CredentialSource) (number : Nat)

/-- Does a step, when the ones before it got what is held. -/
def ClientStep.program (held : List (Option Client)) : ClientStep → NodeProgram (Option Client)
  | .connect source => Client.connect source
  | .refresh source number =>
    match held[number]?.join with
    | none => return none
    | some client => do return some (← client.refresh source)

/-- Does steps one after the other, and holds what each of them gets. -/
def collect (held : List (Option Client)) : List ClientStep → NodeProgram (List (Option Client))
  | [] => return held
  | step :: steps => do collect (held ++ [← step.program held]) steps

variable {held got : List (Option Client)} {step : ClientStep} {steps : List ClientStep}

theorem history_collect_cons (h : History (collect held (step :: steps)) es got) :
    ∃ before result after, es = before ++ after ∧ History (step.program held) before result ∧
      History (collect (held ++ [result]) steps) after got :=
  history_bind.mp h

/-- Steps are done one after the other. -/
theorem history_collect_append {sooner later : List ClientStep}
    (h : History (collect held (sooner ++ later)) es got) :
    ∃ before after between, es = before ++ after ∧ History (collect held sooner) before between ∧
      History (collect between later) after got := by
  induction sooner generalizing held es with
  | nil => exact ⟨[], es, held, rfl, history_pure.mpr ⟨rfl, rfl⟩, h⟩
  | cons step sooner ih =>
    obtain ⟨first, result, rest, rfl, hs, hc⟩ := history_collect_cons h
    obtain ⟨before, after, between, rfl, hb, ha⟩ := ih hc
    refine ⟨first ++ before, after, between, (List.append_assoc ..).symm, ?_, ha⟩
    exact history_bind.mpr ⟨first, result, before, rfl, hs, hb⟩

/-- What is held stays. -/
theorem prefix_of_collect (h : History (collect held steps) es got) : held <+: got := by
  induction steps generalizing held es with
  | nil =>
    obtain ⟨-, rfl⟩ := history_pure.mp h
    exact List.prefix_rfl
  | cons step steps ih =>
    obtain ⟨before, result, after, -, -, hc⟩ := history_collect_cons h
    exact (List.prefix_append held [result]).trans (ih hc)

/-- Each step gets something. -/
theorem length_collect (h : History (collect held steps) es got) :
    got.length = held.length + steps.length := by
  induction steps generalizing held es with
  | nil =>
    obtain ⟨-, rfl⟩ := history_pure.mp h
    rfl
  | cons step steps ih =>
    obtain ⟨before, result, after, -, -, hc⟩ := history_collect_cons h
    rw [ih hc, List.length_append, List.length_singleton, List.length_cons]
    omega

/-- A step that refreshes a client comes to what a refresh comes to. -/
theorem refreshed_of_step {result : Option Client} {number : Nat}
    (h : History ((ClientStep.refresh source number).program held) es result)
    (here : held[number]?.join = some client) :
    ∃ next, result = some next ∧ Refreshed source client es next := by
  rw [ClientStep.program, here] at h
  obtain ⟨asked, next, rest, rfl, hn, hp⟩ := history_bind.mp h
  obtain ⟨rfl, rfl⟩ := history_pure.mp hp
  rw [List.append_nil]
  exact ⟨next, rfl, refreshed_of_history hn⟩

theorem paired_step {result : Option Client}
    (paired : ∀ client, some client ∈ held → Paired es client)
    (h : History (step.program held) fs result) (found : result = some client) :
    Paired (es ++ fs) client := by
  subst found
  cases step with
  | connect source => exact (paired_of_connect h).mono fun _ => List.mem_append_right _
  | refresh source number =>
    cases here : held[number]?.join with
    | none =>
      rw [ClientStep.program, here] at h
      cases (history_pure.mp h).2
    | some earlier =>
      obtain ⟨next, same, refreshed⟩ := refreshed_of_step h here
      obtain rfl := Option.some.inj same
      refine refreshed.paired (paired earlier ?_)
      exact List.mem_of_getElem? (Option.join_eq_some_iff.mp here)

theorem paired_collect (paired : ∀ client, some client ∈ held → Paired es client)
    (h : History (collect held steps) fs got) (mem : some client ∈ got) :
    Paired (es ++ fs) client := by
  induction steps generalizing held es fs with
  | nil =>
    obtain ⟨rfl, rfl⟩ := history_pure.mp h
    rw [List.append_nil]
    exact paired client mem
  | cons step steps ih =>
    obtain ⟨before, result, after, rfl, hs, hc⟩ := history_collect_cons h
    rw [← List.append_assoc]
    refine ih (fun other hm => ?_) hc
    rcases List.mem_append.mp hm with hm | hm
    · exact (paired other hm).mono fun _ => List.mem_append_left _
    · exact paired_step paired hs (List.mem_singleton.mp hm).symm

/-- Each client that is got along the way goes with its credentials. Each refresh of one asks what a
refresh asks and comes to what a refresh comes to — so it gives a client. -/
theorem clients_paired (h : History (collect [] steps) es got) :
    (∀ client, some client ∈ got → Paired es client) ∧
      ∀ (sooner later : List ClientStep) (source : CredentialSource) (number : Nat),
        steps = sooner ++ .refresh source number :: later →
          ∃ before during after, es = before ++ (during ++ after) ∧
            History (collect [] sooner) before (got.take sooner.length) ∧
            History (collect (got.take (sooner.length + 1)) later) after got ∧
            ∀ client, (got.take sooner.length)[number]? = some (some client) →
              ∃ next, got[sooner.length]? = some (some next) ∧
                Refreshed source client during next := by
  constructor
  · intro client mem
    have none : ∀ client, some client ∈ ([] : List (Option Client)) → Paired [] client := by simp
    exact paired_collect none h mem
  · rintro sooner later source number rfl
    obtain ⟨before, rest, held, rfl, hb, hr⟩ := history_collect_append h
    obtain ⟨during, result, after, rfl, hs, ha⟩ := history_collect_cons hr
    have length : held.length = sooner.length := by simpa using length_collect hb
    obtain ⟨more, rfl⟩ := prefix_of_collect ha
    have sofar : (held ++ [result] ++ more).take sooner.length = held := by simp [← length]
    have now : (held ++ [result] ++ more).take (sooner.length + 1) = held ++ [result] :=
      List.take_left' (by simp [length])
    have here : (held ++ [result] ++ more)[sooner.length]? = some result := by simp [← length]
    rw [sofar, now, here]
    refine ⟨before, during, after, rfl, hb, ha, fun client earlier => ?_⟩
    obtain ⟨next, rfl, refreshed⟩ := refreshed_of_step hs (Option.join_eq_some_iff.mpr earlier)
    exact ⟨next, rfl, refreshed⟩

/-- A cloud in which the instance has a role with a token. -/
def roleCloud : CloudModel Unit where
  metadata resource s := (some (if resource = roleResource then "r" else "[\"i\",\"s\",\"t\"]"), s)
  accepts _ s := (true, s)
  describe _ _ _ s := ((.ok none, 0), s)
  change _ _ _ _ s := ((.ok (), 0), s)

/-- A world in which nothing has happened. -/
def roleWorld : World Unit Mount.Ledger := .start () (.ofTable []) ⟨[]⟩

/-- A client is got there and refreshed. -/
def roleSteps : NodeProgram (List (Option Client)) :=
  collect [] [.connect ⟨[], none⟩, .refresh ⟨[], none⟩ 0]

/-- The client that is built there as the one with the given number. -/
def roleClient (serial : Nat) : Client := ⟨⟨serial⟩, .temporary "i" "s" "t"⟩

theorem roleClient_paired : ∃ es during,
    History roleSteps es [some (roleClient 0), some (roleClient 1)] ∧
      Paired es (roleClient 0) ∧ Paired es (roleClient 1) ∧
        Refreshed ⟨[], none⟩ (roleClient 0) during (roleClient 1) := by
  have got : (World.run roleCloud Rehearsal.bookkeeper roleSteps roleWorld).1 =
      [some (roleClient 0), some (roleClient 1)] := by
    cbv
  have history := (World.course_run got).history
  obtain ⟨paired, refreshed⟩ := clients_paired history
  obtain ⟨before, during, after, -, -, -, refresh⟩ :=
    refreshed [.connect ⟨[], none⟩] [] ⟨[], none⟩ 0 rfl
  obtain ⟨next, here, way⟩ := refresh (roleClient 0) rfl
  obtain rfl := Option.some.inj (Option.some.inj here)
  exact ⟨_, during, history, paired _ (by simp), paired _ (by simp), way⟩

end Cloud

/-! ### Clients in a world -/

namespace Node.World

open BlockVolume.Cloud (Client ClientStep Credentials)

variable {σ μ α : Type} {cloud : CloudModel σ} {mounter : MounterModel μ}

/-- The clients that were built stay. -/
theorem clients_reply (question : Ask) (w : World σ μ) :
    w.clients <+: (reply cloud mounter question w).2.clients := by
  cases question with
  | cloud question =>
    cases question with
    | client credentials =>
      simp only [reply, answer, answerCloud]
      split
      · exact List.prefix_append _ _
      · exact List.prefix_rfl
    | _ => exact List.prefix_rfl
  | tree question => cases question <;> exact List.prefix_rfl
  | _ => exact List.prefix_rfl

/-- A client that is built has its place among them. -/
theorem clients_built {question : Ask} {w : World σ μ} {credentials : Credentials} {api : Api}
    (h : (⟨question, (reply cloud mounter question w).1⟩ : Exchange Ask.Answer) =
      ⟨.cloud (.client credentials), some api⟩) :
    (reply cloud mounter question w).2.clients[api.serial]? = some credentials := by
  obtain ⟨asked, replied⟩ := Exchange.mk.inj h
  subst asked
  have replied := eq_of_heq replied
  simp only [reply, answer, answerCloud] at replied ⊢
  split at replied
  case isTrue accepted =>
    obtain rfl := Option.some.inj replied
    simp [accepted, pass, record]
  case isFalse => cases replied

theorem clients_course {p : NodeProgram α} {w w' : World σ μ}
    {ms : List (World σ μ × Exchange Ask.Answer)} {result : α}
    (h : Course (reply cloud mounter) p w ms result w') :
    w.clients <+: w'.clients ∧ ∀ (credentials : Credentials) (api : Api),
      ⟨.cloud (.client credentials), some api⟩ ∈ ms.map Prod.snd →
        w'.clients[api.serial]? = some credentials := by
  induction p generalizing w ms with
  | done value =>
    obtain ⟨rfl, hr⟩ := h
    obtain ⟨-, rfl⟩ := Prod.mk.inj hr
    simp [moments]
  | ask question next ih =>
    obtain ⟨rfl, hr⟩ := h
    have rest : Course (reply cloud mounter) (next (reply cloud mounter question w).1)
      (reply cloud mounter question w).2 _ result w' := ⟨rfl, hr⟩
    obtain ⟨kept, built⟩ := ih _ rest
    refine ⟨(clients_reply question w).trans kept, fun credentials api mem => ?_⟩
    rcases List.mem_cons.mp mem with first | mem
    · have here := clients_built first.symm
      obtain ⟨later, grown⟩ := kept
      rw [← grown, List.getElem?_append_left (List.getElem?_eq_some_iff.mp here).1, here]
    · exact built credentials api mem

/-- Calls by a client that was got are made under its credentials. -/
theorem credentialsOf_collect {steps : List ClientStep} {w : World σ μ} {client : Client}
    (got : some client ∈ (World.run cloud mounter (Cloud.collect [] steps) w).1) :
    (World.run cloud mounter (Cloud.collect [] steps) w).2.credentialsOf client.api =
      client.credentials := by
  have course : Course (reply cloud mounter) (Cloud.collect [] steps) w _ _ _ := course_run rfl
  obtain ⟨paired, -⟩ := Cloud.clients_paired course.history
  have built := (clients_course course).2 _ _ (paired client got).built
  rw [credentialsOf, built, Option.getD_some]

end Node.World
end BlockVolume
