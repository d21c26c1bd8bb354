import BlockVolume.Node.World
import BlockVolume.Operation.Attach
import BlockVolume.Proofs.Operation.Parts
/-!
The order of what an attach does.

A run of an attach falls into phases: it looks at the disk, has it attached, watches it until it is
in use, and mounts it. What is done in a phase is done after what the phases before have found, for
any answers.
-/

namespace BlockVolume.Operation

open BlockVolume.Cloud (ApiError Client Disk)
open BlockVolume.Node (CloudModel MounterModel World)
open BlockVolume.Program
open BlockVolume.Volume (Request)

variable {σ : Type} {answer : (q : Ask) → σ → Ask.Answer q × σ} {s s' : σ}
  {ms : List (σ × Exchange Ask.Answer)} {setting : Setting} {request : Request} {target : Path}

/-! ### Mounting the device -/

theorem history_firstPresent {paths : List Path} {es : List (Exchange Ask.Answer)}
    {found : Option Path} (h : History (firstPresent paths) es found) :
    (∀ e ∈ es, e.question.isInspecting) ∧ ∀ path ∈ found, path ∈ paths := by
  induction paths generalizing es with
  | nil =>
    obtain ⟨rfl, rfl⟩ := history_pure.mp h
    simp
  | cons path rest ih =>
    obtain ⟨_, present, after, rfl, hq, ha⟩ := history_bind.mp h
    obtain rfl := history_query.mp hq
    cases present with
    | true =>
      obtain ⟨rfl, rfl⟩ := history_pure.mp ha
      simp
    | false =>
      obtain ⟨asks, hf⟩ := ih ha
      refine ⟨?_, fun path hp => List.mem_cons_of_mem _ (hf path hp)⟩
      simpa using asks

/-- The device on the host goes under one of the names of the reported one. -/
theorem history_hostDevice {reported : String} {es : List (Exchange Ask.Answer)} {device : Path}
    (h : History (hostDevice reported) es device) :
    (∀ e ∈ es, e.question.isInspecting) ∧ device ∈ deviceNames reported := by
  obtain ⟨before, found, _, rfl, hf, hd⟩ := history_bind.mp h
  obtain ⟨rfl, rfl⟩ := history_pure.mp hd
  obtain ⟨asks, hm⟩ := history_firstPresent hf
  refine ⟨by simpa using asks, ?_⟩
  cases found with
  | none => exact List.mem_cons_self
  | some path => exact hm path rfl

/-- A state in which the device is mounted: the target was found without a mount, then to be an empty
directory, and the state is the one right after that. -/
def MountsAt (answer : (q : Ask) → σ → Ask.Answer q × σ) (disk : Disk) (target : Path) (w : σ)
    (question : Ask) : Prop :=
  disk.device ≠ "" ∧ (∃ device ∈ deviceNames disk.device, ∃ kind options,
    question = .mounter (.formatAndMount device target kind options)) ∧
      ∃ u v, answer (.mounter (.deviceAt target)) u = (.ok none, v) ∧
        answer (.tree (.isEmptyDirectory target)) v = (.ok true, w)

/-- Nothing is mounted, or the device is, and that is the last thing done. -/
theorem course_mountDevice {disk : Disk} {outcome : Except OperationError Unit}
    (h : Course answer (mountDevice setting request disk target).run s ms outcome s') :
    Asked (·.isInspecting) ms ∨
      ∃ before w question reply, ms = before ++ [(w, ⟨question, reply⟩)] ∧
        Asked (·.isInspecting) before ∧ MountsAt answer disk target w question := by
  rw [mountDevice] at h
  split at h
  case isTrue =>
    obtain ⟨rfl, -⟩ := course_fail.mp h
    exact Or.inl asked_nil
  case isFalse named =>
  obtain ⟨looked, device, s₁, rest, rfl, hd, h₁⟩ := course_step_lift_bind.mp h
  obtain ⟨asks, known⟩ := history_hostDevice hd.history
  have asks : Asked (·.isInspecting) looked := asked_of_history asks
  obtain ⟨_, created, s₂, rest, rfl, hq, h₂⟩ := course_step_lift_bind.mp h₁
  obtain ⟨rfl, -⟩ := course_query.mp hq
  obtain ⟨e, -, rfl, -⟩ | ⟨⟨⟩, -, h₃⟩ := course_onHost_bind.mp h₂
  · exact Or.inl (by simp [asks])
  obtain ⟨_, found, s₃, rest, rfl, hq, h₄⟩ := course_step_lift_bind.mp h₃
  obtain ⟨rfl, free⟩ := course_query.mp hq
  obtain ⟨e, -, rfl, -⟩ | ⟨mounted, rfl, h₅⟩ := course_onHost_bind.mp h₄
  · exact Or.inl (by simp [asks])
  cases mounted with
  | some mounted =>
    -- something is mounted at the target, and no more is asked
    have ended : rest = [] := by
      dsimp only at h₅
      split at h₅
      · exact (course_pure.mp h₅).1
      · exact (course_fail.mp h₅).1
    exact Or.inl (by simp [ended, asks])
  | none =>
    obtain ⟨_, bare, s₄, rest, rfl, hq, h₆⟩ := course_step_lift_bind.mp h₅
    obtain ⟨rfl, empty⟩ := course_query.mp hq
    cases bare with
    | error failure =>
      obtain ⟨rfl, -⟩ := course_fail.mp h₆
      exact Or.inl (by simp [asks])
    | ok bare =>
      cases bare with
      | false =>
        obtain ⟨rfl, -⟩ := course_fail.mp h₆
        exact Or.inl (by simp [asks])
      | true =>
        obtain ⟨_, reply, s₅, rest, rfl, hq, h₇⟩ := course_step_lift_bind.mp h₆
        obtain ⟨rfl, -⟩ := course_query.mp hq
        have ended : rest = [] := by
          cases reply with
          | error e => exact (course_fail.mp h₇).1
          | ok value => exact (course_pure.mp h₇).1
        subst ended
        let checks : List (σ × Exchange Ask.Answer) :=
          [(s₁, ⟨.tree (.createTarget target), created⟩),
            (s₂, ⟨.mounter (.deviceAt target), .ok none⟩),
            (s₃, ⟨.tree (.isEmptyDirectory target), .ok true⟩)]
        let options := if request.readOnly then ["ro"] else []
        exact Or.inr ⟨looked ++ checks, s₄,
          .mounter (.formatAndMount device target request.fsType.name options), reply,
          by simp [checks, options], by simp [checks, asks], by simpa using named,
          ⟨device, known, _, _, rfl⟩, s₂, s₃, free, empty⟩

/-! ### The phases of an attach -/

/-- What comes last is the mounting of the disk that the last look of `watching` has found in use, if
anything comes. -/
def MountsWatched (answer : (q : Ask) → σ → Ask.Answer q × σ) (setting : Setting)
    (request : Request) (target : Path) (watching ending : List (σ × Exchange Ask.Answer)) : Prop :=
  ending = [] ∨
    ∃ disk u v outcome, (looks (watching.map Prod.snd)).getLast? = some (.ok (some disk)) ∧
      disk.isSettledOn request.node = true ∧
        Course answer (mountDevice setting request disk target).run u ending outcome v

/-- An attach looks at the disk, has it attached, watches it until it is in use, and mounts it. Where
it ends early the later phases are empty. -/
structure AttachPhases (answer : (q : Ask) → σ → Ask.Answer q × σ) (setting : Setting)
    (request : Request) (target : Path)
    (opening change watching ending : List (σ × Exchange Ask.Answer)) : Prop where
  opens : Asked (·.isLooking) opening
  /-- The call is made for a disk that was found not to be attached. -/
  changes : change = [] ∨
    (∃ disk, firstFound (opening.map Prod.snd) = some (some disk) ∧
      disk.isAttachedTo request.node = false) ∧
    ∃ client outcome, History (setting.call (ControlCall.attach request.disk request.node).make
      client).run (change.map Prod.snd) outcome
  watches : Asked (·.isLooking) watching
  ends : MountsWatched answer setting request target watching ending

/-- A disk is watched and mounted. -/
theorem course_watch_mount {client : Client} {outcome : Except OperationError Unit}
    (h : Course answer (ExceptT.run
      (setting.waitFor request.region "attached" (·.isSettledOn request.node) client >>=
        fun found => mountDevice setting request found.2 target)) s ms outcome s') :
    ∃ watching ending, ms = watching ++ ending ∧ Asked (·.isLooking) watching ∧
      MountsWatched answer setting request target watching ending := by
  rcases course_step_bind.mp h with ⟨e, hw, -⟩ | ⟨watching, ⟨next, disk⟩, u, ending, rfl, hw, hm⟩
  · exact ⟨ms, [], by simp, asked_watch hw, Or.inl rfl⟩
  · obtain ⟨settled, last⟩ := (looks_watch hw.history).2 next disk rfl
    exact ⟨watching, ending, rfl, asked_watch hw, Or.inr ⟨disk, u, s', outcome, last, settled, hm⟩⟩

theorem course_attach {outcome : Except OperationError Unit}
    (h : Course answer (attach setting request target).run s ms outcome s') :
    ∃ opening change watching ending, ms = opening ++ (change ++ (watching ++ ending)) ∧
      AttachPhases answer setting request target opening change watching ending := by
  have brief (quiet : Asked (·.isLooking) ms) : ∃ opening change watching ending,
      ms = opening ++ (change ++ (watching ++ ending)) ∧
        AttachPhases answer setting request target opening change watching ending :=
    ⟨ms, [], [], [], by simp, quiet, Or.inl rfl, asked_nil, Or.inl rfl⟩
  rcases course_step_bind.mp h with ⟨e, hc, -⟩ | ⟨first, client, u, rest, rfl, hc, h₁⟩
  · exact brief (asked_connect hc)
  rcases course_step_bind.mp h₁ with ⟨e, hd, -⟩ | ⟨second, ⟨next, disk⟩, v, rest, rfl, hd, h₂⟩
  · exact brief (asked_append.mpr ⟨asked_connect hc, asked_of_history (looks_describe hd.history).1⟩)
  have opens : Asked (·.isLooking) (first ++ second) :=
    asked_append.mpr ⟨asked_connect hc, asked_of_history (looks_describe hd.history).1⟩
  dsimp only at h₂
  split at h₂
  case isTrue =>
    obtain ⟨watching, ending, rfl, watches, ends⟩ := course_watch_mount h₂
    exact ⟨first ++ second, [], watching, ending, by simp, opens, Or.inl rfl, watches, ends⟩
  case isFalse detached =>
    have found : firstFound ((first ++ second).map Prod.snd) = some (some disk) := by
      rw [List.map_append, firstFound_connect hc.history, firstFound_describe hd.history]
    rcases course_step_bind.mp h₂ with ⟨e, ha, -⟩ | ⟨change, ⟨last, ⟨⟩⟩, w, rest, rfl, ha, h₃⟩
    · exact ⟨first ++ second, _, [], [], by simp, opens,
        Or.inr ⟨⟨disk, found, by simpa using detached⟩, next, _, ha.history⟩, asked_nil, Or.inl rfl⟩
    · obtain ⟨watching, ending, rfl, watches, ends⟩ := course_watch_mount h₃
      exact ⟨first ++ second, change, watching, ending, by simp, opens,
        Or.inr ⟨⟨disk, found, by simpa using detached⟩, next, _, ha.history⟩, watches, ends⟩

/-! ### Where things are done -/

section Place

variable {opening change watching ending pre post : List (σ × Exchange Ask.Answer)} {w : σ}

theorem AttachPhases.change_asks
    (h : AttachPhases answer setting request target opening change watching ending) :
    Asked (fun question => question.isCredential ∨ (∃ ms, question = .sleep ms) ∨
      ∃ api, question = .cloud (.attach api request.disk request.node)) change := by
  rcases h.changes with rfl | ⟨-, client, outcome, hc⟩
  · exact asked_nil
  · refine asked_of_history fun e he => ?_
    rcases asks_of_call hc e he with hk | hk | ⟨api, reply, rfl⟩
    · exact Or.inl hk
    · exact Or.inr (Or.inl hk)
    · exact Or.inr (Or.inr ⟨api, rfl⟩)

theorem MountsAt.isMounting {disk : Disk} {question : Ask}
    (h : MountsAt answer disk target w question) : question.isMounting = true := by
  obtain ⟨-, ⟨device, -, kind, options, rfl⟩, -⟩ := h
  rfl

theorem AttachPhases.ending_asks
    (h : AttachPhases answer setting request target opening change watching ending) :
    Asked (fun question => question.isInspecting ∨ question.isMounting) ending := by
  rcases h.ends with rfl | ⟨disk, u, v, outcome, -, -, hm⟩
  · exact asked_nil
  · rcases course_mountDevice hm with hi | ⟨before, w, question, reply, rfl, hi, mounts⟩
    · exact hi.imp fun _ => Or.inl
    · simpa [mounts.isMounting] using hi.imp fun _ => Or.inl

/-- The disk is attached only if it was found not to be, and not again once that was accepted. -/
theorem AttachPhases.attaches
    (h : AttachPhases answer setting request target opening change watching ending) {api : Api}
    {disk node : String} {reply : Except ApiError Unit}
    (hms : opening ++ (change ++ (watching ++ ending)) =
      pre ++ (w, ⟨.cloud (.attach api disk node), reply⟩) :: post) :
    (∃ found, firstFound (pre.map Prod.snd) = some (some found) ∧
      found.isAttachedTo request.node = false) ∧
    ∀ m ∈ pre, ∀ api disk node, m.2 ≠ ⟨.cloud (.attach api disk node), .ok ()⟩ := by
  have opens : ∀ m ∈ opening, ∀ api disk node reply,
      m.2 ≠ ⟨.cloud (.attach api disk node), reply⟩ := by
    rintro ⟨u, e⟩ hm api disk node reply rfl
    exact absurd (h.opens _ hm) (by simp [Ask.isLooking, Ask.isCredential])
  obtain ⟨first, rfl, hrest⟩ := mem_of_before hms fun hm => opens _ hm api disk node reply rfl
  obtain ⟨later, rfl⟩ := mem_of_after hrest fun hm => by
    rcases List.mem_append.mp hm with hm | hm
    · exact absurd (h.watches _ hm) (by simp [Ask.isLooking, Ask.isCredential])
    · exact absurd (h.ending_asks _ hm) (by simp [Ask.isInspecting, Ask.isMounting])
  obtain hnil | ⟨⟨found, hf, free⟩, client, outcome, hc⟩ := h.changes
  · simp at hnil
  refine ⟨⟨found, by rw [List.map_append, firstFound_append hf], free⟩, ?_⟩
  intro m hm api' disk' node' heq
  rcases List.mem_append.mp hm with hm | hm
  · exact opens m hm _ _ _ _ heq
  · obtain ⟨answers, result, last, answered, hs, -⟩ := settled_of_history _ hc
    rw [List.map_append, List.map_cons] at answered
    have own : disk = request.disk ∧ node = request.node := by
      simpa [Ask.isCredential] using h.change_asks _ (List.mem_append_cons_self)
    have other : disk' = request.disk ∧ node' = request.node := by
      simpa [Ask.isCredential, heq] using h.change_asks m (List.mem_append_left _ hm)
    obtain ⟨rfl, rfl⟩ := own
    obtain ⟨rfl, rfl⟩ := other
    exact answered.not_mem hs api' () (List.mem_map.mpr ⟨m, hm, heq⟩)

/-- The disk is mounted at one moment at most, after the last look has found it in use. -/
theorem AttachPhases.mounts
    (h : AttachPhases answer setting request target opening change watching ending) {question : Ask}
    {reply : question.Answer}
    (hms : opening ++ (change ++ (watching ++ ending)) = pre ++ (w, ⟨question, reply⟩) :: post)
    (hq : question.isMounting = true) :
    ∃ disk, (looks (pre.map Prod.snd)).getLast? = some (.ok (some disk)) ∧
      disk.isSettledOn request.node = true ∧ MountsAt answer disk target w question ∧
        ∀ m ∈ pre ++ post, m.2.question.isMounting = false := by
  have opens : Asked (·.isMounting = false) opening :=
    h.opens.imp fun _ => Ask.isMounting_of_isLooking
  have changes : Asked (·.isMounting = false) change := h.change_asks.imp fun question hk => by
    rcases hk with hk | ⟨ms, rfl⟩ | ⟨api, rfl⟩
    · exact Ask.isMounting_of_isCredential hk
    · rfl
    · rfl
  have watches : Asked (·.isMounting = false) watching :=
    h.watches.imp fun _ => Ask.isMounting_of_isLooking
  have absent {ms : List (σ × Exchange Ask.Answer)} (quiet : Asked (·.isMounting = false) ms) :
      (w, ⟨question, reply⟩) ∉ ms := fun hm => by
    simpa [hq] using quiet _ hm
  obtain ⟨_, rfl, h₁⟩ := mem_of_before hms (absent opens)
  obtain ⟨_, rfl, h₂⟩ := mem_of_before h₁ (absent changes)
  obtain ⟨rest, rfl, h₃⟩ := mem_of_before h₂ (absent watches)
  obtain rfl | ⟨disk, u, v, outcome, last, settled, hm⟩ := h.ends
  · simp at h₃
  obtain hi | ⟨before, w', question', reply', rfl, hi, hmounts⟩ := course_mountDevice hm
  · exact absurd (h₃ ▸ List.mem_append_cons_self)
      (absent (hi.imp fun _ => Ask.isMounting_of_isInspecting))
  have quiet : Asked (·.isMounting = false) before := hi.imp fun _ => Ask.isMounting_of_isInspecting
  obtain ⟨rest, rfl, h₄⟩ := mem_of_before h₃ (absent quiet)
  cases rest with
  | cons m rest => simp at h₄
  | nil =>
    obtain ⟨heq, rfl⟩ := List.cons.inj h₄
    obtain ⟨rfl, same⟩ := Prod.mk.inj heq
    obtain ⟨rfl, -⟩ := Exchange.mk.inj same
    have blind : looks (before.map Prod.snd) = [] := looks_eq_nil fun e he => by
      obtain ⟨m, hm, rfl⟩ := List.mem_map.mp he
      exact Ask.isControl_of_isInspecting (hi m hm)
    refine ⟨disk, ?_, settled, hmounts, ?_⟩
    · simp [List.getLast?_append, last, blind]
    · change Asked (fun other : Ask => other.isMounting = false) _
      simp [opens, changes, watches, quiet]

end Place

/-! ### Attaching in a world -/

section World

variable {υ μ : Type} {cloud : CloudModel υ} {mounter : MounterModel μ} {w : World υ μ}

/-- In a world, a device is mounted where the mounter shows no mount at the target, and the target is
an empty directory. -/
theorem mountsAt_world {disk : Disk} {question : Ask}
    (h : MountsAt (World.reply cloud mounter) disk target w question) :
    (∃ state, mounter.answer (.deviceAt target) w.tree state = (.ok none, w.mounter)) ∧
      w.tree.isEmptyDirectory target = .ok true := by
  obtain ⟨-, -, u, v, free, empty⟩ := h
  obtain ⟨hf, rfl⟩ := Prod.mk.inj free
  obtain ⟨he, rfl⟩ := Prod.mk.inj empty
  exact ⟨⟨u.mounter, Prod.ext hf rfl⟩, he⟩

/-- An attach attaches the disk only if it was found not to be with the node, and not again once that
was accepted. It mounts at one moment at most, when the last look has found the disk in use by the
node, nothing is mounted at the target, and the target is an empty directory. -/
theorem attach_order (cloud : CloudModel υ) (mounter : MounterModel μ) (setting : Setting)
    (request : Request) (target : Path) (world : World υ μ) :
    let ms := (attach setting request target).run.moments (World.reply cloud mounter) world
    (∀ pre w api disk node reply post,
      ms = pre ++ (w, ⟨.cloud (.attach api disk node), reply⟩) :: post →
        (∃ found, firstFound (pre.map Prod.snd) = some (some found) ∧
          found.isAttachedTo request.node = false) ∧
        ∀ m ∈ pre, ∀ api disk node, m.2 ≠ ⟨.cloud (.attach api disk node), .ok ()⟩) ∧
    ∀ pre w question reply post, ms = pre ++ (w, ⟨question, reply⟩) :: post →
      question.isMounting = true →
        ∃ disk, (looks (pre.map Prod.snd)).getLast? = some (.ok (some disk)) ∧
          disk.status = .inUse ∧ disk.holder = request.node ∧ disk.device ≠ "" ∧
          (∃ state, mounter.answer (.deviceAt target) w.tree state = (.ok none, w.mounter)) ∧
          w.tree.isEmptyDirectory target = .ok true ∧
          (∃ device ∈ deviceNames disk.device, ∃ kind options,
            question = .mounter (.formatAndMount device target kind options)) ∧
          ∀ m ∈ pre ++ post, m.2.question.isMounting = false := by
  intro ms
  obtain ⟨opening, change, watching, ending, split, phases⟩ :=
    course_attach (course_self (World.reply cloud mounter) (attach setting request target).run world)
  constructor
  · intro pre w api disk node reply post hms
    exact phases.attaches (split.symm.trans hms)
  · intro pre w question reply post hms hq
    obtain ⟨disk, last, settled, hmounts, once⟩ := phases.mounts (split.symm.trans hms) hq
    obtain ⟨inUse, held⟩ : disk.status = .inUse ∧ disk.holder = request.node := by
      simpa [Disk.isSettledOn] using settled
    obtain ⟨free, empty⟩ := mountsAt_world hmounts
    exact ⟨disk, last, inUse, held, hmounts.1, free, empty, hmounts.2.1, once⟩

end World
end BlockVolume.Operation
