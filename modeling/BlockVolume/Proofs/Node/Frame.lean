import BlockVolume.Node.World
import BlockVolume.Proofs.Questions
/-!
What the host in a world answers, and which questions leave it alone.

Only questions to the mounter and about the file tree reach the host.
-/

namespace BlockVolume.Node.World

open BlockVolume.Program

variable {σ μ α : Type} {cloud : CloudModel σ} {mounter : MounterModel μ}

/-- An operation that runs alone takes its course. -/
theorem course_run {p : NodeProgram α} {w : World σ μ} {result : α}
    (ended : (World.run cloud mounter p w).1 = result) :
    Course (reply cloud mounter) p w (p.moments (reply cloud mounter) w) result
      (World.run cloud mounter p w).2 := by
  subst ended
  exact course_self _ p w

/-! ### Answers of the host -/

theorem reply_createTarget (cloud : CloudModel σ) (mounter : MounterModel μ) (world : World σ μ)
    (target : Path) :
    reply cloud mounter (.tree (.createTarget target)) world =
      ((world.tree.createTarget target).1,
        { world with tree := (world.tree.createTarget target).2 }) := rfl

theorem reply_mounter (cloud : CloudModel σ) (mounter : MounterModel μ) (world : World σ μ)
    (question : MountAsk) :
    reply cloud mounter (.mounter question) world =
      ((mounter.answer question world.tree world.mounter).1,
        { world with mounter := (mounter.answer question world.tree world.mounter).2 }.record
          (.mounter question)) := rfl

/-! ### What is left alone -/

/-- The host in a world: its mounter and its file tree. -/
def host (world : World σ μ) : μ × Host.FileTree := (world.mounter, world.tree)

theorem host_reply {question : Ask} (h : question.isHost = false) (world : World σ μ) :
    (reply cloud mounter question world).2.host = world.host := by
  cases question with
  | cloud question =>
    cases question with
    | client credentials =>
      simp only [reply, answer, answerCloud]
      split <;> rfl
    | _ => rfl
  | mounter question => cases h
  | tree question => cases h
  | _ => rfl

/-- The host stays as it is while no question reaches it. -/
theorem host_course {p : NodeProgram α} {w w' : World σ μ}
    {ms : List (World σ μ × Exchange Ask.Answer)} {result : α}
    (h : Course (reply cloud mounter) p w ms result w') (quiet : Asked (·.isHost = false) ms) :
    (∀ m ∈ ms, m.1.host = w.host) ∧ w'.host = w.host :=
  h.frame host fun m hm => host_reply (quiet m hm)

/-- Finding out about the disk does not reach the host. -/
theorem host_looking {p : NodeProgram α} {w w' : World σ μ}
    {ms : List (World σ μ × Exchange Ask.Answer)} {result : α}
    (h : Course (reply cloud mounter) p w ms result w') (asked : Asked (·.isLooking) ms) :
    w'.host = w.host :=
  (host_course h (asked.imp fun _ => Ask.isHost_of_isLooking)).2

end BlockVolume.Node.World
