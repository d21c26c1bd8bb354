import BlockVolume.Cloud.Client
import BlockVolume.Proofs.History
/-!
Which questions the parts of an operation ask.

Getting a client asks for credentials and nothing else, so the calls to the control plane that a run
makes are those that are spelled out in it.
-/

namespace BlockVolume

open BlockVolume.Cloud (ApiError Disk)
open BlockVolume.Program

instance (question : Ask) : Nonempty question.Answer := by
  cases question with
  | cloud question => cases question <;> exact ⟨default⟩
  | mounter question => cases question <;> exact ⟨default⟩
  | tree question => cases question <;> exact ⟨default⟩
  | sleep | acquire | release => exact ⟨()⟩

/-- A question to the control plane. -/
def Ask.isControl : Ask → Bool
  | .cloud (.describe _ _ _) | .cloud (.attach _ _ _) | .cloud (.detach _ _ _) => true
  | _ => false

/-- A question that is asked to get a client. -/
def Ask.isCredential : Ask → Bool
  | .cloud (.metadata _) | .cloud (.client _) => true
  | _ => false

/-- A question that is asked to find out about the disk: a look at it, a wait, or what it takes to get
a client. -/
def Ask.isLooking : Ask → Bool
  | .cloud (.describe _ _ _) | .sleep _ => true
  | question => question.isCredential

/-- A question about the host that changes no mount. -/
def Ask.isInspecting : Ask → Bool
  | .tree _ | .mounter (.refs _) | .mounter (.deviceAt _) | .mounter (.countAt _) => true
  | _ => false

@[simp] theorem Ask.isInspecting_tree (question : TreeAsk) :
    (Ask.tree question).isInspecting = true := rfl

@[simp] theorem Ask.isInspecting_deviceAt (target : Path) :
    (Ask.mounter (.deviceAt target)).isInspecting = true := rfl

/-- A mount is asked for. -/
def Ask.isMounting : Ask → Bool
  | .mounter (.formatAndMount _ _ _ _) | .mounter (.mount _ _ _ _) => true
  | _ => false

/-- The disk is asked to be detached. -/
def Ask.isDetaching : Ask → Bool
  | .cloud (.detach _ _ _) => true
  | _ => false

/-- A question to the mounter. -/
def Ask.isMounter : Ask → Bool
  | .mounter _ => true
  | _ => false

/-- A question that reaches the host. -/
def Ask.isHost : Ask → Bool
  | .mounter _ | .tree _ => true
  | _ => false

/-- A question about a lock. -/
def Ask.isLock : Ask → Bool
  | .acquire _ | .release _ => true
  | _ => false

section Kinds

variable {question : Ask}

theorem Ask.isLooking_of_isCredential (h : question.isCredential) : question.isLooking := by
  rw [isLooking.eq_def]
  split <;> trivial

theorem Ask.isControl_of_isCredential (h : question.isCredential) :
    question.isControl = false := by
  cases question with
  | cloud question => cases question <;> simp_all [isCredential, isControl]
  | _ => rfl

theorem Ask.isLock_of_isControl (h : question.isControl) : question.isLock = false := by
  cases question with
  | acquire key => cases h
  | release key => cases h
  | _ => rfl

theorem Ask.isLock_of_isLooking (h : question.isLooking) : question.isLock = false := by
  cases question with
  | acquire key => cases h
  | release key => cases h
  | _ => rfl

theorem Ask.isLock_of_isInspecting (h : question.isInspecting) : question.isLock = false := by
  cases question with
  | acquire key => cases h
  | release key => cases h
  | _ => rfl

theorem Ask.isControl_of_isInspecting (h : question.isInspecting) :
    question.isControl = false := by
  cases question with
  | cloud question => cases h
  | _ => rfl

theorem Ask.isMounting_of_isCredential (h : question.isCredential) :
    question.isMounting = false := by
  cases question with
  | mounter question => cases h
  | _ => rfl

theorem Ask.isMounting_of_isLooking (h : question.isLooking) : question.isMounting = false := by
  cases question with
  | mounter question => cases h
  | _ => rfl

theorem Ask.isMounting_of_isInspecting (h : question.isInspecting) :
    question.isMounting = false := by
  cases question with
  | mounter question => cases question <;> simp_all [isInspecting, isMounting]
  | _ => rfl

theorem Ask.isDetaching_of_isLooking (h : question.isLooking) : question.isDetaching = false := by
  cases question with
  | cloud question => cases question <;> simp_all [isLooking, isCredential, isDetaching]
  | _ => rfl

theorem Ask.isDetaching_of_isHost (h : question.isHost) : question.isDetaching = false := by
  cases question with
  | cloud question => cases h
  | _ => rfl

theorem Ask.isControl_of_isHost (h : question.isHost) : question.isControl = false := by
  cases question with
  | cloud question => cases h
  | _ => rfl

theorem Ask.isHost_of_isLooking (h : question.isLooking) : question.isHost = false := by
  cases question with
  | mounter question => cases h
  | tree question => cases h
  | _ => rfl

end Kinds

/-- The calls to the control plane among some exchanges. -/
def calls (es : List (Exchange Ask.Answer)) : List (Exchange Ask.Answer) :=
  es.filter (·.question.isControl)

@[simp] theorem calls_nil : calls [] = [] := rfl

@[simp] theorem calls_sleep (ms : Nat) (es : List (Exchange Ask.Answer)) :
    calls (⟨.sleep ms, ()⟩ :: es) = calls es := rfl

@[simp] theorem calls_append (es fs : List (Exchange Ask.Answer)) :
    calls (es ++ fs) = calls es ++ calls fs :=
  List.filter_append _ _

theorem calls_eq_nil {es : List (Exchange Ask.Answer)}
    (h : ∀ e ∈ es, e.question.isControl = false) : calls es = [] := by
  simpa [calls] using h

/-- The answer to a look at the disk. -/
def look? : Exchange Ask.Answer → Option (Except ApiError (Option Disk))
  | ⟨.cloud (.describe _ _ _), reply⟩ => some reply
  | _ => none

/-- The answers to the looks at the disk among some exchanges, in turn. -/
def looks (es : List (Exchange Ask.Answer)) : List (Except ApiError (Option Disk)) :=
  es.filterMap look?

/-- What the first look that succeeded has found. -/
def firstFound (es : List (Exchange Ask.Answer)) : Option (Option Disk) :=
  (looks es).findSome? Except.toOption

@[simp] theorem looks_nil : looks [] = [] := rfl

@[simp] theorem looks_append (es fs : List (Exchange Ask.Answer)) :
    looks (es ++ fs) = looks es ++ looks fs :=
  List.filterMap_append

/-- A look at the disk is a call. -/
theorem looks_calls (es : List (Exchange Ask.Answer)) : looks (calls es) = looks es := by
  rw [looks, calls, List.filterMap_filter]
  congr 1
  funext e
  rcases e with ⟨question, reply⟩
  cases question with
  | cloud question => cases question <;> rfl
  | _ => rfl

theorem looks_eq_nil {es : List (Exchange Ask.Answer)}
    (h : ∀ e ∈ es, e.question.isControl = false) : looks es = [] := by
  rw [← looks_calls, calls_eq_nil h, looks_nil]

theorem firstFound_append_of_nil {es fs : List (Exchange Ask.Answer)} (h : looks es = []) :
    firstFound (es ++ fs) = firstFound fs := by
  simp [firstFound, h]

/-- What was found first is not changed by what is found later. -/
theorem firstFound_append {es fs : List (Exchange Ask.Answer)} {found : Option Disk}
    (h : firstFound es = some found) : firstFound (es ++ fs) = some found := by
  rw [firstFound] at h
  simp [firstFound, h]

namespace Cloud

theorem only_roleCredentials : Only (·.isCredential) roleCredentials := by
  refine Only.bind (Only.bind (only_query rfl) fun _ => only_pure _) fun role => ?_
  cases role with
  | none => exact only_pure _
  | some role => exact Only.bind (Only.bind (only_query rfl) fun _ => only_pure _) fun _ => only_pure _

theorem only_resolve (source : CredentialSource) : Only (·.isCredential) source.resolve := by
  rw [CredentialSource.resolve]
  split
  · exact only_pure _
  · exact only_roleCredentials.bind fun _ => only_pure _

theorem only_build (credentials : Credentials) : Only (·.isCredential) (Client.build credentials) := by
  rw [Client.build]
  split
  · exact only_pure _
  · exact Only.bind (only_query rfl) fun _ => only_pure _

theorem only_connect (source : CredentialSource) : Only (·.isCredential) (Client.connect source) :=
  (only_resolve source).bind only_build

theorem only_refresh (source : CredentialSource) (client : Client) :
    Only (·.isCredential) (client.refresh source) := by
  rw [Client.refresh]
  split
  · exact (only_resolve source).bind fun _ => (only_build _).bind fun _ => only_pure _
  · exact only_pure _

end Cloud
end BlockVolume
