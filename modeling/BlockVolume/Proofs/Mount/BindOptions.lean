import BlockVolume.Mount.BindOptions
import Mathlib.Data.List.Nodup
/-!
The two option lists of a bind mount.

Options are taken one after the other, and each one goes to the end of the lists it belongs to. So
the lists are what was there first and then a part of the options, in their order — which tells
every entry, and how often it comes. The word `remount` is there first and is no exception among the
options, so it comes twice where it is asked for.
-/

namespace BlockVolume.Mount.BindOptions

/-- Options that are taken into account one after the other. -/
theorem foldl_add (options : List String) (bind : BindOptions) :
    options.foldl add bind =
      { isBind := bind.isBind || options.contains "bind"
        first := bind.first ++ options.filter (· == "_netdev")
        remount := bind.remount ++ options.filter (· != "bind") } := by
  induction options generalizing bind with
  | nil => simp
  | cons option rest ih =>
    rw [List.foldl_cons, ih, add]
    by_cases isBind : option = "bind"
    · subst isBind
      simp
    · rw [if_neg isBind]
      by_cases isNetwork : option = "_netdev"
      · subst isNetwork
        simp
      · simp [isNetwork, isBind, Ne.symm isBind]

theorem isBind_ofList (options : List String) :
    (ofList options).isBind = true ↔ "bind" ∈ options := by
  simp [ofList, foldl_add]

theorem remount_ofList (options : List String) :
    (ofList options).remount = "bind" :: "remount" :: options.filter (· != "bind") := by
  simp [ofList, foldl_add]

/-- The first mount has the option of a network device as often as it was given. -/
theorem first_ofList (options : List String) :
    (ofList options).first = "bind" :: List.replicate (options.count "_netdev") "_netdev" := by
  simp [ofList, foldl_add, List.filter_beq]

theorem mem_remount (options : List String) (option : String) :
    option ∈ (ofList options).remount ↔
      option = "bind" ∨ option = "remount" ∨ option ∈ options := by
  rw [remount_ofList]
  by_cases isBind : option = "bind" <;> simp [isBind]

/-- Beside the words that are there first, the remount has no repeated option but those that were
given more than once. -/
theorem nodup_remount {options : List String} (distinct : options.Nodup) :
    (ofList options).remount.Nodup ↔ "remount" ∉ options := by
  have others : (options.filter (· != "bind")).Nodup := distinct.filter _
  rw [remount_ofList]
  simp [others]

/-- Of options without repeats: `bind` is noticed, the first mount has `_netdev` where it was given,
and the remount has all options, the others in their order after `bind` and `remount`. The remount
has no option twice exactly if `remount` was not given. -/
theorem ofList_split {options : List String} (distinct : options.Nodup) :
    ((ofList options).isBind = true ↔ "bind" ∈ options) ∧
    (ofList options).first =
      (if "_netdev" ∈ options then ["bind", "_netdev"] else ["bind"]) ∧
    (∀ option, option ∈ (ofList options).remount ↔
      option = "bind" ∨ option = "remount" ∨ option ∈ options) ∧
    (ofList options).remount = ["bind", "remount"] ++ options.erase "bind" ∧
    ((ofList options).remount.Nodup ↔ "remount" ∉ options) := by
  refine ⟨isBind_ofList options, ?_, mem_remount options, ?_, nodup_remount distinct⟩
  · rw [first_ofList, distinct.count]
    split <;> rfl
  · rw [remount_ofList, distinct.erase_eq_filter]
    rfl

theorem network_bind_split :
    ["ro", "bind", "_netdev"].Nodup ∧ "remount" ∉ ["ro", "bind", "_netdev"] ∧
      (ofList ["ro", "bind", "_netdev"]).first = ["bind", "_netdev"] ∧
      (ofList ["ro", "bind", "_netdev"]).remount = ["bind", "remount", "ro", "_netdev"] ∧
      (ofList ["ro", "bind", "_netdev"]).remount.Nodup := by
  have distinct : ["ro", "bind", "_netdev"].Nodup := by decide
  have absent : "remount" ∉ ["ro", "bind", "_netdev"] := by decide
  obtain ⟨-, first, -, remount, nodup⟩ := ofList_split distinct
  exact ⟨distinct, absent, first, remount, nodup.mpr absent⟩

/-- Options without repeats are remounted with `remount` twice if it is one of them. -/
theorem remount_listed_twice : ["bind", "remount", "ro"].Nodup ∧
    ¬(ofList ["bind", "remount", "ro"]).remount.Nodup := by
  decide

end BlockVolume.Mount.BindOptions
