/-!
Mount options of a bind mount.

A bind mount takes no options of its own, so it is made first and its options are set by a remount.
-/

namespace BlockVolume.Mount

/-- The options of the two mounts that make a bind mount. -/
structure BindOptions where
  isBind : Bool
  /-- For the first mount: `bind`, and `_netdev`, which would not carry over by itself. -/
  first : List String
  /-- For the remount: all options but `bind`, after `bind` and `remount`. -/
  remount : List String
  deriving DecidableEq

/-- Takes one option into account. -/
def BindOptions.add (options : BindOptions) (option : String) : BindOptions :=
  if option = "bind" then { options with isBind := true }
  else if option = "_netdev" then
    { options with first := options.first ++ [option], remount := options.remount ++ [option] }
  else { options with remount := options.remount ++ [option] }

/-- The bind options in a list of mount options. -/
def BindOptions.ofList (options : List String) : BindOptions :=
  options.foldl BindOptions.add ⟨false, ["bind"], ["bind", "remount"]⟩

end BlockVolume.Mount
