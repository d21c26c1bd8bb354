import BlockVolume.Text.Blank
import BlockVolume.Text.Quoted
/-!
The options of a volume as texts, and the values that single options may have.
-/

namespace BlockVolume.Volume

open BlockVolume.Text (quote)

/-- Raw options by name. -/
abbrev Options := List (String × String)

namespace Options

/-- Sets an option. -/
def insert (options : Options) (name value : String) : Options :=
  (name, value) :: options.filter fun (other, _) => other != name

/-- The trimmed value of an option that is not blank. -/
def nonBlank? (options : Options) (name : String) : Option String :=
  match options.lookup name with
  | some value => if (Text.trim value).isEmpty then none else some (Text.trim value)
  | none => none

end Options

/-- Why options are no request. -/
inductive ValidationError where
  | fsType (value : String)
  | category (value : String)
  | missing (name : String)
  | unresolved (name : String)
  deriving DecidableEq

/-- The name of the kind of an error. -/
def ValidationError.name : ValidationError → String
  | .fsType _ => "FsType"
  | .category _ => "Category"
  | .missing _ => "Missing"
  | .unresolved _ => "Unresolved"

/-- The text of an error. -/
def ValidationError.message : ValidationError → String
  | .fsType value => "illegal required parameter fsType: " ++ quote value
  | .category value => "illegal required parameter type: " ++ quote value
  | .missing name => "missing required parameter " ++ name
  | .unresolved name => name ++ " is not set and could not be resolved from instance metadata"

/-- A file system that disks are formatted with. -/
inductive FsType where | ext3 | ext4
  deriving DecidableEq

/-- The name of a file system. -/
def FsType.name : FsType → String
  | .ext3 => "ext3"
  | .ext4 => "ext4"

/-- The file system with a name. -/
def FsType.parse : String → Except ValidationError FsType
  | "ext3" => .ok .ext3
  | "ext4" => .ok .ext4
  | value => .error (.fsType value)

/-- The kind of a disk — `available` leaves the choice to the zone. -/
inductive Category where | available | cloud | cloudEfficiency | cloudSsd
  deriving DecidableEq

/-- The name of a category. -/
def Category.name : Category → String
  | .available => "available"
  | .cloud => "cloud"
  | .cloudEfficiency => "cloud_efficiency"
  | .cloudSsd => "cloud_ssd"

/-- The category with a name. -/
def Category.parse : String → Except ValidationError Category
  | "available" => .ok .available
  | "cloud" => .ok .cloud
  | "cloud_efficiency" => .ok .cloudEfficiency
  | "cloud_ssd" => .ok .cloudSsd
  | value => .error (.category value)

/-- An option that is `yes`, `true` or `1` in any ASCII case is set, any other and none is not. -/
def isSet (value : Option String) : Bool :=
  match value with
  | some text =>
    let lower := String.ofList (text.toList.map Char.toLower)
    lower == "yes" || lower == "true" || lower == "1"
  | none => false

/-- The written form of a switch. -/
def switchText (on : Bool) : String := if on then "true" else "false"

end BlockVolume.Volume
