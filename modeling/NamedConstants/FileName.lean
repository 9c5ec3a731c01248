import NamedConstants.Text.Utf8

/-!
# File names

A file system knows a name by its bytes, and the bytes need not be a text. What
is shown of a name is its text, with replacement characters where the bytes are
none, so different names may be shown alike.
-/

set_option autoImplicit false

namespace NamedConstants

/-- The name of a file or directory. -/
structure FileName where
  bytes : Text.Bytes
  deriving DecidableEq, Repr

namespace FileName

/-- The byte between the names of a path. -/
def slash : UInt8 := 0x2F

/-- The byte in front of an extension. -/
def dot : UInt8 := 0x2E

/-- The name that a text spells. -/
def ofText (text : String) : FileName := ⟨Text.bytesOf text⟩

instance : Coe String FileName := ⟨ofText⟩

/-- What is shown of a name. -/
def text (name : FileName) : String := Text.lossyString name.bytes

/-- Several names are shown one by one. -/
instance : Coe (List FileName) (List String) := ⟨List.map text⟩

/-- The name is spelled by a text. -/
def isText (name : FileName) : Bool := Text.isUtf8 name.bytes

end FileName

end NamedConstants
