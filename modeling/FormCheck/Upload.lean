import FormCheck.Files.Tree

/-!
Uploaded files as the client describes them. A description is usable if the upload went well and
its file is there.
-/
namespace FormCheck

structure Upload where
  /-- The status of the upload. -/
  error : Int64
  /-- Where the received bytes lie. -/
  path : String
  /-- The size in bytes that the client states. -/
  size : UInt64
  /-- The type of content that the client states. -/
  declaredType : String
  deriving DecidableEq

namespace Upload

def noError : Int64 := 0

def noFile : Int64 := 4

def isUsable (u : Upload) (files : Files.Tree) : Bool :=
  u.error == noError && files.isFile u.path

/-- Equal, where two paths with the same parts count as one. -/
def agrees (a b : Upload) : Bool :=
  a.error == b.error && Files.samePath a.path b.path && a.size == b.size &&
    a.declaredType == b.declaredType

@[simp] theorem agrees_refl (u : Upload) : u.agrees u = true := by
  simp [agrees, Files.samePath]

end Upload

end FormCheck
