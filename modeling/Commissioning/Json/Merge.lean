import Commissioning.Json.Basic

/-!
# Merging documents

`Commissioning.Json.merge` lays a patch over the members of an object. Where both have
an object under one name, the two are merged in turn; everything else in the patch
replaces what was there, lists included.
-/

namespace Commissioning

namespace Json

mutual

/-- The value that a patched member has: the patch, laid over what was there if both are
objects. -/
def patched (old : Option Json) : Json → Json
  | .obj patch =>
    match old with
    | some (.obj target) => .obj (merge target patch)
    | _ => .obj patch
  | value => value

/-- **The members of an object with a patch laid over them.** -/
def merge (target : Members) : List (String × Json) → Members
  | [] => target
  | (name, value) :: patch =>
    merge (Assoc.put target name (patched (Assoc.get? target name) value)) patch

end

end Json

end Commissioning
