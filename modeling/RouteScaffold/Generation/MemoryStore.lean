import RouteScaffold.Generation.Run
import RouteScaffold.SortedMap

/-!
A store of artifacts in memory, ordered by path.

A later artifact at the same path replaces the contents of an earlier one; the path keeps its first
spelling.
-/

namespace RouteScaffold

abbrev MemoryStore := SortedMap Path String

namespace MemoryStore

def persist (store : MemoryStore) (artifact : Artifact) : MemoryStore :=
  store.insert artifact.path artifact.contents

/-- The store as a sink; it takes every artifact. -/
def sink : Sink (StateM MemoryStore) := fun artifact =>
  ExceptT.lift (modify (persist · artifact))

theorem get?_persist (store : MemoryStore) (artifact : Artifact) (path : Path) :
    (store.persist artifact).get? path =
      if path.Same artifact.path then some artifact.contents else store.get? path := by
  simp only [persist, SortedMap.get?_insert, Path.compare_eq_iff_same]

end MemoryStore

end RouteScaffold
