import RouteScaffold.Proofs.Generation.Run
import RouteScaffold.Proofs.Path.Same
import RouteScaffold.Proofs.SortedMap

/-!
# The store in memory

A store that began empty shows, of each path, what was last written there, under the spelling in which the path
came first. One more write goes on from any such store to the next, and leaves all other entries alone.

The main statement is `lastWriterWins`.
-/

namespace RouteScaffold.MemoryStore

variable {store : MemoryStore} {artifacts : List Artifact} {artifact : Artifact} {path p q : Path}

def lastAt? (artifacts : List Artifact) (path : Path) : Option Artifact :=
  (artifacts.filter fun artifact => path.Same artifact.path).getLast?

def firstAt? (artifacts : List Artifact) (path : Path) : Option Artifact :=
  artifacts.find? fun artifact => path.Same artifact.path

/-- The store tells what was written by these artifacts, in their order, and nothing else. -/
structure Records (store : MemoryStore) (artifacts : List Artifact) : Prop where
  get? : ∀ path, store.get? path = (lastAt? artifacts path).map (·.contents)
  /-- The keys are the paths that were spelled so when they were first written to. -/
  mem_keys : ∀ path, path ∈ store.keys ↔ (firstAt? artifacts path).map (·.path) = some path

theorem records_empty : Records .empty [] where
  get? _ := rfl
  mem_keys path := by
    change path ∈ [] ↔ none = some path
    simp

theorem lastAt?_concat : lastAt? (artifacts ++ [artifact]) path =
    if path.Same artifact.path then some artifact else lastAt? artifacts path := by
  unfold lastAt?
  rw [List.filter_append]
  by_cases h : path.Same artifact.path
  · have honly : ([artifact].filter fun artifact => path.Same artifact.path) = [artifact] :=
      List.filter_cons_of_pos (decide_eq_true h)
    rw [if_pos h, honly, List.getLast?_concat]
  · have hnone : ([artifact].filter fun artifact => path.Same artifact.path) = [] :=
      List.filter_cons_of_neg (by simpa using h)
    rw [if_neg h, hnone, List.append_nil]

theorem lastAt?_eq_none_iff : lastAt? artifacts path = none ↔ firstAt? artifacts path = none := by
  rw [lastAt?, firstAt?, List.getLast?_eq_none_iff, List.filter_eq_nil_iff, List.find?_eq_none]

theorem Records.get?_eq_none_iff (h : store.Records artifacts) :
    store.get? path = none ↔ firstAt? artifacts path = none := by
  rw [h.get?, Option.map_eq_none_iff, lastAt?_eq_none_iff]

theorem Records.persist (h : store.Records artifacts) (artifact : Artifact) :
    (store.persist artifact).Records (artifacts ++ [artifact]) where
  get? path := by
    rw [get?_persist, lastAt?_concat, h.get?]
    split <;> rfl
  mem_keys path := by
    have hfirst : firstAt? (artifacts ++ [artifact]) path =
        (firstAt? artifacts path).or (firstAt? [artifact] path) := List.find?_append
    rw [MemoryStore.persist, SortedMap.mem_keys_insert, h.mem_keys, h.get?_eq_none_iff, hfirst]
    cases hearlier : firstAt? artifacts path with
    | some first =>
      rw [Option.some_or]
      refine or_iff_left ?_
      rintro ⟨rfl, hnone⟩
      rw [hearlier] at hnone
      cases hnone
    | none =>
      rw [Option.none_or, Option.map_none]
      constructor
      · rintro (hnone | ⟨rfl, -⟩)
        · cases hnone
        · have hself : artifact.path.Same artifact.path := rfl
          simp [firstAt?, hself]
      · intro hsome
        obtain ⟨only, honly, hpath⟩ := Option.map_eq_some_iff.1 hsome
        obtain rfl : only = artifact := List.mem_singleton.1 (List.mem_of_find?_eq_some honly)
        exact .inr ⟨hpath.symm, hpath ▸ hearlier⟩

/-- What a store recorded goes on to be recorded, whatever is written after it. -/
theorem Records.foldl_persist {later : List Artifact} (h : store.Records artifacts) :
    (later.foldl MemoryStore.persist store).Records (artifacts ++ later) := by
  induction later generalizing store artifacts with
  | nil => rwa [List.append_nil]
  | cons artifact rest ih =>
    rw [List.foldl_cons, ← List.singleton_append, ← List.append_assoc]
    exact ih (h.persist artifact)

theorem firstAt?_congr (h : p.Same q) : firstAt? artifacts p = firstAt? artifacts q := by
  have hplace : (fun artifact : Artifact => decide (p.Same artifact.path)) =
      fun artifact => decide (q.Same artifact.path) := by
    funext artifact
    exact decide_eq_decide.2 ⟨h.symm.trans, h.trans⟩
  rw [firstAt?, hplace, firstAt?]

/-- Two keys that are one path are one key, since the path came first under one spelling only. -/
theorem Records.key_unique (h : store.Records artifacts) (hp : p ∈ store.keys) (hq : q ∈ store.keys)
    (hsame : p.Same q) : p = q := by
  rw [h.mem_keys] at hp hq
  rw [firstAt?_congr hsame, hq] at hp
  exact Option.some_inj.1 hp.symm

theorem Records.existsUnique_key (h : store.Records artifacts) (hmem : artifact ∈ artifacts) :
    ∃! path, path ∈ store.keys ∧ path.Same artifact.path := by
  have hself : artifact.path.Same artifact.path := rfl
  obtain ⟨first, hfirst⟩ : ∃ first, firstAt? artifacts artifact.path = some first :=
    Option.isSome_iff_exists.1 (List.find?_isSome.2 ⟨artifact, hmem, decide_eq_true hself⟩)
  have hsame : artifact.path.Same first.path := by simpa using List.find?_some hfirst
  have hkey : first.path ∈ store.keys := by
    rw [h.mem_keys, ← firstAt?_congr hsame, hfirst, Option.map_some]
  refine ⟨first.path, ⟨hkey, hsame.symm⟩, ?_⟩
  rintro other ⟨hother, hsameOther⟩
  exact h.key_unique hother hkey (hsameOther.trans hsame)

theorem filter_entries_persist (store : MemoryStore) (artifact : Artifact) :
    ((store.persist artifact).entries.filter fun entry => ¬ artifact.path.Same entry.1) =
      store.entries.filter fun entry => ¬ artifact.path.Same entry.1 := by
  have hother : (fun entry : Path × String => decide (¬ artifact.path.Same entry.1)) =
      fun entry => compare artifact.path entry.1 != .eq := by
    funext entry
    rw [Bool.eq_iff_iff, decide_eq_true_iff, bne_iff_ne, ne_eq, Path.compare_eq_iff_same]
  rw [hother]
  exact store.filter_entries_insert artifact.path artifact.contents

/-- After any writes the store holds for each path what was written there last, once, under its first spelling,
and in the order of the components; one more write touches no other entry. Spellings are one path when they
begin alike and their segments agree but for the empty ones and the `.` ones. -/
theorem lastWriterWins :
    (∀ artifacts, ∃ store : MemoryStore,
      (persistAll sink artifacts).run.run .empty = (.ok (), store) ∧ store.Records artifacts ∧
        (∀ artifact ∈ artifacts, ∃! path, path ∈ store.keys ∧ path.Same artifact.path) ∧
        (store.keys.Pairwise fun p q => compare p.components q.components = .lt) ∧
        ∀ entry ∈ store.entries, store.get? entry.1 = some entry.2) ∧
      (∀ (store : MemoryStore) (artifact : Artifact),
        (sink artifact).run.run store = (.ok (), store.persist artifact) ∧
          ((store.persist artifact).entries.filter fun entry => ¬ artifact.path.Same entry.1) =
            store.entries.filter fun entry => ¬ artifact.path.Same entry.1) ∧
      ∀ p q : Path, p.Same q ↔ p.isAbsolute = q.isAbsolute ∧
        (p.segments.head? = some "." ↔ q.segments.head? = some ".") ∧
          p.segments.filter (!Path.isNoise ·) = q.segments.filter (!Path.isNoise ·) := by
  refine ⟨fun artifacts => ?_, fun store artifact => ⟨rfl, filter_entries_persist store artifact⟩,
    fun _ _ => Path.same_iff⟩
  have hrecords : (artifacts.foldl MemoryStore.persist .empty).Records artifacts :=
    records_empty.foldl_persist
  exact ⟨_, run_persistAll artifacts .empty, hrecords, fun _ => hrecords.existsUnique_key,
    SortedMap.pairwise_keys _, fun _ => SortedMap.get?_of_mem⟩

end RouteScaffold.MemoryStore
