import RouteScaffold.Generation.MemoryStore
import RouteScaffold.Proofs.Generation.Report

/-!
# Runs

A run writes nothing unless there is a plan, and then hands the planned artifacts to the sink in order,
up to the first that the sink refuses. What a sink does with an artifact is left open: it may change its
state in any way and fail at any point. The store in memory takes everything, so a run leaves there
what was planned beside what was there before.

The main statement is `generate_faithful`.
-/

namespace RouteScaffold

section Chains

variable {ε σ α β : Type} {x : ExceptT ε (StateM σ) α} {f : α → ExceptT ε (StateM σ) β} {s t : σ}

theorem run_bind_of_ok {a : α} (h : x.run.run s = (.ok a, t)) :
    (x >>= f).run.run s = (f a).run.run t := by
  rw [ExceptT.run_bind, StateT.run_bind, h]
  rfl

theorem run_bind_of_error {e : ε} (h : x.run.run s = (.error e, t)) :
    (x >>= f).run.run s = (.error e, t) := by
  rw [ExceptT.run_bind, StateT.run_bind, h]
  rfl

theorem exists_of_run_bind {b : β} {u : σ} (h : (x >>= f).run.run s = (.ok b, u)) :
    ∃ a t, x.run.run s = (.ok a, t) ∧ (f a).run.run t = (.ok b, u) := by
  rcases hx : x.run.run s with ⟨e | a, t⟩
  · rw [run_bind_of_error hx] at h
    cases h
  · rw [run_bind_of_ok hx] at h
    exact ⟨a, t, rfl, h⟩

end Chains

section Sinks

variable {σ : Type} {sink : Sink (StateM σ)}

/-- What the sink answers to an artifact in a state, and the state it goes to. -/
def Sink.answer (sink : Sink (StateM σ)) (artifact : Artifact) (s : σ) : Except Failure Unit × σ :=
  (sink artifact).run.run s

/-- The sink takes the artifacts one after the other, each once, from the first state to the last. -/
inductive Sink.Stores (sink : Sink (StateM σ)) : σ → List Artifact → σ → Prop where
  | nil (s : σ) : Stores sink s [] s
  | cons {s t u : σ} {artifact : Artifact} {rest : List Artifact}
      (taken : sink.answer artifact s = (.ok (), t)) (later : Stores sink t rest u) :
      Stores sink s (artifact :: rest) u

/-- How a run that starts in state `s` ends, by what became of the plan. -/
inductive RunEnds (graph : RouteGraph) (cfg : Config) (sink : Sink (StateM σ)) (s : σ) :
    Except Failure (List Artifact) → Except Failure Report × σ → Prop where
  | unplanned (failure : Failure) : RunEnds graph cfg sink s (.error failure) (.error failure, s)
  | stored {artifacts : List Artifact} {report : Report} {t : σ} (stores : sink.Stores s artifacts t)
      (describes : report.Describes graph cfg artifacts) :
      RunEnds graph cfg sink s (.ok artifacts) (.ok report, t)
  | stopped {before rest : List Artifact} {artifact : Artifact} {failure : Failure} {t u : σ}
      (stores : sink.Stores s before t) (refused : sink.answer artifact t = (.error failure, u)) :
      RunEnds graph cfg sink s (.ok (before ++ artifact :: rest)) (.error failure, u)

/-- The sink takes all artifacts, or it takes those before the first that it refuses. -/
theorem persistAll_cases (sink : Sink (StateM σ)) (artifacts : List Artifact) (s : σ) :
    (∃ t, (persistAll sink artifacts).run.run s = (.ok (), t) ∧ sink.Stores s artifacts t) ∨
      ∃ before artifact rest failure t u, before ++ artifact :: rest = artifacts ∧
        (persistAll sink artifacts).run.run s = (.error failure, u) ∧ sink.Stores s before t ∧
          sink.answer artifact t = (.error failure, u) := by
  induction artifacts generalizing s with
  | nil => exact .inl ⟨s, rfl, .nil s⟩
  | cons artifact rest ih =>
    unfold persistAll
    rcases hanswer : sink.answer artifact s with ⟨failure | _, t⟩
    · exact .inr ⟨[], artifact, rest, failure, s, t, rfl, run_bind_of_error hanswer, .nil s, hanswer⟩
    · rw [run_bind_of_ok hanswer]
      rcases ih t with ⟨u, hrun, hstores⟩ | ⟨before, refused, after, failure, u, v, rfl, hrun, hstores, hrefused⟩
      · exact .inl ⟨u, hrun, .cons hanswer hstores⟩
      · exact .inr ⟨artifact :: before, refused, after, failure, u, v, rfl, hrun,
          .cons hanswer hstores, hrefused⟩

namespace RouteGraph

variable {graph : RouteGraph} {cfg : Config} {registry : TemplateRegistry} {engine : Template.Engine}

theorem run_generate_of_error {failure : Failure}
    (hplan : graph.plan cfg registry engine = .error failure) (s : σ) :
    (graph.generate cfg registry sink engine).run.run s = (.error failure, s) := by
  unfold generate
  rw [hplan]
  rfl

theorem run_generate_of_ok {artifacts : List Artifact}
    (hplan : graph.plan cfg registry engine = .ok artifacts) (s : σ) :
    (graph.generate cfg registry sink engine).run.run s =
      (do persistAll sink artifacts; pure (.ofArtifacts artifacts) :
        ExceptT Failure (StateM σ) Report).run.run s := by
  unfold generate
  rw [hplan, ← Report.foldl_record]
  rfl

theorem runEnds_generate (graph : RouteGraph) (cfg : Config) (registry : TemplateRegistry)
    (engine : Template.Engine) (sink : Sink (StateM σ)) (s : σ) :
    RunEnds graph cfg sink s (graph.plan cfg registry engine)
      ((graph.generate cfg registry sink engine).run.run s) := by
  cases hplan : graph.plan cfg registry engine with
  | error failure =>
    rw [run_generate_of_error hplan]
    exact .unplanned failure
  | ok artifacts =>
    rw [run_generate_of_ok hplan]
    rcases persistAll_cases sink artifacts s with
      ⟨t, hrun, hstores⟩ | ⟨before, artifact, rest, failure, t, u, rfl, hrun, hstores, hrefused⟩
    · rw [run_bind_of_ok hrun]
      exact .stored hstores (describes_ofArtifacts hplan)
    · rw [run_bind_of_error hrun]
      exact .stopped hstores hrefused

end RouteGraph

end Sinks

namespace MemoryStore

variable {store : MemoryStore} {artifacts : List Artifact}

/-- The store holds what was planned, and what it held at other paths before. -/
structure Filed (store : MemoryStore) (artifacts : List Artifact) (filed : MemoryStore) : Prop where
  planned : ∀ artifact ∈ artifacts, filed.get? artifact.path = some artifact.contents
  untouched : ∀ path : Path, (∀ artifact ∈ artifacts, ¬ path.Same artifact.path) →
    filed.get? path = store.get? path

theorem run_persistAll (artifacts : List Artifact) (store : MemoryStore) :
    (persistAll sink artifacts).run.run store = (.ok (), artifacts.foldl persist store) := by
  induction artifacts generalizing store with
  | nil => rfl
  | cons artifact rest ih =>
    have hanswer : (sink artifact).run.run store = (.ok (), store.persist artifact) := rfl
    unfold persistAll
    rw [run_bind_of_ok hanswer, ih, List.foldl_cons]

theorem get?_foldl_persist {path : Path} (h : ∀ artifact ∈ artifacts, ¬ path.Same artifact.path) :
    (artifacts.foldl persist store).get? path = store.get? path := by
  induction artifacts generalizing store with
  | nil => rfl
  | cons artifact rest ih =>
    obtain ⟨hartifact, hrest⟩ := List.forall_mem_cons.1 h
    rw [List.foldl_cons, ih hrest, get?_persist, if_neg hartifact]

theorem filed_foldl_persist
    (h : (artifacts.map fun artifact => artifact.path.components).Nodup) :
    Filed store artifacts (artifacts.foldl persist store) := by
  refine ⟨?_, fun _ => get?_foldl_persist⟩
  induction artifacts generalizing store with
  | nil => simp
  | cons artifact rest ih =>
    obtain ⟨hfresh, hrest⟩ := List.nodup_cons.1 h
    refine List.forall_mem_cons.2 ⟨?_, ih hrest⟩
    -- no later artifact goes to the same place
    have hlater : ∀ later ∈ rest, ¬ artifact.path.Same later.path := by
      intro later hmem hsame
      exact hfresh (List.mem_map.2 ⟨later, hmem, hsame.symm⟩)
    have hsame : artifact.path.Same artifact.path := rfl
    rw [List.foldl_cons, get?_foldl_persist hlater, get?_persist, if_pos hsame]

theorem foldl_persist_eq_self (h : ∀ artifact ∈ artifacts,
    store.get? artifact.path = some artifact.contents) : artifacts.foldl persist store = store := by
  induction artifacts with
  | nil => rfl
  | cons artifact rest ih =>
    obtain ⟨hartifact, hrest⟩ := List.forall_mem_cons.1 h
    rw [List.foldl_cons, persist, SortedMap.insert_of_get? hartifact, ih hrest]

theorem run_generate {graph : RouteGraph} {cfg : Config} {registry : TemplateRegistry}
    {engine : Template.Engine}
    (hplan : graph.plan cfg registry engine = .ok artifacts) (store : MemoryStore) :
    (graph.generate cfg registry sink engine).run.run store =
      (.ok (.ofArtifacts artifacts), artifacts.foldl persist store) := by
  rw [RouteGraph.run_generate_of_ok hplan, run_bind_of_ok (run_persistAll artifacts store)]
  rfl

end MemoryStore

/-- A run does what its plan says, whatever the sink does: without a plan it does not call the sink, and
otherwise it calls it on the planned artifacts in order, up to the first refusal. In memory nothing that
was planned gets lost, nothing else changes, and a second run changes nothing. -/
theorem RouteGraph.generate_faithful (graph : RouteGraph) (cfg : Config)
    (registry : TemplateRegistry) (engine : Template.Engine) :
    (∀ (σ : Type) (sink : Sink (StateM σ)) (s : σ),
      RunEnds graph cfg sink s (graph.plan cfg registry engine)
        ((graph.generate cfg registry sink engine).run.run s)) ∧
      ∀ artifacts, graph.plan cfg registry engine = .ok artifacts → ∀ store : MemoryStore,
        ∃ report filed,
          (graph.generate cfg registry MemoryStore.sink engine).run.run store = (.ok report, filed) ∧
            store.Filed artifacts filed ∧
              (graph.generate cfg registry MemoryStore.sink engine).run.run filed =
                (.ok report, filed) := by
  refine ⟨fun _ => runEnds_generate graph cfg registry engine, fun artifacts hplan store => ?_⟩
  have hfiled : store.Filed artifacts (artifacts.foldl MemoryStore.persist store) :=
    MemoryStore.filed_foldl_persist (nodup_places_of_plan hplan)
  refine ⟨_, _, MemoryStore.run_generate hplan store, hfiled, ?_⟩
  rw [MemoryStore.run_generate hplan, MemoryStore.foldl_persist_eq_self hfiled.planned]

end RouteScaffold
