import BuildMatrix.Pipeline.Basic
import Mathlib.Data.List.Perm.Subperm
import Mathlib.Logic.Relation

namespace BuildMatrix

-- Nothing is said about jobs here: an edge may join names that no job has, join
-- a name to itself, or stand in the list more than once.
def Leads (edges : List Edge) (producer consumer : String) : Prop :=
  ∃ edge ∈ edges, edge.producer = producer ∧ edge.consumer = consumer

def Reaches (edges : List Edge) : String → String → Prop := Relation.TransGen (Leads edges)

def Acyclic (edges : List Edge) : Prop := ∀ name, ¬Reaches edges name name

inductive ChainTo (edges : List Edge) : Nat → String → Prop where
  | here {name : String} : ChainTo edges 0 name
  | along {length : Nat} {producer consumer : String} : ChainTo edges length producer → Leads edges producer consumer →
      ChainTo edges (length + 1) consumer

def LongestChain (edges : List Edge) (length : Nat) (name : String) : Prop :=
  ChainTo edges length name ∧ ∀ other, ChainTo edges other name → other ≤ length

variable {edges : List Edge} {producer consumer name : String} {length : Nat}

theorem leads_of_mem {edge : Edge} (present : edge ∈ edges) :
    Leads edges edge.producer edge.consumer := ⟨edge, present, rfl, rfl⟩

theorem reaches_leaves (path : Reaches edges producer consumer) : ∃ next, Leads edges producer next := by
  induction path with
  | single step => exact ⟨_, step⟩
  | tail _ _ ih => exact ih

theorem chain_last (chain : ChainTo edges (length + 1) name) : ∃ before, Leads edges before name := by
  cases chain with
  | along _ step => exact ⟨_, step⟩

theorem longest_increases {one other : Nat} (step : Leads edges producer consumer)
    (before : LongestChain edges one producer) (after : LongestChain edges other consumer) :
    one < other := after.2 _ (before.1.along step)

theorem longest_unique {one other : Nat} (first : LongestChain edges one name)
    (second : LongestChain edges other name) : one = other :=
  Nat.le_antisymm (second.2 one first.1) (first.2 other second.1)

theorem chain_extends (path : Reaches edges producer consumer) (chain : ChainTo edges length producer) :
    ∃ longer, length < longer ∧ ChainTo edges longer consumer := by
  induction path with
  | single step => exact ⟨length + 1, Nat.lt_succ_self _, chain.along step⟩
  | tail _ step ih =>
      obtain ⟨longer, more, reached⟩ := ih
      exact ⟨longer + 1, Nat.lt_succ_of_lt more, reached.along step⟩

theorem chain_visits (chain : ChainTo edges length name) :
    ∃ visited : List String, visited.length = length ∧
      (∀ place ∈ visited, place ∈ edges.map Edge.consumer ∧ (place = name ∨ Reaches edges place name)) ∧
      visited.Pairwise fun later earlier => Reaches edges earlier later := by
  induction chain with
  | here => exact ⟨[], rfl, by simp, .nil⟩
  | @along length producer consumer _ step ih =>
      obtain ⟨visited, count, known, ordered⟩ := ih
      have onward : ∀ place ∈ visited, Reaches edges place consumer := by
        intro place present
        rcases (known place present).2 with rfl | path
        · exact .single step
        · exact path.tail step
      refine ⟨consumer :: visited, by simp [count], ?_, List.pairwise_cons.mpr ⟨onward, ordered⟩⟩
      intro place present
      rcases List.mem_cons.mp present with rfl | old
      · obtain ⟨edge, held, _, equal⟩ := step
        exact ⟨List.mem_map.mpr ⟨edge, held, equal⟩, .inl rfl⟩
      · exact ⟨(known place old).1, .inr (onward place old)⟩

-- A walk longer than the list of edges has come to some name twice.
theorem chain_cycle (chain : ChainTo edges length name) (long : edges.length < length) :
    ∃ place, Reaches edges place place ∧ (place = name ∨ Reaches edges place name) := by
  obtain ⟨visited, count, known, ordered⟩ := chain_visits chain
  apply Classical.byContradiction
  intro none
  have apart : visited.Nodup := by
    refine ordered.imp_of_mem ?_
    intro later earlier present _ path equal
    subst earlier
    exact none ⟨later, path, (known later present).2⟩
  have within : visited.length ≤ (edges.map Edge.consumer).length :=
    (apart.subperm fun place present => (known place present).1).length_le
  simp only [List.length_map] at within
  omega

theorem chain_bounded (acyclic : Acyclic edges) (chain : ChainTo edges length name) :
    length ≤ edges.length := by
  apply Classical.byContradiction
  intro long
  obtain ⟨place, path, _⟩ := chain_cycle chain (Nat.lt_of_not_le long)
  exact acyclic place path

theorem cycle_chains (path : Reaches edges producer producer) (length : Nat) :
    ∃ longer, length ≤ longer ∧ ChainTo edges longer producer := by
  induction length with
  | zero => exact ⟨0, Nat.le_refl _, .here⟩
  | succ length ih =>
      obtain ⟨reached, enough, chain⟩ := ih
      obtain ⟨longer, more, further⟩ := chain_extends path chain
      exact ⟨longer, by omega, further⟩

theorem chain_shorter (chain : ChainTo edges (length + 1) name) : ChainTo edges length name := by
  induction length generalizing name with
  | zero => exact .here
  | succ length ih =>
      cases chain with
      | along before step => exact (ih before).along step

theorem chain_down {longer : Nat} (chain : ChainTo edges longer name) (fewer : length ≤ longer) :
    ChainTo edges length name := by
  induction fewer with
  | refl => exact chain
  | step _ ih => exact ih (chain_shorter chain)

-- A set of names that no edge enters from outside holds every walk that ends in
-- it; other edges that are the same there have the same walks there.

theorem chain_inside {others : List Edge} {inside : String → Prop}
    (kept : ∀ before after, Leads edges before after → inside after → inside before ∧ Leads others before after)
    (chain : ChainTo edges length name) (held : inside name) : ChainTo others length name := by
  induction chain with
  | here => exact .here
  | along _ step ih =>
      obtain ⟨before, again⟩ := kept _ _ step held
      exact (ih before).along again

theorem reaches_inside {others : List Edge} {inside : String → Prop}
    (kept : ∀ before after, Leads edges before after → inside after → inside before ∧ Leads others before after)
    (path : Reaches edges producer consumer) (held : inside consumer) : Reaches others producer consumer := by
  induction path with
  | single step => exact .single (kept _ _ step held).2
  | tail _ step ih =>
      obtain ⟨before, again⟩ := kept _ _ step held
      exact (ih before).tail again

theorem chain_mono {others : List Edge} (kept : ∀ one other, Leads edges one other → Leads others one other)
    (chain : ChainTo edges length name) : ChainTo others length name :=
  chain_inside (fun one other step _ => ⟨trivial, kept one other step⟩) chain trivial

theorem longest_same {others : List Edge} (same : ∀ one other, Leads edges one other ↔ Leads others one other) :
    LongestChain edges length name ↔ LongestChain others length name := by
  have chains : ∀ count, ChainTo edges count name ↔ ChainTo others count name := fun count =>
    ⟨chain_mono fun one other => (same one other).mp, chain_mono fun one other => (same one other).mpr⟩
  simp only [LongestChain, chains]

end BuildMatrix
