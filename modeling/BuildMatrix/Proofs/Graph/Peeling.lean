import BuildMatrix.Pipeline.Levels
import BuildMatrix.Proofs.Graph.Chains

namespace BuildMatrix

variable {edges : List Edge} {names : List String} {producer consumer name : String}

-- The edges come from within the names. Where they lead to is left open.
def ComeFrom (edges : List Edge) (names : List String) : Prop := ∀ edge ∈ edges, edge.producer ∈ names

def remaining (edges : List Edge) (names : List String) : List Edge :=
  edges.filter fun edge => (blocked edges names).contains edge.producer

theorem waits_iff : waits edges name = true ↔ ∃ producer, Leads edges producer name := by
  simp [waits, Leads]

theorem mem_ready : name ∈ ready edges names ↔ name ∈ names ∧ ¬waits edges name = true := by
  simp [ready]

theorem mem_blocked : name ∈ blocked edges names ↔ name ∈ names ∧ waits edges name = true := by
  simp [blocked]

theorem leads_remaining : Leads (remaining edges names) producer consumer ↔
    producer ∈ blocked edges names ∧ Leads edges producer consumer := by
  constructor
  · rintro ⟨edge, present, rfl, rfl⟩
    obtain ⟨held, kept⟩ := List.mem_filter.mp present
    exact ⟨List.contains_iff_mem.mp kept, leads_of_mem held⟩
  · rintro ⟨kept, edge, held, rfl, rfl⟩
    exact ⟨edge, List.mem_filter.mpr ⟨held, List.contains_iff_mem.mpr kept⟩, rfl, rfl⟩

theorem remaining_comeFrom : ComeFrom (remaining edges names) (blocked edges names) := by
  intro edge present
  exact List.contains_iff_mem.mp (List.mem_filter.mp present).2

-- A name that waits loses the first edge of each walk to it, and no other.
theorem chain_remaining (closed : ComeFrom edges names) (length : Nat) (waiting : waits edges name = true) :
    ChainTo (remaining edges names) length name ↔ ChainTo edges (length + 1) name := by
  constructor
  · intro chain
    induction chain with
    | here =>
        obtain ⟨before, step⟩ := waits_iff.mp waiting
        exact ChainTo.here.along step
    | along _ step ih =>
        obtain ⟨kept, held⟩ := leads_remaining.mp step
        exact (ih (mem_blocked.mp kept).2).along held
  · intro chain
    induction length generalizing name with
    | zero => exact .here
    | succ length ih =>
        cases chain with
        | @along _ before _ earlier step =>
            have waited : waits edges before = true := waits_iff.mpr (chain_last earlier)
            obtain ⟨edge, held, rfl, rfl⟩ := step
            have kept := mem_blocked.mpr ⟨closed edge held, waited⟩
            exact (ih waited earlier).along (leads_remaining.mpr ⟨kept, leads_of_mem held⟩)

theorem longest_remaining (closed : ComeFrom edges names) (length : Nat) (waiting : waits edges name = true) :
    LongestChain (remaining edges names) length name ↔ LongestChain edges (length + 1) name := by
  constructor
  · rintro ⟨chain, bound⟩
    refine ⟨(chain_remaining closed length waiting).mp chain, ?_⟩
    intro other longer
    cases other with
    | zero => exact Nat.zero_le _
    | succ other => exact Nat.succ_le_succ (bound other ((chain_remaining closed other waiting).mpr longer))
  · rintro ⟨chain, bound⟩
    refine ⟨(chain_remaining closed length waiting).mpr chain, ?_⟩
    intro other longer
    exact Nat.le_of_succ_le_succ (bound _ ((chain_remaining closed other waiting).mp longer))

theorem longest_zero : LongestChain edges 0 name ↔ ¬waits edges name = true := by
  constructor
  · rintro ⟨_, bound⟩ waiting
    obtain ⟨before, step⟩ := waits_iff.mp waiting
    exact Nat.not_succ_le_zero 0 (bound 1 (ChainTo.here.along step))
  · intro free
    refine ⟨.here, ?_⟩
    intro other chain
    cases chain with
    | here => exact Nat.le_refl 0
    | along _ step => exact False.elim (free (waits_iff.mpr ⟨_, step⟩))

theorem chain_endless (closed : ComeFrom edges names) (none : ∀ name ∈ names, waits edges name = true)
    (length : Nat) : ∀ name ∈ names, ChainTo edges length name := by
  induction length with
  | zero => exact fun _ _ => .here
  | succ length ih =>
      intro name present
      obtain ⟨_, edge, held, rfl, rfl⟩ := waits_iff.mp (none name present)
      exact (ih edge.producer (closed edge held)).along (leads_of_mem held)

theorem blocked_all (whole : ¬(blocked edges names).length < names.length) :
    ∀ name ∈ names, waits edges name = true := by
  have size : (names.filter (waits edges)).length = names.length :=
    Nat.le_antisymm (List.length_filter_le _ _) (Nat.le_of_not_lt whole)
  exact List.length_filter_eq_length_iff.mp size

theorem peel_fewer (fewer : (blocked edges names).length < names.length) :
    peel edges names = ⟨ready edges names :: (peel (remaining edges names) (blocked edges names)).levels,
      (peel (remaining edges names) (blocked edges names)).stuck⟩ := by
  rw [peel, dif_pos fewer]
  rfl

theorem peel_whole (whole : ¬(blocked edges names).length < names.length) : peel edges names = ⟨[], names⟩ := by
  rw [peel, dif_neg whole]

-- Peeling by rounds: a statement holds of every peeling if it holds where nothing
-- comes off and one more round keeps it.
theorem peel_rounds {motive : List Edge → List String → Prop}
    (whole : ∀ edges names, ¬(blocked edges names).length < names.length → motive edges names)
    (round : ∀ edges names, (blocked edges names).length < names.length →
      motive (remaining edges names) (blocked edges names) → motive edges names)
    (edges : List Edge) (names : List String) : motive edges names := by
  by_cases fewer : (blocked edges names).length < names.length
  · exact round edges names fewer (peel_rounds whole round _ _)
  · exact whole edges names fewer
termination_by names.length

theorem peel_perm (edges : List Edge) (names : List String) :
    ((peel edges names).levels.flatten ++ (peel edges names).stuck).Perm names := by
  induction edges, names using peel_rounds with
  | whole edges names whole => simp [peel_whole whole]
  | round edges names fewer ih =>
      rw [peel_fewer fewer]
      simp only [List.flatten_cons, List.append_assoc]
      exact (ih.append_left _).trans (List.perm_append_comm.trans (List.filter_append_perm _ names))

theorem peel_nonempty (edges : List Edge) (names : List String) :
    ∀ level ∈ (peel edges names).levels, level ≠ [] := by
  induction edges, names using peel_rounds with
  | whole edges names whole => simp [peel_whole whole]
  | round edges names fewer ih =>
      rw [peel_fewer fewer]
      intro level present
      rcases List.mem_cons.mp present with rfl | later
      · have split := (List.filter_append_perm (waits edges) names).length_eq
        simp only [List.length_append] at split
        intro empty
        have off : (names.filter fun name => !waits edges name).length = 0 := by
          simpa [ready] using congrArg List.length empty
        have on : (names.filter (waits edges)).length < names.length := fewer
        omega
      · exact ih level later

theorem peel_sublist (edges : List Edge) (names : List String) :
    ∀ level ∈ (peel edges names).levels, level.Sublist names := by
  induction edges, names using peel_rounds with
  | whole edges names whole => simp [peel_whole whole]
  | round edges names fewer ih =>
      rw [peel_fewer fewer]
      intro level present
      rcases List.mem_cons.mp present with rfl | later
      · exact List.filter_sublist
      · exact (ih level later).trans List.filter_sublist

theorem peel_round_sublist (edges : List Edge) (names : List String) (round : Nat) :
    ((peel edges names).levels.getD round []).Sublist names := by
  rw [List.getD_eq_getElem?_getD]
  cases found : (peel edges names).levels[round]? with
  | none => exact List.nil_sublist names
  | some level => exact peel_sublist edges names level (List.mem_of_getElem? found)

theorem peel_level (closed : ComeFrom edges names) (round : Nat) (name : String) :
    name ∈ (peel edges names).levels.getD round [] ↔ name ∈ names ∧ LongestChain edges round name := by
  induction edges, names using peel_rounds generalizing round with
  | whole edges names whole =>
      have endless := chain_endless closed (blocked_all whole)
      rw [peel_whole whole]
      simp only [List.getD_nil, List.not_mem_nil, false_iff, not_and]
      intro present longest
      exact Nat.not_succ_le_self round (longest.2 _ (endless (round + 1) name present))
  | round edges names fewer ih =>
      rw [peel_fewer fewer]
      cases round with
      | zero => rw [List.getD_cons_zero, mem_ready, longest_zero]
      | succ round =>
          rw [List.getD_cons_succ, ih remaining_comeFrom, mem_blocked, and_assoc]
          refine and_congr_right fun _ => ?_
          constructor
          · rintro ⟨waiting, longest⟩
            exact (longest_remaining closed round waiting).mp longest
          · intro longest
            have waiting := waits_iff.mpr (chain_last longest.1)
            exact ⟨waiting, (longest_remaining closed round waiting).mpr longest⟩

theorem peel_stuck (closed : ComeFrom edges names) (name : String) :
    name ∈ (peel edges names).stuck ↔ name ∈ names ∧ ∀ length, ChainTo edges length name := by
  induction edges, names using peel_rounds with
  | whole edges names whole =>
      have endless := chain_endless closed (blocked_all whole)
      rw [peel_whole whole]
      exact ⟨fun present => ⟨present, fun length => endless length name present⟩, And.left⟩
  | round edges names fewer ih =>
      rw [peel_fewer fewer, ih remaining_comeFrom, mem_blocked, and_assoc]
      refine and_congr_right fun _ => ?_
      constructor
      · rintro ⟨waiting, endless⟩ length
        cases length with
        | zero => exact .here
        | succ length => exact (chain_remaining closed length waiting).mp (endless length)
      · intro endless
        have waiting := waits_iff.mpr (chain_last (endless 1))
        exact ⟨waiting, fun length => (chain_remaining closed length waiting).mpr (endless _)⟩

theorem peel_complete (closed : ComeFrom edges names) : (peel edges names).stuck = [] ↔ Acyclic edges := by
  constructor
  · intro none name path
    obtain ⟨_, edge, held, rfl, _⟩ := reaches_leaves path
    have endless : ∀ length, ChainTo edges length edge.producer := by
      intro length
      obtain ⟨longer, enough, chain⟩ := cycle_chains path length
      exact chain_down chain enough
    have stuck := (peel_stuck closed edge.producer).mpr ⟨closed edge held, endless⟩
    rw [none] at stuck
    cases stuck
  · intro acyclic
    apply List.eq_nil_iff_forall_not_mem.mpr
    intro name stuck
    have bound := chain_bounded acyclic (((peel_stuck closed name).mp stuck).2 (edges.length + 1))
    omega

end BuildMatrix
