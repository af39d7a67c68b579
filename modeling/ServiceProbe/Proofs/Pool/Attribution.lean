import Mathlib.Data.List.Nodup
import ServiceProbe.Proofs.Pool.Behaviour

/-!
# Every invocation is reported once, as itself

A pool gives exactly one report for each index, and the report says how the invocation of that index
ended, whatever the others do. Nothing about this rests on the order in which the invocations end: the
reports that come may be taken out in any order, and the indices that are missing among them are those of
the invocations that vanished (`complete_perm`).

* `run_reports_perm` — the reports of a pool, of invocations of any kind, are those of its spells;
* `launch_reports_each_index_once` — for invocations that keep to themselves the reports are those of their
  behaviours, for any number of workers and any order in which the reports come, and the report for one
  index does not change with anything but the behaviour at that index. There are no reports where there is no
  channel for them;
* `byIndex_filter_run_reports` — listed by index, the reports of a pool of any invocations are those of its spells.
-/

namespace ServiceProbe

/-- The report that has to be made for a spell. -/
def Spell.report (spell : Spell) : Report :=
  ⟨spell.index, spell.outcome⟩

namespace Behaviour

/-- The reports that have to be made for behaviours, by index. -/
def reports (behaviours : List Behaviour) : List Report :=
  behaviours.mapIdx fun index behaviour => ⟨index, behaviour.outcome⟩

theorem index_reports (behaviours : List Behaviour) :
    (reports behaviours).map (·.index) = List.range behaviours.length := by
  refine List.ext_getElem ?_ fun index _ _ => ?_
  · rw [reports, List.length_map, List.length_mapIdx, List.length_range]
  · rw [List.getElem_map, List.getElem_range]
    simp only [reports, List.getElem_mapIdx]

theorem mem_reports_iff {behaviours : List Behaviour} {index : Nat} {outcome : Outcome} :
    ⟨index, outcome⟩ ∈ reports behaviours ↔
      behaviours[index]?.map Behaviour.outcome = some outcome := by
  rw [reports, List.mem_mapIdx, Option.map_eq_some_iff]
  constructor
  · rintro ⟨place, bound, same⟩
    obtain ⟨rfl, rfl⟩ := Report.mk.inj same
    exact ⟨behaviours[place], List.getElem?_eq_getElem bound, rfl⟩
  · rintro ⟨behaviour, here, rfl⟩
    obtain ⟨bound, rfl⟩ := List.getElem?_eq_some_iff.1 here
    exact ⟨index, bound, rfl⟩

end Behaviour

namespace Pool

/-- The report of a spell, if its invocation reports. -/
def report? (spell : Spell) : Option Report :=
  spell.reported?.map fun outcome => ⟨spell.index, outcome⟩

/-- What comes is what the spells report, in some order. -/
theorem received_perm (spells : List Spell) : (received spells).Perm (spells.filterMap report?) :=
  (List.mergeSort_perm spells _).filterMap report?

/-- Those that report and those that do not, taken together, are all. -/
theorem filterMap_append_missing_perm (spells : List Spell) :
    (spells.filterMap report? ++
        (spells.filter (·.reported?.isNone)).map fun spell => Report.mk spell.index Spell.missing).Perm
      (spells.map Spell.report) := by
  induction spells with
  | nil => exact .refl _
  | cons spell rest ih =>
    -- each spell is on one side of the append
    cases h : spell.reported? with
    | some outcome =>
      have own : spell.report = ⟨spell.index, outcome⟩ := by
        rw [Spell.report, Spell.outcome, h, Option.getD_some]
      have mine : report? spell = some ⟨spell.index, outcome⟩ := by
        rw [report?, h, Option.map_some]
      rw [List.filterMap_cons_some mine, List.filter_cons_of_neg (by rw [h]; simp), List.map_cons, own]
      exact ih.cons _
    | none =>
      have own : spell.report = ⟨spell.index, Spell.missing⟩ := by
        rw [Spell.report, Spell.outcome, h, Option.getD_none]
      have mine : report? spell = none := by
        rw [report?, h, Option.map_none]
      rw [List.filterMap_cons_none mine, List.filter_cons_of_pos (by rw [h]; rfl), List.map_cons,
        List.map_cons, own]
      exact List.perm_middle.trans (ih.cons _)

/-- An index occurs among the reports that came iff its invocation reports. -/
theorem any_index_iff {spells : List Spell} (distinct : (spells.map (·.index)).Nodup)
    {arrived : List Report} (came : arrived.Perm (spells.filterMap report?)) {spell : Spell}
    (member : spell ∈ spells) :
    arrived.any (·.index == spell.index) = spell.reported?.isSome := by
  rw [Bool.eq_iff_iff, List.any_eq_true, Option.isSome_iff_exists]
  constructor
  · rintro ⟨report, among, same⟩
    obtain ⟨other, otherMember, gives⟩ := List.mem_filterMap.1 (came.subset among)
    obtain ⟨outcome, reports, rfl⟩ := Option.map_eq_some_iff.1 gives
    -- the indices are distinct, so the report is the spell's own
    have : other = spell := List.inj_on_of_nodup_map distinct otherMember member (beq_iff_eq.1 same)
    exact ⟨outcome, this ▸ reports⟩
  · rintro ⟨outcome, reports⟩
    refine ⟨⟨spell.index, outcome⟩, came.symm.subset ?_, beq_self_eq_true _⟩
    refine List.mem_filterMap.2 ⟨spell, member, ?_⟩
    rw [report?, reports, Option.map_some]

/-- **Filling up.** In whatever order the reports come, filling up the missing indices gives one report for
each spell. -/
theorem complete_perm {spells : List Spell} {count : Nat}
    (numbered : spells.map (·.index) = List.range count) {arrived : List Report}
    (came : arrived.Perm (spells.filterMap report?)) :
    (complete count arrived).Perm (spells.map Spell.report) := by
  have distinct : (spells.map (·.index)).Nodup := numbered ▸ List.nodup_range
  have all := filterMap_append_missing_perm spells
  have unseen : (List.range count).filter (fun index => !arrived.any (·.index == index)) =
      (spells.filter (·.reported?.isNone)).map (·.index) := by
    rw [← numbered, List.filter_map]
    refine congrArg _ (List.filter_congr fun spell member => ?_)
    rw [Function.comp_apply, any_index_iff distinct came member, Option.not_isSome]
  unfold complete
  split
  · next enough =>
    -- as many came as there are invocations, so none of them is missing
    have lengths := all.length_eq
    rw [List.length_append, ← came.length_eq, enough, List.length_map, List.length_map] at lengths
    have total : spells.length = count := by
      rw [← List.length_map (·.index), numbered, List.length_range]
    have none : spells.filter (·.reported?.isNone) = [] := List.length_eq_zero_iff.1 (by omega)
    rw [none, List.map_nil, List.append_nil] at all
    exact came.trans all
  · rw [unseen]
    change (arrived ++ List.map _ (List.map _ _)).Perm _
    rw [List.map_map]
    exact (came.append_right _).trans all

variable {σ : Type}

/-- The spells of a pool bear the indices of its invocations. -/
theorem index_run_spells (requested : Nat) (begun : Nanos) (state : σ)
    (invocations : List (Invocation σ)) :
    (run requested begun state invocations).spells.map (·.index) = List.range invocations.length := by
  rw [List.range_eq_range']
  exact index_spells (workers requested) begun begun [] 0 state invocations

/-- The reports of a pool are those of its spells. -/
theorem run_reports_perm (requested : Nat) (begun : Nanos) (state : σ)
    (invocations : List (Invocation σ)) :
    (run requested begun state invocations).reports.Perm
      ((run requested begun state invocations).spells.map Spell.report) :=
  complete_perm (index_run_spells requested begun state invocations) (received_perm _)

/-- What of a spell does not depend on when the pool or the invocation began can be read off the
behaviours, index by index. -/
theorem map_run_spells {γ : Type} (requested : Nat) (begun : Nanos) (state : σ)
    (behaviours : List Behaviour) {shown : Spell → γ} {told : Nat → Behaviour → γ}
    (same : ∀ index start behaviour, shown (behaviour.spell begun index start) = told index behaviour) :
    (run requested begun state (behaviours.map Behaviour.invocation)).spells.map shown =
      behaviours.mapIdx told := by
  refine List.ext_getElem? fun index => ?_
  rw [List.getElem?_map, List.getElem?_mapIdx]
  cases here : behaviours[index]? with
  | none =>
    -- there are as many spells as behaviours
    have length : (run requested begun state (behaviours.map Behaviour.invocation)).spells.length =
        behaviours.length := by
      rw [← List.length_map Behaviour.invocation]
      exact length_spells (workers requested) begun begun [] 0 state _
    rw [List.getElem?_eq_none_iff] at here
    rw [List.getElem?_eq_none (length ▸ here)]
    rfl
  | some behaviour =>
    obtain ⟨start, spell⟩ := getElem?_spells (workers requested) begun begun [] 0 state here
    rw [Nat.zero_add] at spell
    rw [show (run requested begun state (behaviours.map Behaviour.invocation)).spells[index]? = _
      from spell, Option.map_some, Option.map_some, same]

/-- The reports of the spells are those of the behaviours, index by index. -/
theorem report_run_spells (requested : Nat) (begun : Nanos) (state : σ)
    (behaviours : List Behaviour) :
    (run requested begun state (behaviours.map Behaviour.invocation)).spells.map Spell.report =
      Behaviour.reports behaviours := by
  refine map_run_spells requested begun state behaviours fun index start behaviour => ?_
  rw [Spell.report, Behaviour.outcome_spell]
  cases behaviour <;> rfl

/-- The report for an index is the one with the outcome of the behaviour there. -/
theorem mem_run_reports_iff (requested : Nat) (begun : Nanos) (state : σ)
    (behaviours : List Behaviour) (index : Nat) (outcome : Outcome) :
    ⟨index, outcome⟩ ∈
        (run requested begun state (behaviours.map Behaviour.invocation)).reports ↔
      behaviours[index]?.map Behaviour.outcome = some outcome := by
  rw [(run_reports_perm requested begun state (behaviours.map Behaviour.invocation)).mem_iff,
    report_run_spells, Behaviour.mem_reports_iff]

/-- A report of a pool of so many behaviours has the outcome of the behaviour at its index. -/
theorem mem_reports_of_launch {requested count : Nat} {begun : Nanos} {state : σ} {behaviour : Nat → Behaviour}
    {pool : PoolRun σ}
    (returns : launch requested begun state count (fun index => (behaviour index).invocation) = .returned pool)
    {index : Nat} (within : index < count) (outcome : Outcome) :
    ⟨index, outcome⟩ ∈ pool.reports ↔ outcome = (behaviour index).outcome := by
  have channel := (launch_eq_returned_iff.1 returns).1
  rw [launch_behaviours channel] at returns
  rw [← Ending.returned.inj returns, mem_run_reports_iff, Behaviour.getElem?_list within, Option.map_some,
    Option.some_inj]
  exact eq_comm

/-- **Exactly once, and as itself.** Unless both the number of invocations and that of workers are out of all
proportion, a pool of invocations that keep to themselves ends and gives one report for each index. Its outcome is
that of the behaviour at the index, a time in it being the time since the invocation got its worker. The reports may
come in any order, and neither the number of workers or invocations nor the instant at which the pool begins nor any
other behaviour has a say in the outcome. Otherwise there is no channel for the reports, and the pool breaks off. -/
theorem launch_reports_each_index_once (requested : Nat) (begun : Nanos) (state : σ) (count : Nat)
    (behaviour : Nat → Behaviour) :
    let launched := launch requested begun state count fun index => (behaviour index).invocation
    (count < 2 ^ 61 ∨ requested < 2 ^ 60 → ∃ pool, launched = .returned pool ∧
      (pool.reports.map (·.index)).Perm (List.range count) ∧
      (∀ index < count,
        (∀ outcome, ⟨index, outcome⟩ ∈ pool.reports ↔ outcome = (behaviour index).outcome) ∧
        ∃ start, pool.spells[index]? = some ((behaviour index).spell begun index start)) ∧
      (∀ arrived : List Report, arrived.Perm (pool.spells.filterMap report?) →
        (complete count arrived).Perm pool.reports) ∧
      ∀ requested' begun' count' (behaviour' : Nat → Behaviour) pool',
        launch requested' begun' state count' (fun index => (behaviour' index).invocation) = .returned pool' →
        ∀ index < count, index < count' → behaviour' index = behaviour index → ∀ outcome,
          ⟨index, outcome⟩ ∈ pool.reports ↔ ⟨index, outcome⟩ ∈ pool'.reports) ∧
    (2 ^ 61 ≤ count → 2 ^ 60 ≤ requested → launched = .crashed (some noChannel)) := by
  intro launched
  refine ⟨fun proportionate => ?_, fun many wide => ?_⟩
  · have channel : HasChannel requested count := hasChannel_iff.2 proportionate
    have returns : launched = .returned _ := launch_behaviours channel begun state behaviour
    refine ⟨_, returns, ?_⟩
    have reports := run_reports_perm requested begun state
      ((Behaviour.list behaviour count).map Behaviour.invocation)
    have numbered := index_run_spells requested begun state
      ((Behaviour.list behaviour count).map Behaviour.invocation)
    rw [List.length_map, Behaviour.length_list] at numbered
    refine ⟨?_, fun index within => ⟨mem_reports_of_launch returns within, ?_⟩, fun arrived came => ?_, ?_⟩
    · -- the reports are those of the spells in another order, and these have the indices in turn
      have indices := reports.map (·.index)
      rwa [List.map_map, show Report.index ∘ Spell.report = Spell.index from rfl, numbered] at indices
    · obtain ⟨start, spell⟩ :=
        getElem?_spells (workers requested) begun begun [] 0 state (Behaviour.getElem?_list within)
      rw [Nat.zero_add] at spell
      exact ⟨start, spell⟩
    · exact (complete_perm numbered came).trans reports.symm
    · -- what is reported for an index is said by what is invoked there, so other pools agree
      intro requested' begun' count' behaviour' pool' returns' index within within' same outcome
      rw [mem_reports_of_launch returns within, mem_reports_of_launch returns' within', same]
  · exact launch_of_excessive many wide

/-- Invocations of all kinds of endings. The first breaks off while it is built. -/
def mixed : Nat → Behaviour
  | 0 => .unbuilt (some "no payload")
  | 1 => .lasting 6 (.returned (.error (.internal "lost")))
  | 2 => .lasting 2 (.crashed none)
  | 3 => .lasting 3 .vanished
  | 4 => .lasting 4 (.crashed (some "boom"))
  | _ => .lasting 1 .vanished

/-- The third of them breaks off after two units of time, and that is what is reported. -/
theorem launch_reports_each_index_once_of_mixed :
    (6 < 2 ^ 61 ∨ 2 < 2 ^ 60) ∧
      ∃ pool, launch 2 0 () 6 (fun index => (mixed index).invocation) = .returned pool ∧
        (pool.reports.map (·.index)).Perm [0, 1, 2, 3, 4, 5] ∧
        ⟨2, .transportError "invocation panicked: unknown panic payload" 2⟩ ∈ pool.reports := by
  have proportionate : 6 < 2 ^ 61 ∨ 2 < 2 ^ 60 := by decide
  obtain ⟨pool, returns, indices, each, -⟩ := (launch_reports_each_index_once 2 0 () 6 mixed).1 proportionate
  exact ⟨proportionate, pool, returns, indices, ((each 2 (by decide)).1 _).2 rfl⟩

/-- With as many invocations and workers as this the pool ends without a single report, although the number of
workers is one that a pool can have. -/
theorem launch_reports_nothing :
    2 ^ 60 ≤ maxWorkers ∧
      ∀ pool : PoolRun Unit,
        launch (2 ^ 60) 0 () (2 ^ 61) (fun _ => (Behaviour.unbuilt none).invocation) ≠ .returned pool := by
  refine ⟨by decide, fun pool returns => ?_⟩
  have channel := hasChannel_iff.1 (launch_eq_returned_iff.1 returns).1
  exact absurd channel (by decide)

end Pool

/-! ### In order -/

section sooner

variable {α : Type} (instant : α → Nanos)

/-- What happens side by side is sorted by its instants, and what is numbered by its numbers. -/
theorem sooner_trans (a b c : α) (first : decide (instant a ≤ instant b)) (second : decide (instant b ≤ instant c)) :
    decide (instant a ≤ instant c) :=
  decide_eq_true (Nat.le_trans (of_decide_eq_true first) (of_decide_eq_true second))

theorem sooner_total (a b : α) : decide (instant a ≤ instant b) || decide (instant b ≤ instant a) := by
  simpa using Nat.le_total (instant a) (instant b)

end sooner

/-- Reports listed by index, if their indices are distinct. -/
theorem Report.byIndex_eq_of_perm {reports ascending : List Report} (perm : reports.Perm ascending)
    (increasing : (ascending.map (·.index)).Pairwise (· < ·)) : byIndex reports = ascending := by
  have same : (byIndex reports).Perm ascending := (List.mergeSort_perm reports _).trans perm
  have sorted := List.pairwise_mergeSort (sooner_trans Report.index) (sooner_total Report.index) reports
  have strictly : ascending.Pairwise fun a b => a.index < b.index := List.pairwise_map.1 increasing
  have weakly : ascending.Pairwise fun a b => decide (a.index ≤ b.index) :=
    strictly.imp fun before => decide_eq_true (Nat.le_of_lt before)
  refine List.Perm.eq_of_pairwise ?_ sorted weakly same
  intro a b among member first second
  -- of two reports with one index among distinct ones there is only one
  have index : a.index = b.index := Nat.le_antisymm (of_decide_eq_true first) (of_decide_eq_true second)
  have distinct : (ascending.map (·.index)).Nodup := increasing.imp Nat.ne_of_lt
  exact List.inj_on_of_nodup_map distinct (same.subset among) member index

namespace Pool

variable {σ : Type} (requested : Nat) (begun : Nanos) (state : σ) (invocations : List (Invocation σ))

/-- The reports of the spells bear the indices in order. -/
theorem increasing_report_run_spells :
    (((run requested begun state invocations).spells.map Spell.report).map (·.index)).Pairwise (· < ·) := by
  have numbered := index_run_spells requested begun state invocations
  rw [List.map_map, show Report.index ∘ Spell.report = Spell.index from rfl, numbered]
  exact List.pairwise_lt_range

/-- **Reports in turn.** Some of the reports of a pool, listed by index, are those of the spells in their order. -/
theorem byIndex_filter_run_reports (chosen : Report → Bool) :
    Report.byIndex ((run requested begun state invocations).reports.filter chosen) =
      ((run requested begun state invocations).spells.map Spell.report).filter chosen := by
  refine Report.byIndex_eq_of_perm ((run_reports_perm requested begun state invocations).filter chosen) ?_
  have increasing := increasing_report_run_spells requested begun state invocations
  rw [List.pairwise_map] at increasing ⊢
  exact increasing.filter chosen

end Pool

end ServiceProbe
