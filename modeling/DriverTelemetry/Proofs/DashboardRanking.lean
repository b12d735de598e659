import DriverTelemetry.Core.Dashboard
import DriverTelemetry.Proofs.ReportLayout

/-!
# The ranking of a dashboard

A dashboard lists the largest of the enabled metrics that have a total or a level. What it should
list is said without sorting: `Dashboard.Ranks` describes the one list that has an entry for each of
these metrics and in which every entry outranks those after it. The metrics of a core have different
numbers, and so no two entries are level with each other: what the list shows, and where it is cut,
does not depend on how it was sorted.
-/

namespace DriverTelemetry

/-- The kinds of which the values have a size. -/
def MetricKind.sized : List MetricKind := [counter, rate, gauge, memory, bandwidth]

/-- The size of a value: its total, or how far its level is from zero. What takes samples has
none. -/
def MetricValue.size? (v : MetricValue) : Option Nat := v.total?.or (v.level?.map Int.natAbs)

/-- A metric that takes part in the ranking. -/
structure Metric.Eligible (m : Metric) : Prop where
  enabled : m.enabled = true
  kind_mem : m.kind ∈ MetricKind.sized

instance (m : Metric) : Decidable m.Eligible :=
  decidable_of_iff (m.enabled = true ∧ m.kind ∈ MetricKind.sized)
    ⟨fun ⟨henabled, hkind⟩ => ⟨henabled, hkind⟩, fun h => ⟨h.enabled, h.kind_mem⟩⟩

theorem Metric.Eligible.kind_ne {m : Metric} (h : m.Eligible) :
    m.kind ≠ .timer ∧ m.kind ≠ .histogram := by
  have hkind := h.kind_mem
  refine ⟨fun htimer => ?_, fun hhistogram => ?_⟩
  · rw [htimer] at hkind
    exact absurd hkind (by decide)
  · rw [hhistogram] at hkind
    exact absurd hkind (by decide)

theorem MetricKind.isCounterLike_or_isGaugeLike {k : MetricKind} :
    (k.isCounterLike || k.isGaugeLike) = true ↔ k ∈ sized := by
  cases k <;> decide

/-- The magnitude of a level is its distance from zero, also where the negated level is too large
for a signed word. -/
theorem MetricValue.size?_eq {v : MetricValue} (h : v.kind ∈ MetricKind.sized) :
    v.size? = some v.magnitude := by
  cases v with
  | timer | histogram => simp [kind, MetricKind.sized] at h
  | _ => rfl

example : (MetricValue.gauge SignedWord.least).size? = some 9223372036854775808 := by decide

namespace TopMetric

/-- An entry stands before another one: it is larger, or as large and of a smaller number. -/
def Outranks (a b : TopMetric) : Prop :=
  b.magnitude < a.magnitude ∨ b.magnitude = a.magnitude ∧ a.id.number < b.id.number

instance (a b : TopMetric) : Decidable (a.Outranks b) :=
  inferInstanceAs (Decidable (b.magnitude < a.magnitude ∨ _))

theorem Outranks.asymm {a b : TopMetric} (h : a.Outranks b) : ¬b.Outranks a := by
  unfold Outranks at *
  omega

instance : Std.Irrefl Outranks := ⟨fun _ h => h.asymm h⟩

instance : Std.Antisymm Outranks := ⟨fun _ _ h h' => absurd h' h.asymm⟩

/-- What an entry says about a metric. -/
structure Shows (t : TopMetric) (m : Metric) : Prop where
  id_eq : t.id = m.id
  name_eq : t.name = m.name
  kind_eq : t.kind = m.kind
  size?_eq : m.value.size? = some t.magnitude

theorem Shows.eq {t u : TopMetric} {m : Metric} (ht : t.Shows m) (hu : u.Shows m) : t = u := by
  have hmagnitude : t.magnitude = u.magnitude :=
    Option.some.inj (ht.size?_eq.symm.trans hu.size?_eq)
  obtain ⟨hid, hname, hkind, -⟩ := hu
  cases t
  cases u
  rw [mk.injEq]
  exact ⟨ht.id_eq.trans hid.symm, ht.name_eq.trans hname.symm, ht.kind_eq.trans hkind.symm,
    hmagnitude⟩

end TopMetric

namespace Dashboard

open TopMetric

theorem isRanked_iff {m : Metric} : isRanked m = true ↔ m.Eligible := by
  rw [isRanked, Bool.and_eq_true, MetricKind.isCounterLike_or_isGaugeLike]
  exact ⟨fun ⟨henabled, hkind⟩ => ⟨henabled, hkind⟩, fun h => ⟨h.enabled, h.kind_mem⟩⟩

theorem entry_shows {m : Metric} (h : m.Eligible) : (entry m).Shows m :=
  ⟨rfl, rfl, rfl, MetricValue.size?_eq h.kind_mem⟩

section Order

theorem precedes_trans (a b c : TopMetric) (hab : precedes a b = true) (hbc : precedes b c = true) :
    precedes a c = true := by
  simp only [precedes, decide_eq_true_eq] at *
  omega

theorem precedes_total (a b : TopMetric) : (precedes a b || precedes b a) = true := by
  simp only [precedes, Bool.or_eq_true, decide_eq_true_eq]
  omega

/-- What precedes another metric outranks it. -/
theorem outranks_of_precedes {a b : TopMetric} (h : precedes a b = true) (hne : a.id ≠ b.id) :
    a.Outranks b := by
  have hnumber : a.id.number ≠ b.id.number := fun heq => hne (congrArg MetricId.mk heq)
  rw [precedes, decide_eq_true_eq] at h
  unfold Outranks
  omega

end Order

/-- A list that has one entry for each eligible metric of a registry, ordered by rank. -/
structure Ranks (ts : List TopMetric) (r : Registry) : Prop where
  pairwise : ts.Pairwise Outranks
  mem_iff : ∀ t, t ∈ ts ↔ ∃ m, r.get m.id = .ok m ∧ m.Eligible ∧ t.Shows m
  length_eq : ts.length = r.metrics.countP fun m => decide m.Eligible

variable {r : Registry} {ts us : List TopMetric}

/-- There is only one such list. -/
theorem Ranks.eq (hts : Ranks ts r) (hus : Ranks us r) : ts = us :=
  hts.pairwise.eq_of_mem_iff hus.pairwise fun t => (hts.mem_iff t).trans (hus.mem_iff t).symm

/-- Whatever a cut leaves out is outranked by all that stands before the cut. -/
theorem Ranks.outranks_of_cut (h : Ranks ts r) {limit : Nat} {t u : TopMetric}
    (ht : t ∈ ts.take limit) (hu : u ∈ ts) (hcut : u ∉ ts.take limit) : t.Outranks u := by
  rw [← List.take_append_drop limit ts, List.mem_append] at hu
  have hdrop : u ∈ ts.drop limit := hu.resolve_left hcut
  have hpairwise := h.pairwise
  rw [← List.take_append_drop limit ts, List.pairwise_append] at hpairwise
  exact hpairwise.2.2 t ht u hdrop

theorem filter_isRanked (r : Registry) : r.metrics.filter isRanked =
    r.enabledMetrics.filter fun m => m.kind.isCounterLike || m.kind.isGaugeLike := by
  rw [Registry.enabledMetrics, List.filter_filter]
  exact List.filter_congr fun m _ => Bool.and_comm _ _

theorem mem_filter_isRanked (h : r.Identified) {m : Metric} :
    m ∈ r.metrics.filter isRanked ↔ r.get m.id = .ok m ∧ m.Eligible := by
  rw [filter_isRanked, List.mem_filter, h.mem_enabledMetrics_iff, and_assoc, ← isRanked_iff,
    isRanked, Bool.and_eq_true]

/-- The metrics of a registry have different numbers, which the sorting keeps apart. -/
theorem pairwise_id_ranking (h : r.Identified) :
    (ranking r).Pairwise fun a b => a.id ≠ b.id := by
  refine ((List.mergeSort_perm _ precedes).pairwise_iff fun hne => hne.symm).2 ?_
  rw [filter_isRanked, List.pairwise_map]
  refine (h.pairwise_enabledMetrics.filter _).imp fun hlt heq => ?_
  exact hlt.ne (congrArg MetricId.number heq)

/-- The entries of the ranked metrics, put in order, are ranked. -/
theorem ranks_of_perm (h : r.Identified)
    (hperm : ts.Perm ((r.metrics.filter isRanked).map entry)) (hts : ts.Pairwise Outranks) :
    Ranks ts r where
  pairwise := hts
  mem_iff t := by
    rw [hperm.mem_iff, List.mem_map]
    refine ⟨?_, ?_⟩
    · rintro ⟨m, hm, rfl⟩
      obtain ⟨hget, heligible⟩ := (mem_filter_isRanked h).1 hm
      exact ⟨m, hget, heligible, entry_shows heligible⟩
    · rintro ⟨m, hget, heligible, hshows⟩
      exact ⟨m, (mem_filter_isRanked h).2 ⟨hget, heligible⟩, (entry_shows heligible).eq hshows⟩
  length_eq := by
    rw [hperm.length_eq, List.length_map, ← List.countP_eq_length_filter]
    refine List.countP_congr fun m _ => ?_
    rw [isRanked_iff, decide_eq_true_eq]

theorem ranking_ranks (h : r.Identified) : Ranks (ranking r) r := by
  have hsorted := List.pairwise_mergeSort precedes_trans precedes_total
    ((r.metrics.filter isRanked).map entry)
  exact ranks_of_perm h (List.mergeSort_perm _ _)
    (hsorted.imp₂ (fun _ _ => outranks_of_precedes) (pairwise_id_ranking h))

end Dashboard

namespace Core

open Dashboard

/-- **A dashboard lists the largest metrics.** The list of a dashboard is what the first ten places
of the ranking hold, or all of it if there are no ten. It lists no metric twice, is strictly ordered
by rank, shows only metrics that are enabled and take no samples, and every eligible metric that it
leaves out ranks after every one that it lists. -/
theorem dashboard_lists_largest {s : System} (h : s.Reachable)
    (hready : s.core.initialized = true) :
    ∃ dash ranked, s.call dashboard = (.ok dash, s) ∧
      Ranks ranked s.core.registry ∧
      (∀ other, Ranks other s.core.registry → other = ranked) ∧
      dash.top = ranked.take 10 ∧
      dash.top.length = min 10 (s.core.registry.metrics.countP fun m => decide m.Eligible) ∧
      dash.top.Nodup ∧ dash.top.Pairwise TopMetric.Outranks ∧
      (∀ t ∈ dash.top, ∃ m, s.core.registry.get m.id = .ok m ∧ t.Shows m ∧ m.enabled = true ∧
        m.kind ≠ .timer ∧ m.kind ≠ .histogram) ∧
      ∀ m, s.core.registry.get m.id = .ok m → m.Eligible → (∀ t ∈ dash.top, t.id ≠ m.id) →
        ∃ u ∈ ranked, u.Shows m ∧ ∀ t ∈ dash.top, t.Outranks u := by
  have hranks := ranking_ranks h.identified
  have hpairwise : ((ranking s.core.registry).take 10).Pairwise TopMetric.Outranks :=
    hranks.pairwise.sublist (List.take_sublist _ _)
  refine ⟨ofCore s.core, ranking s.core.registry, System.call_ready hready _, hranks,
    fun other hother => hother.eq hranks, rfl, ?_, hpairwise.nodup, hpairwise, ?_, ?_⟩
  · rw [← hranks.length_eq]
    exact List.length_take
  · intro t ht
    obtain ⟨m, hget, heligible, hshows⟩ := (hranks.mem_iff t).1 (List.mem_of_mem_take ht)
    exact ⟨m, hget, hshows, heligible.enabled, heligible.kind_ne⟩
  · intro m hget heligible hout
    have hmem := (hranks.mem_iff (entry m)).2 ⟨m, hget, heligible, entry_shows heligible⟩
    exact ⟨entry m, hmem, entry_shows heligible, fun t ht =>
      hranks.outranks_of_cut ht hmem fun hlisted => hout _ hlisted rfl⟩

/-- The most negative gauge comes first. All other metrics are at zero, and so the cut is between
metrics that differ in their numbers alone: the one registered last is left out. -/
theorem dashboard_lists_largest_of_ties :
    ∃ s : System, s.Reachable ∧
      (∃ m ∈ s.core.registry.metrics, m.id = ⟨13⟩ ∧ m.Eligible ∧ m.value.size? = some 0) ∧
      ∃ dash, s.call dashboard = (.ok dash, s) ∧
        dash.top.map (fun t => (t.id.number, t.magnitude)) =
          [(7, 9223372036854775808), (3, 0), (4, 0), (5, 0), (6, 0), (8, 0), (9, 0), (10, 0),
            (11, 0), (12, 0)] := by
  let registered (name : String) : Happening := .registerMetric name "" .counter .nvme
  let xs : List Happening :=
    .updateGauge ⟨7⟩ SignedWord.least ::
      ["reads", "writes", "flushes", "trims", "resets"].map registered
  let entries (s : System) : List TopMetric := (s.core.registry.metrics.filter isRanked).map entry
  let expected (s : System) : List TopMetric :=
    (entries s).filter (·.id = ⟨7⟩) ++ (entries s).filter (·.id ≠ ⟨7⟩)
  obtain ⟨s, hreachable, hstate⟩ := System.Reachable.exists_of_start 0 .manual {}
    (fun s =>
      let t := s.after xs
      decide (t.core.initialized = true ∧ (expected t).Perm (entries t) ∧
        (expected t).Pairwise TopMetric.Outranks ∧
        (∃ m ∈ t.core.registry.metrics, m.id = ⟨13⟩ ∧ m.Eligible ∧ m.value.size? = some 0) ∧
        ((expected t).take 10).map (fun t => (t.id.number, t.magnitude)) =
          [(7, 9223372036854775808), (3, 0), (4, 0), (5, 0), (6, 0), (8, 0), (9, 0), (10, 0),
            (11, 0), (12, 0)]))
    (by decide +kernel)
  obtain ⟨hready, hperm, hordered, hleft, htop⟩ := of_decide_eq_true hstate
  have hafter := hreachable.after xs
  obtain ⟨dash, ranked, hdash, -, hunique, hlisted, -⟩ := dashboard_lists_largest hafter hready
  obtain rfl := hunique _ (ranks_of_perm hafter.identified hperm hordered)
  refine ⟨_, hafter, hleft, dash, hdash, ?_⟩
  rw [hlisted]
  exact htop

end Core

end DriverTelemetry
