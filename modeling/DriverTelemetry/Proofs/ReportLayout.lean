import DriverTelemetry.Proofs.AnomalyLaw
import DriverTelemetry.Proofs.ConfigurationText
import DriverTelemetry.Proofs.LifetimeAccounts
import DriverTelemetry.Proofs.MetricIdentity
import DriverTelemetry.Proofs.ReportLines

/-!
# The layout of a report

Whoever reads a report sees physical lines, each of which ends at a line feed. The lines that the
report is made of are these, as long as none of them holds a line feed itself; in general a line
falls apart at its line feeds (`Report.physicalLines_joined`). Only the line of a metric can, since
the name is copied into it as it is: everything else in a report is made of numerals and fixed
words, which hold no line feed and end in no blank.
-/

namespace DriverTelemetry

namespace Registry

variable {r : Registry}

theorem identified_of_metrics_eq_nil (h : r.metrics = []) : r.Identified := by
  intro id m hm
  simp [find?, h] at hm

theorem Identified.id_getElem (h : r.Identified) {i : Nat} (hi : i < r.metrics.length) :
    r.metrics[i].id = ⟨i + 1⟩ :=
  h _ _ ((r.find?_place i).trans (List.getElem?_eq_getElem hi))

/-- The enabled metrics stand in the order of their numbers. -/
theorem Identified.pairwise_enabledMetrics (h : r.Identified) :
    r.enabledMetrics.Pairwise fun a b => a.id.number < b.id.number := by
  refine List.Pairwise.filter _ (List.pairwise_iff_getElem.2 fun i j hi hj hlt => ?_)
  rw [h.id_getElem hi, h.id_getElem hj]
  show i + 1 < j + 1
  omega

theorem Identified.mem_enabledMetrics_iff (h : r.Identified) {m : Metric} :
    m ∈ r.enabledMetrics ↔ r.get m.id = .ok m ∧ m.enabled = true := by
  have hget : r.get m.id = .ok m ↔ r.find? m.id = some m := by
    rw [get_eq]
    cases r.find? m.id <;> simp
  rw [enabledMetrics, List.mem_filter, hget]
  refine and_congr_left fun _ => ⟨fun hm => ?_, fun hm => ?_⟩
  · obtain ⟨i, hi, rfl⟩ := List.getElem_of_mem hm
    rw [h.id_getElem hi, find?_place, List.getElem?_eq_getElem hi]
  · rw [find?, if_neg (number_ne_zero_of_find? hm)] at hm
    exact List.mem_of_getElem? hm

end Registry

namespace System

theorem Step.identified {s t : System} (hstep : s.Step t) (h : s.core.registry.Identified) :
    t.core.registry.Identified := by
  cases hstep with
  | @metricRegistered name description kind subsystem nowNs id r hregister =>
    have hextends := s.core.registry.extends_perform
      (.register name description kind subsystem nowNs)
    simp only [Registry.perform, hregister] at hextends
    exact h.of_extends hextends
  | @metricUpdated id nowNs f before r hupdate _ verdict overheadNs =>
    obtain ⟨-, -, value, -, rfl⟩ := Registry.update_ok hupdate
    have hupdated := h.of_extends (.modify _ id (fun m => m.updated value nowNs) fun _ => rfl)
    have hqueued := hupdated.of_extends (.of_metrics_eq (Registry.metrics_enqueue? _ verdict))
    exact hqueued.of_extends (.modify _ id (fun m => { m with overheadNs }) fun _ => rfl)
  | @metricEnabled id enabled r hset =>
    have hextends := s.core.registry.extends_perform (.setEnabled id enabled)
    simp only [Registry.perform, hset] at hextends
    exact h.of_extends hextends
  | ratesRolled nowNs => exact h.of_extends (s.core.registry.extends_perform (.rollRates nowNs))
  | verdictsTaken => exact h.of_extends (s.core.registry.extends_perform .takePending)
  | configured => exact h.of_extends (.of_metrics_eq rfl)
  | retired =>
    unfold retire
    split
    · exact Registry.identified_of_metrics_eq_nil rfl
    · exact h
  | _ => exact h

theorem stable_identified : Stable (·.core.registry.Identified) where
  move hmove h := by
    cases hmove with
    | step hstep => exact hstep.identified h
    | emitted | health | attempted => exact h
  outside _ h := h

/-- The metrics of a core have the numbers under which they are found. -/
theorem Reachable.identified {s : System} (h : s.Reachable) : s.core.registry.Identified := by
  induction h with
  | @started number config env env' core hstart =>
    obtain ⟨s, hprepared, hcompleted⟩ := Core.start_ok hstart
    obtain ⟨-, tables, r, hacquired, rfl⟩ := Core.prepare_ok hprepared
    have hnew : tables.IsNew := Core.answers_isNew config _ tables (congrArg Prod.fst hacquired)
    exact stable_identified.steps (Core.complete_quiet hcompleted).steps
      (Registry.identified_of_metrics_eq_nil hnew.registry_eq)
  | next _ x ih => exact stable_identified.perform ih x

end System

section Characters

namespace Text

/-- Text that holds no line feed and does not end in a blank. -/
structure Closing (text : String) : Prop where
  newline_not_mem : '\n' ∉ text.toList
  getLast?_eq : ∃ c, text.toList.getLast? = some c ∧ isBlank c = false

theorem Closing.append {front text : String} (h : Closing text) (hfront : '\n' ∉ front.toList) :
    Closing (front ++ text) where
  newline_not_mem := by
    rw [String.toList_append, List.mem_append]
    exact not_or_intro hfront h.newline_not_mem
  getLast?_eq := by
    obtain ⟨c, hc, hblank⟩ := h.getLast?_eq
    refine ⟨c, ?_, hblank⟩
    rw [String.toList_append, List.getLast?_append, hc, Option.some_or]

@[simp] theorem toString_string (text : String) : toString text = text := rfl

@[simp] theorem newline_not_mem_toDigits (n : Nat) : '\n' ∉ Nat.toDigits 10 n :=
  (Numeral.decimal_toDigits n).token.newline_not_mem

theorem closing_numeral (n : Nat) : Closing (toString n) := by
  have hdigits : (toString n).toList = Nat.toDigits 10 n := by
    show (String.ofList (Nat.toDigits 10 n)).toList = Nat.toDigits 10 n
    rw [String.toList_ofList]
  refine ⟨?_, (Nat.toDigits 10 n).getLast Nat.toDigits_ne_nil, ?_, ?_⟩
  · rw [hdigits]
    exact newline_not_mem_toDigits n
  · rw [hdigits, List.getLast?_eq_some_getLast]
  · exact ((Numeral.decimal_toDigits n).token _ (List.getLast_mem _)).1

theorem closing_signed (v : Int) : Closing (toString v) := by
  cases v with
  | ofNat n => exact closing_numeral n
  | negSucc n =>
    show Closing ("-" ++ toString (n + 1))
    exact (closing_numeral (n + 1)).append (by decide)

/-- What is left of a text does not end in a blank. -/
theorem isBlank_getLast?_trimEnd {cs : List Char} {c : Char} (h : c ∈ (trimEnd cs).getLast?) :
    isBlank c = false := by
  rw [trimEnd, List.getLast?_reverse, Option.mem_def] at h
  simpa only [h] using List.head?_dropWhile_not isBlank cs.reverse

end Text

namespace Report

open Text

theorem closing_valueText (v : MetricValue) (nowNs : Nat) : Closing (valueText v nowNs) := by
  have hword : ∀ text ∈ ["calls=0", "count=0", "/s)", " bytes", " B/s"], Closing text := by
    intro text htext
    simp only [List.mem_cons, List.not_mem_nil, or_false] at htext
    rcases htext with rfl | rfl | rfl | rfl | rfl <;> exact ⟨by decide, _, rfl, by decide⟩
  cases v with
  | counter n => exact closing_numeral n
  | gauge v => exact closing_signed v
  | rate r => exact (hword "/s)" (by simp)).append (by simp)
  | timer t =>
    simp only [valueText]
    split
    · exact hword "calls=0" (by simp)
    · exact (closing_numeral t.calls).append (by simp)
  | histogram h =>
    simp only [valueText]
    split
    · exact hword "count=0" (by simp)
    · exact (closing_numeral h.mean).append (by simp)
  | memory v => exact (hword " bytes" (by simp)).append (closing_signed v).newline_not_mem
  | bandwidth v => exact (hword " B/s" (by simp)).append (closing_signed v).newline_not_mem

/-- What stands in a report stood in the text, but for question marks. -/
theorem ascii_eq_iff {c d : Char} (hd : d ≠ '?') (hlow : d.toNat < 128) : ascii c = d ↔ c = d := by
  unfold ascii
  split
  · rfl
  · rename_i hhigh
    refine iff_of_false hd.symm ?_
    rintro rfl
    exact hhigh hlow

theorem newline_mem_map_ascii_iff {cs : List Char} : '\n' ∈ cs.map ascii ↔ '\n' ∈ cs := by
  have hnewline (c : Char) : ascii c = '\n' ↔ c = '\n' := ascii_eq_iff (by decide) (by decide)
  simp only [List.mem_map, hnewline, exists_eq_right]

theorem isBlank_ascii {c : Char} (h : isBlank c = false) : isBlank (ascii c) = false := by
  unfold ascii
  split
  · exact h
  · decide

theorem newline_not_mem_line {text : String} (h : '\n' ∉ text.toList) : '\n' ∉ line text := by
  rw [line, newline_mem_map_ascii_iff]
  exact fun hmem => h ((List.rdropWhile_prefix isBlank _).subset hmem)

/-- A line starts with the first character of its text, if that is in ASCII. -/
theorem head?_of_line_eq_cons {text : String} {d : Char} {rest : List Char}
    (h : line text = d :: rest) (hd : d ≠ '?') (hlow : d.toNat < 128) :
    text.toList.head? = some d := by
  obtain ⟨c, kept, htrim, hc, -⟩ := List.map_eq_cons_iff.1 h
  rw [ascii_eq_iff hd hlow] at hc
  obtain ⟨blanks, hblanks⟩ : trimEnd text.toList <+: text.toList :=
    List.rdropWhile_prefix isBlank _
  rw [← hblanks, htrim, hc]
  rfl

theorem isBlank_getLast?_line {text : String} {c : Char} (h : c ∈ (line text).getLast?) :
    isBlank c = false := by
  rw [line, List.getLast?_map, Option.mem_def, Option.map_eq_some_iff] at h
  obtain ⟨d, hd, rfl⟩ := h
  exact isBlank_ascii (isBlank_getLast?_trimEnd hd)

/-- Nothing is trimmed off a line whose end is not blank. -/
theorem line_append {text : String} (h : Closing text) (front : String) :
    line (front ++ text) = front.toList.map ascii ++ text.toList.map ascii := by
  obtain ⟨c, hc, hblank⟩ := h.getLast?_eq
  obtain ⟨rest, hrest⟩ := List.getLast?_eq_some_iff.1 hc
  have htrim : trimEnd (front.toList ++ text.toList) = front.toList ++ text.toList := by
    rw [hrest, ← List.append_assoc, trimEnd_append_cons hblank]
    rfl
  rw [line, String.toList_append, htrim, List.map_append]

end Report

end Characters

section Lines

/-- A piece between two separators holds none. -/
theorem List.not_mem_of_mem_splitOn {α : Type} [BEq α] [LawfulBEq α] {a : α} {l xs : List α}
    (h : l ∈ xs.splitOn a) : a ∉ l := by
  induction xs generalizing l with
  | nil =>
    rw [List.splitOn_nil, List.mem_singleton] at h
    rw [h]
    exact List.not_mem_nil
  | cons x xs ih =>
    rw [List.splitOn_cons_eq_if_modifyHead] at h
    split at h
    · rcases List.mem_cons.1 h with rfl | hrest
      · exact List.not_mem_nil
      · exact ih hrest
    · rename_i hne
      cases hsplit : xs.splitOn a with
      | nil => simp [hsplit] at h
      | cons first rest =>
        -- the first piece grows by a character that is no separator, the others stay
        rw [hsplit] at h ih
        rcases List.mem_cons.1 h with rfl | hrest
        · rw [List.mem_cons]
          refine not_or_intro ?_ (ih List.mem_cons_self)
          rintro rfl
          exact hne (beq_self_eq_true _)
        · exact ih (List.mem_cons_of_mem _ hrest)

namespace Report

open Text

variable {lines : List (List Char)} {text : String} {m : Metric} {metrics : List Metric}

/-- The lines of a text, each of which is ended by a line feed. -/
def physicalLines (text : String) : List (List Char) := (text.toList.splitOn '\n').dropLast

/-- The lines below the heading of the metrics. -/
def metricLines (text : String) : List (List Char) :=
  ((physicalLines text).dropWhile (· != "Key Metrics:".toList)).tail

/-- What the line of a metric starts with. -/
def label (m : Metric) : List Char := ("  " ++ m.name.text ++ ": ").toList.map ascii

/-- A text that lists metrics in order, one to a line, and no line of which ends in a blank. -/
structure ListsMetrics (text : String) (metrics : List Metric) : Prop where
  labelled : List.Forall₂ (fun l m => label m <+: l) (metricLines text) metrics
  unblank : ∀ l ∈ physicalLines text, ∀ c ∈ l.getLast?, isBlank c = false

/-- Every line falls apart at the line feeds in it. -/
theorem physicalLines_joined (lines : List (List Char)) :
    physicalLines (joined lines) = lines.flatMap (·.splitOn '\n') := by
  have hsplit : (lines.flatMap (· ++ ['\n'])).splitOn '\n' =
      lines.flatMap (·.splitOn '\n') ++ [[]] := by
    induction lines with
    | nil => rfl
    | cons l rest ih =>
      rw [List.flatMap_cons, List.append_assoc, List.singleton_append, List.flatMap_cons,
        List.append_assoc, ← ih]
      exact List.splitOnP_append_cons _ _ (beq_self_eq_true '\n')
  rw [physicalLines, toList_joined, hsplit, List.dropLast_concat]

theorem flatMap_splitOn_of_not_mem (h : ∀ l ∈ lines, '\n' ∉ l) :
    lines.flatMap (·.splitOn '\n') = lines := by
  have hwhole : ∀ l ∈ lines, l.splitOn '\n' = [l] := by
    intro l hl
    refine List.splitOnP_eq_singleton fun c hc => beq_false_of_ne ?_
    rintro rfl
    exact h l hl hc
  rw [List.flatMap_congr hwhole, List.flatMap_singleton']

theorem newline_not_mem_physicalLines {l : List Char} (h : l ∈ physicalLines text) : '\n' ∉ l :=
  List.not_mem_of_mem_splitOn (List.dropLast_subset _ h)

theorem newline_not_mem_metricLines {l : List Char} (h : l ∈ metricLines text) : '\n' ∉ l :=
  newline_not_mem_physicalLines (List.dropWhile_subset _ (List.mem_of_mem_tail h))

theorem newline_mem_label_iff : '\n' ∈ label m ↔ '\n' ∈ m.name.text.toList := by
  rw [label, newline_mem_map_ascii_iff]
  simp

/-- Metrics are listed only under names without line feeds. -/
theorem ListsMetrics.newline_not_mem (h : ListsMetrics text metrics) (hm : m ∈ metrics) :
    '\n' ∉ m.name.text.toList := by
  obtain ⟨i, hi, rfl⟩ := List.getElem_of_mem hm
  have hlength := h.labelled.length_eq
  have hlabel : label metrics[i] <+: (metricLines text)[i] := h.labelled.get (by omega) hi
  rw [← newline_mem_label_iff]
  exact fun hmem => newline_not_mem_metricLines (List.getElem_mem _) (hlabel.subset hmem)

theorem line_metricLine (m : Metric) (nowNs : Nat) :
    line (metricLine nowNs m) = label m ++ (valueText m.value nowNs).toList.map ascii :=
  line_append (closing_valueText m.value nowNs) _

/-- What can break the line of a metric is the name. -/
theorem newline_mem_line_metricLine_iff (m : Metric) (nowNs : Nat) :
    '\n' ∈ line (metricLine nowNs m) ↔ '\n' ∈ m.name.text.toList := by
  have hvalue : '\n' ∉ (valueText m.value nowNs).toList.map ascii :=
    mt newline_mem_map_ascii_iff.1 (closing_valueText m.value nowNs).newline_not_mem
  rw [line_metricLine, List.mem_append, newline_mem_label_iff, or_iff_left hvalue]

theorem newline_not_mem_overview (s : Snapshot) : ∀ l ∈ (overview s).map line, '\n' ∉ l := by
  have htexts : ∀ text ∈ overview s, '\n' ∉ text.toList := by
    simp [overview, formatVersion]
  intro l hl
  obtain ⟨text, htext, rfl⟩ := List.mem_map.1 hl
  exact newline_not_mem_line (htexts text htext)

/-- The last line of the overview, and no line in front of it, is the heading of the metrics. -/
theorem overview_ends (s : Snapshot) :
    ∃ front, (overview s).map line = front ++ ["Key Metrics:".toList] ∧
      ∀ l ∈ front, l ≠ "Key Metrics:".toList := by
  have hheads : ∀ text ∈ (overview s).dropLast, text.toList.head? ≠ some 'K' := by
    simp [overview, formatVersion]
  refine ⟨(overview s).dropLast.map line, rfl, fun l hl hkey => ?_⟩
  obtain ⟨text, htext, rfl⟩ := List.mem_map.1 hl
  exact hheads text htext (head?_of_line_eq_cons hkey (by decide) (by decide))

/-- The lines below the heading are those of the enabled metrics, each falling apart at the line
feeds in it. -/
theorem metricLines_report (c : Core) (nowNs : Nat) :
    metricLines (joined (Report.lines c nowNs)) =
      c.registry.enabledMetrics.flatMap fun m => (line (metricLine nowNs m)).splitOn '\n' := by
  have hwhole := flatMap_splitOn_of_not_mem (newline_not_mem_overview c.snapshot)
  obtain ⟨front, hfront, hother⟩ := overview_ends c.snapshot
  have hskipped : ∀ l ∈ front, (l != "Key Metrics:".toList) = true :=
    fun l hl => bne_iff_ne.2 (hother l hl)
  rw [metricLines, physicalLines_joined, Report.lines, List.map_append, List.flatMap_append, hwhole,
    hfront, List.append_assoc, List.dropWhile_append_of_pos hskipped, List.map_map,
    List.flatMap_map]
  rfl

/-- A report lists its metrics just in case none of their names holds a line feed. -/
theorem listsMetrics_iff (c : Core) (nowNs : Nat) :
    ListsMetrics (joined (Report.lines c nowNs)) c.registry.enabledMetrics ↔
      ∀ m ∈ c.registry.enabledMetrics, '\n' ∉ m.name.text.toList := by
  refine ⟨fun h m hm => h.newline_not_mem hm, fun hnames => ?_⟩
  have hunbroken : ∀ l ∈ c.registry.enabledMetrics.map (fun m => line (metricLine nowNs m)),
      '\n' ∉ l := by
    intro l hl
    obtain ⟨m, hm, rfl⟩ := List.mem_map.1 hl
    exact mt (newline_mem_line_metricLine_iff m nowNs).1 (hnames m hm)
  constructor
  · rw [metricLines_report, ← List.flatMap_map, flatMap_splitOn_of_not_mem hunbroken,
      List.forall₂_map_left_iff, List.forall₂_same]
    intro m _
    rw [line_metricLine]
    exact List.prefix_append _ _
  · have hall : ∀ l ∈ Report.lines c nowNs, '\n' ∉ l := by
      intro l hl
      rw [Report.lines, List.map_append, List.map_map] at hl
      exact (List.mem_append.1 hl).elim (newline_not_mem_overview c.snapshot l) (hunbroken l)
    intro l hl ch hch
    rw [physicalLines_joined, flatMap_splitOn_of_not_mem hall] at hl
    obtain ⟨text, -, rfl⟩ := List.mem_map.1 hl
    exact isBlank_getLast?_line hch

/-- A report takes room, if only for the heading. -/
theorem utf8ByteSize_report_pos (c : Core) (nowNs : Nat) :
    0 < (joined (Report.lines c nowNs)).utf8ByteSize := by
  obtain ⟨front, hfront, -⟩ := overview_ends c.snapshot
  rw [(plain_lines c nowNs).utf8ByteSize_joined, Report.lines, List.map_append, hfront,
    width_append, width_append, width_cons]
  omega

end Report

end Lines

namespace System

/-- A core that accepts calls makes its whole report if there is room for it. -/
theorem call_generateReport_of_room {s : System} {limit : Nat} (hready : s.core.initialized = true)
    (hroom : (Report.joined (Report.lines s.core (Core.readClock.run s).1)).utf8ByteSize ≤ limit) :
    (s.call (Core.generateReport limit)).1 =
      .ok (Report.joined (Report.lines s.core (Core.readClock.run s).1)) := by
  have hpos : 1 ≤ limit :=
    (Report.utf8ByteSize_report_pos s.core (Core.readClock.run s).1).trans_le hroom
  rw [(Report.plain_lines s.core (Core.readClock.run s).1).utf8ByteSize_joined] at hroom
  rw [Core.call_generateReport hready hpos, Report.render, Report.fitting_of_width_le hroom]

/-- **When a report has a line for each metric.** In every system that a started core can come to,
the enabled metrics stand in the order of their numbers. As long as the core accepts calls it makes
one and the same report for all limits that leave room for it, and the physical lines below the
heading are those of the enabled metrics, each falling apart at the line feeds in the name. So they
are one to a metric, with the name at its place, and no line of the report ends in a blank, if and
only if there is no line feed in the name of an enabled metric. -/
theorem report_lists_metrics_iff {s : System} (h : s.Reachable) :
    let report := fun limit => (s.call (Core.generateReport limit)).1
    let metrics := s.core.registry.enabledMetrics
    (metrics.Pairwise fun a b => a.id.number < b.id.number) ∧
      (∀ m, m ∈ metrics ↔ s.core.registry.get m.id = .ok m ∧ m.enabled = true) ∧
      (s.core.initialized = false → ∀ limit, report limit = .error .notInitialized) ∧
      (s.core.initialized = true → ∃ whole,
        (∀ limit, whole.utf8ByteSize ≤ limit → report limit = .ok whole) ∧
        (Report.metricLines whole = metrics.flatMap fun m =>
          (Report.line (Report.metricLine (Core.readClock.run s).1 m)).splitOn '\n') ∧
        (Report.ListsMetrics whole metrics ↔ ∀ m ∈ metrics, '\n' ∉ m.name.text.toList)) := by
  intro report metrics
  refine ⟨h.identified.pairwise_enabledMetrics, fun m => h.identified.mem_enabledMetrics_iff,
    fun hunready limit => congrArg Prod.fst (System.call_unready hunready _), fun hready => ?_⟩
  exact ⟨_, fun limit => call_generateReport_of_room hready, Report.metricLines_report _ _,
    Report.listsMetrics_iff _ _⟩

/-- What a core has come to after its start, if it has started. -/
theorem Reachable.exists_of_start (number : Nat) (config : Config) (env : Environment)
    (P : System → Bool)
    (h : (match Core.start number config env with
      | (.ok core, env') => P { env := env', core }
      | (.error _, _) => false) = true) :
    ∃ s : System, s.Reachable ∧ P s = true := by
  obtain ⟨core, env', hstart, hholds⟩ := Core.exists_start number config env P h
  exact ⟨_, .started hstart, hholds⟩

/-- A metric whose name is not in ASCII is listed below the eight that a core keeps on itself. -/
theorem report_lists_metrics_of_started :
    ∃ s : System, s.Reachable ∧
      (s.core.registry.enabledMetrics.map Report.label)[8]? = some "  caf?: ".toList ∧
      ∃ limit text, (s.call (Core.generateReport limit)).1 = .ok text ∧
        Report.ListsMetrics text s.core.registry.enabledMetrics := by
  let registered : Happening := .registerMetric "café" "" .gauge .core
  obtain ⟨s, hreachable, hstate⟩ := Reachable.exists_of_start 0 .manual {}
    (fun s =>
      let t := s.perform registered
      decide (t.core.initialized = true ∧
        (t.core.registry.enabledMetrics.map Report.label)[8]? = some "  caf?: ".toList ∧
        ∀ m ∈ t.core.registry.enabledMetrics, '\n' ∉ m.name.text.toList))
    (by decide +kernel)
  obtain ⟨hready, hlabel, hnames⟩ := of_decide_eq_true hstate
  have hlaw := report_lists_metrics_iff (hreachable.next registered)
  obtain ⟨whole, hreport, -, hlists⟩ := hlaw.2.2.2 hready
  exact ⟨_, hreachable.next registered, hlabel, _, whole, hreport _ le_rfl, hlists.2 hnames⟩

/-- The line of a metric that is registered under a name with a line feed is two lines of the
report, neither of which starts with the name. -/
theorem report_breaks_at_line_feed :
    ¬∀ (s : System) (limit : Nat) (text : String), s.Reachable →
      (Report.joined (Report.lines s.core (Core.readClock.run s).1)).utf8ByteSize ≤ limit →
      (s.call (Core.generateReport limit)).1 = .ok text →
      Report.ListsMetrics text s.core.registry.enabledMetrics := by
  intro hclaim
  let registered : Happening := .registerMetric "rx \nbytes" "" .counter .core
  obtain ⟨s, hreachable, hstate⟩ := Reachable.exists_of_start 0 .manual {}
    (fun s =>
      let t := s.perform registered
      decide (t.core.initialized = true ∧
        ∃ m ∈ t.core.registry.enabledMetrics, '\n' ∈ m.name.text.toList))
    (by decide +kernel)
  obtain ⟨hready, m, hm, hnewline⟩ := of_decide_eq_true hstate
  have hlists := hclaim _ _ _ (hreachable.next registered) le_rfl
    (call_generateReport_of_room hready le_rfl)
  exact hlists.newline_not_mem hm hnewline

end System

end DriverTelemetry
