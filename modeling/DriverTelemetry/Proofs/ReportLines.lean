import DriverTelemetry.Proofs.BoundedWriting
import DriverTelemetry.Proofs.SmallSteps

/-!
# How a report is cut off

A report that is not given room enough loses whole lines from its end. `Report.CutsOff` says which
lines are left, and `Report.fitting_maximal` is what this comes from: the lines kept are a prefix of
all of them that fits, and every other prefix that fits is a prefix of them. So with more room a
report can only go on where it stopped.
-/

namespace DriverTelemetry

namespace Report

/-- What is kept, as text of `limit` bytes at most, of a report that has the lines `whole`. -/
structure CutsOff (limit : Nat) (whole : List (List Char)) (text : String) : Prop where
  ascii : ∀ ch ∈ text.toList, ch.toNat < 128
  utf8ByteSize_le : text.utf8ByteSize ≤ limit
  ends_line : text = "" ∨ text.toList.getLast? = some '\n'
  /-- Whole lines are kept, up to one that does not fit any more if there is such a line. -/
  whole_lines : ∃ kept, text = joined kept ∧ kept <+: whole ∧
    (kept = whole ∨
      ∃ next, kept ++ [next] <+: whole ∧ limit < text.utf8ByteSize + (joined [next]).utf8ByteSize)

/-- The bytes that lines take with a line feed each, if they are in ASCII. -/
def width (lines : List (List Char)) : Nat := (lines.flatMap (· ++ ['\n'])).length

/-- Lines in ASCII, as the report writes them. -/
def Plain (lines : List (List Char)) : Prop := ∀ l ∈ lines, ∀ ch ∈ l, ch.toNat < 128

variable {room limit : Nat} {l : List Char} {lines kept : List (List Char)}

@[simp] theorem width_cons (l : List Char) (lines : List (List Char)) :
    width (l :: lines) = l.length + 1 + width lines := by
  rw [width, List.flatMap_cons, List.length_append, List.length_append, List.length_singleton,
    width]

@[simp] theorem width_append (kept rest : List (List Char)) :
    width (kept ++ rest) = width kept + width rest := by
  simp [width]

/-- What is kept fits. -/
theorem width_fitting_le (room : Nat) (lines : List (List Char)) :
    width (fitting room lines) ≤ room := by
  fun_induction fitting room lines with
  | case1 room => exact Nat.zero_le _
  | case2 room l rest hfits ih =>
    rw [width_cons]
    omega
  | case3 => exact Nat.zero_le _

/-- What is kept is a prefix. -/
theorem fitting_isPrefix (room : Nat) (lines : List (List Char)) :
    fitting room lines <+: lines := by
  fun_induction fitting room lines with
  | case1 => exact List.prefix_rfl
  | case2 room l rest _ ih => exact (List.prefix_cons_inj l).2 ih
  | case3 => exact List.nil_prefix

/-- Every prefix that fits is a prefix of what is kept. -/
theorem fitting_maximal (hkept : kept <+: lines) (hfits : width kept ≤ room) :
    kept <+: fitting room lines := by
  fun_induction fitting room lines generalizing kept with
  | case1 => exact hkept
  | case2 room l rest hl ih =>
    cases kept with
    | nil => exact List.nil_prefix
    | cons first more =>
      obtain ⟨rfl, hmore⟩ := List.cons_prefix_cons.1 hkept
      rw [width_cons] at hfits
      exact (List.prefix_cons_inj first).2 (ih hmore (by omega))
  | case3 room l rest hl =>
    cases kept with
    | nil => exact List.nil_prefix
    | cons first more =>
      obtain ⟨rfl, -⟩ := List.cons_prefix_cons.1 hkept
      rw [width_cons] at hfits
      omega

/-- With more room a report goes on where it stopped. -/
theorem fitting_prefix_fitting {more : Nat} (h : room ≤ more) (lines : List (List Char)) :
    fitting room lines <+: fitting more lines :=
  fitting_maximal (fitting_isPrefix room lines) ((width_fitting_le room lines).trans h)

theorem fitting_of_width_le (h : width lines ≤ room) : fitting room lines = lines :=
  (fitting_isPrefix room lines).eq_of_length_le (fitting_maximal List.prefix_rfl h).length_le

/-- What is kept is everything, or it stops before a line that does not fit. -/
theorem fitting_stops (room : Nat) (lines : List (List Char)) :
    fitting room lines = lines ∨
      ∃ next, fitting room lines ++ [next] <+: lines ∧
        room < width (fitting room lines ++ [next]) := by
  obtain ⟨rest, hrest⟩ := fitting_isPrefix room lines
  cases rest with
  | nil => exact .inl (by simpa using hrest)
  | cons next more =>
    have hprefix : fitting room lines ++ [next] <+: lines := ⟨more, by simpa using hrest⟩
    refine .inr ⟨next, hprefix, Nat.lt_of_not_le fun hfits => ?_⟩
    -- one line more than is kept would fit, so it would have been kept
    have hlength := (fitting_maximal hprefix hfits).length_le
    rw [List.length_append, List.length_singleton] at hlength
    omega

section Text

theorem toList_joined (lines : List (List Char)) :
    (joined lines).toList = lines.flatMap (· ++ ['\n']) := by
  rw [joined, String.toList_ofList]

theorem Plain.of_prefix (h : Plain lines) (hkept : kept <+: lines) : Plain kept :=
  fun l hl => h l (hkept.subset hl)

theorem Plain.lt_of_mem_joined (h : Plain lines) {ch : Char} (hch : ch ∈ (joined lines).toList) :
    ch.toNat < 128 := by
  rw [toList_joined, List.mem_flatMap] at hch
  obtain ⟨l, hl, hch⟩ := hch
  obtain hch | hch := List.mem_append.1 hch
  · exact h l hl ch hch
  · rw [List.mem_singleton.1 hch]
    decide

theorem length_eq_of_ascii {cs : List Char} (h : ∀ ch ∈ cs, ch.toNat < 128) :
    Utf8.length cs = cs.length := by
  induction cs with
  | nil => rfl
  | cons c cs ih =>
    have hc : c.utf8Size = 1 := by
      have hlow : c.val.toNat < 128 := h c List.mem_cons_self
      rw [Char.utf8Size_eq_one_iff, UInt32.le_iff_toNat_le]
      exact Nat.le_of_lt_succ hlow
    rw [Utf8.length_cons, hc, ih fun ch hch => h ch (List.mem_cons_of_mem c hch), List.length_cons,
      Nat.add_comm]

theorem Plain.utf8ByteSize_joined (h : Plain lines) :
    (joined lines).utf8ByteSize = width lines := by
  rw [← Utf8.length_toList, length_eq_of_ascii fun ch hch => h.lt_of_mem_joined hch, toList_joined,
    width]

theorem joined_ends_line (lines : List (List Char)) :
    joined lines = "" ∨ (joined lines).toList.getLast? = some '\n' := by
  cases lines using List.reverseRecOn with
  | nil => exact .inl rfl
  | append_singleton front last =>
    right
    rw [toList_joined, List.flatMap_append]
    simp

theorem joined_prefix_joined (h : kept <+: lines) :
    (joined kept).toList <+: (joined lines).toList := by
  obtain ⟨rest, rfl⟩ := h
  rw [toList_joined, toList_joined, List.flatMap_append]
  exact List.prefix_append _ _

theorem Plain.cutsOff (h : Plain lines) (limit : Nat) :
    CutsOff limit lines (joined (fitting limit lines)) := by
  have hkept := h.of_prefix (fitting_isPrefix limit lines)
  refine ⟨fun ch hch => hkept.lt_of_mem_joined hch, ?_, joined_ends_line _,
    fitting limit lines, rfl, fitting_isPrefix limit lines, ?_⟩
  · rw [hkept.utf8ByteSize_joined]
    exact width_fitting_le limit lines
  · refine (fitting_stops limit lines).imp_right fun ⟨next, hnext, hlt⟩ => ⟨next, hnext, ?_⟩
    have hplain : Plain [next] := fun l hl =>
      h l (hnext.subset (List.mem_append_right _ hl))
    rw [hkept.utf8ByteSize_joined, hplain.utf8ByteSize_joined, ← width_append]
    exact hlt

end Text

theorem plain_lines (c : Core) (nowNs : Nat) : Plain (Report.lines c nowNs) := by
  intro l hl ch hch
  obtain ⟨text, -, rfl⟩ := List.mem_map.1 hl
  obtain ⟨ch, -, rfl⟩ := List.mem_map.1 hch
  unfold ascii
  split
  · assumption
  · decide

end Report

namespace Core

variable {s : System} {limit : Nat}

theorem call_generateReport (hready : s.core.initialized = true) (hlimit : 1 ≤ limit) :
    (s.call (generateReport limit)).1 =
      .ok (Report.render s.core (readClock.run s).1 limit) := by
  unfold generateReport
  rw [System.call_ready hready, if_neg (Nat.one_le_iff_ne_zero.1 hlimit)]
  rfl

/-- **A report is cut off between two lines.** A core that accepts calls makes its report in ASCII
and within the limit, of whole lines and as many of them as there is room for; with more room the
report goes on where it stopped, and with room for all its lines it is complete. A core that accepts
no calls makes no report. -/
theorem report_keeps_whole_lines (s : System) {l₁ l₂ : Nat} (hpos : 1 ≤ l₁) (hle : l₁ ≤ l₂) :
    let whole := Report.lines s.core (readClock.run s).1
    let report := fun limit => (s.call (generateReport limit)).1
    (s.core.initialized = false → report l₁ = .error .notInitialized ∧
      report l₂ = .error .notInitialized) ∧
    (s.core.initialized = true →
      (∃ text₁ text₂, report l₁ = .ok text₁ ∧ report l₂ = .ok text₂ ∧
        Report.CutsOff l₁ whole text₁ ∧ Report.CutsOff l₂ whole text₂ ∧
        text₁.toList <+: text₂.toList) ∧
      ∀ limit, 1 ≤ limit → (Report.joined whole).utf8ByteSize ≤ limit →
        report limit = .ok (Report.joined whole)) := by
  intro whole report
  have hplain : Report.Plain whole := Report.plain_lines _ _
  refine ⟨fun hunready => ?_, fun hready => ⟨?_, fun limit hlimit hroom => ?_⟩⟩
  · have hrefused : ∀ limit, report limit = .error .notInitialized :=
      fun limit => congrArg Prod.fst (System.call_unready hunready _)
    exact ⟨hrefused l₁, hrefused l₂⟩
  · exact ⟨_, _, call_generateReport hready hpos, call_generateReport hready (hpos.trans hle),
      hplain.cutsOff l₁, hplain.cutsOff l₂,
      Report.joined_prefix_joined (Report.fitting_prefix_fitting hle whole)⟩
  · rw [hplain.utf8ByteSize_joined] at hroom
    have hall : Report.render s.core (readClock.run s).1 limit = Report.joined whole := by
      rw [Report.render, Report.fitting_of_width_le hroom]
    exact (call_generateReport hready hlimit).trans (congrArg Except.ok hall)

/-- A core with one metric, whose name is not in ASCII. -/
def measured : System where
  env := {}
  core := ofTables 0 .manual
    { registry :=
        { capacity := 1
          policy := {}
          metrics :=
            [{ id := ⟨1⟩
               name := .ofString "café"
               description := .empty
               subsystem := .core
               registeredNs := 0
               value := .gauge 40 }] }
      events := { capacity := 1 }
      tracker := { capacity := 1 } } 0

/-- Its report takes 293 bytes; with one byte less the line of the metric is left out. -/
theorem report_keeps_whole_lines_before_metric :
    let whole := Report.lines measured.core (readClock.run measured).1
    let report := fun limit => (measured.call (generateReport limit)).1
    1 ≤ 292 ∧ 292 ≤ 293 ∧ measured.core.initialized = true ∧
      ∃ text₁ text₂, report 292 = .ok text₁ ∧ report 293 = .ok text₂ ∧
        Report.CutsOff 292 whole text₁ ∧ text₁.toList <+: text₂.toList ∧ text₁ ≠ text₂ := by
  intro whole report
  have hdiffer : report 292 ≠ report 293 := by decide +kernel
  obtain ⟨⟨text₁, text₂, hfirst, hsecond, hcut, -, hprefix⟩, -⟩ :=
    (report_keeps_whole_lines measured (by decide : 1 ≤ 292) (by decide : 292 ≤ 293)).2 rfl
  refine ⟨by decide, by decide, rfl, text₁, text₂, hfirst, hsecond, hcut, hprefix, ?_⟩
  rintro rfl
  exact hdiffer (hfirst.trans hsecond.symm)

end Core

end DriverTelemetry
