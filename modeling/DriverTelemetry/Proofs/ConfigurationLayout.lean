import DriverTelemetry.Proofs.ConfigurationText

/-!
# The layout of configuration text

`Config.Line.Relaid` lists the changes of a line that do not matter, and `Config.Relaid` those of
the lines of a text. The lines that are read then say the same as before (`Config.Line.Alike`), up
to names of sections that do not exist. In a text that is accepted neighbouring assignments may
change places too, unless they are of the same key, and an assignment may be left out if a later one
is of its key.
-/

namespace DriverTelemetry

namespace Text

variable {l r : List Char}

section Trim

theorem trimStart_append (hl : ∀ ch ∈ l, isBlank ch = true) (cs : List Char) :
    trimStart (l ++ cs) = trimStart cs :=
  List.dropWhile_append_of_pos hl

theorem trimEnd_append (hr : ∀ ch ∈ r, isBlank ch = true) (cs : List Char) :
    trimEnd (cs ++ r) = trimEnd cs := by
  unfold trimEnd
  rw [List.reverse_append,
    List.dropWhile_append_of_pos fun ch hch => hr ch (List.mem_reverse.1 hch)]

theorem trim_append_cons {c : Char} (hc : isBlank c = false) (a b : List Char) :
    trim (a ++ c :: b) = trimStart a ++ c :: trimEnd b := by
  unfold trim
  rw [trimStart_append_cons hc, trimEnd_append_cons hc]

theorem trim_append_left (hl : ∀ ch ∈ l, isBlank ch = true) (cs : List Char) :
    trim (l ++ cs) = trim cs := by
  unfold trim
  rw [trimStart_append hl]

theorem trim_append_right (hr : ∀ ch ∈ r, isBlank ch = true) (cs : List Char) :
    trim (cs ++ r) = trim cs := by
  by_cases hcs : ∀ ch ∈ cs, isBlank ch = true
  · -- nothing is left of either
    have hr' := trim_append_left hr []
    have hcs' := trim_append_left hcs []
    rw [List.append_nil] at hr' hcs'
    rw [trim_append_left hcs, hr', hcs']
  · push Not at hcs
    obtain ⟨c, hmem, hc⟩ := hcs
    obtain ⟨a, b, rfl⟩ := List.append_of_mem hmem
    have hblank : isBlank c = false := by simpa using hc
    rw [List.append_assoc, List.cons_append, trim_append_cons hblank, trim_append_cons hblank,
      trimEnd_append hr]

theorem trim_trimStart (cs : List Char) : trim (trimStart cs) = trim cs := by
  unfold trim trimStart
  rw [List.dropWhile_idempotent]

theorem trim_trimEnd (cs : List Char) : trim (trimEnd cs) = trim cs := by
  have h := trim_append_right (r := cs.rtakeWhile isBlank)
    (fun ch hch => List.mem_rtakeWhile_imp hch) (cs.rdropWhile isBlank)
  rw [List.rdropWhile_append_rtakeWhile] at h
  exact h.symm

theorem head?_trimStart_append (hr : ∀ ch ∈ r, isBlank ch = true) (cs : List Char) :
    (trimStart (cs ++ r)).head? = (trimStart cs).head? := by
  have hnone : r.find? (!isBlank ·) = none := List.find?_eq_none.2 fun ch hch => by simp [hr ch hch]
  unfold trimStart
  rw [← List.find?_not_eq_head?_dropWhile, ← List.find?_not_eq_head?_dropWhile, List.find?_append,
    hnone, Option.or_none]

theorem getLast?_trimEnd_append (hl : ∀ ch ∈ l, isBlank ch = true) (cs : List Char) :
    (trimEnd (l ++ cs)).getLast? = (trimEnd cs).getLast? := by
  have h := head?_trimStart_append (fun ch hch => hl ch (List.mem_reverse.1 hch)) cs.reverse
  unfold trimStart at h
  unfold trimEnd
  rw [List.getLast?_reverse, List.getLast?_reverse, List.reverse_append, h]

theorem padding_singleton {c : Char} (hblank : isBlank c = true) (hne : c ≠ '\n') :
    Padding [c] := by
  intro ch hch
  rw [List.mem_singleton.1 hch]
  exact ⟨hblank, hne⟩

theorem Padding.blank (hl : Padding l) : ∀ ch ∈ l, isBlank ch = true := fun ch hch => (hl ch hch).1

end Trim

section Comments

variable {cs comment : List Char}

theorem takeWhile_append_of_not_mem (h : '#' ∉ l) (cs : List Char) :
    (l ++ cs).takeWhile (· != '#') = l ++ cs.takeWhile (· != '#') := by
  refine List.takeWhile_append_of_pos fun ch hch => ?_
  rw [bne_iff_ne]
  rintro rfl
  exact h hch

theorem takeWhile_of_not_mem (h : '#' ∉ l) : l.takeWhile (· != '#') = l := by
  simpa using takeWhile_append_of_not_mem h []

theorem takeWhile_append_of_mem (h : '#' ∈ l) (cs : List Char) :
    (l ++ cs).takeWhile (· != '#') = l.takeWhile (· != '#') := by
  obtain ⟨a, b, rfl, ha⟩ := List.eq_append_cons_of_mem h
  rw [List.append_assoc, takeWhile_append_of_not_mem ha, takeWhile_append_of_not_mem ha]
  rfl

theorem takeWhile_append_comment (hc : Comment comment) (cs : List Char) :
    (cs ++ comment).takeWhile (· != '#') = cs.takeWhile (· != '#') := by
  by_cases h : '#' ∈ cs
  · exact takeWhile_append_of_mem h comment
  · rw [takeWhile_comment h hc, takeWhile_of_not_mem h]

end Comments

end Text

namespace Setting

variable {s t : Setting} {v w : List Char} {a b c c₁ c₂ : Config}

theorem key_of_find? {sectionName key : List Char} (h : find? sectionName key = some s) :
    s.key.toList = key := by
  have hfound := List.find?_some h
  simp only [Bool.and_eq_true, beq_iff_eq] at hfound
  exact hfound.2

/-- No section has a name with `=` in it. -/
theorem find?_of_mem {sectionName : List Char} (h : '=' ∈ sectionName) (key : List Char) :
    find? sectionName key = none := by
  refine List.find?_eq_none.2 fun s _ hfound => ?_
  simp only [Bool.and_eq_true, beq_iff_eq] at hfound
  have hsign : '=' ∉ s.sectionName.toList := by cases s <;> decide
  exact hsign (hfound.1 ▸ h)

theorem value_assign? (hassign : s.assign? v c = some c₁) (other : Setting) :
    other.value c₁ = if other = s then s.value c₁ else other.value c := by
  obtain ⟨c', hassign', hvalues⟩ := sets_of_assign? hassign c
  cases hassign.symm.trans hassign'
  exact hvalues other

/-- Assignments to two settings may change places. -/
theorem assign?_comm (hne : s ≠ t) (hs : s.assign? v c = some c₁) (ht : t.assign? w c₁ = some c₂) :
    ∃ c₁', t.assign? w c = some c₁' ∧ s.assign? v c₁' = some c₂ := by
  obtain ⟨c₁', ht', hvalues⟩ := sets_of_assign? ht c
  obtain ⟨c₂', hs', hvalues'⟩ := sets_of_assign? hs c₁'
  obtain rfl : c₂' = c₂ := by
    refine config_ext fun other => ?_
    rw [hvalues', hvalues, value_assign? ht other, value_assign? hs other]
    by_cases hother : other = s
    · rw [if_pos hother, if_neg (hother ▸ hne), if_pos hother]
    · rw [if_neg hother, if_neg hother]
  exact ⟨c₁', ht', hs'⟩

/-- Configurations that differ in one setting at most. -/
def SameBut (s : Setting) (a b : Config) : Prop :=
  ∀ other : Setting, other ≠ s → other.value a = other.value b

theorem sameBut_of_assign? (h : s.assign? v c = some c₁) : s.SameBut c₁ c := by
  intro other hne
  rw [value_assign? h, if_neg hne]

/-- What is assigned to the setting in which configurations differ makes them the same. -/
theorem assign?_of_sameBut (h : s.SameBut a b) (hassign : t.assign? v a = some c) :
    ∃ c', t.assign? v b = some c' ∧ s.SameBut c c' ∧ (t = s → c' = c) := by
  obtain ⟨c', hassign', hvalues⟩ := sets_of_assign? hassign b
  have hsame (other : Setting) (hother : other = t ∨ other ≠ s) :
      other.value c = other.value c' := by
    rw [hvalues, value_assign? hassign]
    split
    · rfl
    · rename_i hne
      exact h other (hother.resolve_left hne)
  refine ⟨c', hassign', fun other hne => hsame other (.inr hne), ?_⟩
  rintro rfl
  exact (config_ext fun other => hsame other (em (other = t))).symm

end Setting

namespace Config

open Text

namespace Line

/-- The changes of a line that are a matter of layout: blanks at its ends, a comment behind it,
blanks around its first `=`, and blanks inside the brackets of a header. A carriage return in front
of the line break is a blank at the end of the line. -/
inductive Relaid : List Char → List Char → Prop
  | ends {p q : List Char} (hp : Padding p) (hq : Padding q) (raw : List Char) :
      Relaid raw (p ++ raw ++ q)
  | commented {comment : List Char} (hcomment : Comment comment) (raw : List Char) :
      Relaid raw (raw ++ comment)
  | sign {key p q : List Char} (hkey : '=' ∉ key) (hp : Padding p) (hq : Padding q)
      (value : List Char) : Relaid (key ++ '=' :: value) (key ++ p ++ '=' :: (q ++ value))
  | brackets {front name back comment p q : List Char} (hfront : Padding front)
      (hname : '#' ∉ name) (hback : Padding back) (hcomment : Comment comment) (hp : Padding p)
      (hq : Padding q) :
      Relaid (front ++ '[' :: name ++ ']' :: back ++ comment)
        (front ++ '[' :: (p ++ name ++ q) ++ ']' :: back ++ comment)

/-- Lines that say the same. No section has a name with `=` in it, so it does not matter which of
those names a header has. -/
inductive Alike : Line → Line → Prop
  | refl (line : Line) : Alike line line
  | unknown {a b : List Char} (ha : '=' ∈ a) (hb : '=' ∈ b) : Alike (.header a) (.header b)

instance : Std.Refl Alike := ⟨.refl⟩

variable {p q raw : List Char}

theorem read_ends (hp : Padding p) (hq : Padding q) (raw : List Char) :
    read (p ++ raw ++ q) = read raw := by
  have hhash : isBlank '#' = false := by decide
  have hline : trim ((p ++ raw ++ q).takeWhile (· != '#')) = trim (raw.takeWhile (· != '#')) := by
    rw [List.append_assoc, takeWhile_append_of_not_mem (hp.not_mem hhash)]
    by_cases h : '#' ∈ raw
    · rw [takeWhile_append_of_mem h, trim_append_left hp.blank]
    · rw [takeWhile_append_of_not_mem h, takeWhile_of_not_mem h,
        takeWhile_of_not_mem (hq.not_mem hhash), trim_append_left hp.blank,
        trim_append_right hq.blank]
  unfold read
  rw [hline]

theorem read_commented {comment : List Char} (hcomment : Comment comment) (raw : List Char) :
    read (raw ++ comment) = read raw := by
  unfold read
  rw [takeWhile_append_comment hcomment]

/-- A line with something else in it is in brackets if the first character and the last one are. -/
theorem bracketed?_append_cons {c : Char} (hopen : c ≠ '[') (hclose : c ≠ ']') (a b : List Char) :
    bracketed? (a ++ c :: b) =
      if a.head? = some '[' ∧ b.getLast? = some ']' then some (a.tail ++ c :: b.dropLast)
      else none := by
  cases a with
  | nil =>
    unfold bracketed?
    split
    · rename_i heq
      cases heq
      exact absurd rfl hopen
    · rfl
  | cons d rest =>
    by_cases hd : d = '['
    · subst hd
      cases b using List.reverseRecOn with
      | nil => simp [bracketed?, hclose]
      | append_singleton front e =>
        have hsplit : rest ++ c :: (front ++ [e]) = (rest ++ c :: front) ++ [e] := by simp
        simp only [List.cons_append, hsplit, bracketed?, List.getLast?_concat,
          List.dropLast_concat, List.head?_cons, true_and, List.tail_cons]
    · simp [bracketed?, hd]

/-- What a line with a `=` says: it is an assignment, unless it stands in brackets. -/
theorem read_sign {key : List Char} (hhash : '#' ∉ key) (hkey : '=' ∉ key) (value : List Char) :
    let v := value.takeWhile (· != '#')
    read (key ++ '=' :: value) =
      if (trimStart key).head? = some '[' ∧ (trimEnd v).getLast? = some ']' then
        header (trim ((trimStart key).tail ++ '=' :: (trimEnd v).dropLast))
      else assignment (trim key) (trim v) := by
  intro v
  have hline : trim ((key ++ '=' :: value).takeWhile (· != '#')) =
      trimStart key ++ '=' :: trimEnd v := by
    rw [takeWhile_append_of_not_mem hhash]
    exact trim_append_cons (by decide) key v
  have hbracketed := bracketed?_append_cons (c := '=') (by decide) (by decide)
    (trimStart key) (trimEnd v)
  split
  · rename_i hends
    rw [if_pos hends] at hbracketed
    exact read_of_bracketed hline (by simp) hbracketed
  · rename_i hends
    rw [if_neg hends] at hbracketed
    have hsign : '=' ∉ trimStart key := fun hmem => hkey ((List.dropWhile_sublist _).subset hmem)
    rw [read_of_split hline (by simp) hbracketed (splitAt?_append hsign _), trim_trimStart,
      trim_trimEnd]

theorem alike_sign {key : List Char} (hkey : '=' ∉ key) (hp : Padding p) (hq : Padding q)
    (value : List Char) :
    Alike (read (key ++ '=' :: value)) (read (key ++ p ++ '=' :: (q ++ value))) := by
  by_cases hhash : '#' ∈ key
  · -- the sign is in a comment
    have hsame : read (key ++ '=' :: value) = read (key ++ p ++ '=' :: (q ++ value)) := by
      unfold read
      rw [List.append_assoc, takeWhile_append_of_mem hhash, takeWhile_append_of_mem hhash]
    rw [hsame]
    exact .refl _
  · have hhash' : '#' ∉ key ++ p := by simp [hhash, hp.not_mem (c := '#') (by decide)]
    have hkey' : '=' ∉ key ++ p := by simp [hkey, hp.not_mem (c := '=') (by decide)]
    rw [read_sign hhash hkey, read_sign hhash' hkey',
      takeWhile_append_of_not_mem (hq.not_mem (by decide)), head?_trimStart_append hp.blank,
      getLast?_trimEnd_append hq.blank]
    split
    · -- the name in the brackets may change, but it is never that of a section
      have hsign (a b : List Char) : '=' ∈ trim (a ++ '=' :: b) := by
        rw [trim_append_cons (by decide)]
        simp
      exact .unknown (hsign _ _) (hsign _ _)
    · rw [trim_append_right hp.blank, trim_append_left hq.blank]
      exact .refl _

theorem Relaid.alike {raw' : List Char} (h : Relaid raw raw') : Alike (read raw) (read raw') := by
  cases h with
  | ends hp hq =>
    rw [read_ends hp hq]
    exact .refl _
  | commented hcomment =>
    rw [read_commented hcomment]
    exact .refl _
  | @brackets _ name _ _ p q hfront hname hback hcomment hp hq =>
    have hname' : '#' ∉ p ++ name ++ q := by
      have hhash : isBlank '#' = false := by decide
      simp [hp.not_mem hhash, hq.not_mem hhash, hname]
    rw [read_brackets hfront hname hback hcomment, read_brackets hfront hname' hback hcomment,
      trim_append_right hq.blank, trim_append_left hp.blank]
    exact .refl _
  | sign hkey hp hq value => exact alike_sign hkey hp hq value

end Line

/-- The lines of a text, as they stand. -/
def rawLines (text : String) : List (List Char) := text.toList.splitOn '\n'

/-- The changes of the lines of a text that are a matter of layout. -/
inductive Relaid : List (List Char) → List (List Char) → Prop
  | line (before : List (List Char)) {raw raw' : List Char} (h : Line.Relaid raw raw')
      (after : List (List Char)) : Relaid (before ++ raw :: after) (before ++ raw' :: after)
  | idle (before : List (List Char)) {pad comment : List Char} (hpad : Padding pad)
      (hcomment : Comment comment) (after : List (List Char)) :
      Relaid (before ++ after) (before ++ (pad ++ comment) :: after)

/-- The configuration that the lines that are still to come make of a draft. -/
def Draft.finish (d : Draft) (ls : List Line) : Except ConfigError Config :=
  (ls.foldlM Draft.apply d).map (·.config)

/-- Drafts with the same configuration, in sections with the same settings. -/
structure Draft.Alike (d e : Draft) : Prop where
  config_eq : d.config = e.config
  find?_eq : Setting.find? d.sectionName = Setting.find? e.sectionName

variable {d e : Draft} {line line' : Line} {ls ls' : List Line} {text text' : String} {c : Config}

theorem bind_eq_ok {α β : Type} {x : Except ConfigError α} {f : α → Except ConfigError β} {b : β} :
    x >>= f = .ok b ↔ ∃ a, x = .ok a ∧ f a = .ok b := by
  cases x with
  | error e => exact ⟨nofun, nofun⟩
  | ok a => exact ⟨fun h => ⟨a, rfl, h⟩, fun ⟨_, ha, h⟩ => Except.ok.inj ha ▸ h⟩

theorem read_eq (text : String) :
    read text = ({} : Draft).finish ((rawLines text).map Line.read) >>= fun c => do
      c.validate
      return c := by
  unfold read Draft.finish
  change Except.bind (List.foldlM _ _ ((rawLines text).map Line.read)) _ = _
  cases ((rawLines text).map Line.read).foldlM Draft.apply {} with
  | ok d => rfl
  | error e => rfl

theorem finish_of_read (h : read text = .ok c) :
    ({} : Draft).finish ((rawLines text).map Line.read) = .ok c := by
  rw [read_eq] at h
  obtain ⟨c', hfinish, h⟩ := bind_eq_ok.1 h
  obtain ⟨_, -, h⟩ := bind_eq_ok.1 h
  cases h
  exact hfinish

theorem Draft.Alike.apply (h : d.Alike e) (hline : Line.Alike line line') :
    (∃ d' e', d.apply line = .ok d' ∧ e.apply line' = .ok e' ∧ d'.Alike e') ∨
      ∃ err, d.apply line = .error err ∧ e.apply line' = .error err := by
  cases hline with
  | unknown ha hb =>
    refine .inl ⟨_, _, rfl, rfl, h.config_eq, ?_⟩
    funext key
    exact (Setting.find?_of_mem ha key).trans (Setting.find?_of_mem hb key).symm
  | refl =>
    cases line with
    | blank => exact .inl ⟨_, _, rfl, rfl, h⟩
    | header name => exact .inl ⟨_, _, rfl, rfl, h.config_eq, rfl⟩
    | malformed => exact .inr ⟨_, rfl, rfl⟩
    | assignment key value =>
      simp only [Draft.apply, h.find?_eq, h.config_eq]
      split
      · exact .inr ⟨_, rfl, rfl⟩
      · split
        · exact .inr ⟨_, rfl, rfl⟩
        · exact .inl ⟨_, _, rfl, rfl, rfl, h.find?_eq⟩

theorem Draft.Alike.finish (h : d.Alike e) (hlines : List.Forall₂ Line.Alike ls ls') :
    d.finish ls = e.finish ls' := by
  induction hlines generalizing d e with
  | nil => exact congrArg Except.ok h.config_eq
  | cons hline _ ih =>
    unfold Draft.finish at ih ⊢
    rw [List.foldlM_cons, List.foldlM_cons]
    obtain ⟨d', e', hd, he, halike⟩ | ⟨err, hd, he⟩ := h.apply hline
    · rw [hd, he]
      exact ih halike
    · rw [hd, he]
      rfl

theorem Draft.finish_blank (d : Draft) (before after : List Line) :
    d.finish (before ++ .blank :: after) = d.finish (before ++ after) := by
  unfold finish
  rw [List.foldlM_append, List.foldlM_append]
  rfl

theorem Relaid.finish_eq {rows rows' : List (List Char)} (h : Relaid rows rows') :
    ({} : Draft).finish (rows.map Line.read) = ({} : Draft).finish (rows'.map Line.read) := by
  cases h with
  | idle before hpad hcomment after =>
    rw [List.map_append, List.map_append, List.map_cons, Line.read_blank hpad hcomment,
      Draft.finish_blank]
  | line before hline after =>
    rw [List.map_append, List.map_append, List.map_cons, List.map_cons]
    exact Draft.Alike.finish ⟨rfl, rfl⟩
      (List.rel_append (List.forall₂_refl _) (.cons hline.alike (List.forall₂_refl _)))

/-- The section that a line leads to from another one. -/
def Line.enter (current : List Char) : Line → List Char
  | .header name => name
  | .blank | .assignment _ _ | .malformed => current

/-- The section that is in force after some lines. -/
def sectionAfter (ls : List Line) : List Char := ls.foldl Line.enter []

/-- Lines of which two neighbouring assignments have changed places: they are of different keys in
the same section, and there is no other assignment between them. -/
inductive Exchanged : List Line → List Line → Prop
  | intro {key₁ key₂ : List Char} (hkeys : key₁ ≠ key₂) (value₁ value₂ : List Char)
      (before between : List Line)
      (hbetween : ∀ key value, .assignment key value ∉ between)
      (hsection : sectionAfter (before ++ between) = sectionAfter before) (after : List Line) :
      Exchanged (before ++ .assignment key₁ value₁ :: (between ++ .assignment key₂ value₂ :: after))
        (before ++ .assignment key₂ value₂ :: (between ++ .assignment key₁ value₁ :: after))

/-- Lines of which an assignment has been left out that a later one of the same key in the same
section makes up for. -/
inductive Spared : List Line → List Line → Prop
  | intro (key value₁ value₂ : List Char) (before between : List Line)
      (hsection : sectionAfter (before ++ between) = sectionAfter before) (after : List Line) :
      Spared (before ++ .assignment key value₁ :: (between ++ .assignment key value₂ :: after))
        (before ++ (between ++ .assignment key value₂ :: after))

namespace Draft

theorem foldlM_append_ok : (ls ++ ls').foldlM Draft.apply d = .ok e ↔
    ∃ m, ls.foldlM Draft.apply d = .ok m ∧ ls'.foldlM Draft.apply m = .ok e := by
  rw [List.foldlM_append, bind_eq_ok]

theorem foldlM_cons_ok : (line :: ls).foldlM Draft.apply d = .ok e ↔
    ∃ m, d.apply line = .ok m ∧ ls.foldlM Draft.apply m = .ok e := by
  rw [List.foldlM_cons, bind_eq_ok]

theorem finish_eq_ok : d.finish ls = .ok c ↔
    ∃ e, ls.foldlM Draft.apply d = .ok e ∧ e.config = c := by
  unfold finish
  cases ls.foldlM Draft.apply d with
  | error err => simp [Except.map]
  | ok e => simp [Except.map]

theorem apply_assignment_ok {key value : List Char} :
    d.apply (.assignment key value) = .ok e ↔ ∃ s config,
      Setting.find? d.sectionName key = some s ∧ s.assign? value d.config = some config ∧
        e = { d with config } := by
  simp only [Draft.apply]
  cases Setting.find? d.sectionName key with
  | none => simp
  | some s =>
    cases hassign : s.assign? value d.config with
    | none => simp [hassign]
    | some config => simp [hassign, eq_comm]

theorem sectionName_apply (h : d.apply line = .ok e) :
    e.sectionName = line.enter d.sectionName := by
  cases line with
  | blank | header =>
    cases h
    rfl
  | malformed => cases h
  | assignment =>
    obtain ⟨s, config, -, -, rfl⟩ := apply_assignment_ok.1 h
    rfl

theorem sectionName_foldlM (h : ls.foldlM Draft.apply d = .ok e) :
    e.sectionName = ls.foldl Line.enter d.sectionName := by
  induction ls generalizing d with
  | nil =>
    cases h
    rfl
  | cons line rest ih =>
    obtain ⟨m, happly, hrest⟩ := foldlM_cons_ok.1 h
    rw [ih hrest, sectionName_apply happly]
    rfl

/-- Lines without an assignment only lead to another section. -/
theorem foldlM_of_no_assignment (hls : ∀ key value, .assignment key value ∉ ls)
    (h : ls.foldlM Draft.apply d = .ok e) (c : Config) :
    ls.foldlM Draft.apply { d with config := c } =
      .ok { config := c, sectionName := ls.foldl Line.enter d.sectionName } := by
  induction ls generalizing d with
  | nil => rfl
  | cons line rest ih =>
    obtain ⟨m, happly, hrest⟩ := foldlM_cons_ok.1 h
    have hno : ∀ key value, .assignment key value ∉ rest :=
      fun key value hmem => hls key value (List.mem_cons_of_mem line hmem)
    refine foldlM_cons_ok.2 ⟨{ m with config := c }, ?_, ?_⟩
    · cases line with
      | blank | header =>
        cases happly
        rfl
      | malformed => cases happly
      | assignment key value => exact absurd List.mem_cons_self (hls key value)
    · rw [ih hno hrest, sectionName_apply happly]
      rfl

theorem apply_of_sameBut {s : Setting} {b : Config} (hsame : s.SameBut d.config b)
    (h : d.apply line = .ok e) :
    ∃ b', apply { d with config := b } line = .ok { e with config := b' } ∧
      s.SameBut e.config b' := by
  cases line with
  | blank | header =>
    cases h
    exact ⟨b, rfl, hsame⟩
  | malformed => cases h
  | assignment key value =>
    obtain ⟨t, config, hfind, hassign, rfl⟩ := apply_assignment_ok.1 h
    obtain ⟨b', hassign', hsame', -⟩ := Setting.assign?_of_sameBut hsame hassign
    exact ⟨b', apply_assignment_ok.2 ⟨t, b', hfind, hassign', rfl⟩, hsame'⟩

theorem foldlM_of_sameBut {s : Setting} {b : Config} (hsame : s.SameBut d.config b)
    (h : ls.foldlM Draft.apply d = .ok e) :
    ∃ b', ls.foldlM Draft.apply { d with config := b } = .ok { e with config := b' } ∧
      s.SameBut e.config b' := by
  induction ls generalizing d b with
  | nil =>
    cases h
    exact ⟨b, rfl, hsame⟩
  | cons line rest ih =>
    obtain ⟨m, happly, hrest⟩ := foldlM_cons_ok.1 h
    obtain ⟨b₁, happly', hsame₁⟩ := apply_of_sameBut hsame happly
    obtain ⟨b', hrest', hsame'⟩ := ih hsame₁ hrest
    exact ⟨b', foldlM_cons_ok.2 ⟨_, happly', hrest'⟩, hsame'⟩

/-- Lines that end in the section in which they begin. -/
theorem enter_of_sectionAfter {before between : List Line}
    (hbefore : before.foldlM Draft.apply {} = .ok d)
    (hsection : sectionAfter (before ++ between) = sectionAfter before) :
    between.foldl Line.enter d.sectionName = d.sectionName := by
  rw [sectionAfter, List.foldl_append] at hsection
  rw [sectionName_foldlM hbefore]
  exact hsection

end Draft

open Draft

theorem Exchanged.finish (h : Exchanged ls ls') (hfinish : ({} : Draft).finish ls = .ok c) :
    ({} : Draft).finish ls' = .ok c := by
  obtain ⟨e, hrun, hc⟩ := finish_eq_ok.1 hfinish
  refine finish_eq_ok.2 ⟨e, ?_, hc⟩
  cases h with
  | intro hkeys value₁ value₂ before between hbetween hsection after =>
    obtain ⟨d, hbefore, hrun⟩ := foldlM_append_ok.1 hrun
    obtain ⟨d₁, hfirst, hrun⟩ := foldlM_cons_ok.1 hrun
    obtain ⟨d₂, hrunBetween, hrun⟩ := foldlM_append_ok.1 hrun
    obtain ⟨d₃, hsecond, hafter⟩ := foldlM_cons_ok.1 hrun
    obtain ⟨s, c₁, hfind, hassign, rfl⟩ := apply_assignment_ok.1 hfirst
    -- the lines between lead back to the same section, whatever has been assigned
    have hidle := foldlM_of_no_assignment hbetween hrunBetween
    simp only [enter_of_sectionAfter hbefore hsection] at hidle
    cases hrunBetween.symm.trans (hidle c₁)
    obtain ⟨t, c₂, hfind', hassign', rfl⟩ := apply_assignment_ok.1 hsecond
    have hne : s ≠ t := by
      rintro rfl
      exact hkeys ((Setting.key_of_find? hfind).symm.trans (Setting.key_of_find? hfind'))
    obtain ⟨c₁', hsecond', hfirst'⟩ := Setting.assign?_comm hne hassign hassign'
    refine foldlM_append_ok.2 ⟨d, hbefore, foldlM_cons_ok.2 ⟨{ d with config := c₁' }, ?_, ?_⟩⟩
    · exact apply_assignment_ok.2 ⟨t, c₁', hfind', hsecond', rfl⟩
    · refine foldlM_append_ok.2 ⟨_, hidle c₁', foldlM_cons_ok.2 ⟨_, ?_, hafter⟩⟩
      exact apply_assignment_ok.2 ⟨s, c₂, hfind, hfirst', rfl⟩

theorem Spared.finish (h : Spared ls ls') (hfinish : ({} : Draft).finish ls = .ok c) :
    ({} : Draft).finish ls' = .ok c := by
  obtain ⟨e, hrun, hc⟩ := finish_eq_ok.1 hfinish
  refine finish_eq_ok.2 ⟨e, ?_, hc⟩
  cases h with
  | intro key value₁ value₂ before between hsection after =>
    obtain ⟨d, hbefore, hrun⟩ := foldlM_append_ok.1 hrun
    obtain ⟨d₁, hfirst, hrun⟩ := foldlM_cons_ok.1 hrun
    obtain ⟨d₂, hrunBetween, hrun⟩ := foldlM_append_ok.1 hrun
    obtain ⟨d₃, hsecond, hafter⟩ := foldlM_cons_ok.1 hrun
    obtain ⟨s, c₁, hfind, hassign, rfl⟩ := apply_assignment_ok.1 hfirst
    obtain ⟨t, c₂, hfind', hassign', rfl⟩ := apply_assignment_ok.1 hsecond
    -- without the first assignment another value is left, until the second one replaces it
    obtain ⟨b, hrunBetween', hsame⟩ :=
      foldlM_of_sameBut (Setting.sameBut_of_assign? hassign) hrunBetween
    have hback := enter_of_sectionAfter hbefore hsection
    obtain rfl : s = t := by
      have hsection := sectionName_foldlM hrunBetween
      rw [hsection, hback, hfind] at hfind'
      exact Option.some.inj hfind'
    obtain ⟨c', hassign'', -, heq⟩ := Setting.assign?_of_sameBut hsame hassign'
    cases heq rfl
    refine foldlM_append_ok.2 ⟨d, hbefore, foldlM_append_ok.2 ⟨_, hrunBetween', ?_⟩⟩
    exact foldlM_cons_ok.2 ⟨_, apply_assignment_ok.2 ⟨s, c₂, hfind', hassign'', rfl⟩, hafter⟩

/-- Any number of changes of layout, made or undone. -/
def SameUpToLayout (text text' : String) : Prop :=
  Relation.EqvGen Relaid (rawLines text) (rawLines text')

/-- Every line may be changed. -/
theorem sameUpToLayout_of_forall₂
    (h : List.Forall₂ Line.Relaid (rawLines text) (rawLines text')) :
    SameUpToLayout text text' := by
  suffices hall : ∀ {rows rows' : List (List Char)}, List.Forall₂ Line.Relaid rows rows' →
      ∀ before, Relation.EqvGen Relaid (before ++ rows) (before ++ rows') from hall h []
  intro rows rows' h
  -- the lines in front have been changed already
  induction h with
  | nil => exact fun before => .refl _
  | @cons raw raw' rest rest' hraw _ ih =>
    intro before
    have hstep := Relation.EqvGen.rel _ _ (Relaid.line before hraw rest)
    have hrest := ih (before ++ [raw'])
    rw [List.append_assoc, List.append_assoc] at hrest
    exact hstep.trans _ _ _ hrest

theorem finish_eq_of_eqvGen {rows rows' : List (List Char)}
    (h : Relation.EqvGen Relaid rows rows') :
    ({} : Draft).finish (rows.map Line.read) = ({} : Draft).finish (rows'.map Line.read) := by
  induction h with
  | rel _ _ h => exact h.finish_eq
  | refl => rfl
  | symm _ _ _ ih => exact ih.symm
  | trans _ _ _ _ _ ih ih' => exact ih.trans ih'

theorem SameUpToLayout.read_eq (h : SameUpToLayout text text') : read text' = read text := by
  rw [Config.read_eq, Config.read_eq, finish_eq_of_eqvGen h]

theorem read_of_finish (h : read text = .ok c)
    (hfinish : ({} : Draft).finish (lines text.toList) = .ok c →
      ({} : Draft).finish (lines text'.toList) = .ok c) : read text' = .ok c := by
  have hsame := (hfinish (finish_of_read h)).trans (finish_of_read h).symm
  rw [← h, read_eq, read_eq]
  exact congrArg (· >>= _) hsame

/-- **Layout does not matter.** Any text is read like every other that differs from it in blanks,
comments and idle lines only, with the same configuration or the same error. A text that is accepted
is also read like one in which neighbouring assignments of different keys have changed places, and
like one without an assignment that a later one makes up for. -/
theorem layout_does_not_matter (text text' : String) :
    (SameUpToLayout text text' → read text' = read text) ∧
    ∀ c, read text = .ok c →
      (Exchanged (lines text.toList) (lines text'.toList) → read text' = .ok c) ∧
      (Spared (lines text.toList) (lines text'.toList) → read text' = .ok c) :=
  ⟨SameUpToLayout.read_eq, fun _ hread =>
    ⟨fun h => read_of_finish hread h.finish, fun h => read_of_finish hread h.finish⟩⟩

/-- Two settings, of which one is set twice; the same with every line changed, and with a comment on
a line of its own; with the first two assignments exchanged; and without the one that is made up
for. -/
theorem layout_does_not_matter_for_anomalies :
    let plain := "[anomaly]\nk=5\nbaseline_window=2\nk=7"
    let changed := "[ anomaly ]\nk = 5\n baseline_window=2\r\nk=7# last"
    let commented := "[ anomaly ]\n #\nk = 5\n baseline_window=2\r\nk=7# last"
    let exchanged := "[anomaly]\nbaseline_window=2\nk=5\nk=7"
    let spared := "[anomaly]\nbaseline_window=2\nk=7"
    let c : Config := { anomaly := { multiplier := 7, baselineWindow := 2 } }
    read plain = .ok c ∧
      SameUpToLayout plain changed ∧ SameUpToLayout plain commented ∧ read commented = .ok c ∧
      Exchanged (lines plain.toList) (lines exchanged.toList) ∧ read exchanged = .ok c ∧
      Spared (lines plain.toList) (lines spared.toList) ∧ read spared = .ok c := by
  intro plain changed commented exchanged spared c
  have hplain : read plain = .ok c := by decide +kernel
  have hspace : Padding [' '] := padding_singleton (by decide) (by decide)
  have hreturn : Padding ['\r'] := padding_singleton (by decide) (by decide)
  have hchanged : SameUpToLayout plain changed := by
    refine sameUpToLayout_of_forall₂ ?_
    have hplain : rawLines plain = [[] ++ '[' :: "anomaly".toList ++ ']' :: [] ++ [],
      ['k'] ++ '=' :: ['5'], "baseline_window=2".toList, "k=7".toList] := by decide +kernel
    have hchanged : rawLines changed =
      [[] ++ '[' :: ([' '] ++ "anomaly".toList ++ [' ']) ++ ']' :: [] ++ [],
        ['k'] ++ [' '] ++ '=' :: ([' '] ++ ['5']), [' '] ++ "baseline_window=2".toList ++ ['\r'],
        "k=7".toList ++ "# last".toList] := by decide +kernel
    rw [hplain, hchanged]
    refine .cons ?_ (.cons ?_ (.cons ?_ (.cons ?_ .nil)))
    · exact .brackets padding_nil (by decide) padding_nil (.inl rfl) hspace hspace
    · exact .sign (by decide) hspace hspace _
    · exact .ends hspace hreturn _
    · exact .commented (.inr ⟨" last".toList, rfl, by decide⟩) _
  have hcommented : SameUpToLayout plain commented := by
    have hrows : rawLines changed = ["[ anomaly ]".toList] ++ (rawLines changed).tail := by
      decide +kernel
    have hrows' : rawLines commented =
        ["[ anomaly ]".toList] ++ ([' '] ++ ['#']) :: (rawLines changed).tail := by
      decide +kernel
    refine hchanged.trans _ _ _ (.rel _ _ ?_)
    rw [hrows, hrows']
    exact .idle _ hspace (.inr ⟨[], rfl, by decide⟩) _
  let top := Line.header "anomaly".toList
  let first := Line.assignment ['k'] ['5']
  let second := Line.assignment "baseline_window".toList ['2']
  let third := Line.assignment ['k'] ['7']
  have hlines : lines plain.toList = [top, first, second, third] := by decide +kernel
  have hexchanged : Exchanged (lines plain.toList) (lines exchanged.toList) := by
    have hlines' : lines exchanged.toList = [top, second, first, third] := by decide +kernel
    rw [hlines, hlines']
    exact .intro (by decide) _ _ [top] [] (by simp) rfl [third]
  have hspared : Spared (lines plain.toList) (lines spared.toList) := by
    have hlines' : lines spared.toList = [top, second, third] := by decide +kernel
    rw [hlines, hlines']
    exact .intro _ _ _ [top] [second] rfl []
  exact ⟨hplain, hchanged, hcommented,
    ((layout_does_not_matter plain commented).1 hcommented).trans hplain,
    hexchanged, ((layout_does_not_matter plain exchanged).2 c hplain).1 hexchanged,
    hspared, ((layout_does_not_matter plain spared).2 c hplain).2 hspared⟩

end Config

end DriverTelemetry
