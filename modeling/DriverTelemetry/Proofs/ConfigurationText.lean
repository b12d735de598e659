import DriverTelemetry.Config.Reader
import Mathlib

/-!
# Configurations as text

`Setting.Spells` says which texts are a value of a setting, `Config.Renders` which lines of text
say what a configuration has for a setting, or where a section begins, and `Config.Writes` which
texts write a whole configuration: every setting stands under the header of its section, in any
order and with blanks and comments as one likes. Reading such a text assigns each setting its value
and leaves the others as they are, so that it ends with the configuration that was written.
-/

namespace DriverTelemetry

namespace Text

/-- Blanks that do not end a line. -/
def Padding (cs : List Char) : Prop := ∀ ch ∈ cs, isBlank ch = true ∧ ch ≠ '\n'

/-- Text that nothing is trimmed off or cut out of: a key, a value, the name of a section. -/
def Token (cs : List Char) : Prop :=
  ∀ ch ∈ cs, isBlank ch = false ∧ ch ≠ '#' ∧ ch ≠ '=' ∧ ch ≠ '['

/-- The end of a line: nothing, or a comment. -/
def Comment (cs : List Char) : Prop := cs = [] ∨ ∃ rest, cs = '#' :: rest ∧ '\n' ∉ rest

/-- The characters of keys, values and names. -/
def isPlain (ch : Char) : Bool := ch.isLower || ch.isDigit || ch == '_' || ch == '|'

variable {l r t cs : List Char}

theorem token_of_isPlain (h : cs.all isPlain = true) : Token cs := by
  intro ch hch
  have hplain := List.all_eq_true.1 h ch hch
  simp only [isPlain, Char.isLower, Char.isDigit, Bool.or_eq_true, Bool.and_eq_true,
    decide_eq_true_eq, beq_iff_eq, ge_iff_le, UInt32.le_iff_toNat_le] at hplain
  obtain ((⟨hlow, hhigh⟩ | ⟨hlow, hhigh⟩) | rfl) | rfl := hplain
  · have hlow : 97 ≤ ch.toNat := hlow
    have hhigh : ch.toNat ≤ 122 := hhigh
    refine ⟨?_, ?_, ?_, ?_⟩
    · simp only [isBlank, blankRanges, List.any_cons, List.any_nil, Bool.or_false,
        Bool.or_eq_false_iff, decide_eq_false_iff_not]
      omega
    all_goals
      rintro rfl
      exact absurd hlow (by decide)
  · have hlow : 48 ≤ ch.toNat := hlow
    have hhigh : ch.toNat ≤ 57 := hhigh
    refine ⟨?_, ?_, ?_, ?_⟩
    · simp only [isBlank, blankRanges, List.any_cons, List.any_nil, Bool.or_false,
        Bool.or_eq_false_iff, decide_eq_false_iff_not]
      omega
    · rintro rfl
      exact absurd hlow (by decide)
    all_goals
      rintro rfl
      exact absurd hhigh (by decide)
  · decide
  · decide

section Trim

theorem trimStart_append_cons {c : Char} (hc : isBlank c = false) (a b : List Char) :
    trimStart (a ++ c :: b) = trimStart a ++ c :: b := by
  unfold trimStart
  induction a with
  | nil => simp [hc]
  | cons d rest ih =>
    by_cases hd : isBlank d = true
    · simpa only [List.cons_append, List.dropWhile_cons, if_pos hd] using ih
    · simp only [List.cons_append, List.dropWhile_cons, if_neg hd]

theorem trimEnd_append_cons {c : Char} (hc : isBlank c = false) (a b : List Char) :
    trimEnd (a ++ c :: b) = a ++ c :: trimEnd b := by
  have h := trimStart_append_cons hc b.reverse a.reverse
  unfold trimStart at h
  unfold trimEnd
  simp only [List.reverse_append, List.reverse_cons, List.append_assoc, List.singleton_append, h,
    List.reverse_reverse]

theorem trimStart_padding (hl : Padding l) : trimStart l = [] :=
  List.dropWhile_eq_nil_iff.2 fun ch hch => (hl ch hch).1

theorem trimEnd_padding (hr : Padding r) : trimEnd r = [] := by
  unfold trimEnd
  rw [List.reverse_eq_nil_iff, List.dropWhile_eq_nil_iff]
  exact fun ch hch => (hr ch (List.mem_reverse.1 hch)).1

theorem padding_nil : Padding [] := fun _ h => absurd h List.not_mem_nil

theorem Padding.append (hl : Padding l) (hr : Padding r) : Padding (l ++ r) :=
  fun ch hch => (List.mem_append.1 hch).elim (hl ch) (hr ch)

theorem trimStart_padded (hl : Padding l) (ht : Token t) (hne : t ≠ []) (cs : List Char) :
    trimStart (l ++ t ++ cs) = t ++ cs := by
  obtain ⟨c, rest, rfl⟩ := List.exists_cons_of_ne_nil hne
  have hc := (ht c List.mem_cons_self).1
  rw [List.append_assoc, List.cons_append, trimStart_append_cons hc, trimStart_padding hl]
  rfl

theorem trimEnd_padded (ht : Token t) (hne : t ≠ []) (hr : Padding r) (cs : List Char) :
    trimEnd (cs ++ t ++ r) = cs ++ t := by
  obtain ⟨front, c, rfl⟩ : ∃ front c, t = front ++ [c] :=
    ⟨t.dropLast, t.getLast hne, (List.dropLast_concat_getLast hne).symm⟩
  have hc := (ht c (by simp)).1
  have hsplit : cs ++ (front ++ [c]) ++ r = (cs ++ front) ++ c :: r := by simp
  rw [hsplit, trimEnd_append_cons hc, trimEnd_padding hr]
  simp

theorem trim_padded (hl : Padding l) (ht : Token t) (hr : Padding r) : trim (l ++ t ++ r) = t := by
  unfold trim
  by_cases hne : t = []
  · subst hne
    rw [List.append_nil, trimStart_padding (hl.append hr)]
    rfl
  · rw [trimStart_padded hl ht hne]
    exact trimEnd_padded ht hne hr []

end Trim

section Characters

theorem Padding.not_mem (hl : Padding l) {c : Char} (hc : isBlank c = false) : c ∉ l := by
  intro hmem
  rw [(hl c hmem).1] at hc
  cases hc

theorem Padding.newline_not_mem (hl : Padding l) : '\n' ∉ l := fun hmem => (hl _ hmem).2 rfl

theorem Token.newline_not_mem (ht : Token t) : '\n' ∉ t := by
  intro hmem
  have hblank := (ht _ hmem).1
  revert hblank
  decide

theorem Token.hash_not_mem (ht : Token t) : '#' ∉ t := fun hmem => (ht _ hmem).2.1 rfl

theorem Comment.newline_not_mem (hc : Comment cs) : '\n' ∉ cs := by
  obtain rfl | ⟨rest, rfl, hrest⟩ := hc
  · simp
  · simpa using hrest

theorem takeWhile_comment (hl : '#' ∉ l) (hc : Comment cs) :
    (l ++ cs).takeWhile (· != '#') = l := by
  have hkept : ∀ ch ∈ l, (ch != '#') = true := by
    intro ch hch
    simp only [bne_iff_ne, ne_eq]
    rintro rfl
    exact hl hch
  rw [List.takeWhile_append_of_pos hkept]
  obtain rfl | ⟨rest, rfl, -⟩ := hc
  · simp
  · simp

end Characters

end Text

namespace Config

open Text

namespace Line

variable {pad pad₁ pad₂ pad₃ t value tail : List Char}

theorem splitAt?_append {c : Char} {before : List Char} (h : c ∉ before) (after : List Char) :
    splitAt? c (before ++ c :: after) = some (before, after) := by
  induction before with
  | nil => simp [splitAt?]
  | cons d rest ih =>
    obtain ⟨hne, hrest⟩ := not_or.1 (fun hmem => h (List.mem_cons.2 hmem))
    simp only [List.cons_append, splitAt?, if_neg (Ne.symm hne), ih hrest, Option.map_some]

theorem read_of_bracketed {raw line name : List Char}
    (hline : trim (raw.takeWhile (· != '#')) = line) (hne : line ≠ [])
    (hname : bracketed? line = some name) : read raw = header (trim name) := by
  have hnonempty : line.isEmpty = false := by simpa using hne
  simp only [read, hline, hnonempty, hname, Bool.false_eq_true, if_false]

theorem read_of_split {raw line key value : List Char}
    (hline : trim (raw.takeWhile (· != '#')) = line) (hne : line ≠ [])
    (hplain : bracketed? line = none) (hsplit : splitAt? '=' line = some (key, value)) :
    read raw = assignment (trim key) (trim value) := by
  have hnonempty : line.isEmpty = false := by simpa using hne
  simp only [read, hline, hnonempty, hplain, hsplit, Bool.false_eq_true, if_false]

theorem read_blank (hpad : Padding pad) (htail : Comment tail) : read (pad ++ tail) = blank := by
  have hline : trim pad = [] := by
    have h := trim_padded (t := []) hpad (fun _ h => absurd h List.not_mem_nil) padding_nil
    simpa using h
  unfold read
  rw [takeWhile_comment (hpad.not_mem (by decide)) htail, hline]
  rfl

theorem read_brackets {name : List Char} (hpad : Padding pad) (hname : '#' ∉ name)
    (hpad₃ : Padding pad₃) (htail : Comment tail) :
    read (pad ++ '[' :: name ++ ']' :: pad₃ ++ tail) = header (trim name) := by
  have hhash : '#' ∉ pad ++ '[' :: name ++ ']' :: pad₃ := by
    have hblank : isBlank '#' = false := by decide
    simp [hpad.not_mem hblank, hpad₃.not_mem hblank, hname]
  have hline : trim (pad ++ '[' :: name ++ ']' :: pad₃) = '[' :: name ++ [']'] := by
    unfold trim
    rw [List.append_assoc, List.cons_append, trimStart_append_cons (by decide),
      trimStart_padding hpad, List.nil_append, ← List.cons_append,
      trimEnd_append_cons (by decide), trimEnd_padding hpad₃]
  have hbracketed : bracketed? ('[' :: name ++ [']']) = some name := by simp [bracketed?]
  rw [← takeWhile_comment hhash htail] at hline
  exact read_of_bracketed hline (by simp) hbracketed

theorem read_header (hpad : Padding pad) (hpad₁ : Padding pad₁) (ht : Token t)
    (hpad₂ : Padding pad₂) (hpad₃ : Padding pad₃) (htail : Comment tail) :
    read (pad ++ '[' :: (pad₁ ++ t ++ pad₂) ++ ']' :: pad₃ ++ tail) = header t := by
  have hhash : '#' ∉ pad₁ ++ t ++ pad₂ := by
    have hblank : isBlank '#' = false := by decide
    simp [hpad₁.not_mem hblank, hpad₂.not_mem hblank, ht.hash_not_mem]
  rw [read_brackets hpad hhash hpad₃ htail, trim_padded hpad₁ ht hpad₂]

/-- The value of an assignment may be empty, and then there is nothing behind the sign. -/
theorem trim_trimEnd_padded (hpad₂ : Padding pad₂) (hvalue : Token value) (hpad₃ : Padding pad₃) :
    trim (trimEnd (pad₂ ++ value ++ pad₃)) = value := by
  by_cases hne : value = []
  · subst hne
    rw [List.append_nil, trimEnd_padding (hpad₂.append hpad₃)]
    rfl
  · rw [trimEnd_padded hvalue hne hpad₃]
    have h := trim_padded hpad₂ hvalue padding_nil
    rwa [List.append_nil] at h

theorem read_assignment (hpad : Padding pad) (ht : Token t) (hne : t ≠ []) (hpad₁ : Padding pad₁)
    (hpad₂ : Padding pad₂) (hvalue : Token value) (hpad₃ : Padding pad₃) (htail : Comment tail) :
    read (pad ++ t ++ pad₁ ++ '=' :: (pad₂ ++ value ++ pad₃) ++ tail) = assignment t value := by
  have hhash : '#' ∉ pad ++ t ++ pad₁ ++ '=' :: (pad₂ ++ value ++ pad₃) := by
    have hblank : isBlank '#' = false := by decide
    simp [hpad.not_mem hblank, hpad₁.not_mem hblank, hpad₂.not_mem hblank, hpad₃.not_mem hblank,
      ht.hash_not_mem, hvalue.hash_not_mem]
  have hline : trim (pad ++ t ++ pad₁ ++ '=' :: (pad₂ ++ value ++ pad₃)) =
      (t ++ pad₁) ++ '=' :: trimEnd (pad₂ ++ value ++ pad₃) := by
    unfold trim
    rw [trimStart_append_cons (by decide), trimStart_padded hpad ht hne,
      trimEnd_append_cons (by decide)]
  have hsign : '=' ∉ t ++ pad₁ := by
    have hkey : '=' ∉ t := fun hmem => (ht _ hmem).2.2.1 rfl
    simp [hkey, hpad₁.not_mem (c := '=') (by decide)]
  have hkey : trim (t ++ pad₁) = t := trim_padded padding_nil ht hpad₁
  have hbracketed (cs : List Char) : bracketed? (t ++ cs) = none := by
    obtain ⟨c, rest, rfl⟩ := List.exists_cons_of_ne_nil hne
    have hc := (ht c List.mem_cons_self).2.2.2
    simp [bracketed?, hc]
  have hplain := hbracketed (pad₁ ++ '=' :: trimEnd (pad₂ ++ value ++ pad₃))
  rw [← List.append_assoc] at hplain
  rw [← takeWhile_comment hhash htail] at hline
  rw [read_of_split hline (by simp) hplain (splitAt?_append hsign _), hkey,
    trim_trimEnd_padded hpad₂ hvalue hpad₃]

end Line

end Config

/-- A decimal numeral of a number; it may have leading zeros. -/
structure Numeral.Decimal (n : Nat) (digits : List Char) : Prop where
  ne_nil : digits ≠ []
  isDigit : ∀ ch ∈ digits, ch.isDigit = true
  value_eq : Nat.ofDigitChars 10 digits 0 = n

namespace Numeral

variable {n largest : Nat} {digits : List Char}

theorem decimal_toDigits (n : Nat) : Decimal n (Nat.toDigits 10 n) where
  ne_nil := Nat.toDigits_ne_nil
  isDigit _ h := Nat.isDigit_of_mem_toDigits (by decide) (by decide) h
  value_eq := Nat.ofDigitChars_toDigits (by decide) (by decide)

theorem Decimal.read? (h : Decimal n digits) (hle : n ≤ largest) :
    Numeral.read? largest digits = some n := by
  have hall : digits.all Char.isDigit = true := List.all_eq_true.2 h.isDigit
  have hvalue : value digits = n := h.value_eq
  obtain ⟨d, rest, rfl⟩ := List.exists_cons_of_ne_nil h.ne_nil
  -- the reader takes a sign off, but the first digit is none
  have hplus : d ≠ '+' := by
    rintro rfl
    have hdigit := h.isDigit '+' List.mem_cons_self
    revert hdigit
    decide
  unfold Numeral.read?
  split
  · rename_i heq
    cases heq
    exact absurd rfl hplus
  · simp only [List.isEmpty_cons, Bool.not_false, hall, hvalue, hle, decide_true, Bool.and_self,
      if_true]

theorem Decimal.token (h : Decimal n digits) : Text.Token digits := by
  refine Text.token_of_isPlain (List.all_eq_true.2 fun ch hch => ?_)
  simp [Text.isPlain, h.isDigit ch hch]

end Numeral

namespace Setting

open Text

/-- The texts that are a value of a setting. -/
inductive Spells : List Char → SettingValue → Prop
  | word (on : Bool) : Spells (if on then "true" else "false").toList (.flag on)
  | bit (on : Bool) : Spells (if on then "1" else "0").toList (.flag on)
  | count {n : Nat} {digits : List Char} (h : Numeral.Decimal n digits) : Spells digits (.count n)
  | names {set : Collectors} {l : List String} (h : ∀ name, name ∈ l ↔ name ∈ set.names) :
      Spells (['|'].intercalate (l.map (·.toList))) (.collectors set)
  | all : Spells "all".toList (.collectors .all)
  | none : Spells "none".toList (.collectors .none)

variable {text : List Char} {set : Collectors}

theorem readFlag?_of_spells {on : Bool} (h : Spells text (.flag on)) :
    readFlag? text = some on := by
  cases h <;> cases on <;> rfl

theorem readCount?_of_spells {n : UInt32} (h : Spells text (.count n.toNat)) :
    readCount? text = some n := by
  have hle : n.toNat ≤ Word.largestHalf := by
    have hlt := n.toNat_lt
    unfold Word.largestHalf
    omega
  cases h with
  | count hdigits => simp [readCount?, hdigits.read? hle]

theorem readLongCount?_of_spells {n : UInt64} (h : Spells text (.count n.toNat)) :
    readLongCount? text = some n := by
  have hle : n.toNat ≤ Word.largest := by
    have hlt := n.toNat_lt
    unfold Word.largest
    omega
  cases h with
  | count hdigits => simp [readLongCount?, hdigits.read? hle]

/-- The collectors of a list of names. -/
def named (l : List String) : Collectors where
  performance := decide ("performance" ∈ l)
  health := decide ("health" ∈ l)
  analytics := decide ("analytics" ∈ l)

theorem named_of_mem_iff {l : List String} (h : ∀ name, name ∈ l ↔ name ∈ set.names) :
    named l = set := by
  obtain ⟨performance, health, analytics⟩ := set
  simp only [named, h, Collectors.names]
  cases performance <;> cases health <;> cases analytics <;> rfl

theorem mem_names {name : String} (h : name ∈ set.names) :
    name = "performance" ∨ name = "health" ∨ name = "analytics" := by
  have hname (on : Bool) (x : String) (hmem : name ∈ if on then [x] else []) : name = x := by
    cases on with
    | true => simpa using hmem
    | false => simp at hmem
  simp only [Collectors.names, List.mem_append] at h
  rcases h with (h | h) | h
  · exact .inl (hname _ _ h)
  · exact .inr (.inl (hname _ _ h))
  · exact .inr (.inr (hname _ _ h))

theorem union_named_cons (set : Collectors) (x : String) (l : List String) :
    (set.union (named [x])).union (named l) = set.union (named (x :: l)) := by
  simp [Collectors.union, named, Bool.or_assoc]

section Names

variable {l : List String}
  (hl : ∀ name ∈ l, name = "performance" ∨ name = "health" ∨ name = "analytics")

include hl

theorem foldlM_names (acc : Collectors) :
    (l.map (·.toList)).foldlM (fun set name => (readCollector? name).map set.union) acc =
      some (acc.union (named l)) := by
  induction l generalizing acc with
  | nil => simp [Collectors.union, named]
  | cons x rest ih =>
    have hread : readCollector? x.toList = some (named [x]) := by
      obtain rfl | rfl | rfl := hl x List.mem_cons_self <;> rfl
    have hrest := ih (fun name hname => hl name (List.mem_cons_of_mem x hname))
      (acc.union (named [x]))
    rw [union_named_cons] at hrest
    simpa [hread] using hrest

/-- The names between the bars, none of them blank. -/
theorem parts_intercalate :
    ((((['|'].intercalate (l.map (·.toList))).splitOn '|').map trim).filter (!·.isEmpty)) =
      l.map (·.toList) := by
  have hpart : ∀ cs ∈ l.map (·.toList), '|' ∉ cs ∧ trim cs = cs ∧ cs.isEmpty = false := by
    intro cs hcs
    obtain ⟨name, hname, rfl⟩ := List.mem_map.1 hcs
    obtain rfl | rfl | rfl := hl name hname <;> decide
  by_cases hnil : l = []
  · subst hnil
    rfl
  · rw [List.splitOn_intercalate _ (fun cs hcs => (hpart cs hcs).1) (by simpa using hnil)]
    rw [List.map_congr_left (g := id) fun cs hcs => (hpart cs hcs).2.1, List.map_id]
    exact List.filter_eq_self.2 fun cs hcs => by simp [(hpart cs hcs).2.2]

theorem all_isPlain_intercalate :
    (['|'].intercalate (l.map (·.toList))).all isPlain = true := by
  have hplain : ∀ name ∈ l, name.toList.all isPlain = true := by
    intro name hname
    obtain rfl | rfl | rfl := hl name hname <;> rfl
  clear hl
  induction l with
  | nil => rfl
  | cons x rest ih =>
    have hx := hplain x List.mem_cons_self
    have hrest := ih fun name hname => hplain name (List.mem_cons_of_mem x hname)
    cases rest with
    | nil => simpa using hx
    | cons y more =>
      rw [List.map_cons, List.map_cons, List.intercalate_cons_cons, List.all_append,
        List.all_append, hx, ← List.map_cons (f := String.toList), hrest]
      rfl

end Names

theorem readCollectors?_of_spells (h : Spells text (.collectors set)) :
    readCollectors? text = some set := by
  cases h with
  | all | none => decide
  | names hnames =>
    have hl := fun name hname => mem_names ((hnames name).1 hname)
    unfold readCollectors?
    rw [parts_intercalate hl, foldlM_names hl, named_of_mem_iff hnames]
    simp [Collectors.union, Collectors.none]

theorem token_of_spells {value : SettingValue} (h : Spells text value) : Token text := by
  cases h with
  | word on | bit on => cases on <;> exact token_of_isPlain rfl
  | count hdigits => exact hdigits.token
  | names hnames =>
    exact token_of_isPlain
      (all_isPlain_intercalate fun name hname => mem_names ((hnames name).1 hname))
  | all | none => exact token_of_isPlain rfl

/-- Every value has a text. -/
theorem exists_spells (value : SettingValue) : ∃ text, Spells text value := by
  cases value with
  | flag on => exact ⟨_, .word on⟩
  | count n => exact ⟨_, .count (Numeral.decimal_toDigits n)⟩
  | collectors set => exact ⟨_, .names fun _ => Iff.rfl⟩

theorem token_key (s : Setting) : Token s.key.toList := by
  cases s <;> exact token_of_isPlain rfl

/-- A text that assigns a setting a value, and no other setting anything. -/
def Sets (s : Setting) (text : List Char) (x : SettingValue) : Prop :=
  ∀ c : Config, ∃ c', s.assign? text c = some c' ∧
    ∀ other : Setting, other.value c' = if other = s then x else other.value c

/-- A text is a value of a setting or not, whatever configuration it is assigned in. -/
theorem sets_of_assign? {s : Setting} {c c' : Config} (h : s.assign? text c = some c') :
    s.Sets text (s.value c') := by
  cases s with
  | _ =>
    obtain ⟨x, hread, rfl⟩ := Option.map_eq_some_iff.1 h
    refine fun d => ⟨_, congrArg (Option.map _) hread, fun other => ?_⟩
    cases other <;> rfl

theorem sets_of_spells (s : Setting) {c : Config} (h : Spells text (s.value c)) :
    s.Sets text (s.value c) := by
  suffices hassign : ∃ c', s.assign? text c = some c' ∧ s.value c' = s.value c by
    obtain ⟨c', hassign, hvalue⟩ := hassign
    rw [← hvalue]
    exact sets_of_assign? hassign
  cases s with
  | enabled | realTimeMonitoring | anomalyDetection | predictiveAnalytics | autoRecovery
  | adaptive => exact ⟨_, congrArg (Option.map _) (readFlag?_of_spells h), rfl⟩
  | leakThresholdMs => exact ⟨_, congrArg (Option.map _) (readLongCount?_of_spells h), rfl⟩
  | collectors => exact ⟨_, congrArg (Option.map _) (readCollectors?_of_spells h), rfl⟩
  | _ => exact ⟨_, congrArg (Option.map _) (readCount?_of_spells h), rfl⟩

/-- A configuration is known by what it has for the settings. -/
theorem config_ext {a b : Config} (h : ∀ s : Setting, s.value a = s.value b) : a = b := by
  have hall : ∀ s ∈ Setting.all, s.value a = s.value b := fun s _ => h s
  obtain ⟨_, _, _, _, _, ⟨⟩, ⟨⟩, ⟨⟩⟩ := a
  obtain ⟨_, _, _, _, _, ⟨⟩, ⟨⟩, ⟨⟩⟩ := b
  simp only [all, List.forall_mem_cons, value, SettingValue.flag.injEq, SettingValue.count.injEq,
    SettingValue.collectors.injEq, UInt32.toNat_inj, UInt64.toNat_inj] at hall
  simp only [hall]

end Setting

namespace Config

open Text

/-- What a line of a written configuration is for. -/
inductive Item where
  | idle
  | header (name : String)
  | entry (s : Setting)
  deriving DecidableEq

def sectionNames : List String := ["sampling", "alerts", "anomaly"]

/-- The lines of text that serve for an item: blanks and a comment may stand around what it says. -/
inductive Renders (c : Config) : Item → List Char → Prop
  | idle {pad tail : List Char} (hpad : Padding pad) (htail : Comment tail) :
      Renders c .idle (pad ++ tail)
  | header {name : String} (hname : name ∈ sectionNames) {pad pad₁ pad₂ pad₃ tail : List Char}
      (hpad : Padding pad) (hpad₁ : Padding pad₁) (hpad₂ : Padding pad₂) (hpad₃ : Padding pad₃)
      (htail : Comment tail) :
      Renders c (.header name) (pad ++ '[' :: (pad₁ ++ name.toList ++ pad₂) ++ ']' :: pad₃ ++ tail)
  | entry {s : Setting} {text : List Char} (htext : Setting.Spells text (s.value c))
      {pad pad₁ pad₂ pad₃ tail : List Char} (hpad : Padding pad) (hpad₁ : Padding pad₁)
      (hpad₂ : Padding pad₂) (hpad₃ : Padding pad₃) (htail : Comment tail) :
      Renders c (.entry s)
        (pad ++ s.key.toList ++ pad₁ ++ '=' :: (pad₂ ++ text ++ pad₃) ++ tail)

/-- Items of which each entry stands under the header of its section, and those of the top level
under none. -/
def Placed : String → List Item → Prop
  | _, [] => True
  | current, .idle :: rest => Placed current rest
  | _, .header name :: rest => Placed name rest
  | current, .entry s :: rest => s.sectionName = current ∧ Placed current rest

/-- Items of which the text of a whole configuration can be made. -/
structure Complete (items : List Item) : Prop where
  placed : Placed "" items
  entry : ∀ s, .entry s ∈ items
  header : ∀ name, .header name ∈ items → name ∈ sectionNames

/-- A text that has a line for each of some items. -/
def Writes (c : Config) (items : List Item) (text : String) : Prop :=
  ∃ lines, List.Forall₂ (Renders c) items lines ∧ text = String.ofList (['\n'].intercalate lines)

/-- What reading makes of the line for an item. -/
def Item.Says (c : Config) : Item → Line → Prop
  | .idle, line => line = .blank
  | .header name, line => line = .header name.toList
  | .entry s, line =>
    ∃ text, Setting.Spells text (s.value c) ∧ line = .assignment s.key.toList text

variable {c : Config} {item : Item} {items : List Item} {line : List Char}
  {lines : List (List Char)}

theorem token_of_mem_sectionNames {name : String} (h : name ∈ sectionNames) :
    Token name.toList := by
  simp only [sectionNames, List.mem_cons, List.not_mem_nil, or_false] at h
  obtain rfl | rfl | rfl := h <;> exact token_of_isPlain rfl

theorem Renders.says (h : Renders c item line) : item.Says c (Line.read line) := by
  cases h with
  | idle hpad htail => exact Line.read_blank hpad htail
  | header hname hpad hpad₁ hpad₂ hpad₃ htail =>
    exact Line.read_header hpad hpad₁ (token_of_mem_sectionNames hname) hpad₂ hpad₃ htail
  | @entry s text htext _ _ _ _ _ hpad hpad₁ hpad₂ hpad₃ htail =>
    have hkey : s.key.toList ≠ [] := by cases s <;> decide
    exact ⟨text, htext, Line.read_assignment hpad s.token_key hkey hpad₁ hpad₂
      (Setting.token_of_spells htext) hpad₃ htail⟩

theorem Renders.newline_not_mem (h : Renders c item line) : '\n' ∉ line := by
  cases h with
  | idle hpad htail => simp [hpad.newline_not_mem, htail.newline_not_mem]
  | header hname hpad hpad₁ hpad₂ hpad₃ htail =>
    simp [hpad.newline_not_mem, hpad₁.newline_not_mem, hpad₂.newline_not_mem,
      hpad₃.newline_not_mem, htail.newline_not_mem,
      (token_of_mem_sectionNames hname).newline_not_mem]
  | @entry s _ htext _ _ _ _ _ hpad hpad₁ hpad₂ hpad₃ htail =>
    simp [hpad.newline_not_mem, hpad₁.newline_not_mem, hpad₂.newline_not_mem,
      hpad₃.newline_not_mem, htail.newline_not_mem, s.token_key.newline_not_mem,
      (Setting.token_of_spells htext).newline_not_mem]

theorem newline_not_mem_lines (h : List.Forall₂ (Renders c) items lines) :
    ∀ line ∈ lines, '\n' ∉ line := by
  induction h with
  | nil => simp
  | cons hfirst _ ih =>
    intro line hmem
    obtain rfl | hmem := List.mem_cons.1 hmem
    · exact hfirst.newline_not_mem
    · exact ih line hmem

theorem lines_intercalate (h : List.Forall₂ (Renders c) items lines) (hne : items ≠ []) :
    Config.lines (['\n'].intercalate lines) = lines.map Line.read := by
  have hlines : lines ≠ [] := by
    rintro rfl
    cases h
    exact hne rfl
  unfold Config.lines
  rw [List.splitOn_intercalate _ (newline_not_mem_lines h) hlines]

/-- What a line does to a draft: it goes on where the next items belong, with the setting of its
entry, if it is for one, and with all those that had been right before. -/
theorem apply_of_says {d : Draft} {current : String} {line : Line}
    (hsection : d.sectionName = current.toList) (hplaced : Placed current (item :: items))
    (hline : item.Says c line) :
    ∃ d' next, d.apply line = .ok d' ∧ d'.sectionName = String.toList next ∧ Placed next items ∧
      ∀ s, item = .entry s ∨ s.value d.config = s.value c → s.value d'.config = s.value c := by
  cases item with
  | idle =>
    cases hline
    exact ⟨d, current, rfl, hsection, hplaced, fun s h => h.resolve_left (by simp)⟩
  | header name =>
    cases hline
    exact ⟨{ d with sectionName := name.toList }, name, rfl, rfl, hplaced,
      fun s h => h.resolve_left (by simp)⟩
  | entry s =>
    obtain ⟨text, htext, rfl⟩ := hline
    obtain ⟨hcurrent, hrest⟩ := hplaced
    obtain ⟨config, hassign, hvalues⟩ := s.sets_of_spells htext d.config
    have hfound : Setting.find? d.sectionName s.key.toList = some s := by
      rw [hsection, ← hcurrent]
      exact s.find?_key
    refine ⟨{ d with config }, current, ?_, hsection, hrest, fun other h => ?_⟩
    · simp only [Draft.apply, hfound, hassign]
    · change other.value config = _
      rw [hvalues]
      split
      · rename_i heq
        rw [heq]
      · rename_i hne
        exact h.resolve_left fun hentry => hne (Item.entry.inj hentry).symm

theorem foldlM_apply {d : Draft} {current : String} (hsection : d.sectionName = current.toList)
    (hplaced : Placed current items) (h : List.Forall₂ (Renders c) items lines) :
    ∃ d', (lines.map Line.read).foldlM Draft.apply d = .ok d' ∧
      ∀ s, .entry s ∈ items ∨ s.value d.config = s.value c → s.value d'.config = s.value c := by
  -- a setting is right at the end if a line is still to come for it, or if it is right already
  induction h generalizing d current with
  | nil => exact ⟨d, rfl, fun s hs => hs.resolve_left List.not_mem_nil⟩
  | cons hfirst _ ih =>
    obtain ⟨d₁, next, happly, hsection₁, hplaced₁, hkept₁⟩ :=
      apply_of_says hsection hplaced hfirst.says
    obtain ⟨d', hfold, hkept⟩ := ih hsection₁ hplaced₁
    refine ⟨d', ?_, fun s hs => hkept s ?_⟩
    · rw [List.map_cons, List.foldlM_cons, happly]
      exact hfold
    · obtain hmem | hvalue := hs
      · obtain hentry | hmem := List.mem_cons.1 hmem
        · exact .inr (hkept₁ s (.inl hentry.symm))
        · exact .inl hmem
      · exact .inr (hkept₁ s (.inr hvalue))

theorem read_of_writes (hvalid : c.validate = .ok ()) (hitems : Complete items) {text : String}
    (h : Writes c items text) : read text = .ok c := by
  obtain ⟨lines, hlines, rfl⟩ := h
  have hne : items ≠ [] := List.ne_nil_of_mem (hitems.entry .enabled)
  have hsection : ({} : Draft).sectionName = "".toList := rfl
  obtain ⟨d, hfold, hvalues⟩ := foldlM_apply hsection hitems.placed hlines
  obtain rfl : d.config = c := Setting.config_ext fun s => hvalues s (.inl (hitems.entry s))
  unfold read
  rw [String.toList_ofList, lines_intercalate hlines hne, hfold]
  change (do d.config.validate; return d.config) = Except.ok d.config
  rw [hvalid]
  rfl

/-- There is a line for every item. -/
theorem exists_renders (c : Config) (hheader : ∀ name, item = .header name → name ∈ sectionNames) :
    ∃ line, Renders c item line := by
  have htail : Comment [] := .inl rfl
  cases item with
  | idle => exact ⟨_, .idle padding_nil htail⟩
  | header name =>
    exact ⟨_, .header (hheader name rfl) padding_nil padding_nil padding_nil padding_nil htail⟩
  | entry s =>
    obtain ⟨text, htext⟩ := Setting.exists_spells (s.value c)
    exact ⟨_, .entry htext padding_nil padding_nil padding_nil padding_nil htail⟩

theorem exists_writes (c : Config) (hheader : ∀ name, .header name ∈ items → name ∈ sectionNames) :
    ∃ text, Writes c items text := by
  obtain ⟨lines, hlines⟩ : ∃ lines, List.Forall₂ (Renders c) items lines := by
    induction items with
    | nil => exact ⟨[], .nil⟩
    | cons item rest ih =>
      obtain ⟨lines, hlines⟩ := ih fun name hmem => hheader name (List.mem_cons_of_mem item hmem)
      have hnamed : ∀ name, item = .header name → name ∈ sectionNames :=
        fun name heq => hheader name (heq ▸ List.mem_cons_self)
      obtain ⟨line, hline⟩ := exists_renders c hnamed
      exact ⟨line :: lines, .cons hline hlines⟩
  exact ⟨_, lines, hlines, rfl⟩

/-- The settings of a section. -/
def settingsOf (sectionName : String) : List Setting :=
  Setting.all.filter (·.sectionName == sectionName)

/-- Entries at the top level, and then sections with their entries. -/
def layout (top : List Setting) (sections : List (String × List Setting)) : List Item :=
  top.map .entry ++ sections.flatMap fun x => .header x.1 :: x.2.map .entry

theorem placed_append_entries {current : String} {settings : List Setting} {rest : List Item}
    (hsettings : ∀ s ∈ settings, s.sectionName = current) (hrest : Placed current rest) :
    Placed current (settings.map .entry ++ rest) := by
  induction settings with
  | nil => exact hrest
  | cons s more ih =>
    exact ⟨hsettings s List.mem_cons_self,
      ih fun s' hs' => hsettings s' (List.mem_cons_of_mem s hs')⟩

theorem placed_sections (current : String) {sections : List (String × List Setting)}
    (hsections : ∀ x ∈ sections, ∀ s ∈ x.2, s.sectionName = x.1) :
    Placed current (sections.flatMap fun x => .header x.1 :: x.2.map .entry) := by
  induction sections generalizing current with
  | nil => trivial
  | cons x more ih =>
    rw [List.flatMap_cons, List.cons_append]
    exact placed_append_entries (hsections x List.mem_cons_self)
      (ih x.1 fun y hy => hsections y (List.mem_cons_of_mem x hy))

theorem mem_settingsOf {s : Setting} {name : String} :
    s ∈ settingsOf name ↔ s.sectionName = name := by
  have hall : s ∈ Setting.all := by cases s <;> decide
  simp [settingsOf, hall]

/-- The sections, and the settings in each of them, may stand in any order. -/
theorem complete_layout {top : List Setting} {sections : List (String × List Setting)}
    (htop : top.Perm (settingsOf "")) (hnames : (sections.map (·.1)).Perm sectionNames)
    (hsections : ∀ x ∈ sections, x.2.Perm (settingsOf x.1)) : Complete (layout top sections) where
  placed :=
    placed_append_entries (fun s hs => mem_settingsOf.1 (htop.mem_iff.1 hs))
      (placed_sections "" fun x hx s hs => mem_settingsOf.1 ((hsections x hx).mem_iff.1 hs))
  entry s := by
    have hsection : s.sectionName = "" ∨ s.sectionName ∈ sectionNames := by cases s <;> decide
    obtain htoplevel | hsection := hsection
    · exact List.mem_append_left _
        (List.mem_map_of_mem (htop.mem_iff.2 (mem_settingsOf.2 htoplevel)))
    · obtain ⟨x, hx, hname⟩ := List.mem_map.1 (hnames.mem_iff.2 hsection)
      have hmem : s ∈ x.2 := (hsections x hx).mem_iff.2 (mem_settingsOf.2 hname.symm)
      exact List.mem_append_right _ (List.mem_flatMap.2
        ⟨x, hx, List.mem_cons_of_mem _ (List.mem_map_of_mem hmem)⟩)
  header name hname := by
    obtain hmem | hmem := List.mem_append.1 hname
    · obtain ⟨s, -, heq⟩ := List.mem_map.1 hmem
      cases heq
    · obtain ⟨x, hx, hmem⟩ := List.mem_flatMap.1 hmem
      obtain heq | hmem := List.mem_cons.1 hmem
      · cases heq
        exact hnames.mem_iff.1 (List.mem_map_of_mem hx)
      · obtain ⟨s, -, heq⟩ := List.mem_map.1 hmem
        cases heq

/-- **A configuration can be written and read back.** A valid configuration is written by some text
for every arrangement of lines in which each setting stands under the header of its section, and by
whichever text it is written, reading that gives the configuration again. -/
theorem written_and_read_back {c : Config} (hvalid : c.validate = .ok ()) {items : List Item}
    (hitems : Complete items) :
    (∃ text, Writes c items text) ∧ ∀ text, Writes c items text → read text = .ok c :=
  ⟨exists_writes c hitems.header, fun _ h => read_of_writes hvalid hitems h⟩

/-- A configuration with the largest numbers, written from its last section to its first. -/
theorem written_and_read_back_from_last_section :
    let c : Config :=
      { manual with
        eventCapacity := 4294967295
        leakThresholdMs := 18446744073709551615
        sampling := { adaptive := false } }
    let items := layout (settingsOf "").reverse
      (sectionNames.reverse.map fun name => (name, (settingsOf name).reverse))
    c.validate = .ok () ∧ Complete items ∧ ∃ text, Writes c items text ∧ read text = .ok c := by
  intro c items
  have hvalid : c.validate = .ok () := by decide
  have hitems : Complete items := by
    refine complete_layout (List.reverse_perm _) ?_ fun x hx => ?_
    · simp [Function.comp_def]
    · obtain ⟨name, -, rfl⟩ := List.mem_map.1 hx
      exact List.reverse_perm _
  obtain ⟨⟨text, htext⟩, hread⟩ := written_and_read_back hvalid hitems
  exact ⟨hvalid, hitems, text, htext, hread text htext⟩

end Config

end DriverTelemetry
