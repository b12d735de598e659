import DriverTelemetry.Proofs.MetricIdentity

/-!
# Looking a metric up by its name

A registry keeps at most 64 bytes of a name, but a search compares with the whole of what it is
given. `Registry.Lists.metrics_map_eq` says what is there to be found: number by number, the names
of the granted registrations as they are kept. So two searches are compared over one list, that for
the kept name, which the registry makes, and that for the name as it was given, which a caller has
in mind; `List.find?_eq_find?_iff` says when they come to the same entry.
-/

namespace DriverTelemetry

/-- If whatever `q` accepts is accepted by `p`, then the two find the same element just in case
nothing accepted by `p` comes before all that is accepted by `q`. -/
theorem List.find?_eq_find?_iff {α : Type} {l : List α} {p q : α → Bool}
    (hqp : ∀ a ∈ l, q a = true → p a = true) :
    l.find? p = l.find? q ↔
      ∀ front a back, l = front ++ a :: back → p a = true → ∃ b ∈ front ++ [a], q b = true := by
  constructor
  · rintro hsame front a back rfl hp
    obtain ⟨b, hb⟩ : ∃ b, (front ++ [a]).find? p = some b :=
      Option.isSome_iff_exists.1 (List.find?_isSome.2 ⟨a, by simp, hp⟩)
    have hfirst : (front ++ a :: back).find? p = some b := by
      rw [List.append_cons, List.find?_append, hb, Option.some_or]
    rw [hsame] at hfirst
    exact ⟨b, List.mem_of_find?_eq_some hb, List.find?_some hfirst⟩
  · intro hbefore
    cases hfound : l.find? p with
    | none =>
      symm
      rw [List.find?_eq_none] at hfound ⊢
      exact fun a ha hq => hfound a ha (hqp a ha hq)
    | some b =>
      obtain ⟨hp, front, back, rfl, hskipped⟩ := List.find?_eq_some_iff_append.1 hfound
      -- in front of the first hit of `p` there is none of `q`, so the hit there must be is this one
      have hnone : ∀ a ∈ front, q a = false := by
        intro a ha
        by_contra hq
        have hp := hqp a (List.mem_append_left _ ha) (Bool.eq_true_of_not_eq_false hq)
        have hskip := hskipped a ha
        rw [hp] at hskip
        cases hskip
      obtain ⟨c, hc, hq⟩ := hbefore front b back rfl hp
      obtain rfl : c = b := by
        rcases List.mem_append.1 hc with hfront | hlast
        · rw [hnone c hfront] at hq
          cases hq
        · exact List.mem_singleton.1 hlast
      symm
      exact List.find?_eq_some_iff_append.2
        ⟨hq, front, back, rfl, fun a ha => by simp [hnone a ha]⟩

/-- Two longest prefixes of one text are the same. -/
theorem Utf8.LongestPrefix.unique {limit : Nat} {text kept other : List Char}
    (h : LongestPrefix limit text kept) (hother : LongestPrefix limit text other) :
    kept = other :=
  List.IsPrefix.eq_of_length_le (hother.maximal kept h.isPrefix h.length_le)
    (h.maximal other hother.isPrefix hother.length_le).length_le

theorem BoundedText.text_ofString_eq_self_iff {n : Nat} (text : String) :
    (ofString text : BoundedText n).text = text ↔ text.utf8ByteSize ≤ n := by
  have hkept := longestPrefix_ofString (n := n) text
  rw [← Utf8.length_toList]
  constructor
  · intro hwhole
    simpa only [hwhole] using hkept.length_le
  · intro hfits
    exact String.toList_inj.1
      (hkept.isPrefix.eq_of_length_le (hkept.maximal _ List.prefix_rfl hfits).length_le)

namespace Registration

/-- As much of the name as a registry keeps. -/
def keptName (x : Registration) : String := (BoundedText.ofString x.name : Name).text

theorem keptName_eq_iff {x : Registration} {name : String} (h : x.name = name) :
    x.keptName = name ↔ name.utf8ByteSize ≤ 64 := by
  rw [← h]
  exact BoundedText.text_ofString_eq_self_iff x.name

/-- A kept name is never too long. -/
theorem utf8ByteSize_keptName_le (x : Registration) : x.keptName.utf8ByteSize ≤ 64 := by
  rw [← Utf8.length_toList]
  exact (BoundedText.ofString x.name : Name).length_le

theorem Describes.text_name {x : Registration} {m : Metric} (h : x.Describes m) :
    m.name.text = x.keptName :=
  String.toList_inj.1 (h.name.unique (BoundedText.longestPrefix_ofString x.name))

/-- The number of the first registration of a list that was made under a name, where `called` tells
what a registration counts as made under. -/
def firstBy (called : Registration → String) (granted : List (MetricId × Registration))
    (name : String) : Option MetricId :=
  (granted.find? fun entry => called entry.2 == name).map (·.1)

end Registration

namespace Registry

variable {r : Registry} {l : List (MetricId × Registration)}

theorem lists_release (r : Registry) : r.release.Lists [] where
  length_eq := rfl
  entry i entry h := by simp at h

/-- The numbers and names in a registry are those of the registrations, the names as they are
kept. -/
theorem Lists.metrics_map_eq (h : r.Lists l) :
    r.metrics.map (fun m => (m.id, m.name.text)) =
      l.map fun entry => (entry.1, entry.2.keptName) := by
  refine List.ext_getElem (by simp [h.length_eq]) fun i hi hi' => ?_
  rw [List.length_map] at hi hi'
  rw [List.getElem_map, List.getElem_map]
  obtain ⟨hnumber, m, hm, hid, hdescribes⟩ := h.entry i l[i] (List.getElem?_eq_getElem hi')
  obtain rfl : r.metrics[i] = m := by
    rw [find?_place, List.getElem?_eq_getElem hi] at hm
    exact Option.some.inj hm
  rw [hid, hnumber, hdescribes.text_name]

/-- A search needs no more than the numbers and names of what it looks through. -/
theorem find?_map_entry {α : Type} (f : α → MetricId × String) (entries : List α) (name : String) :
    ((entries.map f).find? (·.2 == name)).map (·.1) =
      (entries.find? fun a => (f a).2 == name).map fun a => (f a).1 := by
  rw [List.find?_map, Option.map_map]
  rfl

/-- A search finds what is first among the kept names. -/
theorem Lists.findByName?_eq (h : r.Lists l) (name : String) :
    r.findByName? name = Registration.firstBy Registration.keptName l name := by
  let ofMetric : Metric → MetricId × String := fun m => (m.id, m.name.text)
  let ofEntry : MetricId × Registration → MetricId × String :=
    fun entry => (entry.1, entry.2.keptName)
  calc r.findByName? name
      = ((r.metrics.map ofMetric).find? (·.2 == name)).map (·.1) :=
        (find?_map_entry ofMetric r.metrics name).symm
    _ = ((l.map ofEntry).find? (·.2 == name)).map (·.1) := by rw [h.metrics_map_eq]
    _ = Registration.firstBy Registration.keptName l name := find?_map_entry ofEntry l name

/-- Registrations are told apart by their numbers. -/
theorem Lists.eq_of_id_eq (h : r.Lists l) {a b : MetricId × Registration} (ha : a ∈ l) (hb : b ∈ l)
    (hid : a.1 = b.1) : a = b := by
  obtain ⟨i, hi⟩ := List.mem_iff_getElem?.1 ha
  obtain ⟨j, hj⟩ := List.mem_iff_getElem?.1 hb
  rw [(h.entry i a hi).1, (h.entry j b hj).1, MetricId.mk.injEq, Nat.add_right_cancel_iff] at hid
  rw [hid, hj] at hi
  exact (Option.some.inj hi).symm

/-- What is first by two ways of calling registrations is the same number only for the same
registration. -/
theorem Lists.firstBy_eq_iff (h : r.Lists l) (f g : Registration → String) (name : String) :
    Registration.firstBy f l name = Registration.firstBy g l name ↔
      (l.find? fun entry => f entry.2 == name) = l.find? fun entry => g entry.2 == name := by
  refine ⟨fun hids => ?_, fun hsame => congrArg (Option.map Prod.fst) hsame⟩
  unfold Registration.firstBy at hids
  cases hf : l.find? fun entry => f entry.2 == name with
  | none =>
    rw [hf] at hids
    exact (Option.map_eq_none_iff.1 hids.symm).symm
  | some a =>
    rw [hf] at hids
    obtain ⟨b, hb, hid⟩ := Option.map_eq_some_iff.1 hids.symm
    rw [hb, h.eq_of_id_eq (List.mem_of_find?_eq_some hb) (List.mem_of_find?_eq_some hf) hid]

/-- The search for a kept name agrees with the search for a given name if those given it have kept
it, and none that has kept it stands before all those. -/
theorem Lists.firstBy_keptName_eq_iff (h : r.Lists l) (name : String) :
    Registration.firstBy Registration.keptName l name =
        Registration.firstBy Registration.name l name ↔
      (∀ entry ∈ l, entry.2.name = name → name.utf8ByteSize ≤ 64) ∧
        ∀ front entry back, l = front ++ entry :: back → entry.2.keptName = name →
          ∃ earlier ∈ front ++ [entry], earlier.2.name = name := by
  rw [h.firstBy_eq_iff]
  have hiff (hfits : ∀ entry ∈ l, entry.2.name = name → name.utf8ByteSize ≤ 64) :=
    List.find?_eq_find?_iff (l := l) (p := fun entry => entry.2.keptName == name)
      (q := fun entry => entry.2.name == name) (by
        intro entry hentry hname
        rw [beq_iff_eq] at hname ⊢
        exact (Registration.keptName_eq_iff hname).2 (hfits entry hentry hname))
  simp only [beq_iff_eq] at hiff
  refine ⟨fun hsame => ?_, fun hcondition => (hiff hcondition.1).2 hcondition.2⟩
  have hfits : ∀ entry ∈ l, entry.2.name = name → name.utf8ByteSize ≤ 64 := by
    intro entry hentry hname
    obtain ⟨found, hfound⟩ : ∃ found, (l.find? fun e => e.2.name == name) = some found :=
      Option.isSome_iff_exists.1 (List.find?_isSome.2 ⟨entry, hentry, beq_iff_eq.2 hname⟩)
    have hkept := List.find?_some (hsame.trans hfound)
    rw [← beq_iff_eq.1 hkept]
    exact found.2.utf8ByteSize_keptName_le
  exact ⟨hfits, (hiff hfits).1 hsame⟩

/-- **When a metric is found by the name it was registered under.** After any calls on a registry
that held nothing, new or released, a search answers the first granted registration that has kept
the name searched for. This is the first one made under exactly that name if and only if a name that
a registration was made under is no longer than 64 bytes, and no registration that has only kept the
name stands before all those made under it. So every search is right as long as no granted name had
to be cut. -/
theorem search_finds_first_registered_iff (r : Registry) (calls : List RegistryCall)
    (name : String) :
    let granted := r.release.registrations calls
    let answer := (r.release.run calls).2.findByName? name
    answer = Registration.firstBy Registration.keptName granted name ∧
      (answer = Registration.firstBy Registration.name granted name ↔
        (∀ entry ∈ granted, entry.2.name = name → name.utf8ByteSize ≤ 64) ∧
          ∀ front entry back, granted = front ++ entry :: back → entry.2.keptName = name →
            ∃ earlier ∈ front ++ [entry], earlier.2.name = name) ∧
      ((∀ entry ∈ granted, entry.2.name.utf8ByteSize ≤ 64) →
        answer = Registration.firstBy Registration.name granted name) := by
  intro granted answer
  have hlists : (r.release.run calls).2.Lists granted := r.lists_release.run calls
  have hanswer : answer = Registration.firstBy Registration.keptName granted name :=
    hlists.findByName?_eq name
  rw [hanswer]
  refine ⟨rfl, hlists.firstBy_keptName_eq_iff name, fun hfits => ?_⟩
  refine (hlists.firstBy_keptName_eq_iff name).2 ⟨?_, ?_⟩
  · rintro entry hentry rfl
    exact hfits entry hentry
  · intro front entry back hsplit hkept
    have hentry : entry ∈ granted := by
      rw [hsplit]
      exact List.mem_append_right _ List.mem_cons_self
    have hwhole : entry.2.keptName = entry.2.name :=
      (Registration.keptName_eq_iff rfl).2 (hfits entry hentry)
    exact ⟨entry, List.mem_append_right _ (List.mem_singleton.2 rfl), hwhole.symm.trans hkept⟩

/-- Of two metrics of one name the first is found, and neither by a part of the name. -/
theorem search_finds_first_of_twins :
    let twins : List RegistryCall :=
      [.register "gpu_load" "" .gauge .gpu 0, .register "gpu_load" "" .counter .gpu 1]
    let r : Registry := { capacity := 2, policy := {} }
    (r.run twins).2.findByName? "gpu_load" = some ⟨1⟩ ∧
      (r.run twins).2.findByName? "gpu_loa" = none := by
  intro twins r
  have hshort : ∀ entry ∈ r.release.registrations twins, entry.2.name.utf8ByteSize ≤ 64 := by
    decide +kernel
  have hlaw := fun name => (search_finds_first_registered_iff r twins name).2.2 hshort
  refine ⟨(hlaw "gpu_load").trans ?_, (hlaw "gpu_loa").trans ?_⟩
  · decide +kernel
  · decide +kernel

/-- A metric registered under a name of 65 bytes is not found under it, but under the first 64 bytes
of it, a name that nothing has been registered under. -/
theorem search_misses_long_name :
    let long := String.ofList (List.replicate 65 'a')
    let cut := String.ofList (List.replicate 64 'a')
    let calls : List RegistryCall := [.register long "" .counter .core 0]
    let r : Registry := { capacity := 2, policy := {} }
    (r.registrations calls).map (fun entry => (entry.1, entry.2.name)) = [(⟨1⟩, long)] ∧
      (r.run calls).2.findByName? long = none ∧
      (r.run calls).2.findByName? cut = some ⟨1⟩ := by
  decide +kernel

end Registry

end DriverTelemetry
