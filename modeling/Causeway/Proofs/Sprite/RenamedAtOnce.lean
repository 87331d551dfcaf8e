import Causeway.Pattern.Reader
import Causeway.Proofs.Sprite.Renaming
import Mathlib.Logic.Function.Iterate

/-!
# When fields are renamed all at once

The selected fields are renamed one after the other, in name order, and what a field holds by then goes
along with it. So values that are renamed to a field which has its own turn later are renamed again
(`RenamedAgain`). Where this happens to none, every field holds what was renamed to it, as if all renames
were made at once; where it happens to values of a field that has any, it shows (`renameWhere_sends`).
-/

namespace Causeway.Sprite

variable {s t : Sprite} {field f : String} {newName : String → String} {selects : String → Bool}
  {l before after : List String}

/-- The other fields of a list that are renamed to a field, in the order of the list. -/
def arrivals (newName : String → String) (l : List String) (field : String) : List String :=
  l.filter fun f => f ≠ field ∧ newName f = field

theorem mem_arrivals_iff :
    f ∈ arrivals newName l field ↔ f ∈ l ∧ f ≠ field ∧ newName f = field := by
  simp [arrivals]

namespace Origins

variable {o : Origins}

/-! ### Renames in turn -/

/-- If no field is renamed to a later one that is renamed away in its turn, then no rename takes along
what another has brought. -/
theorem renameEach_of_pairwise (hnodup : l.Nodup)
    (hl : l.Pairwise fun f g => newName f = g → newName g = g) (field : String) :
    o.renameEach newName l field =
      (if field ∈ l ∧ newName field ≠ field then [] else o field) ++
        (arrivals newName l field).flatMap o := by
  unfold renameEach
  induction l generalizing o with
  | nil =>
    rw [if_neg fun h => List.not_mem_nil h.1]
    exact (List.append_nil _).symm
  | cons f l ih =>
    obtain ⟨hf, hnodup⟩ := List.nodup_cons.mp hnodup
    obtain ⟨hfirst, hl⟩ := List.pairwise_cons.mp hl
    -- what is renamed later on still holds what it held at first
    have hlater : (arrivals newName l field).flatMap (o.rename f (newName f)) =
        (arrivals newName l field).flatMap o := by
      refine List.flatMap_congr fun e he => ?_
      obtain ⟨hmem, hne, hname⟩ := mem_arrivals_iff.mp he
      refine rename_of_untouched (fun heq => hf (heq ▸ hmem)) fun heq => hne ?_
      rw [← hname, hfirst e hmem heq.symm]
    have hcons : (arrivals newName (f :: l) field).flatMap o =
        (if f ≠ field ∧ newName f = field then o f else []) ++
          (arrivals newName l field).flatMap o := by
      unfold arrivals
      by_cases harrives : f ≠ field ∧ newName f = field
      · rw [List.filter_cons_of_pos (by simpa using harrives), List.flatMap_cons, if_pos harrives]
      · rw [List.filter_cons_of_neg (by simpa using harrives), if_neg harrives]
        rfl
    rw [List.foldl_cons, ih hnodup hl, hlater, hcons, ← List.append_assoc]
    congr 1
    by_cases hleaves : field ∈ l ∧ newName field ≠ field
    · have hnot : ¬(f ≠ field ∧ newName f = field) :=
        fun h => hleaves.2 (hfirst field hleaves.1 h.2)
      rw [if_pos hleaves, if_neg hnot, if_pos (hleaves.imp_left (List.mem_cons_of_mem f))]
      rfl
    · have hturn : (field ∈ f :: l ∧ newName field ≠ field) ↔
          field = f ∧ newName f ≠ field := by
        rw [List.mem_cons, or_and_right, or_iff_left hleaves]
        exact and_congr_right fun heq => by rw [heq]
      rw [if_neg hleaves, if_congr hturn rfl rfl]
      rfl

theorem renameEach_append_cons (o : Origins) (newName : String → String)
    (before : List String) (field : String) (after : List String) :
    o.renameEach newName (before ++ field :: after) =
      renameEach ((o.renameEach newName before).rename field (newName field)) newName after :=
  List.foldl_append

/-- After its own turn a field gets what is renamed to it, and nothing else if no rename after its turn
takes along what another has brought. -/
theorem renameEach_of_last (hnodup : (before ++ field :: after).Nodup)
    (hleaves : newName field ≠ field)
    (hmet : ∀ f ∈ before ++ [field], ∀ e ∈ after, newName f = e → newName e = e)
    (hafter : after.Pairwise fun f g => newName f = g → newName g = g) :
    o.renameEach newName (before ++ field :: after) field =
      (arrivals newName after field).flatMap o := by
  obtain ⟨-, hnodup, hapart⟩ := List.nodup_append.mp hnodup
  obtain ⟨hfield, hnodup⟩ := List.nodup_cons.mp hnodup
  have hgone : (o.renameEach newName before).rename field (newName field) field = [] := by
    rw [rename_of_ne hleaves.symm, if_pos rfl]
  have harrivals : (arrivals newName after field).flatMap
        ((o.renameEach newName before).rename field (newName field)) =
      (arrivals newName after field).flatMap o := by
    refine List.flatMap_congr fun e he => ?_
    obtain ⟨hmem, hne, hname⟩ := mem_arrivals_iff.mp he
    have hself : ∀ f ∈ before ++ [field], e ≠ newName f := by
      rintro f hf rfl
      exact hne ((hmet f hf _ hmem rfl).symm.trans hname)
    rw [rename_of_untouched hne (hself field (by simp)), renameEach_of_untouched]
    intro f hf
    exact ⟨(hapart f hf e (List.mem_cons_of_mem field hmem)).symm,
      hself f (List.mem_append_left _ hf)⟩
  rw [renameEach_append_cons, renameEach_of_pairwise hnodup hafter, if_neg fun h => hfield h.1,
    hgone, harrivals]
  rfl

theorem mem_renameEach_of_stays (hf : f ∈ o field) (hstays : field ∈ l → newName field = field) :
    f ∈ o.renameEach newName l field := by
  unfold renameEach
  induction l generalizing o with
  | nil => exact hf
  | cons e l ih =>
    refine ih ?_ fun hmem => hstays (List.mem_cons_of_mem e hmem)
    have hkept : ¬(field = e ∧ newName e ≠ field) := by
      rintro ⟨rfl, hleaves⟩
      exact hleaves (hstays List.mem_cons_self)
    change f ∈ o.rename e (newName e) field
    rw [Origins.rename, if_neg hkept]
    exact List.mem_append_left _ hf

/-- What a field holds goes on to the new name of the field, from there to the new name of that, and so
on. -/
theorem exists_mem_renameEach (hf : f ∈ o field) (newName : String → String) (l : List String) :
    ∃ n, f ∈ o.renameEach newName l (newName^[n] field) := by
  unfold renameEach
  induction l generalizing o field with
  | nil => exact ⟨0, hf⟩
  | cons e l ih =>
    by_cases hleaves : field = e ∧ newName e ≠ field
    · obtain ⟨rfl, hmoved⟩ := hleaves
      have hnext : f ∈ o.rename field (newName field) (newName field) :=
        (mem_rename_iff hmoved.symm).mpr ⟨hmoved, .inr ⟨rfl, hf⟩⟩
      obtain ⟨n, hn⟩ := ih hnext
      exact ⟨n + 1, hn⟩
    · refine ih ?_
      change f ∈ o.rename e (newName e) field
      rw [Origins.rename, if_neg hleaves]
      exact List.mem_append_left _ hf

end Origins

/-! ### Selected fields -/

theorem mem_fieldsWhere_iff :
    field ∈ s.fieldsWhere selects ↔ s.hasField field = true ∧ selects field = true := by
  rw [fieldsWhere, List.mem_filter, mem_fieldNames_iff]

theorem pairwise_fieldsWhere (s : Sprite) (selects : String → Bool) :
    (s.fieldsWhere selects).Pairwise (· < ·) :=
  s.fields.pairwise_names.filter selects

theorem nodup_fieldsWhere (s : Sprite) (selects : String → Bool) :
    (s.fieldsWhere selects).Nodup :=
  s.nodup_fieldNames.filter selects

theorem flatMap_own_arrivals (hl : ∀ f ∈ l, s.hasField f = true) (field : String) :
    (arrivals newName l field).flatMap (Origins.own s) = arrivals newName l field := by
  refine Eq.trans (List.flatMap_congr fun f hf => ?_) (List.flatMap_singleton' _)
  exact if_pos (hl f (mem_arrivals_iff.mp hf).1)

theorem regroups_renameWhere (s : Sprite) (selects : String → Bool) (newName : String → String) :
    Regroups ((Origins.own s).renameEach newName (s.fieldsWhere selects)) s
      (s.renameWhere selects newName) :=
  (Regroups.own s).renameEach newName (s.fieldsWhere selects)

/-- Every field holds first its own values, if it is not selected or keeps its name, and then the values
of the other selected fields that are renamed to it, in name order. There are no other fields. -/
structure SentAtOnce (selects : String → Bool) (newName : String → String) (s t : Sprite) :
    Prop where
  values : ∀ field, t.valuesAt field =
    (if selects field = false ∨ newName field = field then s.valuesAt field else []) ++
      (arrivals newName (s.fieldsWhere selects) field).flatMap s.valuesAt
  fields : ∀ field, t.hasField field = true ↔
    (s.hasField field = true ∧ (selects field = false ∨ newName field = field)) ∨
      arrivals newName (s.fieldsWhere selects) field ≠ []

/-- A selected field is renamed to a later one, which is renamed away in its turn. -/
structure RenamedAgain (selects : String → Bool) (newName : String → String) (s : Sprite)
    (f : String) : Prop where
  selected : f ∈ s.fieldsWhere selects
  met : newName f ∈ s.fieldsWhere selects
  later : f < newName f
  leaves : newName (newName f) ≠ newName f

theorem RenamedAgain.ne (h : RenamedAgain selects newName s f) : f ≠ newName f := by
  intro heq
  have hlater := h.later
  rw [← heq] at hlater
  exact String.lt_irrefl f hlater

theorem sentAtOnce_of_forall_not (h : ∀ f, ¬RenamedAgain selects newName s f) :
    SentAtOnce selects newName s (s.renameWhere selects newName) := by
  have hl : (s.fieldsWhere selects).Pairwise fun f g => newName f = g → newName g = g := by
    refine (s.pairwise_fieldsWhere selects).imp_of_mem ?_
    rintro f g hf hg hlt rfl
    by_contra hleaves
    exact h f ⟨hf, hg, hlt, hleaves⟩
  have hleaves : ∀ field, (field ∈ s.fieldsWhere selects ∧ newName field ≠ field) ↔
      s.hasField field = true ∧ ¬(selects field = false ∨ newName field = field) := by
    intro field
    rw [mem_fieldsWhere_iff, and_assoc, not_or, Bool.not_eq_false]
  have hgroups := s.regroups_renameWhere selects newName
  have horigins : ∀ field, (Origins.own s).renameEach newName (s.fieldsWhere selects) field =
      (if s.hasField field = true ∧ ¬(selects field = false ∨ newName field = field) then []
        else Origins.own s field) ++ arrivals newName (s.fieldsWhere selects) field := by
    intro field
    rw [Origins.renameEach_of_pairwise (s.nodup_fieldsWhere selects) hl,
      flatMap_own_arrivals fun f hf => (mem_fieldsWhere_iff.mp hf).1,
      if_congr (hleaves field) rfl rfl]
  constructor
  · intro field
    rw [hgroups.values, horigins, List.flatMap_append]
    congr 1
    cases hfield : s.hasField field with
    | false => simp [Origins.own, hfield, valuesAt_of_hasField_false hfield]
    | true =>
      by_cases hstays : selects field = false ∨ newName field = field <;>
        simp [Origins.own, hfield, hstays]
  · intro field
    rw [hgroups.fields, horigins, Ne, List.append_eq_nil_iff, not_and_or]
    refine or_congr_left ?_
    cases hfield : s.hasField field with
    | false => simp [Origins.own, hfield]
    | true =>
      by_cases hstays : selects field = false ∨ newName field = field <;>
        simp [Origins.own, hfield, hstays]

/-! ### Where it shows that values are renamed again -/

theorem exists_last_of_mem {p : String → Prop} (h : ∃ x ∈ l, p x) :
    ∃ before x after, l = before ++ x :: after ∧ p x ∧ ∀ y ∈ after, ¬p y := by
  induction l with
  | nil => simp at h
  | cons a l ih =>
    by_cases hrest : ∃ x ∈ l, p x
    · obtain ⟨before, x, after, rfl, hx, hlast⟩ := ih hrest
      exact ⟨a :: before, x, after, rfl, hx, hlast⟩
    · have hnone : ∀ y ∈ l, ¬p y := fun y hy hp => hrest ⟨y, hy, hp⟩
      obtain ⟨x, hx, hp⟩ := h
      rcases List.mem_cons.mp hx with rfl | hx
      · exact ⟨[], x, l, rfl, hp, hnone⟩
      · exact absurd hp (hnone x hx)

/-- After the turn of the last field at which values are renamed again, every rename moves the values
of one field only. -/
theorem exists_last_renamedAgain (h : RenamedAgain selects newName s f) :
    ∃ f before after, RenamedAgain selects newName s f ∧
      s.fieldsWhere selects = before ++ newName f :: after ∧ f ∈ before ∧
      (∀ d ∈ before ++ [newName f], ∀ e ∈ after, newName d = e → newName e = e) ∧
      after.Pairwise fun d e => newName d = e → newName e = e := by
  have hmet : ∃ g ∈ s.fieldsWhere selects, ∃ f, RenamedAgain selects newName s f ∧ newName f = g :=
    ⟨newName f, h.met, f, h, rfl⟩
  obtain ⟨before, _, after, hsplit, ⟨f, hf, rfl⟩, hlast⟩ := exists_last_of_mem hmet
  have hsettled : ∀ d ∈ s.fieldsWhere selects, ∀ e ∈ after, d < e →
      newName d = e → newName e = e := by
    rintro d hd e he hlt rfl
    by_contra hleaves
    have hmem : newName d ∈ s.fieldsWhere selects := by simp [hsplit, he]
    exact hlast _ he ⟨d, ⟨hd, hmem, hlt, hleaves⟩, rfl⟩
  have hsorted := s.pairwise_fieldsWhere selects
  rw [hsplit] at hsettled hsorted
  obtain ⟨-, hafter, hacross⟩ := List.pairwise_append.mp hsorted
  obtain ⟨hbehind, hafter⟩ := List.pairwise_cons.mp hafter
  refine ⟨f, before, after, hf, hsplit, ?_, ?_, ?_⟩
  · rcases List.mem_append.mp (hsplit ▸ hf.selected) with hmem | hmem
    · exact hmem
    · exfalso
      rcases List.mem_cons.mp hmem with heq | hmem
      · exact hf.ne heq
      · exact String.lt_irrefl f (String.lt_trans hf.later (hbehind f hmem))
  · intro d hd e he
    rcases List.mem_append.mp hd with hd | hd
    · exact hsettled d (by simp [hd]) e he (hacross d hd e (List.mem_cons_of_mem _ he))
    · obtain rfl := List.mem_singleton.mp hd
      exact hsettled _ (by simp) e he (hbehind e he)
  · refine hafter.imp_of_mem ?_
    intro d e hd he hlt
    exact hsettled d (by simp [hd]) e he hlt

theorem not_renamedAgain_of_sentAtOnce (hfull : ∀ f ∈ s.fieldNames, s.valuesAt f ≠ [])
    (h : SentAtOnce selects newName s (s.renameWhere selects newName)) (f : String) :
    ¬RenamedAgain selects newName s f := by
  intro hagain
  obtain ⟨f, before, after, hf, hsplit, hbefore, hmet, hafter⟩ := exists_last_renamedAgain hagain
  have hgroups := s.regroups_renameWhere selects newName
  have hvalues := h.values (newName f)
  have hnodup := s.nodup_fieldsWhere selects
  have hfields : ∀ e ∈ s.fieldsWhere selects, s.hasField e = true :=
    fun e he => (mem_fieldsWhere_iff.mp he).1
  rw [hsplit] at hgroups hvalues hnodup hfields
  have hselects : selects (newName f) = true := (mem_fieldsWhere_iff.mp hf.met).2
  have hleaves : ¬(selects (newName f) = false ∨ newName (newName f) = newName f) := by
    simp [hselects, hf.leaves]
  have harrivals : arrivals newName (before ++ newName f :: after) (newName f) =
      arrivals newName before (newName f) ++ arrivals newName after (newName f) := by
    simp [arrivals]
  -- what comes before the turn of the new name is gone with it, and so has to be nothing
  rw [hgroups.values, Origins.renameEach_of_last hnodup hf.leaves hmet hafter,
    flatMap_own_arrivals fun e he => hfields e (by simp [he]), if_neg hleaves, List.nil_append,
    harrivals, List.flatMap_append, List.self_eq_append_left, List.flatMap_eq_nil_iff] at hvalues
  have hnone : s.valuesAt f = [] := hvalues f (mem_arrivals_iff.mpr ⟨hbefore, hf.ne, rfl⟩)
  exact hfull f (mem_fieldNames_iff.mpr (mem_fieldsWhere_iff.mp hf.selected).1) hnone

theorem exists_infix_renameWhere (hf : f ∈ s.fieldsWhere selects) (newName : String → String) :
    ∃ n, s.valuesAt f <:+: (s.renameWhere selects newName).valuesAt (newName^[n + 1] f) ∧
      (¬RenamedAgain selects newName s f → n = 0) := by
  have hgroups := s.regroups_renameWhere selects newName
  obtain ⟨before, after, hsplit⟩ := List.append_of_mem hf
  have hsorted := s.pairwise_fieldsWhere selects
  have hnodup := s.nodup_fieldsWhere selects
  rw [hsplit] at hsorted hnodup
  rw [hsplit, Origins.renameEach_append_cons] at hgroups
  have hfirst : f ∈ (Origins.own s).renameEach newName before f := by
    refine Origins.mem_renameEach_of_stays ?_ fun hbefore => ?_
    · exact Origins.mem_own_iff.mpr ⟨rfl, (mem_fieldsWhere_iff.mp hf).1⟩
    · exact absurd rfl ((List.nodup_append.mp hnodup).2.2 f hbefore f List.mem_cons_self)
  have hnext : f ∈
      ((Origins.own s).renameEach newName before).rename f (newName f) (newName f) := by
    by_cases hself : newName f = f
    · rw [hself, Origins.rename_self]
      exact hfirst
    · exact (Origins.mem_rename_iff (Ne.symm hself)).mpr ⟨hself, .inr ⟨rfl, hfirst⟩⟩
  by_cases hagain : RenamedAgain selects newName s f
  · obtain ⟨n, hn⟩ := Origins.exists_mem_renameEach hnext newName after
    exact ⟨n, hgroups.infix_of_mem hn, fun h => absurd hagain h⟩
  · refine ⟨0, hgroups.infix_of_mem (Origins.mem_renameEach_of_stays hnext ?_), fun _ => rfl⟩
    intro hafter
    by_contra hleaves
    have hlater : f < newName f :=
      (List.pairwise_cons.mp (List.pairwise_append.mp hsorted).2.1).1 (newName f) hafter
    have hmet : newName f ∈ s.fieldsWhere selects := by
      rw [hsplit]
      exact List.mem_append_right _ (List.mem_cons_of_mem f hafter)
    exact hagain ⟨hf, hmet, hlater, hleaves⟩

/-- The values of a selected field are found under its new name, unless they are renamed again; then they
are found under the new name of that, or of that, and so on. If none are renamed again, all fields are
sent at once. In a sprite whose fields all have values they are sent at once only then. -/
theorem renameWhere_sends (s : Sprite) (selects : String → Bool) (newName : String → String) :
    let t := s.renameWhere selects newName
    (∀ f ∈ s.fieldsWhere selects, ∃ n, s.valuesAt f <:+: t.valuesAt (newName^[n + 1] f) ∧
        (¬RenamedAgain selects newName s f → n = 0)) ∧
      ((∀ f, ¬RenamedAgain selects newName s f) → SentAtOnce selects newName s t) ∧
      ((∀ f ∈ s.fieldNames, s.valuesAt f ≠ []) → SentAtOnce selects newName s t →
        ∀ f, ¬RenamedAgain selects newName s f) :=
  ⟨fun _ hf => exists_infix_renameWhere hf newName, sentAtOnce_of_forall_not,
    not_renamedAgain_of_sentAtOnce⟩

/-- Names that begin with an `a`. -/
def startsWithA : Pattern :=
  .seq .textStart (.seq (.set { intervals := [('a'.toNat, 'a'.toNat)] }) .empty)

/-- Two fields with a prefix, and one without. -/
def prefixed : Sprite := Sprite.empty.load [("a_x", .int 1), ("a_y", .int 2), ("y", .int 3)]

def withoutPrefix (field : String) : String := String.ofList (field.toList.drop 2)

/-- Fields that lose their prefix are sent at once. -/
theorem renameWhere_sends_prefixed : Pattern.read? "^a" = some startsWithA ∧
    SentAtOnce startsWithA.isFoundIn withoutPrefix prefixed
      (prefixed.renameMatching startsWithA withoutPrefix) := by
  have hnone : ∀ f ∈ prefixed.fieldsWhere startsWithA.isFoundIn,
      withoutPrefix f ∉ prefixed.fieldsWhere startsWithA.isFoundIn := by decide +kernel
  exact ⟨by decide +kernel, (renameWhere_sends prefixed startsWithA.isFoundIn withoutPrefix).2.1
    fun f h => hnone f h.selected h.met⟩

/-- One name in front of another. -/
def nested : Sprite := Sprite.empty.load [("a", .int 1), ("aa", .int 2)]

def lengthened (field : String) : String := "a" ++ field

/-- Where a name is lengthened to the next one, its value goes along with that of the next. -/
theorem not_sentAtOnce_nested : Pattern.read? "^a" = some startsWithA ∧
    (nested.renameMatching startsWithA lengthened).hasField "aa" = false ∧
    (nested.renameMatching startsWithA lengthened).valuesOf "aaa" = ["2", "1"] ∧
    ¬SentAtOnce startsWithA.isFoundIn lengthened nested
      (nested.renameMatching startsWithA lengthened) := by
  have hgone : (nested.renameMatching startsWithA lengthened).hasField "aa" = false := by
    decide +kernel
  refine ⟨by decide +kernel, hgone, by decide +kernel, fun h => ?_⟩
  have harrives : "a" ∈ arrivals lengthened (nested.fieldsWhere startsWithA.isFoundIn) "aa" := by
    decide +kernel
  rw [(h.fields "aa").mpr (.inr (List.ne_nil_of_mem harrives))] at hgone
  cases hgone

end Causeway.Sprite
