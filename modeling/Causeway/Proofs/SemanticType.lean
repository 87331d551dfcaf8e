import Causeway.Proofs.Text.Spaced
import Causeway.SemanticType

/-!
# Types that are read back

A normalized name is normalized again to itself, unless a blank stands in front of it
(`normalize_normalize`): only the end of a name is trimmed once a schema's address is taken off. So a
type that is written as its name and read back is the same type exactly if no blank stands between
the last schema marker and the name behind it, and it settles when it is read back once
(`ofName_name_ofName_iff`).
-/

namespace Causeway.SemanticType

open Text

/-! ### Normalized names -/

/-- The words of a name in lower case. -/
def spelled (native : String) : List Char := lower (joinWords native.toList)

/-- What follows a schema's address, if there is one. -/
def unqualified (native : String) : List Char :=
  (afterLast? schemaMarker (spelled native)).getD (spelled native)

theorem normalize_eq (native : String) :
    (normalize native).toList = trimEnd ((unqualified native).takeWhile (· ≠ '(')) :=
  String.toList_ofList

/-- What is left to do to a normalized name is at most to trim it in front. -/
structure IsNormal (s : List Char) : Prop where
  lower : ∀ c ∈ s, IsLower c
  spaced : Spaced s
  noParenthesis : '(' ∉ s
  noMarker : ¬schemaMarker <:+: s
  last : ∀ hne : s ≠ [], isBlank (s.getLast hne) = false

variable {native : String} {s : List Char}

theorem spaced_spelled (native : String) : Spaced (spelled native) :=
  spaced_lower (spaced_joinWords native.toList)

theorem head_spelled (native : String) : ∀ c ∈ (spelled native).head?, isBlank c = false :=
  head_lower (spaced_joinWords native.toList) head_joinWords

theorem schemaMarker_ne_nil : schemaMarker ≠ [] := by decide

theorem unqualified_cases (native : String) :
    (afterLast? schemaMarker (spelled native) = none ∧ unqualified native = spelled native) ∨
      afterLast? schemaMarker (spelled native) = some (unqualified native) := by
  unfold unqualified
  cases afterLast? schemaMarker (spelled native) with
  | none => exact .inl ⟨rfl, rfl⟩
  | some s => exact .inr rfl

theorem unqualified_suffix (native : String) : unqualified native <:+ spelled native := by
  rcases unqualified_cases native with ⟨-, heq⟩ | hafter
  · exact heq ▸ List.suffix_refl _
  · exact (List.suffix_append _ _).trans (afterLast?_eq_some hafter)

theorem not_infix_unqualified (native : String) : ¬schemaMarker <:+: unqualified native := by
  rcases unqualified_cases native with ⟨hnone, heq⟩ | hafter
  · rw [heq]
    exact (afterLast?_eq_none_iff schemaMarker_ne_nil).mp hnone
  · exact not_infix_afterLast? schemaMarker_ne_nil hafter

theorem normalize_starts (native : String) :
    (normalize native).toList <+: (unqualified native).takeWhile (· ≠ '(') := by
  rw [normalize_eq]
  exact trimEnd_prefix _

theorem isNormal_normalize (native : String) : IsNormal (normalize native).toList := by
  have hname : (normalize native).toList <+: unqualified native :=
    (normalize_starts native).trans (List.takeWhile_prefix _)
  have hspelled : (normalize native).toList <:+: spelled native :=
    hname.isInfix.trans (unqualified_suffix native).isInfix
  refine ⟨fun c hc => ?_, ?_, fun hmem => ?_, fun hpart => ?_, ?_⟩
  · exact isLower_of_mem_lower (hspelled.subset hc)
  · exact (spaced_spelled native).of_part hspelled
  · have hne := List.mem_takeWhile_imp ((normalize_starts native).subset hmem)
    simp at hne
  · exact not_infix_unqualified native (hpart.trans hname.isInfix)
  · rw [normalize_eq]
    exact last_trimEnd _

theorem IsNormal.normalize_eq (h : IsNormal native.toList) :
    (normalize native).toList = trimStart native.toList := by
  have hsuffix : List.IsSuffix (trimStart native.toList) native.toList := List.dropWhile_suffix _
  have hspelled : spelled native = trimStart native.toList := by
    rw [spelled, joinWords_of_spaced h.spaced h.last]
    exact lower_eq_self fun c hc => h.lower c (hsuffix.subset hc)
  have hunqualified : unqualified native = trimStart native.toList := by
    have hnone : afterLast? schemaMarker (spelled native) = none := by
      rw [hspelled]
      exact (afterLast?_eq_none_iff schemaMarker_ne_nil).mpr
        fun hpart => h.noMarker (hpart.trans hsuffix.isInfix)
    rw [unqualified, hnone, Option.getD_none, hspelled]
  have hkept : (trimStart native.toList).takeWhile (· ≠ '(') = trimStart native.toList := by
    refine List.takeWhile_eq_self_iff.mpr fun c hc => ?_
    have hne : c ≠ '(' := by
      rintro rfl
      exact h.noParenthesis (hsuffix.subset hc)
    simpa using hne
  rw [SemanticType.normalize_eq, hunqualified, hkept]
  refine trimEnd_eq_self_iff.mpr fun hne => ?_
  have hlast := hsuffix.getLast hne
  rw [hlast]
  exact h.last _

/-- A second normalization trims in front, where the first one did not. -/
theorem normalize_normalize (native : String) :
    (normalize (normalize native)).toList = trimStart (normalize native).toList :=
  (isNormal_normalize native).normalize_eq

/-! ### Types by name -/

def kinds : List SemanticType := [text, numeric, date, boolean]

/-- The names that stand for the kinds. -/
def kindNames : List String := textNames ++ numericNames ++ dateNames ++ booleanNames

theorem ofName_eq_other (h : normalize native ∉ kindNames) :
    ofName native = .other (normalize native) := by
  simp only [kindNames, List.mem_append, not_or] at h
  obtain ⟨⟨⟨htext, hnumeric⟩, hdate⟩, hboolean⟩ := h
  simp only [ofName, if_neg htext, if_neg hnumeric, if_neg hdate, if_neg hboolean]

theorem ofName_mem_kinds (h : normalize native ∈ kindNames) : ofName native ∈ kinds := by
  simp only [kindNames, List.mem_append] at h
  unfold ofName
  generalize normalize native = n at h
  dsimp only
  by_cases htext : n ∈ textNames
  · rw [if_pos htext]
    exact List.mem_cons_self
  · by_cases hnumeric : n ∈ numericNames
    · rw [if_neg htext, if_pos hnumeric]
      exact .tail _ List.mem_cons_self
    · by_cases hdate : n ∈ dateNames
      · rw [if_neg htext, if_neg hnumeric, if_pos hdate]
        exact .tail _ (.tail _ List.mem_cons_self)
      · have hboolean : n ∈ booleanNames := by tauto
        rw [if_neg htext, if_neg hnumeric, if_neg hdate, if_pos hboolean]
        exact .tail _ (.tail _ (.tail _ List.mem_cons_self))

/-- The kinds come back by their own names. -/
theorem ofName_name_of_mem_kinds : ∀ t ∈ kinds, ofName t.name = t := by decide +kernel

/-- The types of scalar values are kinds. -/
theorem ofName_name_ofValue {v : Value} (h : v.isScalar = true) :
    ofName (ofValue v).name = ofValue v := by
  have hkind : ofValue v ∈ kinds := by
    cases v <;> simp [Value.isScalar] at h <;> simp [ofValue, kinds]
  exact ofName_name_of_mem_kinds _ hkind

theorem ofName_name_of_kind (h : normalize native ∈ kindNames) :
    ofName (ofName native).name = ofName native :=
  ofName_name_of_mem_kinds _ (ofName_mem_kinds h)

theorem head_of_mem_kindNames {name : String} (h : name ∈ kindNames) :
    name.toList.head? ≠ some ' ' := by
  have hheads : ∀ name ∈ kindNames, name.toList.head? ≠ some ' ' := by decide +kernel
  exact hheads name h

/-- Whether a blank stands in front of a normalized name. -/
theorem head_normalize_iff (native : String) :
    (normalize native).toList.head? = some ' ' ↔
      ∃ c r, afterLast? schemaMarker (spelled native) = some (' ' :: c :: r) ∧ c ≠ '(' := by
  constructor
  · intro hhead
    obtain ⟨r, hname⟩ := List.head?_eq_some_iff.mp hhead
    obtain ⟨rest, hkept⟩ := normalize_starts native
    obtain ⟨behind, hall⟩ := List.takeWhile_prefix (l := unqualified native) (· ≠ '(')
    rw [hname] at hkept
    rw [← hkept] at hall
    cases r with
    | nil =>
      -- a normalized name does not end in a blank
      have hlast := (isNormal_normalize native).last (by simp [hname])
      simp only [hname, List.getLast_singleton] at hlast
      cases hlast
    | cons c r =>
      have hc : c ∈ (unqualified native).takeWhile (· ≠ '(') := by
        rw [← hkept]
        simp
      refine ⟨c, r ++ rest ++ behind, ?_, by simpa using List.mem_takeWhile_imp hc⟩
      rcases unqualified_cases native with ⟨-, heq⟩ | hafter
      · -- the name as it is spelled begins with a word
        rw [heq] at hall
        have hblank := head_spelled native ' ' (by rw [← hall]; rfl)
        cases hblank
      · rw [hafter, ← hall]
        simp
  · rintro ⟨c, r, hafter, hc⟩
    have hunqualified : unqualified native = ' ' :: c :: r := by
      rw [unqualified, hafter, Option.getD_some]
    have hkept : (unqualified native).takeWhile (· ≠ '(') =
        ' ' :: c :: r.takeWhile (· ≠ '(') := by
      rw [hunqualified, List.takeWhile_cons_of_pos (by decide),
        List.takeWhile_cons_of_pos (by simpa using hc)]
    have hword : isBlank c = false := by
      have hspaced := (spaced_spelled native).of_part (unqualified_suffix native).isInfix
      rw [hunqualified] at hspaced
      exact ((Spaced.cons_iff.mp hspaced).1 rfl).2 c rfl
    have hne : (normalize native).toList ≠ [] := by
      rw [normalize_eq, hkept]
      intro hnil
      have hblank := trimEnd_eq_nil_iff.mp hnil c (by simp)
      rw [hword] at hblank
      cases hblank
    obtain ⟨a, name, hname⟩ := List.exists_cons_of_ne_nil hne
    have hprefix := normalize_starts native
    rw [hkept, hname] at hprefix
    rw [hname, (List.cons_prefix_cons.mp hprefix).1]
    rfl

theorem trimStart_eq_self_iff_of_isNormal (h : IsNormal s) :
    trimStart s = s ↔ s.head? ≠ some ' ' := by
  cases s with
  | nil => simp [trimStart]
  | cons c s =>
    cases hc : isBlank c with
    | false =>
      have hne : c ≠ ' ' := by
        rintro rfl
        cases hc
      simp [trimStart, hc, hne]
    | true =>
      obtain rfl : c = ' ' := h.spaced.blanks c List.mem_cons_self hc
      have hlength : (trimStart (' ' :: s)).length ≤ s.length := by
        rw [trimStart, List.dropWhile_cons_of_pos hc]
        exact (List.dropWhile_suffix _).length_le
      refine iff_of_false (fun heq => ?_) (by simp)
      rw [heq, List.length_cons] at hlength
      omega

theorem ofName_name_iff_head (native : String) :
    ofName (ofName native).name = ofName native ↔ (normalize native).toList.head? ≠ some ' ' := by
  by_cases hkind : normalize native ∈ kindNames
  · exact iff_of_true (ofName_name_of_kind hkind) (head_of_mem_kindNames hkind)
  · rw [ofName_eq_other hkind, name, ← trimStart_eq_self_iff_of_isNormal (isNormal_normalize native)]
    constructor
    · intro h
      -- the type that comes back has a name of its own, and that is normalized again
      have hother : ∀ n, other n ∉ kinds := fun n => by simp [kinds]
      have hagain : normalize (normalize native) ∉ kindNames := by
        intro hmem
        have hmem := ofName_mem_kinds hmem
        rw [h] at hmem
        exact hother _ hmem
      rw [ofName_eq_other hagain] at h
      rw [← normalize_normalize, other.inj h]
    · intro h
      have hagain : normalize (normalize native) = normalize native :=
        String.toList_inj.mp (by rw [normalize_normalize, h])
      rw [ofName_eq_other (by rwa [hagain]), hagain]

/-- A type that is written as its name and read back is the same type exactly if the name behind the
last schema marker does not follow after a blank; and whatever comes back the first time comes back
every time. -/
theorem ofName_name_ofName_iff (native : String) :
    (ofName (ofName native).name = ofName native ↔
      ∀ c r, afterLast? schemaMarker (spelled native) = some (' ' :: c :: r) → c = '(') ∧
    ofName (ofName (ofName native).name).name = ofName (ofName native).name := by
  constructor
  · rw [ofName_name_iff_head, Ne, head_normalize_iff]
    simp only [not_exists, not_and, not_not]
  · by_cases hkind : normalize native ∈ kindNames
    · rw [ofName_name_of_kind hkind]
      exact ofName_name_of_kind hkind
    · -- the name of a type that is no kind has been trimmed in front when it was read back
      rw [ofName_eq_other hkind, name, ofName_name_iff_head, normalize_normalize]
      intro hhead
      obtain ⟨r, hr⟩ := List.head?_eq_some_iff.mp hhead
      have hne : trimStart (normalize native).toList ≠ [] := by simp [hr]
      have hblank : isBlank ((trimStart (normalize native).toList).head hne) = false :=
        List.head_dropWhile_not isBlank hne
      simp only [hr, List.head_cons] at hblank
      cases hblank

/-- A blank behind the marker stays in front of the name, and is lost when the name is read. -/
theorem ofName_name_marked_blank :
    ofName "xmlschema# string" = .other " string" ∧ ofName " string" = .text ∧
      ¬∀ native, ofName (ofName native).name = ofName native := by
  have hmarked : ofName "xmlschema# string" = .other " string" := by decide +kernel
  have hblank : ofName " string" = .text := by decide +kernel
  refine ⟨hmarked, hblank, fun h => ?_⟩
  have hsame := h "xmlschema# string"
  rw [hmarked, name, hblank] at hsame
  cases hsame

end Causeway.SemanticType
