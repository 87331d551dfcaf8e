import Causeway.Relational.TableInfo
import Mathlib.Data.List.Nodup

/-!
# The names of tables

A table goes by its own name where its schema is implied, and elsewhere by both names with a dot between
them. So tables in different places come to one name in three ways (`TableInfo.className_eq_iff`).
-/

namespace Causeway.Relational

/-- What is behind the part that two schemas share is nothing, or a dot and more. -/
theorem dotted_cases {s n s' n' : String} {rest : List Char} (hs : s'.toList = s.toList ++ rest)
    (hn : '.' :: n.toList = rest ++ '.' :: n'.toList) :
    (s = s' ∧ n = n') ∨ ∃ between, s' = s ++ "." ++ between ∧ n = between ++ "." ++ n' := by
  cases rest with
  | nil =>
    rw [List.append_nil] at hs
    left
    exact ⟨String.toList_inj.mp hs.symm, String.toList_inj.mp (List.cons.inj hn).2⟩
  | cons dot between =>
    obtain ⟨rfl, hbetween⟩ := List.cons.inj hn
    right
    refine ⟨String.ofList between, ?_, ?_⟩
    · apply String.toList_inj.mp
      simp [hs]
    · apply String.toList_inj.mp
      simp [hbetween]

/-- A text is cut in two at dots in different ways only where it has more than one. -/
theorem dotted_eq_iff {s n s' n' : String} :
    s ++ "." ++ n = s' ++ "." ++ n' ↔
      (s = s' ∧ n = n') ∨ (∃ between, s = s' ++ "." ++ between ∧ n' = between ++ "." ++ n) ∨
        ∃ between, s' = s ++ "." ++ between ∧ n = between ++ "." ++ n' := by
  constructor
  · intro h
    have hlists : s.toList ++ '.' :: n.toList = s'.toList ++ '.' :: n'.toList := by
      simpa using congrArg String.toList h
    rcases List.append_eq_append_iff.mp hlists with ⟨rest, hs, hn⟩ | ⟨rest, hs, hn⟩
    · exact (dotted_cases hs hn).imp id .inr
    · refine (dotted_cases hs hn).imp ?_ .inl
      rintro ⟨hschema, hname⟩
      exact ⟨hschema.symm, hname.symm⟩
  · rintro (⟨rfl, rfl⟩ | ⟨between, rfl, rfl⟩ | ⟨between, rfl, rfl⟩)
    · rfl
    · simp only [String.append_assoc]
    · simp only [String.append_assoc]

namespace TableInfo

variable {t u : TableInfo} {e : Engine}

/-- Where a table is: its schema and its name. -/
def place (t : TableInfo) : String × String := (t.schema, t.name)

/-- How a table comes to the name of another. -/
inductive Clash (e : Engine) (t u : TableInfo) : Prop
  /-- The schemas of both are implied, and the tables in them have one name. -/
  | implied (ht : e.impliesSchema t.schema = true) (hu : e.impliesSchema u.schema = true)
      (hschema : t.schema ≠ u.schema) (hname : t.name = u.name)
  /-- The name of one table reads like the schema and the name of the other. -/
  | spelled (ht : e.impliesSchema t.schema = true) (hu : e.impliesSchema u.schema = false)
      (hname : t.name = u.schema ++ "." ++ u.name)
  /-- The schema of one table ends with what the name of the other begins with. -/
  | shifted (between : String) (ht : e.impliesSchema t.schema = false)
      (hu : e.impliesSchema u.schema = false) (hschema : t.schema = u.schema ++ "." ++ between)
      (hname : u.name = between ++ "." ++ t.name)

theorem className_of_implied (h : e.impliesSchema t.schema = true) : t.className e = t.name :=
  if_pos h

theorem className_of_not_implied (h : e.impliesSchema t.schema = false) :
    t.className e = t.schema ++ "." ++ t.name :=
  if_neg (by simp [h])

theorem Clash.className_eq (h : Clash e t u) : t.className e = u.className e := by
  cases h with
  | implied ht hu _ hname => rw [className_of_implied ht, className_of_implied hu, hname]
  | spelled ht hu hname => rw [className_of_implied ht, className_of_not_implied hu, hname]
  | shifted between ht hu hschema hname =>
    rw [className_of_not_implied ht, className_of_not_implied hu]
    exact dotted_eq_iff.mpr (.inr (.inl ⟨between, hschema, hname⟩))

theorem Clash.schema_ne (h : Clash e t u) : t.schema ≠ u.schema := by
  cases h with
  | implied _ _ hschema _ => exact hschema
  | spelled ht hu _ =>
    intro heq
    rw [heq, hu] at ht
    cases ht
  | shifted between _ _ hschema _ =>
    intro heq
    have hlength := congrArg String.length (heq.symm.trans hschema)
    have hdot : ".".length = 1 := rfl
    rw [String.length_append, String.length_append] at hlength
    omega

theorem className_eq_iff :
    t.className e = u.className e ↔ t.place = u.place ∨ Clash e t u ∨ Clash e u t := by
  constructor
  · intro h
    rw [place, place, Prod.mk.injEq]
    cases ht : e.impliesSchema t.schema <;> cases hu : e.impliesSchema u.schema
    case true.true =>
      rw [className_of_implied ht, className_of_implied hu] at h
      by_cases hschema : t.schema = u.schema
      · exact .inl ⟨hschema, h⟩
      · exact .inr (.inl (.implied ht hu hschema h))
    case true.false =>
      rw [className_of_implied ht, className_of_not_implied hu] at h
      exact .inr (.inl (.spelled ht hu h))
    case false.true =>
      rw [className_of_not_implied ht, className_of_implied hu] at h
      exact .inr (.inr (.spelled hu ht h.symm))
    case false.false =>
      rw [className_of_not_implied ht, className_of_not_implied hu] at h
      rcases dotted_eq_iff.mp h with hsame | ⟨between, hs, hn⟩ | ⟨between, hs, hn⟩
      · exact .inl hsame
      · exact .inr (.inl (.shifted between ht hu hs hn))
      · exact .inr (.inr (.shifted between hu ht hs hn))
  · rintro (h | h | h)
    · obtain ⟨hschema, hname⟩ := Prod.mk.inj h
      rw [className, className, hschema, hname]
    · exact h.className_eq
    · exact h.className_eq.symm

/-- Tables whose names have no dot clash only in different implied schemas. -/
theorem not_clash_of_no_dot (ht : '.' ∉ t.name.toList) (hu : '.' ∉ u.name.toList)
    (himplied : e.impliesSchema t.schema = true → e.impliesSchema u.schema = true →
      t.schema = u.schema) : ¬Clash e t u := by
  intro h
  cases h with
  | implied hti hui hschema _ => exact hschema (himplied hti hui)
  | spelled _ _ hname => exact ht (by simp [hname])
  | shifted between _ _ _ hname => exact hu (by simp [hname])

theorem nodup_className_iff {tables : List TableInfo} (hplaces : (tables.map place).Nodup) :
    (tables.map (·.className e)).Nodup ↔ ∀ t ∈ tables, ∀ u ∈ tables, ¬Clash e t u := by
  rw [List.nodup_map_iff_inj_on (List.Nodup.of_map place hplaces)]
  constructor
  · intro hnames t ht u hu hclash
    have heq : t = u := hnames t ht u hu hclash.className_eq
    exact hclash.schema_ne (congrArg TableInfo.schema heq)
  · intro hfree t ht u hu hname
    rcases className_eq_iff.mp hname with hplace | hclash | hclash
    · exact List.inj_on_of_nodup_map hplaces ht hu hplace
    · exact absurd hclash (hfree t ht u hu)
    · exact absurd hclash (hfree u hu t ht)

end TableInfo

end Causeway.Relational
