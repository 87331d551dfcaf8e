import Causeway.ElementId
import Causeway.Text.Blank

/-!
# What survives being embedded

An id that is decoded and encoded again stays the same, whichever native id it was made of. A record
id itself comes back exactly if it has one colon at most and no underscore in front of it, since the
first underscore is taken for the colon (`encode_round_trips`). Lists of ids are decoded up to the
first that is none of the data source.
-/

namespace Causeway

namespace Text

variable {c d : Char} {s : List Char}

theorem replaceChar_cons (c x : Char) (image s : List Char) :
    replaceChar c image (x :: s) = (if x = c then image else [x]) ++ replaceChar c image s :=
  List.flatMap_cons

theorem replaceChar_of_not_mem {image : List Char} (h : c ∉ s) : replaceChar c image s = s := by
  induction s with
  | nil => rfl
  | cons x s ih =>
    have hne : x ≠ c := fun heq => h (heq ▸ List.mem_cons_self)
    have hrest : c ∉ s := fun hmem => h (List.mem_cons_of_mem _ hmem)
    rw [replaceChar_cons, if_neg hne, ih hrest]
    rfl

theorem not_mem_replaceChar {image : List Char} (h : c ∉ image) (s : List Char) :
    c ∉ replaceChar c image s := by
  intro hmem
  obtain ⟨x, -, hx⟩ := List.mem_flatMap.mp hmem
  by_cases hxc : x = c
  · rw [if_pos hxc] at hx
    exact h hx
  · rw [if_neg hxc] at hx
    exact hxc (List.mem_singleton.mp hx).symm

/-- Where no `c` stands, one that is put in is taken out again. -/
theorem replaceChar_replaceFirst (h : c ∉ s) :
    replaceChar c [d] (replaceFirst d c s) = s := by
  induction s with
  | nil => rfl
  | cons x s ih =>
    have hxc : x ≠ c := fun heq => h (heq ▸ List.mem_cons_self)
    have hrest : c ∉ s := fun hmem => h (List.mem_cons_of_mem _ hmem)
    by_cases hxd : x = d
    · rw [replaceFirst, if_pos hxd, replaceChar_cons, if_pos rfl, replaceChar_of_not_mem hrest, hxd]
      rfl
    · rw [replaceFirst, if_neg hxd, replaceChar_cons, if_neg hxc, ih hrest]
      rfl

/-- Turning all `c` into `d` is undone at the first place only. -/
theorem replaceFirst_replaceChar_iff (hcd : c ≠ d) :
    replaceFirst d c (replaceChar c [d] s) = s ↔
      s.count c ≤ 1 ∧ d ∉ s.takeWhile fun x => x ≠ c := by
  induction s with
  | nil => simp [replaceChar, replaceFirst]
  | cons x s ih =>
    by_cases hxc : x = c
    · -- the first `c`: nothing behind it is restored
      subst hxc
      have hrestored : replaceFirst d x (replaceChar x [d] (x :: s)) =
          x :: replaceChar x [d] s := by
        rw [replaceChar_cons, if_pos rfl, List.singleton_append, replaceFirst, if_pos rfl]
      have hnone : replaceChar x [d] s = s ↔ x ∉ s := by
        constructor
        · intro heq
          rw [← heq]
          exact not_mem_replaceChar (by simpa using hcd) s
        · exact replaceChar_of_not_mem
      rw [hrestored, List.cons_inj_right, hnone, ← List.count_eq_zero]
      simp
    · have hkept : replaceChar c [d] (x :: s) = x :: replaceChar c [d] s := by
        rw [replaceChar_cons, if_neg hxc]
        rfl
      by_cases hxd : x = d
      · -- a `d` of the text itself is taken for a `c`
        subst hxd
        have hne : replaceFirst x c (replaceChar c [x] (x :: s)) ≠ x :: s := by
          rw [hkept, replaceFirst, if_pos rfl]
          exact fun heq => hcd (List.cons.inj heq).1
        simp [hne, hxc]
      · rw [hkept, replaceFirst, if_neg hxd, List.cons_inj_right, ih]
        simp [hxc, Ne.symm hxd]

theorem withoutStart?_append (start s : List Char) : withoutStart? start (start ++ s) = some s := by
  simp [withoutStart?]

end Text

namespace IdScheme

/-- A record id `#cluster:position` without further marks in it. -/
def IsRecordId (native : String) : Prop :=
  ∃ cluster position : List Char, native.toList = '#' :: cluster ++ ':' :: position ∧
    ':' ∉ cluster ∧ '_' ∉ cluster ∧ ':' ∉ position

/-- A mark, then a text with one colon at most, and with no underscore in front of the colon or, if
there is none, anywhere. -/
def IsRestorable (native : String) : Prop :=
  ∃ text : List Char, native.toList = '#' :: text ∧ text.count ':' ≤ 1 ∧
    '_' ∉ text.takeWhile fun x => x ≠ ':'

variable {ids : List String} {id native other : String} {scheme : IdScheme} {dataSource : Int}

theorem IsRecordId.isRestorable (h : IsRecordId native) : IsRestorable native := by
  obtain ⟨cluster, position, hnative, hcolon, hunderscore, hposition⟩ := h
  have hcount : (cluster ++ ':' :: position).count ':' = 1 := by
    rw [List.count_append, List.count_cons_self, List.count_eq_zero.mpr hcolon,
      List.count_eq_zero.mpr hposition]
  refine ⟨cluster ++ ':' :: position, hnative, Nat.le_of_eq hcount, ?_⟩
  have hcluster : ∀ x ∈ cluster, decide (x ≠ ':') = true := by
    intro x hx
    exact decide_eq_true fun heq => hcolon (heq ▸ hx)
  rw [List.takeWhile_append_of_pos hcluster, List.takeWhile_cons_of_neg (by simp), List.append_nil]
  exact hunderscore

/-! ### Embedding and restoring -/

/-- The text of a record id behind its mark, if it has one. -/
def unmarked : List Char → List Char
  | '#' :: text => text
  | text => text

theorem sanitizeChars_record (s : List Char) :
    record.sanitizeChars s = Text.replaceChar ':' ['_'] (unmarked s) := by
  unfold sanitizeChars unmarked
  split <;> simp_all

theorem sanitize_eq_empty_iff :
    scheme.sanitize native = "" ↔ scheme.sanitizeChars native.toList = [] := by
  rw [sanitize, String.ofList_eq_empty_iff]

theorem decode_encode_of_ne_empty (dataSource : Int) (h : scheme.sanitize native ≠ "") :
    scheme.decode dataSource (scheme.encode dataSource native) =
      .ok (scheme.restore (scheme.sanitize native)) := by
  rw [ne_eq, sanitize_eq_empty_iff] at h
  obtain ⟨c, r, hrest⟩ := List.exists_cons_of_ne_nil h
  unfold decode encode restore sanitize
  rw [String.toList_ofList, Text.withoutStart?_append, String.toList_ofList, hrest]

theorem decode_encode_of_empty (dataSource : Int) (h : scheme.sanitize native = "") :
    scheme.decode dataSource (scheme.encode dataSource native) =
      .error (.invalidId (scheme.encode dataSource native) dataSource) := by
  rw [sanitize_eq_empty_iff] at h
  unfold decode encode
  rw [String.toList_ofList, Text.withoutStart?_append, h]

/-- What was embedded once is embedded again as it was. -/
theorem sanitize_restore (scheme : IdScheme) (native : String) :
    scheme.sanitize (scheme.restore (scheme.sanitize native)) = scheme.sanitize native := by
  cases scheme with
  | verbatim => simp [sanitize, restore, sanitizeChars, restoreChars]
  | record =>
    have hcolon : ':' ∉ record.sanitizeChars native.toList := by
      rw [sanitizeChars_record]
      exact Text.not_mem_replaceChar (by decide) _
    have hagain : record.sanitizeChars (record.restoreChars (record.sanitizeChars native.toList)) =
        record.sanitizeChars native.toList :=
      Text.replaceChar_replaceFirst hcolon
    rw [sanitize, sanitize, restore, String.toList_ofList, String.toList_ofList, hagain]

theorem encode_restore (scheme : IdScheme) (dataSource : Int) (native : String) :
    scheme.encode dataSource (scheme.restore (scheme.sanitize native)) =
      scheme.encode dataSource native := by
  have hchars : ∀ n : String, scheme.encode dataSource n =
      String.ofList (start dataSource ++ (scheme.sanitize n).toList) := by
    intro n
    rw [encode, sanitize, String.toList_ofList]
  rw [hchars, hchars, sanitize_restore]

theorem restore_sanitize_verbatim (native : String) :
    verbatim.restore (verbatim.sanitize native) = native := by
  simp [sanitize, restore, sanitizeChars, restoreChars]

theorem restore_sanitize_record_iff :
    record.restore (record.sanitize native) = native ↔ IsRestorable native := by
  have hchars : (record.restore (record.sanitize native)).toList =
      '#' :: Text.replaceFirst '_' ':' (Text.replaceChar ':' ['_'] (unmarked native.toList)) := by
    rw [restore, sanitize, String.toList_ofList, String.toList_ofList, sanitizeChars_record]
    rfl
  rw [← String.toList_inj, hchars]
  constructor
  · intro heq
    -- the restored id begins with the mark, so the native one does
    have hmarked : native.toList = '#' :: unmarked native.toList := by
      rw [← heq]
      rfl
    refine ⟨unmarked native.toList, hmarked, ?_⟩
    rw [← Text.replaceFirst_replaceChar_iff (by decide)]
    rw [hmarked] at heq
    exact (List.cons.inj heq).2
  · rintro ⟨text, hnative, hcolons⟩
    rw [← Text.replaceFirst_replaceChar_iff (by decide)] at hcolons
    rw [hnative]
    exact congrArg _ hcolons

theorem decode_encode (dataSource : Int) (h : IsRecordId native) :
    record.decode dataSource (record.encode dataSource native) = .ok native := by
  have hrestored := restore_sanitize_record_iff.mpr h.isRestorable
  have hne : record.sanitize native ≠ "" := by
    intro hempty
    obtain ⟨cluster, position, hnative, -⟩ := h
    -- nothing but the mark embeds as nothing
    have hmark : native = "#" := by
      rw [← hrestored, hempty]
      rfl
    rw [hmark] at hnative
    simp at hnative
  rw [decode_encode_of_ne_empty dataSource hne, hrestored]

/-- A composite id has at least its underscore, which is not blank. -/
theorem isBlankText_encode (scheme : IdScheme) (dataSource : Int) (native : String) :
    Text.isBlankText (scheme.encode dataSource native) = false := by
  unfold Text.isBlankText Text.allBlank encode start
  rw [String.toList_ofList, List.all_append, List.all_append]
  have hunderscore : ['_'].all Text.isBlank = false := rfl
  rw [hunderscore, Bool.and_false, Bool.false_and]

theorem encode_ne_empty (scheme : IdScheme) (dataSource : Int) (native : String) :
    scheme.encode dataSource native ≠ "" := by
  intro hempty
  have hblank := isBlankText_encode scheme dataSource native
  rw [hempty] at hblank
  cases hblank

/-- Whether a native id comes back from its composite id. -/
def RoundTrips (scheme : IdScheme) (dataSource : Int) (native : String) : Prop :=
  scheme.decode dataSource (scheme.encode dataSource native) = .ok native

theorem RoundTrips.encode_inj (h : RoundTrips scheme dataSource native)
    (hother : RoundTrips scheme dataSource other) :
    scheme.encode dataSource native = scheme.encode dataSource other ↔ native = other := by
  constructor
  · intro heq
    unfold RoundTrips at h hother
    rw [heq, hother] at h
    exact (Except.ok.inj h).symm
  · intro heq
    rw [heq]

theorem encode_inj (h : IsRecordId native) (hother : IsRecordId other) :
    record.encode dataSource native = record.encode dataSource other ↔ native = other :=
  RoundTrips.encode_inj (decode_encode dataSource h) (decode_encode dataSource hother)

/-- Encoding what a composite id decodes to gives the id again. The native id itself comes back under
the verbatim scheme, and under the record scheme exactly if it is restorable; an id that embeds as
nothing is not decoded. Native ids that come back have ids of their own. -/
theorem encode_round_trips (dataSource : Int) (native : String) :
    (∀ scheme : IdScheme, scheme.sanitize native ≠ "" →
      ∃ restored, scheme.decode dataSource (scheme.encode dataSource native) = .ok restored ∧
        scheme.encode dataSource restored = scheme.encode dataSource native) ∧
    (verbatim.sanitize native ≠ "" → RoundTrips verbatim dataSource native) ∧
    (record.sanitize native ≠ "" →
      (RoundTrips record dataSource native ↔ IsRestorable native)) ∧
    (∀ scheme : IdScheme, scheme.sanitize native = "" →
      scheme.decode dataSource (scheme.encode dataSource native) =
        .error (.invalidId (scheme.encode dataSource native) dataSource)) ∧
    ∀ (scheme : IdScheme) (other : String), RoundTrips scheme dataSource native →
      RoundTrips scheme dataSource other →
      scheme.encode dataSource native = scheme.encode dataSource other → native = other := by
  refine ⟨?_, ?_, ?_, ?_, ?_⟩
  · intro scheme hne
    exact ⟨scheme.restore (scheme.sanitize native), decode_encode_of_ne_empty dataSource hne,
      encode_restore scheme dataSource native⟩
  · intro hne
    rw [RoundTrips, decode_encode_of_ne_empty dataSource hne, restore_sanitize_verbatim]
  · intro hne
    rw [RoundTrips, decode_encode_of_ne_empty dataSource hne, Except.ok.injEq,
      restore_sanitize_record_iff]
  · intro scheme hempty
    exact decode_encode_of_empty dataSource hempty
  · intro scheme other h hother
    exact (h.encode_inj hother).mp

/-! ### Lists of ids -/

theorem decode_error {e : Error} (h : scheme.decode dataSource id = .error e) :
    e = .invalidId id dataSource := by
  unfold decode at h
  split at h
  · cases h
  · exact (Except.error.inj h).symm

theorem decodeAll_cons (id : String) (ids : List String) :
    scheme.decodeAll dataSource (id :: ids) = (do
      let native ← scheme.decode dataSource id
      let rest ← scheme.decodeAll dataSource ids
      pure (native :: rest)) := by
  rw [decodeAll, List.mapM_cons]
  rfl

theorem decodeAll_of_ok (h : ∀ id ∈ ids, ∃ native, scheme.decode dataSource id = .ok native) :
    scheme.decodeAll dataSource ids =
      .ok (ids.filterMap fun id => (scheme.decode dataSource id).toOption) := by
  induction ids with
  | nil => rfl
  | cons id ids ih =>
    obtain ⟨native, hnative⟩ := h id List.mem_cons_self
    rw [decodeAll_cons, hnative, ih fun id hid => h id (List.mem_cons_of_mem _ hid)]
    simp [hnative, Except.toOption, bind, Except.bind, pure, Except.pure]

/-- The first id that cannot be decoded is the one complained about. -/
theorem decodeAll_of_find?
    (h : ids.find? (fun id => !(scheme.decode dataSource id).isOk) = some id) :
    scheme.decodeAll dataSource ids = .error (.invalidId id dataSource) := by
  induction ids with
  | nil => cases h
  | cons first ids ih =>
    rw [decodeAll_cons]
    cases hfirst : scheme.decode dataSource first with
    | error e =>
      rw [List.find?_cons_of_pos (by simp [hfirst, Except.isOk, Except.toBool])] at h
      obtain rfl : first = id := by simpa using h
      rw [decode_error hfirst]
      rfl
    | ok native =>
      rw [List.find?_cons_of_neg (by simp [hfirst, Except.isOk, Except.toBool])] at h
      rw [ih h]
      rfl

end IdScheme

end Causeway
